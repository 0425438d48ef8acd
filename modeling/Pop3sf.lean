import Pop3sf.Exclusivity
import Pop3sf.Lines
import Pop3sf.Codec
import Pop3sf.Response
import Pop3sf.Adapter
import Pop3sf.Builtins
import Pop3sf.Session
import Pop3sf.Commands
import Pop3sf.Handler
import Pop3sf.Receiver
import Pop3sf.SessionInvariant
import Pop3sf.MessageIndex
import Pop3sf.Server
import Pop3sf.Retrieval
import Pop3sf.Answers
import Pop3sf.RateLimits
import Pop3sf.Maildrop
import Pop3sf.MaildropRefinement
import Pop3sf.ListAdapterConstructor
import Pop3sf.ConnectionLimit
import Pop3sf.Utf8Mode
import Pop3sf.Glob
import Pop3sf.DirectoryIndex
import Pop3sf.DirectoryAdapter
import Pop3sf.MySQLAdapter
import Pop3sf.DirectoryTools
import Pop3sf.MySQLTools
import Pop3sf.UserTable
import Pop3sf.DirectoryUsers
import Pop3sf.MySQLUsers
