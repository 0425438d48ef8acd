import Pop3sf.Session

set_option autoImplicit false

/-!
# The command dispatcher (`ClientCommandHandler.py`)

`handle_command` looks the verb up in the table of the session's state
(AUTHORIZATION before a successful `PASS`, TRANSACTION after) and runs the
handler, which answers by raising a response; a verb missing from the table goes
to `_invalid_command`.  Each handler is translated with its argument checks and
messages.  The handlers take the arguments of the line; `cfg` and `A` are the
settings and the session's adapter.
-/

namespace Pop3sf

open SessionM SendDataToClientException

namespace ClientCommandHandler

variable {σ : Type} (cfg : Settings) (A : AdapterBase σ)

/-- `_check_argument_count`: `-ERR` unless the line has one of the expected numbers of
arguments. -/
def checkArgumentCount (args : List String) (expectedArgumentCounts : List Nat) :
    SessionM σ Unit :=
  if args.length ∉ expectedArgumentCounts then raise (err "Invalid argument count" none)
  else pure ()

/-- `_parse_message_number_argument_to_index`: the index of a message number that names
a message of the maildrop not marked as deleted. -/
def parseMessageNumberArgumentToIndex (messageNumber : String) : SessionM σ Int := do
  let some k := pyInt messageNumber
    | raise (err "Invalid message number (must be an integer)" none)
  let index := k - 1
  if index < 0 then raise (err "Invalid message number (out of range)" none)
  let count ← AdapterHelperWrapper.getMessageCount A
  if index ≥ count then raise (err "Invalid message number (out of range)" none)
  let marked ← AdapterHelperWrapper.isMessageMarkedAsDeleted A index
  if marked then raise (err "Invalid message number (message marked as deleted)" none)
  pure index

/-- `_parse_number_of_lines_argument`: a number of lines that is an integer, not
negative. -/
def parseNumberOfLinesArgument (numberOfLines : String) : SessionM σ Int := do
  let some n := pyInt numberOfLines
    | raise (err "Invalid number of lines (must be an integer)" none)
  if n < 0 then raise (err "Invalid number of lines (out of range)" none)
  pure n

/-- `_invalid_command`: counts the invalid command, and ends the session once there are
more than the limit allows. -/
def invalidCommand : SessionM σ Unit := do
  if 0 ≤ cfg.maxInvalidCommandsPerSession then
    modifyStatus fun st => { st with invalidCommandCount := st.invalidCommandCount + 1 }
    let st ← getStatus
    if (st.invalidCommandCount : Int) > cfg.maxInvalidCommandsPerSession then
      raise (err "Too many invalid commands" none).closeConnectionAfterSendingData
  raise (err "Invalid command" none)

/-- The capabilities `CAPA` lists before the read-only extension. -/
def capabilities : List String :=
  ["USER", "TOP", "UIDL", "RESP-CODES", "AUTH-RESP-CODE", "UTF8 USER", "LANG",
    "IMPLEMENTATION POP3SF"]

/-- `_command_capa`: the capabilities, the read-only extension if the adapter allows it. -/
def commandCapa (args : List String) : SessionM σ Unit := do
  checkArgumentCount args [0]
  let allowed ← AdapterHelperWrapper.readOnlyModeAllowed A
  let listed := if allowed then capabilities ++ ["X-POP3SF-READ-ONLY"] else capabilities
  raise (okMultiline "Listing all capabilities" (joinCrlf listed) false)

/-- `_command_quit_in_authorization_state`: ends the session. -/
def commandQuitInAuthorizationState (args : List String) : SessionM σ Unit := do
  checkArgumentCount args [0]
  raise (ok "Session is ending (nobody was logged in)").closeConnectionAfterSendingData

/-- `_command_quit_in_transaction_state`: commits the deletions and ends the session. -/
def commandQuitInTransactionState (args : List String) : SessionM σ Unit := do
  checkArgumentCount args [0]
  AdapterHelperWrapper.commitDeletions A
  raise (ok "Session is ending (an user was logged in)").closeConnectionAfterSendingData

/-- `_command_xpro`: switches to read-only mailbox access if the adapter allows it. -/
def commandXpro (args : List String) : SessionM σ Unit := do
  checkArgumentCount args [0]
  let allowed ← AdapterHelperWrapper.readOnlyModeAllowed A
  if !allowed then
    raise (err "Read-only mailbox access mode is not allowed" (some .xPop3sfReadOnly))
  modifyStatus fun st => { st with readOnlyMailboxAccess := true }
  raise (ok "Mailbox access mode switched to read-only")

/-- `_command_utf8`: the session's encoding becomes UTF-8. -/
def commandUtf8 (args : List String) : SessionM σ Unit := do
  checkArgumentCount args [0]
  modifyStatus fun st => { st with encoding := "utf-8" }
  raise (ok "UTF-8 support was enabled for this connection")

/-- `_command_lang`: lists the languages, or changes to English for `*` or `en`. -/
def commandLang (args : List String) : SessionM σ Unit := do
  checkArgumentCount args [0, 1]
  match args with
  | [] => raise (okMultiline "Listing all languages" (joinCrlf ["en English"]) false)
  | tag :: _ =>
    if tag = "*" ∨ tag = "en" then
      modifyStatus fun st => { st with customLanguage := some "en" }
      raise (ok "The response text language was changed to English")
    raise (err "Invalid language tag" none)

/-- `_command_noop`. -/
def commandNoop (args : List String) : SessionM σ Unit := do
  checkArgumentCount args [0]
  raise (ok "Nothing happened")

/-- `_command_user`: keeps the user name for `PASS`. -/
def commandUser (args : List String) : SessionM σ Unit := do
  checkArgumentCount args [1]
  modifyStatus fun st => { st with authorizationStateUsername := args.head? }
  raise (ok "Username accepted")

/-- `_command_pass`: no argument count is checked; the arguments are joined with
single spaces. -/
def commandPass (args : List String) : SessionM σ Unit := do
  let st ← getStatus
  let some username := st.authorizationStateUsername
    | raise (err "No username was sent using the USER command" (some .auth))
  let password := " ".intercalate args
  if password.isEmpty then raise (err "Empty password" (some .auth))
  let success ← AdapterHelperWrapper.verifyLoginCredentials cfg A username password
  if !success then raise (err "Incorrect username or password" (some .auth))
  authenticationSuccessful A username
  let st ← getStatus
  let response := if st.readOnlyMailboxAccess
    then "User successfully logged in" ++ " (read-only)" else "User successfully logged in"
  raise (ok response)

/-- `_command_stat`: the number of messages not marked as deleted and their total size. -/
def commandStat (args : List String) : SessionM σ Unit := do
  checkArgumentCount args [0]
  let messageCount ← AdapterHelperWrapper.getUndeletedMessageCount A
  let sizes ← AdapterHelperWrapper.getAllUndeletedMessagesSizes A
  let totalSize := sizes.foldl (fun carry item => carry + item.2) 0
  raise (okHumanUnreadable (toString messageCount ++ " " ++ toString totalSize))

/-- `_command_list`: the size of every message not marked as deleted, or of one. -/
def commandList (args : List String) : SessionM σ Unit := do
  checkArgumentCount args [0, 1]
  match args with
  | [] =>
    let sizes ← AdapterHelperWrapper.getAllUndeletedMessagesSizes A
    let listing := joinCrlf (sizes.map fun e => toString e.1 ++ " " ++ toString e.2)
    raise (okMultiline "Listing all messages' sizes" listing false)
  | messageNumber :: _ =>
    let index ← parseMessageNumberArgumentToIndex A messageNumber
    let messageSize ← AdapterHelperWrapper.getMessageSize A index
    raise (okHumanUnreadable
      (toString (convertIndexToMessageNumber index) ++ " " ++ toString messageSize))

/-- `_command_uidl`: the unique id of every message not marked as deleted, or of one. -/
def commandUidl (args : List String) : SessionM σ Unit := do
  checkArgumentCount args [0, 1]
  match args with
  | [] =>
    let uniqueIds ← AdapterHelperWrapper.getAllUndeletedMessagesUniqueIds A
    let listing := joinCrlf (uniqueIds.map fun e => toString e.1 ++ " " ++ e.2)
    raise (okMultiline "Listing all messages' unique IDs" listing false)
  | messageNumber :: _ =>
    let index ← parseMessageNumberArgumentToIndex A messageNumber
    let messageUniqueId ← AdapterHelperWrapper.getMessageUniqueId A index
    raise (okHumanUnreadable
      (toString (convertIndexToMessageNumber index) ++ " " ++ messageUniqueId))

/-- `_command_retr`: the content of one message. -/
def commandRetr (args : List String) : SessionM σ Unit := do
  checkArgumentCount args [1]
  let index ← parseMessageNumberArgumentToIndex A (args.headD "")
  let messageContent ← AdapterHelperWrapper.getMessageContent A index
  raise (okMultiline "Sending the message's content" messageContent false)

/-- `_command_top`: the headers and the first lines of the body of one message. -/
def commandTop (args : List String) : SessionM σ Unit := do
  checkArgumentCount args [2]
  let index ← parseMessageNumberArgumentToIndex A (args.headD "")
  let n ← parseNumberOfLinesArgument ((args.drop 1).headD "")
  let requestedMessageContent ←
    AdapterHelperWrapper.getHeadersAndFirstNLinesOfAMessage A index n.toNat
  raise (okMultiline "Sending the message's partial content" requestedMessageContent (n == 0))

/-- `_command_dele`: marks one message as deleted. -/
def commandDele (args : List String) : SessionM σ Unit := do
  checkArgumentCount args [1]
  let index ← parseMessageNumberArgumentToIndex A (args.headD "")
  AdapterHelperWrapper.markMessageAsDeleted A index
  raise (ok "The message was marked as deleted")

/-- `_command_rset`: unmarks every message marked as deleted. -/
def commandRset (args : List String) : SessionM σ Unit := do
  checkArgumentCount args [0]
  AdapterHelperWrapper.unmarkMessagesMarkedAsDeleted A
  raise (ok "Messages marked as deleted were unmarked")

/-- `_handle_authorization_state_command`: the table of the AUTHORIZATION state. -/
def handleAuthorizationStateCommand (command : String) (args : List String) :
    SessionM σ Unit :=
  match command with
  | "CAPA" => commandCapa A args
  | "QUIT" => commandQuitInAuthorizationState args
  | "XPRO" => commandXpro A args
  | "UTF8" => commandUtf8 args
  | "LANG" => commandLang args
  | "USER" => commandUser args
  | "PASS" => commandPass cfg A args
  | _ => invalidCommand cfg

/-- `_handle_transaction_state_command`: the table of the TRANSACTION state. -/
def handleTransactionStateCommand (command : String) (args : List String) :
    SessionM σ Unit :=
  match command with
  | "CAPA" => commandCapa A args
  | "LANG" => commandLang args
  | "NOOP" => commandNoop args
  | "QUIT" => commandQuitInTransactionState A args
  | "STAT" => commandStat A args
  | "LIST" => commandList A args
  | "UIDL" => commandUidl A args
  | "RETR" => commandRetr A args
  | "TOP" => commandTop A args
  | "DELE" => commandDele A args
  | "RSET" => commandRset A args
  | _ => invalidCommand cfg

/-- `handle_command`: the table of the state the session is in. -/
def handleCommand (command : String) (args : List String) : SessionM σ Unit := do
  let st ← getStatus
  if st.authenticated then handleTransactionStateCommand cfg A command args
  else handleAuthorizationStateCommand cfg A command args

end ClientCommandHandler

end Pop3sf
