import Mathlib.Data.List.Basic

set_option autoImplicit false

/-!
# Adapters (`adapters/AdapterBase.py`, `adapters/AdapterAuxiliaries.py`, `adapters/ListAdapter.py`)

An adapter is the pluggable message store behind a session.  The core sees it
only through the methods of `AdapterBase`, so an adapter is modelled as a state
machine over an arbitrary state type `σ`: every method takes the state and
either answers with a value and a new state, or raises.  Nothing is assumed of
the answers; a theorem that needs an adapter to behave (a constant message count,
deletion flags) says so as a hypothesis.

Every method may raise `AdapterCloseConnectionException`, and any other exception
escaping an adapter ends the session the same way (`ClientHandler` catches both in
`initialize_client_handler`), so `AdapterFault` only records which one it was.

`AdapterCall` names a call with its arguments; the session records every call it
makes, with the state it made it in, which is how facts about the calls of a
session are stated.

`AdapterLibrary` collects what the concrete adapters call from libraries (`bcrypt`,
`hashlib`, `email.mime`), as parameters.  `ListAdapter` is the adapter of the source
that keeps its messages in a list, each with a deletion flag.
-/

namespace Pop3sf

/-- Why an adapter call did not return. -/
inductive AdapterFault where
  /-- `AdapterCloseConnectionException` -/
  | closeConnection
  /-- any other exception -/
  | other
  deriving DecidableEq, Repr

/-- `AdapterBase`: the methods the core calls, over the adapter's state `σ`.
Indices and counts are Python integers. -/
structure AdapterBase (σ : Type) where
  connectionOpened : String → Nat → σ → Except AdapterFault (Unit × σ)
  readOnlyModeAllowed : σ → Except AdapterFault (Bool × σ)
  verifyLoginCredentials : String → String → σ → Except AdapterFault (Bool × σ)
  loginSuccessful : String → Bool → σ → Except AdapterFault (Unit × σ)
  getMessageCount : σ → Except AdapterFault (Int × σ)
  getMessageContent : Int → String → σ → Except AdapterFault (String × σ)
  getMessageUniqueId : Int → σ → Except AdapterFault (String × σ)
  isMessageMarkedAsDeleted : Int → σ → Except AdapterFault (Bool × σ)
  markMessageAsDeleted : Int → σ → Except AdapterFault (Unit × σ)
  unmarkMessagesMarkedAsDeleted : σ → Except AdapterFault (Unit × σ)
  commitDeletions : σ → Except AdapterFault (Unit × σ)
  connectionClosed : σ → Except AdapterFault (Unit × σ)

/-- A call of an adapter method, with its arguments. -/
inductive AdapterCall where
  | connectionOpened (clientAddress : String) (clientPort : Nat)
  | readOnlyModeAllowed
  | verifyLoginCredentials (username password : String)
  | loginSuccessful (username : String) (readOnly : Bool)
  | getMessageCount
  | getMessageContent (index : Int) (encoding : String)
  | getMessageUniqueId (index : Int)
  | isMessageMarkedAsDeleted (index : Int)
  | markMessageAsDeleted (index : Int)
  | unmarkMessagesMarkedAsDeleted
  | commitDeletions
  | connectionClosed
  deriving DecidableEq, Repr

/-- What a call answers with. -/
def AdapterCall.Answer : AdapterCall → Type
  | .readOnlyModeAllowed | .verifyLoginCredentials _ _ | .isMessageMarkedAsDeleted _ => Bool
  | .getMessageCount => Int
  | .getMessageContent _ _ | .getMessageUniqueId _ => String
  | _ => Unit

/-- The calls that change the deletion marks or ask for them, which a read-only
session never makes. -/
def AdapterCall.touchesDeletionMarks : AdapterCall → Bool
  | .isMessageMarkedAsDeleted _ | .markMessageAsDeleted _ | .unmarkMessagesMarkedAsDeleted
  | .commitDeletions => true
  | _ => false

/-- The calls that change the deletion marks: marking a message, unmarking all of them,
and deleting the marked ones. -/
def AdapterCall.changesDeletionMarks : AdapterCall → Bool
  | .markMessageAsDeleted _ | .unmarkMessagesMarkedAsDeleted | .commitDeletions => true
  | _ => false

/-- The calls `AdapterBase` allows only after `login_successful`. -/
def AdapterCall.needsLogin : AdapterCall → Bool
  | .getMessageCount | .getMessageContent _ _ | .getMessageUniqueId _
  | .isMessageMarkedAsDeleted _ | .markMessageAsDeleted _ | .unmarkMessagesMarkedAsDeleted
  | .commitDeletions => true
  | _ => false

theorem AdapterCall.touchesDeletionMarks_eq_false {call : AdapterCall}
    (h : call.needsLogin = false) : call.touchesDeletionMarks = false := by
  cases call <;> simp_all [touchesDeletionMarks, needsLogin]

/-- Make a call on an adapter: the method the call names, with its arguments. -/
def AdapterBase.invoke {σ : Type} (A : AdapterBase σ) :
    (c : AdapterCall) → σ → Except AdapterFault (c.Answer × σ)
  | .connectionOpened clientAddress clientPort => A.connectionOpened clientAddress clientPort
  | .readOnlyModeAllowed => A.readOnlyModeAllowed
  | .verifyLoginCredentials username password => A.verifyLoginCredentials username password
  | .loginSuccessful username readOnly => A.loginSuccessful username readOnly
  | .getMessageCount => A.getMessageCount
  | .getMessageContent index encoding => A.getMessageContent index encoding
  | .getMessageUniqueId index => A.getMessageUniqueId index
  | .isMessageMarkedAsDeleted index => A.isMessageMarkedAsDeleted index
  | .markMessageAsDeleted index => A.markMessageAsDeleted index
  | .unmarkMessagesMarkedAsDeleted => A.unmarkMessagesMarkedAsDeleted
  | .commitDeletions => A.commitDeletions
  | .connectionClosed => A.connectionClosed

/-- One call allowed by `allowed` that the adapter answers, from state `s` to `s'`; an
exception ends a sequence of calls. -/
def AdapterBase.CallStep {σ : Type} (A : AdapterBase σ) (allowed : AdapterCall → Prop)
    (s s' : σ) : Prop :=
  ∃ (call : AdapterCall) (a : call.Answer), allowed call ∧ A.invoke call s = .ok (a, s')

/-! ## `AdapterAuxiliaries` and the libraries the adapters call -/

/-- The library functions the adapters of the repository call, with `Date` the type of
the timestamps their messages carry (a file's `st_mtime`, a database `DATETIME`). -/
structure AdapterLibrary (Date : Type) where
  /-- `hashlib.sha256(s.encode("utf-8")).hexdigest()` -/
  sha256Hexdigest : String → String
  /-- `"{}".format(st_mtime)` -/
  formatEpoch : Date → String
  /-- `AdapterAuxiliaries.check_bcrypt_password`; `none` is the `ValueError` of a
  malformed hash -/
  checkBcryptPassword : String → String → Option Bool
  /-- `AdapterAuxiliaries.wrap_plaintext_in_email(body, subject, from_, to, date)`, with
  `date` the `time.struct_time` of the timestamp -/
  wrapPlaintextInEmail : String → String → String → String → Date → String

/-- `AdapterAuxiliaries.generate_from_to_email_address`. -/
def generateFromToEmailAddress (username : String) : String :=
  username ++ " <" ++ username ++ "@localhost>"

/-- `username == self._username and AdapterAuxiliaries.check_bcrypt_password(password,
self._password_bcrypt)`, the `verify_login_credentials` of both single-user adapters
built on a password hash: the password is checked only for the right user name. -/
def AdapterLibrary.verifySingleuserCredentials {Date : Type} (lib : AdapterLibrary Date)
    (username passwordBcrypt u password : String) : Except AdapterFault Bool :=
  if u = username then
    match lib.checkBcryptPassword password passwordBcrypt with
    | some b => .ok b
    | none => .error .other
  else .ok false

/-! ## `ListAdapter` -/

/-- `ListAdapter._Message`. -/
structure ListAdapterMessage where
  content : String
  markedAsDeleted : Bool
  deriving DecidableEq, Repr

/-- The state of a `ListAdapter` after construction: the credentials and the
message objects. -/
structure ListAdapter where
  username : String
  password : String
  messageObjects : List ListAdapterMessage
  deriving DecidableEq, Repr

/-- Python's `l[i]`: negative indices count from the end; `none` is `IndexError`. -/
def pyGet {α : Type} (l : List α) (i : Int) : Option α :=
  if 0 ≤ i then l.get? i.toNat
  else if -(l.length : Int) ≤ i then l.get? (l.length - i.natAbs)
  else none

/-- Python's `l[i] = x` on a list of messages, flag by flag. -/
def pySet {α : Type} (l : List α) (i : Int) (f : α → α) : Option (List α) :=
  if 0 ≤ i ∧ i < l.length then some (l.modify f i.toNat)
  else if -(l.length : Int) ≤ i ∧ i < 0 then some (l.modify f (l.length - i.natAbs))
  else none

/-- Changing one element in a way `g` does not see does not change `map g`. -/
theorem map_modify_of_comp {α β : Type} (g : α → β) (f : α → α)
    (hf : ∀ a, g (f a) = g a) (i : Nat) (l : List α) : (l.modify f i).map g = l.map g := by
  apply List.ext_getElem?
  intro j
  simp only [List.getElem?_map, List.getElem?_modify]
  cases l[j]? with
  | none => rfl
  | some a => by_cases h : i = j <;> simp [h, hf]

/-- Setting an element in a way `g` does not see does not change `map g`. -/
theorem map_pySet_of_comp {α β : Type} (g : α → β) {f : α → α} (hf : ∀ a, g (f a) = g a)
    {l l' : List α} {i : Int} (h : pySet l i f = some l') : l'.map g = l.map g := by
  unfold pySet at h
  split_ifs at h <;> cases h <;> exact map_modify_of_comp g f hf _ l

namespace ListAdapter

/-- `ListAdapter.__init__` with `wrap_plaintext_in_email=False`: one unmarked message
object per message. -/
def new (username password : String) (messages : List String) : ListAdapter :=
  ⟨username, password, messages.map fun body => ⟨body, false⟩⟩

/-- A `Option` read as an adapter answer: `none` is the `IndexError` of the list
access, which escapes the adapter. -/
def answer {α : Type} (s : ListAdapter) : Option α → Except AdapterFault (α × ListAdapter)
  | some a => .ok (a, s)
  | none => .error .other

/-- `ListAdapter` as an adapter.  Its unique id is the SHA-256 hex digest of the
content's UTF-8 bytes; `hashlib` is not part of the repository, so the digest
function is a parameter. -/
def adapter (sha256Hexdigest : String → String) : AdapterBase ListAdapter where
  connectionOpened _ _ s := .ok ((), s)
  readOnlyModeAllowed s := .ok (true, s)
  verifyLoginCredentials username password s :=
    .ok (username == s.username && password == s.password, s)
  loginSuccessful _ _ s := .ok ((), s)
  getMessageCount s := .ok (s.messageObjects.length, s)
  getMessageContent index _ s := answer s ((pyGet s.messageObjects index).map (·.content))
  getMessageUniqueId index s :=
    answer s ((pyGet s.messageObjects index).map (sha256Hexdigest ·.content))
  isMessageMarkedAsDeleted index s :=
    answer s ((pyGet s.messageObjects index).map (·.markedAsDeleted))
  markMessageAsDeleted index s :=
    match pySet s.messageObjects index (fun m => { m with markedAsDeleted := true }) with
    | some ms => .ok ((), { s with messageObjects := ms })
    | none => .error .other
  unmarkMessagesMarkedAsDeleted s :=
    .ok ((), { s with messageObjects := s.messageObjects.map ({ · with markedAsDeleted := false }) })
  commitDeletions s := .ok ((), s)
  connectionClosed s := .ok ((), s)

end ListAdapter

end Pop3sf
