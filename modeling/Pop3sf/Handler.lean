import Pop3sf.Commands

set_option autoImplicit false

/-!
# One connection (`ClientHandler.py`)

`initialize_client_handler` runs a session: the adapter's `connection_opened`, the
greeting, then one command line after another until a response asks to close the
connection or something fails, and in every case the teardown: close the socket,
call `connection_closed` (its exceptions are swallowed) and remove the connection
from the exclusivity registry.

A session is a `Session` (a phase and the `World`) and runs by `SessionStep`: its
own steps (`OwnStep`), interleaved with those of the other sessions.

* `opened`: `connection_opened`; an adapter exception skips straight to teardown;
* `line`: one line through `_parse_line_and_call_command_handler` and
  `_encode_and_send_data_to_client` (`processLine`);
* `dropped`: the loop ends for a reason outside the command code (a socket error
  or timeout, a failed send, invalid UTF-8, an overfull buffer, the peer closing);
* `tornDown`: the `finally` block;
* `interfered`: another session adds or removes its own registry entry.  Other
  sessions run concurrently and share the registry; their connection ids differ
  from this one's, since `POP3SF` draws ids from a counter.

The lines a session processes are any strings: the receiver's lines
(`Receiver.lean`) are one kind of string among them.
-/

namespace Pop3sf

open SessionM SendDataToClientException

namespace ClientHandler

/-- `_parse_command`: the upper-cased verb and the arguments, or the
`Empty command` response. -/
def parseCommand (line : String) : Except SendDataToClientException (String × List String) :=
  match pySplit (pyStrip line.data) with
  | verb :: args => .ok (String.mk (pyUpper verb), args.map fun a => String.mk (pyStrip a))
  | [] => .error (err "Empty command" none)

/-- The response `_encode_and_send_data_to_client` writes in place of one that does not
encode. -/
def nonAsciiSubstitute : SendDataToClientException :=
  err "The sent data contains a non-ASCII character (the UTF-8 mode is not enabled)" (some .utf8)

/-- `_encode_and_send_data_to_client`, up to the write: the bytes, or `none` when
even the `[UTF8]` substitute cannot be encoded (the `UnicodeEncodeError` then
escapes). -/
def encodeAndSendDataToClient (st : ClientStatusHolder) (e : SendDataToClientException) :
    Option (List UInt8) :=
  match e.buildMessage st.customLanguage st.encoding with
  | some bytes => some bytes
  | none => nonAsciiSubstitute.buildMessage st.customLanguage st.encoding

/-- How processing one line ends. -/
inductive LineOutcome where
  /-- the response was written; `close` if it asked to close the connection -/
  | sent (bytes : List UInt8) (close : Bool)
  /-- an adapter exception escaped -/
  | adapterFault (fault : AdapterFault)
  /-- any other exception escaped: `POP3SFRuntimeError` for a handler that returned,
  or a `UnicodeEncodeError` of the substitute response -/
  | unexpected
  deriving DecidableEq, Repr

/-- Write a response: the bytes and the close flag of the response itself. -/
def sendResponse {σ : Type} (w : World σ) (e : SendDataToClientException) : LineOutcome :=
  match encodeAndSendDataToClient w.status e with
  | some bytes => .sent bytes e.shouldCloseConnectionAfterSendingData
  | none => .unexpected

variable {σ : Type} (cfg : Settings) (A : AdapterBase σ)

/-- `_parse_line_and_call_command_handler` with the write that follows it. -/
def processLine (line : String) (w : World σ) : LineOutcome × World σ :=
  match parseCommand line with
  | .error e => (sendResponse w e, w)
  | .ok (command, args) =>
    match ClientCommandHandler.handleCommand cfg A command args w with
    | .ok () w' => (.unexpected, w')
    | .error (.send e) w' => (sendResponse w' e, w')
    | .error (.adapterFault fault) w' => (.adapterFault fault, w')

/-- Processing a line either leaves the world alone (an empty command) or runs a
command handler on it. -/
theorem processLine_world (line : String) (w : World σ) :
    (processLine cfg A line w).2 = w ∨ ∃ command args,
      (processLine cfg A line w).2 = World.after (ClientCommandHandler.handleCommand cfg A command args w) := by
  unfold processLine
  split
  · exact .inl rfl
  · rename_i command args _
    refine .inr ⟨command, args, ?_⟩
    split <;> simp only [World.after, *]

end ClientHandler

/-- Where a connection is in `initialize_client_handler`. -/
inductive Phase where
  /-- the adapter is constructed; `connection_opened` has not run -/
  | opening
  /-- greeted, reading command lines -/
  | serving
  /-- the loop has ended; the `finally` block has not run -/
  | closing
  /-- torn down -/
  | closed
  deriving DecidableEq, Repr

/-- A connection: its phase, its world, and the bytes written to it so far. -/
structure Session (σ : Type) where
  phase : Phase
  world : World σ
  sent : List (List UInt8)

/-- The greeting of `_send_greeting_to_client`. -/
def greeting : SendDataToClientException := ok "The POP3 server is ready (POP3SF)"

namespace Session

variable {σ : Type} (cfg : Settings) (A : AdapterBase σ)

/-- A connection whose adapter has just been constructed, with the registry as the
other sessions left it. -/
def initial (connectionInfo : ClientConnectionInfoHolder) (adapter : σ) (clients : List Client) :
    Session σ :=
  ⟨.opening, ⟨⟨ClientStatusHolder.new connectionInfo, adapter, clients⟩, []⟩, []⟩

/-- This connection's id. -/
def connectionId (s : Session σ) : Nat := s.world.status.connectionInfo.connectionId

/-- `connection_opened`, then the greeting. -/
def opened (s : Session σ) : Session σ :=
  match AdapterHelperWrapper.connectionOpened A s.world with
  | .ok () w =>
    match ClientHandler.encodeAndSendDataToClient w.status greeting with
    | some bytes => ⟨.serving, w, s.sent ++ [bytes]⟩
    | none => ⟨.closing, w, s.sent⟩
  | .error _ w => ⟨.closing, w, s.sent⟩

/-- One command line. -/
def serveLine (s : Session σ) (line : String) : Session σ :=
  match ClientHandler.processLine cfg A line s.world with
  | (.sent bytes close, w) => ⟨if close then .closing else .serving, w, s.sent ++ [bytes]⟩
  | (_, w) => ⟨.closing, w, s.sent⟩

/-- The session with the registry as the other connections left it. -/
def withClients (s : Session σ) (clients : List Client) : Session σ :=
  { s with world := { s.world with clients := clients } }

/-- The `finally` block: `connection_closed`, whatever it raises, then
`remove_client`. -/
def tornDown (s : Session σ) : Session σ :=
  let w := World.after (AdapterHelperWrapper.connectionClosed A s.world)
  ⟨.closed, { w with clients := removeClientLocked w.clients (connectionId s) }, s.sent⟩

theorem opened_world (s : Session σ) :
    (s.opened A).world = World.after (AdapterHelperWrapper.connectionOpened A s.world) := by
  unfold opened
  split
  · split <;> simp only [World.after, *]
  · simp only [World.after, *]

theorem opened_phase_ne_closed (s : Session σ) : (s.opened A).phase ≠ .closed := by
  unfold opened
  split
  · split <;> simp
  · simp

theorem serveLine_world (s : Session σ) (line : String) :
    (s.serveLine cfg A line).world = (ClientHandler.processLine cfg A line s.world).2 := by
  unfold serveLine
  split <;> simp only [*]

theorem serveLine_phase_ne_closed (s : Session σ) (line : String) :
    (s.serveLine cfg A line).phase ≠ .closed := by
  unfold serveLine
  split
  · split <;> simp
  · simp

end Session

/-- A registry call of another connection. -/
def RegistryCall.connectionId : RegistryCall → Nat
  | .addClient i _ _ => i
  | .removeClient i => i

/-- A registry call of another connection leaves this connection's entries alone. -/
theorem RegistryCall.filter_apply {call : RegistryCall} {i : Nat} (hne : call.connectionId ≠ i)
    (clients : List Client) :
    (call.apply clients).filter (fun c => c.connectionId == i) =
      clients.filter (fun c => c.connectionId == i) := by
  cases call with
  | addClient j u ro => exact filter_addClientLocked_of_ne u ro hne
  | removeClient j => exact (filter_removeClientLocked clients i j).trans (if_neg (Ne.symm hne))

/-- The steps a connection's own thread takes. -/
inductive OwnStep {σ : Type} (cfg : Settings) (A : AdapterBase σ) : Session σ → Session σ → Prop
  | opened (s : Session σ) : s.phase = .opening → OwnStep cfg A s (s.opened A)
  | line (s : Session σ) (line : String) :
      s.phase = .serving → OwnStep cfg A s (s.serveLine cfg A line)
  | dropped (s : Session σ) : s.phase = .serving → OwnStep cfg A s { s with phase := .closing }
  | tornDown (s : Session σ) : s.phase = .closing → OwnStep cfg A s (s.tornDown A)

/-- The steps of one connection, interleaved with the registry calls of the other
connections. -/
inductive SessionStep {σ : Type} (cfg : Settings) (A : AdapterBase σ) :
    Session σ → Session σ → Prop
  | own {s t : Session σ} : OwnStep cfg A s t → SessionStep cfg A s t
  | interfered (s : Session σ) (call : RegistryCall) :
      call.connectionId ≠ s.connectionId →
      SessionStep cfg A s (s.withClients (call.apply s.world.clients))

/-- The sessions reachable from a freshly constructed connection whose id no entry
of the registry carries. -/
inductive SessionReachable {σ : Type} (cfg : Settings) (A : AdapterBase σ) : Session σ → Prop
  | initial (connectionInfo : ClientConnectionInfoHolder) (adapter : σ) (clients : List Client) :
      (∀ c ∈ clients, c.connectionId ≠ connectionInfo.connectionId) →
      SessionReachable cfg A (Session.initial connectionInfo adapter clients)
  | step {s t : Session σ} : SessionReachable cfg A s → SessionStep cfg A s t →
      SessionReachable cfg A t

end Pop3sf
