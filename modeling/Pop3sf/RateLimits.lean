import Pop3sf.Answers

set_option autoImplicit false

/-!
# The two rate limits

`MAX_INVALID_PASSWORDS_PER_SESSION` and `MAX_INVALID_COMMANDS_PER_SESSION` bound what a
client may try in one session.  `_perform_invalid_password_punishments` counts every
`verify_login_credentials` that returned `False`, and once the count passes a limit that
is not negative it answers `-ERR [AUTH] Too many incorrect passwords` and closes the
connection; `_invalid_command`, which both state tables fall back to, does the same for
unknown or wrong-state verbs with `-ERR Too many invalid commands`.

A connection is driven by a schedule of events (`Session.Event`): its own steps and the
registry calls of the other connections, as `SessionStep` has them, so that the run of
every schedule is a run of the session (`Session.reachable_run`).  Along every schedule
from a fresh connection (`rate_limits`):

* with `p ≥ 0` at most `p + 1` credential checks fail, and the line whose check is the
  `(p+1)`-th failure is answered `Too many incorrect passwords` and closes the
  connection: no later line is served;
* with `q ≥ 0` at most `q` lines are answered `Invalid command`, the count of invalid
  commands is the number of served lines with an unknown or wrong-state verb, and the
  line that is the `(q+1)`-th of them is answered `Too many invalid commands` and closes
  the connection;
* with a negative limit, the answer of that limit that closes the connection is never
  given.

The per-line facts come from the traversal of the handlers in `Answers.lean`: which code
may raise the three answers (`Raised.Limited`) and how the counts move
(`World.Counted`); only `PASS` needs a closer look, to see that its one failed check
raises as soon as the count passes the limit (`commandPass_passwordLimit`).
-/

namespace Pop3sf

open SessionM SendDataToClientException

/-! ## The handlers and the counts -/

namespace ClientCommandHandler

variable {σ : Type} (cfg : Settings) (A : AdapterBase σ)

/-- A verb missing from the state's table goes to `_invalid_command`. -/
theorem handleCommand_of_not_mem {command : String} (args : List String) {w : World σ}
    (h : command ∉ stateVerbs w.status.authenticated) :
    handleCommand cfg A command args w = invalidCommand cfg w := by
  cases hauth : w.status.authenticated <;> rw [hauth] at h <;>
    simp only [handleCommand, bind, EStateM.bind, getStatus, hauth, Bool.false_eq_true, if_false,
      if_true]
  · unfold handleAuthorizationStateCommand
    split <;> simp_all [stateVerbs]
  · unfold handleTransactionStateCommand
    split <;> simp_all [stateVerbs]

/-- `PASS` before the login. -/
theorem handleCommand_pass (args : List String) {w : World σ}
    (h : w.status.authenticated = false) :
    handleCommand cfg A "PASS" args w = commandPass cfg A args w := by
  simp only [handleCommand, bind, EStateM.bind, getStatus, h, Bool.false_eq_true, if_false]
  rfl

/-- `_invalid_command`: with the limit not negative it counts the command, and answers
`Too many invalid commands` once the count is past the limit; otherwise it only answers
`Invalid command`. -/
theorem invalidCommand_eq (w : World σ) :
    invalidCommand cfg w =
      if 0 ≤ cfg.maxInvalidCommandsPerSession then
        .error (.send (if cfg.maxInvalidCommandsPerSession < (w.status.invalidCommandCount + 1 : Nat)
            then tooManyInvalidCommands else invalidCommandAnswer))
          { w with status := { w.status with
            invalidCommandCount := w.status.invalidCommandCount + 1 } }
      else .error (.send invalidCommandAnswer) w := by
  unfold invalidCommand
  split
  · simp only [bind, EStateM.bind, modifyStatus, getStatus]
    split <;> rfl
  · rfl

/-! ## `PASS` and the limit on invalid passwords -/

/-- `verify_login_credentials`, from a count within the limit: it returns with the count
still within it, or raises `Too many incorrect passwords` with the count one more. -/
theorem verifyLoginCredentials_passwordLimit (username password : String) {w : World σ}
    (hw : (w.status.invalidPasswordCount : Int) ≤ cfg.maxInvalidPasswordsPerSession) :
    wp (AdapterHelperWrapper.verifyLoginCredentials cfg A username password)
      (fun _ w' => (w'.status.invalidPasswordCount : Int) ≤ cfg.maxInvalidPasswordsPerSession)
      (fun r w' => (w'.status.invalidPasswordCount : Int) ≤ cfg.maxInvalidPasswordsPerSession ∨
        r = .send tooManyIncorrectPasswords ∧
          w'.status.invalidPasswordCount = w.status.invalidPasswordCount + 1) w := by
  rw [AdapterHelperWrapper.verifyLoginCredentials, wp_bind, wp_callAdapter]
  split
  · rename_i success _ _
    cases success
    · simp only [Bool.not_false, if_true, wp_bind, wp_pure]
      exact AdapterHelperWrapper.performInvalidPasswordPunishments_cases cfg _ _
        (fun _ => ⟨id, fun _ => .inr ⟨rfl, rfl⟩⟩) fun hp => absurd (by omega) hp
    · exact hw
  · exact .inl hw

/-- `PASS`, from a count within the limit: its one credential check is the only code
that moves the count, and it raises as soon as the count passes the limit. -/
theorem commandPass_passwordLimit (args : List String) {w : World σ}
    (hw : (w.status.invalidPasswordCount : Int) ≤ cfg.maxInvalidPasswordsPerSession) :
    wp (commandPass cfg A args) (fun _ _ => False)
      (fun r w' => (w'.status.invalidPasswordCount : Int) ≤ cfg.maxInvalidPasswordsPerSession ∨
        r = .send tooManyIncorrectPasswords ∧
          w'.status.invalidPasswordCount = w.status.invalidPasswordCount + 1) w := by
  rw [commandPass, wp_bind, wp_getStatus]
  split
  · rename_i username _
    simp only [wp_ite, wp_bind, wp_raise, wp_pure]
    split
    · exact .inl hw
    · refine wp_mono (fun success w₁ h₁ => ?_) (fun _ _ => id)
        (verifyLoginCredentials_passwordLimit cfg A username _ hw)
      -- what follows the check moves no count
      have hrest : Answers cfg A False False (do
          if !success then raise (err "Incorrect username or password" (some .auth))
          authenticationSuccessful A username
          let st ← getStatus
          raise (ok (if st.readOnlyMailboxAccess
            then "User successfully logged in" ++ " (read-only)" else "User successfully logged in")) :
            SessionM σ Unit) :=
        answers_ite_bind _ (steady_raise _ (.of_not_mem (by decide))) (steady_pure _) fun _ =>
          answers_authenticationSuccessful_bind cfg A username fun _ =>
            final_getStatus_bind fun _ => final_raise_ok rfl rfl rfl rfl (by split <;> decide)
      refine wp_mono (fun _ _ => False.elim) (fun _ _ h => ?_) (hrest w₁)
      exact .inl (h.2.1.invalidPasswordCount_eq ▸ h₁)
  · exact .inl hw

/-- Every handler, from a count within the limit: the count stays within it, or the
answer is `Too many incorrect passwords` with the count one more. -/
theorem handleCommand_passwordLimit (command : String) (args : List String) {w : World σ}
    (hw : (w.status.invalidPasswordCount : Int) ≤ cfg.maxInvalidPasswordsPerSession) :
    wp (handleCommand cfg A command args) (fun _ _ => False)
      (fun r w' => (w'.status.invalidPasswordCount : Int) ≤ cfg.maxInvalidPasswordsPerSession ∨
        r = .send tooManyIncorrectPasswords ∧
          w'.status.invalidPasswordCount = w.status.invalidPasswordCount + 1) w := by
  by_cases hpass : command = "PASS" ∧ w.status.authenticated = false
  · obtain ⟨rfl, hauth⟩ := hpass
    unfold wp
    rw [handleCommand_pass cfg A args hauth]
    exact commandPass_passwordLimit cfg A args hw
  · refine wp_mono (fun _ _ => False.elim) (fun _ _ h => .inl ?_)
      (handleCommand_answers cfg A command args w)
    rwa [(h.2.1.mono id fun hd => absurd hd hpass).invalidPasswordCount_eq]

end ClientCommandHandler

/-! ## What a line is answered with -/

/-- The response a raise answers with. -/
def Raised.response : Raised → Option SendDataToClientException
  | .send e => some e
  | .adapterFault _ => none

namespace ClientHandler

variable {σ : Type} (cfg : Settings) (A : AdapterBase σ)

/-- Whether a line's verb is missing from the table of the state: the lines
`_invalid_command` answers. -/
def hasUnknownVerb (line : String) (authenticated : Bool) : Bool :=
  match parseCommand line with
  | .ok (command, _) => decide (command ∉ stateVerbs authenticated)
  | .error _ => false

/-- The response a line is answered with: its parse error, or what its handler raised;
nothing when an adapter exception escaped. -/
def lineResponse (line : String) (w : World σ) : Option SendDataToClientException :=
  match parseCommand line with
  | .error e => some e
  | .ok (command, args) =>
    match ClientCommandHandler.handleCommand cfg A command args w with
    | .ok _ _ => none
    | .error r _ => r.response

theorem parseCommand_error {line : String} {e : SendDataToClientException}
    (h : parseCommand line = .error e) : e = err "Empty command" none := by
  unfold parseCommand at h
  split at h <;> simp_all

/-- A line that does not parse is answered with its parse error and changes nothing. -/
theorem processLine_of_parse_error {line : String} {e : SendDataToClientException}
    (hparse : parseCommand line = .error e) (w : World σ) :
    (processLine cfg A line w).2 = w ∧ lineResponse cfg A line w = some e := by
  simp [processLine, lineResponse, hparse]

/-- What a handler's `wp` says of the raise it ends with, said of the line. -/
theorem processLine_of_wp {line command : String} {args : List String}
    (hparse : parseCommand line = .ok (command, args)) {w : World σ}
    {E : Raised → World σ → Prop}
    (h : wp (ClientCommandHandler.handleCommand cfg A command args) (fun _ _ => False) E w) :
    ∃ r, E r (processLine cfg A line w).2 ∧ lineResponse cfg A line w = r.response := by
  unfold wp at h
  split at h
  · exact h.elim
  · rename_i r w' hw
    refine ⟨r, ?_, by simp [lineResponse, hparse, hw]⟩
    cases r <;> simpa [processLine, hparse, hw] using h

/-- A line is written as its response, in the world the handler left. -/
theorem processLine_of_lineResponse {line : String} {w : World σ} {e : SendDataToClientException}
    (h : lineResponse cfg A line w = some e) :
    (processLine cfg A line w).1 = sendResponse (processLine cfg A line w).2 e := by
  unfold lineResponse at h
  unfold processLine
  rcases hp : parseCommand line with e' | ⟨command, args⟩ <;> simp only [hp] at h ⊢
  · cases h; rfl
  · split at h
    · cases h
    · rename_i r w' hw
      cases r <;> simp_all [Raised.response]

/-- A line with no response writes nothing. -/
theorem processLine_of_lineResponse_none {line : String} {w : World σ}
    (h : lineResponse cfg A line w = none) (bytes : List UInt8) (close : Bool) :
    (processLine cfg A line w).1 ≠ .sent bytes close := by
  unfold lineResponse at h
  unfold processLine
  rcases hp : parseCommand line with e' | ⟨command, args⟩ <;> simp only [hp] at h ⊢
  · cases h
  · split at h
    · simp_all
    · rename_i r w' hw
      cases r <;> simp_all [Raised.response]

/-- The counts over one line: the count of invalid commands moves only for an unknown
verb, and the count of invalid passwords with the failed checks. -/
theorem processLine_counted (line : String) (w : World σ) :
    w.Counted cfg A (hasUnknownVerb line w.status.authenticated = true) True
      (processLine cfg A line w).2 := by
  rcases hp : parseCommand line with e | ⟨command, args⟩
  · rw [(processLine_of_parse_error cfg A hp w).1]
    exact .refl w
  · obtain ⟨r, h, -⟩ := processLine_of_wp cfg A hp
      (ClientCommandHandler.handleCommand_answers cfg A command args w)
    exact h.2.1.mono (fun hc => by simp [hasUnknownVerb, hp, hc]) fun _ => trivial

/-- From a count of invalid passwords within the limit, a line keeps it within, or is
answered `Too many incorrect passwords` with the count one more. -/
theorem processLine_passwordLimit (line : String) {w : World σ}
    (hw : (w.status.invalidPasswordCount : Int) ≤ cfg.maxInvalidPasswordsPerSession) :
    ((processLine cfg A line w).2.status.invalidPasswordCount : Int) ≤
        cfg.maxInvalidPasswordsPerSession ∨
      lineResponse cfg A line w = some tooManyIncorrectPasswords ∧
        (processLine cfg A line w).2.status.invalidPasswordCount =
          w.status.invalidPasswordCount + 1 := by
  rcases hp : parseCommand line with e | ⟨command, args⟩
  · rw [(processLine_of_parse_error cfg A hp w).1]
    exact .inl hw
  · obtain ⟨r, h | ⟨rfl, h⟩, hr⟩ := processLine_of_wp cfg A hp
      (ClientCommandHandler.handleCommand_passwordLimit cfg A command args hw)
    · exact .inl h
    · exact .inr ⟨hr, h⟩

/-- The rate-limit answers a line may get: `Invalid command` and `Too many invalid
commands` only for an unknown verb, the latter only with its limit not negative, and
`Too many incorrect passwords` only with its limit not negative. -/
theorem lineResponse_limited (line : String) (w : World σ) :
    (lineResponse cfg A line w = some invalidCommandAnswer →
      hasUnknownVerb line w.status.authenticated = true) ∧
    (lineResponse cfg A line w = some tooManyInvalidCommands →
      hasUnknownVerb line w.status.authenticated = true ∧ 0 ≤ cfg.maxInvalidCommandsPerSession) ∧
    (lineResponse cfg A line w = some tooManyIncorrectPasswords →
      0 ≤ cfg.maxInvalidPasswordsPerSession) := by
  rcases hp : parseCommand line with e | ⟨command, args⟩
  · rw [(processLine_of_parse_error cfg A hp w).2, parseCommand_error hp]
    exact ⟨fun h => absurd h (by decide), fun h => absurd h (by decide),
      fun h => absurd h (by decide)⟩
  · obtain ⟨r, h, hr⟩ := processLine_of_wp cfg A hp
      (ClientCommandHandler.handleCommand_answers cfg A command args w)
    have hunknown : command ∉ stateVerbs w.status.authenticated →
        hasUnknownVerb line w.status.authenticated = true := fun hc => by
      simp [hasUnknownVerb, hp, hc]
    rw [hr]
    cases r with
    | send e =>
      refine ⟨fun he => ?_, fun he => ?_, fun he => ?_⟩ <;> cases Option.some.inj he
      · exact hunknown (h.2.2.invalid rfl)
      · exact (h.2.2.tooManyCommands rfl).imp_left hunknown
      · exact (h.2.2.tooManyPasswords rfl).2
    | adapterFault fault => exact ⟨nofun, nofun, nofun⟩

/-- An unknown verb goes to `_invalid_command`: with the limit not negative it is
counted, and answered `Too many invalid commands` once the count is past the limit, else
`Invalid command`. -/
theorem processLine_of_hasUnknownVerb {line : String} {w : World σ}
    (h : hasUnknownVerb line w.status.authenticated = true) :
    lineResponse cfg A line w = some (if 0 ≤ cfg.maxInvalidCommandsPerSession ∧
        cfg.maxInvalidCommandsPerSession < (w.status.invalidCommandCount + 1 : Nat)
      then tooManyInvalidCommands else invalidCommandAnswer) ∧
    (processLine cfg A line w).2.status.invalidCommandCount =
      w.status.invalidCommandCount + if 0 ≤ cfg.maxInvalidCommandsPerSession then 1 else 0 := by
  unfold hasUnknownVerb at h
  rcases hp : parseCommand line with e | ⟨command, args⟩ <;> simp only [hp] at h
  · cases h
  · have hrun := (ClientCommandHandler.handleCommand_of_not_mem cfg A args (of_decide_eq_true h)).trans
      (ClientCommandHandler.invalidCommand_eq cfg w)
    simp only [lineResponse, processLine, hp, hrun]
    by_cases hq : 0 ≤ cfg.maxInvalidCommandsPerSession <;>
      by_cases hlt : cfg.maxInvalidCommandsPerSession < (w.status.invalidCommandCount + 1 : Nat) <;>
      simp [hq, hlt, Raised.response]

/-- The count of invalid commands over one line: one more for an unknown verb when the
limit is not negative, the same otherwise. -/
theorem processLine_invalidCommandCount (line : String) (w : World σ) :
    (processLine cfg A line w).2.status.invalidCommandCount = w.status.invalidCommandCount +
      if hasUnknownVerb line w.status.authenticated = true ∧ 0 ≤ cfg.maxInvalidCommandsPerSession
      then 1 else 0 := by
  by_cases hu : hasUnknownVerb line w.status.authenticated = true
  · rw [(processLine_of_hasUnknownVerb cfg A hu).2]
    by_cases hq : 0 ≤ cfg.maxInvalidCommandsPerSession <;> simp [hu, hq]
  · rw [((processLine_counted cfg A line w).mono hu.elim id).invalidCommandCount_eq]
    simp [hu]

/-- A line answered `Invalid command` was counted, and the count stayed within the
limit. -/
theorem invalidCommandCount_of_invalidCommandAnswer {line : String} {w : World σ}
    (h : lineResponse cfg A line w = some invalidCommandAnswer)
    (hq : 0 ≤ cfg.maxInvalidCommandsPerSession) :
    (processLine cfg A line w).2.status.invalidCommandCount = w.status.invalidCommandCount + 1 ∧
      (w.status.invalidCommandCount + 1 : Int) ≤ cfg.maxInvalidCommandsPerSession := by
  have hu := (lineResponse_limited cfg A line w).1 h
  obtain ⟨hr, hc⟩ := processLine_of_hasUnknownVerb cfg A hu
  rw [h] at hr
  refine ⟨by simp [hc, hq], ?_⟩
  split at hr
  · exact absurd (Option.some.inj hr) (by decide)
  · push_cast at *
    omega

/-- A response that closes the connection and encodes is written, with the close flag. -/
theorem sendResponse_of_buildMessage {w : World σ} {e : SendDataToClientException}
    {bytes : List UInt8} (h : e.buildMessage w.status.customLanguage w.status.encoding = some bytes) :
    sendResponse w e = .sent bytes e.shouldCloseConnectionAfterSendingData := by
  simp [sendResponse, encodeAndSendDataToClient, h]

end ClientHandler

/-- A single-line response with an ASCII text before the tag is encoded under the
languages a session uses. -/
theorem buildMessage_isSome_of_language {e : SendDataToClientException}
    (hm : e.messageMultiline = none) (hh : e.isMessageHumanReadable = true)
    (hlead : ∀ c ∈ (if e.success then "+OK " else "-ERR ").data ++
      (e.pop3ResponseCode.map fun code => ("[" ++ code.value ++ "] ").data).getD [],
      c.toNat < 0x80)
    (hmessage : ∀ c ∈ e.message.data, c.toNat < 0x80) {language : Option String}
    (hlanguage : language = none ∨ language = some "en") (encoding : String) :
    (e.buildMessage language encoding).isSome := by
  rw [Option.isSome_iff_ne_none, Ne, buildMessage_eq_none_iff hm hh hlead hmessage]
  rcases hlanguage with rfl | rfl <;> rw [encodeWith_ascii encoding (by decide)] <;> simp

/-! ## A connection driven by events -/

/-- What can happen to a connection next: a step of its own thread, or a registry call
of another connection. -/
inductive Session.Event where
  | opened
  | line (line : String)
  | dropped
  | tornDown
  | interfered (call : RegistryCall)

namespace Session

variable {σ : Type} (cfg : Settings) (A : AdapterBase σ)

/-- One event: the step it names when the phase allows it, else nothing. -/
def perform (s : Session σ) : Event → Session σ
  | .opened => if s.phase = .opening then s.opened A else s
  | .line line => if s.phase = .serving then s.serveLine cfg A line else s
  | .dropped => if s.phase = .serving then { s with phase := .closing } else s
  | .tornDown => if s.phase = .closing then s.tornDown A else s
  | .interfered call =>
    if call.connectionId ≠ s.connectionId then s.withClients (call.apply s.world.clients) else s

/-- A schedule of events, in order. -/
def run (s : Session σ) (events : List Event) : Session σ :=
  events.foldl (perform cfg A) s

/-- The line an event has the session serve, with the world it is read in. -/
def servedBy (s : Session σ) : Event → List (String × World σ)
  | .line line => if s.phase = .serving then [(line, s.world)] else []
  | _ => []

/-- The lines a schedule has the session serve, in order, each with the world it is
read in. -/
def served : Session σ → List Event → List (String × World σ)
  | _, [] => []
  | s, e :: es => s.servedBy e ++ served (s.perform cfg A e) es

/-- The responses of the lines a schedule has the session serve. -/
def answers (s : Session σ) (events : List Event) : List SendDataToClientException :=
  (s.served cfg A events).filterMap fun p => ClientHandler.lineResponse cfg A p.1 p.2

/-- Before the loop has ended: opening or serving. -/
def Live (s : Session σ) : Prop := s.phase = .opening ∨ s.phase = .serving

/-- A line of `s` answered `e`, written as its encoding in the state the line left,
after which the connection is closing. -/
def ClosedWith (s t : Session σ) (e : SendDataToClientException) : Prop :=
  ∃ bytes, e.buildMessage t.world.status.customLanguage t.world.status.encoding = some bytes ∧
    t.sent = s.sent ++ [bytes] ∧ t.phase = .closing

variable {cfg A}

@[simp] theorem run_nil (s : Session σ) : s.run cfg A [] = s := rfl

@[simp] theorem run_cons (s : Session σ) (e : Event) (es : List Event) :
    s.run cfg A (e :: es) = (s.perform cfg A e).run cfg A es := rfl

theorem run_append (s : Session σ) (es es' : List Event) :
    s.run cfg A (es ++ es') = (s.run cfg A es).run cfg A es' :=
  List.foldl_append _ _ _ _

theorem served_append (s : Session σ) (es es' : List Event) :
    s.served cfg A (es ++ es') = s.served cfg A es ++ (s.run cfg A es).served cfg A es' := by
  induction es generalizing s with
  | nil => rfl
  | cons e es ih => simp [served, ih]

theorem mem_answers {s : Session σ} {events : List Event} {e : SendDataToClientException}
    (h : e ∈ s.answers cfg A events) :
    ∃ p ∈ s.served cfg A events, ClientHandler.lineResponse cfg A p.1 p.2 = some e :=
  List.mem_filterMap.mp h

variable (cfg A) in
/-- What one event does: it serves a line, or it moves no count, serves nothing and
never makes the session live again. -/
theorem perform_cases (s : Session σ) (e : Event) :
    (∃ line, e = .line line ∧ s.phase = .serving ∧ s.perform cfg A e = s.serveLine cfg A line ∧
      s.servedBy e = [(line, s.world)]) ∨
    (s.world.Counted cfg A False False (s.perform cfg A e).world ∧
      ((s.perform cfg A e).Live → s.Live) ∧ s.servedBy e = []) := by
  have hafter : ∀ m : SessionM σ Unit, Silent cfg A m →
      s.world.Counted cfg A False False (World.after (m s.world)) := fun m hm =>
    wp_after (wp_mono (fun _ _ => id) (fun _ _ h => h.2) (hm s.world))
  cases e with
  | opened =>
    by_cases hph : s.phase = .opening
    · rw [perform, if_pos hph, opened_world]
      exact .inr ⟨hafter _ (silent_getStatus_bind fun _ => silent_callAdapter fun _ => by rfl),
        fun _ => .inl hph, rfl⟩
    · rw [perform, if_neg hph]
      exact .inr ⟨.refl _, id, rfl⟩
  | line line =>
    by_cases hph : s.phase = .serving
    · exact .inl ⟨line, rfl, hph, if_pos hph, if_pos hph⟩
    · rw [perform, servedBy, if_neg hph, if_neg hph]
      exact .inr ⟨.refl _, id, rfl⟩
  | dropped =>
    by_cases hph : s.phase = .serving
    · rw [perform, if_pos hph]
      exact .inr ⟨.refl _, fun _ => .inr hph, rfl⟩
    · rw [perform, if_neg hph]
      exact .inr ⟨.refl _, id, rfl⟩
  | tornDown =>
    by_cases hph : s.phase = .closing
    · rw [perform, if_pos hph]
      exact .inr ⟨(hafter (AdapterHelperWrapper.connectionClosed A)
        (silent_callAdapter fun _ => rfl)).withClients _, fun h => by simp [Live, tornDown] at h, rfl⟩
    · rw [perform, if_neg hph]
      exact .inr ⟨.refl _, id, rfl⟩
  | interfered call =>
    by_cases hc : call.connectionId ≠ s.connectionId
    · rw [perform, if_pos hc]
      exact .inr ⟨(World.Counted.refl s.world).withClients _, id, rfl⟩
    · rw [perform, if_neg hc]
      exact .inr ⟨.refl _, id, rfl⟩

/-- Every event is a step of the session, or does nothing. -/
theorem perform_step (s : Session σ) (e : Event) :
    s.perform cfg A e = s ∨ SessionStep cfg A s (s.perform cfg A e) := by
  cases e with
  | opened =>
    by_cases hph : s.phase = .opening
    · rw [perform, if_pos hph]
      exact .inr (.own (.opened s hph))
    · exact .inl (if_neg hph)
  | line line =>
    by_cases hph : s.phase = .serving
    · rw [perform, if_pos hph]
      exact .inr (.own (.line s line hph))
    · exact .inl (if_neg hph)
  | dropped =>
    by_cases hph : s.phase = .serving
    · rw [perform, if_pos hph]
      exact .inr (.own (.dropped s hph))
    · exact .inl (if_neg hph)
  | tornDown =>
    by_cases hph : s.phase = .closing
    · rw [perform, if_pos hph]
      exact .inr (.own (.tornDown s hph))
    · exact .inl (if_neg hph)
  | interfered call =>
    by_cases hne : call.connectionId ≠ s.connectionId
    · rw [perform, if_pos hne]
      exact .inr (.interfered s call hne)
    · exact .inl (if_neg hne)

theorem reachable_run {s : Session σ} (hs : SessionReachable cfg A s) (events : List Event) :
    SessionReachable cfg A (s.run cfg A events) := by
  induction events generalizing s with
  | nil => exact hs
  | cons e es ih =>
    refine ih ?_
    rcases perform_step s e with h | h
    · rwa [h]
    · exact .step hs h

/-! ## The counts along a run -/

/-- A line that ends the session live was answered with a response that does not close
the connection. -/
theorem serveLine_live {s : Session σ} {line : String} (h : (s.serveLine cfg A line).Live) :
    ∃ e, ClientHandler.lineResponse cfg A line s.world = some e ∧
      e.shouldCloseConnectionAfterSendingData = false := by
  obtain ⟨bytes, hsent⟩ :
      ∃ bytes, (ClientHandler.processLine cfg A line s.world).1 = .sent bytes false := by
    unfold serveLine at h
    split at h
    · rename_i bytes close w hp
      cases close
      · exact ⟨bytes, by rw [hp]⟩
      · simp [Live] at h
    · simp [Live] at h
  cases hr : ClientHandler.lineResponse cfg A line s.world with
  | none => exact absurd hsent (ClientHandler.processLine_of_lineResponse_none cfg A hr _ _)
  | some e =>
    rw [ClientHandler.processLine_of_lineResponse cfg A hr, ClientHandler.sendResponse] at hsent
    split at hsent
    · exact ⟨e, rfl, (ClientHandler.LineOutcome.sent.inj hsent).2⟩
    · cases hsent

/-- A line written in full: the session gains its bytes and closes if it asked to. -/
theorem serveLine_of_sent {s : Session σ} {line : String} {bytes : List UInt8} {close : Bool}
    (h : (ClientHandler.processLine cfg A line s.world).1 = .sent bytes close) :
    s.serveLine cfg A line =
      ⟨if close then .closing else .serving, (ClientHandler.processLine cfg A line s.world).2,
        s.sent ++ [bytes]⟩ := by
  unfold serveLine
  rcases hp : ClientHandler.processLine cfg A line s.world with ⟨o, w⟩
  simp only [hp] at h ⊢
  subst h
  rfl

/-- A line of a live session answered with a single-line ASCII response that closes the
connection: the response is written and the connection is closing. -/
theorem serveLine_closedWith {s : Session σ} (hs : SessionReachable cfg A s)
    (hph : s.phase = .serving) {line : String} {e : SendDataToClientException}
    (hr : ClientHandler.lineResponse cfg A line s.world = some e)
    (hclose : e.shouldCloseConnectionAfterSendingData = true) (hm : e.messageMultiline = none)
    (hh : e.isMessageHumanReadable = true)
    (hlead : ∀ c ∈ (if e.success then "+OK " else "-ERR ").data ++
      (e.pop3ResponseCode.map fun code => ("[" ++ code.value ++ "] ").data).getD [],
      c.toNat < 0x80)
    (hmessage : ∀ c ∈ e.message.data, c.toNat < 0x80) :
    s.ClosedWith (s.serveLine cfg A line) e := by
  have ht : SessionReachable cfg A (s.serveLine cfg A line) := .step hs (.own (.line s line hph))
  have hlanguage :=
    (ht.invariant.consistent (serveLine_phase_ne_closed cfg A s line)).customLanguage_mem
  rw [serveLine_world] at hlanguage
  obtain ⟨bytes, hbytes⟩ := Option.isSome_iff_exists.mp
    (buildMessage_isSome_of_language hm hh hlead hmessage hlanguage
      (ClientHandler.processLine cfg A line s.world).2.status.encoding)
  have hsent := (ClientHandler.processLine_of_lineResponse cfg A hr).trans
    (ClientHandler.sendResponse_of_buildMessage hbytes)
  rw [hclose] at hsent
  rw [serveLine_of_sent hsent]
  exact ⟨bytes, hbytes, rfl, rfl⟩

/-- Once the loop has ended no line is served. -/
theorem served_of_not_live {s : Session σ} (h : ¬ s.Live) (events : List Event) :
    s.served cfg A events = [] := by
  induction events generalizing s with
  | nil => rfl
  | cons e es ih =>
    rcases perform_cases cfg A s e with ⟨_, -, hph, -⟩ | ⟨-, hlive, hserved⟩
    · exact absurd (.inr hph) h
    · simp [served, hserved, ih (mt hlive h)]

/-- After a line that closed the connection no line is served. -/
theorem ClosedWith.served_eq_nil {s t : Session σ} {e : SendDataToClientException}
    (h : s.ClosedWith t e) (later : List Event) : t.served cfg A later = [] := by
  obtain ⟨_, _, _, hph⟩ := h
  exact served_of_not_live (by simp [Live, hph]) later

variable (cfg A) in
/-- The counts of a session against the two limits: the count of invalid passwords is
the number of failed credential checks when its limit is not negative, and zero
otherwise; it is at most one past its limit, and within it while the session is live;
the count of invalid commands is within its limit while the session is live. -/
structure WithinLimits (s : Session σ) : Prop where
  invalidPasswordCount : s.world.status.invalidPasswordCount =
    if 0 ≤ cfg.maxInvalidPasswordsPerSession then failedCredentialChecks A s.world.calls else 0
  passwords : 0 ≤ cfg.maxInvalidPasswordsPerSession →
    (s.world.status.invalidPasswordCount : Int) ≤ cfg.maxInvalidPasswordsPerSession + 1
  passwordsLive : 0 ≤ cfg.maxInvalidPasswordsPerSession → s.Live →
    (s.world.status.invalidPasswordCount : Int) ≤ cfg.maxInvalidPasswordsPerSession
  commandsLive : 0 ≤ cfg.maxInvalidCommandsPerSession → s.Live →
    (s.world.status.invalidCommandCount : Int) ≤ cfg.maxInvalidCommandsPerSession

namespace WithinLimits

/-- A session that has made no call and counted nothing. -/
theorem of_fresh {s : Session σ} (hcalls : s.world.calls = [])
    (hcommands : s.world.status.invalidCommandCount = 0)
    (hpasswords : s.world.status.invalidPasswordCount = 0) : s.WithinLimits cfg A where
  invalidPasswordCount := by simp [hcalls, hpasswords, failedCredentialChecks]
  passwords hp := by rw [hpasswords]; omega
  passwordsLive hp _ := by rw [hpasswords]; exact_mod_cast hp
  commandsLive hq _ := by rw [hcommands]; exact_mod_cast hq

/-- A step that moves no count and never makes the session live again. -/
theorem of_counted {s t : Session σ} (h : s.WithinLimits cfg A)
    (hc : s.world.Counted cfg A False False t.world) (hlive : t.Live → s.Live) :
    t.WithinLimits cfg A where
  invalidPasswordCount := by
    rw [hc.invalidPasswordCount_eq, hc.failedCredentialChecks_calls, hc.failedChecks_eq_zero]
    exact h.invalidPasswordCount
  passwords hp := hc.invalidPasswordCount_eq ▸ h.passwords hp
  passwordsLive hp ht := hc.invalidPasswordCount_eq ▸ h.passwordsLive hp (hlive ht)
  commandsLive hq ht := hc.invalidCommandCount_eq ▸ h.commandsLive hq (hlive ht)

/-- A line served keeps the counts within the limits: a count is past its limit only
when the line was answered with the response that closes the connection. -/
theorem serveLine {s : Session σ} (h : s.WithinLimits cfg A) (hph : s.phase = .serving)
    (line : String) : (s.serveLine cfg A line).WithinLimits cfg A := by
  have hlive : s.Live := .inr hph
  have hc := ClientHandler.processLine_counted cfg A line s.world
  refine ⟨?_, fun hp => ?_, fun hp ht => ?_, fun hq ht => ?_⟩ <;> rw [serveLine_world]
  · rw [hc.invalidPasswordCount, hc.failedCredentialChecks_calls, h.invalidPasswordCount]
    split <;> omega
  · rcases ClientHandler.processLine_passwordLimit cfg A line (h.passwordsLive hp hlive) with
      hle | ⟨_, heq⟩
    · omega
    · have := h.passwordsLive hp hlive
      omega
  · rcases ClientHandler.processLine_passwordLimit cfg A line (h.passwordsLive hp hlive) with
      hle | ⟨hr, -⟩
    · exact hle
    · obtain ⟨e, he, hclose⟩ := serveLine_live ht
      rw [hr] at he
      cases Option.some.inj he
      cases hclose
  · rw [ClientHandler.processLine_invalidCommandCount]
    split
    · rename_i hu
      obtain ⟨e, he, hclose⟩ := serveLine_live ht
      rw [(ClientHandler.processLine_of_hasUnknownVerb cfg A hu.1).1] at he
      split at he
      · cases Option.some.inj he
        cases hclose
      · push_cast at *
        omega
    · simpa using h.commandsLive hq hlive

theorem perform {s : Session σ} (h : s.WithinLimits cfg A) (e : Event) :
    (s.perform cfg A e).WithinLimits cfg A := by
  rcases perform_cases cfg A s e with ⟨line, -, hph, heq, -⟩ | ⟨hc, hlive, -⟩
  · rw [heq]
    exact h.serveLine hph line
  · exact h.of_counted hc hlive

theorem run {s : Session σ} (h : s.WithinLimits cfg A) (events : List Event) :
    (s.run cfg A events).WithinLimits cfg A := by
  induction events generalizing s with
  | nil => exact h
  | cons e es ih => exact ih (h.perform e)

end WithinLimits

/-- A session that has not been opened yet has made no call and counted nothing: only
the registry may have moved since it was constructed. -/
theorem fresh_of_opening {s : Session σ} (hs : SessionReachable cfg A s) (hph : s.phase = .opening) :
    s.world.calls = [] ∧ s.world.status.invalidCommandCount = 0 ∧
      s.world.status.invalidPasswordCount = 0 := by
  induction hs with
  | initial => exact ⟨rfl, rfl, rfl⟩
  | step _ hstep ih =>
    cases hstep with
    | own h =>
      cases h with
      | opened =>
        unfold Session.opened at hph
        split at hph <;> (try split at hph) <;> cases hph
      | line s line =>
        unfold serveLine at hph
        split at hph <;> (try split at hph) <;> cases hph
      | dropped => cases hph
      | tornDown => cases hph
    | interfered => exact ih hph

/-! ## Counting the lines of a run -/

/-- With its limit not negative, the count of invalid commands grows by the served lines
with an unknown verb. -/
theorem run_invalidCommandCount (hq : 0 ≤ cfg.maxInvalidCommandsPerSession) (s : Session σ)
    (events : List Event) :
    (s.run cfg A events).world.status.invalidCommandCount = s.world.status.invalidCommandCount +
      (s.served cfg A events).countP fun p => ClientHandler.hasUnknownVerb p.1 p.2.status.authenticated := by
  induction events generalizing s with
  | nil => rfl
  | cons e es ih =>
    rw [run_cons, ih, served, List.countP_append]
    rcases perform_cases cfg A s e with ⟨line, -, hph, heq, hserved⟩ | ⟨hc, -, hserved⟩
    · rw [heq, hserved, serveLine_world, ClientHandler.processLine_invalidCommandCount]
      by_cases hu : ClientHandler.hasUnknownVerb line s.world.status.authenticated = true <;>
        simp [hu, hq, Nat.add_assoc]
    · rw [hc.invalidCommandCount_eq, hserved]
      simp

/-- One event, against the count of `Invalid command` answers: they and the count of
invalid commands grow together, and stay within the limit. -/
theorem perform_invalidCommandAnswers {s : Session σ} (h : s.WithinLimits cfg A)
    (hq : 0 ≤ cfg.maxInvalidCommandsPerSession) (hlive : s.Live) (e : Event) :
    (((s.servedBy e).filterMap fun p => ClientHandler.lineResponse cfg A p.1 p.2).count
        invalidCommandAnswer + s.world.status.invalidCommandCount ≤
      (s.perform cfg A e).world.status.invalidCommandCount) ∧
    ((((s.servedBy e).filterMap fun p => ClientHandler.lineResponse cfg A p.1 p.2).count
        invalidCommandAnswer + s.world.status.invalidCommandCount : Nat) : Int) ≤
      cfg.maxInvalidCommandsPerSession := by
  have hle := h.commandsLive hq hlive
  rcases perform_cases cfg A s e with ⟨line, -, hph, heq, hserved⟩ | ⟨hc, -, hserved⟩
  · rw [heq, hserved, serveLine_world]
    by_cases hr : ClientHandler.lineResponse cfg A line s.world = some invalidCommandAnswer
    · obtain ⟨hcount, hbound⟩ :=
        ClientHandler.invalidCommandCount_of_invalidCommandAnswer cfg A hr hq
      simp only [List.filterMap_cons, hr, List.filterMap_nil, List.count_singleton_self, hcount]
      push_cast
      omega
    · have hcount : ([(line, s.world)].filterMap fun p => ClientHandler.lineResponse cfg A p.1 p.2).count
          invalidCommandAnswer = 0 := by
        cases hr' : ClientHandler.lineResponse cfg A line s.world <;>
          simp_all [List.count_singleton]
      rw [hcount, ClientHandler.processLine_invalidCommandCount]
      exact ⟨by omega, by simpa using hle⟩
  · rw [hserved, hc.invalidCommandCount_eq]
    simpa using hle

/-- From a live session, the `Invalid command` answers of a schedule and the count of
invalid commands add up to at most the limit. -/
theorem invalidCommandAnswers_le {s : Session σ} (h : s.WithinLimits cfg A)
    (hq : 0 ≤ cfg.maxInvalidCommandsPerSession) (hlive : s.Live) (events : List Event) :
    (((s.answers cfg A events).count invalidCommandAnswer + s.world.status.invalidCommandCount : Nat) :
      Int) ≤ cfg.maxInvalidCommandsPerSession := by
  induction events generalizing s with
  | nil => simpa [answers, served] using h.commandsLive hq hlive
  | cons e es ih =>
    have hstep := perform_invalidCommandAnswers h hq hlive e
    simp only [answers, served, List.filterMap_append, List.count_append] at ih ⊢
    by_cases ht : (s.perform cfg A e).Live
    · have := ih (h.perform e) ht
      push_cast at *
      omega
    · rw [served_of_not_live ht]
      simpa using hstep.2

/-- With a negative limit, the answer of that limit that closes the connection is never
given. -/
theorem not_mem_answers_of_neg (s : Session σ) (events : List Event) :
    (cfg.maxInvalidPasswordsPerSession < 0 → tooManyIncorrectPasswords ∉ s.answers cfg A events) ∧
    (cfg.maxInvalidCommandsPerSession < 0 → tooManyInvalidCommands ∉ s.answers cfg A events) := by
  constructor
  · rintro hp hm
    obtain ⟨p, -, hr⟩ := mem_answers hm
    have := (ClientHandler.lineResponse_limited cfg A p.1 p.2).2.2 hr
    omega
  · rintro hq hm
    obtain ⟨p, -, hr⟩ := mem_answers hm
    have := ((ClientHandler.lineResponse_limited cfg A p.1 p.2).2.1 hr).2
    omega

end Session

/-! ## The rate limits over every run -/

/-- `MAX_INVALID_PASSWORDS_PER_SESSION` (`p`) and `MAX_INVALID_COMMANDS_PER_SESSION` (`q`)
along every schedule of events from a session that has not been opened yet:

* with `p ≥ 0`, at most `p + 1` credential checks fail; the line whose check is the
  `(p+1)`-th failure is answered `-ERR [AUTH] Too many incorrect passwords`, the
  connection is closing, and no later line is served;
* with `q ≥ 0`, at most `q` lines are answered `-ERR Invalid command`; the count of invalid
  commands is the number of served lines whose verb is unknown in the state they are
  read in, and the `(q+1)`-th of them is answered `-ERR Too many invalid commands`, the
  connection is closing, and no later line is served;
* with a negative limit, its answer that closes the connection is never given. -/
theorem rate_limits {σ : Type} (cfg : Settings) (A : AdapterBase σ) (s : Session σ)
    (hs : SessionReachable cfg A s) (hopening : s.phase = .opening) (events : List Session.Event) :
    (0 ≤ cfg.maxInvalidPasswordsPerSession →
      (failedCredentialChecks A (s.run cfg A events).world.calls : Int) ≤
        cfg.maxInvalidPasswordsPerSession + 1 ∧
      ∀ line : String,
        (failedCredentialChecks A (s.run cfg A events).world.calls : Int) =
          cfg.maxInvalidPasswordsPerSession →
        (failedCredentialChecks A (s.run cfg A (events ++ [.line line])).world.calls : Int) =
          cfg.maxInvalidPasswordsPerSession + 1 →
        (s.run cfg A events).ClosedWith (s.run cfg A (events ++ [.line line]))
            tooManyIncorrectPasswords ∧
          ∀ later, (s.run cfg A (events ++ [.line line])).served cfg A later = []) ∧
    (0 ≤ cfg.maxInvalidCommandsPerSession →
      ((s.answers cfg A events).count invalidCommandAnswer : Int) ≤
        cfg.maxInvalidCommandsPerSession ∧
      (s.run cfg A events).world.status.invalidCommandCount =
        (s.served cfg A events).countP
          (fun p => ClientHandler.hasUnknownVerb p.1 p.2.status.authenticated) ∧
      ∀ line : String, (s.run cfg A events).phase = .serving →
        ClientHandler.hasUnknownVerb line (s.run cfg A events).world.status.authenticated = true →
        ((s.served cfg A events).countP
          (fun p => ClientHandler.hasUnknownVerb p.1 p.2.status.authenticated) : Int) =
            cfg.maxInvalidCommandsPerSession →
        (s.run cfg A events).ClosedWith (s.run cfg A (events ++ [.line line]))
            tooManyInvalidCommands ∧
          ∀ later, (s.run cfg A (events ++ [.line line])).served cfg A later = []) ∧
    (cfg.maxInvalidPasswordsPerSession < 0 → tooManyIncorrectPasswords ∉ s.answers cfg A events) ∧
    (cfg.maxInvalidCommandsPerSession < 0 → tooManyInvalidCommands ∉ s.answers cfg A events) := by
  obtain ⟨hcalls, hcommands, hpasswords⟩ := Session.fresh_of_opening hs hopening
  have h₀ : s.WithinLimits cfg A := .of_fresh hcalls hcommands hpasswords
  have ht := h₀.run events
  have hreach := Session.reachable_run hs events
  have hline : ∀ line, s.run cfg A (events ++ [.line line]) =
      (s.run cfg A events).perform cfg A (.line line) := fun line => by
    rw [Session.run_append]
    rfl
  refine ⟨fun hp => ⟨?_, fun line hfail hfail' => ?_⟩, fun hq => ⟨?_, ?_, fun line hph hu hcount => ?_⟩,
    Session.not_mem_answers_of_neg s events⟩
  · simpa [ht.invalidPasswordCount, hp] using ht.passwords hp
  · rw [hline] at hfail' ⊢
    rcases Session.perform_cases cfg A (s.run cfg A events) (.line line) with
      ⟨l, hl, hph, heq, -⟩ | ⟨hc, -, -⟩
    · cases hl
      rw [heq] at hfail' ⊢
      have hipc : (s.run cfg A events).world.status.invalidPasswordCount =
          failedCredentialChecks A (s.run cfg A events).world.calls := by
        simp [ht.invalidPasswordCount, hp]
      have hipc' := (ht.serveLine hph line).invalidPasswordCount
      rw [if_pos hp, Session.serveLine_world] at hipc'
      rw [Session.serveLine_world] at hfail'
      rcases ClientHandler.processLine_passwordLimit cfg A line
          (ht.passwordsLive hp (.inr hph)) with hle | ⟨hr, -⟩
      · omega
      · have hclosed := Session.serveLine_closedWith hreach hph hr rfl rfl rfl (by decide) (by decide)
        exact ⟨hclosed, hclosed.served_eq_nil⟩
    · rw [hc.failedCredentialChecks_calls, hc.failedChecks_eq_zero] at hfail'
      omega
  · simpa [hcommands] using Session.invalidCommandAnswers_le h₀ hq (.inl hopening) events
  · rw [Session.run_invalidCommandCount hq, hcommands, Nat.zero_add]
  · have hicc : ((s.run cfg A events).world.status.invalidCommandCount : Int) =
        cfg.maxInvalidCommandsPerSession := by
      rw [Session.run_invalidCommandCount hq, hcommands, Nat.zero_add]
      exact hcount
    have hr := (ClientHandler.processLine_of_hasUnknownVerb cfg A hu).1
    rw [if_pos ⟨hq, by push_cast; omega⟩] at hr
    rw [hline, Session.perform, if_pos hph]
    have hclosed := Session.serveLine_closedWith hreach hph hr rfl rfl rfl (by decide) (by decide)
    exact ⟨hclosed, hclosed.served_eq_nil⟩

/-- The shipped settings allow three incorrect passwords: after `USER bob` and three
incorrect `PASS`, the fourth is answered `Too many incorrect passwords` and closes the
connection. -/
theorem rate_limits_fourth_incorrect_password :
    ((Session.initial ⟨1, "127.0.0.1", 50000⟩ (ListAdapter.new "bob" "pw" ["hi"]) []).run
        Settings.default (ListAdapter.adapter id)
        [.opened, .line "USER bob", .line "PASS x", .line "PASS x", .line "PASS x"]).ClosedWith
      ((Session.initial ⟨1, "127.0.0.1", 50000⟩ (ListAdapter.new "bob" "pw" ["hi"]) []).run
        Settings.default (ListAdapter.adapter id)
        ([.opened, .line "USER bob", .line "PASS x", .line "PASS x", .line "PASS x"] ++
          [.line "PASS x"]))
      tooManyIncorrectPasswords ∧
    ∀ later, ((Session.initial ⟨1, "127.0.0.1", 50000⟩ (ListAdapter.new "bob" "pw" ["hi"]) []).run
        Settings.default (ListAdapter.adapter id)
        ([.opened, .line "USER bob", .line "PASS x", .line "PASS x", .line "PASS x"] ++
          [.line "PASS x"])).served Settings.default (ListAdapter.adapter id) later = [] :=
  ((rate_limits Settings.default (ListAdapter.adapter id) _ (.initial _ _ _ (by simp)) rfl
    [.opened, .line "USER bob", .line "PASS x", .line "PASS x", .line "PASS x"]).1
    (by decide)).2 "PASS x" (by decide) (by decide)

end Pop3sf
