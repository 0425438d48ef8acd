import Pop3sf.SessionInvariant

set_option autoImplicit false

/-!
# One answer per line, and an -ERR answer changes nothing

Every command handler ends by raising the response it answers with; none returns
normally, so the `POP3SFRuntimeError` branch of `_parse_line_and_call_command_handler`
never runs, and a line of a live session is answered by exactly one write unless an
adapter exception escapes (`handleCommand_never_returns`).

An answer that goes out as `-ERR` is atomic: every handler makes its checks before it
changes anything, and what it changes after them is answered `+OK` with a fixed ASCII
text.  `World.Unchanged` says what such a line leaves alone: the session state but for
the two counts of invalid input, the registry, and the deletion marks, which only calls
of `mark_message_as_deleted`, `unmark_messages_marked_as_deleted` and `commit_deletions`
change; the count of invalid commands moves only for a verb missing from the state's
table, the count of invalid passwords only after `verify_login_credentials` answered
`False`.  The `[UTF8]` substitution of `_encode_and_send_data_to_client` is covered
too: a `+OK` response that follows a change carries only the language tag as text that
may fail to encode, and the substitute carries the same tag, so it fails as well and
nothing is sent (`err_line_atomic`).

The handlers are taken one by one, as in `SessionInvariant.lean`: `Steady` for the
helpers, which end unchanged however they end; `Answers` for the handlers; `Final` and
`Silent` for the code after a change.
-/

namespace Pop3sf

open SessionM SendDataToClientException

/-! ## What a line may change -/

/-- The session state with the two counts of invalid input cleared. -/
def ClientStatusHolder.withoutCounts (st : ClientStatusHolder) : ClientStatusHolder :=
  { st with invalidCommandCount := 0, invalidPasswordCount := 0 }

/-- Whether a recorded call is a `verify_login_credentials` that answered `False`. -/
def isFailedCredentialCheck {σ : Type} (A : AdapterBase σ) : AdapterCall × Snapshot σ → Bool
  | (.verifyLoginCredentials username password, snap) =>
    match A.verifyLoginCredentials username password snap.adapter with
    | .ok (false, _) => true
    | _ => false
  | _ => false

/-- How many of the calls were credential checks that failed. -/
def failedCredentialChecks {σ : Type} (A : AdapterBase σ) (calls : List (AdapterCall × Snapshot σ)) :
    Nat :=
  calls.countP (isFailedCredentialCheck A)

/-- One answered call that leaves the deletion marks alone. -/
def AdapterBase.KeepsMarks {σ : Type} (A : AdapterBase σ) (s s' : σ) : Prop :=
  ∃ (call : AdapterCall) (a : call.Answer), call.changesDeletionMarks = false ∧
    A.invoke call s = .ok (a, s')

/-- The verbs of `_handle_authorization_state_command` (`false`) and
`_handle_transaction_state_command` (`true`); any other goes to `_invalid_command`. -/
def stateVerbs : Bool → List String
  | false => ["CAPA", "QUIT", "XPRO", "UTF8", "LANG", "USER", "PASS"]
  | true => ["CAPA", "LANG", "NOOP", "QUIT", "STAT", "LIST", "UIDL", "RETR", "TOP", "DELE", "RSET"]

/-- How the two counts of invalid input move from `w` to `w'`, with calls only appended:
the count of invalid commands moves only if `countsCommand`; credential checks fail only
if `checksPassword`; and the count of invalid passwords grows by the failed checks
among the new calls when `MAX_INVALID_PASSWORDS_PER_SESSION` is not negative, and stays
otherwise. -/
structure World.Counted {σ : Type} (cfg : Settings) (A : AdapterBase σ)
    (countsCommand checksPassword : Prop) (w w' : World σ) : Prop where
  calls : w.calls <+: w'.calls
  invalidCommandCount :
    w'.status.invalidCommandCount ≠ w.status.invalidCommandCount → countsCommand
  failedChecks : failedCredentialChecks A (w'.calls.drop w.calls.length) ≠ 0 → checksPassword
  invalidPasswordCount : w'.status.invalidPasswordCount = w.status.invalidPasswordCount +
    if 0 ≤ cfg.maxInvalidPasswordsPerSession then
      failedCredentialChecks A (w'.calls.drop w.calls.length) else 0

/-- What a line answered `-ERR` leaves alone: `w'` is `w` but for the counts, which move
as `World.Counted` says, and more adapter calls, none of which changes a deletion mark,
with the adapter state those calls left. -/
structure World.Unchanged {σ : Type} (cfg : Settings) (A : AdapterBase σ)
    (countsCommand checksPassword : Prop) (w w' : World σ)
    extends World.Counted cfg A countsCommand checksPassword w w' : Prop where
  status : w'.status.withoutCounts = w.status.withoutCounts
  clients : w'.clients = w.clients
  adapter : Relation.ReflTransGen A.KeepsMarks w.adapter w'.adapter
  keepsMarks : ∀ p ∈ w'.calls.drop w.calls.length, p.1.changesDeletionMarks = false

/-- The failed checks of two stretches of calls add up. -/
theorem failedCredentialChecks_drop_two_stretches {σ : Type} (A : AdapterBase σ)
    {l₁ l₂ l₃ : List (AdapterCall × Snapshot σ)} (h₁ : l₁ <+: l₂) (h₂ : l₂ <+: l₃) :
    failedCredentialChecks A (l₃.drop l₁.length) =
      failedCredentialChecks A (l₂.drop l₁.length) + failedCredentialChecks A (l₃.drop l₂.length) := by
  obtain ⟨t, rfl⟩ := h₁
  obtain ⟨t', rfl⟩ := h₂
  simp [failedCredentialChecks, List.drop_append_of_le_length]

namespace World.Counted

variable {σ : Type} {cfg : Settings} {A : AdapterBase σ} {c d : Prop}

theorem refl (w : World σ) : w.Counted cfg A c d w where
  calls := List.prefix_refl _
  invalidCommandCount h := absurd rfl h
  failedChecks h := by simp [failedCredentialChecks] at h
  invalidPasswordCount := by simp [failedCredentialChecks]

theorem trans {w w' w'' : World σ} (h : w.Counted cfg A c d w') (h' : w'.Counted cfg A c d w'') :
    w.Counted cfg A c d w'' where
  calls := h.calls.trans h'.calls
  invalidCommandCount hne := by
    by_cases h1 : w'.status.invalidCommandCount = w.status.invalidCommandCount
    · exact h'.invalidCommandCount (h1 ▸ hne)
    · exact h.invalidCommandCount h1
  failedChecks hne := by
    rw [failedCredentialChecks_drop_two_stretches A h.calls h'.calls] at hne
    by_cases h1 : failedCredentialChecks A (w'.calls.drop w.calls.length) = 0
    · exact h'.failedChecks (by omega)
    · exact h.failedChecks h1
  invalidPasswordCount := by
    rw [h'.invalidPasswordCount, h.invalidPasswordCount,
      failedCredentialChecks_drop_two_stretches A h.calls h'.calls]
    split <;> omega

instance : IsRefl (World σ) (World.Counted cfg A c d) := ⟨refl⟩

instance : IsTrans (World σ) (World.Counted cfg A c d) := ⟨fun _ _ _ => trans⟩

theorem mono {c' d' : Prop} (hc : c → c') (hd : d → d') {w w' : World σ}
    (h : w.Counted cfg A c d w') : w.Counted cfg A c' d' w' :=
  { h with
    invalidCommandCount := fun hne => hc (h.invalidCommandCount hne)
    failedChecks := fun hne => hd (h.failedChecks hne) }

/-- The counts ignore the registry. -/
theorem withClients {w w' : World σ} (h : w.Counted cfg A c d w') (clients : List Client) :
    w.Counted cfg A c d { w' with clients := clients } :=
  ⟨h.calls, h.invalidCommandCount, h.failedChecks, h.invalidPasswordCount⟩

/-- The failed checks of the whole log: those before, and the new ones. -/
theorem failedCredentialChecks_calls {w w' : World σ} (h : w.Counted cfg A c d w') :
    failedCredentialChecks A w'.calls =
      failedCredentialChecks A w.calls + failedCredentialChecks A (w'.calls.drop w.calls.length) := by
  obtain ⟨t, ht⟩ := h.calls
  simp [failedCredentialChecks, ← ht]

/-- Code that counts no command leaves the count of invalid commands alone. -/
theorem invalidCommandCount_eq {w w' : World σ} (h : w.Counted cfg A False d w') :
    w'.status.invalidCommandCount = w.status.invalidCommandCount :=
  Classical.not_not.mp h.invalidCommandCount

/-- Code that checks no password fails no check and leaves the count of invalid passwords
alone. -/
theorem failedChecks_eq_zero {w w' : World σ} (h : w.Counted cfg A c False w') :
    failedCredentialChecks A (w'.calls.drop w.calls.length) = 0 :=
  Classical.not_not.mp h.failedChecks

theorem invalidPasswordCount_eq {w w' : World σ} (h : w.Counted cfg A c False w') :
    w'.status.invalidPasswordCount = w.status.invalidPasswordCount := by
  rw [h.invalidPasswordCount, h.failedChecks_eq_zero]
  split <;> rfl

end World.Counted

namespace World.Unchanged

variable {σ : Type} {cfg : Settings} {A : AdapterBase σ} {c d : Prop}

theorem refl (w : World σ) : w.Unchanged cfg A c d w where
  toCounted := .refl w
  status := rfl
  clients := rfl
  adapter := .refl
  keepsMarks := by simp

theorem trans {w w' w'' : World σ} (h : w.Unchanged cfg A c d w')
    (h' : w'.Unchanged cfg A c d w'') : w.Unchanged cfg A c d w'' where
  toCounted := h.toCounted.trans h'.toCounted
  status := h'.status.trans h.status
  clients := h'.clients.trans h.clients
  adapter := h.adapter.trans h'.adapter
  keepsMarks p hp := (mem_drop_of_two_stretches h.calls h'.calls hp).elim (h.keepsMarks p)
    (h'.keepsMarks p)

instance : IsRefl (World σ) (World.Unchanged cfg A c d) := ⟨refl⟩

instance : IsTrans (World σ) (World.Unchanged cfg A c d) := ⟨fun _ _ _ => trans⟩

theorem mono {c' d' : Prop} (hc : c → c') (hd : d → d') {w w' : World σ}
    (h : w.Unchanged cfg A c d w') : w.Unchanged cfg A c' d' w' :=
  { h with toCounted := h.toCounted.mono hc hd }

/-- A call that leaves the deletion marks alone and is no failed credential check,
whatever it answers. -/
theorem record (w : World σ) {call : AdapterCall} (hc : call.changesDeletionMarks = false)
    (hf : isFailedCredentialCheck A (call, w.toSnapshot) = false) {s : σ}
    (hs : Relation.ReflTransGen A.KeepsMarks w.adapter s) :
    w.Unchanged cfg A c d { w.record call with adapter := s } where
  calls := List.prefix_append _ _
  invalidCommandCount h := absurd rfl h
  failedChecks h := by simp [failedCredentialChecks, hf] at h
  invalidPasswordCount := by simp [failedCredentialChecks, hf]
  status := rfl
  clients := rfl
  adapter := hs
  keepsMarks p hp := by simp at hp; exact hp ▸ hc

/-- A `verify_login_credentials` that answered `False`, with the count of invalid
passwords moved by `k`, one when the limit is not negative. -/
theorem record_failedCheck (w : World σ) (hd : d) {username password : String} {s : σ}
    (hans : A.verifyLoginCredentials username password w.adapter = .ok (false, s)) {k : Nat}
    (hk : k = if 0 ≤ cfg.maxInvalidPasswordsPerSession then 1 else 0) :
    w.Unchanged cfg A c d { w.record (.verifyLoginCredentials username password) with
      adapter := s
      status := { w.status with invalidPasswordCount := w.status.invalidPasswordCount + k } } where
  calls := List.prefix_append _ _
  invalidCommandCount h := absurd rfl h
  failedChecks _ := hd
  invalidPasswordCount := by
    simp [World.record, failedCredentialChecks, isFailedCredentialCheck, hans, hk]
  status := rfl
  clients := rfl
  adapter := .single ⟨.verifyLoginCredentials username password, false, rfl, hans⟩
  keepsMarks p hp := by simp [World.record] at hp; exact hp ▸ rfl

end World.Unchanged

/-! ## Responses sent as -ERR -/

/-- A response that `_encode_and_send_data_to_client` writes as `-ERR`: it is written,
and its first byte is `-`. -/
def SentAsErr (st : ClientStatusHolder) (e : SendDataToClientException) : Prop :=
  ∃ bytes, ClientHandler.encodeAndSendDataToClient st e = some bytes ∧ bytes.head? = some 45

theorem firstLineContent_cons (e : SendDataToClientException) (language : Option String) :
    ∃ rest, e.firstLineContent language = (if e.success then '+' else '-') :: rest := by
  unfold firstLineContent
  cases e.success <;> exact ⟨_, rfl⟩

/-- An encoded response starts with `+` or `-`, as it succeeded or failed. -/
theorem buildMessage_head {e : SendDataToClientException} {language : Option String}
    {encoding : String} {bytes : List UInt8} (h : e.buildMessage language encoding = some bytes) :
    bytes.head? = some (if e.success then 43 else 45) := by
  obtain ⟨first, hfirst⟩ := firstLineContent_cons e language
  obtain ⟨rest, hrest⟩ : ∃ rest, e.buildMessageString language =
      (if e.success then '+' else '-') :: rest := by
    unfold buildMessageString composeTheFirstLineOfTheMessage
    split
    · exact ⟨_, by rw [hfirst]; rfl⟩
    · dsimp only
      split <;> exact ⟨_, by rw [hfirst]; rfl⟩
  have hsign : ∀ c ∈ [if e.success then '+' else '-'], c.toNat < 0x80 := by
    cases e.success <;> decide
  rw [buildMessage, hrest, show ∀ x : Char, x :: rest = [x] ++ rest from fun _ => rfl,
    encodeWith_append, encodeWith_ascii encoding hsign] at h
  obtain ⟨x, -, rfl⟩ := Option.map_eq_some'.mp h
  cases e.success <;> rfl

/-- The language tag and the blank after it, as the first line carries them. -/
theorem buildMessageString_of_single {e : SendDataToClientException}
    (hm : e.messageMultiline = none) (hh : e.isMessageHumanReadable = true)
    (language : Option String) :
    e.buildMessageString language =
      ((if e.success then "+OK " else "-ERR ").data ++
        (e.pop3ResponseCode.map fun code => ("[" ++ code.value ++ "] ").data).getD []) ++
      (language.map fun tag => (tag ++ " ").data).getD [] ++ (e.message.data ++ crlf) := by
  cases language <;> cases h : e.pop3ResponseCode <;>
    simp [buildMessageString, composeTheFirstLineOfTheMessage, firstLineContent, hm, hh, h]

/-- A single-line human-readable response whose text before the tag and whose
message are ASCII fails to encode exactly when its language tag does. -/
theorem buildMessage_eq_none_iff {e : SendDataToClientException}
    (hm : e.messageMultiline = none) (hh : e.isMessageHumanReadable = true)
    (hlead : ∀ c ∈ (if e.success then "+OK " else "-ERR ").data ++
      (e.pop3ResponseCode.map fun code => ("[" ++ code.value ++ "] ").data).getD [],
      c.toNat < 0x80)
    (hmessage : ∀ c ∈ e.message.data, c.toNat < 0x80) (language : Option String)
    (encoding : String) :
    e.buildMessage language encoding = none ↔
      encodeWith encoding ((language.map fun tag => (tag ++ " ").data).getD []) = none := by
  have hsuffix : ∀ c ∈ e.message.data ++ crlf, c.toNat < 0x80 :=
    List.forall_mem_append.mpr ⟨hmessage, by decide⟩
  rw [buildMessage, buildMessageString_of_single hm hh, encodeWith_append, encodeWith_append,
    encodeWith_ascii encoding hlead, encodeWith_ascii encoding hsuffix]
  cases encodeWith encoding ((language.map fun tag => (tag ++ " ").data).getD []) <;> simp

/-- The `[UTF8]` substitute of `_encode_and_send_data_to_client`. -/
theorem buildMessage_utf8_eq_none_iff (language : Option String) (encoding : String) :
    ClientHandler.nonAsciiSubstitute.buildMessage language encoding = none ↔
      encodeWith encoding ((language.map fun tag => (tag ++ " ").data).getD []) = none :=
  buildMessage_eq_none_iff rfl rfl (by decide) (by decide) language encoding

/-- A `+OK` single-line response with a fixed ASCII message is never sent as `-ERR`:
either it is encoded, and starts with `+`, or its language tag fails to encode, and then
so does the substitute, and nothing is sent. -/
theorem not_sentAsErr_of_ok {e : SendDataToClientException} (he : e.success = true)
    (hm : e.messageMultiline = none) (hh : e.isMessageHumanReadable = true)
    (hcode : e.pop3ResponseCode = none) (hmessage : ∀ c ∈ e.message.data, c.toNat < 0x80)
    (st : ClientStatusHolder) : ¬ SentAsErr st e := by
  rintro ⟨bytes, hbytes, hhead⟩
  unfold ClientHandler.encodeAndSendDataToClient at hbytes
  split at hbytes
  · rename_i b hb
    obtain rfl := Option.some.inj hbytes
    rw [buildMessage_head hb, he] at hhead
    simp at hhead
  · rename_i hnone
    rw [buildMessage_eq_none_iff hm hh (by simp [he, hcode]) hmessage,
      ← buildMessage_utf8_eq_none_iff] at hnone
    rw [hnone] at hbytes
    cases hbytes

/-! ## The answers of the rate limits -/

/-- `_invalid_command`'s answer. -/
def invalidCommandAnswer : SendDataToClientException := err "Invalid command" none

/-- The answer of `_invalid_command` past `MAX_INVALID_COMMANDS_PER_SESSION`. -/
def tooManyInvalidCommands : SendDataToClientException :=
  (err "Too many invalid commands" none).closeConnectionAfterSendingData

/-- The answer of `_perform_invalid_password_punishments` past
`MAX_INVALID_PASSWORDS_PER_SESSION`. -/
def tooManyIncorrectPasswords : SendDataToClientException :=
  (err "Too many incorrect passwords" (some .auth)).closeConnectionAfterSendingData

/-- Which code may raise the answers of the two rate limits: `Invalid command` and `Too
many invalid commands` only where `countsCommand` holds, `Too many incorrect passwords`
only where `checksPassword` holds, and the two that close the connection only with
their limit not negative. -/
structure Raised.Limited (cfg : Settings) (countsCommand checksPassword : Prop) (r : Raised) :
    Prop where
  invalid : r = .send invalidCommandAnswer → countsCommand
  tooManyCommands : r = .send tooManyInvalidCommands →
    countsCommand ∧ 0 ≤ cfg.maxInvalidCommandsPerSession
  tooManyPasswords : r = .send tooManyIncorrectPasswords →
    checksPassword ∧ 0 ≤ cfg.maxInvalidPasswordsPerSession

namespace Raised.Limited

variable {cfg : Settings} {c d : Prop}

/-- Any other response. -/
theorem of_not_mem {e : SendDataToClientException}
    (h : e ∉ [invalidCommandAnswer, tooManyInvalidCommands, tooManyIncorrectPasswords]) :
    (Raised.send e).Limited cfg c d where
  invalid he := absurd (by simp [Raised.send.inj he]) h
  tooManyCommands he := absurd (by simp [Raised.send.inj he]) h
  tooManyPasswords he := absurd (by simp [Raised.send.inj he]) h

/-- A `+OK` response. -/
theorem of_success {e : SendDataToClientException} (he : e.success = true) :
    (Raised.send e).Limited cfg c d :=
  of_not_mem fun h => by simp [invalidCommandAnswer, tooManyInvalidCommands,
    tooManyIncorrectPasswords] at h; rcases h with rfl | rfl | rfl <;> cases he

/-- `Too many incorrect passwords`, raised in a credential check with its limit not
negative. -/
theorem of_tooManyIncorrectPasswords (hd : d) (hp : 0 ≤ cfg.maxInvalidPasswordsPerSession) :
    (Raised.send tooManyIncorrectPasswords).Limited cfg c d where
  invalid h := absurd (Raised.send.inj h) (by decide)
  tooManyCommands h := absurd (Raised.send.inj h) (by decide)
  tooManyPasswords _ := ⟨hd, hp⟩

/-- The answers of `_invalid_command`, for a counted command. -/
theorem of_invalidCommand (hc : c) {e : SendDataToClientException}
    (he : e = invalidCommandAnswer ∨
      e = tooManyInvalidCommands ∧ 0 ≤ cfg.maxInvalidCommandsPerSession) :
    (Raised.send e).Limited cfg c d where
  invalid _ := hc
  tooManyCommands h := ⟨hc, by
    rcases he with rfl | ⟨_, hq⟩
    · exact absurd (Raised.send.inj h) (by decide)
    · exact hq⟩
  tooManyPasswords h := by
    rcases he with rfl | ⟨rfl, _⟩ <;> exact absurd (Raised.send.inj h) (by decide)

/-- Anything but a response. -/
theorem of_not_send {r : Raised} (h : ∀ e, r ≠ .send e) : r.Limited cfg c d :=
  ⟨fun he => absurd he (h _), fun he => absurd he (h _), fun he => absurd he (h _)⟩

theorem adapterFault (fault : AdapterFault) : (Raised.adapterFault fault).Limited cfg c d :=
  of_not_send fun _ h => by cases h

theorem mono {c' d' : Prop} (hc : c → c') (hd : d → d') {r : Raised} (h : r.Limited cfg c d) :
    r.Limited cfg c' d' :=
  ⟨fun he => hc (h.1 he), fun he => (h.2 he).imp_left hc, fun he => (h.3 he).imp_left hd⟩

end Raised.Limited

/-! ## Code predicates -/

/-- A raised response that was sent as `-ERR`. -/
def Raised.SentAsErr {σ : Type} (r : Raised) (w : World σ) : Prop :=
  ∃ e, r = .send e ∧ Pop3sf.SentAsErr w.status e

section Predicates

variable {σ : Type} (cfg : Settings) (A : AdapterBase σ) (c d : Prop) {α : Type}

/-- Command code that ends, whichever way, in a world `Unchanged` from its start, and
raises a rate-limit answer only as `Raised.Limited` allows. -/
def Steady (m : SessionM σ α) : Prop :=
  Triple (World.Unchanged cfg A c d) (fun _ => True) m (fun _ _ => True)
    (fun r _ => r.Limited cfg c d)

/-- A command handler: it never returns; it ends with the counts moved as `World.Counted`
says, a rate-limit answer only as `Raised.Limited` allows, and when it raises a response
sent as `-ERR`, in a world `Unchanged` from its start. -/
def Answers (m : SessionM σ α) : Prop :=
  ∀ w, wp m (fun _ _ => False)
    (fun r w' => (r.SentAsErr w' → w.Unchanged cfg A c d w') ∧ w.Counted cfg A c d w' ∧
      r.Limited cfg c d) w

/-- The code after a change: it never returns, raises no response sent as `-ERR` and no
rate-limit answer, and leaves the counts alone. -/
def Final (m : SessionM σ α) : Prop :=
  ∀ w, wp m (fun _ _ => False)
    (fun r w' => ¬ r.SentAsErr w' ∧ w.Counted cfg A False False w' ∧ r.Limited cfg False False) w

/-- Code that raises no response, only adapter exceptions, and leaves the counts
alone. -/
def Silent (m : SessionM σ α) : Prop :=
  ∀ w, wp m (fun _ w' => w.Counted cfg A False False w')
    (fun r w' => (∀ e, r ≠ .send e) ∧ w.Counted cfg A False False w') w

end Predicates

section Rules

variable {σ : Type} {cfg : Settings} {A : AdapterBase σ} {c d : Prop} {α β : Type}

theorem steady_pure (a : α) : Steady cfg A c d (pure a : SessionM σ α) :=
  Triple.pure a fun _ _ => trivial

theorem steady_raise (e : SendDataToClientException) (he : (Raised.send e).Limited cfg c d) :
    Steady cfg A c d (raise e : SessionM σ α) :=
  Triple.raise e fun _ _ => he

theorem Steady.bind {m : SessionM σ β} {f : β → SessionM σ α} (hm : Steady cfg A c d m)
    (hf : ∀ b, Steady cfg A c d (f b)) : Steady cfg A c d (m >>= f) :=
  Triple.bind hm hf

theorem steady_getStatus_bind {f : ClientStatusHolder → SessionM σ α}
    (hf : ∀ st, Steady cfg A c d (f st)) : Steady cfg A c d (getStatus >>= f) :=
  Triple.getStatus_bind fun st => (hf st).mono (fun _ _ => trivial) (fun _ _ => id) fun _ _ => id

theorem steady_ite (p : Prop) [Decidable p] {x y : SessionM σ α} (hx : Steady cfg A c d x)
    (hy : Steady cfg A c d y) : Steady cfg A c d (if p then x else y) :=
  Triple.ite p hx hy

/-- `if p then x` followed by `k`, as `do` notation compiles it. -/
theorem steady_ite_bind (p : Prop) [Decidable p] {x y : SessionM σ β} {k : β → SessionM σ α}
    (hx : Steady cfg A c d x) (hy : Steady cfg A c d y) (hk : ∀ v, Steady cfg A c d (k v)) :
    Steady cfg A c d (if p then x >>= k else y >>= k) :=
  Triple.ite p (hx.bind hk) (hy.bind hk)

/-- A call that leaves the deletion marks alone and checks no credentials. -/
theorem steady_callAdapter {call : AdapterCall} (hc : call.changesDeletionMarks = false)
    (hf : ∀ snap : Snapshot σ, isFailedCredentialCheck A (call, snap) = false) :
    Steady cfg A c d (callAdapter A call) :=
  Triple.callAdapter fun w _ =>
    ⟨fun fault _ => ⟨.adapterFault fault, World.Unchanged.record w hc (hf _) .refl⟩,
      fun a _ h => ⟨trivial, World.Unchanged.record w hc (hf _) (.single ⟨call, a, hc, h⟩)⟩⟩

theorem answers_raise (e : SendDataToClientException) (he : (Raised.send e).Limited cfg c d) :
    Answers cfg A c d (raise e : SessionM σ α) :=
  fun w => ⟨fun _ => .refl w, .refl w, he⟩

theorem Answers.bind {m : SessionM σ β} {f : β → SessionM σ α} (hm : Steady cfg A c d m)
    (hf : ∀ b, Answers cfg A c d (f b)) : Answers cfg A c d (m >>= f) := fun w => by
  rw [wp_bind]
  exact wp_mono (fun b w' h => wp_mono (fun _ _ => id)
    (fun _ _ h' => ⟨fun he => h.2.trans (h'.1 he), h.2.toCounted.trans h'.2.1, h'.2.2⟩) (hf b w'))
    (fun _ _ h => ⟨fun _ => h.2, h.2.toCounted, h.1⟩) (hm w trivial)

theorem Answers.ite (p : Prop) [Decidable p] {x y : SessionM σ α} (hx : Answers cfg A c d x)
    (hy : Answers cfg A c d y) : Answers cfg A c d (if p then x else y) := by
  split
  · exact hx
  · exact hy

theorem answers_ite_bind (p : Prop) [Decidable p] {x y : SessionM σ β} {k : β → SessionM σ α}
    (hx : Steady cfg A c d x) (hy : Steady cfg A c d y) (hk : ∀ v, Answers cfg A c d (k v)) :
    Answers cfg A c d (if p then x >>= k else y >>= k) :=
  Answers.ite p (Answers.bind hx hk) (Answers.bind hy hk)

theorem answers_getStatus_bind {f : ClientStatusHolder → SessionM σ α}
    (hf : ∀ st, Answers cfg A c d (f st)) : Answers cfg A c d (getStatus >>= f) :=
  Answers.bind (steady_getStatus_bind fun _ => steady_pure _) fun st => by
    simpa using hf st

/-- Code after a change, run from any world the counts reached from `w₀`. -/
theorem Final.answers_from {m : SessionM σ α} (h : Final cfg A m) {w₀ w : World σ}
    (hw : w₀.Counted cfg A c d w) :
    wp m (fun _ _ => False)
      (fun r w' => (r.SentAsErr w' → w₀.Unchanged cfg A c d w') ∧ w₀.Counted cfg A c d w' ∧
        r.Limited cfg c d) w :=
  wp_mono (fun _ _ => id)
    (fun _ _ h' => ⟨fun hs => absurd hs h'.1, hw.trans (h'.2.1.mono False.elim False.elim),
      h'.2.2.mono False.elim False.elim⟩) (h w)

theorem Answers.of_final {m : SessionM σ α} (h : Final cfg A m) : Answers cfg A c d m := fun w =>
  h.answers_from (.refl w)

theorem Answers.mono {c' d' : Prop} (hc : c → c') (hd : d → d') {m : SessionM σ α}
    (h : Answers cfg A c d m) : Answers cfg A c' d' m := fun w =>
  wp_mono (fun _ _ => id)
    (fun _ _ h' => ⟨fun hs => (h'.1 hs).mono hc hd, h'.2.1.mono hc hd, h'.2.2.mono hc hd⟩) (h w)

theorem silent_modifyStatus {f : ClientStatusHolder → ClientStatusHolder}
    (hf : ∀ st, (f st).invalidCommandCount = st.invalidCommandCount ∧
      (f st).invalidPasswordCount = st.invalidPasswordCount) :
    Silent cfg A (modifyStatus f : SessionM σ Unit) := fun w =>
  { calls := List.prefix_refl _
    invalidCommandCount := fun h => h (hf w.status).1
    failedChecks := fun h => by simp [failedCredentialChecks] at h
    invalidPasswordCount := by simp [failedCredentialChecks, (hf w.status).2] }

theorem silent_callAdapter {call : AdapterCall}
    (hf : ∀ snap : Snapshot σ, isFailedCredentialCheck A (call, snap) = false) :
    Silent cfg A (callAdapter A call) := fun w => by
  have hrecord : ∀ s : σ, w.Counted cfg A False False { w.record call with adapter := s } :=
    fun s => { calls := List.prefix_append _ _
               invalidCommandCount := fun h => absurd rfl h
               failedChecks := fun h => by simp [failedCredentialChecks, hf] at h
               invalidPasswordCount := by simp [failedCredentialChecks, hf] }
  rw [wp_callAdapter]
  split
  · exact hrecord _
  · exact ⟨fun _ h => (by cases h), hrecord _⟩

theorem silent_getStatus_bind {f : ClientStatusHolder → SessionM σ α}
    (hf : ∀ st, Silent cfg A (f st)) : Silent cfg A (getStatus >>= f) := fun w => by
  rw [wp_bind, wp_getStatus]
  exact hf _ w

theorem Final.bind {m : SessionM σ β} {f : β → SessionM σ α} (hm : Silent cfg A m)
    (hf : ∀ b, Final cfg A (f b)) : Final cfg A (m >>= f) := fun w => by
  rw [wp_bind]
  exact wp_mono (fun b w' h => wp_mono (fun _ _ => id)
    (fun _ _ h' => ⟨h'.1, h.trans h'.2.1, h'.2.2⟩) (hf b w'))
    (fun _ _ h => ⟨fun ⟨e, he, _⟩ => h.1 e he, h.2, .of_not_send h.1⟩) (hm w)

/-- A `+OK` single-line response with a fixed ASCII message, as the handlers raise after
a change. -/
theorem final_raise_ok {e : SendDataToClientException} (he : e.success = true)
    (hm : e.messageMultiline = none) (hh : e.isMessageHumanReadable = true)
    (hcode : e.pop3ResponseCode = none) (hmessage : ∀ c ∈ e.message.data, c.toNat < 0x80) :
    Final cfg A (raise e : SessionM σ α) := fun w =>
  ⟨fun ⟨_, he', hs⟩ => by cases he'; exact not_sentAsErr_of_ok he hm hh hcode hmessage _ hs,
    .refl w, .of_success he⟩

theorem Final.raise_bind {e : SendDataToClientException} {f : β → SessionM σ α}
    (h : Final cfg A (raise e : SessionM σ β)) : Final cfg A (raise e >>= f) := fun w => by
  rw [wp_bind, wp_raise]
  exact h w

theorem final_getStatus_bind {f : ClientStatusHolder → SessionM σ α}
    (hf : ∀ st, Final cfg A (f st)) : Final cfg A (getStatus >>= f) := fun w => by
  rw [wp_bind, wp_getStatus]
  exact hf _ w

end Rules

/-- `ok message` for a fixed ASCII message, and the same closing the connection. -/
theorem final_raise_ok_text {σ α : Type} {cfg : Settings} {A : AdapterBase σ} (message : String)
    (hmessage : ∀ c ∈ message.data, c.toNat < 0x80) :
    Final cfg A (raise (ok message) : SessionM σ α) ∧
      Final cfg A (raise (ok message).closeConnectionAfterSendingData : SessionM σ α) :=
  ⟨final_raise_ok rfl rfl rfl rfl hmessage, final_raise_ok rfl rfl rfl rfl hmessage⟩

/-! ## `AdapterHelperWrapper` -/

namespace AdapterHelperWrapper

variable {σ : Type} (cfg : Settings) (A : AdapterBase σ) {c d : Prop}

theorem readOnlyModeAllowed_steady : Steady cfg A c d (readOnlyModeAllowed A) :=
  steady_callAdapter (by rfl) fun _ => by rfl

/-- The punishment counts one more invalid password when the limit is not negative, and
then raises `Too many incorrect passwords` exactly when the count is past it; it does
nothing otherwise. -/
theorem performInvalidPasswordPunishments_cases (P : World σ → Prop)
    (E : Raised → World σ → Prop) {w : World σ}
    (hbump : 0 ≤ cfg.maxInvalidPasswordsPerSession →
      ((w.status.invalidPasswordCount + 1 : Nat) ≤ cfg.maxInvalidPasswordsPerSession →
        P { w with status := { w.status with
          invalidPasswordCount := w.status.invalidPasswordCount + 1 } }) ∧
      (cfg.maxInvalidPasswordsPerSession < (w.status.invalidPasswordCount + 1 : Nat) →
        E (.send tooManyIncorrectPasswords) { w with status := { w.status with
          invalidPasswordCount := w.status.invalidPasswordCount + 1 } }))
    (hkeep : ¬ 0 ≤ cfg.maxInvalidPasswordsPerSession → P w) :
    wp (performInvalidPasswordPunishments cfg) (fun _ => P) E w := by
  unfold performInvalidPasswordPunishments
  split
  · rename_i hp
    simp only [wp_bind, wp_modifyStatus, wp_getStatus, wp_ite, wp_raise, wp_pure]
    split
    · rename_i hgt
      exact (hbump hp).2 hgt
    · rename_i hle
      exact (hbump hp).1 (by omega)
  · exact hkeep ‹_›

/-- `verify_login_credentials`: the call, and the punishment when it answered `False`, the
one credential check a line may fail. -/
theorem verifyLoginCredentials_steady (hd : d) (username password : String) :
    Steady cfg A c d (verifyLoginCredentials cfg A username password) := by
  intro w _
  rw [verifyLoginCredentials, wp_bind, wp_callAdapter]
  split
  · rename_i success s hans
    cases success
    · simp only [Bool.not_false, if_true, wp_bind, wp_pure]
      exact performInvalidPasswordPunishments_cases cfg (fun w' => True ∧ w.Unchanged cfg A c d w')
        (fun r w' => r.Limited cfg c d ∧ w.Unchanged cfg A c d w')
        (fun hp => have hw := World.Unchanged.record_failedCheck w hd hans (k := 1) (by simp [hp])
          ⟨fun _ => ⟨trivial, hw⟩, fun _ => ⟨.of_tooManyIncorrectPasswords hd hp, hw⟩⟩)
        (fun hp => ⟨trivial, World.Unchanged.record_failedCheck w hd hans (k := 0) (by simp [hp])⟩)
    · have hok : isFailedCredentialCheck A (.verifyLoginCredentials username password,
          w.toSnapshot) = false := by
        simp only [isFailedCredentialCheck]
        rw [show A.verifyLoginCredentials username password w.adapter = .ok (true, s) from hans]
      exact ⟨trivial, World.Unchanged.record w (by rfl) hok
        (.single ⟨.verifyLoginCredentials username password, true, rfl, hans⟩)⟩
  · rename_i fault hans
    have hok : isFailedCredentialCheck A (.verifyLoginCredentials username password,
        w.toSnapshot) = false := by
      simp only [isFailedCredentialCheck]
      rw [show A.verifyLoginCredentials username password w.adapter = .error fault from hans]
    exact ⟨.adapterFault fault, World.Unchanged.record w (by rfl) hok .refl⟩

theorem getMessageCount_steady : Steady cfg A c d (getMessageCount A) :=
  (steady_callAdapter (by rfl) fun _ => by rfl).bind fun _ =>
    steady_ite_bind _ (steady_raise _ (.of_not_mem (by decide))) (steady_pure _) fun _ => steady_pure _

theorem isMessageMarkedAsDeleted_steady (index : Int) :
    Steady cfg A c d (isMessageMarkedAsDeleted A index) :=
  steady_getStatus_bind fun _ =>
    steady_ite _ (steady_pure _) (steady_callAdapter (by rfl) fun _ => by rfl)

theorem forEachUndeleted_steady {β : Type} {f : Int → SessionM σ β}
    (hf : ∀ i, Steady cfg A c d (f i)) (indices : List Int) :
    Steady cfg A c d (forEachUndeleted A f indices) := by
  induction indices with
  | nil => exact steady_pure _
  | cons index rest ih =>
    have rest : ∀ entry, Steady cfg A c d (do
        let entries ← forEachUndeleted A f rest
        pure (entry ++ entries)) := fun _ => ih.bind fun _ => steady_pure _
    exact (isMessageMarkedAsDeleted_steady cfg A index).bind fun _ =>
      steady_ite _ ((steady_pure _).bind rest)
        ((hf index).bind fun _ => (steady_pure _).bind rest)

theorem getUndeletedMessageCount_steady : Steady cfg A c d (getUndeletedMessageCount A) :=
  (getMessageCount_steady cfg A).bind fun _ =>
    (forEachUndeleted_steady cfg A (fun _ => steady_pure _) _).bind fun _ => steady_pure _

theorem getMessageContent_steady (index : Int) : Steady cfg A c d (getMessageContent A index) :=
  steady_getStatus_bind fun _ => steady_callAdapter (by rfl) fun _ => by rfl

theorem getHeadersAndFirstNLinesOfAMessage_steady (index : Int) (n : Nat) :
    Steady cfg A c d (getHeadersAndFirstNLinesOfAMessage A index n) :=
  (getMessageContent_steady cfg A index).bind fun _ => steady_pure _

theorem getMessageSize_steady (index : Int) : Steady cfg A c d (getMessageSize A index) := by
  refine (getMessageContent_steady cfg A index).bind fun _ => steady_getStatus_bind fun _ => ?_
  split
  · exact steady_pure _
  · exact steady_raise _ (.of_not_mem (by decide))

theorem getAllUndeletedMessagesSizes_steady :
    Steady cfg A c d (getAllUndeletedMessagesSizes A) :=
  (getMessageCount_steady cfg A).bind fun _ =>
    forEachUndeleted_steady cfg A (getMessageSize_steady cfg A) _

theorem getMessageUniqueId_steady (index : Int) :
    Steady cfg A c d (getMessageUniqueId A index) :=
  (steady_callAdapter (by rfl) fun _ => by rfl).bind fun _ =>
    steady_ite_bind _ (steady_raise _ (.of_not_mem (by decide))) (steady_pure _) fun _ => steady_pure _

theorem getAllUndeletedMessagesUniqueIds_steady :
    Steady cfg A c d (getAllUndeletedMessagesUniqueIds A) :=
  (getMessageCount_steady cfg A).bind fun _ =>
    (forEachUndeleted_steady cfg A (getMessageUniqueId_steady cfg A) _).bind fun _ =>
      steady_ite_bind _ (steady_raise _ (.of_not_mem (by decide))) (steady_pure _) fun _ => steady_pure _

theorem commitDeletions_silent : Silent cfg A (commitDeletions A) :=
  silent_getStatus_bind fun _ => by
    split
    · exact fun w => World.Counted.refl w
    · exact silent_callAdapter fun _ => by rfl

/-- `mark_message_as_deleted` and `unmark_messages_marked_as_deleted`, answered `+OK`:
the read-only check raises before the call, and nothing after the call raises `-ERR`. -/
theorem answers_guarded_callAdapter_then {α : Type} (call : AdapterCall)
    (hf : ∀ snap : Snapshot σ, isFailedCredentialCheck A (call, snap) = false)
    {e : SendDataToClientException} (he : Final cfg A (raise e : SessionM σ α)) :
    Answers cfg A c d ((do
      let st ← getStatus
      if st.readOnlyMailboxAccess then raise errReadOnlyMailboxAccess
      callAdapter A call) >>= fun _ => (raise e : SessionM σ α)) := fun w => by
  simp only [wp_bind, wp_getStatus]
  split
  · exact ⟨fun _ => .refl w, .refl w, .of_not_mem (by decide)⟩
  · have hcall := (Final.bind (silent_callAdapter hf : Silent cfg A (callAdapter A call)) fun _ => he).answers_from
      (c := c) (d := d) (World.Counted.refl w)
    simpa only [wp_bind, wp_pure] using hcall

end AdapterHelperWrapper

/-- `authentication_successful`, followed by code that never answers `-ERR`: a refusal of
the registry raises `-ERR [IN-USE]` with nothing changed, and an accepted login is only
followed by `login_successful` and that code. -/
theorem answers_authenticationSuccessful_bind {σ α : Type} (cfg : Settings) (A : AdapterBase σ)
    {c d : Prop} (username : String) {k : Unit → SessionM σ α} (hk : ∀ x, Final cfg A (k x)) :
    Answers cfg A c d (authenticationSuccessful A username >>= k) := fun w => by
  rw [wp_bind, authenticationSuccessful, wp_bind, wp_addClient]
  dsimp only
  cases hadd : (addClientLocked w.clients w.status.connectionInfo.connectionId username
    w.status.readOnlyMailboxAccess).1
  · rw [addClientLocked_of_refuses hadd]
    simp only [wp_bind, wp_ite, wp_raise, Bool.not_false, if_true]
    exact ⟨fun _ => .refl w, .refl w, .of_not_mem (by decide)⟩
  · simp only [wp_bind, wp_ite, wp_pure, wp_modifyStatus, Bool.not_true, Bool.false_eq_true,
      if_false]
    have hlogin : Silent cfg A (AdapterHelperWrapper.loginSuccessful A username) :=
      silent_getStatus_bind fun _ => silent_callAdapter fun _ => by rfl
    refine wp_mono (fun x w' h => (hk x).answers_from ((?_ : w.Counted cfg A c d _).trans
      (h.mono False.elim False.elim))) (fun r _ h => ⟨fun hs => absurd hs fun ⟨e, he, _⟩ => h.1 e he,
        (?_ : w.Counted cfg A c d _).trans (h.2.mono False.elim False.elim), .of_not_send h.1⟩)
      (hlogin _)
    all_goals exact { calls := List.prefix_refl _
                      invalidCommandCount := fun h => absurd rfl h
                      failedChecks := fun h => by simp [failedCredentialChecks] at h
                      invalidPasswordCount := by simp [failedCredentialChecks] }

/-! ## The command handlers -/

namespace ClientCommandHandler

open AdapterHelperWrapper

variable {σ : Type} (cfg : Settings) (A : AdapterBase σ) {c d : Prop}

theorem checkArgumentCount_steady (args : List String) (counts : List Nat) :
    Steady cfg A c d (checkArgumentCount args counts : SessionM σ Unit) :=
  steady_ite _ (steady_raise _ (.of_not_mem (by decide))) (steady_pure _)

theorem parseMessageNumberArgumentToIndex_steady (messageNumber : String) :
    Steady cfg A c d (parseMessageNumberArgumentToIndex A messageNumber) := by
  unfold parseMessageNumberArgumentToIndex
  split
  · exact steady_ite_bind _ (steady_raise _ (.of_not_mem (by decide))) (steady_pure _) fun _ =>
      (getMessageCount_steady cfg A).bind fun _ =>
        steady_ite_bind _ (steady_raise _ (.of_not_mem (by decide))) (steady_pure _) fun _ =>
          (isMessageMarkedAsDeleted_steady cfg A _).bind fun _ =>
            steady_ite_bind _ (steady_raise _ (.of_not_mem (by decide))) (steady_pure _) fun _ => steady_pure _
  · exact steady_raise _ (.of_not_mem (by decide))

theorem parseNumberOfLinesArgument_steady (numberOfLines : String) :
    Steady cfg A c d (parseNumberOfLinesArgument numberOfLines : SessionM σ Int) := by
  unfold parseNumberOfLinesArgument
  split
  · exact steady_ite_bind _ (steady_raise _ (.of_not_mem (by decide))) (steady_pure _) fun _ => steady_pure _
  · exact steady_raise _ (.of_not_mem (by decide))

/-- `_invalid_command` counts the command, which only an unknown verb may do. -/
theorem invalidCommand_answers (hc : c) :
    Answers cfg A c d (invalidCommand cfg : SessionM σ Unit) := by
  unfold invalidCommand
  split
  · rename_i hq
    intro w
    have hbump : w.Unchanged cfg A c d { w with status := { w.status with
        invalidCommandCount := w.status.invalidCommandCount + 1 } } :=
      { (World.Unchanged.refl w : w.Unchanged cfg A c d w) with
        invalidCommandCount := fun _ => hc
        invalidPasswordCount := by simp [failedCredentialChecks] }
    simp only [wp_bind, wp_modifyStatus, wp_getStatus, wp_ite, wp_raise, wp_pure]
    split
    · exact ⟨fun _ => hbump, hbump.toCounted, .of_invalidCommand hc (.inr ⟨rfl, hq⟩)⟩
    · exact ⟨fun _ => hbump, hbump.toCounted, .of_invalidCommand hc (.inl rfl)⟩
  · exact Answers.bind (steady_pure _) fun _ => answers_raise _ (.of_invalidCommand hc (.inl rfl))

theorem commandCapa_answers (args : List String) : Answers cfg A c d (commandCapa A args) :=
  Answers.bind (checkArgumentCount_steady cfg A _ _) fun _ =>
    Answers.bind (readOnlyModeAllowed_steady cfg A) fun _ => answers_raise _ (.of_success rfl)

theorem commandQuitInAuthorizationState_answers (args : List String) :
    Answers cfg A c d (commandQuitInAuthorizationState args : SessionM σ Unit) :=
  Answers.bind (checkArgumentCount_steady cfg A _ _) fun _ => answers_raise _ (.of_success rfl)

theorem commandQuitInTransactionState_answers (args : List String) :
    Answers cfg A c d (commandQuitInTransactionState A args) :=
  Answers.bind (checkArgumentCount_steady cfg A _ _) fun _ => Answers.of_final <|
    Final.bind (commitDeletions_silent cfg A) fun _ => (final_raise_ok_text _ (by decide)).2

theorem commandXpro_answers (args : List String) : Answers cfg A c d (commandXpro A args) :=
  Answers.bind (checkArgumentCount_steady cfg A _ _) fun _ =>
    Answers.bind (readOnlyModeAllowed_steady cfg A) fun _ =>
      answers_ite_bind _ (steady_raise _ (.of_not_mem (by decide))) (steady_pure _) fun _ => Answers.of_final <|
        Final.bind (silent_modifyStatus fun _ => ⟨rfl, rfl⟩) fun _ =>
          (final_raise_ok_text _ (by decide)).1

theorem commandUtf8_answers (args : List String) :
    Answers cfg A c d (commandUtf8 args : SessionM σ Unit) :=
  Answers.bind (checkArgumentCount_steady cfg A _ _) fun _ => Answers.of_final <|
    Final.bind (silent_modifyStatus fun _ => ⟨rfl, rfl⟩) fun _ =>
      (final_raise_ok_text _ (by decide)).1

theorem commandLang_answers (args : List String) :
    Answers cfg A c d (commandLang args : SessionM σ Unit) := by
  refine Answers.bind (checkArgumentCount_steady cfg A _ _) fun _ => ?_
  split
  · exact answers_raise _ (.of_success rfl)
  · exact Answers.ite _ (Answers.of_final <| Final.bind (silent_modifyStatus fun _ => ⟨rfl, rfl⟩)
        fun _ => Final.raise_bind (final_raise_ok_text _ (by decide)).1)
      (Answers.bind (steady_pure _) fun _ => answers_raise _ (.of_not_mem (by decide)))

theorem commandNoop_answers (args : List String) :
    Answers cfg A c d (commandNoop args : SessionM σ Unit) :=
  Answers.bind (checkArgumentCount_steady cfg A _ _) fun _ => answers_raise _ (.of_success rfl)

theorem commandUser_answers (args : List String) :
    Answers cfg A c d (commandUser args : SessionM σ Unit) :=
  Answers.bind (checkArgumentCount_steady cfg A _ _) fun _ => Answers.of_final <|
    Final.bind (silent_modifyStatus fun _ => ⟨rfl, rfl⟩) fun _ =>
      (final_raise_ok_text _ (by decide)).1

/-- `PASS`, the one handler that checks credentials. -/
theorem commandPass_answers (hd : d) (args : List String) :
    Answers cfg A c d (commandPass cfg A args) := by
  refine answers_getStatus_bind fun st => ?_
  split
  · rename_i username _
    exact answers_ite_bind _ (steady_raise _ (.of_not_mem (by decide))) (steady_pure _) fun _ =>
      Answers.bind (verifyLoginCredentials_steady cfg A hd _ _) fun _ =>
        answers_ite_bind _ (steady_raise _ (.of_not_mem (by decide))) (steady_pure _) fun _ =>
          answers_authenticationSuccessful_bind cfg A username fun _ =>
            final_getStatus_bind fun st => final_raise_ok rfl rfl rfl rfl (by split <;> decide)
  · exact answers_raise _ (.of_not_mem (by decide))

theorem commandStat_answers (args : List String) : Answers cfg A c d (commandStat A args) :=
  Answers.bind (checkArgumentCount_steady cfg A _ _) fun _ =>
    Answers.bind (getUndeletedMessageCount_steady cfg A) fun _ =>
      Answers.bind (getAllUndeletedMessagesSizes_steady cfg A) fun _ => answers_raise _ (.of_success rfl)

theorem commandList_answers (args : List String) : Answers cfg A c d (commandList A args) := by
  refine Answers.bind (checkArgumentCount_steady cfg A _ _) fun _ => ?_
  split
  · exact Answers.bind (getAllUndeletedMessagesSizes_steady cfg A) fun _ => answers_raise _ (.of_success rfl)
  · exact Answers.bind (parseMessageNumberArgumentToIndex_steady cfg A _) fun _ =>
      Answers.bind (getMessageSize_steady cfg A _) fun _ => answers_raise _ (.of_success rfl)

theorem commandUidl_answers (args : List String) : Answers cfg A c d (commandUidl A args) := by
  refine Answers.bind (checkArgumentCount_steady cfg A _ _) fun _ => ?_
  split
  · exact Answers.bind (getAllUndeletedMessagesUniqueIds_steady cfg A) fun _ => answers_raise _ (.of_success rfl)
  · exact Answers.bind (parseMessageNumberArgumentToIndex_steady cfg A _) fun _ =>
      Answers.bind (getMessageUniqueId_steady cfg A _) fun _ => answers_raise _ (.of_success rfl)

theorem commandRetr_answers (args : List String) : Answers cfg A c d (commandRetr A args) :=
  Answers.bind (checkArgumentCount_steady cfg A _ _) fun _ =>
    Answers.bind (parseMessageNumberArgumentToIndex_steady cfg A _) fun _ =>
      Answers.bind (getMessageContent_steady cfg A _) fun _ => answers_raise _ (.of_success rfl)

theorem commandTop_answers (args : List String) : Answers cfg A c d (commandTop A args) :=
  Answers.bind (checkArgumentCount_steady cfg A _ _) fun _ =>
    Answers.bind (parseMessageNumberArgumentToIndex_steady cfg A _) fun _ =>
      Answers.bind (parseNumberOfLinesArgument_steady cfg A _) fun _ =>
        Answers.bind (getHeadersAndFirstNLinesOfAMessage_steady cfg A _ _) fun _ =>
          answers_raise _ (.of_success rfl)

theorem commandDele_answers (args : List String) : Answers cfg A c d (commandDele A args) :=
  Answers.bind (checkArgumentCount_steady cfg A _ _) fun _ =>
    Answers.bind (parseMessageNumberArgumentToIndex_steady cfg A _) fun _ =>
      answers_guarded_callAdapter_then cfg A _ (fun _ => by rfl) (final_raise_ok_text _ (by decide)).1

theorem commandRset_answers (args : List String) : Answers cfg A c d (commandRset A args) :=
  Answers.bind (checkArgumentCount_steady cfg A _ _) fun _ =>
    answers_guarded_callAdapter_then cfg A _ (fun _ => by rfl) (final_raise_ok_text _ (by decide)).1

theorem handleAuthorizationStateCommand_answers (command : String) (args : List String) :
    Answers cfg A (command ∉ stateVerbs false) (command = "PASS")
      (handleAuthorizationStateCommand cfg A command args) := by
  unfold handleAuthorizationStateCommand
  split
  exacts [commandCapa_answers cfg A args, commandQuitInAuthorizationState_answers cfg A args,
    commandXpro_answers cfg A args, commandUtf8_answers cfg A args,
    commandLang_answers cfg A args, commandUser_answers cfg A args,
    commandPass_answers cfg A rfl args, invalidCommand_answers cfg A (by simp_all [stateVerbs])]

theorem handleTransactionStateCommand_answers (command : String) (args : List String) :
    Answers cfg A (command ∉ stateVerbs true) False
      (handleTransactionStateCommand cfg A command args) := by
  unfold handleTransactionStateCommand
  split
  exacts [commandCapa_answers cfg A args, commandLang_answers cfg A args,
    commandNoop_answers cfg A args, commandQuitInTransactionState_answers cfg A args,
    commandStat_answers cfg A args, commandList_answers cfg A args,
    commandUidl_answers cfg A args, commandRetr_answers cfg A args, commandTop_answers cfg A args,
    commandDele_answers cfg A args, commandRset_answers cfg A args,
    invalidCommand_answers cfg A (by simp_all [stateVerbs])]

/-- Every command handler, in the state the session is in: it never returns; the count
of invalid commands moves, and `Invalid command` or `Too many invalid commands` is
answered, only for a verb missing from the state's table; credential checks fail, and
`Too many incorrect passwords` is answered, only in `PASS` before the login; and an
answer sent as `-ERR` leaves the world unchanged. -/
theorem handleCommand_answers (command : String) (args : List String) (w : World σ) :
    wp (handleCommand cfg A command args) (fun _ _ => False)
      (fun r w' => (r.SentAsErr w' → w.Unchanged cfg A (command ∉ stateVerbs w.status.authenticated)
          (command = "PASS" ∧ w.status.authenticated = false) w') ∧
        w.Counted cfg A (command ∉ stateVerbs w.status.authenticated)
          (command = "PASS" ∧ w.status.authenticated = false) w' ∧
        r.Limited cfg (command ∉ stateVerbs w.status.authenticated)
          (command = "PASS" ∧ w.status.authenticated = false)) w := by
  rw [handleCommand, wp_bind, wp_getStatus]
  split
  · rename_i h
    have hanswers : Answers cfg A (command ∉ stateVerbs true)
        (command = "PASS" ∧ w.status.authenticated = false)
        (handleTransactionStateCommand cfg A command args) :=
      (handleTransactionStateCommand_answers cfg A command args).mono id False.elim
    simpa [h] using hanswers w
  · rename_i h
    simpa [Bool.eq_false_iff.mpr h] using handleAuthorizationStateCommand_answers cfg A command args w

end ClientCommandHandler

/-! ## One answer per line -/

theorem exists_error_of_wp {σ α : Type} {m : SessionM σ α} {E : Raised → World σ → Prop}
    {w : World σ} (h : wp m (fun _ _ => False) E w) : ∃ r w', m w = .error r w' := by
  unfold wp at h
  split at h
  · exact h.elim
  · exact ⟨_, _, ‹_›⟩

/-- Under the languages a session uses, every response is written: if it does not encode,
the `[UTF8]` substitute does. -/
theorem encodeAndSendDataToClient_isSome {st : ClientStatusHolder}
    (hlanguage : st.customLanguage = none ∨ st.customLanguage = some "en")
    (e : SendDataToClientException) : (ClientHandler.encodeAndSendDataToClient st e).isSome := by
  unfold ClientHandler.encodeAndSendDataToClient
  split
  · rfl
  · rw [Option.isSome_iff_ne_none, Ne, buildMessage_utf8_eq_none_iff,
      encodeWith_eq_none_iff]
    rcases hlanguage with h | h <;> simp only [h] <;>
      exact fun ⟨_, c, hc, hna⟩ => hna (by revert c; decide)

namespace ClientHandler

variable {σ : Type} (cfg : Settings) (A : AdapterBase σ)

/-- A line is answered with a response written in the world the handler left, or ends
with an adapter exception. -/
theorem processLine_outcome (line : String) (w : World σ) :
    (∃ e, (processLine cfg A line w).1 = sendResponse (processLine cfg A line w).2 e) ∨
      ∃ fault, (processLine cfg A line w).1 = .adapterFault fault := by
  unfold processLine
  split
  · exact .inl ⟨_, rfl⟩
  · rename_i command args _
    obtain ⟨r, w', hw⟩ := exists_error_of_wp
      (ClientCommandHandler.handleCommand_answers cfg A command args w)
    rw [hw]
    cases r with
    | send e => exact .inl ⟨e, rfl⟩
    | adapterFault fault => exact .inr ⟨fault, rfl⟩

/-- A response sent as `-ERR` by `_encode_and_send_data_to_client`. -/
theorem sentAsErr_of_sendResponse {w : World σ} {e : SendDataToClientException}
    {bytes : List UInt8} {close : Bool} (h : sendResponse w e = .sent bytes close)
    (herr : bytes.head? = some 45) : SentAsErr w.status e := by
  unfold sendResponse at h
  split at h
  · cases h
    exact ⟨_, ‹_›, herr⟩
  · cases h

end ClientHandler

/-- `handle_command` never returns normally: from every world (either state, any access
mode, encoding and language) and for every command and arguments it raises.  So a line
of a live session is answered by exactly one write, unless an adapter exception escapes:
the `POP3SFRuntimeError` branch is never taken, and the `[UTF8]` substitute is always
written. -/
theorem handleCommand_never_returns {σ : Type} (cfg : Settings) (A : AdapterBase σ) :
    (∀ (w : World σ) (command : String) (args : List String),
      ∃ r w', ClientCommandHandler.handleCommand cfg A command args w = .error r w') ∧
    ∀ (s : Session σ) (line : String), SessionReachable cfg A s → s.phase = .serving →
      (∃ bytes close, (ClientHandler.processLine cfg A line s.world).1 = .sent bytes close) ∨
        ∃ fault, (ClientHandler.processLine cfg A line s.world).1 = .adapterFault fault := by
  refine ⟨fun w command args =>
    exists_error_of_wp (ClientCommandHandler.handleCommand_answers cfg A command args w),
    fun s line hs hph => ?_⟩
  have ht : SessionReachable cfg A (s.serveLine cfg A line) := .step hs (.own (.line s line hph))
  have hlanguage :=
    (ht.invariant.consistent (Session.serveLine_phase_ne_closed cfg A s line)).customLanguage_mem
  rw [Session.serveLine_world] at hlanguage
  rcases ClientHandler.processLine_outcome cfg A line s.world with ⟨e, he⟩ | hfault
  · obtain ⟨bytes, hbytes⟩ :=
      Option.isSome_iff_exists.mp (encodeAndSendDataToClient_isSome hlanguage e)
    exact .inl ⟨bytes, _, by rw [he, ClientHandler.sendResponse, hbytes]⟩
  · exact .inr hfault

/-! ## -ERR answers are atomic -/

/-- A line answered `-ERR`, the `[UTF8]` substitute included, from any world: the session
state but for the two counts of invalid input, the registry and the deletion marks are
as they were; the count of invalid commands moved only for a verb missing from the
state's table, and the count of invalid passwords only by the credential checks that
failed, which only `PASS` before the login makes. -/
theorem err_line_atomic {σ : Type} (cfg : Settings) (A : AdapterBase σ) (line : String)
    (w : World σ) {bytes : List UInt8} {close : Bool}
    (hsent : (ClientHandler.processLine cfg A line w).1 = .sent bytes close)
    (herr : bytes.head? = some 45) :
    w.Unchanged cfg A
      (∃ command args, ClientHandler.parseCommand line = .ok (command, args) ∧
        command ∉ stateVerbs w.status.authenticated)
      (w.status.authenticated = false ∧ ∃ args, ClientHandler.parseCommand line = .ok ("PASS", args))
      (ClientHandler.processLine cfg A line w).2 := by
  unfold ClientHandler.processLine at hsent ⊢
  split
  · exact .refl w
  · rename_i command args hparse
    have h := ClientCommandHandler.handleCommand_answers cfg A command args w
    unfold wp at h
    split at h
    · exact h.elim
    · rename_i r w' hw
      rw [hparse] at hsent
      simp only [hw] at hsent ⊢
      cases r with
      | send e =>
        exact (h.1 ⟨e, rfl, ClientHandler.sentAsErr_of_sendResponse hsent herr⟩).mono
          (fun hc => ⟨command, args, hparse, hc⟩) fun ⟨hp, ha⟩ => ⟨ha, args, hp ▸ hparse⟩
      | adapterFault fault => cases hsent

/-- `PASS pw` before any `USER`: `-ERR [AUTH]`, and nothing changed. -/
theorem err_line_atomic_pass_before_user :
    ∃ (w : World ListAdapter) (bytes : List UInt8) (close : Bool),
      w = ⟨⟨ClientStatusHolder.new ⟨1, "127.0.0.1", 50000⟩, ListAdapter.new "bob" "pw" ["hi"], []⟩,
        []⟩ ∧
      (ClientHandler.processLine Settings.default (ListAdapter.adapter id) "PASS pw" w).1 =
        .sent bytes close ∧ bytes.head? = some 45 ∧
      w.Unchanged Settings.default (ListAdapter.adapter id)
        (∃ command args, ClientHandler.parseCommand "PASS pw" = .ok (command, args) ∧
          command ∉ stateVerbs w.status.authenticated)
        (w.status.authenticated = false ∧
          ∃ args, ClientHandler.parseCommand "PASS pw" = .ok ("PASS", args))
        (ClientHandler.processLine Settings.default (ListAdapter.adapter id) "PASS pw" w).2 :=
  ⟨_, _, _, rfl, rfl, by decide, err_line_atomic _ _ _ _ rfl (by decide)⟩

end Pop3sf
