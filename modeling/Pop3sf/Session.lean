import Pop3sf.Exclusivity
import Pop3sf.Response
import Pop3sf.Adapter
import Pop3sf.Builtins

set_option autoImplicit false

/-!
# Session state and the adapter helper (`ClientStatusHolder.py`, `AdapterHelperWrapper.py`)

One session's state is the `ClientStatusHolder`; the code that runs a command
also touches the session's adapter and the process-wide exclusivity registry.
All three make up a `World`, together with a record of every adapter call made
so far and the state it was made in (`calls`).  The record is how statements about
"every call the core makes" are written; the server keeps no such list.

The command code is Python that mutates state and raises a
`SendDataToClientException` to answer; the mutations made before the raise stay.
`SessionM` is therefore `EStateM`, whose errors keep the state: an error is either
the response being sent (`Raised.send`) or an adapter's exception escaping
(`Raised.adapterFault`).

`AdapterThreadLockingWrapper` only takes a lock around each call, which changes
nothing within one session, so a call of the helper goes straight to the adapter.
`time.sleep(FAILED_LOGIN_DELAY)` and logging are not modelled.
-/

namespace Pop3sf

/-- The options of `Settings.py` that the session code reads. -/
structure Settings where
  maxInvalidCommandsPerSession : Int
  maxInvalidPasswordsPerSession : Int
  deriving DecidableEq, Repr

/-- The values `Settings.py` ships with. -/
def Settings.default : Settings := ⟨-1, 3⟩

/-- `ClientConnectionInfoHolder`, without the socket and the timestamp. -/
structure ClientConnectionInfoHolder where
  connectionId : Nat
  address : String
  port : Nat
  deriving DecidableEq, Repr

/-- `ClientStatusHolder`, without the adapter helper (the adapter is in `World`). -/
structure ClientStatusHolder where
  connectionInfo : ClientConnectionInfoHolder
  authenticated : Bool
  username : Option String
  authorizationStateUsername : Option String
  readOnlyMailboxAccess : Bool
  encoding : String
  customLanguage : Option String
  invalidCommandCount : Nat
  invalidPasswordCount : Nat
  deriving DecidableEq, Repr

/-- `ClientStatusHolder.__init__`. -/
def ClientStatusHolder.new (connectionInfo : ClientConnectionInfoHolder) :
    ClientStatusHolder :=
  ⟨connectionInfo, false, none, none, false, "ascii", none, 0, 0⟩

/-- What a session's code sees at one instant. -/
structure Snapshot (σ : Type) where
  status : ClientStatusHolder
  adapter : σ
  clients : List Client

/-- A session's state, the adapter's state and the registry, with every adapter
call made so far and the snapshot it was made in. -/
structure World (σ : Type) extends Snapshot σ where
  calls : List (AdapterCall × Snapshot σ)

/-- What escapes a command handler. -/
inductive Raised where
  | send (response : SendDataToClientException)
  | adapterFault (fault : AdapterFault)
  deriving DecidableEq, Repr

/-- Command code: state that survives a raise. -/
abbrev SessionM (σ : Type) := EStateM Raised (World σ)

/-- The state a run ends in, whether it returned or raised. -/
def World.after {σ α : Type} : EStateM.Result Raised (World σ) α → World σ
  | .ok _ w => w
  | .error _ w => w

/-- The world with a call recorded in it, made in its current state. -/
def World.record {σ : Type} (w : World σ) (call : AdapterCall) : World σ :=
  { w with calls := w.calls ++ [(call, w.toSnapshot)] }

section Record

variable {σ : Type} (w : World σ) (call : AdapterCall)

@[simp] theorem World.record_status : (w.record call).status = w.status := rfl

@[simp] theorem World.record_adapter : (w.record call).adapter = w.adapter := rfl

@[simp] theorem World.record_clients : (w.record call).clients = w.clients := rfl

@[simp] theorem World.record_calls : (w.record call).calls = w.calls ++ [(call, w.toSnapshot)] :=
  rfl

end Record

namespace SessionM

variable {σ : Type}

def getStatus : SessionM σ ClientStatusHolder := fun w => .ok w.status w

def modifyStatus (f : ClientStatusHolder → ClientStatusHolder) : SessionM σ Unit :=
  fun w => .ok () { w with status := f w.status }

/-- `raise e` for a response `e`. -/
def raise {α : Type} (e : SendDataToClientException) : SessionM σ α :=
  fun w => .error (.send e) w

/-- Call an adapter method, recording the call and the snapshot it is made in. -/
def callAdapter (A : AdapterBase σ) (call : AdapterCall) : SessionM σ call.Answer := fun w =>
  match A.invoke call w.adapter with
  | .ok (a, s) => .ok a { w.record call with adapter := s }
  | .error fault => .error (.adapterFault fault) (w.record call)

/-- `PerUserExclusivityEnsurer.add_client` for this session's connection. -/
def addClient (username : String) : SessionM σ Bool := fun w =>
  let r := addClientLocked w.clients w.status.connectionInfo.connectionId username
    w.status.readOnlyMailboxAccess
  .ok r.1 { w with clients := r.2 }

/-! ## Weakest preconditions

Statements about command code are statements about `wp`: one equation per
primitive, and `wp_bind` to go through a `do` block. -/

/-- Run from `w`, `m` returns `a` in a world satisfying `Q a`, or raises `r` in a
world satisfying `E r`. -/
def wp {α : Type} (m : SessionM σ α) (Q : α → World σ → Prop) (E : Raised → World σ → Prop)
    (w : World σ) : Prop :=
  match m w with
  | .ok a w' => Q a w'
  | .error r w' => E r w'

section Wp

variable {α β : Type} {Q : α → World σ → Prop} {E : Raised → World σ → Prop} {w : World σ}

@[simp] theorem wp_pure (a : α) : wp (pure a) Q E w = Q a w := rfl

@[simp] theorem wp_bind (m : SessionM σ β) (f : β → SessionM σ α) :
    wp (m >>= f) Q E w = wp m (fun b => wp (f b) Q E) E w := by
  simp only [wp, bind, EStateM.bind]
  cases m w <;> rfl

@[simp] theorem wp_getStatus {Q : ClientStatusHolder → World σ → Prop} :
    wp getStatus Q E w = Q w.status w := rfl

@[simp] theorem wp_modifyStatus {Q : Unit → World σ → Prop} (f : ClientStatusHolder → ClientStatusHolder) :
    wp (modifyStatus f) Q E w = Q () { w with status := f w.status } := rfl

@[simp] theorem wp_raise (e : SendDataToClientException) : wp (raise e) Q E w = E (.send e) w := rfl

theorem wp_callAdapter (A : AdapterBase σ) (call : AdapterCall) {Q : call.Answer → World σ → Prop} :
    wp (callAdapter A call) Q E w =
      match A.invoke call w.adapter with
      | .ok (a, s) => Q a { w.record call with adapter := s }
      | .error fault => E (.adapterFault fault) (w.record call) := by
  unfold wp callAdapter
  cases A.invoke call w.adapter <;> rfl

@[simp] theorem wp_addClient {Q : Bool → World σ → Prop} (username : String) :
    wp (addClient username) Q E w =
      let r := addClientLocked w.clients w.status.connectionInfo.connectionId username
        w.status.readOnlyMailboxAccess
      Q r.1 { w with clients := r.2 } := rfl

@[simp] theorem wp_ite (p : Prop) [Decidable p] (x y : SessionM σ α) :
    wp (if p then x else y) Q E w = if p then wp x Q E w else wp y Q E w := by
  split <;> rfl

theorem wp_mono {m : SessionM σ α} {Q' : α → World σ → Prop} {E' : Raised → World σ → Prop}
    (hQ : ∀ a w', Q a w' → Q' a w') (hE : ∀ r w', E r w' → E' r w') (h : wp m Q E w) :
    wp m Q' E' w := by
  revert h
  unfold wp
  cases m w with
  | ok a w' => exact hQ a w'
  | error r w' => exact hE r w'

/-- What `wp` promises for both outcomes holds of the world the run ends in. -/
theorem wp_after {m : SessionM σ α} {P : World σ → Prop} (h : wp m (fun _ => P) (fun _ => P) w) :
    P (World.after (m w)) := by
  revert h
  unfold wp World.after
  cases m w <;> exact id

end Wp

/-! ## Triples

A statement about command code is a `Triple`: a precondition, a postcondition for
the value returned and one for the exception raised, and a relation `R` between
the start and the end (how the code may change the world).  `R` is reflexive and
transitive, so that triples compose along `do` blocks. -/

section Triple

variable {α β : Type} (R : World σ → World σ → Prop)

/-- Run from a world satisfying `P`, `m` returns `a` in a world satisfying `Q a` or
raises `r` in a world satisfying `E r`, in both cases one that `R` relates to the
start. -/
def Triple (P : World σ → Prop) (m : SessionM σ α) (Q : α → World σ → Prop)
    (E : Raised → World σ → Prop) : Prop :=
  ∀ w, P w → wp m (fun a w' => Q a w' ∧ R w w') (fun r w' => E r w' ∧ R w w') w

variable {R} {P P' : World σ → Prop} {Q Q' : α → World σ → Prop} {S : β → World σ → Prop}
  {E E' : Raised → World σ → Prop}

theorem Triple.mono {m : SessionM σ α} (hP : ∀ w, P' w → P w) (hQ : ∀ a w, Q a w → Q' a w)
    (hE : ∀ r w, E r w → E' r w) (h : Triple R P m Q E) : Triple R P' m Q' E' := fun w hw =>
  wp_mono (fun _ _ h => ⟨hQ _ _ h.1, h.2⟩) (fun _ _ h => ⟨hE _ _ h.1, h.2⟩) (h w (hP w hw))

theorem Triple.pure [IsRefl (World σ) R] (a : α) (h : ∀ w, P w → Q a w) :
    Triple R P (Pure.pure a) Q E :=
  fun w hw => ⟨h w hw, refl_of R w⟩

theorem Triple.raise [IsRefl (World σ) R] (e : SendDataToClientException)
    (h : ∀ w, P w → E (.send e) w) : Triple R P (raise e : SessionM σ α) Q E :=
  fun w hw => ⟨h w hw, refl_of R w⟩

/-- Code after a raise never runs. -/
theorem Triple.raise_bind [IsRefl (World σ) R] (e : SendDataToClientException)
    {f : β → SessionM σ α} (h : ∀ w, P w → E (.send e) w) :
    Triple R P (SessionM.raise e >>= f) Q E :=
  fun w hw => ⟨h w hw, refl_of R w⟩

theorem Triple.pure_bind {a : β} {f : β → SessionM σ α} (h : Triple R P (f a) Q E) :
    Triple R P (Pure.pure a >>= f) Q E := h

theorem Triple.modifyStatus {f : ClientStatusHolder → ClientStatusHolder} {Q : Unit → World σ → Prop}
    (h : ∀ w, P w → Q () { w with status := f w.status } ∧ R w { w with status := f w.status }) :
    Triple R P (modifyStatus f) Q E := h

theorem Triple.callAdapter {A : AdapterBase σ} {call : AdapterCall}
    {Q : call.Answer → World σ → Prop}
    (h : ∀ w, P w →
      (∀ fault, A.invoke call w.adapter = .error fault →
        E (.adapterFault fault) (w.record call) ∧ R w (w.record call)) ∧
      ∀ a s, A.invoke call w.adapter = .ok (a, s) →
        Q a { w.record call with adapter := s } ∧ R w { w.record call with adapter := s }) :
    Triple R P (callAdapter A call) Q E := by
  intro w hw
  rw [wp_callAdapter]
  split
  · exact (h w hw).2 _ _ ‹_›
  · exact (h w hw).1 _ ‹_›

theorem Triple.bind [IsTrans (World σ) R] {m : SessionM σ β} {f : β → SessionM σ α}
    (hm : Triple R P m S E) (hf : ∀ b, Triple R (S b) (f b) Q E) : Triple R P (m >>= f) Q E := by
  intro w hw
  rw [wp_bind]
  refine wp_mono (fun b w' h => ?_) (fun _ _ h => h) (hm w hw)
  exact wp_mono (fun _ _ h' => ⟨h'.1, trans_of R h.2 h'.2⟩) (fun _ _ h' => ⟨h'.1, trans_of R h.2 h'.2⟩)
    (hf b w' h.1)

/-- A triple used in the middle of a run: from `w₀` the world has already moved to `w`. -/
theorem Triple.wp_of [IsTrans (World σ) R] {m : SessionM σ α} {w₀ w : World σ}
    (h : Triple R P m Q E) (hP : P w) (hR : R w₀ w) (hQ : ∀ a w, Q a w → Q' a w)
    (hE : ∀ r w, E r w → E' r w) :
    wp m (fun a w' => Q' a w' ∧ R w₀ w') (fun r w' => E' r w' ∧ R w₀ w') w :=
  wp_mono (fun _ _ h' => ⟨hQ _ _ h'.1, trans_of R hR h'.2⟩)
    (fun _ _ h' => ⟨hE _ _ h'.1, trans_of R hR h'.2⟩) (h w hP)

theorem Triple.getStatus_bind {f : ClientStatusHolder → SessionM σ α}
    (h : ∀ st, Triple R (fun w => P w ∧ w.status = st) (f st) Q E) :
    Triple R P (getStatus >>= f) Q E := fun w hw => by
  rw [wp_bind, wp_getStatus]
  exact h w.status w ⟨hw, rfl⟩

theorem Triple.ite (c : Prop) [Decidable c] {x y : SessionM σ α} (hx : Triple R P x Q E)
    (hy : Triple R P y Q E) : Triple R P (if c then x else y) Q E := by
  split
  · exact hx
  · exact hy

/-- A fact about values alone can be taken out of the precondition. -/
theorem Triple.of_fact {c : Prop} {m : SessionM σ α} (h : c → Triple R P m Q E) :
    Triple R (fun w => P w ∧ c) m Q E :=
  fun w hw => h hw.2 w hw.1

/-- A branch that relies on its condition. -/
theorem Triple.ite_of (c : Prop) [Decidable c] {x y : SessionM σ α} (hx : c → Triple R P x Q E)
    (hy : ¬c → Triple R P y Q E) : Triple R P (if c then x else y) Q E := by
  split
  · exact hx ‹_›
  · exact hy ‹_›

end Triple

/-! ## Invariants of command code

Most command code keeps one invariant `I` whichever way it ends: a triple with `I`
before and after. -/

section Preserves

variable {α β : Type} {R : World σ → World σ → Prop} {I : World σ → Prop}

/-- From a world satisfying `I`, `m` ends in one satisfying `I` and related to the start
by `R`, whether it returns or raises. -/
def Preserves (R : World σ → World σ → Prop) (I : World σ → Prop) (m : SessionM σ α) : Prop :=
  Triple R I m (fun _ => I) (fun _ => I)

theorem Preserves.pure [IsRefl (World σ) R] (a : α) : Preserves R I (Pure.pure a) :=
  Triple.pure a fun _ => id

theorem Preserves.raise [IsRefl (World σ) R] (e : SendDataToClientException) :
    Preserves R I (SessionM.raise e : SessionM σ α) :=
  Triple.raise e fun _ => id

theorem Preserves.bind [IsTrans (World σ) R] {m : SessionM σ β} {f : β → SessionM σ α}
    (hm : Preserves R I m) (hf : ∀ b, Preserves R I (f b)) : Preserves R I (m >>= f) :=
  Triple.bind hm hf

theorem Preserves.getStatus_bind {f : ClientStatusHolder → SessionM σ α}
    (hf : ∀ st, Preserves R I (f st)) : Preserves R I (getStatus >>= f) :=
  Triple.getStatus_bind fun st => (hf st).mono (fun _ h => h.1) (fun _ _ => id) (fun _ _ => id)

/-- `if c then x` followed by `k`, as `do` notation compiles it. -/
theorem Preserves.ite_bind [IsTrans (World σ) R] (c : Prop) [Decidable c] {x y : SessionM σ β}
    {k : β → SessionM σ α} (hx : Preserves R I x) (hy : Preserves R I y)
    (hk : ∀ v, Preserves R I (k v)) : Preserves R I (if c then x >>= k else y >>= k) :=
  Triple.ite c (hx.bind hk) (hy.bind hk)

end Preserves

end SessionM

open SessionM SendDataToClientException

/-! ## `AdapterHelperWrapper` -/

namespace AdapterHelperWrapper

variable {σ : Type} (cfg : Settings) (A : AdapterBase σ)

def connectionOpened : SessionM σ Unit := do
  let st ← getStatus
  callAdapter A (.connectionOpened st.connectionInfo.address st.connectionInfo.port)

def readOnlyModeAllowed : SessionM σ Bool :=
  callAdapter A .readOnlyModeAllowed

/-- `_perform_invalid_password_punishments`, without the sleep. -/
def performInvalidPasswordPunishments : SessionM σ Unit := do
  if 0 ≤ cfg.maxInvalidPasswordsPerSession then
    modifyStatus fun st => { st with invalidPasswordCount := st.invalidPasswordCount + 1 }
    let st ← getStatus
    if (st.invalidPasswordCount : Int) > cfg.maxInvalidPasswordsPerSession then
      raise (err "Too many incorrect passwords" (some .auth)).closeConnectionAfterSendingData

def verifyLoginCredentials (username password : String) : SessionM σ Bool := do
  let success : Bool ← callAdapter A (.verifyLoginCredentials username password)
  if !success then performInvalidPasswordPunishments cfg
  pure success

def loginSuccessful (username : String) : SessionM σ Unit := do
  let st ← getStatus
  callAdapter A (.loginSuccessful username st.readOnlyMailboxAccess)

def getMessageCount : SessionM σ Int := do
  let messageCount : Int ← callAdapter A .getMessageCount
  if messageCount < 0 then raise errInternal
  pure messageCount

def isMessageMarkedAsDeleted (index : Int) : SessionM σ Bool := do
  let st ← getStatus
  if st.readOnlyMailboxAccess then pure false
  else callAdapter A (.isMessageMarkedAsDeleted index)

/-- `range(count)`. -/
def indices (count : Int) : List Int := (List.range count.toNat).map Int.ofNat

/-- The loop the helper runs three times: for each index in order, skip the
messages marked as deleted and pair the message number of every other one with
what `f` computes for it. -/
def forEachUndeleted {β : Type} (f : Int → SessionM σ β) : List Int → SessionM σ (List (Int × β))
  | [] => pure []
  | index :: rest => do
    let marked ← isMessageMarkedAsDeleted A index
    let entry ← if marked then pure [] else do
      let b ← f index
      pure [(convertIndexToMessageNumber index, b)]
    let entries ← forEachUndeleted f rest
    pure (entry ++ entries)

def getUndeletedMessageCount : SessionM σ Nat := do
  let count ← getMessageCount A
  let undeleted ← forEachUndeleted A (fun _ => pure ()) (indices count)
  pure undeleted.length

def getMessageContent (index : Int) : SessionM σ String := do
  let st ← getStatus
  callAdapter A (.getMessageContent index st.encoding)

/-- The text of `get_headers_and_first_n_lines_of_a_message`: the header lines up
to the first empty line, that line, and the first `n` body lines. -/
def headersAndFirstNLines (allLines : List String) (n : Nat) : String :=
  let headers := allLines.takeWhile (· ≠ "")
  let rest := allLines.dropWhile (· ≠ "")
  joinCrlf (headers ++ rest.take 1 ++ (rest.drop 1).take n)

def getHeadersAndFirstNLinesOfAMessage (index : Int) (n : Nat) : SessionM σ String := do
  let content ← getMessageContent A index
  pure (headersAndFirstNLines (splitLinesWithoutDiscardingEmptyLines content) n)

def markMessageAsDeleted (index : Int) : SessionM σ Unit := do
  let st ← getStatus
  if st.readOnlyMailboxAccess then raise errReadOnlyMailboxAccess
  callAdapter A (.markMessageAsDeleted index)

def unmarkMessagesMarkedAsDeleted : SessionM σ Unit := do
  let st ← getStatus
  if st.readOnlyMailboxAccess then raise errReadOnlyMailboxAccess
  callAdapter A .unmarkMessagesMarkedAsDeleted

def commitDeletions : SessionM σ Unit := do
  let st ← getStatus
  if st.readOnlyMailboxAccess then pure ()
  else callAdapter A .commitDeletions

def getMessageSize (index : Int) : SessionM σ Nat := do
  let content ← getMessageContent A index
  let st ← getStatus
  match encodeWith st.encoding (normalizeNewlines content.data) with
  | some bytes => pure bytes.length
  | none => raise (err ("The message, whose size was obtained, contains a non-ASCII " ++
      "character (the UTF-8 mode is not enabled)") (some .utf8))

def getAllUndeletedMessagesSizes : SessionM σ (List (Int × Nat)) := do
  let count ← getMessageCount A
  forEachUndeleted A (getMessageSize A) (indices count)

def getMessageUniqueId (index : Int) : SessionM σ String := do
  let uniqueId : String ← callAdapter A (.getMessageUniqueId index)
  if !uniqueIdMatches uniqueId then raise errInternal
  pure uniqueId

/-- Python's `$` also matches before a final newline, so an adapter's unique id
`abc\n`, which has a character outside `\x21-\x7e`, passes the check and is
returned. -/
theorem getMessageUniqueId_final_newline (w : World ListAdapter) :
    let A : AdapterBase ListAdapter :=
      { ListAdapter.adapter id with getMessageUniqueId := fun _ s => .ok ("abc\n", s) }
    SessionM.wp (getMessageUniqueId A 0) (fun u _ => u = "abc\n") (fun _ _ => False) w ∧
      ¬"abc\n".data.all isUniqueIdChar := by
  refine ⟨?_, by decide⟩
  simp only [getMessageUniqueId, SessionM.wp_bind, SessionM.wp_callAdapter]
  rfl

def getAllUndeletedMessagesUniqueIds : SessionM σ (List (Int × String)) := do
  let count ← getMessageCount A
  let entries ← forEachUndeleted A (getMessageUniqueId A) (indices count)
  if !(entries.map Prod.snd).Nodup then raise errInternal
  pure entries

def connectionClosed : SessionM σ Unit :=
  callAdapter A .connectionClosed

end AdapterHelperWrapper

/-- `ClientStatusHolder.authentication_successful`. -/
def authenticationSuccessful {σ : Type} (A : AdapterBase σ) (username : String) :
    SessionM σ Unit := do
  let added ← addClient username
  if !added then raise (err "This user is logged in in another session" (some .inUse))
  modifyStatus fun st =>
    { st with authenticated := true, username := some username,
              authorizationStateUsername := none }
  AdapterHelperWrapper.loginSuccessful A username

end Pop3sf
