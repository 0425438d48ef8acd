import Mathlib.Logic.Relation
import Pop3sf.Handler

set_option autoImplicit false

/-!
# What every session keeps true

`ClientStatusHolder` has no checks of its own: its fields are kept in agreement by
the command handlers that set them, and the exclusivity registry is kept in step
with them by `authentication_successful` and the teardown.  This module states
that agreement (`Consistent`), what holds of every adapter call in the state it is
made in (`CallOk`), and how a command may change the state (`World.Evolves`), and
proves them of every handler, then of every step and every run of a session.

Handlers of the AUTHORIZATION state run unauthenticated and the others
authenticated, so the handler lemmas fix the value of `authenticated` they start
from (`InvariantAt`); only `_command_pass` changes it.
-/

namespace Pop3sf

open SessionM SendDataToClientException

/-! ## The invariant -/

/-- The registry entry a session's status calls for: its own, once authenticated. -/
def ClientStatusHolder.registryEntry (st : ClientStatusHolder) : Option Client :=
  if st.authenticated then
    st.username.map fun u => ⟨st.connectionInfo.connectionId, u, st.readOnlyMailboxAccess⟩
  else none

/-- Whether a registry entry carries the session's connection id. -/
def ClientStatusHolder.owns (st : ClientStatusHolder) (c : Client) : Bool :=
  c.connectionId == st.connectionInfo.connectionId

theorem filter_owns_removeClientLocked (clients : List Client) (st : ClientStatusHolder) :
    (removeClientLocked clients st.connectionInfo.connectionId).filter st.owns = [] :=
  (filter_removeClientLocked clients _ _).trans (if_pos rfl)

/-- The status fields agree with each other and with the registry `clients`. -/
structure ClientStatusHolder.Consistent (st : ClientStatusHolder) (clients : List Client) :
    Prop where
  authenticated_eq : st.authenticated = st.username.isSome
  ownEntries_eq : clients.filter st.owns = st.registryEntry.toList
  authorizationStateUsername_eq : st.authenticated = true → st.authorizationStateUsername = none
  encoding_mem : st.encoding = "ascii" ∨ st.encoding = "utf-8"
  customLanguage_mem : st.customLanguage = none ∨ st.customLanguage = some "en"

/-- What holds of an adapter call in the state it is made in: the state is
consistent, the calls `AdapterBase` allows only after a login are made
authenticated, a read-only session leaves the deletion marks alone, and
`login_successful` gets the user and the access mode of the registry entry. -/
structure CallOk {σ : Type} (call : AdapterCall) (snap : Snapshot σ) : Prop where
  consistent : snap.status.Consistent snap.clients
  authenticated : call.needsLogin = true → snap.status.authenticated = true
  readOnly : snap.status.readOnlyMailboxAccess = true → call.touchesDeletionMarks = false
  loginSuccessful : ∀ u r, call = .loginSuccessful u r →
    snap.status.registryEntry = some ⟨snap.status.connectionInfo.connectionId, u, r⟩

/-- The invariant of a session's world while command code runs: the status is
consistent, every recorded call was `CallOk`, and the calls so far fit the current
state: none that needs a login before authentication, none that touches the
deletion marks in a read-only session, and a `login_successful` of a read-only
session says so. -/
structure World.Invariant {σ : Type} (w : World σ) : Prop where
  consistent : w.status.Consistent w.clients
  calls : ∀ p ∈ w.calls, CallOk p.1 p.2
  unauthenticated : w.status.authenticated = false → ∀ p ∈ w.calls,
    p.1.needsLogin = false ∧ ∀ u r, p.1 ≠ .loginSuccessful u r
  readOnly : w.status.readOnlyMailboxAccess = true → ∀ p ∈ w.calls,
    p.1.touchesDeletionMarks = false ∧ ∀ u r, p.1 = .loginSuccessful u r → r = true

/-- The invariant, in the AUTHORIZATION (`false`) or TRANSACTION (`true`) state. -/
def World.InvariantAt {σ : Type} (b : Bool) (w : World σ) : Prop :=
  w.Invariant ∧ w.status.authenticated = b

/-- How a session's status may change: the encoding and the language are only
ever set, the counters only grow, read-only access is never dropped, and an
authenticated session keeps its user and access mode. -/
structure ClientStatusHolder.Evolves (st st' : ClientStatusHolder) : Prop where
  connectionInfo_eq : st'.connectionInfo = st.connectionInfo
  encoding : st.encoding = "utf-8" → st'.encoding = "utf-8"
  customLanguage : st.customLanguage.isSome → st'.customLanguage = st.customLanguage
  invalidCommandCount_le : st.invalidCommandCount ≤ st'.invalidCommandCount
  invalidPasswordCount_le : st.invalidPasswordCount ≤ st'.invalidPasswordCount
  readOnly : st.readOnlyMailboxAccess = true → st'.readOnlyMailboxAccess = true
  authenticated : st.authenticated = true → st'.registryEntry = st.registryEntry ∧
    st'.authenticated = true

/-- How a session's world may change over its run: the status evolves, calls are
only appended, and read-only access is switched on only in an unauthenticated
session, after the adapter allowed it. -/
structure World.Progress {σ : Type} (A : AdapterBase σ) (w w' : World σ) : Prop where
  status : w.status.Evolves w'.status
  calls : w.calls <+: w'.calls
  readOnly_set : w.status.readOnlyMailboxAccess = false →
    w'.status.readOnlyMailboxAccess = true → w.status.authenticated = false ∧
      ∃ snap, (AdapterCall.readOnlyModeAllowed, snap) ∈ w'.calls.drop w.calls.length ∧
        snap.status.authenticated = false ∧ ∃ s, A.readOnlyModeAllowed snap.adapter = .ok (true, s)

/-- How command code may change a session's world: it progresses, the registry
entries of other connections stay, and an exclusive registry stays exclusive; every
call made on the way is made with this connection's status and, from an exclusive
registry, with an exclusive one. -/
structure World.Evolves {σ : Type} (A : AdapterBase σ) (w w' : World σ) extends
    World.Progress A w w' : Prop where
  otherEntries : w'.clients.filter (fun c => !w.status.owns c) =
    w.clients.filter (fun c => !w.status.owns c)
  exclusive : Exclusive w.clients → Exclusive w'.clients
  newCalls : ∀ p ∈ w'.calls.drop w.calls.length,
    p.2.status.connectionInfo = w.status.connectionInfo ∧ (Exclusive w.clients → Exclusive p.2.clients)

/-! ## `Progress` and `Evolves` are preorders -/

namespace ClientStatusHolder.Evolves

theorem refl (st : ClientStatusHolder) : st.Evolves st :=
  ⟨rfl, id, fun _ => rfl, le_rfl, le_rfl, id, fun _ => ⟨rfl, ‹_›⟩⟩

theorem trans {st st' st'' : ClientStatusHolder} (h : st.Evolves st') (h' : st'.Evolves st'') :
    st.Evolves st'' where
  connectionInfo_eq := h'.connectionInfo_eq.trans h.connectionInfo_eq
  encoding e := h'.encoding (h.encoding e)
  customLanguage l := (h'.customLanguage (h.customLanguage l ▸ l)).trans (h.customLanguage l)
  invalidCommandCount_le := h.invalidCommandCount_le.trans h'.invalidCommandCount_le
  invalidPasswordCount_le := h.invalidPasswordCount_le.trans h'.invalidPasswordCount_le
  readOnly r := h'.readOnly (h.readOnly r)
  authenticated a :=
    ⟨(h'.authenticated (h.authenticated a).2).1.trans (h.authenticated a).1,
      (h'.authenticated (h.authenticated a).2).2⟩

end ClientStatusHolder.Evolves

theorem mem_drop_of_prefix {α : Type} {l₂ l₃ : List α} {n : Nat} {x : α} (hn : n ≤ l₂.length)
    (h₂ : l₂ <+: l₃) (hx : x ∈ l₂.drop n) : x ∈ l₃.drop n := by
  obtain ⟨t, rfl⟩ := h₂
  rw [List.drop_append_of_le_length hn]
  exact List.mem_append_left _ hx

/-- A call appended over two stretches was appended in one of them. -/
theorem mem_drop_of_two_stretches {α : Type} {l₁ l₂ l₃ : List α} {x : α} (h₁ : l₁ <+: l₂)
    (h₂ : l₂ <+: l₃) (hx : x ∈ l₃.drop l₁.length) :
    x ∈ l₂.drop l₁.length ∨ x ∈ l₃.drop l₂.length := by
  obtain ⟨t, rfl⟩ := h₁
  obtain ⟨t', rfl⟩ := h₂
  simpa [List.drop_append_of_le_length] using hx

theorem mem_drop_of_le {α : Type} {l : List α} {m n : Nat} {x : α} (h : m ≤ n)
    (hx : x ∈ l.drop n) : x ∈ l.drop m := by
  obtain ⟨k, rfl⟩ := Nat.exists_eq_add_of_le h
  rw [← List.drop_drop] at hx
  exact List.mem_of_mem_drop hx

namespace World.Progress

variable {σ : Type} {A : AdapterBase σ}

theorem refl (w : World σ) : w.Progress A w :=
  ⟨.refl _, List.prefix_refl _, fun h h' => absurd (h.symm.trans h') (by decide)⟩

theorem trans {w w' w'' : World σ} (h : w.Progress A w') (h' : w'.Progress A w'') :
    w.Progress A w'' where
  status := h.status.trans h'.status
  calls := h.calls.trans h'.calls
  readOnly_set hr hr'' := by
    cases hr' : w'.status.readOnlyMailboxAccess
    · obtain ⟨ha, snap, hmem, hsnap⟩ := h'.readOnly_set hr' hr''
      refine ⟨?_, snap, mem_drop_of_le h.calls.length_le hmem, hsnap⟩
      cases ha' : w.status.authenticated
      · rfl
      · simp [(h.status.authenticated ha').2] at ha
    · obtain ⟨ha, snap, hmem, hsnap⟩ := h.readOnly_set hr hr'
      exact ⟨ha, snap, mem_drop_of_prefix h.calls.length_le h'.calls hmem, hsnap⟩

/-- A change that leaves the status alone and only appends calls. -/
theorem of_status_eq {w w' : World σ} (hs : w'.status = w.status) (hp : w.calls <+: w'.calls) :
    w.Progress A w' :=
  ⟨hs ▸ .refl _, hp, fun h h' => absurd (h.symm.trans (hs ▸ h')) (by decide)⟩

end World.Progress

namespace World.Evolves

variable {σ : Type} {A : AdapterBase σ}

theorem refl (w : World σ) : w.Evolves A w := ⟨.refl w, rfl, id, by simp⟩

theorem trans {w w' w'' : World σ} (h : w.Evolves A w') (h' : w'.Evolves A w'') :
    w.Evolves A w'' where
  toProgress := h.toProgress.trans h'.toProgress
  otherEntries := by
    have hid : w'.status.owns = w.status.owns := by
      unfold ClientStatusHolder.owns
      rw [h.status.connectionInfo_eq]
    rw [← h.otherEntries, ← hid, h'.otherEntries]
  exclusive he := h'.exclusive (h.exclusive he)
  newCalls p hp := (mem_drop_of_two_stretches h.calls h'.calls hp).elim (h.newCalls p) fun hp =>
    ⟨(h'.newCalls p hp).1.trans h.status.connectionInfo_eq,
      fun he => (h'.newCalls p hp).2 (h.exclusive he)⟩

instance : IsRefl (World σ) (World.Evolves A) := ⟨refl⟩

instance : IsTrans (World σ) (World.Evolves A) := ⟨fun _ _ _ => trans⟩

/-- `_remove_client_locked` of the session's own connection id. -/
theorem removeOwn (w : World σ) :
    w.Evolves A { w with clients := removeClientLocked w.clients w.status.connectionInfo.connectionId } where
  toProgress := .of_status_eq rfl (List.prefix_refl _)
  otherEntries := by
    unfold removeClientLocked ClientStatusHolder.owns
    rw [List.filter_filter]
    congr 1
    funext c
    by_cases h : c.connectionId = w.status.connectionInfo.connectionId <;> simp [h, Ne.symm]
  exclusive he := he.removeClientLocked _
  newCalls := by simp

/-- A change that leaves the status and the registry alone and only appends calls
made in this state. -/
theorem of_status_eq {w w' : World σ} (hs : w'.status = w.status) (hc : w'.clients = w.clients)
    (hp : w.calls <+: w'.calls)
    (hx : ∀ p ∈ w'.calls.drop w.calls.length, p.2.status = w.status ∧ p.2.clients = w.clients) :
    w.Evolves A w' :=
  ⟨.of_status_eq hs hp, by rw [hc], fun he => hc ▸ he, fun p hp =>
    ⟨congrArg _ (hx p hp).1, fun he => (hx p hp).2 ▸ he⟩⟩

end World.Evolves

/-! ## The primitives -/

/-- Command code that keeps the invariant, in the state `b`, and evolves the world. -/
def Keeps {σ α : Type} (A : AdapterBase σ) (b : Bool) (m : SessionM σ α) : Prop :=
  Triple (World.Evolves A) (World.InvariantAt b) m (fun _ => World.InvariantAt b)
    (fun _ => World.InvariantAt b)

section Primitives

variable {σ : Type} {A : AdapterBase σ} {b : Bool}

theorem ClientStatusHolder.registryEntry_eq_some {st : ClientStatusHolder} {c : Client}
    (h : st.registryEntry = some c) :
    st.authenticated = true ∧ c.readOnly = st.readOnlyMailboxAccess := by
  unfold ClientStatusHolder.registryEntry at h
  split at h
  · obtain ⟨u, -, rfl⟩ := Option.map_eq_some'.1 h
    exact ⟨‹_›, rfl⟩
  · cases h

theorem CallOk.unauthenticated {call : AdapterCall} {snap : Snapshot σ} (hc : CallOk call snap)
    (ha : snap.status.authenticated = false) :
    call.needsLogin = false ∧ ∀ u r, call ≠ .loginSuccessful u r :=
  ⟨Bool.eq_false_iff.2 fun h => by simp [hc.authenticated h] at ha,
    fun u r h => by simpa [ha] using (ClientStatusHolder.registryEntry_eq_some (hc.loginSuccessful u r h)).1⟩

theorem CallOk.readOnly_true {call : AdapterCall} {snap : Snapshot σ} (hc : CallOk call snap)
    (hr : snap.status.readOnlyMailboxAccess = true) :
    call.touchesDeletionMarks = false ∧ ∀ u r, call = .loginSuccessful u r → r = true :=
  ⟨hc.readOnly hr, fun u r h => (ClientStatusHolder.registryEntry_eq_some (hc.loginSuccessful u r h)).2.trans hr⟩

theorem World.Invariant.record {w : World σ} {call : AdapterCall} (hw : w.Invariant)
    (hc : CallOk call w.toSnapshot) (s : σ) : ({ w.record call with adapter := s }).Invariant where
  consistent := hw.consistent
  calls p hp := (List.mem_append.1 hp).elim (hw.calls p) fun h => List.mem_singleton.1 h ▸ hc
  unauthenticated ha p hp := (List.mem_append.1 hp).elim (hw.unauthenticated ha p) fun h =>
    List.mem_singleton.1 h ▸ hc.unauthenticated ha
  readOnly hr p hp := (List.mem_append.1 hp).elim (hw.readOnly hr p) fun h =>
    List.mem_singleton.1 h ▸ hc.readOnly_true hr

/-- Before the login no call touches the deletion marks and none is `login_successful`,
so switching to read-only access keeps the invariant. -/
theorem World.Invariant.readOnly_of_unauthenticated {w : World σ} (hw : w.Invariant)
    (ha : w.status.authenticated = false) : ∀ p ∈ w.calls,
      p.1.touchesDeletionMarks = false ∧ ∀ u r, p.1 = .loginSuccessful u r → r = true :=
  fun p hp => ⟨AdapterCall.touchesDeletionMarks_eq_false (hw.unauthenticated ha p hp).1,
    fun u r h => absurd h ((hw.unauthenticated ha p hp).2 u r)⟩

theorem World.InvariantAt.record {w : World σ} {call : AdapterCall} (hw : w.InvariantAt b)
    (hc : CallOk call w.toSnapshot) (s : σ) :
    ({ w.record call with adapter := s }).InvariantAt b ∧
      w.Evolves A { w.record call with adapter := s } :=
  ⟨⟨hw.1.record hc s, hw.2⟩, .of_status_eq rfl rfl (List.prefix_append _ _) (by simp)⟩

/-- A call allowed before the login. -/
theorem callOk_plain {w : World σ} {call : AdapterCall} (hw : w.Invariant)
    (hn : call.needsLogin = false) (hl : ∀ u r, call ≠ .loginSuccessful u r) :
    CallOk call w.toSnapshot :=
  ⟨hw.consistent, fun h => absurd (hn ▸ h) (by decide),
    fun _ => AdapterCall.touchesDeletionMarks_eq_false hn,
    fun u r h => absurd h (hl u r)⟩

/-- A call that needs the login but leaves the deletion marks alone, made authenticated. -/
theorem callOk_message {w : World σ} {call : AdapterCall} (hw : w.InvariantAt true)
    (ht : call.touchesDeletionMarks = false) (hl : ∀ u r, call ≠ .loginSuccessful u r) :
    CallOk call w.toSnapshot :=
  ⟨hw.1.consistent, fun _ => hw.2, fun _ => ht, fun u r h => absurd h (hl u r)⟩

/-- A call made from worlds satisfying `P`, in each of which it is `CallOk`. -/
theorem triple_callAdapter {call : AdapterCall} {P : World σ → Prop}
    (hP : ∀ w, P w → w.InvariantAt b) (h : ∀ w, P w → CallOk call w.toSnapshot) :
    Triple (World.Evolves A) P (callAdapter A call) (fun _ => World.InvariantAt b)
      (fun _ => World.InvariantAt b) :=
  Triple.callAdapter fun w hw =>
    have hI := fun s => (hP w hw).record (A := A) (h w hw) s
    ⟨fun _ _ => hI w.adapter, fun _ s _ => hI s⟩

theorem keeps_callAdapter {call : AdapterCall}
    (h : ∀ w : World σ, w.InvariantAt b → CallOk call w.toSnapshot) :
    Keeps A b (callAdapter A call) :=
  triple_callAdapter (fun _ => id) h

/-- A call allowed before the login. -/
theorem keeps_callAdapter_plain {call : AdapterCall} (hn : call.needsLogin = false)
    (hl : ∀ u r, call ≠ .loginSuccessful u r) : Keeps A b (callAdapter A call) :=
  keeps_callAdapter fun _ hw => callOk_plain hw.1 hn hl

/-- A call that needs the login but leaves the deletion marks alone. -/
theorem keeps_callAdapter_message {call : AdapterCall} (ht : call.touchesDeletionMarks = false)
    (hl : ∀ u r, call ≠ .loginSuccessful u r) : Keeps A true (callAdapter A call) :=
  keeps_callAdapter fun _ hw => callOk_message hw ht hl

/-- A status update that keeps the user, the authentication and the access mode. -/
theorem keeps_modifyStatus {f : ClientStatusHolder → ClientStatusHolder}
    (hf : ∀ st clients, st.authenticated = b → st.Consistent clients →
      (f st).Consistent clients ∧ st.Evolves (f st) ∧ (f st).authenticated = st.authenticated ∧
      (f st).readOnlyMailboxAccess = st.readOnlyMailboxAccess) :
    Keeps A b (modifyStatus f) := by
  refine Triple.modifyStatus fun w hw => ?_
  obtain ⟨hc, he, ha, hr⟩ := hf w.status w.clients hw.2 hw.1.consistent
  exact ⟨⟨⟨hc, hw.1.calls, fun h => hw.1.unauthenticated (ha ▸ h), fun h => hw.1.readOnly (hr ▸ h)⟩,
      ha.trans hw.2⟩,
    ⟨⟨he, List.prefix_refl _, fun h h' => absurd (h.symm.trans (hr ▸ h')) (by decide)⟩, rfl, id,
      by simp⟩⟩

theorem keeps_pure {α : Type} (a : α) : Keeps A b (pure a) := Triple.pure a fun _ => id

theorem keeps_raise {α : Type} (e : SendDataToClientException) : Keeps A b (raise e : SessionM σ α) :=
  Triple.raise e fun _ => id

theorem keeps_bind {α β : Type} {m : SessionM σ β} {f : β → SessionM σ α} (hm : Keeps A b m)
    (hf : ∀ x, Keeps A b (f x)) : Keeps A b (m >>= f) :=
  Triple.bind hm hf

/-- Reading the status first. -/
theorem keeps_getStatus_bind {α : Type} {f : ClientStatusHolder → SessionM σ α}
    (hf : ∀ st, Keeps A b (f st)) : Keeps A b (getStatus >>= f) :=
  Triple.getStatus_bind fun st => (hf st).mono (fun _ h => h.1) (fun _ _ => id) (fun _ _ => id)

theorem keeps_ite {α : Type} (c : Prop) [Decidable c] {x y : SessionM σ α} (hx : Keeps A b x)
    (hy : Keeps A b y) : Keeps A b (if c then x else y) :=
  Triple.ite c hx hy

/-- `if c then x` followed by `k`, as `do` notation compiles it. -/
theorem keeps_ite_bind {α β : Type} (c : Prop) [Decidable c] {x y : SessionM σ β}
    {k : β → SessionM σ α} (hx : Keeps A b x) (hy : Keeps A b y) (hk : ∀ v, Keeps A b (k v)) :
    Keeps A b (if c then x >>= k else y >>= k) :=
  keeps_ite c (keeps_bind hx hk) (keeps_bind hy hk)

end Primitives

/-! ## `AdapterHelperWrapper` -/

namespace AdapterHelperWrapper

variable {σ : Type} (cfg : Settings) (A : AdapterBase σ) (b : Bool)

theorem connectionOpened_keeps : Keeps A b (connectionOpened A) :=
  keeps_getStatus_bind fun _ => keeps_callAdapter_plain rfl (by simp)

theorem readOnlyModeAllowed_keeps : Keeps A b (readOnlyModeAllowed A) :=
  keeps_callAdapter_plain rfl (by simp)

theorem performInvalidPasswordPunishments_keeps :
    Keeps A b (performInvalidPasswordPunishments cfg) := by
  refine keeps_ite _ (keeps_bind ?_ fun _ => keeps_getStatus_bind fun _ =>
    keeps_ite _ (keeps_raise _) (keeps_pure _)) (keeps_pure _)
  exact keeps_modifyStatus fun st _ _ h =>
    ⟨⟨h.1, h.2, h.3, h.4, h.5⟩,
      ⟨rfl, id, fun _ => rfl, le_rfl, Nat.le_succ _, id, fun ha => ⟨rfl, ha⟩⟩, rfl, rfl⟩

theorem verifyLoginCredentials_keeps (username password : String) :
    Keeps A b (verifyLoginCredentials cfg A username password) := by
  refine keeps_bind (keeps_callAdapter_plain rfl (by simp)) fun _ =>
    keeps_ite _ (keeps_bind ?_ fun _ => keeps_pure _) (keeps_bind (keeps_pure _) fun _ => keeps_pure _)
  exact performInvalidPasswordPunishments_keeps cfg A b

theorem getMessageCount_keeps : Keeps A true (getMessageCount A) :=
  keeps_bind (keeps_callAdapter_message rfl (by simp)) fun _ =>
    keeps_ite_bind _ (keeps_raise _) (keeps_pure _) fun _ => keeps_pure _

/-- A call that touches the deletion marks, made only after the read-only check. -/
theorem triple_callAdapter_touching (call : AdapterCall) (hl : ∀ u r, call ≠ .loginSuccessful u r)
    {st : ClientStatusHolder} (hst : ¬st.readOnlyMailboxAccess = true) :
    Triple (World.Evolves A) (fun w => w.InvariantAt true ∧ w.status = st) (callAdapter A call)
      (fun _ => World.InvariantAt true) (fun _ => World.InvariantAt true) :=
  triple_callAdapter (fun _ h => h.1) fun _ h =>
    ⟨h.1.1.consistent, fun _ => h.1.2, fun hr => absurd (h.2 ▸ hr) hst,
      fun u r hc => absurd hc (hl u r)⟩

theorem isMessageMarkedAsDeleted_keeps (index : Int) :
    Keeps A true (isMessageMarkedAsDeleted A index) := by
  refine Triple.getStatus_bind fun st => ?_
  split
  · exact Triple.pure _ fun _ h => h.1
  · exact triple_callAdapter_touching A _ (by simp) ‹_›

theorem forEachUndeleted_keeps {β : Type} {f : Int → SessionM σ β} (hf : ∀ i, Keeps A true (f i))
    (indices : List Int) : Keeps A true (forEachUndeleted A f indices) := by
  induction indices with
  | nil => exact keeps_pure _
  | cons index rest ih =>
    have rest : ∀ entry, Keeps A true (do
        let entries ← forEachUndeleted A f rest
        pure (entry ++ entries)) := fun _ => keeps_bind ih fun _ => keeps_pure _
    exact keeps_bind (isMessageMarkedAsDeleted_keeps A index) fun _ =>
      keeps_ite _ (keeps_bind (keeps_pure _) rest)
        (keeps_bind (hf index) fun _ => keeps_bind (keeps_pure _) rest)

theorem getUndeletedMessageCount_keeps : Keeps A true (getUndeletedMessageCount A) :=
  keeps_bind (getMessageCount_keeps A) fun _ =>
    keeps_bind (forEachUndeleted_keeps A (fun _ => keeps_pure _) _) fun _ => keeps_pure _

theorem getMessageContent_keeps (index : Int) : Keeps A true (getMessageContent A index) :=
  keeps_getStatus_bind fun _ => keeps_callAdapter_message rfl (by simp)

theorem getHeadersAndFirstNLinesOfAMessage_keeps (index : Int) (n : Nat) :
    Keeps A true (getHeadersAndFirstNLinesOfAMessage A index n) :=
  keeps_bind (getMessageContent_keeps A index) fun _ => keeps_pure _

/-- `mark_message_as_deleted` and `unmark_messages_marked_as_deleted`: the call is made
only after the read-only check. -/
theorem keeps_guarded_callAdapter {call : AdapterCall} (hl : ∀ u r, call ≠ .loginSuccessful u r) :
    Keeps A true (do
      let st ← getStatus
      if st.readOnlyMailboxAccess then raise errReadOnlyMailboxAccess
      callAdapter A call) := by
  refine Triple.getStatus_bind fun st => ?_
  split
  · exact Triple.raise_bind _ fun _ h => h.1
  · exact triple_callAdapter_touching A _ hl ‹_›

theorem markMessageAsDeleted_keeps (index : Int) : Keeps A true (markMessageAsDeleted A index) :=
  keeps_guarded_callAdapter A (by simp)

theorem unmarkMessagesMarkedAsDeleted_keeps : Keeps A true (unmarkMessagesMarkedAsDeleted A) :=
  keeps_guarded_callAdapter A (by simp)

theorem commitDeletions_keeps : Keeps A true (commitDeletions A) := by
  refine Triple.getStatus_bind fun st => ?_
  split
  · exact Triple.pure _ fun _ h => h.1
  · exact triple_callAdapter_touching A _ (by simp) ‹_›

theorem getMessageSize_keeps (index : Int) : Keeps A true (getMessageSize A index) := by
  refine keeps_bind (getMessageContent_keeps A index) fun _ => keeps_getStatus_bind fun _ => ?_
  split
  · exact keeps_pure _
  · exact keeps_raise _

theorem getAllUndeletedMessagesSizes_keeps : Keeps A true (getAllUndeletedMessagesSizes A) :=
  keeps_bind (getMessageCount_keeps A) fun _ => forEachUndeleted_keeps A (getMessageSize_keeps A) _

theorem getMessageUniqueId_keeps (index : Int) : Keeps A true (getMessageUniqueId A index) :=
  keeps_bind (keeps_callAdapter_message rfl (by simp)) fun _ =>
    keeps_ite_bind _ (keeps_raise _) (keeps_pure _) fun _ => keeps_pure _

theorem getAllUndeletedMessagesUniqueIds_keeps :
    Keeps A true (getAllUndeletedMessagesUniqueIds A) :=
  keeps_bind (getMessageCount_keeps A) fun _ =>
    keeps_bind (forEachUndeleted_keeps A (getMessageUniqueId_keeps A) _) fun _ =>
      keeps_ite_bind _ (keeps_raise _) (keeps_pure _) fun _ => keeps_pure _

theorem connectionClosed_keeps (b : Bool) : Keeps A b (connectionClosed A) :=
  keeps_callAdapter_plain rfl (by simp)

/-- `login_successful` is made by an authenticated session as its registered user. -/
theorem loginSuccessful_triple (username : String) :
    Triple (World.Evolves A) (fun w => w.InvariantAt true ∧ w.status.username = some username)
      (loginSuccessful A username) (fun _ => World.InvariantAt true)
      (fun _ => World.InvariantAt true) :=
  Triple.getStatus_bind fun _ => triple_callAdapter (fun _ h => h.1.1) fun _ h => by
    obtain ⟨⟨hw, hu⟩, rfl⟩ := h
    refine ⟨hw.1.consistent, fun _ => hw.2, fun _ => rfl, fun u r he => ?_⟩
    cases he
    simp [ClientStatusHolder.registryEntry, hw.2, hu]

end AdapterHelperWrapper

/-- `authentication_successful` from an unauthenticated session: either the registry
refuses the user and nothing changes, or the session is registered and authenticated
at once, and `login_successful` is called in that state. -/
theorem authenticationSuccessful_triple {σ : Type} (A : AdapterBase σ) (username : String) :
    Triple (World.Evolves A) (World.InvariantAt false) (authenticationSuccessful A username)
      (fun _ => World.InvariantAt true) (fun _ => World.Invariant) := by
  intro w hw
  rw [authenticationSuccessful, wp_bind, wp_addClient]
  dsimp only
  cases hadd : (addClientLocked w.clients w.status.connectionInfo.connectionId username
    w.status.readOnlyMailboxAccess).1
  · rw [addClientLocked_of_refuses hadd]
    simp only [wp_bind, wp_ite, wp_raise, Bool.not_false, if_true]
    exact ⟨hw.1, .refl w⟩
  · rw [addClientLocked_of_accepts hadd]
    simp only [wp_bind, wp_ite, wp_pure, wp_modifyStatus, Bool.not_true, Bool.false_eq_true,
      if_false]
    have hown : ∀ c ∈ w.clients, ¬c.connectionId = w.status.connectionInfo.connectionId := by
      simpa [ClientStatusHolder.registryEntry, ClientStatusHolder.owns, hw.2, List.filter_eq_nil_iff]
        using hw.1.consistent.ownEntries_eq
    refine Triple.wp_of (AdapterHelperWrapper.loginSuccessful_triple A username)
      ⟨⟨⟨⟨rfl, ?_, fun _ => rfl, hw.1.consistent.encoding_mem, hw.1.consistent.customLanguage_mem⟩,
        hw.1.calls, (fun h => by cases h), fun _ => hw.1.readOnly_of_unauthenticated hw.2⟩,
        rfl⟩, rfl⟩
      ⟨⟨⟨rfl, id, fun _ => rfl, le_rfl, le_rfl, id, fun ha => absurd (hw.2 ▸ ha) (by decide)⟩,
        List.prefix_refl _, fun h h' => absurd (h.symm.trans h') (by decide)⟩, ?_, fun he =>
          addClientLocked_of_accepts hadd ▸ he.addClientLocked _ _ _, by simp⟩
      (fun _ _ => id) (fun _ _ h => h.1)
    · simpa [List.filter_append, ClientStatusHolder.registryEntry, ClientStatusHolder.owns]
    · simp [List.filter_append, ClientStatusHolder.owns]

/-! ## The command handlers -/

namespace ClientCommandHandler

open AdapterHelperWrapper

variable {σ : Type} (cfg : Settings) (A : AdapterBase σ) (b : Bool)

theorem checkArgumentCount_keeps (args : List String) (counts : List Nat) :
    Keeps A b (checkArgumentCount args counts : SessionM σ Unit) :=
  keeps_ite _ (keeps_raise _) (keeps_pure _)

theorem parseMessageNumberArgumentToIndex_keeps (messageNumber : String) :
    Keeps A true (parseMessageNumberArgumentToIndex A messageNumber) := by
  unfold parseMessageNumberArgumentToIndex
  split
  · exact keeps_ite_bind _ (keeps_raise _) (keeps_pure _) fun _ =>
      keeps_bind (getMessageCount_keeps A) fun _ =>
        keeps_ite_bind _ (keeps_raise _) (keeps_pure _) fun _ =>
          keeps_bind (isMessageMarkedAsDeleted_keeps A _) fun _ =>
            keeps_ite_bind _ (keeps_raise _) (keeps_pure _) fun _ => keeps_pure _
  · exact keeps_raise _

theorem parseNumberOfLinesArgument_keeps (numberOfLines : String) :
    Keeps A b (parseNumberOfLinesArgument numberOfLines : SessionM σ Int) := by
  unfold parseNumberOfLinesArgument
  split
  · exact keeps_ite_bind _ (keeps_raise _) (keeps_pure _) fun _ => keeps_pure _
  · exact keeps_raise _

/-- Counting invalid commands: the counter grows and nothing else changes. -/
theorem incrementInvalidCommandCount_keeps :
    Keeps A b (modifyStatus fun st =>
      { st with invalidCommandCount := st.invalidCommandCount + 1 } : SessionM σ Unit) :=
  keeps_modifyStatus fun _ _ _ h => ⟨⟨h.1, h.2, h.3, h.4, h.5⟩,
    ⟨rfl, id, fun _ => rfl, Nat.le_succ _, le_rfl, id, fun ha => ⟨rfl, ha⟩⟩, rfl, rfl⟩

theorem invalidCommand_keeps : Keeps A b (invalidCommand cfg) :=
  keeps_ite _ (keeps_bind (incrementInvalidCommandCount_keeps A b) fun _ =>
      keeps_getStatus_bind fun _ => keeps_ite_bind _ (keeps_raise _) (keeps_pure _) fun _ =>
        keeps_raise _)
    (keeps_bind (keeps_pure _) fun _ => keeps_raise _)

theorem commandCapa_keeps (args : List String) : Keeps A b (commandCapa A args) :=
  keeps_bind (checkArgumentCount_keeps A b _ _) fun _ =>
    keeps_bind (readOnlyModeAllowed_keeps A b) fun _ => keeps_raise _

theorem commandQuitInAuthorizationState_keeps (args : List String) :
    Keeps A b (commandQuitInAuthorizationState args : SessionM σ Unit) :=
  keeps_bind (checkArgumentCount_keeps A b _ _) fun _ => keeps_raise _

theorem commandQuitInTransactionState_keeps (args : List String) :
    Keeps A true (commandQuitInTransactionState A args) :=
  keeps_bind (checkArgumentCount_keeps A true _ _) fun _ =>
    keeps_bind (commitDeletions_keeps A) fun _ => keeps_raise _

theorem commandUtf8_keeps (args : List String) : Keeps A b (commandUtf8 args : SessionM σ Unit) :=
  keeps_bind (checkArgumentCount_keeps A b _ _) fun _ =>
    keeps_bind (keeps_modifyStatus fun _ _ _ h =>
      ⟨⟨h.1, h.2, h.3, .inr rfl, h.5⟩, ⟨rfl, fun _ => rfl, fun _ => rfl, le_rfl, le_rfl, id,
        fun ha => ⟨rfl, ha⟩⟩, rfl, rfl⟩) fun _ => keeps_raise _

theorem commandLang_keeps (args : List String) : Keeps A b (commandLang args : SessionM σ Unit) := by
  refine keeps_bind (checkArgumentCount_keeps A b _ _) fun _ => ?_
  split
  · exact keeps_raise _
  · refine keeps_ite _ (keeps_bind ?_ fun _ => keeps_bind (keeps_raise _) fun _ => keeps_raise _)
      (keeps_bind (keeps_pure _) fun _ => keeps_raise _)
    exact keeps_modifyStatus fun _ _ _ h =>
      ⟨⟨h.1, h.2, h.3, h.4, .inr rfl⟩, ⟨rfl, id, fun hl => by
        rcases h.5 with hn | hs <;> simp_all, le_rfl, le_rfl, id, fun ha => ⟨rfl, ha⟩⟩, rfl, rfl⟩

theorem commandNoop_keeps (args : List String) : Keeps A b (commandNoop args : SessionM σ Unit) :=
  keeps_bind (checkArgumentCount_keeps A b _ _) fun _ => keeps_raise _

theorem commandStat_keeps (args : List String) : Keeps A true (commandStat A args) :=
  keeps_bind (checkArgumentCount_keeps A true _ _) fun _ =>
    keeps_bind (getUndeletedMessageCount_keeps A) fun _ =>
      keeps_bind (getAllUndeletedMessagesSizes_keeps A) fun _ => keeps_raise _

theorem commandList_keeps (args : List String) : Keeps A true (commandList A args) := by
  refine keeps_bind (checkArgumentCount_keeps A true _ _) fun _ => ?_
  split
  · exact keeps_bind (getAllUndeletedMessagesSizes_keeps A) fun _ => keeps_raise _
  · exact keeps_bind (parseMessageNumberArgumentToIndex_keeps A _) fun _ =>
      keeps_bind (getMessageSize_keeps A _) fun _ => keeps_raise _

theorem commandUidl_keeps (args : List String) : Keeps A true (commandUidl A args) := by
  refine keeps_bind (checkArgumentCount_keeps A true _ _) fun _ => ?_
  split
  · exact keeps_bind (getAllUndeletedMessagesUniqueIds_keeps A) fun _ => keeps_raise _
  · exact keeps_bind (parseMessageNumberArgumentToIndex_keeps A _) fun _ =>
      keeps_bind (getMessageUniqueId_keeps A _) fun _ => keeps_raise _

theorem commandRetr_keeps (args : List String) : Keeps A true (commandRetr A args) :=
  keeps_bind (checkArgumentCount_keeps A true _ _) fun _ =>
    keeps_bind (parseMessageNumberArgumentToIndex_keeps A _) fun _ =>
      keeps_bind (getMessageContent_keeps A _) fun _ => keeps_raise _

theorem commandTop_keeps (args : List String) : Keeps A true (commandTop A args) :=
  keeps_bind (checkArgumentCount_keeps A true _ _) fun _ =>
    keeps_bind (parseMessageNumberArgumentToIndex_keeps A _) fun _ =>
      keeps_bind (parseNumberOfLinesArgument_keeps A true _) fun _ =>
        keeps_bind (getHeadersAndFirstNLinesOfAMessage_keeps A _ _) fun _ => keeps_raise _

theorem commandDele_keeps (args : List String) : Keeps A true (commandDele A args) :=
  keeps_bind (checkArgumentCount_keeps A true _ _) fun _ =>
    keeps_bind (parseMessageNumberArgumentToIndex_keeps A _) fun _ =>
      keeps_bind (markMessageAsDeleted_keeps A _) fun _ => keeps_raise _

theorem commandRset_keeps (args : List String) : Keeps A true (commandRset A args) :=
  keeps_bind (checkArgumentCount_keeps A true _ _) fun _ =>
    keeps_bind (unmarkMessagesMarkedAsDeleted_keeps A) fun _ => keeps_raise _

/-- `XPRO` is the one command that sets read-only access: in an unauthenticated
session, and only after `read_only_mode_allowed` answered `True`. -/
theorem commandXpro_keeps (args : List String) : Keeps A false (commandXpro A args) := by
  refine keeps_bind (checkArgumentCount_keeps A false _ _) fun _ w hw => ?_
  have hc : CallOk .readOnlyModeAllowed w.toSnapshot := callOk_plain hw.1 rfl (by simp)
  rw [wp_bind, AdapterHelperWrapper.readOnlyModeAllowed, wp_callAdapter]
  rcases hans : A.invoke .readOnlyModeAllowed w.adapter with fault | ⟨_ | _, s⟩
  · exact hw.record hc w.adapter
  · exact hw.record hc s
  · have hI := (hw.record (A := A) hc s).1
    refine ⟨⟨⟨⟨hI.1.1.1, ?_, hI.1.1.3, hI.1.1.4, hI.1.1.5⟩, hI.1.2, hI.1.3,
      fun _ => hI.1.readOnly_of_unauthenticated hw.2⟩, hw.2⟩,
      ⟨⟨⟨rfl, id, fun _ => rfl, le_rfl, le_rfl, fun _ => rfl, fun ha => absurd (hw.2 ▸ ha) (by decide)⟩,
        List.prefix_append _ _, fun _ _ => ⟨hw.2, w.toSnapshot, ?_, hw.2, s, hans⟩⟩, rfl,
        id, by simp⟩⟩
    · simpa [ClientStatusHolder.registryEntry, ClientStatusHolder.owns, hw.2] using hI.1.1.2
    · simp

theorem commandUser_keeps (args : List String) :
    Keeps A false (commandUser args : SessionM σ Unit) :=
  keeps_bind (checkArgumentCount_keeps A false _ _) fun _ =>
    keeps_bind (keeps_modifyStatus fun _ _ hb h =>
      ⟨⟨h.1, h.2, fun ha => absurd (hb ▸ ha) (by decide), h.4, h.5⟩,
        ⟨rfl, id, fun _ => rfl, le_rfl, le_rfl, id, fun ha => ⟨rfl, ha⟩⟩, rfl, rfl⟩) fun _ =>
      keeps_raise _

/-- `PASS` starts unauthenticated and may end authenticated. -/
theorem commandPass_triple (args : List String) :
    Triple (World.Evolves A) (World.InvariantAt false) (commandPass cfg A args)
      (fun _ => World.Invariant) (fun _ => World.Invariant) := by
  refine Triple.getStatus_bind fun st => Triple.mono (fun _ h => h.1) (fun _ _ => id) (fun _ _ => id) ?_
  split
  · rename_i username _
    refine Triple.ite _ (Triple.raise_bind _ fun _ h => h.1)
      (Triple.pure_bind (Triple.bind ?_ fun _ =>
        Triple.ite _ (Triple.raise_bind _ fun _ h => h.1)
          (Triple.pure_bind (Triple.bind (authenticationSuccessful_triple A username) fun _ =>
            Triple.getStatus_bind fun _ => Triple.raise _ fun _ h => h.1.1))))
    exact (verifyLoginCredentials_keeps cfg A false _ _).mono (fun _ => id) (fun _ _ => id)
      (fun _ _ h => h.1)
  · exact Triple.raise _ fun _ h => h.1

/-- `PASS` calls `verify_login_credentials` before it asks the registry: when the
user holds a read-write session elsewhere, the credentials are accepted, the answer
is `-ERR [IN-USE]`, the session stays in AUTHORIZATION, and the next `PASS` calls
`verify_login_credentials` again after it has returned `True`. -/
theorem pass_verifies_again_after_in_use :
    ∃ s : Session ListAdapter,
      s = ((((Session.initial ⟨8, "127.0.0.1", 50000⟩ (ListAdapter.new "bob" "pw" ["hi"])
        [⟨7, "bob", false⟩]).opened (ListAdapter.adapter id)).serveLine Settings.default
          (ListAdapter.adapter id) "USER bob").serveLine Settings.default
            (ListAdapter.adapter id) "PASS pw").serveLine Settings.default
              (ListAdapter.adapter id) "PASS pw" ∧
      SessionReachable Settings.default (ListAdapter.adapter id) s ∧
      s.world.calls.map Prod.fst = [.connectionOpened "127.0.0.1" 50000,
        .verifyLoginCredentials "bob" "pw", .verifyLoginCredentials "bob" "pw"] ∧
      (∀ p ∈ s.world.calls, p.2.adapter = ListAdapter.new "bob" "pw" ["hi"]) ∧
      (ListAdapter.adapter id).verifyLoginCredentials "bob" "pw"
          (ListAdapter.new "bob" "pw" ["hi"]) =
        .ok (true, ListAdapter.new "bob" "pw" ["hi"]) ∧
      s.phase = .serving :=
  ⟨_, rfl, .step (.step (.step (.step (.initial _ _ _ (by decide)) (.own (.opened _ rfl)))
    (.own (.line _ _ (by rfl)))) (.own (.line _ _ (by rfl)))) (.own (.line _ _ (by rfl))),
    by decide, by decide, rfl,
    rfl⟩

theorem handleTransactionStateCommand_keeps (command : String) (args : List String) :
    Keeps A true (handleTransactionStateCommand cfg A command args) := by
  unfold handleTransactionStateCommand
  split
  exacts [commandCapa_keeps A _ args, commandLang_keeps A _ args, commandNoop_keeps A _ args,
    commandQuitInTransactionState_keeps A args, commandStat_keeps A args,
    commandList_keeps A args, commandUidl_keeps A args, commandRetr_keeps A args,
    commandTop_keeps A args, commandDele_keeps A args, commandRset_keeps A args,
    invalidCommand_keeps cfg A _]

theorem handleAuthorizationStateCommand_triple (command : String) (args : List String) :
    Triple (World.Evolves A) (World.InvariantAt false)
      (handleAuthorizationStateCommand cfg A command args) (fun _ => World.Invariant)
      (fun _ => World.Invariant) := by
  have up : ∀ {m : SessionM σ Unit}, Keeps A false m → Triple (World.Evolves A)
      (World.InvariantAt false) m (fun _ => World.Invariant) (fun _ => World.Invariant) :=
    fun h => h.mono (fun _ => id) (fun _ _ h => h.1) (fun _ _ h => h.1)
  unfold handleAuthorizationStateCommand
  split
  exacts [up (commandCapa_keeps A _ args), up (commandQuitInAuthorizationState_keeps A _ args),
    up (commandXpro_keeps A args), up (commandUtf8_keeps A _ args), up (commandLang_keeps A _ args),
    up (commandUser_keeps A args), commandPass_triple cfg A args, up (invalidCommand_keeps cfg A _)]

/-- Every command handler keeps the invariant and evolves the world. -/
theorem handleCommand_triple (command : String) (args : List String) :
    Triple (World.Evolves A) World.Invariant (handleCommand cfg A command args)
      (fun _ => World.Invariant) (fun _ => World.Invariant) := by
  refine Triple.getStatus_bind fun st => ?_
  split
  · exact (handleTransactionStateCommand_keeps cfg A command args).mono
      (fun _ h => ⟨h.1, h.2 ▸ ‹_›⟩) (fun _ _ h => h.1) (fun _ _ h => h.1)
  · exact (handleAuthorizationStateCommand_triple cfg A command args).mono
      (fun _ h => ⟨h.1, h.2 ▸ Bool.eq_false_iff.2 ‹_›⟩) (fun _ _ => id) (fun _ _ => id)

/-- `XPRO` answers `+OK` only once read-only access is on: in the TRANSACTION state the
verb is invalid, and `_command_xpro` switches the mode before it answers. -/
theorem handleCommand_xpro_success {args : List String} {w w' : World σ}
    {e : SendDataToClientException}
    (h : handleCommand cfg A "XPRO" args w = .error (.send e) w') (hs : e.success = true) :
    w'.status.readOnlyMailboxAccess = true := by
  have key : wp (handleCommand cfg A "XPRO" args) (fun _ _ => True) (fun r w' => ∀ e,
      r = .send e → e.success = true → w'.status.readOnlyMailboxAccess = true) w := by
    simp only [handleCommand, wp_bind, wp_getStatus]
    split
    · simp only [handleTransactionStateCommand, invalidCommand, wp_bind, wp_ite,
        wp_modifyStatus, wp_getStatus, wp_raise, wp_pure]
      split_ifs <;> simp [err, closeConnectionAfterSendingData]
    · simp only [handleAuthorizationStateCommand, commandXpro, checkArgumentCount, wp_bind,
        wp_ite, wp_raise, wp_pure]
      split_ifs
      · rw [AdapterHelperWrapper.readOnlyModeAllowed, wp_callAdapter]
        split
        · split_ifs <;> simp [err, ok]
        · simp
      · simp [err]
  unfold wp at key
  rw [h] at key
  exact key e rfl hs

end ClientCommandHandler

/-! ## Sessions -/

/-- The invariant of a session: the calls recorded fit the state as in
`World.Invariant`; until the teardown the status is consistent, and after it the
registry holds no entry of the connection. -/
structure Session.Invariant {σ : Type} (s : Session σ) : Prop where
  calls : ∀ p ∈ s.world.calls, CallOk p.1 p.2
  unauthenticated : s.world.status.authenticated = false → ∀ p ∈ s.world.calls,
    p.1.needsLogin = false ∧ ∀ u r, p.1 ≠ .loginSuccessful u r
  readOnly : s.world.status.readOnlyMailboxAccess = true → ∀ p ∈ s.world.calls,
    p.1.touchesDeletionMarks = false ∧ ∀ u r, p.1 = .loginSuccessful u r → r = true
  consistent : s.phase ≠ .closed → s.world.status.Consistent s.world.clients
  closed : s.phase = .closed → s.world.clients.filter s.world.status.owns = []

section Steps

variable {σ : Type} {cfg : Settings} {A : AdapterBase σ}

/-- A session's world after command code, from a world with the invariant. -/
theorem World.Invariant.after {α : Type} {m : SessionM σ α} {w : World σ} (hw : w.Invariant)
    (h : Triple (World.Evolves A) World.Invariant m (fun _ => World.Invariant)
      (fun _ => World.Invariant)) :
    (World.after (m w)).Invariant ∧ w.Evolves A (World.after (m w)) :=
  wp_after (h w hw)

theorem World.Invariant.after_keeps {α : Type} {m : SessionM σ α} {w : World σ}
    (hw : w.Invariant) (h : ∀ b, Keeps A b m) :
    (World.after (m w)).Invariant ∧ w.Evolves A (World.after (m w)) := by
  have h' : wp m (fun _ w' => w'.Invariant ∧ w.Evolves A w') (fun _ w' => w'.Invariant ∧ w.Evolves A w') w :=
    wp_mono (fun _ _ h => ⟨h.1.1, h.2⟩) (fun _ _ h => ⟨h.1.1, h.2⟩) (h _ w ⟨hw, rfl⟩)
  exact wp_after h'

theorem Session.Invariant.of_live {s : Session σ} (h : s.phase ≠ .closed) (hw : s.world.Invariant) :
    s.Invariant :=
  ⟨hw.calls, hw.unauthenticated, hw.readOnly, fun _ => hw.consistent, fun hc => absurd hc h⟩

theorem Session.Invariant.live {s : Session σ} (hs : s.Invariant) (h : s.phase ≠ .closed) :
    s.world.Invariant :=
  ⟨hs.consistent h, hs.calls, hs.unauthenticated, hs.readOnly⟩

/-- A registry that keeps the session's own entries keeps its invariant. -/
theorem Session.Invariant.withClients {s : Session σ} (hs : s.Invariant) {clients : List Client}
    (h : clients.filter s.world.status.owns = s.world.clients.filter s.world.status.owns) :
    (s.withClients clients).Invariant where
  calls := hs.calls
  unauthenticated := hs.unauthenticated
  readOnly := hs.readOnly
  consistent hph := have hc := hs.consistent hph; ⟨hc.1, h.trans hc.2, hc.3, hc.4, hc.5⟩
  closed hph := h.trans (hs.closed hph)

/-- One step of a connection's own thread keeps its invariant, and the session's
world evolves. -/
theorem OwnStep.invariant {s t : Session σ} (h : OwnStep cfg A s t) (hs : s.Invariant) :
    t.Invariant ∧ s.world.Evolves A t.world := by
  cases h with
  | opened hph =>
    obtain ⟨hI, he⟩ := (hs.live (by simp [hph])).after_keeps
      (AdapterHelperWrapper.connectionOpened_keeps A)
    rw [← Session.opened_world] at hI he
    exact ⟨.of_live (Session.opened_phase_ne_closed A s) hI, he⟩
  | line line hph =>
    have hw := hs.live (by simp [hph])
    have hI : (s.serveLine cfg A line).world.Invariant ∧
        s.world.Evolves A (s.serveLine cfg A line).world := by
      rw [Session.serveLine_world]
      rcases ClientHandler.processLine_world cfg A line s.world with he | ⟨command, args, he⟩ <;>
        rw [he]
      · exact ⟨hw, .refl _⟩
      · exact hw.after (ClientCommandHandler.handleCommand_triple cfg A command args)
    exact ⟨.of_live (Session.serveLine_phase_ne_closed cfg A s line) hI.1, hI.2⟩
  | dropped hph =>
    exact ⟨.of_live (by simp) (hs.live (by simp [hph])), .refl _⟩
  | tornDown hph =>
    obtain ⟨hI, he⟩ := (hs.live (by simp [hph])).after_keeps
      (AdapterHelperWrapper.connectionClosed_keeps A)
    have hid : s.connectionId =
        (World.after (AdapterHelperWrapper.connectionClosed A s.world)).status.connectionInfo.connectionId :=
      congrArg ClientConnectionInfoHolder.connectionId he.status.connectionInfo_eq.symm
    simp only [Session.tornDown, hid]
    exact ⟨⟨hI.calls, hI.unauthenticated, hI.readOnly, fun h => absurd rfl h,
      fun _ => filter_owns_removeClientLocked _ _⟩, he.trans (.removeOwn _)⟩

/-- One step of a session keeps its invariant, and the session's world progresses. -/
theorem SessionStep.invariant {s t : Session σ} (h : SessionStep cfg A s t) (hs : s.Invariant) :
    t.Invariant ∧ s.world.Progress A t.world := by
  cases h with
  | own h => exact (h.invariant hs).imp_right World.Evolves.toProgress
  | interfered call hne =>
    exact ⟨hs.withClients (RegistryCall.filter_apply hne s.world.clients),
      .of_status_eq rfl (List.prefix_refl _)⟩

theorem Session.Invariant.initial (connectionInfo : ClientConnectionInfoHolder) (adapter : σ)
    {clients : List Client} (h : ∀ c ∈ clients, c.connectionId ≠ connectionInfo.connectionId) :
    (Session.initial connectionInfo adapter clients).Invariant :=
  .of_live (by simp [Session.initial])
    ⟨⟨rfl, List.filter_eq_nil_iff.2 fun c hc => by simpa [ClientStatusHolder.owns] using h c hc,
      fun _ => rfl, .inl rfl, .inl rfl⟩, fun p h => absurd h (List.not_mem_nil p),
      fun _ p h => absurd h (List.not_mem_nil p), fun _ p h => absurd h (List.not_mem_nil p)⟩

/-- Every reachable session keeps the invariant. -/
theorem SessionReachable.invariant {s : Session σ} (hs : SessionReachable cfg A s) : s.Invariant := by
  induction hs with
  | initial connectionInfo adapter clients h => exact .initial connectionInfo adapter h
  | step _ hstep ih => exact (hstep.invariant ih).1

/-- Along every run from a session with the invariant, the invariant holds and the
world progresses. -/
theorem Session.Invariant.run {s t : Session σ} (hs : s.Invariant)
    (hst : Relation.ReflTransGen (SessionStep cfg A) s t) :
    t.Invariant ∧ s.world.Progress A t.world := by
  induction hst with
  | refl => exact ⟨hs, .refl _⟩
  | tail _ hstep ih =>
    obtain ⟨ht, hp⟩ := hstep.invariant ih.1
    exact ⟨ht, ih.2.trans hp⟩

end Steps

/-! ## The status and the access mode over whole runs -/

section Runs

variable {σ : Type} {cfg : Settings} {A : AdapterBase σ}

/-- `ClientStatusHolder` in every reachable state of a live session: authenticated
exactly when a username is set and exactly when the registry holds an entry of the
connection, which is then the one entry `(connection id, username, read-only)`;
never an AUTHORIZATION-state username once authenticated; the encoding `ascii` or
`utf-8` and the language unset or `en`.  Along every run from there the encoding
and the language are never unset again and both counters never decrease. -/
theorem client_status_invariant {s : Session σ} (hs : SessionReachable cfg A s) :
    (s.phase ≠ .closed → s.world.status.Consistent s.world.clients) ∧
      ∀ t, Relation.ReflTransGen (SessionStep cfg A) s t → s.world.status.Evolves t.world.status :=
  ⟨hs.invariant.consistent, fun _ hst => (hs.invariant.run hst).2.status⟩

/-- The invariant after `USER bob` and `PASS pw` on a `ListAdapter`. -/
theorem client_status_invariant_after_login :
    let A := ListAdapter.adapter id
    let s := (((Session.initial ⟨1, "127.0.0.1", 50000⟩ (ListAdapter.new "bob" "pw" ["hi"]) []).opened
      A).serveLine Settings.default A "USER bob").serveLine Settings.default A "PASS pw"
    (s.phase ≠ .closed → s.world.status.Consistent s.world.clients) ∧
      ∀ t, Relation.ReflTransGen (SessionStep Settings.default A) s t →
        s.world.status.Evolves t.world.status :=
  client_status_invariant (.step (.step (.step (.initial _ _ _ (by simp))
    (.own (.opened _ rfl))) (.own (.line _ _ rfl))) (.own (.line _ _ rfl)))

/-- The world a served line leaves is the one its command handler raised in. -/
theorem Session.serveLine_world_of_raised {s : Session σ} {line command : String}
    {args : List String} {r : Raised} {w : World σ}
    (hp : ClientHandler.parseCommand line = .ok (command, args))
    (hh : ClientCommandHandler.handleCommand cfg A command args s.world = .error r w) :
    (s.serveLine cfg A line).world = w := by
  rw [Session.serveLine_world]
  cases r <;> simp only [ClientHandler.processLine, hp, hh]

/-- The read-only access mode: a line `XPRO` that the session answers `+OK` switches it
on for the rest of the run; once it is on, no call the session has made touches the
deletion marks, every `login_successful` was told `read_only=True`, and the registry
entries of the connection are read-only; along every run it stays on, and it is
switched on only in an unauthenticated session, by a `read_only_mode_allowed` call of
that stretch of the run that answered `True` while unauthenticated. -/
theorem read_only_mode_contract {s : Session σ} (hs : SessionReachable cfg A s) :
    (s.phase = .serving → ∀ line args e w, ClientHandler.parseCommand line = .ok ("XPRO", args) →
      ClientCommandHandler.handleCommand cfg A "XPRO" args s.world = .error (.send e) w →
      e.success = true → ∀ t, Relation.ReflTransGen (SessionStep cfg A) (s.serveLine cfg A line) t →
        t.world.status.readOnlyMailboxAccess = true) ∧
    (s.world.status.readOnlyMailboxAccess = true →
      (∀ p ∈ s.world.calls, p.1.touchesDeletionMarks = false ∧
        ∀ u r, p.1 = .loginSuccessful u r → r = true) ∧
      ∀ c ∈ s.world.clients, s.world.status.owns c = true → c.readOnly = true) ∧
    ∀ t, Relation.ReflTransGen (SessionStep cfg A) s t →
      (s.world.status.readOnlyMailboxAccess = true → t.world.status.readOnlyMailboxAccess = true) ∧
      (s.world.status.readOnlyMailboxAccess = false → t.world.status.readOnlyMailboxAccess = true →
        s.world.status.authenticated = false ∧
        ∃ snap, (AdapterCall.readOnlyModeAllowed, snap) ∈ t.world.calls.drop s.world.calls.length ∧
          snap.status.authenticated = false ∧
          ∃ st, A.readOnlyModeAllowed snap.adapter = .ok (true, st)) := by
  have hI := hs.invariant
  refine ⟨fun hph line args e w hp hh hsucc t hst => ?_, fun hr => ⟨hI.readOnly hr,
    fun c hc hown => ?_⟩, fun t hst => ⟨(hI.run hst).2.status.readOnly, (hI.run hst).2.readOnly_set⟩⟩
  · have hs₁ : SessionReachable cfg A (s.serveLine cfg A line) := .step hs (.own (.line _ _ hph))
    have hon : (s.serveLine cfg A line).world.status.readOnlyMailboxAccess = true := by
      rw [Session.serveLine_world_of_raised hp hh]
      exact ClientCommandHandler.handleCommand_xpro_success cfg A hh hsucc
    exact (hs₁.invariant.run hst).2.status.readOnly hon
  by_cases hph : s.phase = .closed
  · have : c ∈ s.world.clients.filter s.world.status.owns := List.mem_filter.2 ⟨hc, hown⟩
    simp [hI.closed hph] at this
  · have hmem := (hI.consistent hph).ownEntries_eq ▸ List.mem_filter.2 ⟨hc, hown⟩
    obtain ⟨e, he, rfl⟩ : ∃ e, s.world.status.registryEntry = some e ∧ c = e := by
      cases h : s.world.status.registryEntry <;> simp_all
    exact (ClientStatusHolder.registryEntry_eq_some he).2.trans hr

/-- The contract after `XPRO`, `USER bob` and `PASS pw` on a `ListAdapter`. -/
theorem read_only_mode_contract_after_xpro :
    let A := ListAdapter.adapter id
    let s := ((((Session.initial ⟨1, "127.0.0.1", 50000⟩ (ListAdapter.new "bob" "pw" ["hi"])
      []).opened A).serveLine Settings.default A "XPRO").serveLine Settings.default A
        "USER bob").serveLine Settings.default A "PASS pw"
    (s.phase = .serving → ∀ line args e w, ClientHandler.parseCommand line = .ok ("XPRO", args) →
      ClientCommandHandler.handleCommand Settings.default A "XPRO" args s.world =
        .error (.send e) w →
      e.success = true → ∀ t, Relation.ReflTransGen (SessionStep Settings.default A)
        (s.serveLine Settings.default A line) t → t.world.status.readOnlyMailboxAccess = true) ∧
    (s.world.status.readOnlyMailboxAccess = true →
      (∀ p ∈ s.world.calls, p.1.touchesDeletionMarks = false ∧
        ∀ u r, p.1 = .loginSuccessful u r → r = true) ∧
      ∀ c ∈ s.world.clients, s.world.status.owns c = true → c.readOnly = true) ∧
    ∀ t, Relation.ReflTransGen (SessionStep Settings.default A) s t →
      (s.world.status.readOnlyMailboxAccess = true → t.world.status.readOnlyMailboxAccess = true) ∧
      (s.world.status.readOnlyMailboxAccess = false → t.world.status.readOnlyMailboxAccess = true →
        s.world.status.authenticated = false ∧
        ∃ snap, (AdapterCall.readOnlyModeAllowed, snap) ∈ t.world.calls.drop s.world.calls.length ∧
          snap.status.authenticated = false ∧
          ∃ st, A.readOnlyModeAllowed snap.adapter = .ok (true, st)) :=
  read_only_mode_contract (.step (.step (.step (.step (.initial _ _ _ (by simp))
    (.own (.opened _ rfl))) (.own (.line _ _ (by rfl)))) (.own (.line _ _ (by rfl))))
    (.own (.line _ _ (by rfl))))

end Runs

end Pop3sf
