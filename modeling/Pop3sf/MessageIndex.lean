import Mathlib.Logic.Relation
import Pop3sf.Handler

set_option autoImplicit false

/-!
# Message indexes stay in range (`AdapterBase`'s index contract)

`AdapterBase` promises every adapter that an index passed to it "is always between
0 and get_message_count() - 1 and, except when passed to the
is_message_marked_as_deleted() method, it's never the index of a message that was
marked as deleted".  The core keeps the promise by checking each message number in
`_parse_message_number_argument_to_index` and by walking `range(count)` in the
listing loops, asking the adapter for the marks except in read-only mode, where
nothing can be marked.

That rests on what the adapter documents in turn, collected in `MessageStore`: the
number of messages is the same in every call after `login_successful`,
`is_message_marked_as_deleted` tells the marks, only the calls that write the
mailbox change them, and a fresh adapter has none.  Under it every call of every
session run keeps the index contract (`message_index_safety`).

The proof follows the command code as `SessionInvariant` does, with an invariant of
its own (`World.ReadyAt`): every call so far kept the contract, and the adapter is
in the state the session's status calls for.
-/

namespace Pop3sf

open SessionM SendDataToClientException

/-! ## The adapter's side -/

/-- The calls that write the mailbox: its deletion marks, or, on commit, its
messages. -/
def AdapterCall.writesMailbox : AdapterCall → Bool
  | .markMessageAsDeleted _ | .unmarkMessagesMarkedAsDeleted | .commitDeletions => true
  | _ => false

theorem AdapterCall.writesMailbox_eq_false {call : AdapterCall} (h : call.needsLogin = false) :
    call.writesMailbox = false := by
  cases call <;> simp_all [writesMailbox, needsLogin]

/-- What an adapter documents about its messages, for a session with `count`
messages: a fresh adapter has no marks and keeps its state until the login;
after `login_successful` it answers `get_message_count` with `count`;
`is_message_marked_as_deleted` answers with the marks, which only the calls that
write the mailbox change. -/
structure MessageStore {σ : Type} (A : AdapterBase σ) where
  /-- the states of a fresh adapter, until `login_successful` -/
  BeforeLogin : σ → Prop
  /-- the states after `login_successful` returned -/
  AfterLogin : σ → Prop
  /-- the number of messages, marked ones included -/
  count : Nat
  /-- whether the message at an index is marked as deleted -/
  marked : σ → Int → Bool
  beforeLogin_unmarked : ∀ s i, BeforeLogin s → marked s i = false
  invoke_beforeLogin : ∀ (call : AdapterCall) s a s', call.needsLogin = false →
    (∀ u r, call ≠ .loginSuccessful u r) → BeforeLogin s → A.invoke call s = .ok (a, s') →
    BeforeLogin s'
  loginSuccessful_afterLogin : ∀ u r s s', BeforeLogin s →
    A.loginSuccessful u r s = .ok ((), s') → AfterLogin s'
  invoke_afterLogin : ∀ (call : AdapterCall) s a s', AfterLogin s →
    A.invoke call s = .ok (a, s') → AfterLogin s'
  getMessageCount_eq : ∀ s k s', AfterLogin s → A.getMessageCount s = .ok (k, s') →
    k = count
  isMessageMarkedAsDeleted_eq : ∀ i s b s', A.isMessageMarkedAsDeleted i s = .ok (b, s') →
    b = marked s i
  invoke_marked : ∀ (call : AdapterCall) s a s', call.writesMailbox = false →
    A.invoke call s = .ok (a, s') → marked s' = marked s

namespace MessageStore

variable {σ : Type} {A : AdapterBase σ} (M : MessageStore A)

/-- An index the content, unique-id and mark calls may get in state `s`. -/
def Undeleted (i : Int) (s : σ) : Prop := 0 ≤ i ∧ i < M.count ∧ M.marked s i = false

/-- The index contract for one call, made in adapter state `s`. -/
def IndexOk (call : AdapterCall) (s : σ) : Prop :=
  match call with
  | .getMessageContent i _ | .getMessageUniqueId i | .markMessageAsDeleted i => M.Undeleted i s
  | .isMessageMarkedAsDeleted i => 0 ≤ i ∧ i < M.count
  | _ => True

theorem indexOk_of_needsLogin {call : AdapterCall} (h : call.needsLogin = false) (s : σ) :
    M.IndexOk call s := by
  cases call <;> simp_all [IndexOk, AdapterCall.needsLogin]

/-- The adapter state a session's status calls for: fresh before the login; after
it, loaded, and with no marks in read-only mode. -/
def MailboxAt : Bool → ClientStatusHolder → σ → Prop
  | false, _, s => M.BeforeLogin s
  | true, st, s => M.AfterLogin s ∧ (st.readOnlyMailboxAccess = true → ∀ i, M.marked s i = false)

variable {M} {call : AdapterCall} {st : ClientStatusHolder} {s s' : σ} {a : call.Answer}

theorem mailboxAt_invoke_true (hw : call.writesMailbox = false) (h : M.MailboxAt true st s)
    (hi : A.invoke call s = .ok (a, s')) : M.MailboxAt true st s' :=
  ⟨M.invoke_afterLogin call s a s' h.1 hi, fun hr i =>
    (congrFun (M.invoke_marked call s a s' hw hi) i).trans (h.2 hr i)⟩

/-- A call allowed before the login keeps the adapter in the state the status
calls for. -/
theorem mailboxAt_invoke_plain (hn : call.needsLogin = false)
    (hl : ∀ u r, call ≠ .loginSuccessful u r) {b : Bool} (h : M.MailboxAt b st s)
    (hi : A.invoke call s = .ok (a, s')) : M.MailboxAt b st s' := by
  cases b
  · exact M.invoke_beforeLogin call s a s' hn hl h hi
  · exact mailboxAt_invoke_true (AdapterCall.writesMailbox_eq_false hn) h hi

/-- A call that writes the mailbox, made by a read-write session. -/
theorem mailboxAt_invoke_writable (hr : st.readOnlyMailboxAccess = false)
    (h : M.MailboxAt true st s) (hi : A.invoke call s = .ok (a, s')) : M.MailboxAt true st s' :=
  ⟨M.invoke_afterLogin call s a s' h.1 hi, fun h' => absurd (hr ▸ h') (by decide)⟩

end MessageStore

/-! ## The invariant -/

section Invariant

variable {σ : Type} {A : AdapterBase σ} (M : MessageStore A)

/-- Every call recorded in `w` kept the index contract in the state it was made in. -/
def World.IndexSafe (w : World σ) : Prop := ∀ p ∈ w.calls, M.IndexOk p.1 p.2.adapter

/-- The invariant of command code in the AUTHORIZATION (`false`) or TRANSACTION
(`true`) state. -/
structure World.ReadyAt (b : Bool) (w : World σ) : Prop where
  indexSafe : w.IndexSafe M
  mailbox : M.MailboxAt b w.status w.adapter
  authenticated : w.status.authenticated = b

/-- The invariant in the state the session is in. -/
def World.Ready (w : World σ) : Prop := w.ReadyAt M w.status.authenticated

/-- After a raise: the calls kept the contract, and after a response (not an
adapter exception) the session can go on. -/
def World.ReadyAfter (r : Raised) (w : World σ) : Prop :=
  w.IndexSafe M ∧ ∀ e, r = .send e → w.Ready M

/-- No relation between the start and the end: the index invariant is carried by
the pre- and postconditions alone. -/
def World.AnyChange (_ _ : World σ) : Prop := True

instance : IsRefl (World σ) World.AnyChange := ⟨fun _ => trivial⟩

instance : IsTrans (World σ) World.AnyChange := ⟨fun _ _ _ _ _ => trivial⟩

/-- Command code that keeps the index invariant in the state `b`. -/
def KeepsIndexes {α : Type} (b : Bool) (m : SessionM σ α) : Prop :=
  Preserves World.AnyChange (World.ReadyAt M b) m

/-- Command code that keeps the index invariant, given an undeleted index `i`. -/
def KeepsIndexesAt {α : Type} (i : Int) (m : SessionM σ α) : Prop :=
  Triple World.AnyChange (fun w => w.ReadyAt M true ∧ M.Undeleted i w.adapter) m
    (fun _ => World.ReadyAt M true) (fun _ => World.ReadyAt M true)

variable {M} {b : Bool}

theorem World.IndexSafe.record {w : World σ} {call : AdapterCall} (hw : w.IndexSafe M)
    (hc : M.IndexOk call w.adapter) (s : σ) : ({ w.record call with adapter := s }).IndexSafe M :=
  fun p hp => (List.mem_append.1 hp).elim (hw p) fun h => List.mem_singleton.1 h ▸ hc

theorem World.ReadyAt.record {w : World σ} {call : AdapterCall} (hw : w.ReadyAt M b)
    (hc : M.IndexOk call w.adapter) {s : σ} (hs : M.MailboxAt b w.status s) :
    ({ w.record call with adapter := s }).ReadyAt M b :=
  ⟨hw.indexSafe.record hc s, hs, hw.authenticated⟩

/-- The registry is not part of the invariant. -/
theorem World.ReadyAt.withClients {w : World σ} (hw : w.ReadyAt M b) (clients : List Client) :
    ({ w with clients := clients }).ReadyAt M b :=
  ⟨hw.indexSafe, hw.mailbox, hw.authenticated⟩

theorem World.ReadyAt.ready {w : World σ} (hw : w.ReadyAt M b) : w.Ready M := by
  rw [World.Ready, hw.authenticated]
  exact hw

theorem World.Ready.readyAt {w : World σ} (hw : w.Ready M) (hb : w.status.authenticated = b) :
    w.ReadyAt M b := by
  rw [World.Ready, hb] at hw
  exact hw

theorem World.ReadyAt.readyAfter {w : World σ} (hw : w.ReadyAt M b) (r : Raised) :
    w.ReadyAfter M r :=
  ⟨hw.indexSafe, fun _ _ => hw.ready⟩

/-- A handler of the AUTHORIZATION state that keeps the invariant, with the posts of
`PASS`. -/
theorem KeepsIndexes.authorization {α : Type} {m : SessionM σ α} (h : KeepsIndexes M false m) :
    Triple World.AnyChange (World.ReadyAt M false) m (fun _ => World.Ready M)
      (World.ReadyAfter M) :=
  h.mono (fun _ => id) (fun _ _ h => h.ready) (fun r _ h => h.readyAfter r)

/-- A call made from worlds satisfying `P`, each ready and where the call keeps the
contract. -/
theorem triple_callAdapter_ready {call : AdapterCall} {P : World σ → Prop}
    (hP : ∀ w, P w → w.ReadyAt M b ∧ M.IndexOk call w.adapter)
    (hs : ∀ w a s, P w → A.invoke call w.adapter = .ok (a, s) → M.MailboxAt b w.status s) :
    Triple World.AnyChange P (callAdapter A call) (fun _ => World.ReadyAt M b)
      (fun _ => World.ReadyAt M b) :=
  Triple.callAdapter fun w hw =>
    ⟨fun _ _ => ⟨(hP w hw).1.record (hP w hw).2 (hP w hw).1.mailbox, trivial⟩,
      fun a s h => ⟨(hP w hw).1.record (hP w hw).2 (hs w a s hw h), trivial⟩⟩

/-- The same, with what the answer and the world after the call satisfy. -/
theorem triple_callAdapter_answer {call : AdapterCall} {P : World σ → Prop}
    {V : call.Answer → World σ → Prop} (hP : ∀ w, P w → w.ReadyAt M b ∧ M.IndexOk call w.adapter)
    (hs : ∀ w a s, P w → A.invoke call w.adapter = .ok (a, s) →
      M.MailboxAt b w.status s ∧ V a { w.record call with adapter := s }) :
    Triple World.AnyChange P (callAdapter A call) (fun a w => w.ReadyAt M b ∧ V a w)
      (fun _ => World.ReadyAt M b) :=
  Triple.callAdapter fun w hw =>
    ⟨fun _ _ => ⟨(hP w hw).1.record (hP w hw).2 (hP w hw).1.mailbox, trivial⟩,
      fun a s h => ⟨⟨(hP w hw).1.record (hP w hw).2 (hs w a s hw h).1, (hs w a s hw h).2⟩, trivial⟩⟩

/-- A call allowed before the login, in either state. -/
theorem keepsIndexes_callAdapter_plain {call : AdapterCall} (hn : call.needsLogin = false)
    (hl : ∀ u r, call ≠ .loginSuccessful u r) : KeepsIndexes M b (callAdapter A call) :=
  triple_callAdapter_ready (fun w hw => ⟨hw, M.indexOk_of_needsLogin hn w.adapter⟩)
    fun _ _ _ hw hi => MessageStore.mailboxAt_invoke_plain hn hl hw.mailbox hi

/-- A call that reads the mailbox, made with an index it may get. -/
theorem keepsIndexesAt_callAdapter {call : AdapterCall} {i : Int}
    (hw : call.writesMailbox = false) (hc : ∀ s, M.Undeleted i s → M.IndexOk call s) :
    KeepsIndexesAt M i (callAdapter A call) :=
  triple_callAdapter_ready (fun w h => ⟨h.1, hc w.adapter h.2⟩)
    fun _ _ _ h hi => MessageStore.mailboxAt_invoke_true hw h.1.mailbox hi

/-- A status update that keeps the authentication, and the access mode after the
login. -/
theorem keepsIndexes_modifyStatus {f : ClientStatusHolder → ClientStatusHolder}
    (hf : ∀ st : ClientStatusHolder, st.authenticated = b →
      (f st).authenticated = st.authenticated ∧
        (b = true → (f st).readOnlyMailboxAccess = st.readOnlyMailboxAccess)) :
    KeepsIndexes M b (modifyStatus f) := by
  refine Triple.modifyStatus fun w hw => ⟨⟨hw.indexSafe, ?_,
    (hf w.status hw.authenticated).1.trans hw.authenticated⟩, trivial⟩
  have hm := hw.mailbox
  cases b
  · exact hm
  · exact ⟨hm.1, fun hr => hm.2 ((hf w.status hw.authenticated).2 rfl ▸ hr)⟩

/-- A status update of the fields the invariant does not read. -/
theorem keepsIndexes_modifyStatus_of_eq {f : ClientStatusHolder → ClientStatusHolder}
    (hf : ∀ st : ClientStatusHolder, (f st).authenticated = st.authenticated ∧
      (f st).readOnlyMailboxAccess = st.readOnlyMailboxAccess) :
    KeepsIndexes M b (modifyStatus f) :=
  keepsIndexes_modifyStatus fun st _ => ⟨(hf st).1, fun _ => (hf st).2⟩

end Invariant

/-! ## `AdapterHelperWrapper` -/

namespace AdapterHelperWrapper

variable {σ : Type} (cfg : Settings) {A : AdapterBase σ} (M : MessageStore A) (b : Bool)

theorem connectionOpened_keepsIndexes : KeepsIndexes M b (connectionOpened A) :=
  Preserves.getStatus_bind fun _ => keepsIndexes_callAdapter_plain rfl (by simp)

theorem readOnlyModeAllowed_keepsIndexes : KeepsIndexes M b (readOnlyModeAllowed A) :=
  keepsIndexes_callAdapter_plain rfl (by simp)

theorem performInvalidPasswordPunishments_keepsIndexes :
    KeepsIndexes M b (performInvalidPasswordPunishments cfg : SessionM σ Unit) := by
  refine Triple.ite _ (Preserves.bind ?_ fun _ => Preserves.getStatus_bind fun _ =>
    Triple.ite _ (Preserves.raise _) (Preserves.pure _)) (Preserves.pure _)
  exact keepsIndexes_modifyStatus_of_eq fun _ => ⟨rfl, rfl⟩

theorem verifyLoginCredentials_keepsIndexes (username password : String) :
    KeepsIndexes M b (verifyLoginCredentials cfg A username password) :=
  Preserves.bind (keepsIndexes_callAdapter_plain rfl (by simp)) fun _ =>
    Preserves.ite_bind _ (performInvalidPasswordPunishments_keepsIndexes cfg M b)
      (Preserves.pure _) fun _ => Preserves.pure _

/-- After the login, `get_message_count` answers with the number of messages. -/
theorem getMessageCount_triple :
    Triple World.AnyChange (World.ReadyAt M true) (getMessageCount A)
      (fun k w => w.ReadyAt M true ∧ k = M.count) (fun _ => World.ReadyAt M true) := by
  have hc : Triple World.AnyChange (World.ReadyAt M true) (callAdapter A .getMessageCount)
      (fun (k : Int) w => w.ReadyAt M true ∧ k = M.count) (fun _ => World.ReadyAt M true) := by
    refine triple_callAdapter_answer (fun _ hw => ?_) fun _ k s hw hi => ?_
    · exact ⟨hw, trivial⟩
    · exact ⟨MessageStore.mailboxAt_invoke_true (by rfl) hw.mailbox hi,
        M.getMessageCount_eq _ k s hw.mailbox.1 hi⟩
  refine Triple.bind hc fun k => Triple.ite _ (Triple.raise_bind _ fun _ h => h.1) ?_
  exact Triple.pure_bind (Triple.pure _ fun _ => id)

/-- In range, `is_message_marked_as_deleted` is asked only in read-write mode, and
an answer `False` means the message is not marked. -/
theorem isMessageMarkedAsDeleted_triple (index : Int) :
    Triple World.AnyChange (fun w => w.ReadyAt M true ∧ 0 ≤ index ∧ index < M.count)
      (isMessageMarkedAsDeleted A index)
      (fun marked w => w.ReadyAt M true ∧ (marked = false → M.marked w.adapter index = false))
      (fun _ => World.ReadyAt M true) := by
  refine Triple.getStatus_bind fun st => ?_
  split
  · exact Triple.pure _ fun w h => ⟨h.1.1, fun _ => h.1.1.mailbox.2 (h.2 ▸ ‹_›) index⟩
  · refine triple_callAdapter_answer (fun w h => ?_) fun w c s h hi => ?_
    · exact ⟨h.1.1, h.1.2⟩
    have hs := M.invoke_marked (.isMessageMarkedAsDeleted index) _ _ _ rfl hi
    exact ⟨MessageStore.mailboxAt_invoke_true (by rfl) h.1.1.mailbox hi, fun hc =>
      hs ▸ (M.isMessageMarkedAsDeleted_eq index w.adapter c s hi) ▸ hc⟩

/-- The listing loop over indexes in range gives `f` only undeleted ones. -/
theorem forEachUndeleted_keepsIndexes {β : Type} {f : Int → SessionM σ β}
    (hf : ∀ i, KeepsIndexesAt M i (f i)) (indices : List Int)
    (hidx : ∀ i ∈ indices, 0 ≤ i ∧ i < M.count) :
    KeepsIndexes M true (forEachUndeleted A f indices) := by
  induction indices with
  | nil => exact Preserves.pure _
  | cons index rest ih =>
    have hrest : ∀ entry, KeepsIndexes M true (do
        let entries ← forEachUndeleted A f rest
        pure (entry ++ entries)) := fun _ =>
      (ih fun i hi => hidx i (List.mem_cons_of_mem _ hi)).bind fun _ => Preserves.pure _
    have hindex := hidx index (List.mem_cons_self _ _)
    refine Triple.bind ((isMessageMarkedAsDeleted_triple M index).mono
      (fun _ h => ⟨h, hindex⟩) (fun _ _ => id) (fun _ _ => id))
      fun marked => Triple.ite_of _ (fun _ => Triple.bind (Triple.pure _ fun _ h => h.1) hrest)
        fun hm => Triple.bind ((hf index).mono (fun w h => ⟨h.1, ?_⟩) (fun _ _ => id)
          (fun _ _ => id)) fun _ => (Preserves.pure _).bind hrest
    exact ⟨hindex.1, hindex.2, h.2 (Bool.eq_false_iff.2 hm)⟩

theorem mem_indices {count i : Int} (h : i ∈ indices count) : 0 ≤ i ∧ i < count := by
  obtain ⟨n, hn, rfl⟩ := List.mem_map.1 h
  have := List.mem_range.1 hn
  simp only [Int.ofNat_eq_coe]
  omega

/-- `get_message_count`, then code for indexes below the count. -/
theorem keepsIndexes_count_bind {α : Type} {k : Int → SessionM σ α}
    (hk : ∀ count : Int, (∀ i ∈ indices count, 0 ≤ i ∧ i < M.count) →
      KeepsIndexes M true (k count)) :
    KeepsIndexes M true (getMessageCount A >>= k) :=
  Triple.bind (getMessageCount_triple M) fun count w h =>
    hk count (fun _ hi => h.2 ▸ mem_indices hi) w h.1

theorem getUndeletedMessageCount_keepsIndexes :
    KeepsIndexes M true (getUndeletedMessageCount A) :=
  keepsIndexes_count_bind M fun _ hidx =>
    (forEachUndeleted_keepsIndexes M (fun _ => Triple.pure _ fun _ h => h.1) _ hidx).bind
      fun _ => Preserves.pure _

theorem getMessageContent_keepsIndexesAt (index : Int) :
    KeepsIndexesAt M index (getMessageContent A index) :=
  Triple.getStatus_bind fun _ => (keepsIndexesAt_callAdapter (by rfl) (by exact fun _ => id)).mono
    (fun _ h => h.1) (fun _ _ => id) (fun _ _ => id)

theorem getHeadersAndFirstNLinesOfAMessage_keepsIndexesAt (index : Int) (n : Nat) :
    KeepsIndexesAt M index (getHeadersAndFirstNLinesOfAMessage A index n) :=
  Triple.bind (getMessageContent_keepsIndexesAt M index) fun _ => Preserves.pure _

theorem getMessageSize_keepsIndexesAt (index : Int) :
    KeepsIndexesAt M index (getMessageSize A index) := by
  refine Triple.bind (getMessageContent_keepsIndexesAt M index) fun _ =>
    Preserves.getStatus_bind fun _ => ?_
  split
  · exact Preserves.pure _
  · exact Preserves.raise _

theorem getAllUndeletedMessagesSizes_keepsIndexes :
    KeepsIndexes M true (getAllUndeletedMessagesSizes A) :=
  keepsIndexes_count_bind M fun _ =>
    forEachUndeleted_keepsIndexes M (getMessageSize_keepsIndexesAt M) _

theorem getMessageUniqueId_keepsIndexesAt (index : Int) :
    KeepsIndexesAt M index (getMessageUniqueId A index) :=
  Triple.bind (keepsIndexesAt_callAdapter (by rfl) (by exact fun _ => id)) fun _ =>
    Preserves.ite_bind _ (Preserves.raise _) (Preserves.pure _) fun _ => Preserves.pure _

theorem getAllUndeletedMessagesUniqueIds_keepsIndexes :
    KeepsIndexes M true (getAllUndeletedMessagesUniqueIds A) :=
  keepsIndexes_count_bind M fun _ hidx =>
    (forEachUndeleted_keepsIndexes M (getMessageUniqueId_keepsIndexesAt M) _ hidx).bind fun _ =>
      Preserves.ite_bind _ (Preserves.raise _) (Preserves.pure _) fun _ => Preserves.pure _

/-- A call that writes the mailbox, made only after the read-only check. -/
theorem triple_callAdapter_writable {call : AdapterCall} {P : World σ → Prop}
    {st : ClientStatusHolder} (hst : ¬st.readOnlyMailboxAccess = true)
    (hP : ∀ w, P w → w.ReadyAt M true ∧ M.IndexOk call w.adapter) :
    Triple World.AnyChange (fun w => P w ∧ w.status = st) (callAdapter A call)
      (fun _ => World.ReadyAt M true) (fun _ => World.ReadyAt M true) :=
  triple_callAdapter_ready (fun w h => hP w h.1) fun w _ _ h hi =>
    MessageStore.mailboxAt_invoke_writable (by simpa [h.2] using hst) (hP w h.1).1.mailbox hi

theorem markMessageAsDeleted_keepsIndexesAt (index : Int) :
    KeepsIndexesAt M index (markMessageAsDeleted A index) := by
  refine Triple.getStatus_bind fun st => ?_
  dsimp only
  split
  · exact Triple.raise_bind _ fun _ h => h.1.1
  · exact triple_callAdapter_writable M ‹_› fun _ h => h

theorem unmarkMessagesMarkedAsDeleted_keepsIndexes :
    KeepsIndexes M true (unmarkMessagesMarkedAsDeleted A) := by
  refine Triple.getStatus_bind fun st => ?_
  dsimp only
  split
  · exact Triple.raise_bind _ fun _ h => h.1
  · exact triple_callAdapter_writable M ‹_› fun _ h => ⟨h, trivial⟩

theorem commitDeletions_keepsIndexes : KeepsIndexes M true (commitDeletions A) := by
  refine Triple.getStatus_bind fun st => ?_
  split
  · exact Triple.pure _ fun _ h => h.1
  · exact triple_callAdapter_writable M ‹_› fun _ h => ⟨h, trivial⟩

/-- `login_successful`, called by `authentication_successful` once the status says
authenticated: afterwards the adapter is loaded, and unmarked in read-only mode. -/
theorem loginSuccessful_triple_indexes (username : String) :
    Triple World.AnyChange
      (fun w => w.IndexSafe M ∧ M.BeforeLogin w.adapter ∧ w.status.authenticated = true)
      (loginSuccessful A username) (fun _ => World.ReadyAt M true) (World.ReadyAfter M) := by
  refine Triple.getStatus_bind fun st => Triple.callAdapter fun w h => ?_
  obtain ⟨⟨hs, hb, ha⟩, -⟩ := h
  refine ⟨fun _ _ => ⟨⟨hs.record (by trivial) _, fun _ h => nomatch h⟩, trivial⟩,
    fun a s hi => ⟨⟨hs.record (by trivial) s, ?_, ha⟩, trivial⟩⟩
  refine ⟨M.loginSuccessful_afterLogin _ _ _ _ hb hi, fun _ i => ?_⟩
  rw [M.invoke_marked (.loginSuccessful username st.readOnlyMailboxAccess) _ _ _ rfl hi]
  exact M.beforeLogin_unmarked _ i hb

end AdapterHelperWrapper

/-- `authentication_successful` from an unauthenticated session: the registry
refuses and nothing changes, or the session is authenticated and `login_successful`
loads the adapter; only an adapter exception leaves it unready. -/
theorem authenticationSuccessful_triple_indexes {σ : Type} {A : AdapterBase σ}
    (M : MessageStore A) (username : String) :
    Triple World.AnyChange (World.ReadyAt M false) (authenticationSuccessful A username)
      (fun _ => World.ReadyAt M true) (World.ReadyAfter M) := by
  intro w hw
  rw [authenticationSuccessful, wp_bind, wp_addClient]
  dsimp only
  split
  · simp only [wp_bind, wp_ite, wp_raise, if_true]
    exact ⟨(hw.withClients _).readyAfter _, trivial⟩
  · simp only [wp_bind, wp_ite, wp_pure, wp_modifyStatus, if_false]
    exact Triple.wp_of (AdapterHelperWrapper.loginSuccessful_triple_indexes M username)
      ⟨hw.indexSafe, hw.mailbox, rfl⟩ trivial (fun _ _ => id) (fun _ _ => id)

/-! ## The command handlers -/

namespace ClientCommandHandler

variable {σ : Type} (cfg : Settings) {A : AdapterBase σ} (M : MessageStore A) (b : Bool)

/-- Code that neither calls the adapter nor touches the world keeps anything. -/
theorem checkArgumentCount_preserves (args : List String) (counts : List Nat)
    (I : World σ → Prop) : Preserves World.AnyChange I (checkArgumentCount args counts) := by
  unfold checkArgumentCount
  split
  · exact Preserves.raise _
  · exact Preserves.pure _

theorem parseNumberOfLinesArgument_preserves (numberOfLines : String) (I : World σ → Prop) :
    Preserves World.AnyChange I (parseNumberOfLinesArgument numberOfLines : SessionM σ Int) := by
  unfold parseNumberOfLinesArgument
  split
  · exact Preserves.ite_bind _ (Preserves.raise _) (Preserves.pure _) fun _ => Preserves.pure _
  · exact Preserves.raise _

/-- A message number that parses is the number of an undeleted message: its index
is in range and not marked. -/
theorem parseMessageNumberArgumentToIndex_triple (messageNumber : String) :
    Triple World.AnyChange (World.ReadyAt M true)
      (parseMessageNumberArgumentToIndex A messageNumber)
      (fun i w => w.ReadyAt M true ∧ M.Undeleted i w.adapter) (fun _ => World.ReadyAt M true) := by
  unfold parseMessageNumberArgumentToIndex
  split
  · rename_i k _
    apply Triple.ite_of
    · exact fun _ => Triple.raise_bind _ fun _ => id
    intro h0
    refine Triple.pure_bind (Triple.bind (AdapterHelperWrapper.getMessageCount_triple M) fun count =>
      Triple.of_fact fun hcount => ?_)
    apply Triple.ite_of
    · exact fun _ => Triple.raise_bind _ fun _ => id
    intro hc
    refine Triple.pure_bind (Triple.bind ((AdapterHelperWrapper.isMessageMarkedAsDeleted_triple M
      (k - 1)).mono (fun w h => ⟨h, by omega⟩) (fun _ _ => id) (fun _ _ => id))
      fun marked => ?_)
    apply Triple.ite_of
    · exact fun _ => Triple.raise_bind _ fun _ h => h.1
    intro hm
    exact Triple.pure_bind (Triple.pure _ fun w h =>
      ⟨h.1, by omega, by omega, h.2 (by simpa using hm)⟩)
  · exact Triple.raise _ fun _ => id

theorem invalidCommand_keepsIndexes : KeepsIndexes M b (invalidCommand cfg : SessionM σ Unit) := by
  refine Triple.ite _ (Preserves.bind ?_ fun _ => Preserves.getStatus_bind fun _ =>
      Preserves.ite_bind _ (Preserves.raise _) (Preserves.pure _) fun _ => Preserves.raise _)
    ((Preserves.pure _).bind fun _ => Preserves.raise _)
  exact keepsIndexes_modifyStatus_of_eq fun _ => ⟨rfl, rfl⟩

theorem commandCapa_keepsIndexes (args : List String) : KeepsIndexes M b (commandCapa A args) :=
  (checkArgumentCount_preserves args _ _).bind fun _ =>
    (AdapterHelperWrapper.readOnlyModeAllowed_keepsIndexes M b).bind fun _ => Preserves.raise _

theorem commandQuitInAuthorizationState_keepsIndexes (args : List String) :
    KeepsIndexes M b (commandQuitInAuthorizationState args : SessionM σ Unit) :=
  (checkArgumentCount_preserves args _ _).bind fun _ => Preserves.raise _

theorem commandQuitInTransactionState_keepsIndexes (args : List String) :
    KeepsIndexes M true (commandQuitInTransactionState A args) :=
  (checkArgumentCount_preserves args _ _).bind fun _ =>
    (AdapterHelperWrapper.commitDeletions_keepsIndexes M).bind fun _ => Preserves.raise _

/-- `XPRO` sets read-only access before the login, which the invariant allows. -/
theorem commandXpro_keepsIndexes (args : List String) : KeepsIndexes M false (commandXpro A args) := by
  refine (checkArgumentCount_preserves args _ _).bind fun _ =>
    (AdapterHelperWrapper.readOnlyModeAllowed_keepsIndexes M false).bind fun _ =>
      Preserves.ite_bind _ (Preserves.raise _) (Preserves.pure _) fun _ =>
        Preserves.bind ?_ fun _ => Preserves.raise _
  exact keepsIndexes_modifyStatus fun _ _ => ⟨rfl, fun h => nomatch h⟩

theorem commandUtf8_keepsIndexes (args : List String) :
    KeepsIndexes M b (commandUtf8 args : SessionM σ Unit) := by
  refine (checkArgumentCount_preserves args _ _).bind fun _ =>
    Preserves.bind ?_ fun _ => Preserves.raise _
  exact keepsIndexes_modifyStatus_of_eq fun _ => ⟨rfl, rfl⟩

theorem commandLang_keepsIndexes (args : List String) :
    KeepsIndexes M b (commandLang args : SessionM σ Unit) := by
  refine (checkArgumentCount_preserves args _ _).bind fun _ => ?_
  split
  · exact Preserves.raise _
  · refine Triple.ite _ (Preserves.bind ?_ fun _ => (Preserves.raise _).bind fun _ =>
      Preserves.raise _) ((Preserves.pure _).bind fun _ => Preserves.raise _)
    exact keepsIndexes_modifyStatus_of_eq fun _ => ⟨rfl, rfl⟩

theorem commandNoop_keepsIndexes (args : List String) :
    KeepsIndexes M b (commandNoop args : SessionM σ Unit) :=
  (checkArgumentCount_preserves args _ _).bind fun _ => Preserves.raise _

theorem commandUser_keepsIndexes (args : List String) :
    KeepsIndexes M b (commandUser args : SessionM σ Unit) := by
  refine (checkArgumentCount_preserves args _ _).bind fun _ =>
    Preserves.bind ?_ fun _ => Preserves.raise _
  exact keepsIndexes_modifyStatus_of_eq fun _ => ⟨rfl, rfl⟩

theorem commandStat_keepsIndexes (args : List String) : KeepsIndexes M true (commandStat A args) :=
  (checkArgumentCount_preserves args _ _).bind fun _ =>
    (AdapterHelperWrapper.getUndeletedMessageCount_keepsIndexes M).bind fun _ =>
      (AdapterHelperWrapper.getAllUndeletedMessagesSizes_keepsIndexes M).bind fun _ =>
        Preserves.raise _

/-- Parse a message number, then run code given the undeleted index. -/
theorem keepsIndexes_parse_bind {α : Type} (messageNumber : String) {k : Int → SessionM σ α}
    (hk : ∀ i, KeepsIndexesAt M i (k i)) :
    KeepsIndexes M true (parseMessageNumberArgumentToIndex A messageNumber >>= k) :=
  Triple.bind (parseMessageNumberArgumentToIndex_triple M messageNumber) hk

theorem commandList_keepsIndexes (args : List String) :
    KeepsIndexes M true (commandList A args) := by
  refine (checkArgumentCount_preserves args _ _).bind fun _ => ?_
  split
  · exact (AdapterHelperWrapper.getAllUndeletedMessagesSizes_keepsIndexes M).bind fun _ =>
      Preserves.raise _
  · exact keepsIndexes_parse_bind M _ fun i =>
      Triple.bind (AdapterHelperWrapper.getMessageSize_keepsIndexesAt M i) fun _ => Preserves.raise _

theorem commandUidl_keepsIndexes (args : List String) :
    KeepsIndexes M true (commandUidl A args) := by
  refine (checkArgumentCount_preserves args _ _).bind fun _ => ?_
  split
  · exact (AdapterHelperWrapper.getAllUndeletedMessagesUniqueIds_keepsIndexes M).bind fun _ =>
      Preserves.raise _
  · exact keepsIndexes_parse_bind M _ fun i =>
      Triple.bind (AdapterHelperWrapper.getMessageUniqueId_keepsIndexesAt M i) fun _ =>
        Preserves.raise _

theorem commandRetr_keepsIndexes (args : List String) : KeepsIndexes M true (commandRetr A args) :=
  (checkArgumentCount_preserves args _ _).bind fun _ => keepsIndexes_parse_bind M _ fun i =>
    Triple.bind (AdapterHelperWrapper.getMessageContent_keepsIndexesAt M i) fun _ => Preserves.raise _

theorem commandTop_keepsIndexes (args : List String) : KeepsIndexes M true (commandTop A args) :=
  (checkArgumentCount_preserves args _ _).bind fun _ => keepsIndexes_parse_bind M _ fun i =>
    Triple.bind ((parseNumberOfLinesArgument_preserves _ _).mono (fun _ => id) (fun _ _ => id)
      (fun _ _ h => h.1)) fun _ =>
      Triple.bind (AdapterHelperWrapper.getHeadersAndFirstNLinesOfAMessage_keepsIndexesAt M i _)
        fun _ => Preserves.raise _

theorem commandDele_keepsIndexes (args : List String) : KeepsIndexes M true (commandDele A args) :=
  (checkArgumentCount_preserves args _ _).bind fun _ => keepsIndexes_parse_bind M _ fun i =>
    Triple.bind (AdapterHelperWrapper.markMessageAsDeleted_keepsIndexesAt M i) fun _ =>
      Preserves.raise _

theorem commandRset_keepsIndexes (args : List String) : KeepsIndexes M true (commandRset A args) :=
  (checkArgumentCount_preserves args _ _).bind fun _ =>
    (AdapterHelperWrapper.unmarkMessagesMarkedAsDeleted_keepsIndexes M).bind fun _ =>
      Preserves.raise _

/-- `PASS`: unready only after an adapter exception. -/
theorem commandPass_triple_indexes (args : List String) :
    Triple World.AnyChange (World.ReadyAt M false) (commandPass cfg A args)
      (fun _ => World.Ready M) (World.ReadyAfter M) := by
  refine Triple.getStatus_bind fun st => ?_
  split
  · rename_i username _
    have hv : Triple World.AnyChange (fun w => w.ReadyAt M false ∧ w.status = st)
        (AdapterHelperWrapper.verifyLoginCredentials cfg A username (" ".intercalate args))
        (fun _ => World.ReadyAt M false) (World.ReadyAfter M) :=
      (AdapterHelperWrapper.verifyLoginCredentials_keepsIndexes cfg M false username _).mono
        (fun _ h => h.1) (fun _ _ => id) (fun r _ h => h.readyAfter r)
    refine Triple.ite _ (Triple.raise_bind _ fun _ h => h.1.readyAfter _)
      (Triple.pure_bind (Triple.bind hv fun _ =>
        Triple.ite _ (Triple.raise_bind _ fun _ h => h.readyAfter _)
          (Triple.pure_bind (Triple.bind (authenticationSuccessful_triple_indexes M username)
            fun _ => Triple.getStatus_bind fun _ => Triple.raise _ fun _ h => h.1.readyAfter _))))
  · exact Triple.raise _ fun _ h => h.1.readyAfter _

theorem handleTransactionStateCommand_keepsIndexes (command : String) (args : List String) :
    KeepsIndexes M true (handleTransactionStateCommand cfg A command args) := by
  unfold handleTransactionStateCommand
  split
  exacts [commandCapa_keepsIndexes M _ args, commandLang_keepsIndexes M _ args,
    commandNoop_keepsIndexes M _ args, commandQuitInTransactionState_keepsIndexes M args,
    commandStat_keepsIndexes M args, commandList_keepsIndexes M args,
    commandUidl_keepsIndexes M args, commandRetr_keepsIndexes M args,
    commandTop_keepsIndexes M args, commandDele_keepsIndexes M args,
    commandRset_keepsIndexes M args, invalidCommand_keepsIndexes cfg M _]

theorem handleAuthorizationStateCommand_triple_indexes (command : String) (args : List String) :
    Triple World.AnyChange (World.ReadyAt M false)
      (handleAuthorizationStateCommand cfg A command args) (fun _ => World.Ready M)
      (World.ReadyAfter M) := by
  unfold handleAuthorizationStateCommand
  split
  exacts [(commandCapa_keepsIndexes M _ args).authorization,
    (commandQuitInAuthorizationState_keepsIndexes M _ args).authorization,
    (commandXpro_keepsIndexes M args).authorization,
    (commandUtf8_keepsIndexes M _ args).authorization,
    (commandLang_keepsIndexes M _ args).authorization,
    (commandUser_keepsIndexes M _ args).authorization, commandPass_triple_indexes cfg M args,
    (invalidCommand_keepsIndexes cfg M _).authorization]

theorem handleCommand_triple_indexes (command : String) (args : List String) :
    Triple World.AnyChange (World.Ready M) (handleCommand cfg A command args)
      (fun _ => World.Ready M) (World.ReadyAfter M) := by
  refine Triple.getStatus_bind fun st => ?_
  split
  · refine (handleTransactionStateCommand_keepsIndexes cfg M command args).mono
      (fun _ h => ?_) (fun _ _ h => h.ready) (fun r _ h => h.readyAfter r)
    exact h.1.readyAt (h.2 ▸ ‹_›)
  · refine (handleAuthorizationStateCommand_triple_indexes cfg M command args).mono
      (fun _ h => ?_) (fun _ _ => id) (fun _ _ => id)
    exact h.1.readyAt (h.2 ▸ Bool.eq_false_iff.2 ‹_›)

end ClientCommandHandler

/-! ## `ListAdapter` keeps its promises -/

namespace ListAdapter

theorem answer_eq_ok {α : Type} {s s' : ListAdapter} {o : Option α} {a : α}
    (h : answer s o = .ok (a, s')) : o = some a ∧ s' = s := by
  cases o <;> cases h
  exact ⟨rfl, rfl⟩

theorem pyGet_mem {α : Type} {l : List α} {i : Int} {x : α} (h : pyGet l i = some x) : x ∈ l := by
  unfold pyGet at h
  split_ifs at h
  exacts [List.get?_mem h, List.get?_mem h]

theorem pySet_length {α : Type} {l l' : List α} {i : Int} {f : α → α}
    (h : pySet l i f = some l') : l'.length = l.length := by
  unfold pySet at h
  split_ifs at h <;> cases h <;> exact List.length_modify _ _ _

variable (sha256Hexdigest : String → String)

/-- A call that does not write the mailbox leaves a `ListAdapter` as it is. -/
theorem invoke_eq_self {call : AdapterCall} {s s' : ListAdapter} {a : call.Answer}
    (hw : call.writesMailbox = false) (h : (adapter sha256Hexdigest).invoke call s = .ok (a, s')) :
    s' = s := by
  cases call <;> simp [AdapterCall.writesMailbox] at hw <;>
    simp only [AdapterBase.invoke, adapter] at h
  all_goals first
    | exact (answer_eq_ok h).2
    | cases h; rfl

/-- Every call keeps the number of messages. -/
theorem invoke_length {call : AdapterCall} {s s' : ListAdapter} {a : call.Answer}
    (h : (adapter sha256Hexdigest).invoke call s = .ok (a, s')) :
    s'.messageObjects.length = s.messageObjects.length := by
  cases hw : call.writesMailbox
  · rw [invoke_eq_self sha256Hexdigest hw h]
  · cases call <;> simp [AdapterCall.writesMailbox] at hw <;>
      simp only [AdapterBase.invoke, adapter] at h
    · split at h
      · cases h
        exact pySet_length ‹_›
      · cases h
    · cases h
      exact List.length_map _ _
    · cases h
      rfl

/-- `ListAdapter`'s side of the index contract, for a session over `n` messages:
the number of messages never changes, and the marks are the flags of the message
objects, all clear when it is constructed. -/
def messageStore (n : Nat) : MessageStore (adapter sha256Hexdigest) where
  BeforeLogin s := s.messageObjects.length = n ∧ ∀ m ∈ s.messageObjects, m.markedAsDeleted = false
  AfterLogin s := s.messageObjects.length = n
  count := n
  marked s i := ((pyGet s.messageObjects i).map (·.markedAsDeleted)).getD false
  beforeLogin_unmarked s i h := by
    show ((pyGet s.messageObjects i).map (·.markedAsDeleted)).getD false = false
    cases hg : pyGet s.messageObjects i with
    | none => rfl
    | some m => exact h.2 m (pyGet_mem hg)
  invoke_beforeLogin call s a s' hn _ h hi :=
    invoke_eq_self sha256Hexdigest (AdapterCall.writesMailbox_eq_false hn) hi ▸ h
  loginSuccessful_afterLogin _ _ s s' h hi := by
    cases hi
    exact h.1
  invoke_afterLogin call s a s' h hi := (invoke_length sha256Hexdigest hi).trans h
  getMessageCount_eq s k s' h hi := by
    cases hi
    exact congrArg Nat.cast h
  isMessageMarkedAsDeleted_eq i s b s' hi := by
    show b = ((pyGet s.messageObjects i).map (·.markedAsDeleted)).getD false
    rw [(answer_eq_ok hi).1]
    rfl
  invoke_marked call s a s' hw hi := by rw [invoke_eq_self sha256Hexdigest hw hi]

/-- A freshly constructed `ListAdapter` is where its store starts. -/
theorem new_beforeLogin (username password : String) (messages : List String) :
    (messageStore sha256Hexdigest messages.length).BeforeLogin (new username password messages) :=
  ⟨List.length_map _ _, by simp [new]⟩

end ListAdapter

/-! ## Sessions -/

section Steps

variable {σ : Type} {cfg : Settings} {A : AdapterBase σ} {M : MessageStore A}

/-- The invariant of a session: the calls so far kept the contract, and a session
still opening or serving is ready for its next command. -/
structure Session.IndexInvariant (M : MessageStore A) (s : Session σ) : Prop where
  indexSafe : s.world.IndexSafe M
  ready : s.phase = .opening ∨ s.phase = .serving → s.world.Ready M

theorem World.ReadyAt.after {α : Type} {m : SessionM σ α} {w : World σ} {b : Bool}
    (hw : w.ReadyAt M b) (h : KeepsIndexes M b m) : (World.after (m w)).ReadyAt M b :=
  wp_after (wp_mono (fun _ _ h => h.1) (fun _ _ h => h.1) (h w hw))

/-- `connection_closed` keeps the record of calls within the contract, whatever the
state. -/
theorem World.IndexSafe.after_connectionClosed {w : World σ} (hw : w.IndexSafe M) :
    (World.after (AdapterHelperWrapper.connectionClosed A w)).IndexSafe M := by
  have h : wp (AdapterHelperWrapper.connectionClosed A) (fun _ => World.IndexSafe M)
      (fun _ => World.IndexSafe M) w := by
    rw [AdapterHelperWrapper.connectionClosed, wp_callAdapter]
    split
    · exact hw.record (by trivial) _
    · exact hw.record (by trivial) _
  exact wp_after h

/-- One line: the calls keep the contract, and a session that wrote its response is
ready for the next line. -/
theorem processLine_indexes (line : String) {w : World σ} (hw : w.Ready M) :
    (ClientHandler.processLine cfg A line w).2.IndexSafe M ∧
      ∀ bytes close, (ClientHandler.processLine cfg A line w).1 = .sent bytes close →
        (ClientHandler.processLine cfg A line w).2.Ready M := by
  unfold ClientHandler.processLine
  split
  · exact ⟨hw.indexSafe, fun _ _ _ => hw⟩
  · rename_i command args _
    have h := ClientCommandHandler.handleCommand_triple_indexes cfg M command args w hw
    unfold wp at h
    split <;> rename_i heq <;> simp only [heq] at h
    · exact ⟨h.1.indexSafe, fun _ _ h' => nomatch h'⟩
    · exact ⟨h.1.1, fun _ _ _ => h.1.2 _ rfl⟩
    · exact ⟨h.1.1, fun _ _ h' => nomatch h'⟩

theorem OwnStep.indexInvariant {s t : Session σ} (h : OwnStep cfg A s t)
    (hs : s.IndexInvariant M) : t.IndexInvariant M := by
  cases h with
  | opened hph =>
    have hw := (hs.ready (.inl hph) : s.world.ReadyAt M _).after
      (AdapterHelperWrapper.connectionOpened_keepsIndexes M _)
    refine ⟨?_, fun _ => ?_⟩ <;> rw [Session.opened_world]
    exacts [hw.indexSafe, hw.ready]
  | line line hph =>
    obtain ⟨h1, h2⟩ := @processLine_indexes σ cfg A M line s.world (hs.ready (.inr hph))
    unfold Session.serveLine
    split <;> rename_i heq <;> simp only [heq] at h1 h2
    · exact ⟨h1, fun _ => h2 _ _ rfl⟩
    · exact ⟨h1, fun h => by simp at h⟩
  | dropped hph => exact ⟨hs.indexSafe, fun h => by simp at h⟩
  | tornDown hph => exact ⟨hs.indexSafe.after_connectionClosed, fun h => by simp [Session.tornDown] at h⟩

theorem SessionStep.indexInvariant {s t : Session σ} (h : SessionStep cfg A s t)
    (hs : s.IndexInvariant M) : t.IndexInvariant M := by
  cases h with
  | own h => exact h.indexInvariant hs
  | interfered call hne => exact ⟨hs.indexSafe, fun h => (hs.ready h).withClients _⟩

theorem Session.IndexInvariant.initial (connectionInfo : ClientConnectionInfoHolder) (adapter : σ)
    (clients : List Client) (hfresh : M.BeforeLogin adapter) :
    (Session.initial connectionInfo adapter clients).IndexInvariant M :=
  ⟨fun p hp => absurd hp (List.not_mem_nil p),
    fun _ => ⟨fun p hp => absurd hp (List.not_mem_nil p), hfresh, rfl⟩⟩

theorem Session.IndexInvariant.run {s t : Session σ} (hs : s.IndexInvariant M)
    (h : Relation.ReflTransGen (SessionStep cfg A) s t) : t.IndexInvariant M := by
  induction h with
  | refl => exact hs
  | tail _ hst ih => exact hst.indexInvariant ih

/-- Every call a session run makes on an adapter that keeps its `MessageStore`
promises keeps the index contract of `AdapterBase`: content, unique-id and mark
calls get an index in `0 ..< count` of a message not marked as deleted, and
`is_message_marked_as_deleted` an index in `0 ..< count`. -/
theorem message_index_safety (M : MessageStore A) (connectionInfo : ClientConnectionInfoHolder)
    (adapter : σ) (clients : List Client) (hfresh : M.BeforeLogin adapter) {s : Session σ}
    (hrun : Relation.ReflTransGen (SessionStep cfg A) (Session.initial connectionInfo adapter clients) s) :
    ∀ p ∈ s.world.calls, M.IndexOk p.1 p.2.adapter :=
  ((Session.IndexInvariant.initial connectionInfo adapter clients hfresh).run hrun).indexSafe

/-- A `ListAdapter` session that reads, deletes and lists a message: a fresh adapter
is where its store starts, and every call of the run keeps the contract. -/
theorem message_index_safety_list_adapter :
    (ListAdapter.messageStore id 1).BeforeLogin (ListAdapter.new "bob" "pw" ["hi"]) ∧
      ∀ p ∈ (((((((Session.initial ⟨1, "127.0.0.1", 50000⟩ (ListAdapter.new "bob" "pw" ["hi"])
        []).opened (ListAdapter.adapter id)).serveLine Settings.default (ListAdapter.adapter id)
        "USER bob").serveLine Settings.default (ListAdapter.adapter id) "PASS pw").serveLine
        Settings.default (ListAdapter.adapter id) "RETR 1").serveLine Settings.default
        (ListAdapter.adapter id) "DELE 1").serveLine Settings.default (ListAdapter.adapter id)
        "LIST").world.calls,
      (ListAdapter.messageStore id 1).IndexOk p.1 p.2.adapter :=
  have hfresh := ListAdapter.new_beforeLogin id "bob" "pw" ["hi"]
  ⟨hfresh, message_index_safety (ListAdapter.messageStore id 1) _ _ _ hfresh
    (.tail (.tail (.tail (.tail (.tail (.tail .refl (.own (.opened _ rfl)))
      (.own (.line _ _ (by rfl)))) (.own (.line _ _ (by rfl)))) (.own (.line _ _ (by rfl))))
      (.own (.line _ _ (by rfl)))) (.own (.line _ _ (by rfl))))⟩

end Steps

end Pop3sf
