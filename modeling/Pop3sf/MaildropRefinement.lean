import Pop3sf.Maildrop
import Pop3sf.MessageIndex
import Pop3sf.RateLimits

set_option autoImplicit false

/-!
# A `ListAdapter` session refines the maildrop

`ListAdapter` keeps its messages as message objects, each with a deletion flag; its
maildrop (`ListAdapter.maildrop`) is the list of their contents with the set of
flagged indices.  Every TRANSACTION-state command line a session over a `ListAdapter`
processes answers as `Maildrop.step` says and leaves the maildrop it computes, and
`commit_deletions` is called exactly on a `QUIT` of a read-write session
(`processLine_refines`); so along every schedule of events the lines the session
serves follow `Maildrop.trace` and the adapter ends in `Maildrop.run`
(`maildrop_refinement`).

The proof follows the code: one lemma per helper of `AdapterHelperWrapper`, stated as
the value it computes from the maildrop (`Reads`), one per handler, stated as the reply
and the maildrop it leaves (`Refines`), then the dispatcher, the line and the run.  In
a read-only session `is_message_marked_as_deleted` is not asked and answers `False`;
that agrees with the maildrop because a read-only session starts with no marks and
never makes one (`Maildrop.step_readOnly`).

Two messages with the same content have the same unique id, so `UIDL` without an
argument answers `-ERR` on such a maildrop (`uidl_err_of_equal_contents`).
-/

namespace Pop3sf

open SessionM SendDataToClientException

/-! ## The maildrop of a `ListAdapter` -/

namespace ListAdapter

/-- Whether message object `i` is flagged; past the end none is. -/
def marked (s : ListAdapter) (i : Nat) : Bool :=
  (s.messageObjects[i]?.map (·.markedAsDeleted)).getD false

/-- The maildrop a `ListAdapter` holds: the contents, and the flagged indices. -/
def maildrop (s : ListAdapter) : Maildrop where
  messages := s.messageObjects.map (·.content)
  deleted := (Finset.range s.messageObjects.length).filter fun i => s.marked i
  deleted_lt i hi := by simpa using (Finset.mem_filter.1 hi).1

/-- `mark_message_as_deleted` on message object `i`. -/
def markAt (s : ListAdapter) (i : Nat) : ListAdapter :=
  { s with messageObjects := s.messageObjects.modify (fun m => { m with markedAsDeleted := true }) i }

/-- `unmark_messages_marked_as_deleted`. -/
def unmarkAll (s : ListAdapter) : ListAdapter :=
  { s with messageObjects := s.messageObjects.map ({ · with markedAsDeleted := false }) }

variable (sha256Hexdigest : String → String) (s : ListAdapter)

theorem pyGet_natCast {α : Type} (l : List α) (i : Nat) : pyGet l i = l.get? i := by
  rw [pyGet, if_pos (Int.natCast_nonneg i), Int.toNat_natCast]

theorem maildrop_content (i : Nat) :
    s.maildrop.content i = (s.messageObjects[i]?.map (·.content)).getD "" := by
  simp only [Maildrop.content, maildrop, List.getD_eq_getElem?_getD, List.getElem?_map]

theorem maildrop_length : s.maildrop.messages.length = s.messageObjects.length :=
  List.length_map _ _

theorem mem_maildrop_deleted {i : Nat} :
    i ∈ s.maildrop.deleted ↔ i < s.messageObjects.length ∧ s.marked i = true := by
  simp [maildrop]

theorem invoke_getMessageCount :
    (adapter sha256Hexdigest).invoke .getMessageCount s = .ok ((s.messageObjects.length : Int), s) :=
  rfl

theorem invoke_isMessageMarkedAsDeleted {i : Nat} (hi : i < s.messageObjects.length) :
    (adapter sha256Hexdigest).invoke (.isMessageMarkedAsDeleted i) s = .ok (s.marked i, s) := by
  simp [AdapterBase.invoke, adapter, pyGet_natCast, List.getElem?_eq_getElem hi, marked, answer]

theorem invoke_getMessageContent {i : Nat} (hi : i < s.messageObjects.length) (encoding : String) :
    (adapter sha256Hexdigest).invoke (.getMessageContent i encoding) s =
      .ok (s.maildrop.content i, s) := by
  simp [AdapterBase.invoke, adapter, pyGet_natCast, List.getElem?_eq_getElem hi, maildrop_content,
    answer]

theorem invoke_getMessageUniqueId {i : Nat} (hi : i < s.messageObjects.length) :
    (adapter sha256Hexdigest).invoke (.getMessageUniqueId i) s =
      .ok (sha256Hexdigest (s.maildrop.content i), s) := by
  simp [AdapterBase.invoke, adapter, pyGet_natCast, List.getElem?_eq_getElem hi, maildrop_content,
    answer]

theorem invoke_markMessageAsDeleted {i : Nat} (hi : i < s.messageObjects.length) :
    (adapter sha256Hexdigest).invoke (.markMessageAsDeleted i) s = .ok ((), s.markAt i) := by
  simp only [AdapterBase.invoke, adapter]
  rw [pySet, if_pos ⟨Int.natCast_nonneg i, Int.ofNat_lt.2 hi⟩, Int.toNat_natCast]
  rfl

theorem maildrop_markAt {i : Nat} (hi : i < s.messageObjects.length) :
    (s.markAt i).maildrop = s.maildrop.delete i := by
  have hi' : i < s.maildrop.messages.length := by rwa [maildrop_length]
  rw [Maildrop.delete, dif_pos hi']
  refine Maildrop.ext ?_ (Finset.ext fun j => ?_)
  · exact map_modify_of_comp _ _ (by intro; rfl) _ _
  · simp only [Finset.mem_insert, mem_maildrop_deleted]
    simp only [markAt, marked, List.length_modify, List.getElem?_modify]
    by_cases hj : i = j
    · subst hj
      simp [List.getElem?_eq_getElem hi, hi]
    · simp [hj, Ne.symm hj, marked]

/-- A freshly constructed `ListAdapter` holds its messages, none of them marked. -/
theorem maildrop_new_messages (username password : String) (messages : List String) :
    (new username password messages).maildrop.messages = messages := by
  simp [maildrop, new, Function.comp_def]

theorem maildrop_new_deleted (username password : String) (messages : List String) :
    (new username password messages).maildrop.deleted = ∅ := by
  ext i
  simp only [maildrop, new, marked, Finset.mem_filter, List.getElem?_map, Option.map_map]
  cases messages[i]? <;> simp

theorem maildrop_unmarkAll : s.unmarkAll.maildrop = s.maildrop.reset := by
  ext j
  · simp [maildrop, unmarkAll, Maildrop.reset]
  · simp only [maildrop, unmarkAll, Maildrop.reset, marked, Finset.mem_filter, List.length_map,
      List.getElem?_map, Option.map_map]
    cases s.messageObjects[j]? <;> simp

end ListAdapter

/-! ## Helpers that only read -/

/-- What a helper that only reads leaves of the world it starts from: the adapter and
the status as they were, and calls none of which changes the deletion marks. -/
structure World.OnlyRead (w w' : World ListAdapter) : Prop where
  adapter : w'.adapter = w.adapter
  status : w'.status = w.status
  calls : ∃ l, w'.calls = w.calls ++ l ∧ ∀ p ∈ l, p.1.changesDeletionMarks = false

namespace World.OnlyRead

theorem refl (w : World ListAdapter) : w.OnlyRead w :=
  ⟨rfl, rfl, [], (List.append_nil _).symm, fun _ h => absurd h (List.not_mem_nil _)⟩

theorem trans {w w' w'' : World ListAdapter} (h : w.OnlyRead w') (h' : w'.OnlyRead w'') :
    w.OnlyRead w'' := by
  obtain ⟨l, hl, hc⟩ := h.calls
  obtain ⟨l', hl', hc'⟩ := h'.calls
  refine ⟨h'.adapter.trans h.adapter, h'.status.trans h.status, l ++ l', ?_, ?_⟩
  · rw [hl', hl, List.append_assoc]
  · intro p hp
    exact (List.mem_append.1 hp).elim (hc p) (hc' p)

theorem record (w : World ListAdapter) {call : AdapterCall} (hc : call.changesDeletionMarks = false) :
    w.OnlyRead { w.record call with adapter := w.adapter } :=
  ⟨rfl, rfl, [(call, w.toSnapshot)], rfl, fun _ hp => List.mem_singleton.1 hp ▸ hc⟩

end World.OnlyRead

section Reads

variable {α β : Type} {s : ListAdapter} {st : ClientStatusHolder}

/-- From every world over the adapter state `s` with status `st`, `m` only reads, and
returns `a` when `v = some a` or raises a `-ERR` response when `v = none`. -/
def Reads (s : ListAdapter) (st : ClientStatusHolder) (m : SessionM ListAdapter α)
    (v : Option α) : Prop :=
  ∀ w : World ListAdapter, w.adapter = s → w.status = st →
    wp m (fun a w' => v = some a ∧ w.OnlyRead w')
      (fun r w' => v = none ∧ (∃ e, r = .send e ∧ e.success = false) ∧ w.OnlyRead w') w

theorem Reads.pure (a : α) : Reads s st (Pure.pure a : SessionM ListAdapter α) (some a) :=
  fun w _ _ => ⟨rfl, .refl w⟩

theorem Reads.raise {e : SendDataToClientException} (he : e.success = false) :
    Reads s st (SessionM.raise e : SessionM ListAdapter α) none :=
  fun w _ _ => ⟨rfl, ⟨e, rfl, he⟩, .refl w⟩

theorem Reads.of_eq {m : SessionM ListAdapter α} {v v' : Option α} (h : Reads s st m v)
    (hv : v = v') : Reads s st m v' :=
  hv ▸ h

theorem Reads.bind {m : SessionM ListAdapter β} {f : β → SessionM ListAdapter α} {v : Option β}
    {g : β → Option α} (hm : Reads s st m v) (hf : ∀ b, v = some b → Reads s st (f b) (g b)) :
    Reads s st (m >>= f) (v.bind g) := by
  intro w ha hs
  rw [wp_bind]
  refine wp_mono (fun b w' h => ?_) (fun r w' h => ?_) (hm w ha hs)
  · obtain ⟨rfl, hw'⟩ := h
    exact wp_mono (fun _ _ h' => ⟨h'.1, hw'.trans h'.2⟩) (fun _ _ h' => ⟨h'.1, h'.2.1, hw'.trans h'.2.2⟩)
      (hf b rfl w' (hw'.adapter.trans ha) (hw'.status.trans hs))
  · obtain ⟨rfl, he, hw'⟩ := h
    exact ⟨rfl, he, hw'⟩

theorem Reads.bind_some {m : SessionM ListAdapter β} {f : β → SessionM ListAdapter α} {b : β}
    {v : Option α} (hm : Reads s st m (some b)) (hf : Reads s st (f b) v) : Reads s st (m >>= f) v :=
  (hm.bind fun b' (h : some b = some b') => (Option.some.inj h ▸ hf : Reads s st (f b') v)).of_eq rfl

theorem Reads.bind_none {m : SessionM ListAdapter β} {f : β → SessionM ListAdapter α}
    (hm : Reads s st m none) : Reads s st (m >>= f) none :=
  (hm.bind fun b (h : none = some b) => (nomatch h : Reads s st (f b) none)).of_eq rfl

theorem Reads.getStatus_bind {f : ClientStatusHolder → SessionM ListAdapter α} {v : Option α}
    (h : Reads s st (f st) v) : Reads s st (getStatus >>= f) v := by
  intro w ha hs
  rw [wp_bind, wp_getStatus, hs]
  exact h w ha hs

theorem Reads.ite (c : Prop) [Decidable c] {x y : SessionM ListAdapter α} {v v' : Option α}
    (hx : c → Reads s st x v) (hy : ¬c → Reads s st y v') :
    Reads s st (if c then x else y) (if c then v else v') := by
  split
  · exact hx ‹_›
  · exact hy ‹_›

/-- `if c then raise e` followed by `k`, as `do` notation compiles it, when `c` fails. -/
theorem Reads.guard_neg {c : Prop} [Decidable c] (hc : ¬c) {e : SendDataToClientException}
    {k : PUnit → SessionM ListAdapter α} {v : Option α} (hk : Reads s st (k ⟨⟩) v) :
    Reads s st (if c then SessionM.raise e >>= k else Pure.pure ⟨⟩ >>= k) v := by
  rw [if_neg hc]
  exact (Reads.pure _).bind_some hk

/-- The guard before a final `pure a`, when it passes. -/
theorem Reads.guard_neg_pure {c : Prop} [Decidable c] (hc : ¬c) {e : SendDataToClientException} (a : α) :
    Reads s st (if c then SessionM.raise e >>= (fun (_ : PUnit) => Pure.pure a) else
      Pure.pure ⟨⟩ >>= (fun (_ : PUnit) => Pure.pure a)) (some a) :=
  Reads.guard_neg hc (Reads.pure a)

/-- `if c then raise e` followed by `k`, when `c` holds and `e` is a `-ERR`. -/
theorem Reads.guard_pos {c : Prop} [Decidable c] (hc : c) {e : SendDataToClientException}
    (he : e.success = false) {k : PUnit → SessionM ListAdapter α} :
    Reads s st (if c then SessionM.raise e >>= k else Pure.pure ⟨⟩ >>= k) none := by
  rw [if_pos hc]
  exact (Reads.raise he).bind_none

theorem Reads.callAdapter {A : AdapterBase ListAdapter} {call : AdapterCall} {a : call.Answer}
    (h : A.invoke call s = .ok (a, s)) (hc : call.changesDeletionMarks = false) :
    Reads s st (SessionM.callAdapter A call) (some a) := by
  intro w ha hs
  rw [wp_callAdapter, ha, h]
  exact ⟨rfl, ha ▸ World.OnlyRead.record w hc⟩

end Reads

/-! ## What the helpers compute over a `ListAdapter` -/

namespace AdapterHelperWrapper

open ListAdapter

variable (sha256Hexdigest : String → String) {s : ListAdapter} {st : ClientStatusHolder}

theorem getMessageCount_reads :
    Reads s st (getMessageCount (adapter sha256Hexdigest)) (some (s.messageObjects.length : Int)) := by
  refine (Reads.callAdapter (invoke_getMessageCount sha256Hexdigest s) rfl).bind_some ?_
  refine Reads.guard_neg_pure ?_ _
  omega

/-- In a read-only session, which has no marks, the helper answers `False` without
asking; otherwise it answers the flag. -/
theorem isMessageMarkedAsDeleted_reads {i : Nat} (hi : i < s.messageObjects.length)
    (hro : st.readOnlyMailboxAccess = true → s.maildrop.deleted = ∅) :
    Reads s st (isMessageMarkedAsDeleted (adapter sha256Hexdigest) i)
      (some (decide (i ∈ s.maildrop.deleted))) := by
  refine Reads.getStatus_bind ?_
  by_cases hr : st.readOnlyMailboxAccess = true
  · rw [if_pos hr, hro hr]
    exact Reads.pure _
  · rw [if_neg hr]
    refine (Reads.callAdapter (invoke_isMessageMarkedAsDeleted sha256Hexdigest s hi) rfl).of_eq ?_
    simp [mem_maildrop_deleted, hi]

/-- The loop over indices in range: the message number and the value of `f` for every
index not in `D`, in order, or `-ERR` as soon as `f` answers it. -/
theorem forEachUndeleted_reads {γ : Type} {f : Int → SessionM ListAdapter γ} {g : Nat → Option γ}
    (hro : st.readOnlyMailboxAccess = true → s.maildrop.deleted = ∅)
    (hf : ∀ i < s.messageObjects.length, i ∉ s.maildrop.deleted → Reads s st (f i) (g i))
    (l : List Nat) (hl : ∀ i ∈ l, i < s.messageObjects.length) :
    Reads s st (forEachUndeleted (adapter sha256Hexdigest) f (l.map Int.ofNat))
      ((l.filter (· ∉ s.maildrop.deleted)).mapM fun i => (g i).map fun b => ((i : Int) + 1, b)) := by
  induction l with
  | nil => exact Reads.pure _
  | cons i l ih =>
    have hi := hl i (List.mem_cons_self _ _)
    have hrest := ih fun j hj => hl j (List.mem_cons_of_mem _ hj)
    refine (isMessageMarkedAsDeleted_reads sha256Hexdigest hi hro).bind_some ?_
    by_cases hd : i ∈ s.maildrop.deleted
    · simp only [hd, decide_True, ↓reduceIte]
      exact (Reads.pure _).bind_some ((hrest.bind fun _ _ => Reads.pure _).of_eq
        (by simp [List.filter_cons, hd]))
    · simp only [hd, decide_False, Bool.false_eq_true, ↓reduceIte]
      have hd' : decide (i ∉ s.maildrop.deleted) = true := by simpa using hd
      simp only [List.filter_cons, hd', ↓reduceIte, List.mapM_cons]
      cases hg : g i with
      | none => exact (hg ▸ hf i hi hd).bind_none.of_eq (by simp [hg])
      | some b =>
        refine (hg ▸ hf i hi hd).bind_some ((Reads.pure _).bind_some ?_)
        refine (hrest.bind fun _ _ => Reads.pure _).of_eq ?_
        simp [hg, convertIndexToMessageNumber]

theorem indices_length (s : ListAdapter) :
    indices (s.messageObjects.length : Int) = (List.range s.maildrop.messages.length).map Int.ofNat := by
  rw [indices, maildrop_length, Int.toNat_natCast]

theorem getUndeletedMessageCount_reads
    (hro : st.readOnlyMailboxAccess = true → s.maildrop.deleted = ∅) :
    Reads s st (getUndeletedMessageCount (adapter sha256Hexdigest)) (some s.maildrop.undeleted.length) := by
  refine (getMessageCount_reads sha256Hexdigest).bind_some ?_
  rw [indices_length]
  refine ((forEachUndeleted_reads sha256Hexdigest hro (fun _ _ _ => Reads.pure ()) _ ?_).bind
    fun _ _ => Reads.pure _).of_eq ?_
  · intro i hi
    simpa [← maildrop_length] using hi
  · simp only [Option.map_some', List.mapM_some, Option.some_bind, List.length_map]
    rfl

theorem getMessageContent_reads {i : Nat} (hi : i < s.messageObjects.length) :
    Reads s st (getMessageContent (adapter sha256Hexdigest) i) (some (s.maildrop.content i)) :=
  Reads.getStatus_bind (Reads.callAdapter (invoke_getMessageContent sha256Hexdigest s hi _) rfl)

theorem getMessageSize_reads {i : Nat} (hi : i < s.messageObjects.length) :
    Reads s st (getMessageSize (adapter sha256Hexdigest) i)
      (Maildrop.messageSize st.encoding (s.maildrop.content i)) := by
  refine (getMessageContent_reads sha256Hexdigest hi).bind_some (Reads.getStatus_bind ?_)
  unfold Maildrop.messageSize
  split
  · rename_i bytes h
    rw [h]
    exact Reads.pure _
  · rename_i h
    rw [h]
    exact Reads.raise rfl

theorem getAllUndeletedMessagesSizes_reads
    (hro : st.readOnlyMailboxAccess = true → s.maildrop.deleted = ∅) :
    Reads s st (getAllUndeletedMessagesSizes (adapter sha256Hexdigest)) (s.maildrop.scanListing st.encoding) := by
  refine (getMessageCount_reads sha256Hexdigest).bind_some ?_
  rw [indices_length]
  refine forEachUndeleted_reads sha256Hexdigest hro (fun i hi _ => getMessageSize_reads sha256Hexdigest hi)
    _ fun i hi => ?_
  simpa [← maildrop_length] using hi

theorem getMessageUniqueId_reads {i : Nat} (hi : i < s.messageObjects.length) :
    Reads s st (getMessageUniqueId (adapter sha256Hexdigest) i) (s.maildrop.uniqueId sha256Hexdigest i) := by
  refine (Reads.callAdapter (invoke_getMessageUniqueId sha256Hexdigest s hi) rfl).bind_some ?_
  unfold Maildrop.uniqueId
  by_cases h : uniqueIdMatches (sha256Hexdigest (s.maildrop.content i)) = true
  · rw [if_pos h]
    exact Reads.guard_neg_pure (by simpa using h) _
  · rw [if_neg h]
    exact Reads.guard_pos (by simpa using h) rfl

theorem getAllUndeletedMessagesUniqueIds_reads
    (hro : st.readOnlyMailboxAccess = true → s.maildrop.deleted = ∅) :
    Reads s st (getAllUndeletedMessagesUniqueIds (adapter sha256Hexdigest))
      (s.maildrop.uniqueIdListing sha256Hexdigest) := by
  refine (getMessageCount_reads sha256Hexdigest).bind_some ?_
  rw [indices_length]
  refine ((forEachUndeleted_reads sha256Hexdigest hro
    (fun i hi _ => getMessageUniqueId_reads sha256Hexdigest hi) _ ?_).bind fun entries _ =>
      (?_ : Reads s st _ (if (entries.map Prod.snd).Nodup then some entries else none))).of_eq ?_
  · intro i hi
    simpa [← maildrop_length] using hi
  · by_cases hn : (entries.map Prod.snd).Nodup
    · rw [if_pos hn]
      exact Reads.guard_neg_pure (by simpa using hn) _
    · rw [if_neg hn]
      exact Reads.guard_pos (by simpa using hn) rfl
  · unfold Maildrop.uniqueIdListing Maildrop.undeleted
    cases (List.mapM _ _ : Option (List (Int × String))) <;> simp [Option.filter]

theorem getHeadersAndFirstNLinesOfAMessage_reads {i : Nat} (hi : i < s.messageObjects.length)
    (n : Nat) :
    Reads s st (getHeadersAndFirstNLinesOfAMessage (adapter sha256Hexdigest) i n)
      (some (headersAndFirstNLines (splitLinesWithoutDiscardingEmptyLines (s.maildrop.content i)) n)) :=
  (getMessageContent_reads sha256Hexdigest hi).bind_some (Reads.pure _)

theorem readOnlyModeAllowed_reads :
    Reads s st (readOnlyModeAllowed (adapter sha256Hexdigest)) (some true) :=
  Reads.callAdapter rfl rfl

end AdapterHelperWrapper

namespace ClientCommandHandler

open ListAdapter

variable (sha256Hexdigest : String → String) {s : ListAdapter} {st : ClientStatusHolder}

theorem checkArgumentCount_reads (args : List String) (counts : List Nat) :
    Reads s st (checkArgumentCount args counts : SessionM ListAdapter Unit)
      (if args.length ∈ counts then some () else none) := by
  unfold checkArgumentCount
  by_cases h : args.length ∈ counts
  · rw [if_neg (not_not.2 h), if_pos h]
    exact Reads.pure _
  · rw [if_pos h, if_neg h]
    exact Reads.raise rfl

theorem checkArgumentCount_reads_of_mem {args : List String} {counts : List Nat}
    (h : args.length ∈ counts) :
    Reads s st (checkArgumentCount args counts : SessionM ListAdapter Unit) (some ()) :=
  (checkArgumentCount_reads args counts).of_eq (if_pos h)

theorem checkArgumentCount_reads_of_not_mem {args : List String} {counts : List Nat}
    (h : args.length ∉ counts) :
    Reads s st (checkArgumentCount args counts : SessionM ListAdapter Unit) none :=
  (checkArgumentCount_reads args counts).of_eq (if_neg h)

/-- The message number argument: the index of a message not in `D`, or `-ERR`. -/
theorem parseMessageNumberArgumentToIndex_reads (messageNumber : String)
    (hro : st.readOnlyMailboxAccess = true → s.maildrop.deleted = ∅) :
    Reads s st (parseMessageNumberArgumentToIndex (adapter sha256Hexdigest) messageNumber)
      ((s.maildrop.messageIndex messageNumber).map fun (i : Nat) => (i : Int)) := by
  unfold parseMessageNumberArgumentToIndex
  have hlen := maildrop_length s
  split
  · rename_i k hk
    by_cases h1 : k - 1 < 0
    · refine (Reads.guard_pos h1 rfl).of_eq ?_
      simp only [Maildrop.messageIndex, hk]
      rw [if_neg (by omega)]
      rfl
    refine Reads.guard_neg h1 ((AdapterHelperWrapper.getMessageCount_reads sha256Hexdigest).bind_some ?_)
    by_cases h2 : k - 1 ≥ s.messageObjects.length
    · refine (Reads.guard_pos h2 rfl).of_eq ?_
      simp only [Maildrop.messageIndex, hk]
      rw [if_neg (by omega)]
      rfl
    refine Reads.guard_neg h2 ?_
    have hidx : k - 1 = ((k - 1).toNat : Int) := (Int.toNat_of_nonneg (by omega)).symm
    rw [hidx]
    refine (AdapterHelperWrapper.isMessageMarkedAsDeleted_reads sha256Hexdigest
      (show (k - 1).toNat < s.messageObjects.length by omega) hro).bind_some ?_
    dsimp only
    by_cases h3 : decide ((k - 1).toNat ∈ s.maildrop.deleted) = true
    · refine (Reads.guard_pos h3 rfl).of_eq ?_
      simp only [Maildrop.messageIndex, hk]
      rw [if_neg (fun h => h.2.2 (of_decide_eq_true h3))]
      rfl
    · refine (Reads.guard_neg_pure h3 _).of_eq ?_
      simp only [Maildrop.messageIndex, hk]
      rw [if_pos ⟨by omega, by omega, fun h => h3 (decide_eq_true h)⟩]
      rfl
  · rename_i hk
    refine (Reads.raise rfl).of_eq ?_
    simp only [Maildrop.messageIndex]
    split
    · exact absurd ‹_› (hk _)
    · rfl

theorem parseNumberOfLinesArgument_reads (numberOfLines : String) :
    Reads s st (parseNumberOfLinesArgument numberOfLines : SessionM ListAdapter Int)
      ((pyInt numberOfLines).filter fun n => decide (0 ≤ n)) := by
  unfold parseNumberOfLinesArgument
  split
  · rename_i n hn
    rw [hn, Option.filter_some]
    dsimp only
    by_cases h : n < 0
    · refine (Reads.guard_pos h rfl).of_eq ?_
      rw [if_neg (by simpa using h)]
    · refine (Reads.guard_neg_pure h _).of_eq ?_
      rw [if_pos (by simpa using h)]
  · rename_i hn
    refine (Reads.raise rfl).of_eq ?_
    cases h : pyInt numberOfLines
    · rfl
    · exact absurd h (hn _)

end ClientCommandHandler

/-! ## The handlers -/

/-- The part of the status the maildrop's answers depend on, which no TRANSACTION-state
command changes. -/
structure ClientStatusHolder.SameMode (st st' : ClientStatusHolder) : Prop where
  authenticated : st'.authenticated = st.authenticated
  readOnly : st'.readOnlyMailboxAccess = st.readOnlyMailboxAccess
  encoding : st'.encoding = st.encoding

theorem ClientStatusHolder.SameMode.refl (st : ClientStatusHolder) : st.SameMode st :=
  ⟨rfl, rfl, rfl⟩

theorem ClientStatusHolder.SameMode.trans {st st' st'' : ClientStatusHolder} (h : st.SameMode st')
    (h' : st'.SameMode st'') : st.SameMode st'' :=
  ⟨h'.authenticated.trans h.authenticated, h'.readOnly.trans h.readOnly,
    h'.encoding.trans h.encoding⟩

section Refines

variable {β : Type} {s : ListAdapter} {st : ClientStatusHolder}

/-- From every world over the adapter state `s` with status `st`, `m` raises a response
that the reply `o.1` stands for, leaves the maildrop `o.2` and the session's mode, and
calls `commit_deletions` exactly when the reply is a `QUIT` that commits. -/
def Refines (s : ListAdapter) (st : ClientStatusHolder) (m : SessionM ListAdapter Unit)
    (o : Reply × Maildrop) : Prop :=
  ∀ w : World ListAdapter, w.adapter = s → w.status = st →
    wp m (fun _ _ => False) (fun r w' => ∃ e, r = .send e ∧ o.1.Matches e ∧
      w'.adapter.maildrop = o.2 ∧ st.SameMode w'.status ∧
      ∃ l, w'.calls = w.calls ++ l ∧ (AdapterCall.commitDeletions ∈ l.map Prod.fst ↔ o.1 = .quit true)) w

theorem Refines.of_eq {m : SessionM ListAdapter Unit} {o o' : Reply × Maildrop} (h : Refines s st m o)
    (ho : o = o') : Refines s st m o' :=
  ho ▸ h

theorem Refines.raise {e : SendDataToClientException} {o : Reply × Maildrop} (he : o.1.Matches e)
    (hmd : o.2 = s.maildrop) (hq : o.1 ≠ .quit true) : Refines s st (SessionM.raise e) o :=
  fun w ha hs => ⟨e, rfl, he, ha ▸ hmd.symm, hs ▸ .refl _, [], (List.append_nil _).symm,
    by simpa using hq⟩

theorem Refines.raise_bind {e : SendDataToClientException} {k : β → SessionM ListAdapter Unit}
    {o : Reply × Maildrop} (he : o.1.Matches e) (hmd : o.2 = s.maildrop) (hq : o.1 ≠ .quit true) :
    Refines s st (SessionM.raise e >>= k) o := by
  intro w ha hs
  rw [wp_bind, wp_raise]
  exact Refines.raise he hmd hq w ha hs

/-- A helper that only reads, and returns. -/
theorem Refines.reads_bind {m : SessionM ListAdapter β} {f : β → SessionM ListAdapter Unit} {b : β}
    {o : Reply × Maildrop} (hm : Reads s st m (some b)) (hf : Refines s st (f b) o) :
    Refines s st (m >>= f) o := by
  intro w ha hs
  rw [wp_bind]
  refine wp_mono (fun b' w' h => ?_) (fun r w' h => absurd h.1 (by simp)) (hm w ha hs)
  obtain ⟨hb, hw'⟩ := h
  cases Option.some.inj hb
  obtain ⟨l, hl, hc⟩ := hw'.calls
  refine wp_mono (fun _ _ h => h) (fun r w'' ⟨e, hr, he, hmd, hmode, l', hl', hq⟩ =>
    ⟨e, hr, he, hmd, hmode, l ++ l', by rw [hl', hl, List.append_assoc], ?_⟩)
    (hf w' (hw'.adapter.trans ha) (hw'.status.trans hs))
  have hnc : AdapterCall.commitDeletions ∉ l.map Prod.fst := fun h => by
    obtain ⟨p, hp, hp'⟩ := List.mem_map.1 h
    exact absurd (hp' ▸ hc p hp) (by decide)
  simpa [List.map_append, hnc] using hq

/-- A helper that only reads, and answers `-ERR`. -/
theorem Refines.reads_bind_none {m : SessionM ListAdapter β} {f : β → SessionM ListAdapter Unit}
    {o : Reply × Maildrop} (hm : Reads s st m none) (he : ∀ e, e.success = false → o.1.Matches e)
    (hmd : o.2 = s.maildrop) (hq : o.1 ≠ .quit true) : Refines s st (m >>= f) o := by
  intro w ha hs
  rw [wp_bind]
  refine wp_mono (fun _ _ h => absurd h.1 (by simp)) (fun r w' h => ?_) (hm w ha hs)
  obtain ⟨-, ⟨e, rfl, hfail⟩, hw'⟩ := h
  obtain ⟨l, hl, hc⟩ := hw'.calls
  refine ⟨e, rfl, he e hfail, by rw [hw'.adapter, ha, hmd], by rw [hw'.status, hs]; exact .refl _,
    l, hl, ?_⟩
  refine ⟨fun h => absurd h ?_, fun h => absurd h hq⟩
  intro h
  obtain ⟨p, hp, hp'⟩ := List.mem_map.1 h
  exact absurd (hp' ▸ hc p hp) (by decide)

/-- A helper that only reads, and answers `-ERR`, where the handler answers `-ERR`. -/
theorem Refines.reads_bind_err {m : SessionM ListAdapter β} {f : β → SessionM ListAdapter Unit}
    (hm : Reads s st m none) : Refines s st (m >>= f) (.err, s.maildrop) :=
  Refines.reads_bind_none hm (fun _ => id) rfl (by simp)

theorem Refines.getStatus_bind {f : ClientStatusHolder → SessionM ListAdapter Unit}
    {o : Reply × Maildrop} (h : Refines s st (f st) o) : Refines s st (getStatus >>= f) o := by
  intro w ha hs
  rw [wp_bind, wp_getStatus, hs]
  exact h w ha hs

theorem Refines.modifyStatus_bind {f : ClientStatusHolder → ClientStatusHolder}
    {k : Unit → SessionM ListAdapter Unit} {o : Reply × Maildrop} (hf : st.SameMode (f st))
    (h : Refines s (f st) (k ()) o) : Refines s st (modifyStatus f >>= k) o := by
  intro w ha hs
  rw [wp_bind, wp_modifyStatus]
  refine wp_mono (fun _ _ h => h) (fun r w' ⟨e, hr, he, hmd, hmode, hcalls⟩ =>
    ⟨e, hr, he, hmd, hf.trans hmode, hcalls⟩) (h _ ha (by simp only [hs]))

/-- A call that changes the adapter to `s'` and is not `commit_deletions`. -/
theorem Refines.callAdapter_bind {A : AdapterBase ListAdapter} {call : AdapterCall} {a : call.Answer}
    {s' : ListAdapter} {f : call.Answer → SessionM ListAdapter Unit} {o : Reply × Maildrop}
    (hi : A.invoke call s = .ok (a, s')) (hc : call ≠ .commitDeletions) (hf : Refines s' st (f a) o) :
    Refines s st (SessionM.callAdapter A call >>= f) o := by
  intro w ha hs
  rw [wp_bind, wp_callAdapter, ha, hi]
  refine wp_mono (fun _ _ h => h) (fun r w' ⟨e, hr, he, hmd, hmode, l, hl, hq⟩ =>
    ⟨e, hr, he, hmd, hmode, (call, w.toSnapshot) :: l, by simp [hl], ?_⟩) (hf _ rfl hs)
  simpa [Ne.symm hc] using hq

end Refines

namespace ClientCommandHandler

open ListAdapter AdapterHelperWrapper

variable (cfg : Settings) (sha256Hexdigest : String → String) {s : ListAdapter}
  {st : ClientStatusHolder}

theorem commandCapa_refines (args : List String) :
    Refines s st (commandCapa (adapter sha256Hexdigest) args) (.other, s.maildrop) := by
  unfold commandCapa
  by_cases h : args.length ∈ [0]
  · refine Refines.reads_bind ((checkArgumentCount_reads args [0]).of_eq (if_pos h)) ?_
    exact Refines.reads_bind (readOnlyModeAllowed_reads sha256Hexdigest)
      (Refines.raise trivial rfl (by simp))
  · exact Refines.reads_bind_none ((checkArgumentCount_reads args [0]).of_eq (if_neg h))
      (fun _ _ => trivial) rfl (by simp)

theorem commandLang_refines (args : List String) :
    Refines s st (commandLang args : SessionM ListAdapter Unit) (.other, s.maildrop) := by
  unfold commandLang
  by_cases h : args.length ∈ [0, 1]
  · refine Refines.reads_bind ((checkArgumentCount_reads args [0, 1]).of_eq (if_pos h)) ?_
    split
    · exact Refines.raise trivial rfl (by simp)
    · dsimp only
      split
      · exact Refines.modifyStatus_bind ⟨rfl, rfl, rfl⟩ (Refines.raise_bind trivial rfl (by simp))
      · exact Refines.reads_bind (Reads.pure _) (Refines.raise trivial rfl (by simp))
  · exact Refines.reads_bind_none ((checkArgumentCount_reads args [0, 1]).of_eq (if_neg h))
      (fun _ _ => trivial) rfl (by simp)

theorem commandNoop_refines (args : List String) :
    Refines s st (commandNoop args : SessionM ListAdapter Unit) (.other, s.maildrop) := by
  unfold commandNoop
  by_cases h : args.length ∈ [0]
  · exact Refines.reads_bind ((checkArgumentCount_reads args [0]).of_eq (if_pos h))
      (Refines.raise trivial rfl (by simp))
  · exact Refines.reads_bind_none ((checkArgumentCount_reads args [0]).of_eq (if_neg h))
      (fun _ _ => trivial) rfl (by simp)

/-- `STAT`'s loop `carry + item[1]` adds up the sizes. -/
theorem foldl_add_snd (entries : List (Int × Nat)) (carry : Nat) :
    entries.foldl (fun carry item => carry + item.2) carry = carry + Maildrop.totalSize entries := by
  induction entries generalizing carry with
  | nil => rfl
  | cons entry entries ih =>
    rw [List.foldl_cons, ih]
    show _ = carry + (entry.2 + Maildrop.totalSize entries)
    omega

theorem commandQuitInTransactionState_refines (args : List String) :
    Refines s st (commandQuitInTransactionState (adapter sha256Hexdigest) args)
      (if args = [] then .quit (!st.readOnlyMailboxAccess) else .err, s.maildrop) := by
  unfold commandQuitInTransactionState
  by_cases h : args = []
  · rw [if_pos h]
    refine Refines.reads_bind (checkArgumentCount_reads_of_mem (by simp [h])) ?_
    intro w ha hs
    simp only [commitDeletions, wp_bind, wp_getStatus, hs]
    split
    · rename_i hr
      exact ⟨_, rfl, rfl, ha ▸ rfl, hs ▸ .refl _, [], (List.append_nil _).symm, by simp [hr]⟩
    · rename_i hr
      rw [wp_callAdapter, ha]
      exact ⟨_, rfl, rfl, rfl, hs ▸ .refl _, _, rfl, by simp [hr]⟩
  · rw [if_neg h]
    exact Refines.reads_bind_err (checkArgumentCount_reads_of_not_mem (by simpa using h))

theorem commandStat_refines (hro : st.readOnlyMailboxAccess = true → s.maildrop.deleted = ∅)
    (args : List String) :
    Refines s st (commandStat (adapter sha256Hexdigest) args)
      (if args = [] then (s.maildrop.scanListing st.encoding).elim .err fun entries =>
        .stat s.maildrop.undeleted.length (Maildrop.totalSize entries) else .err, s.maildrop) := by
  unfold commandStat
  by_cases h : args = []
  · rw [if_pos h]
    refine Refines.reads_bind (checkArgumentCount_reads_of_mem (by simp [h])) ?_
    refine Refines.reads_bind (getUndeletedMessageCount_reads sha256Hexdigest hro) ?_
    have hsizes := getAllUndeletedMessagesSizes_reads sha256Hexdigest hro
    cases hl : s.maildrop.scanListing st.encoding with
    | none =>
      rw [hl] at hsizes
      exact Refines.reads_bind_err hsizes
    | some entries =>
      rw [hl] at hsizes
      refine Refines.reads_bind hsizes (Refines.raise ?_ rfl (by simp))
      simp only [Option.elim, Reply.Matches, foldl_add_snd, Nat.zero_add]
  · rw [if_neg h]
    exact Refines.reads_bind_err (checkArgumentCount_reads_of_not_mem (by simpa using h))

theorem commandList_refines (hro : st.readOnlyMailboxAccess = true → s.maildrop.deleted = ∅)
    (args : List String) :
    Refines s st (commandList (adapter sha256Hexdigest) args)
      (match args with
        | [] => (s.maildrop.scanListing st.encoding).elim .err .scanListing
        | [messageNumber] => (s.maildrop.messageIndex messageNumber).elim .err fun i =>
            (Maildrop.messageSize st.encoding (s.maildrop.content i)).elim .err (.scanLine ((i : Int) + 1))
        | _ => .err, s.maildrop) := by
  unfold commandList
  rcases args with _ | ⟨messageNumber, _ | ⟨a, rest⟩⟩
  · refine Refines.reads_bind (checkArgumentCount_reads_of_mem (by simp)) ?_
    have hsizes := getAllUndeletedMessagesSizes_reads sha256Hexdigest hro
    cases hl : s.maildrop.scanListing st.encoding with
    | none =>
      rw [hl] at hsizes
      exact Refines.reads_bind_err hsizes
    | some entries =>
      rw [hl] at hsizes
      exact Refines.reads_bind hsizes (Refines.raise rfl rfl (by simp))
  · refine Refines.reads_bind (checkArgumentCount_reads_of_mem (by simp)) ?_
    dsimp only
    have hparse := parseMessageNumberArgumentToIndex_reads sha256Hexdigest messageNumber hro
    cases hi : s.maildrop.messageIndex messageNumber with
    | none =>
      rw [hi] at hparse
      exact Refines.reads_bind_err hparse
    | some i =>
      rw [hi] at hparse
      have hlt : i < s.messageObjects.length := maildrop_length s ▸ Maildrop.messageIndex_lt hi
      have hsize : Reads s st _ _ := getMessageSize_reads sha256Hexdigest hlt
      refine Refines.reads_bind hparse ?_
      dsimp only [Option.elim]
      cases hs : Maildrop.messageSize st.encoding (s.maildrop.content i) with
      | none =>
        rw [hs] at hsize
        exact Refines.reads_bind_err hsize
      | some size =>
        rw [hs] at hsize
        exact Refines.reads_bind hsize (Refines.raise rfl rfl (by simp))
  · exact Refines.reads_bind_err (checkArgumentCount_reads_of_not_mem (by simp))

theorem commandUidl_refines (hro : st.readOnlyMailboxAccess = true → s.maildrop.deleted = ∅)
    (args : List String) :
    Refines s st (commandUidl (adapter sha256Hexdigest) args)
      (match args with
        | [] => (s.maildrop.uniqueIdListing sha256Hexdigest).elim .err .uniqueIdListing
        | [messageNumber] => (s.maildrop.messageIndex messageNumber).elim .err fun i =>
            (s.maildrop.uniqueId sha256Hexdigest i).elim .err (.uniqueIdLine ((i : Int) + 1))
        | _ => .err, s.maildrop) := by
  unfold commandUidl
  rcases args with _ | ⟨messageNumber, _ | ⟨a, rest⟩⟩
  · refine Refines.reads_bind (checkArgumentCount_reads_of_mem (by simp)) ?_
    have hids := getAllUndeletedMessagesUniqueIds_reads sha256Hexdigest hro
    cases hl : s.maildrop.uniqueIdListing sha256Hexdigest with
    | none =>
      rw [hl] at hids
      exact Refines.reads_bind_err hids
    | some entries =>
      rw [hl] at hids
      exact Refines.reads_bind hids (Refines.raise rfl rfl (by simp))
  · refine Refines.reads_bind (checkArgumentCount_reads_of_mem (by simp)) ?_
    dsimp only
    have hparse := parseMessageNumberArgumentToIndex_reads sha256Hexdigest messageNumber hro
    cases hi : s.maildrop.messageIndex messageNumber with
    | none =>
      rw [hi] at hparse
      exact Refines.reads_bind_err hparse
    | some i =>
      rw [hi] at hparse
      have hlt : i < s.messageObjects.length := maildrop_length s ▸ Maildrop.messageIndex_lt hi
      have hid : Reads s st _ _ := getMessageUniqueId_reads sha256Hexdigest hlt
      refine Refines.reads_bind hparse ?_
      dsimp only [Option.elim]
      cases hu : s.maildrop.uniqueId sha256Hexdigest i with
      | none =>
        rw [hu] at hid
        exact Refines.reads_bind_err hid
      | some u =>
        rw [hu] at hid
        exact Refines.reads_bind hid (Refines.raise rfl rfl (by simp))
  · exact Refines.reads_bind_err (checkArgumentCount_reads_of_not_mem (by simp))

theorem commandRetr_refines (hro : st.readOnlyMailboxAccess = true → s.maildrop.deleted = ∅)
    (args : List String) :
    Refines s st (commandRetr (adapter sha256Hexdigest) args)
      (match args with
        | [messageNumber] => (s.maildrop.messageIndex messageNumber).elim .err fun i =>
            .message (s.maildrop.content i)
        | _ => .err, s.maildrop) := by
  unfold commandRetr
  rcases args with _ | ⟨messageNumber, _ | ⟨a, rest⟩⟩
  · exact Refines.reads_bind_err (checkArgumentCount_reads_of_not_mem (by simp))
  · refine Refines.reads_bind (checkArgumentCount_reads_of_mem (by simp)) ?_
    dsimp only [List.headD]
    have hparse := parseMessageNumberArgumentToIndex_reads sha256Hexdigest messageNumber hro
    cases hi : s.maildrop.messageIndex messageNumber with
    | none =>
      rw [hi] at hparse
      exact Refines.reads_bind_err hparse
    | some i =>
      rw [hi] at hparse
      have hlt : i < s.messageObjects.length := maildrop_length s ▸ Maildrop.messageIndex_lt hi
      exact Refines.reads_bind hparse (Refines.reads_bind (getMessageContent_reads sha256Hexdigest hlt)
        (Refines.raise rfl rfl (by simp)))
  · exact Refines.reads_bind_err (checkArgumentCount_reads_of_not_mem (by simp))

theorem int_beq_zero {n : Int} (hn : 0 ≤ n) : (n == 0) = (n.toNat == 0) := by
  rw [Bool.eq_iff_iff, beq_iff_eq, beq_iff_eq]
  omega

theorem commandTop_refines (hro : st.readOnlyMailboxAccess = true → s.maildrop.deleted = ∅)
    (args : List String) :
    Refines s st (commandTop (adapter sha256Hexdigest) args)
      (match args with
        | [messageNumber, numberOfLines] =>
          match s.maildrop.messageIndex messageNumber, pyInt numberOfLines with
          | some i, some n => if 0 ≤ n then .top (s.maildrop.content i) n.toNat else .err
          | _, _ => .err
        | _ => .err, s.maildrop) := by
  unfold commandTop
  rcases args with _ | ⟨messageNumber, _ | ⟨numberOfLines, _ | ⟨a, rest⟩⟩⟩
  · exact Refines.reads_bind_err (checkArgumentCount_reads_of_not_mem (by simp))
  · exact Refines.reads_bind_err (checkArgumentCount_reads_of_not_mem (by simp))
  · refine Refines.reads_bind (checkArgumentCount_reads_of_mem (by simp)) ?_
    dsimp only [List.headD, List.drop]
    have hparse := parseMessageNumberArgumentToIndex_reads sha256Hexdigest messageNumber hro
    have hlines : Reads s st _ _ := parseNumberOfLinesArgument_reads numberOfLines
    cases hi : s.maildrop.messageIndex messageNumber with
    | none =>
      rw [hi] at hparse
      exact Refines.reads_bind_err hparse
    | some i =>
      rw [hi] at hparse
      have hlt : i < s.messageObjects.length := maildrop_length s ▸ Maildrop.messageIndex_lt hi
      refine Refines.reads_bind hparse ?_
      cases hn : pyInt numberOfLines with
      | none =>
        rw [hn] at hlines
        exact Refines.reads_bind_err hlines
      | some n =>
        rw [hn, Option.filter_some] at hlines
        by_cases h0 : 0 ≤ n
        · rw [if_pos (decide_eq_true h0)] at hlines
          refine Refines.reads_bind hlines (Refines.reads_bind
            (getHeadersAndFirstNLinesOfAMessage_reads sha256Hexdigest hlt n.toNat) (Refines.raise ?_ rfl ?_))
          · simp only [if_pos h0, Reply.Matches, int_beq_zero h0]
          · simp [h0]
        · rw [if_neg (by simpa using h0)] at hlines
          exact Refines.reads_bind_none hlines (fun _ he => by simpa [h0, Reply.Matches] using he)
            (by simp [h0]) (by simp [h0])
  · exact Refines.reads_bind_err (checkArgumentCount_reads_of_not_mem (by simp))

theorem commandDele_refines (hro : st.readOnlyMailboxAccess = true → s.maildrop.deleted = ∅)
    (args : List String) :
    Refines s st (commandDele (adapter sha256Hexdigest) args)
      (match args with
        | [messageNumber] =>
          match s.maildrop.messageIndex messageNumber with
          | some i => if st.readOnlyMailboxAccess then (.err, s.maildrop) else (.ok, s.maildrop.delete i)
          | none => (.err, s.maildrop)
        | _ => (.err, s.maildrop)) := by
  unfold commandDele
  rcases args with _ | ⟨messageNumber, _ | ⟨a, rest⟩⟩
  · exact Refines.reads_bind_err (checkArgumentCount_reads_of_not_mem (by simp))
  · refine Refines.reads_bind (checkArgumentCount_reads_of_mem (by simp)) ?_
    dsimp only [List.headD]
    have hparse := parseMessageNumberArgumentToIndex_reads sha256Hexdigest messageNumber hro
    cases hi : s.maildrop.messageIndex messageNumber with
    | none =>
      rw [hi] at hparse
      exact Refines.reads_bind_err hparse
    | some i =>
      rw [hi] at hparse
      have hlt : i < s.messageObjects.length := maildrop_length s ▸ Maildrop.messageIndex_lt hi
      refine Refines.reads_bind hparse ?_
      simp only [markMessageAsDeleted, bind_assoc]
      refine Refines.getStatus_bind ?_
      by_cases hr : st.readOnlyMailboxAccess = true
      · simp only [hr, ↓reduceIte, bind_assoc]
        exact Refines.raise_bind rfl rfl (by simp)
      · simp only [hr, Bool.false_eq_true, ↓reduceIte, bind_assoc, pure_bind]
        exact Refines.callAdapter_bind (invoke_markMessageAsDeleted sha256Hexdigest s hlt) (by simp)
          (Refines.raise rfl (maildrop_markAt s hlt).symm (by simp))
  · exact Refines.reads_bind_err (checkArgumentCount_reads_of_not_mem (by simp))

theorem commandRset_refines (args : List String) :
    Refines s st (commandRset (adapter sha256Hexdigest) args)
      (if args = [] ∧ st.readOnlyMailboxAccess = false then (.ok, s.maildrop.reset)
        else (.err, s.maildrop)) := by
  unfold commandRset
  by_cases h : args = []
  · refine Refines.reads_bind (checkArgumentCount_reads_of_mem (by simp [h])) ?_
    simp only [unmarkMessagesMarkedAsDeleted, bind_assoc]
    refine Refines.getStatus_bind ?_
    by_cases hr : st.readOnlyMailboxAccess = true
    · simp only [hr, ↓reduceIte, Bool.true_eq_false, and_false, bind_assoc]
      exact Refines.raise_bind rfl rfl (by simp)
    · simp only [hr, h, Bool.false_eq_true, ↓reduceIte, and_self, bind_assoc, pure_bind]
      exact Refines.callAdapter_bind rfl (by simp)
        (Refines.raise rfl (maildrop_unmarkAll s).symm (by simp))
  · exact Refines.reads_bind_none (checkArgumentCount_reads_of_not_mem (by simpa using h))
      (fun _ he => by simpa [h, Reply.Matches] using he) (by simp [h]) (by simp [h])

theorem invalidCommand_refines :
    Refines s st (invalidCommand cfg : SessionM ListAdapter Unit) (.other, s.maildrop) := by
  unfold invalidCommand
  split
  · refine Refines.modifyStatus_bind ⟨rfl, rfl, rfl⟩ (Refines.getStatus_bind ?_)
    split
    · exact Refines.raise_bind trivial rfl (by simp)
    · exact Refines.reads_bind (Reads.pure _) (Refines.raise trivial rfl (by simp))
  · exact Refines.reads_bind (Reads.pure _) (Refines.raise trivial rfl (by simp))

theorem handleTransactionStateCommand_refines
    (hro : st.readOnlyMailboxAccess = true → s.maildrop.deleted = ∅) (command : String)
    (args : List String) :
    Refines s st (handleTransactionStateCommand cfg (adapter sha256Hexdigest) command args)
      (s.maildrop.command st.readOnlyMailboxAccess st.encoding sha256Hexdigest command args) := by
  unfold handleTransactionStateCommand
  split
  · exact commandCapa_refines sha256Hexdigest args
  · exact commandLang_refines args
  · exact commandNoop_refines args
  · exact commandQuitInTransactionState_refines sha256Hexdigest args
  · exact commandStat_refines sha256Hexdigest hro args
  · exact commandList_refines sha256Hexdigest hro args
  · exact commandUidl_refines sha256Hexdigest hro args
  · exact commandRetr_refines sha256Hexdigest hro args
  · exact commandTop_refines sha256Hexdigest hro args
  · exact commandDele_refines sha256Hexdigest hro args
  · exact commandRset_refines sha256Hexdigest args
  · refine (invalidCommand_refines cfg).of_eq ?_
    unfold Maildrop.command
    split <;> simp_all

/-- In the TRANSACTION state every command answers as the maildrop does. -/
theorem handleCommand_refines (hauth : st.authenticated = true)
    (hro : st.readOnlyMailboxAccess = true → s.maildrop.deleted = ∅) (command : String)
    (args : List String) :
    Refines s st (handleCommand cfg (adapter sha256Hexdigest) command args)
      (s.maildrop.command st.readOnlyMailboxAccess st.encoding sha256Hexdigest command args) :=
  Refines.getStatus_bind (by
    rw [if_pos hauth]
    exact handleTransactionStateCommand_refines cfg sha256Hexdigest hro command args)

end ClientCommandHandler

/-! ## Lines and runs -/

namespace ClientHandler

open ListAdapter

variable (cfg : Settings) (sha256Hexdigest : String → String)

/-- A line read in world `p.2` follows the maildrop `q.1` with reply `q.2`: the
adapter holds that maildrop, the line is answered with a response the reply stands for,
and processing it calls `commit_deletions` exactly when the reply is a `QUIT` that
commits. -/
def LineFollows (p : String × World ListAdapter) (q : Maildrop × Reply) : Prop :=
  p.2.adapter.maildrop = q.1 ∧
    (∃ e, lineResponse cfg (adapter sha256Hexdigest) p.1 p.2 = some e ∧ q.2.Matches e) ∧
    (AdapterCall.commitDeletions ∈ ((processLine cfg (adapter sha256Hexdigest) p.1 p.2).2.calls.drop
      p.2.calls.length).map Prod.fst ↔ q.2 = .quit true)

/-- One TRANSACTION-state line: it follows `Maildrop.step`, leaves the maildrop the step
computes, and keeps the session's mode. -/
theorem processLine_refines (line : String) {w : World ListAdapter}
    (hauth : w.status.authenticated = true)
    (hro : w.status.readOnlyMailboxAccess = true → w.adapter.maildrop.deleted = ∅) :
    LineFollows cfg sha256Hexdigest (line, w) (w.adapter.maildrop,
        (w.adapter.maildrop.step w.status.readOnlyMailboxAccess w.status.encoding sha256Hexdigest line).1) ∧
      (processLine cfg (adapter sha256Hexdigest) line w).2.adapter.maildrop =
        (w.adapter.maildrop.step w.status.readOnlyMailboxAccess w.status.encoding sha256Hexdigest line).2 ∧
      w.status.SameMode (processLine cfg (adapter sha256Hexdigest) line w).2.status := by
  rcases hp : parseCommand line with e | ⟨command, args⟩
  · obtain ⟨hw, hr⟩ := processLine_of_parse_error cfg (adapter sha256Hexdigest) hp w
    have he := parseCommand_error hp
    simp only [Maildrop.step, hp]
    refine ⟨⟨rfl, ⟨e, hr, he ▸ rfl⟩, ?_⟩, by rw [hw], by rw [hw]; exact .refl _⟩
    simp [hw]
  · obtain ⟨r, ⟨e, rfl, he, hmd, hmode, l, hl, hq⟩, hr⟩ := processLine_of_wp cfg (adapter sha256Hexdigest) hp
      (ClientCommandHandler.handleCommand_refines cfg sha256Hexdigest hauth hro command args w rfl rfl)
    simp only [Maildrop.step, hp]
    exact ⟨⟨rfl, ⟨e, hr, he⟩, by rw [hl, List.drop_left]; exact hq⟩, hmd, hmode⟩

end ClientHandler

namespace Session

open ListAdapter

variable {cfg : Settings} {sha256Hexdigest : String → String}

/-- An event that serves no line leaves the adapter and the status of a `ListAdapter`
session alone. -/
theorem perform_of_servedBy_nil {s : Session ListAdapter} {e : Event}
    (h : s.servedBy e = []) :
    (s.perform cfg (adapter sha256Hexdigest) e).world.adapter = s.world.adapter ∧
      (s.perform cfg (adapter sha256Hexdigest) e).world.status = s.world.status := by
  cases e with
  | line line =>
    rw [servedBy] at h
    split at h
    · cases h
    · rw [perform, if_neg ‹_›]
      exact ⟨rfl, rfl⟩
  | opened =>
    rw [perform]
    split
    · rw [opened_world]
      exact ⟨rfl, rfl⟩
    · exact ⟨rfl, rfl⟩
  -- dropping, tearing down and interfering touch neither
  | _ =>
    rw [perform]
    split <;> exact ⟨rfl, rfl⟩

end Session

/-! ## The refinement -/

open ListAdapter in
/-- A `ListAdapter` session in the TRANSACTION state refines the maildrop: along every
schedule of events, the lines the session serves follow `Maildrop.trace` from the
adapter's maildrop (each answered as the reply says, each calling `commit_deletions`
exactly when its reply is a `QUIT` that commits), the adapter ends in the maildrop
`Maildrop.run` computes, and the session keeps its mode.  A read-only session must
start with no marks, which `D` initially empty gives. -/
theorem maildrop_refinement (cfg : Settings) (sha256Hexdigest : String → String)
    (s : Session ListAdapter) (hauth : s.world.status.authenticated = true)
    (hro : s.world.status.readOnlyMailboxAccess = true → s.world.adapter.maildrop.deleted = ∅)
    (events : List Session.Event) :
    List.Forall₂ (ClientHandler.LineFollows cfg sha256Hexdigest)
        (s.served cfg (adapter sha256Hexdigest) events)
        (Maildrop.trace s.world.status.readOnlyMailboxAccess s.world.status.encoding sha256Hexdigest
          s.world.adapter.maildrop ((s.served cfg (adapter sha256Hexdigest) events).map Prod.fst)) ∧
      (s.run cfg (adapter sha256Hexdigest) events).world.adapter.maildrop =
        s.world.adapter.maildrop.run s.world.status.readOnlyMailboxAccess s.world.status.encoding
          sha256Hexdigest ((s.served cfg (adapter sha256Hexdigest) events).map Prod.fst) ∧
      s.world.status.SameMode (s.run cfg (adapter sha256Hexdigest) events).world.status := by
  induction events generalizing s with
  | nil => exact ⟨.nil, rfl, .refl _⟩
  | cons e es ih =>
    rcases Session.perform_cases cfg (adapter sha256Hexdigest) s e with
      ⟨line, rfl, -, hperform, hserved⟩ | ⟨-, -, hserved⟩
    · obtain ⟨hline, hmd, hmode⟩ :=
        ClientHandler.processLine_refines cfg sha256Hexdigest line hauth hro
      have hworld := Session.serveLine_world cfg (adapter sha256Hexdigest) s line
      have hro' : (s.perform cfg (adapter sha256Hexdigest) (.line line)).world.status.readOnlyMailboxAccess =
          true → (s.perform cfg (adapter sha256Hexdigest) (.line line)).world.adapter.maildrop.deleted = ∅ := by
        rw [hperform, hworld, hmd, hmode.readOnly]
        intro hr
        rw [hr, Maildrop.step_readOnly]
        exact hro hr
      obtain ⟨hrest, hrun, hmode'⟩ := ih _ (by rw [hperform, hworld, hmode.authenticated, hauth]) hro'
      rw [hperform, hworld, hmd, hmode.readOnly, hmode.encoding] at hrest hrun
      rw [hperform, hworld] at hmode'
      simp only [Session.served, hserved, List.singleton_append, List.map_cons, Maildrop.trace_cons,
        Session.run_cons, Maildrop.run_cons]
      rw [hperform]
      exact ⟨.cons hline hrest, hrun, hmode.trans hmode'⟩
    · obtain ⟨hadapter, hstatus⟩ := Session.perform_of_servedBy_nil hserved
      obtain ⟨hrest, hrun, hmode⟩ := ih _ (hstatus ▸ hauth) (hstatus ▸ hadapter ▸ hro)
      simp only [Session.served, hserved, List.nil_append, Session.run_cons]
      rw [hadapter, hstatus] at hrest hrun
      rw [hstatus] at hmode
      exact ⟨hrest, hrun, hmode⟩

/-- The refinement after `USER bob` and `PASS pw` on a `ListAdapter` holding two messages,
along `DELE 1` and `LIST`. -/
theorem maildrop_refinement_after_login :
    let A := ListAdapter.adapter id
    let s := (Session.initial ⟨1, "127.0.0.1", 50000⟩ (ListAdapter.new "bob" "pw" ["hi", "there"])
      []).run Settings.default A [.opened, .line "USER bob", .line "PASS pw"]
    let events := [Session.Event.line "DELE 1", .line "LIST"]
    s.world.status.authenticated = true ∧
      (s.world.status.readOnlyMailboxAccess = true → s.world.adapter.maildrop.deleted = ∅) ∧
      List.Forall₂ (ClientHandler.LineFollows Settings.default id) (s.served Settings.default A events)
        (Maildrop.trace s.world.status.readOnlyMailboxAccess s.world.status.encoding id
          s.world.adapter.maildrop ((s.served Settings.default A events).map Prod.fst)) ∧
      (s.run Settings.default A events).world.adapter.maildrop =
        s.world.adapter.maildrop.run s.world.status.readOnlyMailboxAccess s.world.status.encoding id
          ((s.served Settings.default A events).map Prod.fst) ∧
      s.world.status.SameMode (s.run Settings.default A events).world.status :=
  ⟨rfl, fun h => absurd h (by decide),
    maildrop_refinement Settings.default id _ rfl (fun h => absurd h (by decide)) _⟩

/-- In an authenticated session that serves lines, two messages not in `D` with the same
content make `UIDL` answer `-ERR` instead of listing them, whatever the settings and the
digest function, since the two unique ids are equal (or fail the helper's check). -/
theorem uidl_err_of_equal_contents (cfg : Settings) (sha256Hexdigest : String → String)
    (s : Session ListAdapter) {i j : Nat} (hphase : s.phase = .serving)
    (hauth : s.world.status.authenticated = true)
    (hro : s.world.status.readOnlyMailboxAccess = true → s.world.adapter.maildrop.deleted = ∅)
    (hij : i ≠ j) (hi : i ∈ s.world.adapter.maildrop.undeleted)
    (hj : j ∈ s.world.adapter.maildrop.undeleted)
    (hc : s.world.adapter.maildrop.content i = s.world.adapter.maildrop.content j) :
    ∃ e, s.answers cfg (ListAdapter.adapter sha256Hexdigest) [.line "UIDL"] = [e] ∧
      e.success = false := by
  obtain ⟨⟨-, ⟨e, he, hm⟩, -⟩, -, -⟩ :=
    ClientHandler.processLine_refines cfg sha256Hexdigest "UIDL" hauth hro
  have hparse : ClientHandler.parseCommand "UIDL" = .ok ("UIDL", []) := rfl
  rw [Maildrop.step, hparse] at hm
  change ((s.world.adapter.maildrop.uniqueIdListing sha256Hexdigest).elim Reply.err
    Reply.uniqueIdListing).Matches e
    at hm
  rw [Maildrop.uniqueIdListing_eq_none hij hi hj hc] at hm
  refine ⟨e, ?_, hm⟩
  rw [Session.answers, Session.served, Session.servedBy, if_pos hphase]
  simp [Session.served, he]

/-- `ListAdapter("bob", "pw", ["hi", "hi"], wrap_plaintext_in_email=False)` with the
settings the source ships: after `USER bob` and `PASS pw`, `UIDL` answers `-ERR`.  The
digest is SHA-256 on `hi`, the only content this run hashes. -/
theorem uidl_equal_contents :
    let A := ListAdapter.adapter fun _ =>
      "8f434346648f6b96df89dda901c5176b10a6d83961dd3c1ac88b59b2dc327aa4"
    let s := (Session.initial ⟨1, "127.0.0.1", 50000⟩ (ListAdapter.new "bob" "pw" ["hi", "hi"]) []).run
      Settings.default A [.opened, .line "USER bob", .line "PASS pw"]
    s.world.adapter.maildrop.deleted = ∅ ∧ s.world.status.readOnlyMailboxAccess = false ∧
      ∃ e, s.answers Settings.default A [.line "UIDL"] = [e] ∧ e.success = false := by
  intro A s
  have hD : s.world.adapter.maildrop.deleted = ∅ := by decide
  exact ⟨hD, by decide, uidl_err_of_equal_contents Settings.default _ s (i := 0) (j := 1)
    (by decide) (by decide) (fun _ => hD) (by decide) (by decide) (by decide) (by decide)⟩

end Pop3sf
