import Mathlib.Data.Finset.Card
import Pop3sf.Handler

set_option autoImplicit false

/-!
# The maildrop of RFC 1939, as the TRANSACTION state answers it

RFC 1939 describes the TRANSACTION state over a maildrop: the messages `M`, fixed for
the session, and the set `D` of those marked as deleted.  `Maildrop` is that state,
with `D ⊆ {0, …, |M| - 1}` carried as a field, and `Maildrop.command` says what each
command answers (`Reply`) and how it changes `D`:

* `DELE k` succeeds exactly when `k` is the message number of a message not in `D`
  (`Maildrop.messageIndex`) and the session is read-write, and adds `k - 1` to `D`;
* `RSET` empties `D` in a read-write session;
* `STAT` reports `|M| - |D|` (`undeleted_length`) and the total size;
* `LIST` and `UIDL` list the messages not in `D` in increasing order, numbered from
  one (`scanListing_fst`, `mem_undeleted`, `undeleted_sorted`); with a message number
  they answer that message's entry of the listing (`scanLine_mem_scanListing`,
  `uniqueIdLine_mem_uniqueIdListing`);
* `RETR` and `TOP` answer the content of a message not in `D`;
* `QUIT` commits the deletions exactly in a read-write session;
* no answer but a `+OK` to `DELE` or `RSET` changes the maildrop (`step_eq_of_ne_ok`),
  and in a read-only session nothing does (`step_readOnly`).

Where the code answers otherwise than the RFC, the machine answers as the code does:
`STAT` and `LIST` answer `-ERR` when a message not in `D` does not encode in the
session's encoding, `UIDL` without an argument answers `-ERR` when two messages not
in `D` have the same unique id, and a command with the wrong number of arguments
answers `-ERR`.  `MaildropRefinement` proves that a session over a `ListAdapter`
follows this machine.
-/

namespace Pop3sf

open SendDataToClientException

/-- `l.mapM f` in `Option` succeeds with `l'` exactly when `f` succeeds on every element
with the element of `l'` in its place. -/
theorem List.mapM_eq_some_iff {α β : Type} {f : α → Option β} {l : List α} {l' : List β} :
    l.mapM f = some l' ↔ List.Forall₂ (fun a b => f a = some b) l l' := by
  induction l generalizing l' with
  | nil => rw [List.mapM_nil]; cases l' <;> simp [pure]
  | cons a l ih =>
    rw [List.mapM_cons]
    cases l' with
    | nil => cases f a <;> cases l.mapM f <;> simp [bind, pure]
    | cons b bs => cases h : f a <;> cases hl : l.mapM f <;> simp_all [bind, pure, ← ih]

theorem List.mapM_some {α β : Type} (f : α → β) (l : List α) :
    l.mapM (fun a => some (f a)) = some (l.map f) :=
  List.mapM_eq_some_iff.2 (List.forall₂_map_right_iff.2 (List.forall₂_same.2 fun _ _ => rfl))

/-! ## The maildrop and its replies -/

/-- RFC 1939's maildrop in the TRANSACTION state: the messages `M`, and the indices
`D` of those marked as deleted. -/
@[ext]
structure Maildrop where
  messages : List String
  deleted : Finset Nat
  deleted_lt : ∀ i ∈ deleted, i < messages.length

/-- What a TRANSACTION-state command answers, in the maildrop's terms. -/
inductive Reply where
  /-- a `-ERR` response -/
  | err
  /-- a `+OK` response with nothing of the maildrop in it -/
  | ok
  /-- a command the maildrop has no say in -/
  | other
  /-- `QUIT`: the session ends, committing the deletions or not -/
  | quit (commits : Bool)
  /-- `STAT`: the number and the total size of the messages not marked -/
  | stat (count size : Nat)
  /-- `LIST`: a scan listing -/
  | scanListing (entries : List (Int × Nat))
  /-- `UIDL`: a unique-id listing -/
  | uniqueIdListing (entries : List (Int × String))
  /-- `LIST k` -/
  | scanLine (messageNumber : Int) (size : Nat)
  /-- `UIDL k` -/
  | uniqueIdLine (messageNumber : Int) (uniqueId : String)
  /-- `RETR k` -/
  | message (content : String)
  /-- `TOP k n` -/
  | top (content : String) (n : Nat)
  deriving DecidableEq, Repr

/-- The responses a reply stands for: any `-ERR` for `err`, any `+OK` for `ok`, any
response for `other`, and for the others the response the handler builds, with the
text the source formats. -/
def Reply.Matches : Reply → SendDataToClientException → Prop
  | .err, e => e.success = false
  | .ok, e => e.success = true
  | .other, _ => True
  | .quit _, e =>
      e = (SendDataToClientException.ok "Session is ending (an user was logged in)").closeConnectionAfterSendingData
  | .stat count size, e => e = okHumanUnreadable (toString count ++ " " ++ toString size)
  | .scanListing entries, e => e = okMultiline "Listing all messages' sizes"
      (joinCrlf (entries.map fun entry => toString entry.1 ++ " " ++ toString entry.2)) false
  | .uniqueIdListing entries, e => e = okMultiline "Listing all messages' unique IDs"
      (joinCrlf (entries.map fun entry => toString entry.1 ++ " " ++ entry.2)) false
  | .scanLine messageNumber size, e =>
      e = okHumanUnreadable (toString messageNumber ++ " " ++ toString size)
  | .uniqueIdLine messageNumber uniqueId, e =>
      e = okHumanUnreadable (toString messageNumber ++ " " ++ uniqueId)
  | .message content, e => e = okMultiline "Sending the message's content" content false
  | .top content n, e => e = okMultiline "Sending the message's partial content"
      (AdapterHelperWrapper.headersAndFirstNLines (splitLinesWithoutDiscardingEmptyLines content) n)
      (n == 0)

namespace Maildrop

variable (md : Maildrop)

/-- The indices not in `D`, in increasing order. -/
def undeleted : List Nat := (List.range md.messages.length).filter (· ∉ md.deleted)

/-- The content of message `i`. -/
def content (i : Nat) : String := md.messages.getD i ""

/-- The index `k - 1` of a message number `k` that parses to an integer with
`1 ≤ k ≤ |M|` and `k - 1 ∉ D`. -/
def messageIndex (messageNumber : String) : Option Nat :=
  match pyInt messageNumber with
  | some k =>
    if 1 ≤ k ∧ k ≤ md.messages.length ∧ (k - 1).toNat ∉ md.deleted then some (k - 1).toNat
    else none
  | none => none

/-- `D ∪ {i}`. -/
def delete (i : Nat) : Maildrop :=
  if h : i < md.messages.length then
    ⟨md.messages, insert i md.deleted, fun j hj => (Finset.mem_insert.1 hj).elim (· ▸ h)
      (md.deleted_lt j)⟩
  else md

/-- `D = ∅`. -/
def reset : Maildrop := ⟨md.messages, ∅, fun _ h => absurd h (Finset.not_mem_empty _)⟩

/-- The size `get_message_size` reports: the number of bytes of the content with its
newlines made CRLF, in the session's encoding; none when it does not encode. -/
def messageSize (encoding : String) (content : String) : Option Nat :=
  (encodeWith encoding (normalizeNewlines content.data)).map List.length

/-- The scan listing: message number and size of every message not in `D`. -/
def scanListing (encoding : String) : Option (List (Int × Nat)) :=
  md.undeleted.mapM fun i => (messageSize encoding (md.content i)).map fun size => ((i : Int) + 1, size)

/-- The total of the sizes in a scan listing. -/
def totalSize (entries : List (Int × Nat)) : Nat := entries.foldr (fun entry total => entry.2 + total) 0

/-- The unique id of message `i` (the adapter's id of its content), if it passes the
helper's check. -/
def uniqueId (sha256Hexdigest : String → String) (i : Nat) : Option String :=
  if uniqueIdMatches (sha256Hexdigest (md.content i)) then some (sha256Hexdigest (md.content i))
  else none

/-- The unique-id listing, when the ids are distinct. -/
def uniqueIdListing (sha256Hexdigest : String → String) : Option (List (Int × String)) :=
  (md.undeleted.mapM fun i => (md.uniqueId sha256Hexdigest i).map fun u => ((i : Int) + 1, u)).filter
    fun entries => decide (entries.map Prod.snd).Nodup

variable (readOnly : Bool) (encoding : String) (sha256Hexdigest : String → String)

/-- What a TRANSACTION-state command answers and what it leaves of the maildrop, in a
session that is read-only or not and has the given encoding. -/
def command (command : String) (args : List String) : Reply × Maildrop :=
  match command with
  | "CAPA" => (.other, md)
  | "LANG" => (.other, md)
  | "NOOP" => (.other, md)
  | "QUIT" => (if args = [] then .quit (!readOnly) else .err, md)
  | "STAT" =>
    (if args = [] then (md.scanListing encoding).elim .err fun entries =>
      .stat md.undeleted.length (totalSize entries) else .err, md)
  | "LIST" =>
    (match args with
      | [] => (md.scanListing encoding).elim .err .scanListing
      | [messageNumber] => (md.messageIndex messageNumber).elim .err fun i =>
          (messageSize encoding (md.content i)).elim .err (.scanLine ((i : Int) + 1))
      | _ => .err, md)
  | "UIDL" =>
    (match args with
      | [] => (md.uniqueIdListing sha256Hexdigest).elim .err .uniqueIdListing
      | [messageNumber] => (md.messageIndex messageNumber).elim .err fun i =>
          (md.uniqueId sha256Hexdigest i).elim .err (.uniqueIdLine ((i : Int) + 1))
      | _ => .err, md)
  | "RETR" =>
    (match args with
      | [messageNumber] => (md.messageIndex messageNumber).elim .err fun i => .message (md.content i)
      | _ => .err, md)
  | "TOP" =>
    (match args with
      | [messageNumber, numberOfLines] =>
        match md.messageIndex messageNumber, pyInt numberOfLines with
        | some i, some n => if 0 ≤ n then .top (md.content i) n.toNat else .err
        | _, _ => .err
      | _ => .err, md)
  | "DELE" =>
    match args with
    | [messageNumber] =>
      match md.messageIndex messageNumber with
      | some i => if readOnly then (.err, md) else (.ok, md.delete i)
      | none => (.err, md)
    | _ => (.err, md)
  | "RSET" => if args = [] ∧ readOnly = false then (.ok, md.reset) else (.err, md)
  | _ => (.other, md)

/-- A command line: an empty one answers `-ERR`. -/
def step (line : String) : Reply × Maildrop :=
  match ClientHandler.parseCommand line with
  | .ok (cmd, args) => md.command readOnly encoding sha256Hexdigest cmd args
  | .error _ => (.err, md)

/-- The maildrop after a sequence of lines. -/
def run (lines : List String) : Maildrop :=
  lines.foldl (fun md line => (md.step readOnly encoding sha256Hexdigest line).2) md

/-- The maildrop each line of a sequence is read in, with its reply. -/
def trace : Maildrop → List String → List (Maildrop × Reply)
  | _, [] => []
  | md, line :: lines =>
    (md, (md.step readOnly encoding sha256Hexdigest line).1) ::
      trace (md.step readOnly encoding sha256Hexdigest line).2 lines

@[simp] theorem run_nil : md.run readOnly encoding sha256Hexdigest [] = md := rfl

@[simp] theorem run_cons (line : String) (lines : List String) :
    md.run readOnly encoding sha256Hexdigest (line :: lines) =
      (md.step readOnly encoding sha256Hexdigest line).2.run readOnly encoding sha256Hexdigest lines :=
  rfl

@[simp] theorem trace_nil : trace readOnly encoding sha256Hexdigest md [] = [] := rfl

@[simp] theorem trace_cons (line : String) (lines : List String) :
    trace readOnly encoding sha256Hexdigest md (line :: lines) =
      (md, (md.step readOnly encoding sha256Hexdigest line).1) ::
        trace readOnly encoding sha256Hexdigest (md.step readOnly encoding sha256Hexdigest line).2
          lines :=
  rfl

/-! ## The messages not in `D` -/

variable {md}

theorem mem_undeleted {i : Nat} : i ∈ md.undeleted ↔ i < md.messages.length ∧ i ∉ md.deleted := by
  simp [undeleted]

theorem undeleted_length : md.undeleted.length = md.messages.length - md.deleted.card := by
  have hsub : md.deleted ⊆ Finset.range md.messages.length := fun i hi =>
    Finset.mem_range.2 (md.deleted_lt i hi)
  have hset : md.undeleted.toFinset = Finset.range md.messages.length \ md.deleted := by
    ext i
    simp [mem_undeleted]
  have hnodup : md.undeleted.Nodup := (List.nodup_range _).filter _
  rw [← List.toFinset_card_of_nodup hnodup, hset, Finset.card_sdiff hsub, Finset.card_range]

theorem messageIndex_eq_some {messageNumber : String} {i : Nat} :
    md.messageIndex messageNumber = some i ↔
      pyInt messageNumber = some ((i : Int) + 1) ∧ i < md.messages.length ∧ i ∉ md.deleted := by
  cases hp : pyInt messageNumber with
  | none => simp [messageIndex, hp]
  | some k =>
    simp only [messageIndex, hp]
    by_cases hk : 1 ≤ k ∧ k ≤ md.messages.length ∧ (k - 1).toNat ∉ md.deleted
    · rw [if_pos hk]
      constructor
      · rintro ⟨⟩
        exact ⟨by simp; omega, by omega, hk.2.2⟩
      · rintro ⟨hk', -, -⟩
        simp only [Option.some.injEq] at hk' ⊢
        omega
    · rw [if_neg hk]
      refine ⟨(fun h => nomatch h), fun ⟨hk', hi, hd⟩ => ?_⟩
      simp only [Option.some.injEq] at hk'
      subst hk'
      exact absurd ⟨by omega, by omega, by simpa using hd⟩ hk

theorem messageIndex_lt {messageNumber : String} {i : Nat}
    (h : md.messageIndex messageNumber = some i) : i < md.messages.length :=
  (messageIndex_eq_some.1 h).2.1

/-! ## The listings -/

variable {encoding sha256Hexdigest}

theorem map_pair_eq_some {β : Type} {o : Option β} {n : Int} {entry : Int × β} :
    o.map (fun b => (n, b)) = some entry ↔ entry.1 = n ∧ o = some entry.2 := by
  cases o <;> simp [Prod.ext_iff, eq_comm]

theorem scanListing_eq_some {entries : List (Int × Nat)} :
    md.scanListing encoding = some entries ↔ List.Forall₂ (fun (i : Nat) entry =>
      entry.1 = (i : Int) + 1 ∧ messageSize encoding (md.content i) = some entry.2) md.undeleted entries := by
  rw [scanListing, List.mapM_eq_some_iff]
  simp only [map_pair_eq_some]

theorem uniqueIdListing_eq_some {entries : List (Int × String)} :
    md.uniqueIdListing sha256Hexdigest = some entries ↔ (List.Forall₂ (fun (i : Nat) entry =>
      entry.1 = (i : Int) + 1 ∧ md.uniqueId sha256Hexdigest i = some entry.2) md.undeleted entries ∧
        (entries.map Prod.snd).Nodup) := by
  rw [uniqueIdListing, Option.filter_eq_some, Option.mem_def, List.mapM_eq_some_iff]
  simp only [map_pair_eq_some, decide_eq_true_eq]

/-- Entries numbered by the indices of `l` are numbered in the order of `l`. -/
theorem fst_of_forall₂ {β : Type} {P : Nat → Int × β → Prop} {l : List Nat}
    {entries : List (Int × β)}
    (h : List.Forall₂ (fun (i : Nat) entry => entry.1 = (i : Int) + 1 ∧ P i entry) l entries) :
    entries.map Prod.fst = l.map fun i => (i : Int) + 1 := by
  induction h with
  | nil => rfl
  | cons hhead _ ih => simp [hhead.1, ih]

/-- `LIST` lists exactly the messages not in `D`, in increasing order, numbered from one. -/
theorem scanListing_fst {entries : List (Int × Nat)} (h : md.scanListing encoding = some entries) :
    entries.map Prod.fst = md.undeleted.map fun i => (i : Int) + 1 :=
  fst_of_forall₂ (scanListing_eq_some.1 h)

/-- `UIDL` lists exactly the messages not in `D`, in increasing order, numbered from one. -/
theorem uniqueIdListing_fst {entries : List (Int × String)}
    (h : md.uniqueIdListing sha256Hexdigest = some entries) :
    entries.map Prod.fst = md.undeleted.map fun i => (i : Int) + 1 :=
  fst_of_forall₂ (uniqueIdListing_eq_some.1 h).1

theorem mem_of_forall₂ {β : Type} {g : Nat → Option β} {entries : List (Int × β)} {l : List Nat}
    (h : List.Forall₂ (fun (i : Nat) entry => entry.1 = (i : Int) + 1 ∧ g i = some entry.2) l entries)
    {i : Nat} (hi : i ∈ l) {b : β} (hb : g i = some b) : ((i : Int) + 1, b) ∈ entries := by
  induction h with
  | nil => exact absurd hi (List.not_mem_nil i)
  | @cons j entry _ _ hhead _ ih =>
    rcases List.mem_cons.1 hi with rfl | hi
    · obtain ⟨h1, h2⟩ := hhead
      rw [hb, Option.some.injEq] at h2
      exact List.mem_cons.2 (.inl (Prod.ext h1.symm h2))
    · exact List.mem_cons_of_mem _ (ih hi)

/-- `LIST k` answers the entry of message `k` in the scan listing. -/
theorem scanLine_mem_scanListing {messageNumber : String} {n : Int} {size : Nat}
    (h : (md.command readOnly encoding sha256Hexdigest "LIST" [messageNumber]).1 = .scanLine n size)
    {entries : List (Int × Nat)} (hl : md.scanListing encoding = some entries) :
    (n, size) ∈ entries := by
  simp only [command] at h
  cases hi : md.messageIndex messageNumber with
  | none => simp [hi] at h
  | some i =>
    cases hs : messageSize encoding (md.content i) with
    | none => simp [hi, hs] at h
    | some s =>
      simp only [hi, hs, Option.elim, Reply.scanLine.injEq] at h
      obtain ⟨rfl, rfl⟩ := h
      have hmem := messageIndex_eq_some.1 hi
      exact mem_of_forall₂ (scanListing_eq_some.1 hl) (mem_undeleted.2 hmem.2) hs

/-- `UIDL k` answers the entry of message `k` in the unique-id listing. -/
theorem uniqueIdLine_mem_uniqueIdListing {messageNumber : String} {n : Int} {u : String}
    (h : (md.command readOnly encoding sha256Hexdigest "UIDL" [messageNumber]).1 =
      .uniqueIdLine n u)
    {entries : List (Int × String)} (hl : md.uniqueIdListing sha256Hexdigest = some entries) :
    (n, u) ∈ entries := by
  simp only [command] at h
  cases hi : md.messageIndex messageNumber with
  | none => simp [hi] at h
  | some i =>
    cases hs : md.uniqueId sha256Hexdigest i with
    | none => simp [hi, hs] at h
    | some s =>
      simp only [hi, hs, Option.elim, Reply.uniqueIdLine.injEq] at h
      obtain ⟨rfl, rfl⟩ := h
      have hmem := messageIndex_eq_some.1 hi
      exact mem_of_forall₂ (uniqueIdListing_eq_some.1 hl).1 (mem_undeleted.2 hmem.2) hs

theorem exists_of_forall₂ {β : Type} {R : Nat → Int × β → Prop} {l : List Nat}
    {entries : List (Int × β)} (h : List.Forall₂ R l entries) {i : Nat} (hi : i ∈ l) :
    ∃ entry ∈ entries, R i entry := by
  induction h with
  | nil => exact absurd hi (List.not_mem_nil i)
  | @cons j entry _ _ hhead _ ih =>
    rcases List.mem_cons.1 hi with rfl | hi
    · exact ⟨entry, List.mem_cons_self _ _, hhead⟩
    · obtain ⟨e, he, hr⟩ := ih hi
      exact ⟨e, List.mem_cons_of_mem _ he, hr⟩

/-- Two messages not in `D` with the same content have the same unique id, so `UIDL`
without an argument has no listing. -/
theorem uniqueIdListing_eq_none {i j : Nat} (hij : i ≠ j) (hi : i ∈ md.undeleted)
    (hj : j ∈ md.undeleted) (hc : md.content i = md.content j) :
    md.uniqueIdListing sha256Hexdigest = none := by
  cases h : md.uniqueIdListing sha256Hexdigest with
  | none => rfl
  | some entries =>
    obtain ⟨hall, hnodup⟩ := uniqueIdListing_eq_some.1 h
    obtain ⟨ei, hei, hei1, hui⟩ := exists_of_forall₂ hall hi
    obtain ⟨ej, hej, hej1, huj⟩ := exists_of_forall₂ hall hj
    have hsame : md.uniqueId sha256Hexdigest i = md.uniqueId sha256Hexdigest j := by
      rw [uniqueId, uniqueId, hc]
    rw [hui, huj, Option.some.injEq] at hsame
    have heq := List.inj_on_of_nodup_map hnodup hei hej hsame
    rw [heq, hej1] at hei1
    exact absurd (by omega) hij

/-! ## What changes the maildrop -/

variable (md encoding sha256Hexdigest)

/-- Only a `+OK` to `DELE` or `RSET` changes the maildrop. -/
theorem command_ok_or_eq (cmd : String) (args : List String) :
    (md.command readOnly encoding sha256Hexdigest cmd args).1 = .ok ∨
      (md.command readOnly encoding sha256Hexdigest cmd args).2 = md := by
  unfold command
  split <;> try exact .inr rfl
  · split <;> try exact .inr rfl
    split <;> try exact .inr rfl
    split
    · exact .inr rfl
    · exact .inl rfl
  · split
    · exact .inl rfl
    · exact .inr rfl

theorem step_eq_of_ne_ok (line : String)
    (h : (md.step readOnly encoding sha256Hexdigest line).1 ≠ .ok) :
    (md.step readOnly encoding sha256Hexdigest line).2 = md := by
  unfold step at h ⊢
  split
  · exact (md.command_ok_or_eq readOnly encoding sha256Hexdigest _ _).resolve_left (by simpa [*] using h)
  · rfl

/-- In a read-only session no command changes the maildrop. -/
theorem command_readOnly (cmd : String) (args : List String) :
    (md.command true encoding sha256Hexdigest cmd args).2 = md := by
  unfold command
  split <;> try rfl
  · split <;> try rfl
    split <;> rfl
  · simp

theorem step_readOnly (line : String) : (md.step true encoding sha256Hexdigest line).2 = md := by
  unfold step
  split
  · exact md.command_readOnly encoding sha256Hexdigest _ _
  · rfl

end Maildrop

end Pop3sf
