import Mathlib.Data.List.Basic

set_option autoImplicit false

/-!
# Line breaks (`Auxiliaries.py`)

Python strings are modelled as `String`, and everything that scans them character
by character as a function on `List Char`.  Three regular expressions of the source
decide how text is cut into lines:

* `split_lines_without_discarding_empty_lines` is `re.split(r'\r\n|\r|\n', s)`:
  the alternatives are tried in this order at each position, so a `\r\n` is one
  separator and a lone `\r` or `\n` is another; the pieces after the last separator
  are kept, even when empty;
* `get_message_size` normalises with `re.sub(r'\r\n|\r|\n', '\r\n', s)`, the same
  scan with the separators rewritten in place;
* `"\r\n".join(...)` is `joinLines`, the pieces with CRLF between them.

The lemmas here are the facts the encoder and the receiver rest on: the pieces of
a split are free of CR and LF (`splitLines_noNewline`), there is always at least
one piece, and a split of a concatenation is the splits of the parts glued at the
boundary (`splitLines_append`), unless that boundary cuts a `\r\n`.  Joining the pieces
with CRLF is the normalisation, and splitting a join of CR/LF-free lines gives the lines
back (`splitLinesWithoutDiscardingEmptyLines_joinCrlf`).
-/

namespace Pop3sf

/-- The two line-break characters. -/
def IsNewline (c : Char) : Prop := c = '\r' ∨ c = '\n'

instance (c : Char) : Decidable (IsNewline c) :=
  inferInstanceAs (Decidable (_ ∨ _))

/-- No CR and no LF. -/
def NoNewline (l : List Char) : Prop := ∀ c ∈ l, ¬ IsNewline c

instance (l : List Char) : Decidable (NoNewline l) :=
  inferInstanceAs (Decidable (∀ c ∈ l, _))

/-- The POP3 line terminator. -/
def crlf : List Char := ['\r', '\n']

/-- Put a character in front of the first piece of a split. -/
def consHead (c : Char) : List (List Char) → List (List Char)
  | [] => [[c]]
  | l :: ls => (c :: l) :: ls

/-- `re.split(r'\r\n|\r|\n', s)` on the characters of `s`. -/
def splitLines : List Char → List (List Char)
  | [] => [[]]
  | '\r' :: '\n' :: rest => [] :: splitLines rest
  | '\r' :: rest => [] :: splitLines rest
  | '\n' :: rest => [] :: splitLines rest
  | c :: rest => consHead c (splitLines rest)

/-- `Auxiliaries.split_lines_without_discarding_empty_lines`. -/
def splitLinesWithoutDiscardingEmptyLines (s : String) : List String :=
  (splitLines s.data).map String.mk

/-- `re.sub(r'\r\n|\r|\n', '\r\n', s)`. -/
def normalizeNewlines : List Char → List Char
  | [] => []
  | '\r' :: '\n' :: rest => crlf ++ normalizeNewlines rest
  | '\r' :: rest => crlf ++ normalizeNewlines rest
  | '\n' :: rest => crlf ++ normalizeNewlines rest
  | c :: rest => c :: normalizeNewlines rest

/-- `"\r\n".join(lines)`. -/
def joinLines : List (List Char) → List Char
  | [] => []
  | [l] => l
  | l :: ls => l ++ crlf ++ joinLines ls

/-- `"\r\n".join(strings)`. -/
def joinCrlf (ls : List String) : String := ⟨joinLines (ls.map String.data)⟩

/-- `Auxiliaries.convert_index_to_message_number`. -/
def convertIndexToMessageNumber (index : Int) : Int := index + 1

/-! ## Equations -/

@[simp] theorem splitLines_nil : splitLines [] = [[]] := rfl

@[simp] theorem splitLines_crlf (rest : List Char) :
    splitLines ('\r' :: '\n' :: rest) = [] :: splitLines rest := rfl

@[simp] theorem splitLines_lf (rest : List Char) :
    splitLines ('\n' :: rest) = [] :: splitLines rest := rfl

theorem splitLines_of_not_newline {c : Char} (hc : ¬ IsNewline c) (rest : List Char) :
    splitLines (c :: rest) = consHead c (splitLines rest) := by
  simp only [IsNewline, not_or] at hc
  exact splitLines.eq_5 c rest (fun _ h => absurd h hc.1) hc.1 hc.2

theorem splitLines_cr_of_not_lf {rest : List Char} (h : rest.head? ≠ some '\n') :
    splitLines ('\r' :: rest) = [] :: splitLines rest :=
  splitLines.eq_3 rest (fun r hr => h (by simp [hr]))

@[simp] theorem joinLines_cons_cons (l m : List Char) (ls : List (List Char)) :
    joinLines (l :: m :: ls) = l ++ crlf ++ joinLines (m :: ls) := rfl

/-! ## The pieces of a split -/

@[simp] theorem consHead_cons (c : Char) (l : List Char) (ls : List (List Char)) :
    consHead c (l :: ls) = (c :: l) :: ls := rfl

@[simp] theorem consHead_ne_nil (c : Char) (ls : List (List Char)) : consHead c ls ≠ [] := by
  cases ls <;> simp [consHead]

theorem splitLines_ne_nil (s : List Char) : splitLines s ≠ [] := by
  induction s using splitLines.induct with
  | case1 => simp [splitLines]
  | case2 rest _ => simp [splitLines]
  | case3 rest h _ => simp [splitLines.eq_3 rest h]
  | case4 rest _ => simp [splitLines]
  | case5 c rest h1 h2 h3 _ => simp [splitLines.eq_5 c rest h1 h2 h3]

/-- Every piece of a split is free of CR and LF. -/
theorem splitLines_noNewline (s : List Char) : ∀ l ∈ splitLines s, NoNewline l := by
  induction s using splitLines.induct with
  | case1 => simp [splitLines, NoNewline]
  | case2 rest ih => simpa [splitLines, NoNewline] using ih
  | case3 rest h ih => simpa [splitLines.eq_3 rest h, NoNewline] using ih
  | case4 rest ih => simpa [splitLines, NoNewline] using ih
  | case5 c rest h1 h2 h3 ih =>
    rw [splitLines.eq_5 c rest h1 h2 h3]
    obtain ⟨l, ls, hls⟩ := List.exists_cons_of_ne_nil (splitLines_ne_nil rest)
    rw [hls] at ih ⊢
    simp only [consHead_cons, List.mem_cons, forall_eq_or_imp] at ih ⊢
    refine ⟨?_, ih.2⟩
    simp only [NoNewline, List.mem_cons, forall_eq_or_imp, IsNewline]
    exact ⟨by tauto, ih.1⟩

/-- A string without line breaks is one piece. -/
theorem splitLines_of_noNewline {s : List Char} (h : NoNewline s) : splitLines s = [s] := by
  induction s with
  | nil => rfl
  | cons c rest ih =>
    have hc : ¬ IsNewline c := h c (List.mem_cons_self c rest)
    rw [splitLines_of_not_newline hc, ih fun d hd => h d (List.mem_cons_of_mem c hd)]
    rfl

/-! ## Splitting a concatenation -/

theorem getLast?_cons_of_getLast? (c : Char) {rest : List Char} {e : Char}
    (h : rest.getLast? = some e) : (c :: rest).getLast? = some e := by
  cases rest with
  | nil => simp at h
  | cons r rs => simpa [List.getLast?_cons_cons] using h

/-- A split that starts with an empty piece, read against `init ++ [b]`. -/
theorem cons_nil_eq_append {ls init : List (List Char)} {b : List Char}
    (h : [] :: ls = init ++ [b]) (hne : ls ≠ []) :
    ∃ init', init = [] :: init' ∧ ls = init' ++ [b] := by
  cases init with
  | nil => simp_all
  | cons i init => simp only [List.cons_append, List.cons.injEq] at h; exact ⟨init, by simp [h.1], h.2⟩

/-- Splitting `x ++ d` re-splits only the last piece of `x` with `d` appended,
unless `x` ends with the `\r` of a `\r\n` that `d` completes. -/
theorem splitLines_append (d : List Char) {x : List Char} :
    ∀ {init : List (List Char)} {b : List Char}, splitLines x = init ++ [b] →
      (x.getLast? = some '\r' → d.head? ≠ some '\n') →
      splitLines (x ++ d) = init ++ splitLines (b ++ d) := by
  induction x using splitLines.induct with
  | case1 =>
    intro init b hx _
    obtain ⟨rfl, rfl⟩ : init = [] ∧ b = [] := by
      cases init <;> simp_all [splitLines]
    rfl
  | case2 rest ih =>
    intro init b hx hcut
    rw [splitLines_crlf] at hx
    obtain ⟨init, rfl, hrest⟩ := cons_nil_eq_append hx (splitLines_ne_nil rest)
    simp [ih hrest (hcut ∘ getLast?_cons_of_getLast? '\r' ∘ getLast?_cons_of_getLast? '\n')]
  | case3 rest h ih =>
    intro init b hx hcut
    rw [splitLines.eq_3 rest h] at hx
    obtain ⟨init, rfl, hrest⟩ := cons_nil_eq_append hx (splitLines_ne_nil rest)
    have hd : (rest ++ d).head? ≠ some '\n' := by
      cases rest with
      | nil => simpa using hcut rfl
      | cons r rs => simpa using fun hr => h rs (by rw [hr])
    rw [List.cons_append, splitLines_cr_of_not_lf hd, ih hrest (hcut ∘ getLast?_cons_of_getLast? '\r')]
    rfl
  | case4 rest ih =>
    intro init b hx hcut
    rw [splitLines_lf] at hx
    obtain ⟨init, rfl, hrest⟩ := cons_nil_eq_append hx (splitLines_ne_nil rest)
    simp [ih hrest (hcut ∘ getLast?_cons_of_getLast? '\n')]
  | case5 c rest h1 h2 h3 ih =>
    intro init b hx hcut
    have hc : ¬ IsNewline c := by simp only [IsNewline, not_or]; exact ⟨h2, h3⟩
    have hcut' := hcut ∘ getLast?_cons_of_getLast? c
    rw [splitLines.eq_5 c rest h1 h2 h3] at hx
    obtain ⟨a, as, has⟩ := List.exists_cons_of_ne_nil (splitLines_ne_nil rest)
    rw [has, consHead_cons] at hx
    rw [List.cons_append, splitLines_of_not_newline hc]
    cases init with
    | nil =>
      obtain ⟨rfl, rfl⟩ : c :: a = b ∧ as = [] := by simpa using hx
      rw [@ih [] a (by simpa using has) hcut', List.nil_append, List.nil_append,
        List.cons_append, splitLines_of_not_newline hc]
    | cons i init =>
      obtain ⟨rfl, rfl⟩ : c :: a = i ∧ as = init ++ [b] := by simpa using hx
      rw [@ih (a :: init) b (by simpa using has) hcut']
      rfl

/-! ## Joining the pieces again -/

theorem joinLines_consHead (c : Char) {ls : List (List Char)} (h : ls ≠ []) :
    joinLines (consHead c ls) = c :: joinLines ls := by
  cases ls with
  | nil => exact absurd rfl h
  | cons l ls => cases ls <;> rfl

theorem joinLines_nil_cons {ls : List (List Char)} (h : ls ≠ []) :
    joinLines ([] :: ls) = crlf ++ joinLines ls := by
  cases ls with
  | nil => exact absurd rfl h
  | cons l ls => rfl

/-- Joining the pieces of a split with CRLF rewrites every separator to CRLF. -/
theorem joinLines_splitLines (s : List Char) :
    joinLines (splitLines s) = normalizeNewlines s := by
  induction s using splitLines.induct with
  | case1 => rfl
  | case2 rest ih =>
    rw [splitLines_crlf, joinLines_nil_cons (splitLines_ne_nil rest), ih]; rfl
  | case3 rest h ih =>
    rw [splitLines.eq_3 rest h, joinLines_nil_cons (splitLines_ne_nil rest), ih,
      normalizeNewlines.eq_3 rest h]
  | case4 rest ih =>
    rw [splitLines_lf, joinLines_nil_cons (splitLines_ne_nil rest), ih]; rfl
  | case5 c rest h1 h2 h3 ih =>
    rw [splitLines.eq_5 c rest h1 h2 h3, joinLines_consHead c (splitLines_ne_nil rest), ih,
      normalizeNewlines.eq_5 c rest h1 h2 h3]

/-- A line without line breaks followed by CRLF is the first piece of a split. -/
theorem splitLines_line {l : List Char} (hl : NoNewline l) (rest : List Char) :
    splitLines (l ++ crlf ++ rest) = l :: splitLines rest := by
  induction l with
  | nil => rfl
  | cons c l ih =>
    rw [List.cons_append, List.cons_append, splitLines_of_not_newline (hl c (List.mem_cons_self c l)),
      ih fun d hd => hl d (List.mem_cons_of_mem c hd)]
    rfl

/-- Lines without line breaks, joined with CRLF, split back into themselves. -/
theorem splitLines_joinLines {ls : List (List Char)} (hne : ls ≠ []) (hls : ∀ l ∈ ls, NoNewline l) :
    splitLines (joinLines ls) = ls := by
  induction ls with
  | nil => exact absurd rfl hne
  | cons l ls ih =>
    have hl : NoNewline l := hls l (List.mem_cons_self l ls)
    cases ls with
    | nil => exact splitLines_of_noNewline hl
    | cons m ms =>
      rw [joinLines_cons_cons, splitLines_line hl,
        ih (List.cons_ne_nil m ms) fun d hd => hls d (List.mem_cons_of_mem l hd)]

/-- The split and the CRLF join of the source are inverse to each other: joining the
pieces of any string gives the string with every line break rewritten to CRLF (the text
whose length `get_message_size` reports), every piece is free of CR and LF, and any
non-empty list of such lines is what the split of its join returns. -/
theorem splitLinesWithoutDiscardingEmptyLines_joinCrlf (s : String) :
    joinCrlf (splitLinesWithoutDiscardingEmptyLines s) = ⟨normalizeNewlines s.data⟩ ∧
      (∀ l ∈ splitLinesWithoutDiscardingEmptyLines s, NoNewline l.data) ∧
      ∀ L : List String, L ≠ [] → (∀ l ∈ L, NoNewline l.data) →
        splitLinesWithoutDiscardingEmptyLines (joinCrlf L) = L := by
  refine ⟨?_, ?_, fun L hne hL => ?_⟩
  · rw [joinCrlf, splitLinesWithoutDiscardingEmptyLines, List.map_map]
    exact congrArg String.mk ((congrArg joinLines (List.map_id _)).trans (joinLines_splitLines _))
  · simpa [splitLinesWithoutDiscardingEmptyLines] using splitLines_noNewline s.data
  · rw [splitLinesWithoutDiscardingEmptyLines, joinCrlf,
      splitLines_joinLines (by simpa using hne) (by simpa using hL), List.map_map]
    exact List.map_id L

end Pop3sf
