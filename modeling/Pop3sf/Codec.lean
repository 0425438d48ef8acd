import Mathlib.Data.List.Basic

set_option autoImplicit false

/-!
# Encoding text to bytes and back

The server handles text as Python `str` and meets bytes at two places: every
response is `encode`d under the session's encoding (`"ascii"` until `UTF8`,
`"utf-8"` after it), and every batch received from the socket is `decode`d as
UTF-8.  Both codecs are modelled on `List Char`:

* `encodeWith` fails exactly where Python raises `UnicodeEncodeError`: a character
  above `0x7F` under `"ascii"`;
* `decodeUtf8` is the strict UTF-8 decoder, written as the byte-at-a-time automaton
  of the well-formed byte sequences of UTF-8 (overlong forms, surrogates and code
  points above `0x10FFFF` are rejected, as Python rejects them).  Writing it as an
  automaton makes `utf8Run_append` a plain induction: decoding a concatenation
  decodes the first part and continues from the state it ends in.

Python strings may hold lone surrogates, which a Lean `Char` cannot; under this
model the `"utf-8"` codec therefore never fails.
-/

namespace Pop3sf

/-! ## Encoding -/

/-- The UTF-8 encoding of one character. -/
def utf8EncodeChar (c : Char) : List UInt8 :=
  let n := c.toNat
  if n < 0x80 then [n.toUInt8]
  else if n < 0x800 then [(0xC0 + n / 64).toUInt8, (0x80 + n % 64).toUInt8]
  else if n < 0x10000 then
    [(0xE0 + n / 4096).toUInt8, (0x80 + n / 64 % 64).toUInt8, (0x80 + n % 64).toUInt8]
  else
    [(0xF0 + n / 262144).toUInt8, (0x80 + n / 4096 % 64).toUInt8,
      (0x80 + n / 64 % 64).toUInt8, (0x80 + n % 64).toUInt8]

/-- `s.encode(encoding)` for the two encodings a session uses; `none` is
`UnicodeEncodeError`. -/
def encodeWith (encoding : String) (s : List Char) : Option (List UInt8) :=
  if encoding = "utf-8" then some (s.flatMap utf8EncodeChar)
  else if s.all (fun c => c.toNat < 0x80) then some (s.map (fun c => c.toNat.toUInt8))
  else none

/-- Encoding a concatenation encodes the parts: the codecs work character by
character. -/
theorem encodeWith_append (encoding : String) (a b : List Char) :
    encodeWith encoding (a ++ b) =
      (encodeWith encoding a).bind fun x => (encodeWith encoding b).map (x ++ ·) := by
  unfold encodeWith
  by_cases hu : encoding = "utf-8"
  · simp [hu]
  · by_cases ha : a.all (fun c => c.toNat < 0x80) <;>
      by_cases hb : b.all (fun c => c.toNat < 0x80) <;> simp [hu, ha, hb]

theorem encodeWith_append_eq_some {encoding : String} {a b : List Char} {x : List UInt8}
    (h : encodeWith encoding (a ++ b) = some x) :
    ∃ xa xb, encodeWith encoding a = some xa ∧ encodeWith encoding b = some xb ∧ x = xa ++ xb := by
  rw [encodeWith_append] at h
  obtain ⟨xa, ha, h⟩ := Option.bind_eq_some.mp h
  obtain ⟨xb, hb, rfl⟩ := Option.map_eq_some'.mp h
  exact ⟨xa, xb, ha, hb, rfl⟩

/-- ASCII text is one byte per character under both encodings. -/
theorem encodeWith_ascii (encoding : String) {s : List Char} (hs : ∀ c ∈ s, c.toNat < 0x80) :
    encodeWith encoding s = some (s.map fun c => c.toNat.toUInt8) := by
  unfold encodeWith
  split_ifs with hu hall
  · congr 1
    induction s with
    | nil => rfl
    | cons c s ih =>
      simp [utf8EncodeChar, hs c (List.mem_cons_self c s), ih fun d hd => hs d (List.mem_cons_of_mem c hd)]
  · rfl
  · simp_all

theorem encodeWith_eq_none_iff {encoding : String} {s : List Char} :
    encodeWith encoding s = none ↔ encoding ≠ "utf-8" ∧ ∃ c ∈ s, ¬ c.toNat < 0x80 := by
  unfold encodeWith
  split_ifs <;> simp_all

/-! ## Decoding -/

/-- Where the decoder stands: between characters, or inside one with `need`
continuation bytes to come, the code point `cp` read so far, and the range
`lo ..= hi` the next byte must fall in. -/
inductive Utf8State where
  | start
  | pending (need cp : Nat) (lo hi : UInt8)
  deriving DecidableEq, Repr

/-- One byte of input: the character it completes, if any, and the next state;
`none` when the byte cannot continue a well-formed sequence. -/
def utf8Step : Utf8State → UInt8 → Option (Option Char × Utf8State)
  | .start, b =>
    if b < 0x80 then some (some (Char.ofNat b.toNat), .start)
    else if 0xC2 ≤ b ∧ b ≤ 0xDF then some (none, .pending 1 (b.toNat % 32) 0x80 0xBF)
    else if b = 0xE0 then some (none, .pending 2 0 0xA0 0xBF)
    else if (0xE1 ≤ b ∧ b ≤ 0xEC) ∨ b = 0xEE ∨ b = 0xEF then
      some (none, .pending 2 (b.toNat % 16) 0x80 0xBF)
    else if b = 0xED then some (none, .pending 2 13 0x80 0x9F)
    else if b = 0xF0 then some (none, .pending 3 0 0x90 0xBF)
    else if 0xF1 ≤ b ∧ b ≤ 0xF3 then some (none, .pending 3 (b.toNat % 8) 0x80 0xBF)
    else if b = 0xF4 then some (none, .pending 3 4 0x80 0x8F)
    else none
  | .pending need cp lo hi, b =>
    if lo ≤ b ∧ b ≤ hi then
      if need = 1 then some (some (Char.ofNat (cp * 64 + b.toNat % 64)), .start)
      else some (none, .pending (need - 1) (cp * 64 + b.toNat % 64) 0x80 0xBF)
    else none

/-- Run the decoder over bytes: the characters completed and the final state. -/
def utf8Run : Utf8State → List UInt8 → Option (List Char × Utf8State)
  | st, [] => some ([], st)
  | st, b :: rest =>
    match utf8Step st b with
    | none => none
    | some (out, st') => (utf8Run st' rest).map fun r => (out.toList ++ r.1, r.2)

/-- `bytes.decode("utf-8")`: `none` is `UnicodeDecodeError`, raised by an
ill-formed sequence and by a character cut off at the end. -/
def decodeUtf8 (bs : List UInt8) : Option (List Char) :=
  match utf8Run .start bs with
  | some (s, .start) => some s
  | _ => none

/-- Decoding a concatenation decodes the first part, then continues from the
state it ends in. -/
theorem utf8Run_append (a b : List UInt8) :
    ∀ st : Utf8State, utf8Run st (a ++ b) =
      (utf8Run st a).bind fun r => (utf8Run r.2 b).map fun q => (r.1 ++ q.1, q.2) := by
  induction a with
  | nil => intro st; simp [utf8Run]
  | cons x a ih =>
    intro st
    rw [List.cons_append, utf8Run.eq_2, utf8Run.eq_2]
    cases utf8Step st x with
    | none => rfl
    | some p =>
      obtain ⟨out, st'⟩ := p
      simp only
      rw [ih st']
      cases utf8Run st' a <;> simp [Function.comp_def]

theorem decodeUtf8_append {a b : List UInt8} {s t : List Char} (ha : decodeUtf8 a = some s)
    (hb : decodeUtf8 b = some t) : decodeUtf8 (a ++ b) = some (s ++ t) := by
  unfold decodeUtf8 at ha hb ⊢
  split at ha <;> [rename_i s' hs; simp at ha]
  split at hb <;> [rename_i t' ht; simp at hb]
  cases ha; cases hb
  simp [utf8Run_append, hs, ht]

/-! ## Decoding undoes encoding

The decoder compares bytes as `UInt8`; the encoder computes them as numbers below
`0x100`.  The lemmas of this section read the decoder's steps on such numbers. -/

section Bytes

variable {n : Nat} (h : n < 256) {k : Nat} (hk : k < 256)
include h

theorem toUInt8_toNat_of_lt : n.toUInt8.toNat = n := UInt8.toNat_ofNat_of_lt h

include hk

theorem toUInt8_lt_iff : n.toUInt8 < (no_index (OfNat.ofNat k : UInt8)) ↔ n < k := by
  rw [UInt8.lt_def, BitVec.lt_def]
  simp [Nat.toUInt8, UInt8.ofNat, Nat.mod_eq_of_lt h, Nat.mod_eq_of_lt hk]

theorem le_toUInt8_iff : (no_index (OfNat.ofNat k : UInt8)) ≤ n.toUInt8 ↔ k ≤ n := by
  rw [UInt8.le_def, BitVec.le_def]
  simp [Nat.toUInt8, UInt8.ofNat, Nat.mod_eq_of_lt h, Nat.mod_eq_of_lt hk]

theorem toUInt8_le_iff : n.toUInt8 ≤ (no_index (OfNat.ofNat k : UInt8)) ↔ n ≤ k := by
  rw [UInt8.le_def, BitVec.le_def]
  simp [Nat.toUInt8, UInt8.ofNat, Nat.mod_eq_of_lt h, Nat.mod_eq_of_lt hk]

theorem toUInt8_eq_iff : n.toUInt8 = (no_index (OfNat.ofNat k : UInt8)) ↔ n = k := by
  constructor
  · intro e
    have := congrArg UInt8.toNat e
    rwa [toUInt8_toNat_of_lt h,
      show (no_index (OfNat.ofNat k : UInt8)).toNat = k from UInt8.toNat_ofNat_of_lt hk] at this
  · rintro rfl; rfl

end Bytes

theorem char_toNat_valid (c : Char) :
    c.toNat < 0xD800 ∨ (0xDFFF < c.toNat ∧ c.toNat < 0x110000) := by
  have := c.valid
  simpa [UInt32.isValidChar, Nat.isValidChar] using this

/-- The decoder's first step on a byte, read as a number. -/
theorem utf8Step_start_toUInt8 {n : Nat} (h : n < 256) :
    utf8Step .start n.toUInt8 =
      if n < 0x80 then some (some (Char.ofNat n), .start)
      else if 0xC2 ≤ n ∧ n ≤ 0xDF then some (none, .pending 1 (n % 32) 0x80 0xBF)
      else if n = 0xE0 then some (none, .pending 2 0 0xA0 0xBF)
      else if (0xE1 ≤ n ∧ n ≤ 0xEC) ∨ n = 0xEE ∨ n = 0xEF then
        some (none, .pending 2 (n % 16) 0x80 0xBF)
      else if n = 0xED then some (none, .pending 2 13 0x80 0x9F)
      else if n = 0xF0 then some (none, .pending 3 0 0x90 0xBF)
      else if 0xF1 ≤ n ∧ n ≤ 0xF3 then some (none, .pending 3 (n % 8) 0x80 0xBF)
      else if n = 0xF4 then some (none, .pending 3 4 0x80 0x8F)
      else none := by
  simp (disch := first | omega | decide) only [utf8Step, toUInt8_lt_iff, le_toUInt8_iff,
    toUInt8_le_iff, toUInt8_eq_iff, toUInt8_toNat_of_lt]

/-- A continuation byte in range, read as a number. -/
theorem utf8Step_pending_toUInt8 {n : Nat} (h : n < 256) {need cp : Nat} {lo hi : UInt8}
    (hn : lo.toNat ≤ n ∧ n ≤ hi.toNat) :
    utf8Step (.pending need cp lo hi) n.toUInt8 =
      if need = 1 then some (some (Char.ofNat (cp * 64 + n % 64)), .start)
      else some (none, .pending (need - 1) (cp * 64 + n % 64) 0x80 0xBF) := by
  have hle : lo ≤ n.toUInt8 ∧ n.toUInt8 ≤ hi := by
    rw [UInt8.le_def, UInt8.le_def, BitVec.le_def, BitVec.le_def]
    have hn' : n.toUInt8.toBitVec.toNat = n := toUInt8_toNat_of_lt h
    rw [hn']
    exact hn
  simp only [utf8Step, if_pos hle, toUInt8_toNat_of_lt h]

theorem char_ofNat_eq {c : Char} {m : Nat} (h : m = c.toNat) : Char.ofNat m = c := by
  rw [h, Char.ofNat_toNat]

/-- Decoding the UTF-8 encoding of a character gives the character back and ends
between characters.  The cases are the encoding's lengths, with the first bytes
`E0`, `ED`, `F0` and `F4`, after which the decoder narrows the next byte's range. -/
theorem utf8Run_utf8EncodeChar (c : Char) :
    utf8Run .start (utf8EncodeChar c) = some ([c], .start) := by
  have hc := char_toNat_valid c
  rcases (by omega : c.toNat < 0x80 ∨ (0x80 ≤ c.toNat ∧ c.toNat < 0x800) ∨
      (0x800 ≤ c.toNat ∧ c.toNat < 0x1000) ∨ c.toNat / 4096 = 13 ∨
      (0x1000 ≤ c.toNat ∧ c.toNat < 0x10000 ∧ c.toNat / 4096 ≠ 13) ∨
      (0x10000 ≤ c.toNat ∧ c.toNat < 0x40000) ∨ c.toNat / 262144 = 4 ∨
      (0x40000 ≤ c.toNat ∧ c.toNat / 262144 ≠ 4)) with h | h | h | h | h | h | h | h <;>
  simp (disch := first | omega | decide | (simp only [UInt8.reduceToNat]; omega)) only
      [utf8EncodeChar, utf8Run, utf8Step_start_toUInt8, utf8Step_pending_toUInt8, if_pos,
        if_neg, Option.map_some', Option.toList_some, Option.toList_none, List.nil_append,
        List.singleton_append, List.append_nil, Option.some.injEq, Prod.mk.injEq,
        List.cons.injEq, and_true] <;>
  (apply char_ofNat_eq; omega)

theorem decodeUtf8_utf8EncodeChar (c : Char) : decodeUtf8 (utf8EncodeChar c) = some [c] := by
  simp only [decodeUtf8, utf8Run_utf8EncodeChar]

/-- Whatever a session encodes, under `"ascii"` or `"utf-8"`, decodes as UTF-8 to the
text it encoded. -/
theorem decodeUtf8_encodeWith {encoding : String} {s : List Char} {bytes : List UInt8}
    (h : encodeWith encoding s = some bytes) : decodeUtf8 bytes = some s := by
  have hutf8 : ∀ s : List Char, decodeUtf8 (s.flatMap utf8EncodeChar) = some s := by
    intro s
    induction s with
    | nil => rfl
    | cons c s ih => exact decodeUtf8_append (decodeUtf8_utf8EncodeChar c) ih
  unfold encodeWith at h
  split_ifs at h with hu hall
  · cases h
    exact hutf8 s
  · have h' := encodeWith_ascii "utf-8" (s := s) (by simpa using hall)
    rw [encodeWith, if_pos rfl, Option.some.injEq] at h'
    cases h
    rw [← h']
    exact hutf8 s

/-- `é` is sent as the two bytes `C3 A9`, which decode back to `é`. -/
example : encodeWith "utf-8" ['é'] = some [0xC3, 0xA9] ∧ decodeUtf8 [0xC3, 0xA9] = some ['é'] :=
  ⟨by decide, @decodeUtf8_encodeWith "utf-8" _ _ (by decide)⟩

end Pop3sf
