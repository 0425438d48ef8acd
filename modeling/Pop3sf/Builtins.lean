import Mathlib.Data.Nat.Digits
import Pop3sf.Lines

set_option autoImplicit false

/-!
# The Python built-ins the command path relies on

`ClientHandler._parse_command` cuts a line with `str.strip`, `str.split` and
`str.upper`; the message-number arguments go through `int()`; and
`AdapterHelperWrapper.get_message_unique_id` validates an id with `re.match`.
These are library functions, not code of the repository, so they are modelled
here from their documented behaviour, on `List Char`:

* whitespace is what `str.isspace` accepts (the Unicode separators and the ASCII
  control characters `\t \n \v \f \r \x1c-\x1f`);
* `int(s)` first turns every decimal digit of any script into its ASCII digit and
  every whitespace character into a space, then accepts, after stripping
  whitespace, an optional sign and decimal digits with single underscores between
  digits (`"+1"`, `"-0"`, `"1_0"`, `"١"`), of 4300 digits at most.  The digits are
  those of Unicode 15.0 and the limit is the default of `sys.set_int_max_str_digits`:
  both as in Python 3.12 (Python 3.10 and older have no limit, and earlier Unicode
  versions fewer digits);
* `str.upper` maps each character to its full uppercase, which may be longer than
  one character (`ß` to `SS`).  The model gives the ASCII letters and every
  character whose uppercase is all ASCII (`ß ı ſ` and the ligatures `ﬀ ﬁ ﬂ ﬃ ﬄ ﬅ ﬆ`)
  their uppercase, and keeps every other character as it is.  The uppercase of such a
  character has a character outside ASCII in it, as the character itself has, so the
  model answers as Python to every comparison of the upper-cased verb with the ASCII
  verbs of the dispatch tables, the only use the command path makes of it;
* `re.match(r'^[\x21-\x7e]{1,70}$', u)`: Python's `$` matches at the end of the
  string and also just before a newline that ends it;
* `str(n)` of a natural number is `toString n`, its decimal numeral: distinct numbers
  have distinct numerals (`toString_injective`), of digits only.
-/

namespace Pop3sf

/-- `str.isspace` for one character. -/
def isPyWhitespace (c : Char) : Bool :=
  let n := c.toNat
  (9 ≤ n && n ≤ 13) || (0x1C ≤ n && n ≤ 0x20) || n == 0x85 || n == 0xA0 || n == 0x1680 ||
    (0x2000 ≤ n && n ≤ 0x200A) || n == 0x2028 || n == 0x2029 || n == 0x202F ||
    n == 0x205F || n == 0x3000

/-- `str.strip()`. -/
def pyStrip (s : List Char) : List Char :=
  ((s.dropWhile isPyWhitespace).reverse.dropWhile isPyWhitespace).reverse

/-- `str.split()` with the word being read kept reversed in `cur`. -/
def pySplitFrom (cur : List Char) : List Char → List (List Char)
  | [] => if cur = [] then [] else [cur.reverse]
  | c :: cs =>
    if isPyWhitespace c then
      if cur = [] then pySplitFrom [] cs else cur.reverse :: pySplitFrom [] cs
    else pySplitFrom (c :: cur) cs

/-- `str.split()`: the maximal runs of non-whitespace. -/
def pySplit (s : List Char) : List (List Char) := pySplitFrom [] s

/-- The characters other than the ASCII letters whose full uppercase (Unicode's
`SpecialCasing.txt` and `UnicodeData.txt`, which `str.upper` applies) is all ASCII. -/
def asciiUppercases : List (Char × List Char) :=
  [('ß', ['S', 'S']), ('ı', ['I']), ('ſ', ['S']), ('ﬀ', ['F', 'F']), ('ﬁ', ['F', 'I']),
    ('ﬂ', ['F', 'L']), ('ﬃ', ['F', 'F', 'I']), ('ﬄ', ['F', 'F', 'L']), ('ﬅ', ['S', 'T']),
    ('ﬆ', ['S', 'T'])]

/-- The uppercase of one character: that of an ASCII letter or of a character of
`asciiUppercases`; any other character is kept (see the module's header). -/
def upperChar (c : Char) : List Char :=
  match asciiUppercases.lookup c with
  | some u => u
  | none => [c.toUpper]

/-- `str.upper()`. -/
def pyUpper (s : List Char) : List Char := s.flatMap upperChar

/-- What may follow a digit in an integer literal: more digits, each optionally
preceded by one underscore. -/
def digitTail : List Char → Bool
  | [] => true
  | '_' :: d :: rest => d.isDigit && digitTail rest
  | d :: rest => d.isDigit && digitTail rest

/-- `sys.get_int_max_str_digits()` as it is by default: `int()` refuses a numeral of
more digits. -/
def maxStrDigits : Nat := 4300

/-- The value of a run of ASCII decimal digits with single underscores between them, of
`maxStrDigits` digits at most. -/
def decimalValue (ds : List Char) : Option Nat :=
  match ds with
  | d :: rest =>
    if d.isDigit && digitTail rest && (ds.filter Char.isDigit).length ≤ maxStrDigits then
      some ((ds.filter Char.isDigit).foldl (fun acc c => 10 * acc + (c.toNat - 48)) 0)
    else none
  | [] => none

/-- The first code point of each run of ten decimal digits (category `Nd`) of Unicode
15.0, from `0` to the segmented digits. -/
def decimalZeros : List Nat :=
  [0x30, 0x660, 0x6F0, 0x7C0, 0x966, 0x9E6, 0xA66, 0xAE6, 0xB66, 0xBE6, 0xC66, 0xCE6,
    0xD66, 0xDE6, 0xE50, 0xED0, 0xF20, 0x1040, 0x1090, 0x17E0, 0x1810, 0x1946, 0x19D0,
    0x1A80, 0x1A90, 0x1B50, 0x1BB0, 0x1C40, 0x1C50, 0xA620, 0xA8D0, 0xA900, 0xA9D0,
    0xA9F0, 0xAA50, 0xABF0, 0xFF10, 0x104A0, 0x10D30, 0x11066, 0x110F0, 0x11136, 0x111D0,
    0x112F0, 0x11450, 0x114D0, 0x11650, 0x116C0, 0x11730, 0x118E0, 0x11950, 0x11C50,
    0x11D50, 0x11DA0, 0x11F50, 0x16A60, 0x16AC0, 0x16B50, 0x1D7CE, 0x1D7D8, 0x1D7E2,
    0x1D7EC, 0x1D7F6, 0x1E140, 0x1E2F0, 0x1E4F0, 0x1E950, 0x1FBF0]

/-- `unicodedata.decimal(c)`: the value of a decimal digit of any script. -/
def decimalDigit (c : Char) : Option Nat :=
  (decimalZeros.find? fun z => z ≤ c.toNat && c.toNat < z + 10).map (c.toNat - ·)

/-- `_PyUnicode_TransformDecimalAndSpaceToASCII`, the first step of `int(s)`, on one
character: a decimal digit becomes its ASCII digit and whitespace a space; any other
character outside ASCII becomes `?`, which no numeral has. -/
def transformDecimalAndSpaceToAscii (c : Char) : Char :=
  if isPyWhitespace c then ' '
  else match decimalDigit c with
    | some d => Char.ofNat (48 + d)
    | none => if c.toNat < 128 then c else '?'

/-- `int(s)`; `none` is `ValueError`. -/
def pyInt (s : String) : Option Int :=
  match pyStrip (s.data.map transformDecimalAndSpaceToAscii) with
  | '+' :: ds => (decimalValue ds).map Int.ofNat
  | '-' :: ds => (decimalValue ds).map fun n => -(n : Int)
  | ds => (decimalValue ds).map Int.ofNat

/-- A character of the class `[\x21-\x7e]`. -/
def isUniqueIdChar (c : Char) : Bool := 0x21 ≤ c.toNat && c.toNat ≤ 0x7E

/-- `re.match(r'^[\x21-\x7e]{1,70}$', u)` holds: the string is 1 to 70 characters of
the class, or such a string followed by one final `\n`. -/
def uniqueIdMatches (u : String) : Bool :=
  let body := if u.data.getLast? = some '\n' then u.data.dropLast else u.data
  body.all isUniqueIdChar && 1 ≤ body.length && body.length ≤ 70

/-- `re.match("^" + cls + "{lo,hi}$", u)` for a character class `cls`: the string is `lo`
to `hi` characters of the class, or such a string followed by one final `\n`. -/
def reMatchRepeat (cls : Char → Bool) (lo hi : Nat) (u : String) : Bool :=
  let body := if u.data.getLast? = some '\n' then u.data.dropLast else u.data
  body.all cls && lo ≤ body.length && body.length ≤ hi

theorem uniqueIdMatches_eq_reMatchRepeat (u : String) :
    uniqueIdMatches u = reMatchRepeat isUniqueIdChar 1 70 u :=
  rfl

/-- What `reMatchRepeat` accepts: a string of the class, with at most one `\n` after
it. -/
theorem reMatchRepeat_eq_true {cls : Char → Bool} {lo hi : Nat}
    {u : String} (h : reMatchRepeat cls lo hi u = true) :
    ∃ body : List Char, (u.data = body ∨ u.data = body ++ ['\n']) ∧ (∀ c ∈ body, cls c = true) ∧
      lo ≤ body.length ∧ body.length ≤ hi := by
  unfold reMatchRepeat at h
  simp only [Bool.and_eq_true, decide_eq_true_eq, List.all_eq_true] at h
  obtain ⟨⟨hall, hlo⟩, hhi⟩ := h
  refine ⟨_, ?_, hall, hlo, hhi⟩
  split
  · rename_i hlast
    exact .inr (List.dropLast_append_getLast? _ hlast).symm
  · exact .inl rfl

/-! ## Decimal numerals (`str` of an `int`) -/

/-- With enough fuel, `toDigitsCore` puts the digits of `n` in front of the
accumulator, whatever the fuel. -/
theorem toDigitsCore_eq_append (n : Nat) :
    ∀ {fuel : Nat} (ds : List Char), n < fuel →
      Nat.toDigitsCore 10 fuel n ds = Nat.toDigits 10 n ++ ds
  | 0, _, h => absurd h (Nat.not_lt_zero n)
  | fuel + 1, ds, _ => by
    show _ = Nat.toDigitsCore 10 (n + 1) n [] ++ ds
    rw [Nat.toDigitsCore.eq_2, Nat.toDigitsCore.eq_2]
    split_ifs with hq
    · rfl
    · have hlt : n / 10 < n := by omega
      rw [toDigitsCore_eq_append (n / 10) _ (by omega),
        toDigitsCore_eq_append (n / 10) _ (by omega), List.append_assoc, List.singleton_append]
termination_by n

/-- The digits of `n`: those of `n / 10`, then that of `n % 10`. -/
theorem toDigits_eq (n : Nat) :
    Nat.toDigits 10 n =
      (if n / 10 = 0 then [] else Nat.toDigits 10 (n / 10)) ++ [Nat.digitChar (n % 10)] := by
  show Nat.toDigitsCore 10 (n + 1) n [] = _
  rw [Nat.toDigitsCore.eq_2]
  split_ifs with hq
  · rfl
  · exact toDigitsCore_eq_append (n / 10) _ (by omega)

/-- The value of a decimal numeral. -/
def decimalDigitsValue (ds : List Char) : Nat :=
  ds.foldl (fun acc c => 10 * acc + (c.toNat - 48)) 0

theorem digitChar_toNat {d : Nat} (h : d < 10) : (Nat.digitChar d).toNat = 48 + d := by
  interval_cases d <;> rfl

theorem decimalDigitsValue_toDigits (n : Nat) : decimalDigitsValue (Nat.toDigits 10 n) = n := by
  induction n using Nat.strong_induction_on with
  | _ n ih =>
    rw [toDigits_eq, decimalDigitsValue, List.foldl_append]
    have hd := digitChar_toNat (Nat.mod_lt n (by decide : 10 > 0))
    split_ifs with hq
    · simp only [List.foldl_nil, List.foldl_cons, hd]
      omega
    · have h := ih (n / 10) (by omega)
      rw [decimalDigitsValue] at h
      simp only [h, List.foldl_cons, List.foldl_nil, hd]
      omega

/-- Distinct numbers have distinct decimal numerals. -/
theorem toString_injective : Function.Injective fun n : Nat => toString n := fun a b h => by
  have h' : Nat.toDigits 10 a = Nat.toDigits 10 b := congrArg String.data h
  rw [← decimalDigitsValue_toDigits a, h', decimalDigitsValue_toDigits]

theorem digit_of_mem_toDigits (n : Nat) :
    ∀ c ∈ Nat.toDigits 10 n, 48 ≤ c.toNat ∧ c.toNat ≤ 57 := by
  induction n using Nat.strong_induction_on with
  | _ n ih =>
    intro c hc
    rw [toDigits_eq, List.mem_append, List.mem_singleton] at hc
    rcases hc with hc | rfl
    · split_ifs at hc with hq
      · cases hc
      · exact ih (n / 10) (by omega) c hc
    · rw [digitChar_toNat (Nat.mod_lt n (by decide))]
      omega

/-- The numeral of an `INT UNSIGNED` passes the core's unique-id check: ten digits at
most, each printable. -/
theorem uniqueIdMatches_toString {n : Nat} (h : n < 2 ^ 32) :
    uniqueIdMatches (toString n) = true := by
  have hlen : (Nat.repr n).length ≤ 10 := Nat.repr_length n 10 (by decide) (by omega)
  have hne : Nat.toDigits 10 n ≠ [] := by
    rw [toDigits_eq]
    exact List.append_ne_nil_of_right_ne_nil _ (List.cons_ne_nil _ _)
  have hdig := digit_of_mem_toDigits n
  have hlast : (Nat.toDigits 10 n).getLast? ≠ some '\n' := fun h' => by
    have := hdig _ (List.mem_of_getLast?_eq_some h')
    simp at this
  have hlen' : (Nat.toDigits 10 n).length ≤ 10 := hlen
  simp only [uniqueIdMatches, toString, Nat.repr, List.asString, if_neg hlast, Bool.and_eq_true,
    decide_eq_true_eq, List.all_eq_true]
  refine ⟨⟨fun c hc => ?_, List.length_pos.2 hne⟩, by omega⟩
  have := hdig c hc
  simp only [isUniqueIdChar, Bool.and_eq_true, decide_eq_true_eq]
  omega

end Pop3sf
