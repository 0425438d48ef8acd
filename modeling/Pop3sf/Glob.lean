import Mathlib.Data.List.Nodup
import Mathlib.Data.String.Basic

set_option autoImplicit false

/-!
# The file system and `glob.glob`

The directory adapters see the file system through `os.path`, `os.scandir` (under `glob`)
and `open`, which are modelled here by `FileSystem`: the entries of each directory, by
path, with distinct names that are not empty and contain no `/` (`Directory` carries
these facts, which `os.scandir` guarantees).  A path where there is no directory lists
nothing.  Paths are the strings Python builds; relative ones name files of the working
directory, `""`.

`_generate_message_index_using_full_directory_path(d)` lists `d` with
`glob.glob(os.path.join(d, "*"))`, which reads `*`, `?` and `[` in `d` as a pattern too.
`glob` is modelled after the standard library's source (Python 3.12): `_iglob` cuts the
pattern with `os.path.split`, matches the directory part first when it has
metacharacters, and matches the last part in each directory with `_glob1` or `_glob0`;
names are matched by `fnmatch`, which translates the pattern to a regular expression
(`translate`), modelled here by what that expression matches.

The main results:

* `glob_joinPath_star_of_literal`: for a directory path without metacharacters that does
  not end in `/`, `glob(os.path.join(d, "*"))` gives the paths of the entries of `d`
  whose name does not start with a dot, in the order the directory lists them;
* `glob_joinPath_star_nodup`: for any directory path, the paths it gives are distinct
  files: `os.path.split` cuts them into distinct directories and names (`iglob_nodup`,
  by recursion on the pattern as `_iglob` recurses).
-/

namespace Pop3sf

/-! ## What the adapters see of the file system -/

/-- What `os.stat` and `open` give of a regular file: its bytes and `st_mtime`. -/
structure FileInfo (Epoch : Type) where
  content : List UInt8
  lastModifiedEpoch : Epoch
  deriving DecidableEq, Repr

/-- A directory as `os.scandir` lists it, in some order: each entry's name and, for a
regular file (`os.path.isfile`), what the file holds.  Names are distinct, not empty, and
contain no `/`. -/
@[ext]
structure Directory (Epoch : Type) where
  entries : List (String × Option (FileInfo Epoch))
  names_nodup : (entries.map (·.1)).Nodup
  no_slash : ∀ e ∈ entries, '/' ∉ e.1.data
  name_ne_empty : ∀ e ∈ entries, e.1 ≠ ""

/-- The file system: the directory at each path; a path where there is none lists
nothing. -/
def FileSystem (Epoch : Type) := String → Directory Epoch

/-- `os.path.join(a, b)` on POSIX: an absolute `b` replaces `a`. -/
def joinPath (a b : String) : String :=
  if b.data.head? = some '/' then b
  else if a.isEmpty || a.data.getLast? == some '/' then a ++ b
  else a ++ "/" ++ b

section Files

variable {Epoch : Type}

/-- The regular file `name` of the directory at `d`: whether
`os.path.isfile(os.path.join(d, name))` holds, and what `open` and `os.stat` give. -/
def FileSystem.file (fs : FileSystem Epoch) (d name : String) : Option (FileInfo Epoch) :=
  ((fs d).entries.lookup name).join

theorem lookup_of_mem {β : Type} {l : List (String × β)} (hl : (l.map (·.1)).Nodup) {k : String}
    {b : β} (h : (k, b) ∈ l) : l.lookup k = some b := by
  induction l with
  | nil => cases h
  | cons p l ih =>
    obtain ⟨k', v⟩ := p
    rw [List.map_cons, List.nodup_cons] at hl
    rcases List.mem_cons.1 h with he | h
    · cases he
      exact List.lookup_cons_self
    · have hk : (k == k') = false :=
        beq_false_of_ne fun e => hl.1 (e ▸ List.mem_map_of_mem (·.1) h)
      simp [List.lookup_cons, hk, ih hl.2 h]

/-- An entry of a directory is what `FileSystem.file` finds under its name. -/
theorem FileSystem.file_of_mem (fs : FileSystem Epoch) (d : String) {name : String}
    {info : Option (FileInfo Epoch)} (h : (name, info) ∈ (fs d).entries) :
    fs.file d name = info := by
  simp [FileSystem.file, lookup_of_mem (fs d).names_nodup h]

end Files

/-! ## Paths -/

/-- The head `os.path.split` keeps: without its trailing slashes, unless it is all
slashes. -/
def stripTrailingSlashes (head : List Char) : List Char :=
  if head.all (· == '/') then head else (head.reverse.dropWhile (· == '/')).reverse

/-- `os.path.split(p)` on POSIX: `p` cut after its last `/`. -/
def pathSplit (p : String) : String × String :=
  (⟨stripTrailingSlashes (p.data.reverse.dropWhile (· != '/')).reverse⟩,
    ⟨(p.data.reverse.takeWhile (· != '/')).reverse⟩)

/-- `glob.has_magic`: the path has one of `*`, `?`, `[`. -/
def hasMagic (s : String) : Bool := s.data.any fun c => c == '*' || c == '?' || c == '['

/-- `glob._ishidden`: a name that starts with a dot. -/
def isHidden (name : String) : Bool := name.data.head? == some '.'

/-! ## `fnmatch` -/

/-- A piece of the text of a bracket in the regular expression `fnmatch.translate`
builds: a character, escaped or not, or a hyphen put between two chunks, which makes a
range. -/
inductive SetToken where
  | char (c : Char)
  | hyphen
  deriving DecidableEq, Repr

/-- The character a token stands for where it makes no range. -/
def SetToken.toChar : SetToken → Char
  | char c => c
  | hyphen => '-'

/-- The ranges of a set `[...]` of `re`: `a-b` is a range, any other token one
character. -/
def classRanges : List SetToken → List (Char × Char)
  | a :: .hyphen :: b :: rest => (a.toChar, b.toChar) :: classRanges rest
  | a :: rest => (a.toChar, a.toChar) :: classRanges rest
  | [] => []

/-- A piece of the regular expression `fnmatch.translate` builds. -/
inductive PatternItem where
  /-- `*`: `.*` -/
  | star
  /-- `?`, or a bracket left as `[!]`: `.` -/
  | any
  | literal (c : Char)
  /-- a bracket: the ranges of its set, and whether `!` negates it -/
  | charSet (negated : Bool) (ranges : List (Char × Char))
  deriving DecidableEq, Repr

/-- Whether a piece other than `*` matches a character (`re.DOTALL`: `.` matches a
newline too). -/
def PatternItem.matchesChar : PatternItem → Char → Bool
  | star, _ | any, _ => true
  | literal c, d => c == d
  | charSet negated ranges, d => negated != ranges.any fun r => r.1 ≤ d && d ≤ r.2

/-- The chunks `fnmatch.translate` cuts the text of a bracket into at its range hyphens:
a hyphen cuts only after the first `skip` characters of a chunk, one at the start (two
after `!`) and two after a cut (`k = k+3` in the source). -/
def splitChunks : Nat → List Char → List Char → List (List Char)
  | _, cur, [] => [cur]
  | 0, cur, '-' :: rest => cur :: splitChunks 2 [] rest
  | skip, cur, c :: rest => splitChunks (skip - 1) (cur ++ [c]) rest

/-- `chunks[-1] += '-'`: a hyphen that ends the text leaves the last chunk empty, and
goes back to the chunk before it. -/
def appendTrailingHyphen : List (List Char) → List (List Char)
  | [c, []] => [c ++ ['-']]
  | c :: cs => c :: appendTrailingHyphen cs
  | [] => []

/-- Whether the range from the end of one chunk to the start of the next is empty. -/
def emptyRange (c d : List Char) : Bool :=
  match c.getLast?, d.head? with
  | some a, some b => b < a
  | _, _ => false

/-- The removal of the empty ranges, from the last to the first: the two chunks around an
empty range are joined without its two ends. -/
def removeEmptyRanges : List (List Char) → List (List Char)
  | [] => []
  | c :: cs =>
    match removeEmptyRanges cs with
    | d :: ds => if emptyRange c d then (c.dropLast ++ d.tail) :: ds else c :: d :: ds
    | [] => [c]

/-- The chunks of the text of a bracket: one chunk when it has no hyphen. -/
def bracketChunks (stuff : List Char) : List (List Char) :=
  if '-' ∈ stuff then
    removeEmptyRanges
      (appendTrailingHyphen (splitChunks (if stuff.head? = some '!' then 2 else 1) [] stuff))
  else [stuff]

/-- The piece the bracket with the text `stuff` translates to: its chunks joined by range
hyphens; an empty set matches nothing, the set `!` any character, and a leading `!`
negates the set. -/
def bracketItem (stuff : List Char) : PatternItem :=
  match List.intercalate [.hyphen] ((bracketChunks stuff).map (·.map SetToken.char)) with
  | [] => .charSet false []
  | [SetToken.char '!'] => .any
  | SetToken.char '!' :: tokens => .charSet true (classRanges tokens)
  | tokens => .charSet false (classRanges tokens)

/-- The text of the bracket that opens before `rest`, up to its `]`, or `none` for a `[`
that no `]` closes, which stands for itself.  A `]` right after the `[`, or after `[!`,
is part of the text. -/
def bracketText (rest : List Char) : Option (List Char) :=
  let j := if rest.head? = some '!' then 1 else 0
  let j := if rest.get? j = some ']' then j + 1 else j
  let k := j + ((rest.drop j).takeWhile (· != ']')).length
  if k < rest.length then some (rest.take k) else none

/-- The loop of `fnmatch.translate`, from where it has reached, with `skip` characters
still to pass over: those of a bracket already translated and its `]` (`i = j+1`).
Consecutive `*` give one `.*` in the source, which matches what several do. -/
def translateFrom : Nat → List Char → List PatternItem
  | _, [] => []
  | skip + 1, _ :: rest => translateFrom skip rest
  | 0, '*' :: rest => .star :: translateFrom 0 rest
  | 0, '?' :: rest => .any :: translateFrom 0 rest
  | 0, '[' :: rest =>
    match bracketText rest with
    | some stuff => bracketItem stuff :: translateFrom (stuff.length + 1) rest
    | none => .literal '[' :: translateFrom 0 rest
  | 0, c :: rest => .literal c :: translateFrom 0 rest

/-- `fnmatch.translate(pattern)`. -/
def translate (pattern : String) : List PatternItem := translateFrom 0 pattern.data

/-- Whether the pieces match the whole name, as `re.match` of the expression, which ends
in `\Z`, does: `*` matches any part of what is left. -/
def matchItems : List PatternItem → List Char → Bool
  | [], s => s.isEmpty
  | .star :: p, s => (List.range (s.length + 1)).any fun k => matchItems p (s.drop k)
  | item :: p, c :: s => item.matchesChar c && matchItems p s
  | _ :: _, [] => false

/-- `fnmatch.fnmatch(name, pattern)` on POSIX, where `os.path.normcase` changes
nothing. -/
def fnmatch (name pattern : String) : Bool := matchItems (translate pattern) name.data

/-- `*` matches every name. -/
theorem fnmatch_star (name : String) : fnmatch name "*" = true := by
  have ht : translate "*" = [.star] := by decide
  rw [fnmatch, ht, matchItems]
  exact List.any_eq_true.2
    ⟨name.data.length, List.mem_range.2 (Nat.lt_succ_self _), by simp [matchItems]⟩

/-! ## `glob` -/

section Glob

variable {Epoch : Type}

/-- `glob._listdir(d, dironly)`: the names `os.scandir` lists in the directory at `d` (the
working directory for `""`); for `dironly`, those of the entries that are not regular
files (`entry.is_dir()`: any other entry lists nothing). -/
def FileSystem.listdir (fs : FileSystem Epoch) (d : String) (dironly : Bool) : List String :=
  ((fs d).entries.filter fun e => !dironly || e.2.isNone).map (·.1)

/-- `os.path.lexists(p)` for a path that ends in a name: its directory lists the name. -/
def FileSystem.lexists (fs : FileSystem Epoch) (p : String) : Bool :=
  (fs (pathSplit p).1).entries.any (·.1 == (pathSplit p).2)

/-- `os.path.isdir(p)` for a path with no trailing `/`: it is `/`, or its directory lists
it as an entry that is not a regular file. -/
def FileSystem.isdir (fs : FileSystem Epoch) (p : String) : Bool :=
  (p != "" && p.data.all (· == '/')) ||
    (fs (pathSplit p).1).entries.any fun e => e.1 == (pathSplit p).2 && e.2.isNone

/-- `glob._glob1(dirname, pattern, dironly)`: the names in `dirname` that the pattern
matches; names that start with a dot only for a pattern that does. -/
def glob1 (fs : FileSystem Epoch) (dirname pattern : String) (dironly : Bool) :
    List String :=
  let names := fs.listdir dirname dironly
  let names := if isHidden pattern then names else names.filter (!isHidden ·)
  names.filter (fnmatch · pattern)

/-- `glob._glob0(dirname, basename)`: a part without metacharacters names itself, if it
is there. -/
def glob0 (fs : FileSystem Epoch) (dirname basename : String) : List String :=
  if basename.isEmpty then (if fs.isdir dirname then [basename] else [])
  else if fs.lexists (joinPath dirname basename) then [basename] else []

theorem prefix_dropWhile_reverse (q : Char → Bool) (l : List Char) :
    (l.reverse.dropWhile q).reverse <+: l := by
  have h := congrArg List.reverse (List.takeWhile_append_dropWhile q l.reverse)
  rw [List.reverse_append, List.reverse_reverse] at h
  exact ⟨_, h⟩

theorem prefix_stripTrailingSlashes (l : List Char) : stripTrailingSlashes l <+: l := by
  unfold stripTrailingSlashes
  split_ifs
  exacts [List.prefix_refl l, prefix_dropWhile_reverse _ l]

theorem prefix_pathSplit_fst (p : String) : (pathSplit p).1.data <+: p.data :=
  (prefix_stripTrailingSlashes _).trans (prefix_dropWhile_reverse _ p.data)

theorem pathSplit_fst_length_lt {p : String} (h : (pathSplit p).1 ≠ p) :
    (pathSplit p).1.length < p.length := by
  have hp := prefix_pathSplit_fst p
  refine lt_of_le_of_ne hp.length_le fun hl => h (String.ext (hp.eq_of_length hl))

/-- `glob._iglob(pathname, dironly)`: the paths the pattern matches, as `glob` writes
them.  A directory part with metacharacters is matched first, directories only; the last
part is then matched in each directory it gives. -/
def iglob (fs : FileSystem Epoch) (pathname : String) (dironly : Bool) : List String :=
  if !hasMagic pathname then
    if (pathSplit pathname).2.isEmpty then
      (if fs.isdir (pathSplit pathname).1 then [pathname] else [])
    else if fs.lexists pathname then [pathname] else []
  else if (pathSplit pathname).1.isEmpty then glob1 fs "" (pathSplit pathname).2 dironly
  else
    let dirs := if _h : (pathSplit pathname).1 ≠ pathname ∧ hasMagic (pathSplit pathname).1
      then iglob fs (pathSplit pathname).1 true else [(pathSplit pathname).1]
    dirs.flatMap fun d =>
      (if hasMagic (pathSplit pathname).2 then glob1 fs d (pathSplit pathname).2 dironly
        else glob0 fs d (pathSplit pathname).2).map (joinPath d)
termination_by pathname.length
decreasing_by exact pathSplit_fst_length_lt ‹_ ∧ _›.1

/-- `glob.glob(pathname)`. -/
def glob (fs : FileSystem Epoch) (pathname : String) : List String := iglob fs pathname false

end Glob

/-! ## What `os.path.split` gives back -/

/-- A name `os.scandir` can list: not empty, and without `/`. -/
def IsEntryName (n : String) : Prop := n ≠ "" ∧ '/' ∉ n.data

/-- A path `os.path.split` keeps whole as a head: no trailing `/`, unless it is all
slashes. -/
def IsDirHead (d : String) : Prop := stripTrailingSlashes d.data = d.data

theorem dropWhile_slash_of_head {l : List Char} (h : l.head? ≠ some '/') :
    l.dropWhile (· == '/') = l := by
  cases l with
  | nil => rfl
  | cons c t =>
    rw [List.head?_cons, Ne, Option.some.injEq] at h
    exact List.dropWhile_cons_of_neg (by simpa using h)

/-- A path that does not end in `/` is kept whole as a head. -/
theorem stripTrailingSlashes_of_getLast {l : List Char} (h : l.getLast? ≠ some '/') :
    stripTrailingSlashes l = l := by
  unfold stripTrailingSlashes
  split_ifs
  · rfl
  · rw [List.getLast?_eq_head?_reverse] at h
    rw [dropWhile_slash_of_head h, List.reverse_reverse]

/-- `os.path.split` drops the one slash after a head that does not end in `/`. -/
theorem stripTrailingSlashes_append_slash {l : List Char} (h : l.getLast? ≠ some '/')
    (hne : l.getLast? ≠ none) : stripTrailingSlashes (l ++ ['/']) = l := by
  obtain ⟨x, hx⟩ := Option.ne_none_iff_exists.1 hne
  have hxs : x ≠ '/' := fun e => h (by rw [← hx, e])
  have hall : (l ++ ['/']).all (· == '/') = false :=
    List.all_eq_false.2 ⟨x, List.mem_append_left _ (List.mem_of_getLast?_eq_some hx.symm),
      by simpa using hxs⟩
  unfold stripTrailingSlashes
  rw [if_neg (by simp [hall]), List.reverse_append, List.reverse_singleton, List.singleton_append,
    List.dropWhile_cons_of_pos (by rfl), dropWhile_slash_of_head, List.reverse_reverse]
  rwa [List.head?_reverse]

/-- What `os.path.split` keeps as a head is all slashes, or does not end in `/`. -/
theorem stripTrailingSlashes_cases (l : List Char) :
    (stripTrailingSlashes l = l ∧ ∀ c ∈ l, c = '/') ∨
      (stripTrailingSlashes l).getLast? ≠ some '/' := by
  unfold stripTrailingSlashes
  split_ifs with hall
  · exact .inl ⟨rfl, fun c hc => by simpa using List.all_eq_true.1 hall c hc⟩
  · refine .inr fun h => ?_
    rw [List.getLast?_reverse] at h
    have := List.head?_dropWhile_not (· == '/') l.reverse
    rw [h] at this
    simp at this

theorem isDirHead_pathSplit (p : String) : IsDirHead (pathSplit p).1 := by
  show stripTrailingSlashes (stripTrailingSlashes _) = stripTrailingSlashes _
  rcases stripTrailingSlashes_cases ((p.data.reverse.dropWhile (· != '/')).reverse) with
    ⟨h, -⟩ | h
  · rw [h, h]
  · exact stripTrailingSlashes_of_getLast h

/-- The name `os.path.split` cuts off has no `/`. -/
theorem not_mem_pathSplit_snd (p : String) : '/' ∉ (pathSplit p).2.data := fun h => by
  have := List.mem_takeWhile_imp (List.mem_reverse.1 h)
  simp at this

/-- `os.path.split` of a head that is empty or ends in `/`, followed by a name without
`/`. -/
theorem pathSplit_append {P x : List Char} (hP : P.getLast? = none ∨ P.getLast? = some '/')
    (hx : '/' ∉ x) : pathSplit ⟨P ++ x⟩ = (⟨stripTrailingSlashes P⟩, ⟨x⟩) := by
  have hxr : ∀ c ∈ x.reverse, (c != '/') = true := fun c hc => by
    have hc' : c ∈ x := List.mem_reverse.1 hc
    simpa using fun e : c = '/' => hx (e ▸ hc')
  have hPr : P.reverse.takeWhile (· != '/') = [] ∧ P.reverse.dropWhile (· != '/') = P.reverse := by
    rw [← List.head?_reverse] at hP
    cases hr : P.reverse with
    | nil => exact ⟨rfl, rfl⟩
    | cons c t =>
      rcases hP with h | h <;> rw [hr] at h <;> cases h
      exact ⟨List.takeWhile_cons_of_neg (by decide), List.dropWhile_cons_of_neg (by decide)⟩
  simp only [pathSplit, List.reverse_append, List.takeWhile_append_of_pos hxr,
    List.dropWhile_append_of_pos hxr, hPr.1, hPr.2, List.append_nil, List.reverse_reverse]

theorem joinPath_cond (d : String) :
    (d.isEmpty || d.data.getLast? == some '/') = true ↔
      d.data.getLast? = none ∨ d.data.getLast? = some '/' := by
  rw [Bool.or_eq_true, String.isEmpty_iff, beq_iff_eq, List.getLast?_eq_none_iff]
  exact or_congr_left ⟨fun h => h ▸ rfl, String.ext⟩

/-- `os.path.split` of a path made by `os.path.join` from a head and a name without `/`
gives them back. -/
theorem pathSplit_joinPath {d n : String} (hd : IsDirHead d) (hn : '/' ∉ n.data) :
    pathSplit (joinPath d n) = (d, n) := by
  have hne : n.data.head? ≠ some '/' := fun h => hn (List.mem_of_mem_head? h)
  unfold joinPath
  rw [if_neg hne]
  split_ifs with h
  · rw [show d ++ n = ⟨d.data ++ n.data⟩ from rfl, pathSplit_append ((joinPath_cond d).1 h) hn]
    exact Prod.ext (String.ext hd) rfl
  · rw [joinPath_cond, not_or] at h
    rw [show d ++ "/" ++ n = ⟨(d.data ++ ['/']) ++ n.data⟩ from rfl,
      pathSplit_append (.inr (by simp)) hn, stripTrailingSlashes_append_slash h.2 h.1]

theorem joinPath_data (d name : String) : ∃ pre, (joinPath d name).data = pre ++ name.data := by
  unfold joinPath
  split_ifs
  · exact ⟨[], rfl⟩
  · exact ⟨d.data, rfl⟩
  · exact ⟨d.data ++ ['/'], by simp⟩

/-- A path that ends in a name is kept whole as a head. -/
theorem isDirHead_joinPath (d : String) {n : String} (hn : IsEntryName n) :
    IsDirHead (joinPath d n) := by
  obtain ⟨pre, hpre⟩ := joinPath_data d n
  obtain ⟨x, hx⟩ := Option.ne_none_iff_exists.1
    (mt List.getLast?_eq_none_iff.1 fun h => hn.1 (String.ext h))
  refine stripTrailingSlashes_of_getLast ?_
  rw [hpre, List.getLast?_append, ← hx]
  change some x ≠ some '/'
  exact fun h => hn.2 (Option.some.inj h ▸ List.mem_of_getLast?_eq_some hx.symm)

theorem joinPath_empty {n : String} (hn : '/' ∉ n.data) : joinPath "" n = n := by
  unfold joinPath
  rw [if_neg (show n.data.head? ≠ some '/' from fun h => hn (List.mem_of_mem_head? h))]
  rfl

/-- A path joined from two without metacharacters has none. -/
theorem hasMagic_joinPath {a b : String} (ha : hasMagic a = false) (hb : hasMagic b = false) :
    hasMagic (joinPath a b) = false := by
  unfold joinPath
  split_ifs
  · exact hb
  all_goals simpa [hasMagic, String.data_append] using And.intro ha hb

theorem hasMagic_joinPath_star (d : String) : hasMagic (joinPath d "*") = true := by
  obtain ⟨pre, hpre⟩ := joinPath_data d "*"
  simp [hasMagic, hpre]

/-- The name `os.path.split` cuts off a pattern with metacharacters that does not end in
`/` is one `os.scandir` can list. -/
theorem isEntryName_pathSplit_snd {pat : String} (hm : hasMagic pat = true)
    (hl : pat.data.getLast? ≠ some '/') : IsEntryName (pathSplit pat).2 := by
  refine ⟨fun h => ?_, not_mem_pathSplit_snd pat⟩
  have hnil : (pat.data.reverse.takeWhile (· != '/')) = [] :=
    List.reverse_eq_nil_iff.1 (congrArg String.data h)
  rw [List.getLast?_eq_head?_reverse] at hl
  cases hr : pat.data.reverse with
  | nil =>
    have hnil' : pat.data = [] := List.reverse_eq_nil_iff.1 hr
    simp [hasMagic, hnil'] at hm
  | cons c t =>
    rw [hr, List.head?_cons, Ne, Option.some.injEq] at hl
    rw [hr, List.takeWhile_cons_of_pos (by simpa using hl)] at hnil
    cases hnil

theorem isDirHead_empty : IsDirHead "" := rfl

/-- A head with metacharacters does not end in `/`. -/
theorem dirHead_getLast {d : String} (hd : IsDirHead d) (hm : hasMagic d = true) :
    d.data.getLast? ≠ some '/' := by
  rcases stripTrailingSlashes_cases d.data with ⟨-, hall⟩ | h
  · obtain ⟨c, hc, hmc⟩ := List.any_eq_true.1 hm
    rw [hall c hc] at hmc
    cases hmc
  · rwa [hd] at h

/-! ## What `glob(os.path.join(d, "*"))` gives -/

/-- A directory path that `glob(os.path.join(d, "*"))` reads as written: it has no
metacharacter, and no trailing `/` unless it is all slashes.  Another is read as a
pattern: `/srv/mail[1]/*` lists `/srv/mail1`. -/
def LiteralDirectory (d : String) : Prop := hasMagic d = false ∧ IsDirHead d

instance (d : String) : Decidable (LiteralDirectory d) :=
  inferInstanceAs (Decidable (hasMagic d = false ∧ stripTrailingSlashes d.data = d.data))

section GlobSpec

variable {Epoch : Type} (fs : FileSystem Epoch)

/-- Names a directory lists, each once. -/
def DistinctNames (names : List String) : Prop := names.Nodup ∧ ∀ n ∈ names, IsEntryName n

theorem FileSystem.listdir_names (d : String) (dironly : Bool) :
    DistinctNames (fs.listdir d dironly) := by
  refine ⟨(fs d).names_nodup.sublist ((List.filter_sublist _).map _), fun n hn => ?_⟩
  obtain ⟨e, he, rfl⟩ := List.mem_map.1 hn
  have he' := List.mem_of_mem_filter he
  exact ⟨(fs d).name_ne_empty e he', (fs d).no_slash e he'⟩

theorem DistinctNames.sublist {names names' : List String} (h : DistinctNames names)
    (hs : names'.Sublist names) : DistinctNames names' :=
  ⟨h.1.sublist hs, fun n hn => h.2 n (hs.subset hn)⟩

theorem glob1_names (dirname pattern : String) (dironly : Bool) :
    DistinctNames (glob1 fs dirname pattern dironly) := by
  refine (fs.listdir_names dirname dironly).sublist ?_
  unfold glob1
  split_ifs
  · exact List.filter_sublist _
  · exact (List.filter_sublist _).trans (List.filter_sublist _)

theorem glob0_names (dirname : String) {basename : String} (hb : IsEntryName basename) :
    DistinctNames (glob0 fs dirname basename) := by
  unfold glob0
  split_ifs
  all_goals first
    | exact ⟨List.nodup_nil, fun _ h => absurd h (List.not_mem_nil _)⟩
    | exact ⟨List.nodup_singleton _, fun n hn => List.mem_singleton.1 hn ▸ hb⟩

/-- The paths `_iglob` builds from distinct heads and the distinct names it finds in each
are distinct heads again, which `os.path.split` cuts into distinct directories and
names. -/
theorem flatMap_joinPath_nodup {dirs : List String}
    (hdirs : dirs.Nodup ∧ ∀ d ∈ dirs, IsDirHead d) {names : String → List String}
    (hnames : ∀ d, DistinctNames (names d)) :
    ((dirs.flatMap fun d => (names d).map (joinPath d)).map pathSplit).Nodup ∧
      ∀ p ∈ dirs.flatMap (fun d => (names d).map (joinPath d)), IsDirHead p := by
  have hsplit : ∀ d ∈ dirs,
      ((names d).map (joinPath d)).map pathSplit = (names d).map (Prod.mk d) := fun d hd => by
    rw [List.map_map]
    exact List.map_congr_left fun n hn => pathSplit_joinPath (hdirs.2 d hd) ((hnames d).2 n hn).2
  refine ⟨?_, fun p hp => ?_⟩
  · rw [List.map_flatMap]
    refine List.nodup_flatMap.2 ⟨fun d hd => hsplit d hd ▸ (hnames d).1.map (Prod.mk.inj_left d),
      (List.Pairwise.and_mem.1 hdirs.1).imp fun ⟨hd, hd', hne⟩ x hx hy => hne ?_⟩
    dsimp only at hx hy
    rw [hsplit _ hd] at hx
    rw [hsplit _ hd'] at hy
    obtain ⟨n, -, rfl⟩ := List.mem_map.1 hx
    obtain ⟨n', -, he⟩ := List.mem_map.1 hy
    exact (congrArg Prod.fst he).symm
  · obtain ⟨d, -, hp⟩ := List.mem_flatMap.1 hp
    obtain ⟨n, hn, rfl⟩ := List.mem_map.1 hp
    exact isDirHead_joinPath d ((hnames d).2 n hn)

theorem heads_singleton {d : String} (hd : IsDirHead d) :
    [d].Nodup ∧ ∀ d' ∈ [d], IsDirHead d' :=
  ⟨List.nodup_singleton d, fun _ h => List.mem_singleton.1 h ▸ hd⟩

/-- What `_iglob` gives for a pattern with metacharacters that does not end in `/`:
paths that `os.path.split` cuts into distinct directories and names, each path a head
itself. -/
theorem iglob_nodup (pat : String) (dironly : Bool) (hm : hasMagic pat = true)
    (hl : pat.data.getLast? ≠ some '/') :
    ((iglob fs pat dironly).map pathSplit).Nodup ∧ ∀ p ∈ iglob fs pat dironly, IsDirHead p := by
  have hbase := isEntryName_pathSplit_snd hm hl
  rw [iglob]
  simp only [hm, Bool.not_true, Bool.false_eq_true, if_false]
  by_cases hdn : (pathSplit pat).1.isEmpty = true
  · -- `_glob1` in the working directory: the names, which `os.path.join("", n)` keeps
    rw [if_pos hdn]
    have hnames := glob1_names fs "" (pathSplit pat).2 dironly
    have h := @flatMap_joinPath_nodup [""] (heads_singleton isDirHead_empty)
      (fun d => glob1 fs d (pathSplit pat).2 dironly) fun d => glob1_names fs d _ dironly
    rwa [List.flatMap_singleton, List.map_congr_left fun n hn => joinPath_empty (hnames.2 n hn).2,
      List.map_id'] at h
  · rw [if_neg hdn]
    refine flatMap_joinPath_nodup ?_ fun d => ?_
    · split
      · next h =>
        obtain ⟨hnd, hheads⟩ :=
          iglob_nodup _ true h.2 (dirHead_getLast (isDirHead_pathSplit pat) h.2)
        exact ⟨hnd.of_map _, hheads⟩
      · exact heads_singleton (isDirHead_pathSplit pat)
    · split
      · exact glob1_names fs d _ dironly
      · exact glob0_names fs d hbase
termination_by pat.length
decreasing_by all_goals exact pathSplit_fst_length_lt ‹_ ∧ _›.1

/-- For any directory path, the paths `glob(os.path.join(d, "*"))` gives are distinct
files: `os.path.split` cuts them into distinct directories and names. -/
theorem glob_joinPath_star_nodup (d : String) :
    ((glob fs (joinPath d "*")).map pathSplit).Nodup := by
  refine (iglob_nodup fs _ false (hasMagic_joinPath_star d) ?_).1
  obtain ⟨pre, hpre⟩ := joinPath_data d "*"
  rw [hpre]
  simp

/-- For a directory path without metacharacters that does not end in `/`,
`glob(os.path.join(d, "*"))` gives the paths of the entries of `d` whose name does not
start with a dot, in the order the directory lists them. -/
theorem glob_joinPath_star_of_literal {d : String} (hd : LiteralDirectory d) :
    glob fs (joinPath d "*") =
      ((fs d).entries.filter fun e => !isHidden e.1).map fun e => joinPath d e.1 := by
  have hsplit : pathSplit (joinPath d "*") = (d, "*") := pathSplit_joinPath hd.2 (by decide)
  have hlist : glob1 fs d "*" false = ((fs d).entries.filter fun e => !isHidden e.1).map (·.1) := by
    simp [glob1, FileSystem.listdir, fnmatch_star, List.filter_map, Function.comp_def,
      show isHidden "*" = false from rfl]
  unfold glob
  rw [iglob, hasMagic_joinPath_star, hsplit]
  simp only [Bool.not_true, Bool.false_eq_true, if_false, hd.1, and_false, dif_neg,
    show hasMagic "*" = true from rfl, if_true, not_false_eq_true]
  split_ifs with hempty
  · obtain rfl : d = "" := (String.isEmpty_iff d).1 hempty
    rw [hlist]
    exact List.map_congr_left fun e he =>
      (joinPath_empty ((fs "").no_slash e (List.mem_of_mem_filter he))).symm
  · rw [List.flatMap_singleton, hlist, List.map_map]
    rfl

end GlobSpec

end Pop3sf
