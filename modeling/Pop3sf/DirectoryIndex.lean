import Pop3sf.Glob

set_option autoImplicit false

/-!
# The message index of the directory adapters (`adapters/DirectoryAdapterBase.py`)

`DirectorySingleuserAdapter` serves the files of one directory, `DirectoryMultiuserAdapter`
those of the directory named after the user under its root.  Both build, at the login,
a message index with `_generate_message_index_using_full_directory_path(d)`: the regular
files that `glob.glob(os.path.join(d, "*"))` gives whose path ends in `.eml` (served as
they are) or `.txt` (wrapped in an email), sorted by modification time, ties by path.
The timestamps `st_mtime` are of any linearly ordered type `Epoch` (Python compares the
floats as numbers).

`glob` reads `*`, `?` and `[` in `d` as a pattern: for such a `d` the index holds the
files of the directories the pattern matches.  For a directory path without them
(`LiteralDirectory`), the index is `indexOfListing d (fs d)`, built from the listing of
`d` alone (`generateMessageIndex_eq_indexOfListing`).

The main results:

* `generateMessageIndexUsingFullDirectoryPath_spec`: for a literal directory path, the
  index holds exactly the message files, each once, strictly ordered by modification time
  and then path; so it does not depend on the order in which the directory is listed;
* `generateMessageIndex_append_newer`: a message file newer than every other goes to the
  end of the index, so the numbers of the others do not change, as the source's comment
  says;
* `mem_generateMessageIndex` and `nodup_keys_generateMessageIndex`: for any directory
  path, the index names distinct regular files, none of them marked.
-/

namespace Pop3sf

/-! ## The message index -/

/-- `DirectoryAdapterBase._MessageIndexEntry`.  The source keeps the path
`os.path.abspath(os.path.join(d, name))`; the entry keeps the directory `d` and the
name, and `path` joins them (`d` is taken absolute and normal, so `abspath` changes
nothing). -/
structure MessageIndexEntry (Epoch : Type) where
  directory : String
  name : String
  lastModifiedEpoch : Epoch
  isPlaintext : Bool
  markedAsDeleted : Bool
  deriving DecidableEq, Repr

/-- `str.endswith(suffix)`. -/
def pyEndswith (s suffix : String) : Bool := suffix.data.isSuffixOf s.data

/-- The entry's path, as the source stores it. -/
def MessageIndexEntry.path {Epoch : Type} (m : MessageIndexEntry Epoch) : String :=
  joinPath m.directory m.name

/-- A message's directory and name, which fix its file. -/
def MessageIndexEntry.key {Epoch : Type} (m : MessageIndexEntry Epoch) : String × String :=
  (m.directory, m.name)

section Index

variable {Epoch : Type} [LinearOrder Epoch]

/-- The loop body of `_generate_message_index_using_full_directory_path` for one
regular file: an entry for a `.eml` or `.txt` path, nothing for another. -/
def indexEntry (d name : String) (info : FileInfo Epoch) : Option (MessageIndexEntry Epoch) :=
  if pyEndswith (joinPath d name) ".eml" then
    some ⟨d, name, info.lastModifiedEpoch, false, false⟩
  else if pyEndswith (joinPath d name) ".txt" then
    some ⟨d, name, info.lastModifiedEpoch, true, false⟩
  else none

/-- `_generate_message_index_using_full_directory_path(d)`: `sorted(glob(join(d, "*")))`,
the regular files among them (`filter(os.path.isfile, ...)`), an entry for each `.eml`
and `.txt` file, and the entries sorted by `st_mtime`.  Python's sorts are stable, as
`List.mergeSort` is.  The entry of a path keeps the directory and the name
`os.path.split` cuts it into, which join back to the path `glob` gave: the paths are taken
absolute and normal, so `os.path.abspath` changes nothing. -/
def generateMessageIndexUsingFullDirectoryPath (fs : FileSystem Epoch) (d : String) :
    List (MessageIndexEntry Epoch) :=
  let paths := (glob fs (joinPath d "*")).mergeSort fun a b => decide (a ≤ b)
  let messageIndex := paths.filterMap fun p =>
    (fs.file (pathSplit p).1 (pathSplit p).2).bind (indexEntry (pathSplit p).1 (pathSplit p).2)
  messageIndex.mergeSort fun a b => decide (a.lastModifiedEpoch ≤ b.lastModifiedEpoch)

/-- The index built from one listing of the directory at `d`: its entries whose name does
not start with a dot, sorted by path, an entry for each `.eml` and `.txt` regular file
among them, sorted by `st_mtime`.  It is what the source builds for a literal `d`. -/
def indexOfListing (d : String) (dir : Directory Epoch) : List (MessageIndexEntry Epoch) :=
  let paths := (dir.entries.filter fun e => !isHidden e.1).mergeSort
    fun a b => decide (joinPath d a.1 ≤ joinPath d b.1)
  let messageIndex := paths.filterMap fun e => e.2.bind (indexEntry d e.1)
  messageIndex.mergeSort fun a b => decide (a.lastModifiedEpoch ≤ b.lastModifiedEpoch)

/-- The message files of a directory, in the order it is listed: the regular files whose
name does not start with a dot and whose path ends in `.eml` or `.txt`. -/
def messageFiles (d : String) (dir : Directory Epoch) : List (MessageIndexEntry Epoch) :=
  (dir.entries.filter fun e => !isHidden e.1).filterMap fun e => e.2.bind (indexEntry d e.1)

/-- The order of the index: by modification time, ties by path. -/
def IndexLt (a b : MessageIndexEntry Epoch) : Prop :=
  a.lastModifiedEpoch < b.lastModifiedEpoch ∨
    (a.lastModifiedEpoch = b.lastModifiedEpoch ∧ a.path < b.path)

end Index

/-! ## Stable sorting -/

section StableSort

variable {α β : Type} [LinearOrder β] (key : α → β)

theorem key_le_trans (a b c : α) (hab : decide (key a ≤ key b) = true)
    (hbc : decide (key b ≤ key c) = true) : decide (key a ≤ key c) = true := by
  simp only [decide_eq_true_eq] at *
  exact le_trans hab hbc

theorem key_le_total (a b : α) :
    (decide (key a ≤ key b) || decide (key b ≤ key a)) = true := by
  simpa using le_total (key a) (key b)

/-- A stable sort by a key keeps the input order among equal keys: sorting a list
ordered by `r` gives a list ordered by the key, ties by `r`. -/
theorem pairwise_mergeSort_key {r : α → α → Prop} :
    ∀ {l : List α}, l.Pairwise r →
      (l.mergeSort fun a b => decide (key a ≤ key b)).Pairwise
        fun a b => key a < key b ∨ (key a = key b ∧ r a b)
  | [], _ => by simp
  | a :: l, h => by
    obtain ⟨l₁, l₂, h₁, h₂, h₃⟩ :=
      List.mergeSort_cons (key_le_trans key) (key_le_total key) a l
    have ih := pairwise_mergeSort_key (List.pairwise_cons.1 h).2
    have hs := List.sorted_mergeSort (key_le_trans key) (key_le_total key) (a :: l)
    rw [h₂, List.pairwise_append] at ih
    rw [h₁, List.pairwise_append, List.pairwise_cons] at hs ⊢
    refine ⟨ih.1, ⟨fun y hy => ?_, ih.2.1⟩, fun x hx y hy => ?_⟩
    · have hle : key a ≤ key y := by simpa using hs.2.1.1 y hy
      rcases hle.lt_or_eq with hlt | heq
      · exact .inl hlt
      · have hyl : y ∈ l := List.mem_mergeSort.1 (h₂ ▸ List.mem_append_right l₁ hy)
        exact .inr ⟨heq, (List.pairwise_cons.1 h).1 y hyl⟩
    · rcases List.mem_cons.1 hy with rfl | hy
      · exact .inl (by simpa using h₃ x hx)
      · exact ih.2.2 x hx y hy

/-- Sorting a list whose keys are distinct orders it strictly by the key. -/
theorem pairwise_lt_mergeSort {l : List α} (hl : (l.map key).Nodup) :
    (l.mergeSort fun a b => decide (key a ≤ key b)).Pairwise fun a b => key a < key b := by
  have hs := List.sorted_mergeSort (key_le_trans key) (key_le_total key) l
  have hn : ((l.mergeSort fun a b => decide (key a ≤ key b)).map key).Nodup :=
    hl.perm ((List.mergeSort_perm l _).map key).symm
  exact ((List.pairwise_map.1 hn).and hs).imp fun ⟨hne, hle⟩ =>
    lt_of_le_of_ne (by simpa using hle) hne

end StableSort

/-! ## The index holds the message files, in order -/

theorem head?_ne_of_not_mem {c : Char} {s : String} (h : c ∉ s.data) : s.data.head? ≠ some c :=
  fun hh => h (List.mem_of_mem_head? hh)

/-- Joining a directory and a name without `/` is one-to-one in the name. -/
theorem joinPath_inj (a : String) {b b' : String} (hb : '/' ∉ b.data) (hb' : '/' ∉ b'.data)
    (h : joinPath a b = joinPath a b') : b = b' := by
  unfold joinPath at h
  rw [if_neg (head?_ne_of_not_mem hb), if_neg (head?_ne_of_not_mem hb')] at h
  split_ifs at h <;> exact String.ext (List.append_cancel_left (congrArg String.data h))

section Entries

variable {Epoch : Type}

theorem indexEntry_eq_some {d name : String} {info : FileInfo Epoch} {m : MessageIndexEntry Epoch}
    (h : indexEntry d name info = some m) : m.key = (d, name) ∧ m.markedAsDeleted = false := by
  unfold indexEntry at h
  split_ifs at h <;> cases h <;> exact ⟨rfl, rfl⟩

theorem indexEntry_path {d name : String} {info : FileInfo Epoch} {m : MessageIndexEntry Epoch}
    (h : indexEntry d name info = some m) : m.path = joinPath d name := by
  obtain ⟨hk, -⟩ := indexEntry_eq_some h
  simp only [MessageIndexEntry.key, Prod.mk.injEq] at hk
  rw [MessageIndexEntry.path, hk.1, hk.2]

/-- A message file of a directory is an unmarked entry for one of its regular files. -/
theorem mem_messageFiles {d : String} {dir : Directory Epoch} {m : MessageIndexEntry Epoch}
    (h : m ∈ messageFiles d dir) :
    ∃ info, (m.name, some info) ∈ dir.entries ∧ m.directory = d ∧
      m.markedAsDeleted = false := by
  obtain ⟨e, he, hm⟩ := List.mem_filterMap.1 h
  obtain ⟨info, hinfo, hm⟩ := Option.bind_eq_some.1 hm
  obtain ⟨hk, hmark⟩ := indexEntry_eq_some hm
  simp only [MessageIndexEntry.key, Prod.mk.injEq] at hk
  refine ⟨info, ?_, hk.1, hmark⟩
  rw [hk.2, ← hinfo]
  exact (List.mem_of_mem_filter he)

theorem map_filterMap_sublist {α β γ : Type} {f : α → Option β} {g : β → γ}
    {k : α → γ} (hfg : ∀ a b, f a = some b → g b = k a) :
    ∀ l : List α, List.Sublist ((l.filterMap f).map g) (l.map k)
  | [] => List.Sublist.slnil
  | a :: l => by
    rw [List.filterMap_cons]
    cases hfa : f a with
    | none => exact (map_filterMap_sublist hfg l).cons _
    | some b => rw [List.map_cons, hfg a b hfa]; exact (map_filterMap_sublist hfg l).cons₂ _

/-- The message files of a directory are distinct files. -/
theorem nodup_keys_messageFiles (d : String) (dir : Directory Epoch) :
    ((messageFiles d dir).map MessageIndexEntry.key).Nodup := by
  have hkey : ∀ (e : String × Option (FileInfo Epoch)) m,
      e.2.bind (indexEntry d e.1) = some m → m.key = (d, e.1) := fun e m hm => by
    obtain ⟨_, -, h⟩ := Option.bind_eq_some.1 hm
    exact (indexEntry_eq_some h).1
  have hsub :=
    (map_filterMap_sublist hkey (dir.entries.filter fun e => !isHidden e.1)).trans
      ((List.filter_sublist dir.entries).map _)
  refine List.Nodup.sublist hsub ?_
  have h := dir.names_nodup.map (Prod.mk.inj_left d)
  rwa [List.map_map] at h

end Entries

section Listing

variable {Epoch : Type} [LinearOrder Epoch]

/-- The index of a listing holds its message files, each once. -/
theorem perm_indexOfListing (d : String) (dir : Directory Epoch) :
    List.Perm (indexOfListing d dir) (messageFiles d dir) :=
  (List.mergeSort_perm _ _).trans ((List.mergeSort_perm _ _).filterMap _)

/-- The index of a listing is strictly ordered by modification time and, among files
modified at the same time, by path: the sort by path makes the paths distinct and
ordered, and the stable sort by time keeps that order among equal times. -/
theorem pairwise_indexLt_indexOfListing (d : String) (dir : Directory Epoch) :
    (indexOfListing d dir).Pairwise IndexLt := by
  unfold indexOfListing
  dsimp only
  set visible := dir.entries.filter fun e => !isHidden e.1
  have hsub : visible.Sublist dir.entries := List.filter_sublist _
  have hslash : ∀ x ∈ visible.map (·.1), '/' ∉ x.data := fun x hx => by
    obtain ⟨e, he, rfl⟩ := List.mem_map.1 hx
    exact dir.no_slash e (hsub.subset he)
  have hpaths : (visible.map fun e => joinPath d e.1).Nodup := by
    have h := (dir.names_nodup.sublist (hsub.map _)).map_on fun x hx y hy hxy =>
      joinPath_inj d (hslash x hx) (hslash y hy) hxy
    rwa [List.map_map] at h
  have hfiles : List.Pairwise (fun a b : MessageIndexEntry Epoch => a.path < b.path)
      (List.filterMap (fun e => e.2.bind (indexEntry d e.1)) (visible.mergeSort
        fun a b => decide (joinPath d a.1 ≤ joinPath d b.1))) :=
    (pairwise_lt_mergeSort (fun e : String × Option (FileInfo Epoch) => joinPath d e.1)
      hpaths).filterMap _
      fun e e' h m hm m' hm' => by
        obtain ⟨info, -, hm⟩ := Option.bind_eq_some.1 hm
        obtain ⟨info', -, hm'⟩ := Option.bind_eq_some.1 hm'
        rw [indexEntry_path hm, indexEntry_path hm']
        exact h
  exact pairwise_mergeSort_key (fun m : MessageIndexEntry Epoch => m.lastModifiedEpoch) hfiles

theorem IndexLt.asymm {a b : MessageIndexEntry Epoch} (h : IndexLt a b) : ¬ IndexLt b a := by
  rintro (h' | ⟨h', h''⟩) <;> rcases h with h | ⟨h, h₁⟩
  · exact lt_asymm h h'
  · exact h'.ne h.symm
  · exact h.ne h'.symm
  · exact lt_asymm h₁ h''

/-- Two lists that hold the same entries, both in index order, are equal. -/
theorem eq_of_perm_of_indexLt {l l' : List (MessageIndexEntry Epoch)} (hp : List.Perm l l')
    (h : l.Pairwise IndexLt) (h' : l'.Pairwise IndexLt) : l = l' :=
  hp.eq_of_sorted (fun _ _ _ _ hab hba => absurd hba hab.asymm) h h'

/-- A message file newer than every message file of a listing goes to the end of its
index, whatever the order of the listing with the new file. -/
theorem indexOfListing_append_newer (d : String) {dir dir' : Directory Epoch}
    {e : String × Option (FileInfo Epoch)} {m : MessageIndexEntry Epoch}
    (hperm : List.Perm dir'.entries (e :: dir.entries)) (hvisible : isHidden e.1 = false)
    (hm : e.2.bind (indexEntry d e.1) = some m)
    (hnewer : ∀ m' ∈ messageFiles d dir, m'.lastModifiedEpoch < m.lastModifiedEpoch) :
    indexOfListing d dir' = indexOfListing d dir ++ [m] := by
  have hp := perm_indexOfListing d dir
  have hs := pairwise_indexLt_indexOfListing d dir
  have hfiles : List.Perm (messageFiles d dir') (m :: messageFiles d dir) := by
    have h := (hperm.filter fun e => !isHidden e.1).filterMap
      fun e => e.2.bind (indexEntry d e.1)
    rwa [List.filter_cons_of_pos (by simpa using hvisible), List.filterMap_cons, hm] at h
  refine eq_of_perm_of_indexLt (((perm_indexOfListing d dir').trans hfiles).trans
    ((hp.symm.cons m).trans (List.perm_append_singleton _ _).symm))
    (pairwise_indexLt_indexOfListing d dir') ?_
  refine List.pairwise_append.2 ⟨hs, List.pairwise_singleton _ _, fun x hx y hy => ?_⟩
  rw [List.mem_singleton.1 hy]
  exact .inl (hnewer x (hp.subset hx))

end Listing

/-! ## The index of a directory path -/

section Spec

variable {Epoch : Type} [LinearOrder Epoch] (fs : FileSystem Epoch)

/-- For a directory path without metacharacters, the source builds the index of the
listing of `d`: `glob` gives the paths of its entries whose name does not start with a
dot, and `os.path.split` gives back the directory and the name of each. -/
theorem generateMessageIndex_eq_indexOfListing {d : String} (hd : LiteralDirectory d) :
    generateMessageIndexUsingFullDirectoryPath fs d = indexOfListing d (fs d) := by
  unfold generateMessageIndexUsingFullDirectoryPath indexOfListing
  dsimp only
  rw [glob_joinPath_star_of_literal fs hd, ← List.map_mergeSort
    (r := fun a b => decide (joinPath d a.1 ≤ joinPath d b.1)) fun _ _ _ _ => rfl,
    List.filterMap_map]
  congr 1
  refine List.filterMap_congr fun e he => ?_
  have hmem : e ∈ (fs d).entries := List.mem_of_mem_filter ((List.mergeSort_perm _ _).subset he)
  simp only [Function.comp_def, pathSplit_joinPath hd.2 ((fs d).no_slash e hmem),
    FileSystem.file_of_mem fs d hmem]

/-- The message index of a directory path without metacharacters holds exactly its
message files (the regular files whose name does not start with a dot and whose path
ends in `.eml` or `.txt`), each once, strictly ordered by modification time and, among
files modified at the same time, by path.  Since these two facts determine the list, the
index does not depend on the order in which the directory is listed. -/
theorem generateMessageIndexUsingFullDirectoryPath_spec {d : String} (hd : LiteralDirectory d) :
    List.Perm (generateMessageIndexUsingFullDirectoryPath fs d) (messageFiles d (fs d)) ∧
      (generateMessageIndexUsingFullDirectoryPath fs d).Pairwise IndexLt := by
  rw [generateMessageIndex_eq_indexOfListing fs hd]
  exact ⟨perm_indexOfListing d (fs d), pairwise_indexLt_indexOfListing d (fs d)⟩

/-- The index of `/m`, listed with `b.txt` before `a.eml`, holds both, ordered. -/
theorem generateMessageIndexUsingFullDirectoryPath_spec_m :
    let fs : FileSystem Nat := fun _ =>
      ⟨[("b.txt", some ⟨[], 1⟩), ("a.eml", some ⟨[], 1⟩)], by decide, by decide, by decide⟩
    LiteralDirectory "/m" ∧
      List.Perm (generateMessageIndexUsingFullDirectoryPath fs "/m") (messageFiles "/m" (fs "/m")) ∧
      (generateMessageIndexUsingFullDirectoryPath fs "/m").Pairwise IndexLt :=
  ⟨by decide, generateMessageIndexUsingFullDirectoryPath_spec _ (by decide)⟩

/-- A message file that is newer than every message file of a directory without
metacharacters in its path goes to the end of the index: the messages already there keep
their numbers, as the source's comment says.  The directory with the new file may be
listed in any order. -/
theorem generateMessageIndex_append_newer {fs' : FileSystem Epoch} {d : String}
    (hd : LiteralDirectory d) {e : String × Option (FileInfo Epoch)} {m : MessageIndexEntry Epoch}
    (hperm : List.Perm (fs' d).entries (e :: (fs d).entries)) (hvisible : isHidden e.1 = false)
    (hm : e.2.bind (indexEntry d e.1) = some m)
    (hnewer : ∀ m' ∈ messageFiles d (fs d), m'.lastModifiedEpoch < m.lastModifiedEpoch) :
    generateMessageIndexUsingFullDirectoryPath fs' d =
      generateMessageIndexUsingFullDirectoryPath fs d ++ [m] := by
  rw [generateMessageIndex_eq_indexOfListing fs hd, generateMessageIndex_eq_indexOfListing fs' hd]
  exact indexOfListing_append_newer d hperm hvisible hm hnewer

/-- A file `c.eml` newer than the two message files, listed between them, goes to the
end of the index. -/
theorem generateMessageIndex_append_newer_listed_between :
    let fs : FileSystem Nat := fun _ =>
      ⟨[("a.eml", some ⟨[], 1⟩), ("b.txt", some ⟨[], 2⟩)], by decide, by decide, by decide⟩
    let fs' : FileSystem Nat := fun _ =>
      ⟨[("a.eml", some ⟨[], 1⟩), ("c.eml", some ⟨[], 3⟩), ("b.txt", some ⟨[], 2⟩)],
        by decide, by decide, by decide⟩
    generateMessageIndexUsingFullDirectoryPath fs' "/m" =
      generateMessageIndexUsingFullDirectoryPath fs "/m" ++
        [⟨"/m", "c.eml", 3, false, false⟩] :=
  generateMessageIndex_append_newer _ (e := ("c.eml", some ⟨[], 3⟩)) (by decide) (by decide)
    (by decide) (by decide) (by decide)

/-- An entry of the index, for any directory path, is an unmarked entry for a regular
file. -/
theorem mem_generateMessageIndex {d : String} {m : MessageIndexEntry Epoch}
    (h : m ∈ generateMessageIndexUsingFullDirectoryPath fs d) :
    ∃ info, fs.file m.directory m.name = some info ∧ m.markedAsDeleted = false := by
  obtain ⟨p, -, hp⟩ := List.mem_filterMap.1 ((List.mergeSort_perm _ _).subset h)
  obtain ⟨info, hinfo, hm⟩ := Option.bind_eq_some.1 hp
  obtain ⟨hk, hmark⟩ := indexEntry_eq_some hm
  simp only [MessageIndexEntry.key, Prod.mk.injEq] at hk
  exact ⟨info, by rw [hk.1, hk.2, hinfo], hmark⟩

/-- The entries of the index, for any directory path, are distinct files: `glob` gives
distinct files, and each gives at most one entry. -/
theorem nodup_keys_generateMessageIndex (d : String) :
    ((generateMessageIndexUsingFullDirectoryPath fs d).map MessageIndexEntry.key).Nodup := by
  have hkey : ∀ (p : String) m, (fs.file (pathSplit p).1 (pathSplit p).2).bind
      (indexEntry (pathSplit p).1 (pathSplit p).2) = some m → m.key = pathSplit p :=
    fun p m hm => by
      obtain ⟨_, -, h⟩ := Option.bind_eq_some.1 hm
      exact (indexEntry_eq_some h).1
  unfold generateMessageIndexUsingFullDirectoryPath
  dsimp only
  refine List.Nodup.perm ?_ ((List.mergeSort_perm _ _).map _).symm
  refine List.Nodup.sublist (map_filterMap_sublist hkey _) ?_
  exact (glob_joinPath_star_nodup fs d).perm ((List.mergeSort_perm _ _).map pathSplit).symm

/-- For a directory path without metacharacters, the index holds files of that
directory only. -/
theorem directory_of_mem_generateMessageIndex {d : String} (hd : LiteralDirectory d)
    {m : MessageIndexEntry Epoch} (h : m ∈ generateMessageIndexUsingFullDirectoryPath fs d) :
    m.directory = d := by
  rw [generateMessageIndex_eq_indexOfListing fs hd] at h
  obtain ⟨-, -, hdir, -⟩ := mem_messageFiles ((perm_indexOfListing d (fs d)).subset h)
  exact hdir

end Spec

end Pop3sf
