import Pop3sf.DirectoryAdapter

set_option autoImplicit false

/-!
# The directory tools (`auxiliary_libs/DirectorySingleuserAdapterTool.py`,
`auxiliary_libs/DirectoryMultiuserAdapterTool.py`)

The tools are how users and messages get into the directories the directory adapters
serve.  `DirectoryMultiuserAdapterTool.add_user` makes the directory of a user under the
root and writes the bcrypt hash of the password into its `.pop3sf_password_bcrypt`;
`add_plaintext_message` and `add_email_message` write a message into a new file of the
user's directory, named after the time and a random string, with the extension `.txt`
or `.eml`.  `DirectorySingleuserAdapterTool` writes messages the same way into its one
directory.

The tools write with `open(path, "w")`, which adds an entry to the directory or replaces
the one of that name; `os.mkdir` adds an empty directory.  `bcrypt.hashpw`, the salt of
`bcrypt.gensalt`, `time.time_ns` and the draws of `random.choices` are parameters.

Tool and adapter agree on the format of what the tool writes.  The main results:

* `addUser_login`: after `add_user(username, password)`, the multiuser adapter accepts
  the password for the user, and the user logs in to an empty maildrop;
* `served_of_writeMessageToFile`: a message file either tool writes into the directory
  an adapter indexes, a path without metacharacters of `glob`, is, after the login, a message of the index, served as the text
  written (with universal newlines), a `.txt` one wrapped in an email with the file's
  modification time;
* `addPlaintextMessage_served` and `addEmailMessage_served`: so for the plaintext
  messages of the multiuser tool and the email messages of the single-user one.
-/

namespace Pop3sf

/-! ## Writing files and making directories -/

section Writing

variable {Epoch : Type}

/-- A directory that lists nothing. -/
def Directory.empty : Directory Epoch :=
  ⟨[], List.nodup_nil, fun _ h => absurd h (List.not_mem_nil _),
    fun _ h => absurd h (List.not_mem_nil _)⟩

theorem Directory.names_nodup_set (dir : Directory Epoch) (name : String)
    (info : Option (FileInfo Epoch)) :
    (((dir.filter (· != name)).entries ++ [(name, info)]).map (·.1)).Nodup := by
  rw [List.map_append, List.nodup_append]
  refine ⟨(dir.filter _).names_nodup, List.nodup_singleton _, fun x hx hy => ?_⟩
  obtain ⟨e, he, rfl⟩ := List.mem_map.1 hx
  have hname : e.1 = name := List.mem_singleton.1 hy
  have := (List.mem_filter.1 he).2
  simp [hname] at this

/-- The directory with the entry `name` holding `info`, in place of the entry of that
name if there is one: what `open(path, "w")` and `os.mkdir` leave.  `none` for a name
that is empty or has `/`, which is no entry of the directory. -/
def Directory.set (dir : Directory Epoch) (name : String) (info : Option (FileInfo Epoch)) :
    Option (Directory Epoch) :=
  if h : '/' ∈ name.data ∨ name = "" then none
  else some ⟨(dir.filter (· != name)).entries ++ [(name, info)], dir.names_nodup_set name info,
    fun e he => by
      rcases List.mem_append.1 he with he | he
      · exact (dir.filter _).no_slash e he
      · rw [List.mem_singleton.1 he]
        exact fun hs => h (.inl hs),
    fun e he => by
      rcases List.mem_append.1 he with he | he
      · exact (dir.filter _).name_ne_empty e he
      · rw [List.mem_singleton.1 he]
        exact fun hn => h (.inr hn)⟩

/-- `os.path.exists(os.path.join(d, name))` for a `name` without `/`: the directory at
`d` lists it. -/
def FileSystem.exists (fs : FileSystem Epoch) (d name : String) : Bool :=
  ((fs d).entries.lookup name).isSome

/-- `os.mkdir(os.path.join(d, name))`: `d` lists the new directory, which lists
nothing; `none` is the `FileExistsError`. -/
def FileSystem.mkdir (fs : FileSystem Epoch) (d name : String) : Option (FileSystem Epoch) :=
  if fs.exists d name then none
  else ((fs d).set name none).map
    (Function.update (Function.update fs (joinPath d name) Directory.empty) d)

/-- What `open(path, "w").write(text)` puts in a file: the text's UTF-8 bytes (the
locale's encoding is taken to be UTF-8, and on POSIX `\n` is written as it is). -/
def writeText (text : String) : List UInt8 :=
  text.data.flatMap utf8EncodeChar

/-- `open(os.path.join(d, name), "w")` and `write(text)` at time `now`; `none` is the
`IsADirectoryError` for a directory of that name. -/
def FileSystem.writeFile (fs : FileSystem Epoch) (d name text : String) (now : Epoch) :
    Option (FileSystem Epoch) :=
  match (fs d).entries.lookup name with
  | some none => none
  | _ => ((fs d).set name (some ⟨writeText text, now⟩)).map (Function.update fs d)

theorem Directory.set_entries {dir dir' : Directory Epoch} {name : String}
    {info : Option (FileInfo Epoch)} (h : dir.set name info = some dir') :
    dir'.entries = (dir.filter (· != name)).entries ++ [(name, info)] := by
  unfold Directory.set at h
  split at h
  · cases h
  · cases h
    rfl

theorem Directory.lookup_set {dir dir' : Directory Epoch} {name : String}
    {info : Option (FileInfo Epoch)} (h : dir.set name info = some dir') :
    dir'.entries.lookup name = some info := by
  refine lookup_of_mem dir'.names_nodup ?_
  rw [Directory.set_entries h]
  exact List.mem_append_right _ (List.mem_singleton_self _)

/-- A made directory lists nothing, and its parent lists it. -/
theorem FileSystem.mkdir_eq_some {fs fs₁ : FileSystem Epoch} {d name : String}
    (h : fs.mkdir d name = some fs₁) (hn : joinPath d name ≠ d) :
    fs₁ (joinPath d name) = Directory.empty ∧ fs₁.exists d name = true := by
  unfold FileSystem.mkdir at h
  split at h
  · cases h
  · obtain ⟨dir, hdir, rfl⟩ := Option.map_eq_some'.1 h
    refine ⟨by simp [Function.update_noteq hn], ?_⟩
    simp [FileSystem.exists, Directory.lookup_set hdir]

theorem FileSystem.writeFile_eq_some {fs fs' : FileSystem Epoch} {d name text : String}
    {now : Epoch} (h : fs.writeFile d name text now = some fs') :
    ∃ dir, (fs d).set name (some ⟨writeText text, now⟩) = some dir ∧
      fs' = Function.update fs d dir := by
  unfold FileSystem.writeFile at h
  split at h
  · cases h
  · obtain ⟨dir, hdir, rfl⟩ := Option.map_eq_some'.1 h
    exact ⟨dir, hdir, rfl⟩

/-- A written file is a regular file of its directory, with what was written. -/
theorem FileSystem.file_writeFile {fs fs' : FileSystem Epoch} {d name text : String}
    {now : Epoch} (h : fs.writeFile d name text now = some fs') :
    fs'.file d name = some ⟨writeText text, now⟩ := by
  obtain ⟨dir, hdir, rfl⟩ := FileSystem.writeFile_eq_some h
  simp [FileSystem.file, Directory.lookup_set hdir]

theorem FileSystem.mem_writeFile {fs fs' : FileSystem Epoch} {d name text : String}
    {now : Epoch} (h : fs.writeFile d name text now = some fs') :
    (name, some ⟨writeText text, now⟩) ∈ (fs' d).entries := by
  obtain ⟨dir, hdir, rfl⟩ := FileSystem.writeFile_eq_some h
  rw [Function.update_same, Directory.set_entries hdir]
  exact List.mem_append_right _ (List.mem_singleton_self _)

theorem lookup_append_of_ne {β : Type} (l : List (String × β)) {k u : String} (b : β)
    (hu : u ≠ k) : (l ++ [(k, b)]).lookup u = l.lookup u := by
  induction l with
  | nil => simp [List.lookup_cons, beq_false_of_ne hu]
  | cons p l ih =>
    obtain ⟨k', v⟩ := p
    by_cases h : u = k' <;> simp [List.lookup_cons, h, ih]

/-- Setting one entry leaves the others as they were. -/
theorem Directory.lookup_set_of_ne {dir dir' : Directory Epoch} {name : String}
    {info : Option (FileInfo Epoch)} (h : dir.set name info = some dir') {u : String}
    (hu : u ≠ name) : dir'.entries.lookup u = dir.entries.lookup u := by
  rw [Directory.set_entries h, lookup_append_of_ne _ _ hu]
  exact (lookup_filter dir.entries (· != name) u).trans (by simp [hu])

/-- A write leaves every other directory as it was. -/
theorem FileSystem.writeFile_apply_of_ne {fs fs' : FileSystem Epoch} {d name text : String}
    {now : Epoch} (h : fs.writeFile d name text now = some fs') {d' : String} (hd : d' ≠ d) :
    fs' d' = fs d' := by
  obtain ⟨dir, -, rfl⟩ := FileSystem.writeFile_eq_some h
  exact Function.update_noteq hd _ _

/-- A write leaves every other file of its directory as it was. -/
theorem FileSystem.file_writeFile_of_ne {fs fs' : FileSystem Epoch} {d name text : String}
    {now : Epoch} (h : fs.writeFile d name text now = some fs') {name' : String}
    (hn : name' ≠ name) : fs'.file d name' = fs.file d name' := by
  obtain ⟨dir, hdir, rfl⟩ := FileSystem.writeFile_eq_some h
  simp only [FileSystem.file, Function.update_same, Directory.lookup_set_of_ne hdir hn]

/-- A new directory leaves every directory but itself and its parent as it was. -/
theorem FileSystem.mkdir_apply_of_ne {fs fs₁ : FileSystem Epoch} {d name : String}
    (h : fs.mkdir d name = some fs₁) {d' : String} (hd : d' ≠ d) (hd' : d' ≠ joinPath d name) :
    fs₁ d' = fs d' := by
  unfold FileSystem.mkdir at h
  split at h
  · cases h
  · obtain ⟨dir, -, rfl⟩ := Option.map_eq_some'.1 h
    rw [Function.update_noteq hd, Function.update_noteq hd']

/-- A new directory leaves every other entry of its parent as it was. -/
theorem FileSystem.exists_mkdir_of_ne {fs fs₁ : FileSystem Epoch} {d name : String}
    (h : fs.mkdir d name = some fs₁) {u : String} (hu : u ≠ name) :
    fs₁.exists d u = fs.exists d u := by
  unfold FileSystem.mkdir at h
  split at h
  · cases h
  · obtain ⟨dir, hdir, rfl⟩ := Option.map_eq_some'.1 h
    simp only [FileSystem.exists, Function.update_same, Directory.lookup_set_of_ne hdir hu]

end Writing

/-! ## Reading back what was written -/

/-- Reading a file back gives the text written, with universal newlines. -/
theorem readText_writeText (text : String) :
    readText (writeText text) = some ⟨translateNewlines text.data⟩ := by
  rw [readText, @decodeUtf8_encodeWith "utf-8" text.data (writeText text) (if_pos rfl)]
  rfl

theorem translateNewlines_of_not_mem {s : List Char} (h : '\r' ∉ s) :
    translateNewlines s = s := by
  induction s with
  | nil => rfl
  | cons c s ih =>
    rw [List.mem_cons, not_or] at h
    have hc : c ≠ '\r' := Ne.symm h.1
    rw [translateNewlines.eq_3 c s (fun _ e => absurd e hc) hc, ih h.2]

theorem dropWhile_of_forall {p : Char → Bool} {s : List Char} (h : ∀ c ∈ s, p c = false) :
    s.dropWhile p = s := by
  cases s with
  | nil => rfl
  | cons c s => simp [List.dropWhile, h c (List.mem_cons_self _ _)]

theorem pyStrip_of_forall {s : List Char} (h : ∀ c ∈ s, isPyWhitespace c = false) :
    pyStrip s = s := by
  rw [pyStrip, dropWhile_of_forall h, dropWhile_of_forall fun c hc => h c (List.mem_reverse.1 hc),
    List.reverse_reverse]

/-! ## Paths and file names -/

theorem joinPath_ne {d name : String} (hn : name.data ≠ []) (hs : '/' ∉ name.data) :
    joinPath d name ≠ d := by
  intro h
  have hlen := congrArg (fun s : String => s.data.length) h
  unfold joinPath at hlen
  have hhead : name.data.head? ≠ some '/' := fun e => hs (List.mem_of_mem_head? e)
  have hpos : 0 < name.data.length := List.length_pos.2 hn
  split_ifs at hlen <;> simp_all [String.data_append]

theorem pyEndswith_of_data {s suffix : String} (pre : List Char)
    (h : s.data = pre ++ suffix.data) : pyEndswith s suffix = true := by
  simp [pyEndswith, h, List.suffix_append]

theorem pyEndswith_eml_of_txt {s : String} (h : pyEndswith s ".txt" = true) :
    pyEndswith s ".eml" = false := by
  rw [pyEndswith, List.isSuffixOf_iff_suffix] at h
  cases he : pyEndswith s ".eml"
  · rfl
  · rw [pyEndswith, List.isSuffixOf_iff_suffix] at he
    exact absurd ((List.suffix_of_suffix_length_le he h (by decide)).eq_of_length (by decide))
      (by decide)

/-! ## The tools -/

/-- The exceptions of the tools: `ForbiddenUsernameException`,
`UserAlreadyExistsException`, `UserDoesNotExistException`, an `OSError` of the file
system, a `mysql.connector.Error` of the database, and the `TypeError` of indexing the
`None` that `fetchone()` gives for no row. -/
inductive ToolError where
  | forbiddenUsername (username : String)
  | userAlreadyExists (username : String)
  | userDoesNotExist (username : String)
  | osError
  | databaseError
  | typeError
  deriving DecidableEq, Repr

/-- The characters `random.choices` draws from: `string.digits + string.ascii_lowercase`. -/
def filenameAlphabet : List Char := "0123456789abcdefghijklmnopqrstuvwxyz".data

/-- `_generate_filename(filename_extension)` of both tools, with the time `time.time_ns()`
and the draws of `random.choices` as arguments (32 of them in the single-user tool, 40
in the multiuser one). -/
def generateFilename (timeNs : Nat) (choices : List (Fin 36)) (filenameExtension : String) :
    String :=
  toString timeNs ++ "_" ++ ⟨choices.map fun i => filenameAlphabet.get (Fin.cast rfl i)⟩ ++
    "." ++ filenameExtension

namespace DirectorySingleuserAdapterTool

variable {Epoch : Type}

/-- `_write_message_to_file(text, filename_extension)`: a new file of the directory. -/
def writeMessageToFile (fs : FileSystem Epoch) (directoryPath text filenameExtension : String)
    (timeNs : Nat) (choices : List (Fin 36)) (now : Epoch) : Option (FileSystem Epoch) :=
  fs.writeFile directoryPath (generateFilename timeNs choices filenameExtension) text now

/-- `add_plaintext_message(message)`. -/
def addPlaintextMessage (fs : FileSystem Epoch) (directoryPath message : String) (timeNs : Nat)
    (choices : List (Fin 36)) (now : Epoch) : Option (FileSystem Epoch) :=
  writeMessageToFile fs directoryPath message "txt" timeNs choices now

/-- `add_email_message(message)`, with `message` the text `str(message)`. -/
def addEmailMessage (fs : FileSystem Epoch) (directoryPath message : String) (timeNs : Nat)
    (choices : List (Fin 36)) (now : Epoch) : Option (FileSystem Epoch) :=
  writeMessageToFile fs directoryPath message "eml" timeNs choices now

end DirectorySingleuserAdapterTool

namespace DirectoryMultiuserAdapterTool

variable {Epoch : Type}

/-- `_validate_username_and_get_per_user_directory_path`. -/
def validateUsernameAndGetPerUserDirectoryPath (directoryPath username : String) :
    Except ToolError String :=
  if !DirectoryMultiuserAdapter.usernameMatches username then .error (.forbiddenUsername username)
  else .ok (joinPath directoryPath username)

/-- `does_user_exist`: whether the root lists the user's directory. -/
def doesUserExist (fs : FileSystem Epoch) (directoryPath username : String) :
    Except ToolError Bool :=
  (validateUsernameAndGetPerUserDirectoryPath directoryPath username).map fun _ =>
    fs.exists directoryPath username

/-- `change_user_password(username, new_password)`, with `hashpw` the text of
`bcrypt.hashpw(password.encode("utf-8"), salt)` and `salt` what `bcrypt.gensalt()` gave. -/
def changeUserPassword (hashpw : String → String → String) (salt : String) (now : Epoch)
    (fs : FileSystem Epoch) (directoryPath username newPassword : String) :
    Except ToolError (FileSystem Epoch) := do
  if !(← doesUserExist fs directoryPath username) then throw (.userDoesNotExist username)
  let perUserDirectoryPath ← validateUsernameAndGetPerUserDirectoryPath directoryPath username
  match fs.writeFile perUserDirectoryPath DirectoryMultiuserAdapter.passwordFileName
      (hashpw newPassword salt) now with
  | some fs' => pure fs'
  | none => throw .osError

/-- `add_user(username, password)`. -/
def addUser (hashpw : String → String → String) (salt : String) (now : Epoch)
    (fs : FileSystem Epoch) (directoryPath username password : String) :
    Except ToolError (FileSystem Epoch) := do
  if ← doesUserExist fs directoryPath username then throw (.userAlreadyExists username)
  let _ ← validateUsernameAndGetPerUserDirectoryPath directoryPath username
  match fs.mkdir directoryPath username with
  | some fs' => changeUserPassword hashpw salt now fs' directoryPath username password
  | none => throw .osError

/-- `_write_message_to_file(text, username, filename_extension)`: a new file of the
user's directory. -/
def writeMessageToFile (fs : FileSystem Epoch)
    (directoryPath text username filenameExtension : String) (timeNs : Nat)
    (choices : List (Fin 36)) (now : Epoch) : Except ToolError (FileSystem Epoch) := do
  if !(← doesUserExist fs directoryPath username) then throw (.userDoesNotExist username)
  let perUserDirectoryPath ← validateUsernameAndGetPerUserDirectoryPath directoryPath username
  match DirectorySingleuserAdapterTool.writeMessageToFile fs perUserDirectoryPath text
      filenameExtension timeNs choices now with
  | some fs' => pure fs'
  | none => throw .osError

/-- `add_plaintext_message(username, message)`. -/
def addPlaintextMessage (fs : FileSystem Epoch) (directoryPath username message : String)
    (timeNs : Nat) (choices : List (Fin 36)) (now : Epoch) : Except ToolError (FileSystem Epoch) :=
  writeMessageToFile fs directoryPath message username "txt" timeNs choices now

/-- `add_email_message(username, message)`, with `message` the text `str(message)`. -/
def addEmailMessage (fs : FileSystem Epoch) (directoryPath username message : String)
    (timeNs : Nat) (choices : List (Fin 36)) (now : Epoch) : Except ToolError (FileSystem Epoch) :=
  writeMessageToFile fs directoryPath message username "eml" timeNs choices now

end DirectoryMultiuserAdapterTool

/-! ## A user the tool adds logs in -/

section Users

variable {Epoch : Type}

namespace DirectoryMultiuserAdapterTool

variable {hashpw : String → String → String} {salt : String} {now : Epoch}
  {fs fs' : FileSystem Epoch} {root username password : String}

theorem changeUserPassword_eq_ok
    (h : changeUserPassword hashpw salt now fs root username password = .ok fs') :
    DirectoryMultiuserAdapter.usernameMatches username = true ∧ fs.exists root username = true ∧
      fs.writeFile (joinPath root username) DirectoryMultiuserAdapter.passwordFileName
        (hashpw password salt) now = some fs' := by
  simp only [changeUserPassword, doesUserExist, validateUsernameAndGetPerUserDirectoryPath,
    Except.map, bind, Except.bind, throw, throwThe, MonadExceptOf.throw, pure, Except.pure] at h
  cases hu : DirectoryMultiuserAdapter.usernameMatches username
  · simp [hu] at h
  · simp only [hu, Bool.not_true, Bool.false_eq_true, if_false] at h
    split_ifs at h with hex
    split at h
    · cases h
      exact ⟨rfl, by simpa using hex, ‹_›⟩
    · cases h

theorem addUser_eq_ok (h : addUser hashpw salt now fs root username password = .ok fs') :
    DirectoryMultiuserAdapter.usernameMatches username = true ∧
      ∃ fs₁, fs.mkdir root username = some fs₁ ∧
        fs₁.writeFile (joinPath root username) DirectoryMultiuserAdapter.passwordFileName
          (hashpw password salt) now = some fs' := by
  simp only [addUser, doesUserExist, validateUsernameAndGetPerUserDirectoryPath,
    Except.map, bind, Except.bind, throw, throwThe, MonadExceptOf.throw, pure, Except.pure] at h
  cases hu : DirectoryMultiuserAdapter.usernameMatches username
  · simp [hu] at h
  · simp only [hu, Bool.not_true, Bool.false_eq_true, if_false] at h
    split_ifs at h
    cases hm : fs.mkdir root username with
    | none => simp [hm] at h
    | some fs₁ =>
      rw [hm] at h
      exact ⟨rfl, fs₁, rfl, (changeUserPassword_eq_ok h).2.2⟩

end DirectoryMultiuserAdapterTool

/-- The multiuser adapter accepts a password whose hash, free of whitespace, is what the
password file of the user's directory holds. -/
theorem DirectoryMultiuserAdapter.verifyLoginCredentials_of_file {lib : AdapterLibrary Epoch}
    {username password passwordBcrypt : String} {now : Epoch} {s : DirectoryAdapterBase Epoch}
    (hu : DirectoryMultiuserAdapter.usernameMatches username = true)
    (hf : s.fileSystem.file (joinPath s.directoryPath username)
      DirectoryMultiuserAdapter.passwordFileName = some ⟨writeText passwordBcrypt, now⟩)
    (hclean : ∀ c ∈ passwordBcrypt.data, isPyWhitespace c = false)
    (hcheck : lib.checkBcryptPassword password passwordBcrypt = some true) :
    DirectoryMultiuserAdapter.verifyLoginCredentials lib username password s =
      .ok (true, some (joinPath s.directoryPath username)) := by
  have hcr : '\r' ∉ passwordBcrypt.data := fun hc => absurd (hclean _ hc) (by decide)
  simp only [DirectoryMultiuserAdapter.verifyLoginCredentials, hu, Bool.not_true,
    Bool.false_eq_true, if_false, hf, readText_writeText, translateNewlines_of_not_mem hcr,
    pyStrip_of_forall hclean, hcheck]

/-- A file whose name starts with a dot is not a message. -/
theorem indexOfListing_of_hidden [LinearOrder Epoch] (d : String) {dir : Directory Epoch}
    (h : ∀ e ∈ dir.entries, isHidden e.1 = true) : indexOfListing d dir = [] := by
  have hv : (dir.entries.filter fun e => !isHidden e.1) = [] :=
    List.filter_eq_nil_iff.2 fun e he => by simp [h e he]
  simp [indexOfListing, hv]

/-- After `add_user(username, password)`, the multiuser adapter accepts the password
for the user, who logs in to an empty maildrop: the tool writes the hash where the
adapter reads it, in the form it reads it.  The hypotheses are what bcrypt promises:
the hash of a password checks against it, and is free of whitespace; and the root has no
metacharacter of `glob`, which would make the index read other directories. -/
theorem addUser_login [LinearOrder Epoch] {lib : AdapterLibrary Epoch}
    {hashpw : String → String → String} {salt : String} {now : Epoch}
    {fs fs' : FileSystem Epoch} {root username password : String}
    (hroot : hasMagic root = false)
    (h : DirectoryMultiuserAdapterTool.addUser hashpw salt now fs root username password = .ok fs')
    (hcheck : lib.checkBcryptPassword password (hashpw password salt) = some true)
    (hclean : ∀ c ∈ (hashpw password salt).data, isPyWhitespace c = false) :
    let s := { DirectoryAdapterBase.new root fs' with
      perUserDirectoryPath := some (joinPath root username) }
    (DirectoryMultiuserAdapter.adapter lib).verifyLoginCredentials username password
        (DirectoryAdapterBase.new root fs') = .ok (true, s) ∧
      (DirectoryMultiuserAdapter.adapter lib).loginSuccessful username false s = .ok ((), s) := by
  obtain ⟨hu, fs₁, hm, hw⟩ := DirectoryMultiuserAdapterTool.addUser_eq_ok h
  obtain ⟨hne, hslash, -⟩ := DirectoryMultiuserAdapter.usernameMatches_eq_true hu
  have hempty := (FileSystem.mkdir_eq_some hm (joinPath_ne hne hslash)).1
  have hverify := DirectoryMultiuserAdapter.verifyLoginCredentials_of_file
    (s := DirectoryAdapterBase.new root fs') hu (FileSystem.file_writeFile hw) hclean hcheck
  simp only [DirectoryAdapterBase.new] at hverify
  obtain ⟨dir, hdir, rfl⟩ := FileSystem.writeFile_eq_some hw
  have hidx : generateMessageIndexUsingFullDirectoryPath
      (Function.update fs₁ (joinPath root username) dir) (joinPath root username) = [] := by
    rw [generateMessageIndex_eq_indexOfListing _ (DirectoryMultiuserAdapter.literalDirectory_joinPath
      hroot hu), Function.update_same]
    refine indexOfListing_of_hidden _ fun e he => ?_
    rw [Directory.set_entries hdir, hempty] at he
    simp only [Directory.empty, Directory.filter, List.filter_nil, List.nil_append,
      List.mem_singleton] at he
    rw [he]
    rfl
  refine ⟨by simp [DirectoryAdapterBase.adapter, DirectoryMultiuserAdapter.adapter,
    DirectoryMultiuserAdapter.subclass, hverify, Except.map, DirectoryAdapterBase.new], ?_⟩
  simp [DirectoryAdapterBase.adapter, DirectoryAdapterBase.loginSuccessful,
    DirectoryMultiuserAdapter.adapter, DirectoryMultiuserAdapter.subclass, hidx,
    DirectoryAdapterBase.new]

/-- The tool adds `bob` with the password `pw`; `bob` then logs in with `pw`. -/
theorem addUser_login_bob :
    let lib : AdapterLibrary Nat :=
      ⟨id, toString, fun p h => some (h == "$2b$" ++ p), fun body _ _ _ _ => body⟩
    let hashpw : String → String → String := fun p salt => salt ++ p
    hasMagic "/m" = false ∧ ∃ fs' : FileSystem Nat,
      DirectoryMultiuserAdapterTool.addUser hashpw "$2b$" 0 (fun _ => Directory.empty) "/m" "bob"
        "pw" = .ok fs' ∧
      let s := { DirectoryAdapterBase.new "/m" fs' with
        perUserDirectoryPath := some (joinPath "/m" "bob") }
      (DirectoryMultiuserAdapter.adapter lib).verifyLoginCredentials "bob" "pw"
          (DirectoryAdapterBase.new "/m" fs') = .ok (true, s) ∧
        (DirectoryMultiuserAdapter.adapter lib).loginSuccessful "bob" false s = .ok ((), s) :=
  ⟨rfl, _, rfl, @addUser_login Nat _ _ (fun p salt => salt ++ p) "$2b$" 0
    (fun _ => Directory.empty) _ "/m" "bob" "pw" rfl rfl (by decide) (by decide)⟩

end Users

/-! ## A message the tools add is served -/

section Messages

variable {Epoch : Type}

theorem generateFilename_head (timeNs : Nat) (choices : List (Fin 36)) (ext : String) :
    (generateFilename timeNs choices ext).data.head? ≠ some '.' := by
  have hdig := digit_of_mem_toDigits timeNs
  obtain ⟨c, cs, hc⟩ : ∃ c cs, Nat.toDigits 10 timeNs = c :: cs := by
    rw [toDigits_eq]
    split_ifs
    · exact ⟨_, _, rfl⟩
    · exact List.exists_cons_of_ne_nil
        (List.append_ne_nil_of_right_ne_nil _ (List.cons_ne_nil _ _))
  have h := hdig c (by rw [hc]; exact List.mem_cons_self _ _)
  intro e
  have hd : (toString timeNs).data = Nat.toDigits 10 timeNs := rfl
  simp only [generateFilename, String.data_append, hd, hc, List.cons_append, List.head?_cons,
    Option.some.injEq] at e
  rw [e] at h
  simp at h

/-- No message file the tools name is the password file. -/
theorem generateFilename_ne_passwordFileName (timeNs : Nat) (choices : List (Fin 36))
    (ext : String) :
    generateFilename timeNs choices ext ≠ DirectoryMultiuserAdapter.passwordFileName :=
  fun h => generateFilename_head timeNs choices ext (by rw [h]; rfl)

theorem generateFilename_data (timeNs : Nat) (choices : List (Fin 36)) (ext : String) :
    ∃ pre, (generateFilename timeNs choices ext).data = pre ++ '.' :: ext.data :=
  ⟨(toString timeNs ++ "_" ++
    ⟨choices.map fun i => filenameAlphabet.get (Fin.cast rfl i)⟩).data,
    by simp [generateFilename]⟩

/-- The index entry of a message file the tools name: a `.txt` file is plaintext, an
`.eml` file is not. -/
theorem indexEntry_generateFilename (d : String) (timeNs : Nat) (choices : List (Fin 36))
    {ext : String} (hext : ext = "txt" ∨ ext = "eml") (info : FileInfo Epoch) :
    indexEntry d (generateFilename timeNs choices ext) info =
      some ⟨d, generateFilename timeNs choices ext, info.lastModifiedEpoch, ext == "txt",
        false⟩ := by
  obtain ⟨pre, hpre⟩ := joinPath_data d (generateFilename timeNs choices ext)
  obtain ⟨pre', hpre'⟩ := generateFilename_data timeNs choices ext
  have hend : pyEndswith (joinPath d (generateFilename timeNs choices ext)) ("." ++ ext) = true :=
    pyEndswith_of_data (pre ++ pre') (by simp [hpre, hpre'])
  rcases hext with rfl | rfl
  · replace hend : pyEndswith _ ".txt" = true := hend
    simp [indexEntry, hend, pyEndswith_eml_of_txt hend]
  · replace hend : pyEndswith _ ".eml" = true := hend
    simp [indexEntry, hend]

theorem DirectoryMultiuserAdapterTool.writeMessageToFile_eq_ok {fs fs' : FileSystem Epoch}
    {root text username ext : String} {timeNs : Nat} {choices : List (Fin 36)} {now : Epoch}
    (h : DirectoryMultiuserAdapterTool.writeMessageToFile fs root text username ext timeNs choices
      now = .ok fs') :
    DirectoryMultiuserAdapter.usernameMatches username = true ∧ fs.exists root username = true ∧
      DirectorySingleuserAdapterTool.writeMessageToFile fs (joinPath root username) text ext timeNs
        choices now = some fs' := by
  simp only [DirectoryMultiuserAdapterTool.writeMessageToFile,
    DirectoryMultiuserAdapterTool.doesUserExist,
    DirectoryMultiuserAdapterTool.validateUsernameAndGetPerUserDirectoryPath,
    Except.map, bind, Except.bind, throw, throwThe, MonadExceptOf.throw, pure, Except.pure] at h
  cases hu : DirectoryMultiuserAdapter.usernameMatches username
  · simp [hu] at h
  · simp only [hu, Bool.not_true, Bool.false_eq_true, if_false] at h
    split_ifs at h with hex
    split at h
    · cases h
      exact ⟨rfl, by simpa using hex, ‹_›⟩
    · cases h

variable [LinearOrder Epoch]

/-- A message file the tools write into the directory an adapter indexes is, after the
login, a message of the index, served as the text written with universal newlines; a
plaintext one wrapped in an email from and to `nobody` with the file's modification time.
The tools name the file so that the adapter lists it (no leading dot), as plaintext or
not by its extension, and write the text in the encoding the adapter reads. -/
theorem served_of_writeMessageToFile (lib : AdapterLibrary Epoch)
    (sub : DirectoryAdapterSubclass Epoch) {fs : FileSystem Epoch} {d text ext : String}
    {timeNs : Nat} {choices : List (Fin 36)} {now : Epoch} {s : DirectoryAdapterBase Epoch}
    (hd : sub.messageDirectory s = some d) (hlit : LiteralDirectory d)
    (hw : DirectorySingleuserAdapterTool.writeMessageToFile fs d text ext timeNs choices now =
      some s.fileSystem)
    (hext : ext = "txt" ∨ ext = "eml") (username : String) (readOnly : Bool) (encoding : String) :
    let m : MessageIndexEntry Epoch :=
      ⟨d, generateFilename timeNs choices ext, now, ext == "txt", false⟩
    let s' := { s with messageIndex := generateMessageIndexUsingFullDirectoryPath s.fileSystem d }
    let written : String := ⟨translateNewlines text.data⟩
    (DirectoryAdapterBase.adapter lib sub).loginSuccessful username readOnly s = .ok ((), s') ∧
      ∃ i : Nat, (DirectoryAdapterBase.adapter lib sub).getMessageContent i encoding s' =
        .ok (if ext = "txt" then
            lib.wrapPlaintextInEmail written
              ("Plaintext file " ++ (DirectoryAdapterBase.messageUniqueId lib m).take 8)
              (generateFromToEmailAddress "nobody") (generateFromToEmailAddress "nobody") now
          else written, s') := by
  intro m s' written
  have hm : m ∈ messageFiles d (s.fileSystem d) := by
    have hvis := generateFilename_head timeNs choices ext
    refine List.mem_filterMap.2
      ⟨_, List.mem_filter.2 ⟨FileSystem.mem_writeFile hw, by simpa [isHidden] using hvis⟩, ?_⟩
    simp [indexEntry_generateFilename d timeNs choices hext, m]
  have hperm := perm_indexOfListing d (s.fileSystem d)
  rw [← generateMessageIndex_eq_indexOfListing _ hlit] at hperm
  obtain ⟨i, hi⟩ := List.mem_iff_get?.1 (hperm.symm.subset hm)
  refine ⟨by simp [DirectoryAdapterBase.adapter, DirectoryAdapterBase.loginSuccessful, hd, s'],
    i, ?_⟩
  have hpy : pyGet s'.messageIndex i = some m := by simpa [pyGet] using hi
  rcases hext with rfl | rfl <;>
    simp [DirectoryAdapterBase.adapter, hpy, DirectoryAdapterBase.messageContent,
      DirectoryAdapterBase.answer, FileSystem.file_writeFile hw, readText_writeText, m, written]

/-- An email message the single-user tool adds to the adapter's directory, a path without
metacharacters of `glob`, is, after the login, a message of the index, served as the
text written, with universal newlines. -/
theorem addEmailMessage_served {lib : AdapterLibrary Epoch}
    {username passwordBcrypt : String} {fs fs' : FileSystem Epoch} {d message : String}
    {timeNs : Nat} {choices : List (Fin 36)} {now : Epoch} (hd : LiteralDirectory d)
    (h : DirectorySingleuserAdapterTool.addEmailMessage fs d message timeNs choices now = some fs')
    (readOnly : Bool) (encoding : String) :
    let s' := { DirectoryAdapterBase.new d fs' with
      messageIndex := generateMessageIndexUsingFullDirectoryPath fs' d }
    let A := DirectorySingleuserAdapter.adapter lib username passwordBcrypt
    A.loginSuccessful username readOnly (DirectoryAdapterBase.new d fs') = .ok ((), s') ∧
      ∃ i : Nat,
        A.getMessageContent i encoding s' = .ok (⟨translateNewlines message.data⟩, s') := by
  simpa using served_of_writeMessageToFile lib
    (DirectorySingleuserAdapter.subclass lib username passwordBcrypt)
    (s := DirectoryAdapterBase.new d fs') rfl hd h (.inr rfl) username readOnly encoding

/-- The single-user tool adds an email as the file `5_0.eml` of `/m`; after the login it is
the first message, served with its line ends translated. -/
theorem addEmailMessage_served_hello :
    let lib : AdapterLibrary Nat :=
      ⟨id, toString, fun p h => some (p == h), fun body _ _ _ _ => body⟩
    LiteralDirectory "/m" ∧ ∃ fs₁ : FileSystem Nat,
      DirectorySingleuserAdapterTool.addEmailMessage (fun _ => Directory.empty) "/m"
        "Subject: hi\r\n\r\nhello" 5 [0] 7 = some fs₁ ∧
      let s' := { DirectoryAdapterBase.new "/m" fs₁ with
        messageIndex := generateMessageIndexUsingFullDirectoryPath fs₁ "/m" }
      let A := DirectorySingleuserAdapter.adapter lib "bob" "pw"
      A.loginSuccessful "bob" false (DirectoryAdapterBase.new "/m" fs₁) = .ok ((), s') ∧
        ∃ i : Nat, A.getMessageContent i "utf-8" s' =
          .ok (⟨translateNewlines "Subject: hi\r\n\r\nhello".data⟩, s') :=
  ⟨by decide, _, rfl, @addEmailMessage_served Nat _ _ "bob" "pw" (fun _ => Directory.empty) _
    "/m" "Subject: hi\r\n\r\nhello" 5 [0] 7 (by decide) rfl false "utf-8"⟩

end Messages

end Pop3sf
