import Pop3sf.UserTable

set_option autoImplicit false

/-!
# The directory multiuser tool refines the table of users

A script calls the methods of `DirectoryMultiuserAdapterTool` one after another:
`add_user`, `change_user_password`, `add_plaintext_message`, `add_email_message`.  Each call
asks of the table of users (`UserTable`) what `ToolCall.toUserOp` says, and `Tracks` says
how the file system holds the table: a directory under the root for each user, whose
password file holds the bcrypt hash of the user's password.

The file system the tool leaves refines the table.  The main results:

* `Tracks.run_ok` and `Tracks.run_error`: a call that succeeds passes the checks of the
  table and leaves a file system that holds the table as the call changes it; a call that
  raises raises what the check of the table raises, or an `OSError`;
* `refinement`: so the tool refines the table, and `directoryMultiuserTool_refines`: so
  for whole scripts, from a root with no users;
* `Tracks.verifyLoginCredentials` and `directoryMultiuserTool_logins`: the multiuser
  adapter over that file system answers every login as the table does.
-/

namespace Pop3sf

namespace DirectoryMultiuserAdapterTool

open DirectoryMultiuserAdapter

variable {Epoch : Type}

/-! ## Scripts of calls -/

/-- A call of a method of the tool, with what the tool draws for it: the salt of
`bcrypt.gensalt()`, the time of the write, and `time.time_ns()` with the draws of
`random.choices` for a message file. -/
inductive ToolCall (Epoch : Type) where
  | addUser (salt : String) (now : Epoch) (username password : String)
  | changeUserPassword (salt : String) (now : Epoch) (username newPassword : String)
  | addPlaintextMessage (username message : String) (timeNs : Nat) (choices : List (Fin 36))
      (now : Epoch)
  | addEmailMessage (username message : String) (timeNs : Nat) (choices : List (Fin 36))
      (now : Epoch)

/-- The call on the tool of the root `directoryPath`. -/
def ToolCall.run (hashpw : String → String → String) (directoryPath : String) :
    ToolCall Epoch → FileSystem Epoch → Except ToolError (FileSystem Epoch)
  | .addUser salt now username password, fs =>
    DirectoryMultiuserAdapterTool.addUser hashpw salt now fs directoryPath username password
  | .changeUserPassword salt now username newPassword, fs =>
    DirectoryMultiuserAdapterTool.changeUserPassword hashpw salt now fs directoryPath username
      newPassword
  | .addPlaintextMessage username message timeNs choices now, fs =>
    DirectoryMultiuserAdapterTool.addPlaintextMessage fs directoryPath username message timeNs
      choices now
  | .addEmailMessage username message timeNs choices now, fs =>
    DirectoryMultiuserAdapterTool.addEmailMessage fs directoryPath username message timeNs
      choices now

/-- What the call asks of the table of users. -/
def ToolCall.toUserOp : ToolCall Epoch → UserOp
  | .addUser salt _ username password => .addUser username password salt
  | .changeUserPassword salt _ username newPassword => .changeUserPassword username newPassword salt
  | .addPlaintextMessage username .. | .addEmailMessage username .. => .addMessage username

/-! ## The file system holds the table -/

/-- What the file system holds of the user `u` under the root `root` is the entry `e` of
the table: the root lists the user's directory just when the table has the user, and the
password file of the directory holds the hash of the user's password as the tool
writes it. -/
def Holds (hashpw : String → String → String) (root : String) (fs : FileSystem Epoch)
    (u : String) (e : Option (String × String)) : Prop :=
  fs.exists root u = e.isSome ∧
    (fs.file (joinPath root u) passwordFileName).map FileInfo.content =
      e.map fun e => writeText (hashpw e.1 e.2)

/-- The file system holds the table for every name the tool accepts. -/
def Tracks (hashpw : String → String → String) (root : String) (users : UserTable)
    (fs : FileSystem Epoch) : Prop :=
  ∀ u, usernameMatches u = true → Holds hashpw root fs u (users u)

variable {hashpw : String → String → String} {root : String}

theorem exists_of_mkdir {fs fs₁ : FileSystem Epoch} {d name : String}
    (h : fs.mkdir d name = some fs₁) : fs.exists d name = false := by
  unfold FileSystem.mkdir at h
  split at h
  · cases h
  · next hex => simpa using hex

theorem exists_writeFile_user {fs fs' : FileSystem Epoch} {v name text : String} {now : Epoch}
    (hv : usernameMatches v = true) (hw : fs.writeFile (joinPath root v) name text now = some fs')
    (u : String) : fs'.exists root u = fs.exists root u := by
  obtain ⟨hne, hslash, -⟩ := usernameMatches_eq_true hv
  rw [FileSystem.exists, FileSystem.writeFile_apply_of_ne hw (joinPath_ne hne hslash).symm]
  rfl

theorem joinPath_user_ne {u v : String} (hu : usernameMatches u = true)
    (hv : usernameMatches v = true) (huv : u ≠ v) : joinPath root u ≠ joinPath root v :=
  fun e => huv (joinPath_inj root (usernameMatches_eq_true hu).2.1
    (usernameMatches_eq_true hv).2.1 e)

/-- A write into the directory of another user keeps what the file system holds of `u`. -/
theorem Holds.writeFile_of_ne_user {fs fs' : FileSystem Epoch} {u v name text : String}
    {now : Epoch} {e : Option (String × String)} (hu : usernameMatches u = true)
    (hv : usernameMatches v = true) (huv : u ≠ v)
    (hw : fs.writeFile (joinPath root v) name text now = some fs')
    (h : Holds hashpw root fs u e) : Holds hashpw root fs' u e := by
  rw [Holds, exists_writeFile_user hv hw, FileSystem.file,
    FileSystem.writeFile_apply_of_ne hw (joinPath_user_ne hu hv huv)]
  exact h

/-- So does a write of a file other than the password file, into any user's directory. -/
theorem Holds.writeFile_of_ne_name {fs fs' : FileSystem Epoch} {u v name text : String}
    {now : Epoch} {e : Option (String × String)} (hu : usernameMatches u = true)
    (hv : usernameMatches v = true) (hn : name ≠ passwordFileName)
    (hw : fs.writeFile (joinPath root v) name text now = some fs')
    (h : Holds hashpw root fs u e) : Holds hashpw root fs' u e := by
  by_cases huv : u = v
  · subst huv
    rw [Holds, exists_writeFile_user hv hw, FileSystem.file_writeFile_of_ne hw (Ne.symm hn)]
    exact h
  · exact h.writeFile_of_ne_user hu hv huv hw

/-- A new directory of another user keeps what the file system holds of `u`. -/
theorem Holds.mkdir_of_ne {fs fs₁ : FileSystem Epoch} {u v : String}
    {e : Option (String × String)} (hu : usernameMatches u = true)
    (hv : usernameMatches v = true) (huv : u ≠ v) (hm : fs.mkdir root v = some fs₁)
    (h : Holds hashpw root fs u e) : Holds hashpw root fs₁ u e := by
  obtain ⟨hne, hslash, -⟩ := usernameMatches_eq_true hu
  rw [Holds, FileSystem.exists_mkdir_of_ne hm huv, FileSystem.file,
    FileSystem.mkdir_apply_of_ne hm (joinPath_ne hne hslash) (joinPath_user_ne hu hv huv)]
  exact h

/-- The password file the tool writes into the directory of a user the root lists holds
the user's new password. -/
theorem holds_writeFile_password {fs fs' : FileSystem Epoch} {v password salt : String}
    {now : Epoch} (hv : usernameMatches v = true) (hex : fs.exists root v = true)
    (hw : fs.writeFile (joinPath root v) passwordFileName (hashpw password salt) now = some fs') :
    Holds hashpw root fs' v (some (password, salt)) := by
  rw [Holds, exists_writeFile_user hv hw, FileSystem.file_writeFile hw]
  exact ⟨hex, rfl⟩

/-! ## One call -/

theorem doesUserExist_eq (fs : FileSystem Epoch) (root username : String) :
    doesUserExist fs root username =
      if usernameMatches username then .ok (fs.exists root username)
      else .error (.forbiddenUsername username) := by
  cases h : usernameMatches username <;>
    simp [doesUserExist, validateUsernameAndGetPerUserDirectoryPath, h, Except.map]

/-- One call that succeeds passes the checks of the table, and the file system it leaves
holds the table the call makes. -/
theorem Tracks.run_ok {users : UserTable} {fs fs' : FileSystem Epoch} {c : ToolCall Epoch}
    (h : Tracks hashpw root users fs) (hc : c.run hashpw root fs = .ok fs') :
    c.toUserOp.check usernameMatches users = .ok () ∧
      Tracks hashpw root (c.toUserOp.apply users) fs' := by
  cases c <;> simp only [ToolCall.run] at hc
  case addUser salt now v password =>
    obtain ⟨hv, fs₁, hm, hw⟩ := addUser_eq_ok hc
    have hnew : (users v).isSome = false := (h v hv).1 ▸ exists_of_mkdir hm
    refine ⟨by simp [ToolCall.toUserOp, UserOp.check, UserOp.username, hv, hnew],
      fun u hu => ?_⟩
    by_cases huv : u = v
    · subst huv
      rw [ToolCall.toUserOp, UserOp.apply, Function.update_same]
      obtain ⟨hne, hslash, -⟩ := usernameMatches_eq_true hv
      exact holds_writeFile_password hv (FileSystem.mkdir_eq_some hm (joinPath_ne hne hslash)).2 hw
    · rw [ToolCall.toUserOp, UserOp.apply, Function.update_noteq huv]
      exact ((h u hu).mkdir_of_ne hu hv huv hm).writeFile_of_ne_user hu hv huv hw
  case changeUserPassword salt now v newPassword =>
    obtain ⟨hv, hex, hw⟩ := changeUserPassword_eq_ok hc
    have hold : (users v).isSome = true := (h v hv).1 ▸ hex
    refine ⟨by simp [ToolCall.toUserOp, UserOp.check, UserOp.username, hv, hold],
      fun u hu => ?_⟩
    by_cases huv : u = v
    · subst huv
      rw [ToolCall.toUserOp, UserOp.apply, Function.update_same]
      exact holds_writeFile_password hv hex hw
    · rw [ToolCall.toUserOp, UserOp.apply, Function.update_noteq huv]
      exact (h u hu).writeFile_of_ne_user hu hv huv hw
  case addPlaintextMessage v _ _ _ _ | addEmailMessage v _ _ _ _ =>
    obtain ⟨hv, hex, hw⟩ := writeMessageToFile_eq_ok hc
    have hold : (users v).isSome = true := (h v hv).1 ▸ hex
    exact ⟨by simp [ToolCall.toUserOp, UserOp.check, UserOp.username, hv, hold], fun u hu =>
      (h u hu).writeFile_of_ne_name hu hv (generateFilename_ne_passwordFileName _ _ _) hw⟩

/-- A call that raises raises what the check of the table raises, or an `OSError`. -/
theorem Tracks.run_error {users : UserTable} {fs : FileSystem Epoch} {c : ToolCall Epoch}
    {e : ToolError} (h : Tracks hashpw root users fs) (hc : c.run hashpw root fs = .error e) :
    e = .osError ∨ c.toUserOp.check usernameMatches users = .error e := by
  cases hu : usernameMatches c.toUserOp.username
  · -- a name outside the class: every method raises `ForbiddenUsernameException` first
    right
    cases c <;> simp_all [ToolCall.run, ToolCall.toUserOp, UserOp.check, UserOp.username, addUser,
      changeUserPassword, addPlaintextMessage, addEmailMessage, writeMessageToFile,
      doesUserExist_eq, validateUsernameAndGetPerUserDirectoryPath, bind, Except.bind, throw,
      throwThe, MonadExceptOf.throw]
  · have hex := (h _ hu).1
    cases c <;> simp only [ToolCall.toUserOp, UserOp.username] at hu hex <;>
      simp only [ToolCall.run, ToolCall.toUserOp, UserOp.check, UserOp.username, addUser,
        changeUserPassword, addPlaintextMessage, addEmailMessage, writeMessageToFile,
        doesUserExist_eq, validateUsernameAndGetPerUserDirectoryPath, bind, Except.bind, throw, throwThe,
        MonadExceptOf.throw, pure, Except.pure, hu, hex, if_true,
        Bool.not_true, Bool.false_eq_true, if_false] at hc ⊢
    case addUser v _ =>
      obtain ⟨hne, hslash, -⟩ := usernameMatches_eq_true hu
      split_ifs at hc ⊢
      · exact .inr (by cases hc; rfl)
      · left
        split at hc
        · next fs₁ hm =>
          simp only [(FileSystem.mkdir_eq_some hm (joinPath_ne hne hslash)).2, Bool.not_true,
            Bool.false_eq_true, if_false] at hc
          split at hc <;> cases hc
          rfl
        · cases hc
          rfl
    all_goals
      split_ifs at hc ⊢
      · exact .inr (by cases hc; rfl)
      · left
        split at hc <;> cases hc
        rfl

/-! ## Whole scripts -/

/-- The tool on the root `root` refines the table of users; its own errors are the
`OSError`s of the file system. -/
def refinement (hashpw : String → String → String) (root : String) :
    UserToolRefinement (FileSystem Epoch) (ToolCall Epoch) where
  run := ToolCall.run hashpw root
  toUserOp := ToolCall.toUserOp
  validName := usernameMatches
  Holds := Tracks hashpw root
  storeError e := e = .osError
  run_ok := Tracks.run_ok
  run_error := Tracks.run_error

theorem tracks_of_empty {fs₀ : FileSystem Epoch}
    (h₀ : ∀ u, usernameMatches u = true →
      fs₀.exists root u = false ∧ fs₀.file (joinPath root u) passwordFileName = none) :
    Tracks hashpw root (fun _ => none) fs₀ := fun u hu =>
  ⟨(h₀ u hu).1, by rw [(h₀ u hu).2]; rfl⟩

end DirectoryMultiuserAdapterTool

open DirectoryMultiuserAdapterTool in
/-- A script of calls of the multiuser tool on a root with no users behaves as the same
calls on the table of users: run to its end, it leaves a file system on which
`does_user_exist` answers from the table the calls make; raising, it raises what the
table's checks raise, or an `OSError`. -/
theorem directoryMultiuserTool_refines {Epoch : Type} {hashpw : String → String → String}
    {root : String} {fs₀ : FileSystem Epoch}
    (h₀ : ∀ u, DirectoryMultiuserAdapter.usernameMatches u = true →
      fs₀.exists root u = false ∧
        fs₀.file (joinPath root u) DirectoryMultiuserAdapter.passwordFileName = none)
    (calls : List (ToolCall Epoch)) :
    (∀ fs, runScript (ToolCall.run hashpw root) fs₀ calls = .ok fs →
      ∃ users, UserTable.run DirectoryMultiuserAdapter.usernameMatches (fun _ => none)
          (calls.map ToolCall.toUserOp) = .ok users ∧
        ∀ u, doesUserExist fs root u =
          if DirectoryMultiuserAdapter.usernameMatches u then .ok (users u).isSome
          else .error (.forbiddenUsername u)) ∧
      ∀ e, runScript (ToolCall.run hashpw root) fs₀ calls = .error e →
        e = .osError ∨ UserTable.run DirectoryMultiuserAdapter.usernameMatches (fun _ => none)
          (calls.map ToolCall.toUserOp) = .error e := by
  refine ⟨fun fs hrun => ?_, fun e hrun => (refinement hashpw root).runScript_error
    (tracks_of_empty h₀) hrun⟩
  obtain ⟨users, hrun', h⟩ := (refinement hashpw root).runScript_ok (tracks_of_empty h₀) hrun
  refine ⟨users, hrun', fun u => ?_⟩
  rw [doesUserExist_eq]
  split_ifs with hu
  · rw [(h u hu).1]
  · rfl

/-! ## Logins -/

namespace DirectoryMultiuserAdapterTool

open DirectoryMultiuserAdapter

variable {Epoch : Type} {hashpw : String → String → String} {root : String}

/-- The multiuser adapter, over a file system that holds the table, answers every login
as the table does, and enters the user's directory just when it lets the user in. -/
theorem Tracks.verifyLoginCredentials {lib : AdapterLibrary Epoch} {users : UserTable}
    {fs : FileSystem Epoch}
    (hclean : ∀ password salt, ∀ c ∈ (hashpw password salt).data, isPyWhitespace c = false)
    (h : Tracks hashpw root users fs) (username password : String) :
    DirectoryMultiuserAdapter.verifyLoginCredentials lib username password
        (DirectoryAdapterBase.new root fs) =
      (UserTable.accepts lib hashpw usernameMatches users username password).map fun b =>
        (b, if b then some (joinPath root username) else none) := by
  unfold DirectoryMultiuserAdapter.verifyLoginCredentials UserTable.accepts
  cases hu : usernameMatches username
  · rfl
  · have hf := (h username hu).2
    simp only [Bool.not_true, Bool.false_eq_true, if_false, DirectoryAdapterBase.new]
    cases hus : users username with
    | none =>
      rw [hus, Option.map_none', Option.map_eq_none'] at hf
      simp [hf, Except.map]
    | some e =>
      obtain ⟨p, salt⟩ := e
      rw [hus, Option.map_some'] at hf
      obtain ⟨info, hinfo, hcontent⟩ := Option.map_eq_some'.1 hf
      have hcr : '\r' ∉ (hashpw p salt).data := fun hc => absurd (hclean p salt _ hc) (by decide)
      simp only [hinfo, hcontent, readText_writeText, translateNewlines_of_not_mem hcr,
        pyStrip_of_forall (hclean p salt)]
      cases lib.checkBcryptPassword password (hashpw p salt) with
      | none => rfl
      | some b => cases b <;> rfl

end DirectoryMultiuserAdapterTool

open DirectoryMultiuserAdapterTool in
/-- From an empty file system, `bob` is added, gets a new password and a message, and is
added again. -/
theorem directoryMultiuserTool_refines_bob :
    let calls : List (ToolCall Nat) := [.addUser "$2b$" 0 "bob" "pw",
      .changeUserPassword "$2b$" 1 "bob" "pw2", .addPlaintextMessage "bob" "hi" 5 [0] 2,
      .addUser "$2b$" 3 "bob" "pw3"]
    (∀ u, DirectoryMultiuserAdapter.usernameMatches u = true →
      FileSystem.exists (fun _ => Directory.empty : FileSystem Nat) "/m" u = false ∧
        FileSystem.file (fun _ => Directory.empty : FileSystem Nat) (joinPath "/m" u)
          DirectoryMultiuserAdapter.passwordFileName = none) ∧
      (∀ fs, runScript (ToolCall.run (fun p salt => salt ++ p) "/m") (fun _ => Directory.empty)
        calls = .ok fs →
        ∃ users, UserTable.run DirectoryMultiuserAdapter.usernameMatches (fun _ => none)
          (calls.map ToolCall.toUserOp) = .ok users ∧
          ∀ u, doesUserExist fs "/m" u =
            if DirectoryMultiuserAdapter.usernameMatches u then .ok (users u).isSome
            else .error (.forbiddenUsername u)) ∧
      ∀ e, runScript (ToolCall.run (fun p salt => salt ++ p) "/m") (fun _ => Directory.empty)
        calls = .error e →
        e = .osError ∨ UserTable.run DirectoryMultiuserAdapter.usernameMatches (fun _ => none)
          (calls.map ToolCall.toUserOp) = .error e :=
  ⟨fun _ _ => ⟨rfl, rfl⟩, @directoryMultiuserTool_refines Nat (fun p salt => salt ++ p) "/m"
    (fun _ => Directory.empty) (fun _ _ => ⟨rfl, rfl⟩) _⟩

open DirectoryMultiuserAdapterTool in
/-- After a script of calls of the multiuser tool on a root with no users, the multiuser
adapter answers every login as the table of users the calls make: a user the calls
added, with the password they last set for the user.  The hypothesis on `hashpw` is what
bcrypt promises of its hashes: no whitespace. -/
theorem directoryMultiuserTool_logins {Epoch : Type} [LinearOrder Epoch]
    {lib : AdapterLibrary Epoch} {hashpw : String → String → String} {root : String}
    {fs₀ fs : FileSystem Epoch} {calls : List (ToolCall Epoch)}
    (hclean : ∀ password salt, ∀ c ∈ (hashpw password salt).data, isPyWhitespace c = false)
    (h₀ : ∀ u, DirectoryMultiuserAdapter.usernameMatches u = true →
      fs₀.exists root u = false ∧
        fs₀.file (joinPath root u) DirectoryMultiuserAdapter.passwordFileName = none)
    (hrun : runScript (ToolCall.run hashpw root) fs₀ calls = .ok fs) :
    ∃ users, UserTable.run DirectoryMultiuserAdapter.usernameMatches (fun _ => none)
          (calls.map ToolCall.toUserOp) = .ok users ∧
      ∀ username password,
        (DirectoryMultiuserAdapter.adapter lib).verifyLoginCredentials username password
            (DirectoryAdapterBase.new root fs) =
          (UserTable.accepts lib hashpw DirectoryMultiuserAdapter.usernameMatches users username
              password).map fun b =>
            (b, { DirectoryAdapterBase.new root fs with
              perUserDirectoryPath := if b then some (joinPath root username) else none }) := by
  obtain ⟨users, hrun', h⟩ := (refinement hashpw root).runScript_ok (tracks_of_empty h₀) hrun
  refine ⟨users, hrun', fun username password => ?_⟩
  show (DirectoryMultiuserAdapter.verifyLoginCredentials lib username password _).map _ = _
  rw [h.verifyLoginCredentials hclean]
  cases UserTable.accepts lib hashpw DirectoryMultiuserAdapter.usernameMatches users username
    password <;> rfl

open DirectoryMultiuserAdapterTool in
/-- `bob` is added with the password `pw`, which is changed to `pw2`, and gets a message;
the adapter then answers the logins of `bob` as the table with `pw2` does. -/
theorem directoryMultiuserTool_logins_bob :
    let lib : AdapterLibrary Nat := ⟨id, toString,
      fun p h => some (h == "$2b$" ++ ⟨p.data.filter fun c => !isPyWhitespace c⟩),
      fun body _ _ _ _ => body⟩
    let hashpw : String → String → String := fun p _ =>
      "$2b$" ++ ⟨p.data.filter fun c => !isPyWhitespace c⟩
    let calls : List (ToolCall Nat) := [.addUser "$2b$" 0 "bob" "pw",
      .changeUserPassword "$2b$" 1 "bob" "pw2", .addPlaintextMessage "bob" "hi" 5 [0] 2]
    ∃ fs, runScript (ToolCall.run hashpw "/m") (fun _ => Directory.empty) calls = .ok fs ∧
      ∃ users, UserTable.run DirectoryMultiuserAdapter.usernameMatches (fun _ => none)
          (calls.map ToolCall.toUserOp) = .ok users ∧
        ∀ username password,
          (DirectoryMultiuserAdapter.adapter lib).verifyLoginCredentials username password
              (DirectoryAdapterBase.new "/m" fs) =
            (UserTable.accepts lib hashpw DirectoryMultiuserAdapter.usernameMatches users username
                password).map fun b =>
              (b, { DirectoryAdapterBase.new "/m" fs with
                perUserDirectoryPath := if b then some (joinPath "/m" username) else none }) := by
  intro lib hashpw calls
  refine ⟨_, rfl, @directoryMultiuserTool_logins Nat _ lib hashpw "/m" (fun _ => Directory.empty)
    _ calls (fun p salt c hc => ?_) (fun _ _ => ⟨rfl, rfl⟩) rfl⟩
  simp only [hashpw, String.data_append, List.mem_append, List.mem_filter] at hc
  rcases hc with hc | ⟨-, hc⟩
  · revert c
    decide
  · simpa using hc

end Pop3sf
