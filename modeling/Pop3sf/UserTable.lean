import Pop3sf.DirectoryTools

set_option autoImplicit false

/-!
# The table of users the multiuser tools keep

Both multiuser tools, `DirectoryMultiuserAdapterTool` and `MySQLMultiuserAdapterTool`, keep a
table of users: each user has the password the tool was last given for the user, and what
the tool stores is its bcrypt hash, made with a salt.  The methods of both ask the same of
the table (`UserOp`), make the same checks before they write (`UserOp.check`: the user is
new for `add_user`, is there for the other methods; the directory tool checks the user name
first), and change the table in the same way (`UserOp.apply`).  A multiuser adapter answers
a login as the table says (`UserTable.accepts`).

This is the level of design both tools share.  `UserToolRefinement` says what it takes for
a tool to refine it, one call at a time, and `UserToolRefinement.runScript_ok` and
`runScript_error` lift that to whole scripts; `DirectoryUsers` and `MySQLUsers` prove that
each tool does.  `UserTable.run_eq_ok_apply` says what the table holds after a script: for
each user, the password the last call for the user set.
-/

namespace Pop3sf

/-- What a multiuser tool keeps of each user name: the password it was last given, with the
salt of its hash, or nothing for a name it never added. -/
abbrev UserTable := String → Option (String × String)

/-- What a call of a multiuser tool asks of the table of users. -/
inductive UserOp where
  | addUser (username password salt : String)
  | changeUserPassword (username newPassword salt : String)
  | addMessage (username : String)
  deriving DecidableEq, Repr

namespace UserOp

/-- The user the call is for. -/
def username : UserOp → String
  | addUser username _ _ | changeUserPassword username _ _ | addMessage username => username

/-- The checks a tool makes before it writes, in their order: the user name, for a tool
that accepts only the names `validName` does, then that the user is new (`add_user`) or is
there (the other methods). -/
def check (validName : String → Bool) (users : UserTable) (op : UserOp) :
    Except ToolError Unit :=
  if !validName op.username then .error (.forbiddenUsername op.username)
  else match op with
    | addUser .. =>
      if (users op.username).isSome then .error (.userAlreadyExists op.username) else .ok ()
    | _ => if !(users op.username).isSome then .error (.userDoesNotExist op.username) else .ok ()

/-- What a call does to the table: `add_user` and `change_user_password` set the password
of the user; a message leaves the table as it is. -/
def apply : UserOp → UserTable → UserTable
  | addUser username password salt, users =>
    Function.update users username (some (password, salt))
  | changeUserPassword username newPassword salt, users =>
    Function.update users username (some (newPassword, salt))
  | addMessage _, users => users

/-- The password, with its salt, the call sets for the user `u`, if it sets one. -/
def setFor (u : String) : UserOp → Option (String × String)
  | addUser v password salt | changeUserPassword v password salt =>
    if v = u then some (password, salt) else none
  | addMessage _ => none

theorem apply_apply (op : UserOp) (users : UserTable) (u : String) :
    op.apply users u = (op.setFor u).or (users u) := by
  cases op with
  | addUser v _ _ | changeUserPassword v _ _ =>
    by_cases h : u = v
    · subst h
      simp [apply, setFor]
    · simp [apply, setFor, Function.update_noteq h, Ne.symm h]
  | addMessage _ => rfl

end UserOp

namespace UserTable

/-- A script on the table: the calls one after another, until a check fails. -/
def run (validName : String → Bool) (users : UserTable) :
    List UserOp → Except ToolError UserTable
  | [] => .ok users
  | op :: ops => do op.check validName users; run validName (op.apply users) ops

theorem getLast?_cons_eq_or {α : Type} (a : α) (l : List α) :
    (a :: l).getLast? = l.getLast?.or (some a) := by
  cases l with
  | nil => rfl
  | cons b l => simp [List.getLast?_cons_cons, List.getLast?_eq_getLast _ (List.cons_ne_nil b l)]

/-- After a script runs to its end, each user has the password the last call that set one
for the user set, or the one the user had. -/
theorem run_eq_ok_apply {validName : String → Bool} {users users' : UserTable}
    {ops : List UserOp} (h : run validName users ops = .ok users') (u : String) :
    users' u = (ops.filterMap (UserOp.setFor u)).getLast?.or (users u) := by
  induction ops generalizing users with
  | nil =>
    cases h
    rfl
  | cons op ops ih =>
    cases hc : op.check validName users with
    | error e => simp [run, hc, bind, Except.bind] at h
    | ok _ =>
      rw [ih (by simpa [run, hc, bind, Except.bind] using h), UserOp.apply_apply]
      cases hs : op.setFor u with
      | none => simp [List.filterMap_cons, hs]
      | some e => simp [List.filterMap_cons, hs, getLast?_cons_eq_or, Option.or_assoc]

/-- The table keeps the password a user was last given. -/
example : (run (fun _ => true) (fun _ => none) [.addUser "bob" "pw" "s",
    .changeUserPassword "bob" "pw2" "s"]).map (· "bob") = .ok (some ("pw2", "s")) := rfl

/-- Whether the table lets the user in with the password: a name `validName` accepts, of
a user of the table, whose password's hash checks against the password.  A check that
raises is the adapter's error. -/
def accepts {Epoch : Type} (lib : AdapterLibrary Epoch) (hashpw : String → String → String)
    (validName : String → Bool) (users : UserTable) (username password : String) :
    Except AdapterFault Bool :=
  if !validName username then .ok false
  else match users username with
    | none => .ok false
    | some (p, salt) =>
      match lib.checkBcryptPassword password (hashpw p salt) with
      | none => .error .other
      | some b => .ok b

end UserTable

/-! ## Tools that refine the table -/

/-- A script of calls of a tool on its store: the calls one after another, until one
raises. -/
def runScript {S C : Type} (run : C → S → Except ToolError S) (s : S) :
    List C → Except ToolError S
  | [] => .ok s
  | c :: cs => do runScript run (← run c s) cs

/-- A tool whose calls refine the table of users: `run` is a call on the tool's store `S`,
`toUserOp` what it asks of the table, and `Holds` how the store holds the table.  A call
that succeeds passes the checks of the table and leaves a store that holds the table as the
call changes it; a call that raises raises what the check of the table raises, or an error
of the store (`storeError`). -/
structure UserToolRefinement (S C : Type) where
  run : C → S → Except ToolError S
  toUserOp : C → UserOp
  validName : String → Bool
  Holds : UserTable → S → Prop
  storeError : ToolError → Prop
  run_ok : ∀ {users : UserTable} {s s' : S} {c : C}, Holds users s → run c s = .ok s' →
    (toUserOp c).check validName users = .ok () ∧ Holds ((toUserOp c).apply users) s'
  run_error : ∀ {users : UserTable} {s : S} {c : C} {e : ToolError}, Holds users s →
    run c s = .error e → storeError e ∨ (toUserOp c).check validName users = .error e

namespace UserToolRefinement

variable {S C : Type} (T : UserToolRefinement S C)

/-- A script that runs to its end passes every check of the table, and the store it leaves
holds the table the script makes. -/
theorem runScript_ok {users : UserTable} {s s' : S} {calls : List C} (h : T.Holds users s)
    (hrun : runScript T.run s calls = .ok s') :
    ∃ users', UserTable.run T.validName users (calls.map T.toUserOp) = .ok users' ∧
      T.Holds users' s' := by
  induction calls generalizing users s with
  | nil =>
    cases hrun
    exact ⟨users, rfl, h⟩
  | cons c cs ih =>
    cases hc : T.run c s with
    | error e => simp [runScript, hc, bind, Except.bind] at hrun
    | ok s₁ =>
      obtain ⟨hcheck, h₁⟩ := T.run_ok h hc
      obtain ⟨users', hrun', h'⟩ :=
        ih h₁ (by simpa [runScript, hc, bind, Except.bind] using hrun)
      exact ⟨users', by simp [UserTable.run, hcheck, hrun', bind, Except.bind], h'⟩

/-- A script that raises raises what the checks of the table raise, or an error of the
store. -/
theorem runScript_error {users : UserTable} {s : S} {calls : List C} {e : ToolError}
    (h : T.Holds users s) (hrun : runScript T.run s calls = .error e) :
    T.storeError e ∨ UserTable.run T.validName users (calls.map T.toUserOp) = .error e := by
  induction calls generalizing users s with
  | nil => cases hrun
  | cons c cs ih =>
    cases hc : T.run c s with
    | error e' =>
      obtain rfl : e' = e := by simpa [runScript, hc, bind, Except.bind] using hrun
      rcases T.run_error h hc with he | hcheck
      · exact .inl he
      · exact .inr (by simp [UserTable.run, hcheck, bind, Except.bind])
    | ok s₁ =>
      obtain ⟨hcheck, h₁⟩ := T.run_ok h hc
      rcases ih h₁ (by simpa [runScript, hc, bind, Except.bind] using hrun) with he | hrun'
      · exact .inl he
      · exact .inr (by simp [UserTable.run, hcheck, hrun', bind, Except.bind])

end UserToolRefinement

end Pop3sf
