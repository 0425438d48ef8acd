import Pop3sf.UserTable
import Pop3sf.MySQLTools

set_option autoImplicit false

/-!
# The MySQL multiuser tool refines the table of users

A script calls the methods of `MySQLMultiuserAdapterTool` one after another: `add_user`,
`change_user_password`, `add_plaintext_message`, `add_email_message`.  Each call asks of
the table of users (`UserTable`) what `ToolCall.toUserOp` says; the tool takes every user
name.  `Tracks` says how the users table holds the table of users: the rows of a name are
one row, whose `password_bcrypt` is the hash of the user's password, for a user of the
table, and no row for another name.  Names are compared as exact strings, in the table
as by `WHERE username = %s` and the `UNIQUE` index of the users table: this stands for
the collation of the `username` column, as in `MySQLTools`.

The tables the tool leaves refine the table of users.  The main results:

* `Tracks.run_ok` and `Tracks.run_error`: a call that succeeds passes the checks of the
  table and leaves a users table that holds the table as the call changes it; a call that
  raises raises what the check of the table raises, or a `mysql.connector.Error`;
* `mySQLMultiuserTool_refines`: so for whole scripts, from empty tables;
* `Tracks.verifyLoginCredentials` and `mySQLMultiuserTool_logins`: the multiuser adapter
  over those tables answers every login as the table does, and takes the id
  `_get_user_id_by_username` gives.
-/

namespace Pop3sf

namespace MySQLMultiuserAdapterTool

variable {Date : Type}

/-! ## Scripts of calls -/

/-- A call of a method of the tool, with what bcrypt and the database give it: the salt of
`bcrypt.gensalt()`, the `AUTO_INCREMENT` id of a new row, and the `CURRENT_TIMESTAMP` of a
message. -/
inductive ToolCall (Date : Type) where
  | addUser (salt : String) (autoIncrement : Nat) (username password : String)
  | changeUserPassword (salt username newPassword : String)
  | addPlaintextMessage (autoIncrement : Nat) (now : Date) (username message : String)
  | addEmailMessage (autoIncrement : Nat) (now : Date) (username message : String)

/-- The call on the tool's database. -/
def ToolCall.run (hashpw : String → String → String) :
    ToolCall Date → MySQLMultiuserDatabase Date → Except ToolError (MySQLMultiuserDatabase Date)
  | .addUser salt autoIncrement username password, db =>
    MySQLMultiuserAdapterTool.addUser hashpw salt autoIncrement db username password
  | .changeUserPassword salt username newPassword, db =>
    MySQLMultiuserAdapterTool.changeUserPassword hashpw salt db username newPassword
  | .addPlaintextMessage autoIncrement now username message, db =>
    MySQLMultiuserAdapterTool.addPlaintextMessage autoIncrement now db username message
  | .addEmailMessage autoIncrement now username message, db =>
    MySQLMultiuserAdapterTool.addEmailMessage autoIncrement now db username message

/-- A script: the calls one after another, until one raises. -/
def runCalls (hashpw : String → String → String) (db : MySQLMultiuserDatabase Date) :
    List (ToolCall Date) → Except ToolError (MySQLMultiuserDatabase Date)
  | [] => .ok db
  | c :: cs => do runCalls hashpw (← c.run hashpw db) cs

/-- What the call asks of the table of users. -/
def ToolCall.toUserOp : ToolCall Date → UserOp
  | .addUser salt _ username password => .addUser username password salt
  | .changeUserPassword salt username newPassword => .changeUserPassword username newPassword salt
  | .addPlaintextMessage _ _ username _ | .addEmailMessage _ _ username _ => .addMessage username

/-! ## The users table holds the table -/

/-- The users table holds the table of users: the hashes of the rows of each name are the
hash of the user's password, for a user of the table, and none for another name. -/
def Tracks (hashpw : String → String → String) (users : UserTable)
    (db : MySQLMultiuserDatabase Date) : Prop :=
  ∀ u, (db.usersTable.filter (·.username == u)).map (·.passwordBcrypt) =
    ((users u).map fun e => hashpw e.1 e.2).toList

variable {hashpw : String → String → String} {users : UserTable}
  {db db' : MySQLMultiuserDatabase Date}

/-- `does_user_exist` answers from the table. -/
theorem Tracks.doesUserExist (h : Tracks hashpw users db) (u : String) :
    doesUserExist db u = (users u).isSome := by
  have hlen := congrArg List.length (h u)
  rw [List.length_map] at hlen
  rw [MySQLMultiuserAdapterTool.doesUserExist, hlen]
  cases users u <;> rfl

theorem Tracks.filter_eq_nil (h : Tracks hashpw users db) {u : String} (hu : users u = none) :
    db.usersTable.filter (·.username == u) = [] := by
  simpa [hu] using h u

theorem Tracks.filter_eq_singleton (h : Tracks hashpw users db) {u password salt : String}
    (hu : users u = some (password, salt)) :
    ∃ user : UserRow, db.usersTable.filter (·.username == u) = [user] ∧
      user.passwordBcrypt = hashpw password salt := by
  have hu' := h u
  rw [hu] at hu'
  obtain ⟨user, rest, hfilter, hpw, hrest⟩ := List.map_eq_cons_iff.1 hu'
  exact ⟨user, by rw [hfilter, List.map_eq_nil_iff.1 hrest], hpw⟩

/-- The hashes of the rows of a name after `UPDATE ... SET password_bcrypt = h WHERE
username = v`: all `h` for `v`, as they were for another name. -/
theorem passwords_update (rows : List UserRow) (v h u : String) :
    ((rows.map fun r => if r.username = v then { r with passwordBcrypt := h } else r).filter
        (·.username == u)).map (·.passwordBcrypt) =
      (rows.filter (·.username == u)).map fun r => if u = v then h else r.passwordBcrypt := by
  have hname : ∀ r : UserRow,
      (if r.username = v then { r with passwordBcrypt := h } else r).username = r.username :=
    fun r => by split <;> rfl
  rw [List.filter_map, List.map_map]
  simp only [Function.comp_def, hname]
  refine List.map_congr_left fun r hr => ?_
  obtain rfl : r.username = u := by simpa using (List.mem_filter.1 hr).2
  by_cases hv : r.username = v <;> simp [hv]

/-! ## One call -/

/-- One call that succeeds passes the checks of the table, and the users table it leaves
holds the table the call makes. -/
theorem Tracks.run_ok {c : ToolCall Date} (h : Tracks hashpw users db)
    (hc : c.run hashpw db = .ok db') :
    c.toUserOp.check (fun _ => true) users = .ok () ∧
      Tracks hashpw (c.toUserOp.apply users) db' := by
  cases c <;> simp only [ToolCall.run] at hc
  case addUser salt autoIncrement v password =>
    obtain ⟨hnew, rows, hins, rfl⟩ := addUser_eq_ok hc
    rw [h.doesUserExist] at hnew
    have hnone : users v = none := Option.not_isSome_iff_eq_none.1 (by simp [hnew])
    refine ⟨by simp [ToolCall.toUserOp, UserOp.check, UserOp.username, hnew], fun u => ?_⟩
    rw [(insertUser_eq_some hins).2, List.filter_append, List.map_append, h u]
    by_cases huv : u = v
    · subst huv
      simp [ToolCall.toUserOp, UserOp.apply, hnone, hashPasswordUsingBcrypt]
    · simp [ToolCall.toUserOp, UserOp.apply, Function.update_noteq huv, Ne.symm huv]
  case changeUserPassword salt v newPassword =>
    obtain ⟨hex, rows, hupd, rfl⟩ := changeUserPassword_eq_ok hc
    rw [h.doesUserExist] at hex
    obtain ⟨⟨p, s⟩, hsome⟩ := Option.isSome_iff_exists.1 hex
    refine ⟨by simp [ToolCall.toUserOp, UserOp.check, UserOp.username, hex], fun u => ?_⟩
    unfold updatePasswordBcrypt at hupd
    split at hupd
    · cases hupd
    · cases hupd
      rw [passwords_update]
      by_cases huv : u = v
      · subst huv
        obtain ⟨user, hone, -⟩ := h.filter_eq_singleton hsome
        simp [hone, ToolCall.toUserOp, UserOp.apply, hashPasswordUsingBcrypt]
      · simp only [huv, if_false]
        rw [h u]
        simp [ToolCall.toUserOp, UserOp.apply, Function.update_noteq huv]
  case addPlaintextMessage _ _ v _ | addEmailMessage _ _ v _ =>
    obtain ⟨user, t, hone, -, rfl⟩ := addMessageToDatabase_eq_ok hc
    have hex : MySQLMultiuserAdapterTool.doesUserExist db v = true := by
      simp [MySQLMultiuserAdapterTool.doesUserExist, hone]
    rw [h.doesUserExist] at hex
    exact ⟨by simp [ToolCall.toUserOp, UserOp.check, UserOp.username, hex], h⟩

theorem getUserIdByUsername_of_filter {u : String} {user : UserRow}
    (hone : db.usersTable.filter (·.username == u) = [user]) :
    getUserIdByUsername db u = some user.id := by
  rw [getUserIdByUsername, ← List.filter_head?, hone]
  rfl

/-- A call that raises raises what the check of the table raises, or a database error. -/
theorem Tracks.run_error {c : ToolCall Date} {e : ToolError} (h : Tracks hashpw users db)
    (hc : c.run hashpw db = .error e) :
    e = .databaseError ∨ c.toUserOp.check (fun _ => true) users = .error e := by
  cases c with
  | addUser _ _ v _ | changeUserPassword _ v _ =>
    simp only [ToolCall.run, addUser, changeUserPassword, h.doesUserExist] at hc
    simp only [ToolCall.toUserOp, UserOp.check, UserOp.username, Bool.not_true,
      Bool.false_eq_true, if_false]
    split_ifs at hc ⊢
    · exact .inr (by cases hc; rfl)
    · split at hc <;> cases hc
      exact .inl rfl
  | addPlaintextMessage _ _ v _ | addEmailMessage _ _ v _ =>
    simp only [ToolCall.run, addPlaintextMessage, addEmailMessage, addMessageToDatabase,
      h.doesUserExist] at hc
    simp only [ToolCall.toUserOp, UserOp.check, UserOp.username, Bool.not_true,
      Bool.false_eq_true, if_false]
    split_ifs at hc ⊢ with hex
    · exact .inr (by cases hc; rfl)
    · obtain ⟨⟨p, salt⟩, hsome⟩ := Option.ne_none_iff_exists.1 (by simpa using hex)
      obtain ⟨user, hone, -⟩ := h.filter_eq_singleton hsome.symm
      rw [getUserIdByUsername_of_filter hone] at hc
      dsimp only at hc
      split at hc <;> cases hc
      exact .inl rfl

/-- The tool refines the table of users; its own errors are those of the database. -/
def refinement (hashpw : String → String → String) :
    UserToolRefinement (MySQLMultiuserDatabase Date) (ToolCall Date) where
  run := ToolCall.run hashpw
  toUserOp := ToolCall.toUserOp
  validName _ := true
  Holds := Tracks hashpw
  storeError e := e = .databaseError
  run_ok := Tracks.run_ok
  run_error := Tracks.run_error

theorem tracks_of_empty {db₀ : MySQLMultiuserDatabase Date} (h₀ : db₀.usersTable = []) :
    Tracks hashpw (fun _ => none) db₀ := fun u => by
  rw [h₀]
  rfl

end MySQLMultiuserAdapterTool

open MySQLMultiuserAdapterTool in
/-- A script of calls of the MySQL multiuser tool on tables with no users behaves as the
same calls on the table of users: run to its end, it leaves tables on which
`does_user_exist` answers from the table the calls make; raising, it raises what the
table's checks raise, or a database error. -/
theorem mySQLMultiuserTool_refines {Date : Type} {hashpw : String → String → String}
    {db₀ : MySQLMultiuserDatabase Date} (h₀ : db₀.usersTable = [])
    (calls : List (ToolCall Date)) :
    (∀ db, runScript (ToolCall.run hashpw) db₀ calls = .ok db →
      ∃ users, UserTable.run (fun _ => true) (fun _ => none) (calls.map ToolCall.toUserOp) =
          .ok users ∧
        ∀ u, doesUserExist db u = (users u).isSome) ∧
      ∀ e, runScript (ToolCall.run hashpw) db₀ calls = .error e →
        e = .databaseError ∨
          UserTable.run (fun _ => true) (fun _ => none) (calls.map ToolCall.toUserOp) =
            .error e := by
  refine ⟨fun db hrun => ?_, fun e hrun =>
    (refinement hashpw).runScript_error (tracks_of_empty h₀) hrun⟩
  obtain ⟨users, hrun', h⟩ := (refinement hashpw).runScript_ok (tracks_of_empty h₀) hrun
  exact ⟨users, hrun', h.doesUserExist⟩

open MySQLMultiuserAdapterTool in
/-- From empty tables, `bob` is added, gets a new password and a message, and is added
again. -/
theorem mySQLMultiuserTool_refines_bob :
    let calls : List (ToolCall Nat) := [.addUser "$2b$" 1 "bob" "pw",
      .changeUserPassword "$2b$" "bob" "pw2", .addPlaintextMessage 1 0 "bob" "hi",
      .addUser "$2b$" 2 "bob" "pw3"]
    (MySQLMultiuserDatabase.empty : MySQLMultiuserDatabase Nat).usersTable = [] ∧
      (∀ db, runScript (ToolCall.run fun p salt => salt ++ p) MySQLMultiuserDatabase.empty
          calls = .ok db →
        ∃ users, UserTable.run (fun _ => true) (fun _ => none) (calls.map ToolCall.toUserOp) =
            .ok users ∧
          ∀ u, doesUserExist db u = (users u).isSome) ∧
        ∀ e, runScript (ToolCall.run fun p salt => salt ++ p) MySQLMultiuserDatabase.empty
            calls = .error e →
          e = .databaseError ∨
            UserTable.run (fun _ => true) (fun _ => none) (calls.map ToolCall.toUserOp) =
              .error e :=
  ⟨rfl, @mySQLMultiuserTool_refines Nat (fun p salt => salt ++ p) MySQLMultiuserDatabase.empty
    rfl _⟩

/-! ## Logins -/

namespace MySQLMultiuserAdapterTool

variable {Date : Type} {hashpw : String → String → String} {users : UserTable}
  {db : MySQLMultiuserDatabase Date}

/-- The multiuser adapter, over a users table that holds the table, answers every login as
the table does, and takes the id `_get_user_id_by_username` gives just when it lets the
user in. -/
theorem Tracks.verifyLoginCredentials {lib : AdapterLibrary Date} (h : Tracks hashpw users db)
    (username password : String) (s : MySQLAdapterBase Date) (hs : s.usersTable = db.usersTable) :
    MySQLMultiuserAdapter.verifyLoginCredentials lib username password s =
      (UserTable.accepts lib hashpw (fun _ => true) users username password).map fun b =>
        (b, if b then getUserIdByUsername db username else s.userId) := by
  unfold MySQLMultiuserAdapter.verifyLoginCredentials UserTable.accepts
  rw [hs]
  simp only [Bool.not_true, Bool.false_eq_true, if_false]
  cases hu : users username with
  | none =>
    rw [h.filter_eq_nil hu]
    rfl
  | some e =>
    obtain ⟨p, salt⟩ := e
    obtain ⟨user, hone, hpw⟩ := h.filter_eq_singleton hu
    rw [hone, getUserIdByUsername_of_filter hone]
    dsimp only
    rw [hpw]
    cases lib.checkBcryptPassword password (hashpw p salt) with
    | none => rfl
    | some b => cases b <;> rfl

end MySQLMultiuserAdapterTool

open MySQLMultiuserAdapterTool in
/-- After a script of calls of the MySQL multiuser tool on tables with no users, the
multiuser adapter answers every login as the table of users the calls make: a user the
calls added, with the password they last set for the user; it takes the id of the user's
row just when it lets the user in. -/
theorem mySQLMultiuserTool_logins {Date : Type} {lib : AdapterLibrary Date}
    {hashpw : String → String → String} {db₀ db : MySQLMultiuserDatabase Date}
    {calls : List (ToolCall Date)} (h₀ : db₀.usersTable = [])
    (hrun : runScript (ToolCall.run hashpw) db₀ calls = .ok db) :
    ∃ users, UserTable.run (fun _ => true) (fun _ => none) (calls.map ToolCall.toUserOp) =
        .ok users ∧
      ∀ username password,
        (MySQLMultiuserAdapter.adapter lib).verifyLoginCredentials username password
            (MySQLAdapterBase.new db.messagesTable db.usersTable) =
          (UserTable.accepts lib hashpw (fun _ => true) users username password).map fun b =>
            (b, { MySQLAdapterBase.new db.messagesTable db.usersTable with
              userId := if b then getUserIdByUsername db username else none }) := by
  obtain ⟨users, hrun', h⟩ := (refinement hashpw).runScript_ok (tracks_of_empty h₀) hrun
  refine ⟨users, hrun', fun username password => ?_⟩
  show (MySQLMultiuserAdapter.verifyLoginCredentials lib username password _).map _ = _
  rw [h.verifyLoginCredentials username password _ rfl]
  cases UserTable.accepts lib hashpw (fun _ => true) users username password <;> rfl

open MySQLMultiuserAdapterTool in
/-- `bob` is added with the password `pw`, which is changed to `pw2`, and gets a message;
the adapter then answers the logins of `bob` as the table with `pw2` does. -/
theorem mySQLMultiuserTool_logins_bob :
    let lib : AdapterLibrary Nat :=
      ⟨id, toString, fun p h => some (h == "$2b$" ++ p), fun body _ _ _ _ => body⟩
    let hashpw : String → String → String := fun p salt => salt ++ p
    let calls : List (ToolCall Nat) := [.addUser "$2b$" 1 "bob" "pw",
      .changeUserPassword "$2b$" "bob" "pw2", .addPlaintextMessage 1 0 "bob" "hi"]
    ∃ db, runScript (ToolCall.run hashpw) MySQLMultiuserDatabase.empty calls = .ok db ∧
      ∃ users, UserTable.run (fun _ => true) (fun _ => none) (calls.map ToolCall.toUserOp) =
          .ok users ∧
        ∀ username password,
          (MySQLMultiuserAdapter.adapter lib).verifyLoginCredentials username password
              (MySQLAdapterBase.new db.messagesTable db.usersTable) =
            (UserTable.accepts lib hashpw (fun _ => true) users username password).map fun b =>
              (b, { MySQLAdapterBase.new db.messagesTable db.usersTable with
                userId := if b then getUserIdByUsername db username else none }) := by
  intro lib hashpw calls
  exact ⟨_, rfl, @mySQLMultiuserTool_logins Nat lib hashpw MySQLMultiuserDatabase.empty _ calls
    rfl rfl⟩

end Pop3sf
