import Pop3sf.MySQLAdapter
import Pop3sf.DirectoryTools

set_option autoImplicit false

/-!
# The MySQL tools (`auxiliary_libs/MySQLSingleuserAdapterTool.py`,
`auxiliary_libs/MySQLMultiuserAdapterTool.py`)

The tools are how users and messages get into the tables the MySQL adapters read.
`MySQLMultiuserAdapterTool.add_user` inserts a row of a user name and the bcrypt hash of
its password, `change_user_password` updates the hash, and `add_plaintext_message` and
`add_email_message` insert a message row with the id of its user; the single-user tool
inserts message rows only.

An `INSERT` takes its `id` from the table's `AUTO_INCREMENT` counter and its
`added_timestamp` from `CURRENT_TIMESTAMP`, both parameters here, and fails on what the
`CREATE TABLE` statements forbid: a used id or user name (`PRIMARY KEY`, `UNIQUE`), an
id beyond `INT UNSIGNED`, a user name or hash longer than its column (MySQL's default
strict mode makes that an error).  `bcrypt.hashpw` and the salt of `bcrypt.gensalt` are
parameters, as in the directory tools.  User names are compared as exact strings, both
by `WHERE username = %s` and by the `UNIQUE` index: this stands for the collation of the
`username` column, under which MySQL's default collations would also take names that
differ in case or in trailing spaces for one name.

Tool and adapter agree on the tables.  The main results:

* `mySQLMultiuserTool_login`: after any run of the multiuser tool from tables whose user
  names are distinct, every user of the users table logs in to the multiuser adapter
  with a password its hash accepts, and the login indexes that user's messages.  The
  tool keeps the user names distinct (`ToolStep.usernames_nodup`), which is what the
  adapter's lookup of a user by name needs;
* `addPlaintextMessage_row_served`: a plaintext message the multiuser tool adds for a
  user is served to a session of that user, wrapped in an email with the row's id in
  the subject and the time it was added;
* `addEmailMessage_row_served`: an email message the single-user tool adds is served, as
  it was written, by the single-user adapter.
-/

namespace Pop3sf

/-! ## Inserting and updating rows -/

namespace MessagesTable

variable {Date : Type}

theorem ids_nodup_append (t : MessagesTable Date) {r : MessageRow Date}
    (h : r.id ∉ t.rows.map MessageRow.id) : ((t.rows ++ [r]).map MessageRow.id).Nodup := by
  rw [List.map_append, List.nodup_append]
  exact ⟨t.ids_nodup, List.nodup_singleton _, fun x hx hy => h (List.mem_singleton.1 hy ▸ hx)⟩

/-- The messages table `CREATE TABLE IF NOT EXISTS` makes where there is none. -/
def empty : MessagesTable Date := ⟨[], List.nodup_nil, fun _ h => absurd h (List.not_mem_nil _)⟩

/-- `INSERT` of the row `r` into a messages table, with `r.id` what the `AUTO_INCREMENT`
counter gives; `none` is the error of a used id or of one beyond `INT UNSIGNED`. -/
def insert (t : MessagesTable Date) (r : MessageRow Date) : Option (MessagesTable Date) :=
  if h : r.id ∈ t.rows.map MessageRow.id ∨ 2 ^ 32 ≤ r.id then none
  else some
    { rows := t.rows ++ [r]
      ids_nodup := t.ids_nodup_append (not_or.1 h).1
      ids_lt := fun r' hr' => by
        rcases List.mem_append.1 hr' with hr' | hr'
        · exact t.ids_lt r' hr'
        · rw [List.mem_singleton.1 hr']
          exact Nat.lt_of_not_le (not_or.1 h).2 }

theorem insert_rows {t t' : MessagesTable Date} {r : MessageRow Date}
    (h : t.insert r = some t') : t'.rows = t.rows ++ [r] := by
  unfold insert at h
  split at h
  · cases h
  · cases h
    rfl

/-- `SELECT ... WHERE id = %s` finds the row of that id. -/
theorem select_of_mem {t : MessagesTable Date} {r : MessageRow Date} (hr : r ∈ t.rows) :
    t.select r.id = some r := by
  unfold select
  cases hf : t.rows.find? (·.id == r.id) with
  | none => exact absurd (List.find?_eq_none.1 hf r hr) (by simp)
  | some r' =>
    have hid : r'.id = r.id := by simpa using List.find?_some hf
    rw [t.eq_of_id_eq (List.mem_of_find?_eq_some hf) hr hid]

end MessagesTable

/-- `INSERT` of the row `user` into a users table, with `user.id` what the
`AUTO_INCREMENT` counter gives; `none` is the error of a used id or user name, of an id
beyond `INT UNSIGNED`, or of a user name or hash longer than its column (`VARCHAR(64)`,
`CHAR(60)`). -/
def insertUser (users : List UserRow) (user : UserRow) : Option (List UserRow) :=
  if (∃ u ∈ users, u.id = user.id ∨ u.username = user.username) ∨ 2 ^ 32 ≤ user.id ∨
      64 < user.username.length ∨ 60 < user.passwordBcrypt.length then none
  else some (users ++ [user])

/-- `UPDATE users SET password_bcrypt = %s WHERE username = %s`; `none` is the error of
a hash longer than its column. -/
def updatePasswordBcrypt (users : List UserRow) (username passwordBcrypt : String) :
    Option (List UserRow) :=
  if 60 < passwordBcrypt.length then none
  else some (users.map fun u =>
    if u.username = username then { u with passwordBcrypt := passwordBcrypt } else u)

theorem insertUser_eq_some {users users' : List UserRow} {user : UserRow}
    (h : insertUser users user = some users') :
    user.username ∉ users.map (·.username) ∧ users' = users ++ [user] := by
  unfold insertUser at h
  split at h
  · cases h
  · rename_i hfresh
    cases h
    refine ⟨fun hmem => hfresh (.inl ?_), rfl⟩
    obtain ⟨u, hu, hname⟩ := List.mem_map.1 hmem
    exact ⟨u, hu, .inr hname⟩

theorem usernames_updatePasswordBcrypt {users users' : List UserRow}
    {username passwordBcrypt : String}
    (h : updatePasswordBcrypt users username passwordBcrypt = some users') :
    users'.map (·.username) = users.map (·.username) := by
  unfold updatePasswordBcrypt at h
  split at h
  · cases h
  · cases h
    simp only [List.map_map]
    exact List.map_congr_left fun u _ => by by_cases hu : u.username = username <;> simp [hu]

/-- Of distinct user names, a user's is the name of that user only. -/
theorem filter_username_eq_singleton {users : List UserRow}
    (hn : (users.map (·.username)).Nodup) {user : UserRow} (hu : user ∈ users) :
    users.filter (·.username == user.username) = [user] := by
  induction users with
  | nil => exact absurd hu (List.not_mem_nil _)
  | cons u us ih =>
    rw [List.map_cons, List.nodup_cons] at hn
    have hnone : ∀ v ∈ us, (v.username == u.username) = false := fun v hv => by
      have hne : v.username ≠ u.username := fun e => hn.1 (e ▸ List.mem_map_of_mem _ hv)
      simpa using hne
    rcases List.mem_cons.1 hu with rfl | hu
    · rw [List.filter_cons_of_pos (by simp), List.filter_eq_nil_iff.2 fun v hv => by
        simp [hnone v hv]]
    · have hne : u.username ≠ user.username := fun e => hn.1 (e ▸ List.mem_map_of_mem _ hu)
      rw [List.filter_cons_of_neg (by simp [hne]), ih hn.2 hu]

/-! ## The tools -/

/-- The tables of a multiuser database: what the multiuser tool writes and the
multiuser adapter reads. -/
structure MySQLMultiuserDatabase (Date : Type) where
  messagesTable : MessagesTable Date
  usersTable : List UserRow

/-- The tables `_create_mysql_tables_if_needed` makes in an empty database. -/
def MySQLMultiuserDatabase.empty {Date : Type} : MySQLMultiuserDatabase Date :=
  ⟨MessagesTable.empty, []⟩

namespace MySQLMultiuserAdapterTool

variable {Date : Type}

/-- `does_user_exist`: `SELECT id FROM users WHERE username = %s` gives one row. -/
def doesUserExist (db : MySQLMultiuserDatabase Date) (username : String) : Bool :=
  (db.usersTable.filter (·.username == username)).length == 1

/-- `_hash_password_using_bcrypt`, with `hashpw` the text of
`bcrypt.hashpw(password.encode("utf-8"), salt)` and `salt` what `bcrypt.gensalt()`
gave. -/
def hashPasswordUsingBcrypt (hashpw : String → String → String) (salt password : String) :
    String :=
  hashpw password salt

/-- `add_user(username, password)`, with `autoIncrement` the id the users table gives
the row. -/
def addUser (hashpw : String → String → String) (salt : String) (autoIncrement : Nat)
    (db : MySQLMultiuserDatabase Date) (username password : String) :
    Except ToolError (MySQLMultiuserDatabase Date) :=
  if doesUserExist db username then .error (.userAlreadyExists username)
  else
    match insertUser db.usersTable
        ⟨autoIncrement, username, hashPasswordUsingBcrypt hashpw salt password⟩ with
    | some users => .ok { db with usersTable := users }
    | none => .error .databaseError

/-- `change_user_password(username, new_password)`. -/
def changeUserPassword (hashpw : String → String → String) (salt : String)
    (db : MySQLMultiuserDatabase Date) (username newPassword : String) :
    Except ToolError (MySQLMultiuserDatabase Date) :=
  if !doesUserExist db username then .error (.userDoesNotExist username)
  else
    match updatePasswordBcrypt db.usersTable username
        (hashPasswordUsingBcrypt hashpw salt newPassword) with
    | some users => .ok { db with usersTable := users }
    | none => .error .databaseError

/-- `_get_user_id_by_username`: the id of the first row of that name; `none` is the
`TypeError` of no row. -/
def getUserIdByUsername (db : MySQLMultiuserDatabase Date) (username : String) :
    Option Nat :=
  (db.usersTable.find? (·.username == username)).map (·.id)

/-- `_add_message_to_database(text, username, is_plaintext)`, with `autoIncrement` the
id the messages table gives the row and `now` the `CURRENT_TIMESTAMP` of its
`added_timestamp`. -/
def addMessageToDatabase (autoIncrement : Nat) (now : Date) (db : MySQLMultiuserDatabase Date)
    (text username : String) (isPlaintext : Bool) :
    Except ToolError (MySQLMultiuserDatabase Date) :=
  if !doesUserExist db username then .error (.userDoesNotExist username)
  else
    match getUserIdByUsername db username with
    | none => .error .typeError
    | some userId =>
      match db.messagesTable.insert ⟨autoIncrement, userId, text, isPlaintext, now⟩ with
      | some t => .ok { db with messagesTable := t }
      | none => .error .databaseError

/-- `add_plaintext_message(username, message)`. -/
def addPlaintextMessage (autoIncrement : Nat) (now : Date) (db : MySQLMultiuserDatabase Date)
    (username message : String) : Except ToolError (MySQLMultiuserDatabase Date) :=
  addMessageToDatabase autoIncrement now db message username true

/-- `add_email_message(username, message)`, with `message` the text `str(message)`. -/
def addEmailMessage (autoIncrement : Nat) (now : Date) (db : MySQLMultiuserDatabase Date)
    (username message : String) : Except ToolError (MySQLMultiuserDatabase Date) :=
  addMessageToDatabase autoIncrement now db message username false

end MySQLMultiuserAdapterTool

namespace MySQLSingleuserAdapterTool

variable {Date : Type}

/-- `_add_message_to_database(text, is_plaintext)`; the single-user table has no
`user_id` column, which the row leaves `0`. -/
def addMessageToDatabase (autoIncrement : Nat) (now : Date) (t : MessagesTable Date)
    (text : String) (isPlaintext : Bool) : Option (MessagesTable Date) :=
  t.insert ⟨autoIncrement, 0, text, isPlaintext, now⟩

/-- `add_plaintext_message(message)`. -/
def addPlaintextMessage (autoIncrement : Nat) (now : Date) (t : MessagesTable Date)
    (message : String) : Option (MessagesTable Date) :=
  addMessageToDatabase autoIncrement now t message true

/-- `add_email_message(message)`, with `message` the text `str(message)`. -/
def addEmailMessage (autoIncrement : Nat) (now : Date) (t : MessagesTable Date)
    (message : String) : Option (MessagesTable Date) :=
  addMessageToDatabase autoIncrement now t message false

end MySQLSingleuserAdapterTool

/-! ## What a call of the multiuser tool does -/

namespace MySQLMultiuserAdapterTool

variable {Date : Type} {hashpw : String → String → String} {salt : String}
  {db db' : MySQLMultiuserDatabase Date}

theorem doesUserExist_eq_true {username : String} (h : doesUserExist db username = true) :
    ∃ user, db.usersTable.filter (·.username == username) = [user] := by
  simpa [doesUserExist, List.length_eq_one] using h

theorem addUser_eq_ok {autoIncrement : Nat} {username password : String}
    (h : addUser hashpw salt autoIncrement db username password = .ok db') :
    doesUserExist db username = false ∧ ∃ users, insertUser db.usersTable
        ⟨autoIncrement, username, hashPasswordUsingBcrypt hashpw salt password⟩ = some users ∧
      db' = { db with usersTable := users } := by
  unfold addUser at h
  split_ifs at h with hex
  split at h
  · cases h
    exact ⟨by simpa using hex, _, ‹_›, rfl⟩
  · cases h

theorem changeUserPassword_eq_ok {username newPassword : String}
    (h : changeUserPassword hashpw salt db username newPassword = .ok db') :
    doesUserExist db username = true ∧ ∃ users, updatePasswordBcrypt db.usersTable username
        (hashPasswordUsingBcrypt hashpw salt newPassword) = some users ∧
      db' = { db with usersTable := users } := by
  unfold changeUserPassword at h
  split_ifs at h with hex
  split at h
  · cases h
    exact ⟨by simpa using hex, _, ‹_›, rfl⟩
  · cases h

/-- A message row the tool inserts carries the id of the one user of the name. -/
theorem addMessageToDatabase_eq_ok {autoIncrement : Nat} {now : Date} {text username : String}
    {isPlaintext : Bool}
    (h : addMessageToDatabase autoIncrement now db text username isPlaintext = .ok db') :
    ∃ user t, db.usersTable.filter (·.username == username) = [user] ∧
      db.messagesTable.insert ⟨autoIncrement, user.id, text, isPlaintext, now⟩ = some t ∧
      db' = { db with messagesTable := t } := by
  unfold addMessageToDatabase at h
  split_ifs at h with hex
  obtain ⟨user, huser⟩ := doesUserExist_eq_true (by simpa using hex)
  have hid : getUserIdByUsername db username = some user.id := by
    rw [getUserIdByUsername, ← List.filter_head?, huser]
    rfl
  rw [hid] at h
  dsimp only at h
  split at h
  · cases h
    exact ⟨user, _, huser, ‹_›, rfl⟩
  · cases h

/-! ## The tool's runs keep user names distinct -/

/-- One call of the multiuser tool that succeeds, with any arguments, salt, counter value
and time. -/
inductive ToolStep (hashpw : String → String → String) :
    MySQLMultiuserDatabase Date → MySQLMultiuserDatabase Date → Prop
  | addUser {db db' : MySQLMultiuserDatabase Date} (salt : String) (autoIncrement : Nat)
      (username password : String)
      (h : addUser hashpw salt autoIncrement db username password = .ok db') :
      ToolStep hashpw db db'
  | changeUserPassword {db db' : MySQLMultiuserDatabase Date} (salt username newPassword : String)
      (h : changeUserPassword hashpw salt db username newPassword = .ok db') :
      ToolStep hashpw db db'
  | addPlaintextMessage {db db' : MySQLMultiuserDatabase Date} (autoIncrement : Nat) (now : Date)
      (username message : String)
      (h : addPlaintextMessage autoIncrement now db username message = .ok db') :
      ToolStep hashpw db db'
  | addEmailMessage {db db' : MySQLMultiuserDatabase Date} (autoIncrement : Nat) (now : Date)
      (username message : String)
      (h : addEmailMessage autoIncrement now db username message = .ok db') :
      ToolStep hashpw db db'

/-- What a call of the tool does to the users table: it adds the row of a new name, or
changes no name. -/
theorem ToolStep.usersTable_cases (h : ToolStep hashpw db db') :
    (∃ user : UserRow, user.username ∉ db.usersTable.map (·.username) ∧
        db'.usersTable = db.usersTable ++ [user]) ∨
      db'.usersTable.map (·.username) = db.usersTable.map (·.username) := by
  cases h with
  | addUser _ _ _ _ h =>
    obtain ⟨-, users, hins, rfl⟩ := addUser_eq_ok h
    exact .inl ⟨_, insertUser_eq_some hins⟩
  | changeUserPassword _ _ _ h =>
    obtain ⟨-, users, hupd, rfl⟩ := changeUserPassword_eq_ok h
    exact .inr (usernames_updatePasswordBcrypt hupd)
  | addPlaintextMessage _ _ _ _ h =>
    obtain ⟨_, _, -, -, rfl⟩ := addMessageToDatabase_eq_ok h
    exact .inr rfl
  | addEmailMessage _ _ _ _ h =>
    obtain ⟨_, _, -, -, rfl⟩ := addMessageToDatabase_eq_ok h
    exact .inr rfl

theorem ToolStep.usernames_nodup (h : ToolStep hashpw db db')
    (hn : (db.usersTable.map (·.username)).Nodup) : (db'.usersTable.map (·.username)).Nodup := by
  rcases h.usersTable_cases with ⟨user, hfresh, hrows⟩ | hnames
  · rw [hrows, List.map_append, List.nodup_append]
    refine ⟨hn, List.nodup_singleton _, fun x hx hy => hfresh ?_⟩
    rwa [List.mem_singleton.1 hy] at hx
  · exact hnames ▸ hn

theorem usernames_nodup_of_run {db₀ : MySQLMultiuserDatabase Date}
    (hrun : Relation.ReflTransGen (ToolStep hashpw) db₀ db)
    (h₀ : (db₀.usersTable.map (·.username)).Nodup) :
    (db.usersTable.map (·.username)).Nodup := by
  induction hrun with
  | refl => exact h₀
  | tail _ hstep ih => exact hstep.usernames_nodup ih

end MySQLMultiuserAdapterTool

/-! ## A user the tool leaves in the table logs in -/

namespace MySQLMultiuserAdapter

variable {Date : Type} {lib : AdapterLibrary Date}

/-- The user the multiuser adapter accepts is the one row of that name. -/
theorem verifyLoginCredentials_eq_ok_true {username password : String}
    {s : MySQLAdapterBase Date} {u : Option Nat}
    (h : verifyLoginCredentials lib username password s = .ok (true, u)) :
    ∃ user, s.usersTable.filter (·.username == username) = [user] ∧ u = some user.id := by
  unfold verifyLoginCredentials at h
  split at h
  · rename_i user huser
    split at h <;> cases h
    exact ⟨user, huser, rfl⟩
  · cases h

end MySQLMultiuserAdapter

open MySQLMultiuserAdapterTool in
/-- After any run of the multiuser tool from tables whose user names are distinct, every
user of the users table logs in to the multiuser adapter with a password its hash
accepts, and the login indexes exactly that user's messages. -/
theorem mySQLMultiuserTool_login {Date : Type} {lib : AdapterLibrary Date}
    {hashpw : String → String → String} {db₀ db : MySQLMultiuserDatabase Date}
    (hrun : Relation.ReflTransGen (ToolStep hashpw) db₀ db)
    (h₀ : (db₀.usersTable.map (·.username)).Nodup) {user : UserRow}
    (hu : user ∈ db.usersTable) {password : String}
    (hcheck : lib.checkBcryptPassword password user.passwordBcrypt = some true)
    (readOnly : Bool) :
    let s := MySQLAdapterBase.new db.messagesTable db.usersTable
    let s' := { s with userId := some user.id }
    (MySQLMultiuserAdapter.adapter lib).verifyLoginCredentials user.username password s =
        .ok (true, s') ∧
      (MySQLMultiuserAdapter.adapter lib).loginSuccessful user.username readOnly s' =
        .ok ((), { s' with
          messageIndex := (db.messagesTable.rows.filter (·.userId == user.id)).map
            fun r => ⟨r.id, false⟩ }) := by
  have hone := filter_username_eq_singleton (usernames_nodup_of_run hrun h₀) hu
  refine ⟨?_, rfl⟩
  simp [MySQLMultiuserAdapter.adapter, MySQLAdapterBase.adapter, MySQLMultiuserAdapter.subclass,
    MySQLMultiuserAdapter.verifyLoginCredentials, MySQLAdapterBase.new, hone, hcheck, Except.map]

/-- The tool adds `bob` with the password `pw`, then changes it to `pw2`; `bob` then logs in
with `pw2`. -/
theorem mySQLMultiuserTool_login_bob :
    let lib : AdapterLibrary Nat :=
      ⟨id, toString, fun p h => some (h == "$2b$" ++ p), fun body _ _ _ _ => body⟩
    let user : UserRow := ⟨1, "bob", "$2b$pw2"⟩
    ∃ db : MySQLMultiuserDatabase Nat,
      Relation.ReflTransGen (MySQLMultiuserAdapterTool.ToolStep fun p salt => salt ++ p)
        MySQLMultiuserDatabase.empty db ∧
      user ∈ db.usersTable ∧
      let s := MySQLAdapterBase.new db.messagesTable db.usersTable
      let s' := { s with userId := some user.id }
      (MySQLMultiuserAdapter.adapter lib).verifyLoginCredentials user.username "pw2" s =
          .ok (true, s') ∧
        (MySQLMultiuserAdapter.adapter lib).loginSuccessful user.username false s' =
          .ok ((), { s' with
            messageIndex := (db.messagesTable.rows.filter (·.userId == user.id)).map
              fun r => ⟨r.id, false⟩ }) :=
  have h₁ : MySQLMultiuserAdapterTool.addUser (fun p salt => salt ++ p) "$2b$" 1
      (MySQLMultiuserDatabase.empty : MySQLMultiuserDatabase Nat) "bob" "pw" =
      .ok ⟨MessagesTable.empty, [⟨1, "bob", "$2b$pw"⟩]⟩ := rfl
  have h₂ : MySQLMultiuserAdapterTool.changeUserPassword (fun p salt => salt ++ p) "$2b$"
      ⟨(MessagesTable.empty : MessagesTable Nat), [⟨1, "bob", "$2b$pw"⟩]⟩ "bob" "pw2" =
      .ok ⟨MessagesTable.empty, [⟨1, "bob", "$2b$pw2"⟩]⟩ := rfl
  have hrun := (Relation.ReflTransGen.refl.tail (.addUser _ _ _ _ h₁)).tail
    (.changeUserPassword _ _ _ h₂)
  ⟨_, hrun, by decide,
    mySQLMultiuserTool_login hrun List.nodup_nil (by decide) (by decide) false⟩

/-! ## A message the tools add is served -/

namespace MySQLAdapterBase

variable {Date : Type}

/-- A row that the subclass's filter selects is, after the login, a message of the
index, served as its `message` column, a plaintext one wrapped in an email from and to
`nobody` with its id in the subject and its `added_timestamp`. -/
theorem served_of_mem (lib : AdapterLibrary Date) (sub : MySQLAdapterSubclass Date)
    {s : MySQLAdapterBase Date} {p : MessageRow Date → Bool} (hp : sub.messageFilter s = some p)
    {r : MessageRow Date} (hr : r ∈ s.messagesTable.rows) (hpr : p r = true)
    (username : String) (readOnly : Bool) (encoding : String) :
    let s' := { s with
      messageIndex := (s.messagesTable.rows.filter p).map fun r => ⟨r.id, false⟩ }
    (adapter lib sub).loginSuccessful username readOnly s = .ok ((), s') ∧
      ∃ i : Nat, (adapter lib sub).getMessageContent i encoding s' =
        .ok (if r.isPlaintext then
            lib.wrapPlaintextInEmail r.message ("Plaintext database entry " ++ toString r.id)
              (generateFromToEmailAddress "nobody") (generateFromToEmailAddress "nobody")
              r.addedTimestamp
          else r.message, s') := by
  intro s'
  obtain ⟨i, hi⟩ := List.getElem?_of_mem (List.mem_filter.2 ⟨hr, hpr⟩)
  refine ⟨by simp [adapter, loginSuccessful, hp, s'], i, ?_⟩
  have hpy : pyGet s'.messageIndex i = some ⟨r.id, false⟩ := by
    simp [pyGet_of_nonneg, s', hi]
  simp [adapter, hpy, messageContent, answer, MessagesTable.select_of_mem hr, s']

end MySQLAdapterBase

open MySQLMultiuserAdapterTool in
/-- A plaintext message the multiuser tool adds for a user is, after that user's login,
a message of the index, served wrapped in an email from and to `nobody` with the row's
id in the subject and the time it was added. -/
theorem addPlaintextMessage_row_served {Date : Type} {lib : AdapterLibrary Date}
    {db db' : MySQLMultiuserDatabase Date} {autoIncrement : Nat} {now : Date}
    {username message password : String}
    (h : addPlaintextMessage autoIncrement now db username message = .ok db')
    {s s₁ : MySQLAdapterBase Date} (ht : s.messagesTable = db'.messagesTable)
    (hu : s.usersTable = db'.usersTable)
    (hverify : (MySQLMultiuserAdapter.adapter lib).verifyLoginCredentials username password s =
      .ok (true, s₁))
    (readOnly : Bool) (encoding : String) :
    let A := MySQLMultiuserAdapter.adapter lib
    ∃ s₂, A.loginSuccessful username readOnly s₁ = .ok ((), s₂) ∧
      ∃ i : Nat, A.getMessageContent i encoding s₂ =
        .ok (lib.wrapPlaintextInEmail message
          ("Plaintext database entry " ++ toString autoIncrement)
          (generateFromToEmailAddress "nobody") (generateFromToEmailAddress "nobody") now,
          s₂) := by
  obtain ⟨user, t, huser, hins, rfl⟩ := addMessageToDatabase_eq_ok h
  obtain ⟨u, hv, rfl⟩ : ∃ u, MySQLMultiuserAdapter.verifyLoginCredentials lib username
      password s = .ok (true, u) ∧ s₁ = { s with userId := u } := by
    simp only [MySQLMultiuserAdapter.adapter, MySQLAdapterBase.adapter,
      MySQLMultiuserAdapter.subclass, Except.map] at hverify
    split at hverify
    · cases hverify
    · rename_i r hr
      obtain ⟨b, u⟩ := r
      cases hverify
      exact ⟨u, hr, rfl⟩
  obtain ⟨user', huser', rfl⟩ := MySQLMultiuserAdapter.verifyLoginCredentials_eq_ok_true hv
  rw [hu, huser] at huser'
  cases huser'
  have hr : (⟨autoIncrement, user.id, message, true, now⟩ : MessageRow Date) ∈
      s.messagesTable.rows := by
    rw [ht, MessagesTable.insert_rows hins]
    exact List.mem_append_right _ (List.mem_singleton_self _)
  obtain ⟨hlogin, i, hi⟩ := MySQLAdapterBase.served_of_mem lib
    (MySQLMultiuserAdapter.subclass lib) (s := { s with userId := some user.id }) rfl hr
    (by simp) username readOnly encoding
  exact ⟨_, hlogin, i, hi⟩

/-- After the tool has added `bob`, it adds the plaintext message `hi` for him as the row of
id 3; after `bob`'s login it is served wrapped in an email with `3` in the subject. -/
theorem addPlaintextMessage_row_served_hi :
    let lib : AdapterLibrary Nat :=
      ⟨id, toString, fun p h => some (h == "$2b$" ++ p), fun body _ _ _ _ => body⟩
    let db : MySQLMultiuserDatabase Nat := ⟨MessagesTable.empty, [⟨1, "bob", "$2b$pw"⟩]⟩
    MySQLMultiuserAdapterTool.addUser (fun p salt => salt ++ p) "$2b$" 1
        MySQLMultiuserDatabase.empty "bob" "pw" = .ok db ∧
    ∃ db' : MySQLMultiuserDatabase Nat,
      MySQLMultiuserAdapterTool.addPlaintextMessage 3 7 db "bob" "hi" = .ok db' ∧
      let s := MySQLAdapterBase.new db'.messagesTable db'.usersTable
      (MySQLMultiuserAdapter.adapter lib).verifyLoginCredentials "bob" "pw" s =
        .ok (true, { s with userId := some 1 }) ∧
      ∃ s₂, (MySQLMultiuserAdapter.adapter lib).loginSuccessful "bob" false
          { s with userId := some 1 } = .ok ((), s₂) ∧
        ∃ i : Nat, (MySQLMultiuserAdapter.adapter lib).getMessageContent i "utf-8" s₂ =
          .ok (lib.wrapPlaintextInEmail "hi" ("Plaintext database entry " ++ toString 3)
            (generateFromToEmailAddress "nobody") (generateFromToEmailAddress "nobody") 7, s₂) :=
  have h : MySQLMultiuserAdapterTool.addPlaintextMessage 3 7
      ⟨(MessagesTable.empty : MessagesTable Nat), [⟨1, "bob", "$2b$pw"⟩]⟩ "bob" "hi" =
      .ok _ := rfl
  ⟨rfl, _, h, rfl, @addPlaintextMessage_row_served Nat
    ⟨id, toString, fun p h => some (h == "$2b$" ++ p), fun body _ _ _ _ => body⟩ _ _ 3 7 "bob"
    "hi" "pw" h (MySQLAdapterBase.new _ _) _ rfl rfl rfl false "utf-8"⟩

/-- An email message the single-user tool adds is, after a login to the single-user
adapter, a message of the index, served as it was written. -/
theorem addEmailMessage_row_served {Date : Type} {lib : AdapterLibrary Date}
    {username passwordBcrypt : String} {t t' : MessagesTable Date} {autoIncrement : Nat}
    {now : Date} {message : String}
    (h : MySQLSingleuserAdapterTool.addEmailMessage autoIncrement now t message = some t')
    (readOnly : Bool) (encoding : String) :
    let A := MySQLSingleuserAdapter.adapter lib username passwordBcrypt
    ∃ s', A.loginSuccessful username readOnly (MySQLAdapterBase.new t' []) = .ok ((), s') ∧
      ∃ i : Nat, A.getMessageContent i encoding s' = .ok (message, s') := by
  have hr : (⟨autoIncrement, 0, message, false, now⟩ : MessageRow Date) ∈ t'.rows := by
    rw [MessagesTable.insert_rows h]
    exact List.mem_append_right _ (List.mem_singleton_self _)
  obtain ⟨hlogin, i, hi⟩ := MySQLAdapterBase.served_of_mem lib
    (MySQLSingleuserAdapter.subclass lib username passwordBcrypt)
    (s := MySQLAdapterBase.new t' []) rfl hr rfl username readOnly encoding
  exact ⟨_, hlogin, i, hi⟩

/-- The single-user tool adds an email as the row of id 1; after the login it is served
as written. -/
theorem addEmailMessage_row_served_hello :
    let lib : AdapterLibrary Nat :=
      ⟨id, toString, fun p h => some (h == "$2b$" ++ p), fun body _ _ _ _ => body⟩
    ∃ t' : MessagesTable Nat,
      MySQLSingleuserAdapterTool.addEmailMessage 1 7 MessagesTable.empty
        "Subject: hi\r\n\r\nhello" = some t' ∧
      let A := MySQLSingleuserAdapter.adapter lib "bob" "$2b$pw"
      ∃ s', A.loginSuccessful "bob" false (MySQLAdapterBase.new t' []) = .ok ((), s') ∧
        ∃ i : Nat, A.getMessageContent i "utf-8" s' = .ok ("Subject: hi\r\n\r\nhello", s') :=
  have h : MySQLSingleuserAdapterTool.addEmailMessage 1 7 (MessagesTable.empty : MessagesTable Nat)
      "Subject: hi\r\n\r\nhello" = some _ := rfl
  ⟨_, h, addEmailMessage_row_served h false "utf-8"⟩

end Pop3sf
