import Mathlib.Data.List.Pairwise
import Mathlib.Logic.Relation
import Pop3sf.SessionInvariant

set_option autoImplicit false

/-!
# All connections at once (`POP3SF.py`)

`POP3SF` accepts connections one after another.  Each gets the current value of
`_next_connection_id` (which starts at `1` and grows by one per accepted socket,
also when `_start_per_client_thread` refuses it) and, unless refused, a thread of its
own running `initialize_client_handler`.  The threads share the one
`PerUserExclusivityEnsurer` of `GlobalResources`.

A `Server` holds the counter, the registry and the connection of every id, and runs
by `ServerStep`: a socket is accepted, or one connection takes one of its own steps
(`OwnStep`).  The steps of different connections interleave in any order, and a
step of one connection is taken whole.  That is the grain at which threads meet: a
step calls the registry at most once, under the registry's lock
(`authentication_successful` adds the connection's entry, the teardown removes it),
the adapter calls of all threads go through the one lock of
`AdapterThreadLockingWrapper`, and everything else a step reads or writes is its
own thread's.  `Server.run` drives the same server by a list of `Server.Event`s, and
`reachable_iff_run` says the two agree.

The main result is `server_per_user_exclusivity`.  In every reachable state and for
every user, the sessions authenticated as the user that are not torn down are all
read-only or are one read-write session; every adapter call an authenticated
session has made found the session's own entry in the registry; and every call
that touches the deletion marks was made by a read-write session while the
registry held no entry of its user but its own.  It follows from `Server.Invariant`,
which every step keeps (`ServerStep.invariant`).
-/

namespace Pop3sf

/-- The server: `_next_connection_id`, the entries of the exclusivity ensurer, and
the connection each id was given to, if a thread was started for it. -/
structure Server (σ : Type) where
  nextConnectionId : Nat
  clients : List Client
  sessions : Nat → Option (Session σ)

namespace Server

variable {σ : Type}

/-- `POP3SF.__init__`: the counter at `1`, an empty registry, no connection. -/
def initial : Server σ := ⟨1, [], fun _ => none⟩

/-- `_accept_client_connection_on_a_server_socket`: the socket gets the counter's id
and, if `_start_per_client_thread` starts a thread for it (`started`), a connection
with a freshly constructed adapter and the registry as it is; the counter moves on
either way. -/
def acceptClientConnection (srv : Server σ) (started : Bool) (clientAddress : String)
    (clientPort : Nat) (adapter : σ) : Server σ where
  nextConnectionId := srv.nextConnectionId + 1
  clients := srv.clients
  sessions j :=
    if started = true ∧ j = srv.nextConnectionId then
      some (Session.initial ⟨srv.nextConnectionId, clientAddress, clientPort⟩ adapter srv.clients)
    else srv.sessions j

/-- Connection `i` has stepped to `t`: the registry `t` left is now every
connection's. -/
def update (srv : Server σ) (i : Nat) (t : Session σ) : Server σ where
  nextConnectionId := srv.nextConnectionId
  clients := t.world.clients
  sessions j := if j = i then some t else (srv.sessions j).map (·.withClients t.world.clients)

end Server

/-- The server's steps: a socket is accepted, or the thread of connection `i` takes
one of its steps. -/
inductive ServerStep {σ : Type} (cfg : Settings) (A : AdapterBase σ) : Server σ → Server σ → Prop
  | accept (srv : Server σ) (started : Bool) (clientAddress : String) (clientPort : Nat)
      (adapter : σ) :
      ServerStep cfg A srv (srv.acceptClientConnection started clientAddress clientPort adapter)
  | step (srv : Server σ) (i : Nat) {s t : Session σ} :
      srv.sessions i = some s → OwnStep cfg A s t → ServerStep cfg A srv (srv.update i t)

/-! ## The server driven by events -/

/-- What can happen next: a socket is accepted, or a connection takes a step. -/
inductive Server.Event (σ : Type) where
  | accept (started : Bool) (clientAddress : String) (clientPort : Nat) (adapter : σ)
  | opened (i : Nat)
  | line (i : Nat) (line : String)
  | dropped (i : Nat)
  | tornDown (i : Nat)

namespace Server

variable {σ : Type} (cfg : Settings) (A : AdapterBase σ)

/-- Connection `i` takes the step `f` if it is in phase `ph`; otherwise nothing
happens. -/
def advance (srv : Server σ) (i : Nat) (ph : Phase) (f : Session σ → Session σ) : Server σ :=
  match srv.sessions i with
  | some s => if s.phase = ph then srv.update i (f s) else srv
  | none => srv

/-- One event. -/
def perform (srv : Server σ) : Event σ → Server σ
  | .accept started clientAddress clientPort adapter =>
    srv.acceptClientConnection started clientAddress clientPort adapter
  | .opened i => srv.advance i .opening (·.opened A)
  | .line i line => srv.advance i .serving (·.serveLine cfg A line)
  | .dropped i => srv.advance i .serving ({ · with phase := .closing })
  | .tornDown i => srv.advance i .closing (·.tornDown A)

/-- A schedule of events, in order. -/
def run (srv : Server σ) (events : List (Event σ)) : Server σ :=
  events.foldl (perform cfg A) srv

variable {cfg A}

theorem advance_step {srv : Server σ} {i : Nat} {ph : Phase} {f : Session σ → Session σ}
    (hf : ∀ s, s.phase = ph → OwnStep cfg A s (f s)) :
    Relation.ReflTransGen (ServerStep cfg A) srv (srv.advance i ph f) := by
  unfold advance
  split
  · split
    · exact .single (.step srv i ‹_› (hf _ ‹_›))
    · exact .refl
  · exact .refl

/-- Every event is a step of the server, or does nothing. -/
theorem perform_step (srv : Server σ) :
    ∀ e : Event σ, Relation.ReflTransGen (ServerStep cfg A) srv (srv.perform cfg A e)
  | .accept .. => .single (.accept ..)
  | .opened _ => advance_step (.opened)
  | .line _ line => advance_step (.line · line)
  | .dropped _ => advance_step (.dropped)
  | .tornDown _ => advance_step (.tornDown)

theorem run_reachable (events : List (Event σ)) :
    ∀ srv : Server σ, Relation.ReflTransGen (ServerStep cfg A) srv (srv.run cfg A events) := by
  induction events with
  | nil => exact fun _ => .refl
  | cons e more ih =>
    exact fun srv => (perform_step srv e).trans (ih _)

/-- Every step of the server is an event. -/
theorem ServerStep.exists_event {srv srv' : Server σ} (h : ServerStep cfg A srv srv') :
    ∃ e, srv' = srv.perform cfg A e := by
  cases h with
  | accept started clientAddress clientPort adapter =>
    exact ⟨.accept started clientAddress clientPort adapter, rfl⟩
  | step i hs hstep =>
    cases hstep with
    | opened hph => exact ⟨.opened i, by simp [perform, advance, hs, hph]⟩
    | line line hph => exact ⟨.line i line, by simp [perform, advance, hs, hph]⟩
    | dropped hph => exact ⟨.dropped i, by simp [perform, advance, hs, hph]⟩
    | tornDown hph => exact ⟨.tornDown i, by simp [perform, advance, hs, hph]⟩

/-- The states the server reaches are those some schedule of events reaches. -/
theorem reachable_iff_run {srv srv' : Server σ} :
    Relation.ReflTransGen (ServerStep cfg A) srv srv' ↔ ∃ events, srv' = srv.run cfg A events := by
  refine ⟨fun h => ?_, fun ⟨events, h⟩ => h ▸ run_reachable events srv⟩
  induction h with
  | refl => exact ⟨[], rfl⟩
  | tail _ hstep ih =>
    obtain ⟨events, rfl⟩ := ih
    obtain ⟨e, rfl⟩ := ServerStep.exists_event hstep
    exact ⟨events ++ [e], by simp [run, List.foldl_append]⟩

end Server

/-! ## The invariant -/

section Invariant

variable {σ : Type} {cfg : Settings} {A : AdapterBase σ}

/-- What holds of the connection `s` the server keeps under id `i`: it has that id,
which the counter has passed; its registry is the server's; it keeps its own
invariant; and every call it made was made with its id and an exclusive
registry. -/
structure Server.SessionOk (srv : Server σ) (i : Nat) (s : Session σ) : Prop where
  connectionId_eq : s.connectionId = i
  lt : i < srv.nextConnectionId
  clients_eq : s.world.clients = srv.clients
  invariant : s.Invariant
  calls : ∀ p ∈ s.world.calls,
    p.2.status.connectionInfo.connectionId = i ∧ Exclusive p.2.clients

/-- The server's invariant: the registry is exclusive and holds only ids the counter
has passed, and every connection is `SessionOk`. -/
structure Server.Invariant (srv : Server σ) : Prop where
  exclusive : Exclusive srv.clients
  registry_lt : ∀ c ∈ srv.clients, c.connectionId < srv.nextConnectionId
  sessions : ∀ i s, srv.sessions i = some s → srv.SessionOk i s

theorem Server.Invariant.initial : (Server.initial : Server σ).Invariant :=
  ⟨List.Pairwise.nil, fun c hc => absurd hc (List.not_mem_nil c), fun _ _ h => nomatch h⟩

theorem Server.Invariant.acceptClientConnection {srv : Server σ} (h : srv.Invariant)
    (started : Bool) (clientAddress : String) (clientPort : Nat) (adapter : σ) :
    (srv.acceptClientConnection started clientAddress clientPort adapter).Invariant where
  exclusive := h.exclusive
  registry_lt c hc := Nat.lt_succ_of_lt (h.registry_lt c hc)
  sessions i s hs := by
    simp only [Server.acceptClientConnection] at hs
    split at hs
    · rename_i hi
      obtain rfl := hi.2
      cases hs
      exact ⟨rfl, Nat.lt_succ_self _, rfl,
        .initial _ _ fun c hc => (h.registry_lt c hc).ne,
        fun p hp => absurd hp (List.not_mem_nil p)⟩
    · have hok := h.sessions i s hs
      exact ⟨hok.connectionId_eq, Nat.lt_succ_of_lt hok.lt, hok.clients_eq, hok.invariant, hok.calls⟩

/-- A call of a run is an old one or one the run appended. -/
theorem mem_or_mem_appended {α : Type} {l l' : List α} {x : α} (h : l <+: l') (hx : x ∈ l') :
    x ∈ l ∨ x ∈ l'.drop l.length := by
  obtain ⟨r, rfl⟩ := h
  simpa using hx

/-- A change that keeps the entries that are not connection `st`'s keeps those of
every other connection `st'`. -/
theorem filter_owns_of_ne {st st' : ClientStatusHolder}
    (hne : st'.connectionInfo.connectionId ≠ st.connectionInfo.connectionId)
    {clients clients' : List Client}
    (h : clients'.filter (fun c => !st.owns c) = clients.filter (fun c => !st.owns c)) :
    clients'.filter st'.owns = clients.filter st'.owns := by
  have hsub : ∀ l : List Client, (l.filter fun c => !st.owns c).filter st'.owns = l.filter st'.owns := by
    intro l
    rw [List.filter_filter]
    congr 1
    funext c
    unfold ClientStatusHolder.owns
    by_cases hc : c.connectionId = st'.connectionInfo.connectionId <;> simp [hc, hne]
  rw [← hsub clients', h, hsub]

/-- Every entry a step leaves in the registry was there before or is the stepping
connection's own. -/
theorem World.Evolves.mem_clients {w w' : World σ} (he : w.Evolves A w') {c : Client}
    (hc : c ∈ w'.clients) : c ∈ w.clients ∨ c.connectionId = w.status.connectionInfo.connectionId := by
  by_cases hown : w.status.owns c = true
  · exact .inr (by simpa [ClientStatusHolder.owns] using hown)
  · have hmem : c ∈ w'.clients.filter fun c => !w.status.owns c := List.mem_filter.2 ⟨hc, by simpa using hown⟩
    rw [he.otherEntries] at hmem
    exact .inl (List.mem_filter.1 hmem).1

/-- The stepping connection, after its step. -/
theorem Server.SessionOk.stepped {srv : Server σ} {i : Nat} {s t : Session σ}
    (hok : srv.SessionOk i s) (ht : t.Invariant) (he : s.world.Evolves A t.world)
    (hex : Exclusive s.world.clients) : (srv.update i t).SessionOk i t where
  connectionId_eq := (congrArg ClientConnectionInfoHolder.connectionId he.status.connectionInfo_eq).trans
    hok.connectionId_eq
  lt := hok.lt
  clients_eq := rfl
  invariant := ht
  calls p hp := (mem_or_mem_appended he.calls hp).elim (hok.calls p) fun hp =>
    ⟨(congrArg ClientConnectionInfoHolder.connectionId (he.newCalls p hp).1).trans hok.connectionId_eq,
      (he.newCalls p hp).2 hex⟩

/-- Another connection, after connection `i`'s step. -/
theorem Server.SessionOk.interfered {srv : Server σ} {i j : Nat} {s s' t : Session σ}
    (hok : srv.SessionOk i s) (hok' : srv.SessionOk j s') (hne : j ≠ i)
    (he : s.world.Evolves A t.world) :
    (srv.update i t).SessionOk j (s'.withClients t.world.clients) where
  connectionId_eq := hok'.connectionId_eq
  lt := hok'.lt
  clients_eq := rfl
  invariant := hok'.invariant.withClients <| by
    rw [hok'.clients_eq, ← hok.clients_eq]
    exact filter_owns_of_ne (fun heq => hne (hok'.connectionId_eq.symm.trans
      (heq.trans hok.connectionId_eq))) he.otherEntries
  calls := hok'.calls

theorem Server.Invariant.update {srv : Server σ} (h : srv.Invariant) {i : Nat} {s t : Session σ}
    (hs : srv.sessions i = some s) (hstep : OwnStep cfg A s t) : (srv.update i t).Invariant := by
  have hok := h.sessions i s hs
  obtain ⟨ht, he⟩ := hstep.invariant hok.invariant
  have hex : Exclusive s.world.clients := hok.clients_eq ▸ h.exclusive
  refine ⟨he.exclusive hex, fun c hc => ?_, fun j s' hs' => ?_⟩
  · rcases he.mem_clients hc with hc | hc
    · exact h.registry_lt c (hok.clients_eq ▸ hc)
    · exact hc.trans hok.connectionId_eq ▸ hok.lt
  · simp only [Server.update] at hs'
    split at hs'
    · rename_i hj
      subst hj
      cases hs'
      exact hok.stepped ht he hex
    · obtain ⟨s'', hs'', rfl⟩ := Option.map_eq_some'.1 hs'
      exact hok.interfered (h.sessions j s'' hs'') ‹_› he

/-- Every step of the server keeps the invariant. -/
theorem ServerStep.invariant {srv srv' : Server σ} (h : ServerStep cfg A srv srv')
    (hs : srv.Invariant) : srv'.Invariant := by
  cases h with
  | accept started clientAddress clientPort adapter =>
    exact hs.acceptClientConnection started clientAddress clientPort adapter
  | step i hi hstep => exact hs.update hi hstep

theorem Server.Invariant.run {srv srv' : Server σ} (hs : srv.Invariant)
    (h : Relation.ReflTransGen (ServerStep cfg A) srv srv') : srv'.Invariant := by
  induction h with
  | refl => exact hs
  | tail _ hstep ih => exact hstep.invariant ih

end Invariant

/-! ## Per-user exclusivity -/

section Exclusivity

variable {σ : Type} {cfg : Settings} {A : AdapterBase σ}

/-- A session authenticated as `u` that has not run `remove_client` yet. -/
def Session.AuthenticatedAs (u : String) (s : Session σ) : Prop :=
  s.phase ≠ .closed ∧ s.world.status.authenticated = true ∧ s.world.status.username = some u

instance (u : String) (s : Session σ) : Decidable (s.AuthenticatedAs u) :=
  inferInstanceAs (Decidable (_ ∧ _ ∧ _))

theorem compatible_symm : Symmetric Compatible :=
  fun _ _ h hu => (h hu.symm).symm

/-- In an exclusive registry, a read-write entry is its user's only one. -/
theorem Exclusive.eq_of_readOnly_false {clients : List Client} (h : Exclusive clients)
    {c d : Client} (hc : c ∈ clients) (hrw : c.readOnly = false) (hd : d ∈ clients)
    (hu : d.username = c.username) : d = c := by
  by_contra hne
  simpa [hrw] using List.Pairwise.forall compatible_symm h hd hc hne hu

/-- An authenticated session's own entry is in the registry its status agrees
with. -/
theorem ClientStatusHolder.Consistent.entry_mem {st : ClientStatusHolder} {clients : List Client}
    (h : st.Consistent clients) (ha : st.authenticated = true) :
    ∃ u, st.username = some u ∧
      (⟨st.connectionInfo.connectionId, u, st.readOnlyMailboxAccess⟩ : Client) ∈ clients := by
  obtain ⟨u, hu⟩ := Option.isSome_iff_exists.1 (h.authenticated_eq ▸ ha)
  have hmem : (⟨st.connectionInfo.connectionId, u, st.readOnlyMailboxAccess⟩ : Client) ∈
      clients.filter st.owns := by
    rw [h.ownEntries_eq]
    simp [ClientStatusHolder.registryEntry, ha, hu]
  exact ⟨u, hu, (List.mem_filter.1 hmem).1⟩

/-- A live session authenticated as `u` has its entry in the server's registry. -/
theorem Server.SessionOk.entry_mem {srv : Server σ} {i : Nat} {s : Session σ} {u : String}
    (hok : srv.SessionOk i s) (ha : s.AuthenticatedAs u) :
    (⟨i, u, s.world.status.readOnlyMailboxAccess⟩ : Client) ∈ srv.clients := by
  obtain ⟨u', hu', hmem⟩ := (hok.invariant.consistent ha.1).entry_mem ha.2.1
  rw [ha.2.2, Option.some_inj] at hu'
  subst hu'
  rw [← hok.clients_eq, ← hok.connectionId_eq]
  exact hmem

/-- Two connections authenticated as one user are both read-only. -/
theorem Server.Invariant.readOnly_of_ne {srv : Server σ} (h : srv.Invariant) {i j : Nat}
    {s s' : Session σ} {u : String} (hs : srv.sessions i = some s) (hs' : srv.sessions j = some s')
    (hne : i ≠ j) (ha : s.AuthenticatedAs u) (ha' : s'.AuthenticatedAs u) :
    s.world.status.readOnlyMailboxAccess = true ∧ s'.world.status.readOnlyMailboxAccess = true :=
  List.Pairwise.forall compatible_symm h.exclusive ((h.sessions i s hs).entry_mem ha)
    ((h.sessions j s' hs').entry_mem ha') (by simp [hne]) rfl

/-- A call an authenticated session made found the session's own entry, and a call
that touches the deletion marks found no other entry of its user. -/
theorem Server.SessionOk.call_entries {srv : Server σ} {i : Nat} {s : Session σ}
    (hok : srv.SessionOk i s) {p : AdapterCall × Snapshot σ} (hp : p ∈ s.world.calls) :
    (p.2.status.authenticated = true → ∃ u, p.2.status.username = some u ∧
      (⟨i, u, p.2.status.readOnlyMailboxAccess⟩ : Client) ∈ p.2.clients) ∧
    (p.1.touchesDeletionMarks = true → p.2.status.readOnlyMailboxAccess = false ∧
      ∃ u, p.2.status.username = some u ∧ ∀ c ∈ p.2.clients, c.username = u → c.connectionId = i) := by
  have hc := hok.invariant.calls p hp
  have hentry : p.2.status.authenticated = true → ∃ u, p.2.status.username = some u ∧
      (⟨i, u, p.2.status.readOnlyMailboxAccess⟩ : Client) ∈ p.2.clients := fun ha =>
    (hok.calls p hp).1 ▸ hc.consistent.entry_mem ha
  refine ⟨hentry, fun htouch => ?_⟩
  have hrw : p.2.status.readOnlyMailboxAccess = false :=
    Bool.eq_false_iff.2 fun hro => by simp [hc.readOnly hro] at htouch
  have hneeds : p.1.needsLogin = true := by
    cases hcall : p.1 <;> simp_all [AdapterCall.touchesDeletionMarks, AdapterCall.needsLogin]
  obtain ⟨u, hu, hmem⟩ := hentry (hc.authenticated hneeds)
  refine ⟨hrw, u, hu, fun c hc' hcu => ?_⟩
  rw [(hok.calls p hp).2.eq_of_readOnly_false hmem hrw hc' hcu]

/-- Per-user exclusivity over every interleaving of every number of connections.  In
every state the server reaches, for every user `u`: the sessions authenticated as
`u` that have not been torn down are all read-only, or are one read-write session;
every adapter call an authenticated session has made was made while the registry
held the session's own entry; and every call that touches the deletion marks was
made by a read-write session while the registry held no entry of its user but the
session's own, so within no other session's registered lifetime. -/
theorem server_per_user_exclusivity {srv : Server σ}
    (hrun : Relation.ReflTransGen (ServerStep cfg A) Server.initial srv) :
    (∀ u, (∀ i s, srv.sessions i = some s → s.AuthenticatedAs u →
        s.world.status.readOnlyMailboxAccess = true) ∨
      ∃ i s, srv.sessions i = some s ∧ s.AuthenticatedAs u ∧
        s.world.status.readOnlyMailboxAccess = false ∧
        ∀ j s', srv.sessions j = some s' → s'.AuthenticatedAs u → j = i) ∧
    ∀ i s, srv.sessions i = some s → ∀ p ∈ s.world.calls,
      (p.2.status.authenticated = true → ∃ u, p.2.status.username = some u ∧
        (⟨i, u, p.2.status.readOnlyMailboxAccess⟩ : Client) ∈ p.2.clients) ∧
      (p.1.touchesDeletionMarks = true → p.2.status.readOnlyMailboxAccess = false ∧
        ∃ u, p.2.status.username = some u ∧
          ∀ c ∈ p.2.clients, c.username = u → c.connectionId = i) := by
  have h := Server.Invariant.initial.run hrun
  refine ⟨fun u => ?_, fun i s hs p hp => (h.sessions i s hs).call_entries hp⟩
  by_cases hrw : ∃ i s, srv.sessions i = some s ∧ s.AuthenticatedAs u ∧
      s.world.status.readOnlyMailboxAccess = false
  · obtain ⟨i, s, hs, ha, hro⟩ := hrw
    refine .inr ⟨i, s, hs, ha, hro, fun j s' hs' ha' => ?_⟩
    by_contra hne
    simp [(h.readOnly_of_ne hs hs' (Ne.symm hne) ha ha').1] at hro
  · push_neg at hrw
    exact .inl fun i s hs ha => by simpa using hrw i s hs ha

/-- Two read-write logins of one user: the second session's first `PASS` is refused
while the first session is registered, and its second succeeds once the first has
quit and been torn down. -/
theorem server_per_user_exclusivity_two_logins :
    ∃ srv : Server ListAdapter, srv = Server.initial.run Settings.default (ListAdapter.adapter id)
        [.accept true "127.0.0.1" 50000 (ListAdapter.new "bob" "pw" ["hi"]),
          .accept true "127.0.0.1" 50001 (ListAdapter.new "bob" "pw" ["hi"]),
          .opened 1, .opened 2, .line 1 "USER bob", .line 1 "PASS pw", .line 2 "USER bob",
          .line 2 "PASS pw", .line 1 "QUIT", .tornDown 1, .line 2 "PASS pw"] ∧
      Relation.ReflTransGen (ServerStep Settings.default (ListAdapter.adapter id)) Server.initial srv ∧
      ((∀ u, (∀ i s, srv.sessions i = some s → s.AuthenticatedAs u →
          s.world.status.readOnlyMailboxAccess = true) ∨
        ∃ i s, srv.sessions i = some s ∧ s.AuthenticatedAs u ∧
          s.world.status.readOnlyMailboxAccess = false ∧
          ∀ j s', srv.sessions j = some s' → s'.AuthenticatedAs u → j = i) ∧
      ∀ i s, srv.sessions i = some s → ∀ p ∈ s.world.calls,
        (p.2.status.authenticated = true → ∃ u, p.2.status.username = some u ∧
          (⟨i, u, p.2.status.readOnlyMailboxAccess⟩ : Client) ∈ p.2.clients) ∧
        (p.1.touchesDeletionMarks = true → p.2.status.readOnlyMailboxAccess = false ∧
          ∃ u, p.2.status.username = some u ∧
            ∀ c ∈ p.2.clients, c.username = u → c.connectionId = i)) ∧
      (srv.sessions 2).map (fun s => (s.world.status.authenticated, s.world.calls.map Prod.fst)) =
        some (true, [.connectionOpened "127.0.0.1" 50001, .verifyLoginCredentials "bob" "pw",
          .verifyLoginCredentials "bob" "pw", .loginSuccessful "bob" false]) :=
  have hrun := @Server.run_reachable _ Settings.default (ListAdapter.adapter id) _ Server.initial
  ⟨_, rfl, hrun, server_per_user_exclusivity hrun, by decide⟩

end Exclusivity

end Pop3sf
