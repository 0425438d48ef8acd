import Mathlib.Data.List.Nodup
import Pop3sf.Server

set_option autoImplicit false

/-!
# The limit on concurrent connections (`POP3SF.py`)

`Server` lets a step decide freely whether an accepted socket gets a thread.  `POP3SF`
decides it in `_start_per_client_thread`: `_check_if_another_client_can_be_connected`
first drops from `_threads` the threads that are no longer alive, then allows a new
one while fewer than `MAX_CONCURRENT_CLIENTS` are left; a started thread is appended
to `_threads`.  A thread is alive until `initialize_client_handler` returns, that is
until its connection is torn down (`Server.isAlive`).

`POP3SF.Step` is the accept loop with that decision, interleaved with the steps of the
connections.  Every such step is a step of `Server` (`POP3SF.Step.serverStep`), so
everything proved of every reachable server holds of it.  Over every interleaving:

* the connections being served never number more than `MAX_CONCURRENT_CLIENTS`, and
  `_threads` never holds more threads than that (`concurrent_connections_le`);
* the check refuses a connection exactly when `MAX_CONCURRENT_CLIENTS` connections are
  being served (`checkIfAnotherClientCanBeConnected_eq`): the pruning by `is_alive`
  makes `_threads` count exactly the live connections.

A socket whose TLS handshake fails (`ssl.SSLError` in `accept`) changes nothing, not
even the counter, and is not a step.
-/

namespace Pop3sf

namespace Server

variable {σ : Type}

/-- `thread.is_alive()` for the thread of connection `i`: a thread was started for it
and `initialize_client_handler` has not returned. -/
def isAlive (srv : Server σ) (i : Nat) : Bool :=
  match srv.sessions i with
  | some s => s.phase != .closed
  | none => false

/-- The connections being served: the ids below the counter whose thread is alive. -/
def liveCount (srv : Server σ) : Nat :=
  ((List.range srv.nextConnectionId).filter srv.isAlive).length

@[simp] theorem acceptClientConnection_nextConnectionId (srv : Server σ) (started : Bool)
    (clientAddress : String) (clientPort : Nat) (adapter : σ) :
    (srv.acceptClientConnection started clientAddress clientPort adapter).nextConnectionId =
      srv.nextConnectionId + 1 :=
  rfl

@[simp] theorem update_nextConnectionId (srv : Server σ) (i : Nat) (t : Session σ) :
    (srv.update i t).nextConnectionId = srv.nextConnectionId :=
  rfl

theorem isAlive_acceptClientConnection (srv : Server σ) (started : Bool) (clientAddress : String)
    (clientPort : Nat) (adapter : σ) (j : Nat) :
    (srv.acceptClientConnection started clientAddress clientPort adapter).isAlive j =
      (started && j == srv.nextConnectionId || srv.isAlive j) := by
  by_cases hj : started = true ∧ j = srv.nextConnectionId
  · obtain ⟨rfl, rfl⟩ := hj
    simp [isAlive, acceptClientConnection, Session.initial]
  · have hj' : (started && j == srv.nextConnectionId) = false := by
      cases started <;> simp_all
    simp only [isAlive, acceptClientConnection, if_neg hj, hj', Bool.false_or]

theorem isAlive_update (srv : Server σ) (i : Nat) (t : Session σ) (j : Nat) :
    (srv.update i t).isAlive j = if j = i then t.phase != .closed else srv.isAlive j := by
  by_cases hji : j = i
  · simp [isAlive, update, hji]
  · simp only [isAlive, update, if_neg hji]
    cases srv.sessions j <;> rfl

theorem sessions_eq_some_of_isAlive {srv : Server σ} {i : Nat} (h : srv.isAlive i = true) :
    ∃ s, srv.sessions i = some s ∧ s.phase ≠ .closed := by
  unfold isAlive at h
  split at h
  · exact ⟨_, ‹_›, by simpa using h⟩
  · cases h

end Server

/-- A closed connection takes no more steps of its own. -/
theorem OwnStep.phase_ne_closed {σ : Type} {cfg : Settings} {A : AdapterBase σ} {s t : Session σ}
    (h : OwnStep cfg A s t) : s.phase ≠ .closed := by
  cases h <;> simp_all

/-- `POP3SF`: the server, and `_threads`, the ids of the connections a thread was
started for, as the last check left them. -/
structure POP3SF (σ : Type) where
  server : Server σ
  threads : List Nat

namespace POP3SF

variable {σ : Type}

/-- `POP3SF.__init__`: the server of `Server.initial`, no thread. -/
def initial : POP3SF σ := ⟨Server.initial, []⟩

/-- `_check_if_another_client_can_be_connected`: `_threads` without the threads that
are no longer alive, and whether fewer than `MAX_CONCURRENT_CLIENTS` are left. -/
def checkIfAnotherClientCanBeConnected (maxConcurrentClients : Int) (p : POP3SF σ) :
    List Nat × Bool :=
  let threads := p.threads.filter p.server.isAlive
  (threads, decide ((threads.length : Int) < maxConcurrentClients))

/-- `_start_per_client_thread` for connection `connectionId`: `_threads` after it, and
whether a thread was started (otherwise the socket is closed). -/
def startPerClientThread (maxConcurrentClients : Int) (p : POP3SF σ) (connectionId : Nat) :
    List Nat × Bool :=
  match p.checkIfAnotherClientCanBeConnected maxConcurrentClients with
  | (threads, true) => (threads ++ [connectionId], true)
  | (threads, false) => (threads, false)

/-- `_accept_client_connection_on_a_server_socket`: the socket gets the counter's id,
`_start_per_client_thread` decides whether it is served, and the counter moves on. -/
def acceptClientConnectionOnAServerSocket (maxConcurrentClients : Int) (p : POP3SF σ)
    (clientAddress : String) (clientPort : Nat) (adapter : σ) : POP3SF σ :=
  let (threads, started) := p.startPerClientThread maxConcurrentClients p.server.nextConnectionId
  ⟨p.server.acceptClientConnection started clientAddress clientPort adapter, threads⟩

/-- The steps of `POP3SF`: a socket is accepted, or the thread of connection `i`
takes one of its steps. -/
inductive Step (cfg : Settings) (A : AdapterBase σ) (maxConcurrentClients : Int) :
    POP3SF σ → POP3SF σ → Prop
  | accept (p : POP3SF σ) (clientAddress : String) (clientPort : Nat) (adapter : σ) :
      Step cfg A maxConcurrentClients p
        (p.acceptClientConnectionOnAServerSocket maxConcurrentClients clientAddress clientPort
          adapter)
  | step (p : POP3SF σ) (i : Nat) {s t : Session σ} :
      p.server.sessions i = some s → OwnStep cfg A s t →
      Step cfg A maxConcurrentClients p ⟨p.server.update i t, p.threads⟩

variable {cfg : Settings} {A : AdapterBase σ} {maxConcurrentClients : Int}

theorem startPerClientThread_eq (p : POP3SF σ) (connectionId : Nat) :
    p.startPerClientThread maxConcurrentClients connectionId =
      let c := p.checkIfAnotherClientCanBeConnected maxConcurrentClients
      (if c.2 then c.1 ++ [connectionId] else c.1, c.2) := by
  unfold startPerClientThread
  split <;> simp_all

/-- Every step of `POP3SF` is a step of the server. -/
theorem Step.serverStep {p q : POP3SF σ} (h : Step cfg A maxConcurrentClients p q) :
    ServerStep cfg A p.server q.server := by
  cases h with
  | accept clientAddress clientPort adapter => exact .accept ..
  | step i hs hstep => exact .step _ i hs hstep

/-! ## The invariant -/

/-- What every reachable `POP3SF` keeps: `_threads` holds distinct ids the counter has
passed, at most `MAX_CONCURRENT_CLIENTS` of them, among them every live connection;
and no connection has an id the counter has not reached. -/
structure Invariant (maxConcurrentClients : Int) (p : POP3SF σ) : Prop where
  threads_nodup : p.threads.Nodup
  threads_lt : ∀ i ∈ p.threads, i < p.server.nextConnectionId
  threads_length_le : p.threads.length ≤ maxConcurrentClients.toNat
  alive_mem : ∀ i, p.server.isAlive i = true → i ∈ p.threads
  sessions_eq_none : ∀ i, p.server.nextConnectionId ≤ i → p.server.sessions i = none

theorem Invariant.initial : (initial : POP3SF σ).Invariant maxConcurrentClients :=
  ⟨List.nodup_nil, fun _ h => absurd h (List.not_mem_nil _), Nat.zero_le _,
    fun _ h => by simp [Server.isAlive, POP3SF.initial, Server.initial] at h, fun _ _ => rfl⟩

variable {p : POP3SF σ}

/-- The live threads `_threads` holds are exactly the live connections. -/
theorem Invariant.filter_threads_perm (h : p.Invariant maxConcurrentClients) :
    List.Perm (p.threads.filter p.server.isAlive)
      ((List.range p.server.nextConnectionId).filter p.server.isAlive) := by
  refine (List.perm_ext_iff_of_nodup (h.threads_nodup.filter _)
    ((List.nodup_range _).filter _)).2 fun i => ?_
  simp only [List.mem_filter, List.mem_range]
  exact ⟨fun ⟨hi, ha⟩ => ⟨h.threads_lt i hi, ha⟩,
    fun ⟨_, ha⟩ => ⟨h.alive_mem i ha, ha⟩⟩

theorem Invariant.length_filter_threads (h : p.Invariant maxConcurrentClients) :
    (p.threads.filter p.server.isAlive).length = p.server.liveCount :=
  h.filter_threads_perm.length_eq

theorem Invariant.accept (h : p.Invariant maxConcurrentClients) (clientAddress : String)
    (clientPort : Nat) (adapter : σ) :
    (p.acceptClientConnectionOnAServerSocket maxConcurrentClients clientAddress clientPort
      adapter).Invariant maxConcurrentClients := by
  simp only [acceptClientConnectionOnAServerSocket, startPerClientThread_eq,
    checkIfAnotherClientCanBeConnected]
  set threads := p.threads.filter p.server.isAlive with hthreads
  have hsub : ∀ i ∈ threads, i ∈ p.threads := fun i hi => (List.mem_filter.1 hi).1
  have hlen : threads.length ≤ p.threads.length := List.length_filter_le _ _
  have hnext : p.server.nextConnectionId ∉ threads := fun hn =>
    (h.threads_lt _ (hsub _ hn)).false
  by_cases hlt : (threads.length : Int) < maxConcurrentClients
  · simp only [decide_eq_true hlt, ↓reduceIte]
    refine ⟨(h.threads_nodup.filter _).append (List.nodup_singleton _)
        (List.disjoint_singleton.2 hnext), fun i hi => ?_, ?_, fun i hi => ?_, fun i hi => ?_⟩
    · rcases List.mem_append.1 hi with hi | hi
      · exact Nat.lt_succ_of_lt (h.threads_lt i (hsub i hi))
      · rw [List.mem_singleton.1 hi, Server.acceptClientConnection_nextConnectionId]
        exact Nat.lt_succ_self _
    · simp only [List.length_append, List.length_singleton]
      omega
    · rw [Server.isAlive_acceptClientConnection] at hi
      rcases Bool.or_eq_true _ _ ▸ hi with hi | hi
      · exact List.mem_append_right _ (List.mem_singleton.2 (by simpa using hi))
      · exact List.mem_append_left _ (List.mem_filter.2 ⟨h.alive_mem i hi, hi⟩)
    · simp only [Server.acceptClientConnection, Nat.succ_le_iff] at hi ⊢
      rw [if_neg fun hj => (hj.2 ▸ hi).false]
      exact h.sessions_eq_none i hi.le
  · simp only [decide_eq_false hlt, Bool.false_eq_true, ↓reduceIte]
    refine ⟨h.threads_nodup.filter _, fun i hi => Nat.lt_succ_of_lt (h.threads_lt i (hsub i hi)),
      hlen.trans h.threads_length_le, fun i hi => ?_, fun i hi => ?_⟩
    · rw [Server.isAlive_acceptClientConnection, Bool.false_and, Bool.false_or] at hi
      exact List.mem_filter.2 ⟨h.alive_mem i hi, hi⟩
    · simp only [Server.acceptClientConnection, Nat.succ_le_iff] at hi ⊢
      rw [if_neg fun hj => absurd hj.1 (by simp)]
      exact h.sessions_eq_none i hi.le

theorem Invariant.update (h : p.Invariant maxConcurrentClients) {i : Nat} {s t : Session σ}
    (hs : p.server.sessions i = some s) (hstep : OwnStep cfg A s t) :
    (⟨p.server.update i t, p.threads⟩ : POP3SF σ).Invariant maxConcurrentClients := by
  have hi : i < p.server.nextConnectionId := by
    by_contra hge
    simp [h.sessions_eq_none i (Nat.le_of_not_lt hge)] at hs
  refine ⟨h.threads_nodup, h.threads_lt, h.threads_length_le, fun j hj => ?_, fun j hj => ?_⟩
  · rw [Server.isAlive_update] at hj
    split_ifs at hj with hji
    · subst hji
      exact h.alive_mem j (by simp [Server.isAlive, hs, hstep.phase_ne_closed])
    · exact h.alive_mem j hj
  · simp only [Server.update] at hj ⊢
    rw [if_neg (by omega), h.sessions_eq_none j hj, Option.map_none']

theorem Step.invariant {q : POP3SF σ} (hstep : Step cfg A maxConcurrentClients p q)
    (h : p.Invariant maxConcurrentClients) : q.Invariant maxConcurrentClients := by
  cases hstep with
  | accept clientAddress clientPort adapter => exact h.accept clientAddress clientPort adapter
  | step i hs hown => exact h.update hs hown

theorem Invariant.run {q : POP3SF σ} (h : p.Invariant maxConcurrentClients)
    (hrun : Relation.ReflTransGen (Step cfg A maxConcurrentClients) p q) :
    q.Invariant maxConcurrentClients := by
  induction hrun with
  | refl => exact h
  | tail _ hstep ih => exact hstep.invariant ih

end POP3SF

/-! ## The limit -/

section Limit

variable {σ : Type} {cfg : Settings} {A : AdapterBase σ} {maxConcurrentClients : Int}

/-- Over every interleaving of accepted sockets and connection steps, `POP3SF` runs as
the server model does, never serves more than `MAX_CONCURRENT_CLIENTS` connections at
once (none when the setting is not positive), and never keeps more threads than that in
`_threads`. -/
theorem concurrent_connections_le {p : POP3SF σ}
    (hrun : Relation.ReflTransGen (POP3SF.Step cfg A maxConcurrentClients) POP3SF.initial p) :
    Relation.ReflTransGen (ServerStep cfg A) Server.initial p.server ∧
      p.server.liveCount ≤ maxConcurrentClients.toNat ∧
      p.threads.length ≤ maxConcurrentClients.toNat := by
  have h := POP3SF.Invariant.initial.run hrun
  refine ⟨hrun.lift POP3SF.server fun _ _ => POP3SF.Step.serverStep, ?_, h.threads_length_le⟩
  calc p.server.liveCount = (p.threads.filter p.server.isAlive).length :=
        h.length_filter_threads.symm
    _ ≤ p.threads.length := List.length_filter_le _ _
    _ ≤ maxConcurrentClients.toNat := h.threads_length_le

/-- With `MAX_CONCURRENT_CLIENTS = 1`, two sockets accepted one after the other: a run
of the server, with at most one connection served. -/
theorem concurrent_connections_le_one :
    let A := ListAdapter.adapter id
    let p := (POP3SF.initial.acceptClientConnectionOnAServerSocket 1 "127.0.0.1" 50000
      (ListAdapter.new "bob" "pw" ["hi"])).acceptClientConnectionOnAServerSocket 1 "127.0.0.1"
      50001 (ListAdapter.new "bob" "pw" ["hi"])
    Relation.ReflTransGen (POP3SF.Step Settings.default A 1) POP3SF.initial p ∧
      (Relation.ReflTransGen (ServerStep Settings.default A) Server.initial p.server ∧
        p.server.liveCount ≤ (1 : Int).toNat ∧ p.threads.length ≤ (1 : Int).toNat) :=
  have hrun := (Relation.ReflTransGen.single (.accept _ _ _ _)).tail (.accept _ _ _ _)
  ⟨hrun, concurrent_connections_le hrun⟩

/- The second socket of that run gets id `2` and no thread. -/
example :
    (((POP3SF.initial.acceptClientConnectionOnAServerSocket 1 "127.0.0.1" 50000
      (ListAdapter.new "bob" "pw" ["hi"])).acceptClientConnectionOnAServerSocket 1 "127.0.0.1"
      50001 (ListAdapter.new "bob" "pw" ["hi"])).server.sessions 2).isNone ∧
    ((POP3SF.initial.acceptClientConnectionOnAServerSocket 1 "127.0.0.1" 50000
      (ListAdapter.new "bob" "pw" ["hi"])).acceptClientConnectionOnAServerSocket 1 "127.0.0.1"
      50001 (ListAdapter.new "bob" "pw" ["hi"])).threads = [1] := by
  decide

/-- Over every interleaving, `_check_if_another_client_can_be_connected` refuses a new
connection exactly when `MAX_CONCURRENT_CLIENTS` connections are being served: after
pruning, `_threads` counts exactly the live connections. -/
theorem checkIfAnotherClientCanBeConnected_eq {p : POP3SF σ}
    (hrun : Relation.ReflTransGen (POP3SF.Step cfg A maxConcurrentClients) POP3SF.initial p) :
    (p.checkIfAnotherClientCanBeConnected maxConcurrentClients).2 =
      decide ((p.server.liveCount : Int) < maxConcurrentClients) := by
  rw [POP3SF.checkIfAnotherClientCanBeConnected,
    (POP3SF.Invariant.initial.run hrun).length_filter_threads]

/-- With `MAX_CONCURRENT_CLIENTS = 1` and one connection being served, the check
answers as the live count says. -/
theorem checkIfAnotherClientCanBeConnected_eq_one_served :
    let p := POP3SF.initial.acceptClientConnectionOnAServerSocket 1 "127.0.0.1" 50000
      (ListAdapter.new "bob" "pw" ["hi"])
    Relation.ReflTransGen (POP3SF.Step Settings.default (ListAdapter.adapter id) 1)
        POP3SF.initial p ∧
      (p.checkIfAnotherClientCanBeConnected 1).2 = decide ((p.server.liveCount : Int) < 1) :=
  have hrun := Relation.ReflTransGen.single (POP3SF.Step.accept _ _ _ _)
  ⟨hrun, checkIfAnotherClientCanBeConnected_eq hrun⟩

end Limit

end Pop3sf
