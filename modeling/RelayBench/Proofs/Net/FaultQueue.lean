import RelayBench.Net.FaultQueue

/-! Fault queues whose faults are all of some kind, such as the operating system's.  Calls take entries
out and events put entries in; neither brings in a fault of another kind. -/
namespace RelayBench
namespace FaultQueue

/-- Every fault in store is of some kind for its call. -/
def Stores (kind : Call → Fault → Prop) (queue : FaultQueue) : Prop :=
  ∀ call fault, (call, some fault) ∈ queue → kind call fault

section

variable {kind : Call → Fault → Prop}

theorem stores_nil : Stores kind [] := nofun

theorem stores_drop {queue : FaultQueue} (stores : Stores kind queue) (call : Call) :
    Stores kind (FaultQueue.drop queue call) :=
  fun other fault member => stores other fault (List.mem_of_mem_eraseP member)

theorem stores_push {queue : FaultQueue} (stores : Stores kind queue) {call : Call}
    {faults : List (Option Fault)} (added : ∀ fault, some fault ∈ faults → kind call fault) :
    Stores kind (FaultQueue.push queue call faults) := by
  intro other fault member
  rcases List.mem_append.mp member with old | new
  · exact stores other fault old
  · obtain ⟨entry, present, equal⟩ := List.mem_map.mp new
    cases equal
    exact added fault present

theorem next_stored {queue : FaultQueue} (stores : Stores kind queue) {call : Call} {fault : Fault}
    (found : FaultQueue.next queue call = some fault) : kind call fault := by
  obtain ⟨entry, first, value⟩ := Option.bind_eq_some_iff.mp found
  have named : entry.1 = call := by simpa using List.find?_some first
  have member := List.mem_of_find?_eq_some first
  rcases entry with ⟨other, stored⟩
  simp only at named value
  subst named value
  exact stores _ fault member

end

/-- Every fault in store is the operating system's.  Readiness waits are left out: what ends a wait
is not for the relay to handle. -/
def AllOs (queue : FaultQueue) : Prop :=
  ∀ call fault, (call, some fault) ∈ queue → call ≠ .select → fault.isOs = true

/-- The kind of the operating system's faults, for all calls but readiness waits. -/
def IsOs (call : Call) (fault : Fault) : Prop := call ≠ .select → fault.isOs = true

theorem allOs_nil : AllOs [] := stores_nil

theorem allOs_drop {queue : FaultQueue} (os : AllOs queue) (call : Call) :
    AllOs (FaultQueue.drop queue call) :=
  stores_drop (show Stores IsOs queue from os) call

theorem next_isOs {queue : FaultQueue} (os : AllOs queue) {call : Call} {fault : Fault}
    (found : FaultQueue.next queue call = some fault) (waitless : call ≠ .select) :
    fault.isOs = true :=
  next_stored (show Stores IsOs queue from os) found waitless

/-- The entries that wait for one call. -/
def entries (queue : FaultQueue) (call : Call) : FaultQueue := queue.filter fun entry => entry.1 == call

theorem next_eq (queue : FaultQueue) (call : Call) :
    FaultQueue.next queue call = (entries queue call).head?.bind (·.2) := by
  rw [FaultQueue.next, entries, List.head?_filter]

theorem holds_iff (queue : FaultQueue) (call : Call) :
    FaultQueue.holds queue call = true ↔ entries queue call ≠ [] := by
  simp [FaultQueue.holds, entries]

theorem drop_cons (entry : Call × Option Fault) (rest : FaultQueue) (call : Call) :
    FaultQueue.drop (entry :: rest) call = if entry.1 = call then rest else entry :: FaultQueue.drop rest call := by
  by_cases named : entry.1 = call <;> simp [FaultQueue.drop, named]

/-- A call takes the first of its entries and leaves those of the other calls. -/
theorem entries_drop (queue : FaultQueue) (call other : Call) :
    entries (FaultQueue.drop queue call) other =
      if call = other then (entries queue other).tail else entries queue other := by
  induction queue with
  | nil => simp [entries]
  | cons entry rest ih =>
    rw [drop_cons]
    by_cases named : entry.1 = call
    · by_cases same : call = other <;> simp [entries, named, same]
    · rw [if_neg named]
      simp only [entries, List.filter_cons] at ih ⊢
      rw [ih]
      by_cases same : call = other
      · subst same
        simp [named]
      · simp [same]

theorem entries_drop_of_ne {queue : FaultQueue} {call other : Call} (apart : call ≠ other) :
    entries (FaultQueue.drop queue call) other = entries queue other := by
  rw [entries_drop, if_neg apart]

theorem entries_push (queue : FaultQueue) (call other : Call) (faults : List (Option Fault)) :
    entries (FaultQueue.push queue call faults) other =
      entries queue other ++ if call = other then faults.map (call, ·) else [] := by
  rw [entries, FaultQueue.push, List.filter_append]
  by_cases same : call = other <;> simp [entries, same]

theorem next_drop {queue : FaultQueue} {call other : Call} (apart : call ≠ other) :
    FaultQueue.next (FaultQueue.drop queue call) other = FaultQueue.next queue other := by
  rw [next_eq, next_eq, entries_drop_of_ne apart]

end FaultQueue
end RelayBench
