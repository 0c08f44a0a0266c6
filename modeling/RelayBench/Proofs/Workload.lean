import Mathlib.Algebra.BigOperators.Group.Finset.Piecewise
import Mathlib.Algebra.Order.BigOperators.Group.Finset
import RelayBench.Proofs.Net.Door
import RelayBench.Proofs.Script
import RelayBench.Proofs.Transfer
import RelayBench.World.Workload

/-! How much there is left to do in a world, and what lowers it.  Reads, accepts and closings do; writes
never raise it; and an event raises it by its own weight at most, which its script has counted before. -/
namespace RelayBench

namespace World

variable {α : Type}

@[simp] theorem total_cons (count : Nat) (counts : List Nat) :
    total (count :: counts) = count + total counts := rfl

theorem total_append (early late : List Nat) : total (early ++ late) = total early + total late := by
  induction early with
  | nil => exact (Nat.zero_add _).symm
  | cons count rest ih => simp [ih, Nat.add_assoc]

theorem le_total {count : Nat} {counts : List Nat} (member : count ∈ counts) : count ≤ total counts := by
  induction counts with
  | nil => exact absurd member List.not_mem_nil
  | cons first rest ih =>
    rw [total_cons]
    rcases List.mem_cons.mp member with rfl | later
    · exact Nat.le_add_right _ _
    · exact Nat.le_add_left_of_le (ih later)

theorem total_map_add (items : List α) (first second : α → Nat) :
    total (items.map fun item => first item + second item) =
      total (items.map first) + total (items.map second) := by
  induction items with
  | nil => rfl
  | cons item rest ih =>
    simp only [List.map_cons, total_cons, ih]
    omega

theorem total_map_const (items : List α) (count : Nat) :
    total (items.map fun _ => count) = count * items.length := by
  induction items with
  | nil => rfl
  | cons item rest ih =>
    rw [List.map_cons, total_cons, ih, List.length_cons, Nat.mul_succ, Nat.add_comm]

theorem total_filter (items : List α) (keeps : α → Bool) (count : α → Nat) :
    total ((items.filter keeps).map count) =
      total (items.map fun item => if keeps item then count item else 0) := by
  induction items with
  | nil => rfl
  | cons item rest ih =>
    by_cases kept : keeps item = true
    · rw [List.filter_cons_of_pos kept, List.map_cons, List.map_cons, total_cons, total_cons, ih,
        if_pos kept]
    · rw [List.filter_cons_of_neg kept, List.map_cons, total_cons, ih, if_neg kept, Nat.zero_add]

/-- Of different numbers, those of a part count as much as the part does. -/
theorem total_sublist {part all : List Nat} (within : part.Sublist all) (once : all.Nodup)
    (count : Nat → Nat) :
    total (all.map fun item => if item ∈ part then count item else 0) = total (part.map count) := by
  induction within with
  | slnil => rfl
  | cons first within ih =>
    obtain ⟨new, once⟩ := List.nodup_cons.mp once
    have outside : first ∉ _ := fun member => new (within.subset member)
    rw [List.map_cons, total_cons, if_neg outside, Nat.zero_add, ih once]
  | cons_cons first within ih =>
    obtain ⟨new, once⟩ := List.nodup_cons.mp once
    rw [List.map_cons, List.map_cons, total_cons, total_cons, if_pos (List.mem_cons_self ..), ← ih once]
    congr 2
    refine List.map_congr_left fun item member => ?_
    have other : item ≠ first := fun same => new (same ▸ member)
    simp [other]

end World

namespace FaultQueue

theorem length_drop_le (queue : FaultQueue) (call : Call) : (FaultQueue.drop queue call).length ≤ queue.length :=
  List.length_eraseP_le

theorem length_drop_lt {queue : FaultQueue} {call : Call} (holds : FaultQueue.holds queue call = true) :
    (FaultQueue.drop queue call).length < queue.length := by
  obtain ⟨entry, member, named⟩ := List.any_eq_true.mp holds
  have fewer : (queue.eraseP fun entry => entry.1 == call).length = queue.length - 1 :=
    List.length_eraseP_of_mem member named
  unfold FaultQueue.drop
  have some := List.length_pos_of_mem member
  omega

theorem holds_of_next {queue : FaultQueue} {call : Call} {fault : Fault}
    (found : FaultQueue.next queue call = some fault) : FaultQueue.holds queue call = true := by
  obtain ⟨entry, first, _⟩ := Option.bind_eq_some_iff.mp found
  have named : (entry.1 == call) = true := by simpa using List.find?_some first
  exact List.any_eq_true.mpr ⟨entry, List.mem_of_find?_eq_some first, named⟩

end FaultQueue

namespace Stream

/-- What there is left to do for a stream that is open: bytes to read, faults to meet, and its closing. -/
def weight (stream : Stream) : Nat :=
  if stream.isOpen then stream.inbox.length + stream.faults.length + 1 else 0

theorem called_weight (stream : Stream) (call : Call) : (stream.called call).weight ≤ stream.weight := by
  have fewer := FaultQueue.length_drop_le stream.faults call
  unfold weight called
  split
  · dsimp only
    omega
  · exact Nat.le_refl _

theorem read_weight (stream : Stream) (size : Nat) :
    (stream.read size).2.weight + (stream.read size).1.taken.length ≤ stream.weight := by
  have lighter := stream.called_weight .recv
  have course := stream.read_course size
  generalize stream.read size = ran at course ⊢
  cases course with
  | closed => exact Nat.le_refl _
  | took opened =>
    simp only [weight, called, opened, if_true, Reading.taken, List.length_drop, List.length_take] at lighter ⊢
    omega
  | _ => exact lighter

theorem close_weight (stream : Stream) : stream.close.2.weight = 0 := by
  simp [weight, stream.close_isOpen]

end Stream

namespace Link

theorem read_weight (link : Link) (platform : Platform) (size : Int) :
    (link.read platform size).2.stream.weight + (link.read platform size).1.taken.length ≤ link.stream.weight := by
  rcases link.read_cases platform size with ⟨_, _, ran⟩ | ⟨_, ran⟩ <;> rw [ran]
  · exact Nat.le_refl _
  · exact Stream.read_weight _ _

theorem close_weight (link : Link) : link.close.2.stream.weight ≤ link.stream.weight := by
  unfold close
  split
  · exact Nat.le_refl _
  · exact Nat.le_trans (Nat.le_of_eq link.stream.close_weight) (Nat.zero_le _)

end Link

namespace Net

open Finset (range)

/-- What there is left to do in a network: for its open streams, its waiting links and its faults. -/
def load (net : Net) : Nat :=
  ∑ index ∈ range net.linkCount, (net.link index).stream.weight +
    ∑ door ∈ range net.doorCount, (net.door door).pending.length + net.faults.length

/-- Nothing of what there is left to do becomes more. -/
structure Eases (before after : Net) : Prop where
  linkCount : after.linkCount = before.linkCount
  doorCount : after.doorCount = before.doorCount
  links : ∀ index, (after.link index).stream.weight ≤ (before.link index).stream.weight
  doors : ∀ door, (after.door door).pending.length ≤ (before.door door).pending.length
  faults : after.faults.length ≤ before.faults.length

theorem Eases.load {before after : Net} (eases : Eases before after) : after.load ≤ before.load := by
  unfold Net.load
  rw [eases.linkCount, eases.doorCount]
  exact Nat.add_le_add (Nat.add_le_add (Finset.sum_le_sum fun index _ => eases.links index)
    (Finset.sum_le_sum fun door _ => eases.doors door)) eases.faults

/-- There is less to do once some stream or some queue of waiting links has become less. -/
theorem Eases.load_lt {before after : Net} (eases : Eases before after)
    (less : (∃ index, index < before.linkCount ∧
        (after.link index).stream.weight < (before.link index).stream.weight) ∨
      (∃ door, door < before.doorCount ∧
        (after.door door).pending.length < (before.door door).pending.length) ∨
      after.faults.length < before.faults.length) : after.load < before.load := by
  have streams : ∑ index ∈ range before.linkCount, (after.link index).stream.weight ≤
      ∑ index ∈ range before.linkCount, (before.link index).stream.weight :=
    Finset.sum_le_sum fun index _ => eases.links index
  have doors : ∑ door ∈ range before.doorCount, (after.door door).pending.length ≤
      ∑ door ∈ range before.doorCount, (before.door door).pending.length :=
    Finset.sum_le_sum fun door _ => eases.doors door
  have faults := eases.faults
  unfold Net.load
  rw [eases.linkCount, eases.doorCount]
  rcases less with ⟨index, known, less⟩ | ⟨door, known, less⟩ | less
  · have strict := Finset.sum_lt_sum (fun index _ => eases.links index) ⟨index, Finset.mem_range.mpr known, less⟩
    omega
  · have strict := Finset.sum_lt_sum (fun door _ => eases.doors door) ⟨door, Finset.mem_range.mpr known, less⟩
    omega
  · omega

variable (net : Net)

theorem Eases.refl : Eases net net :=
  ⟨rfl, rfl, fun _ => Nat.le_refl _, fun _ => Nat.le_refl _, Nat.le_refl _⟩

theorem Eases.trans {first second third : Net} (early : Eases first second) (late : Eases second third) :
    Eases first third where
  linkCount := late.linkCount.trans early.linkCount
  doorCount := late.doorCount.trans early.doorCount
  links := fun index => Nat.le_trans (late.links index) (early.links index)
  doors := fun door => Nat.le_trans (late.doors door) (early.doors door)
  faults := Nat.le_trans late.faults early.faults

theorem called_eases (call : Call) : Eases net (net.called call) :=
  ⟨rfl, rfl, fun _ => Nat.le_refl _, fun _ => Nat.le_refl _, FaultQueue.length_drop_le net.faults call⟩

theorem updateLink_eases (index : Nat) {change : Link → Link}
    (lighter : (change (net.link index)).stream.weight ≤ (net.link index).stream.weight) :
    Eases net (net.updateLink index change) where
  linkCount := rfl
  doorCount := rfl
  links := by
    intro other
    rw [link_updateLink]
    split
    next same => exact same ▸ lighter
    · exact Nat.le_refl _
  doors := fun _ => Nat.le_refl _
  faults := Nat.le_refl _

theorem updateDoor_eases (door : Nat) {change : Door → Door}
    (shorter : (change (net.door door)).pending.length ≤ (net.door door).pending.length) :
    Eases net (net.updateDoor door change) where
  linkCount := rfl
  doorCount := rfl
  links := fun _ => Nat.le_refl _
  doors := by
    intro other
    rw [door_updateDoor]
    split
    next same => exact same ▸ shorter
    · exact Nat.le_refl _
  faults := Nat.le_refl _

/-- An accept that fails although the door was reported ready has used up an entry of the fault queue. -/
theorem accept_failed {net after : Net} {caller : Caller} {door : Nat} {fault : Fault}
    (opened : (net.door door).isOpen = true) (calls : net.hasCaller door = true)
    (failed : accept caller door net = .error fault after) :
    after = net.called .accept ∧ FaultQueue.holds net.faults .accept = true := by
  rw [accept_eq, if_pos opened] at failed
  split at failed
  next _ raised found =>
    cases failed
    exact ⟨rfl, FaultQueue.holds_of_next found⟩
  next _ empty =>
    cases failed
    refine ⟨rfl, ?_⟩
    simpa [hasCaller, empty] using calls
  next => cases failed

/-- Of a sum only one part becomes more. -/
theorem sum_raised {count added : Nat} (index : Nat) {before after : Nat → Nat}
    (same : ∀ other, other ≠ index → after other = before other) (raised : after index ≤ before index + added) :
    ∑ place ∈ range count, after place ≤ ∑ place ∈ range count, before place + added := by
  calc ∑ place ∈ range count, after place
      ≤ ∑ place ∈ range count, (before place + if place = index then added else 0) := by
        refine Finset.sum_le_sum fun place _ => ?_
        split
        next here => exact here ▸ raised
        next other => exact Nat.le_of_eq (same place other)
    _ = ∑ place ∈ range count, before place + if index ∈ range count then added else 0 := by
        rw [Finset.sum_add_distrib, Finset.sum_ite_eq']
    _ ≤ ∑ place ∈ range count, before place + added := by
        split <;> omega

theorem updateLink_load (index : Nat) {change : Link → Link} {added : Nat}
    (heavier : (change (net.link index)).stream.weight ≤ (net.link index).stream.weight + added) :
    (net.updateLink index change).load ≤ net.load + added := by
  have streams : ∑ place ∈ range net.linkCount, ((net.updateLink index change).link place).stream.weight ≤
      ∑ place ∈ range net.linkCount, (net.link place).stream.weight + added := by
    refine sum_raised index (fun other apart => ?_) ?_
    · rw [link_updateLink, if_neg apart]
    · rw [link_updateLink, if_pos rfl]
      exact heavier
  unfold load
  show ∑ place ∈ range net.linkCount, ((net.updateLink index change).link place).stream.weight +
    ∑ door ∈ range net.doorCount, (net.door door).pending.length + net.faults.length ≤ _
  omega

theorem updateDoor_load (door : Nat) {change : Door → Door} {added : Nat}
    (longer : (change (net.door door)).pending.length ≤ (net.door door).pending.length + added) :
    (net.updateDoor door change).load ≤ net.load + added := by
  have doors : ∑ place ∈ range net.doorCount, ((net.updateDoor door change).door place).pending.length ≤
      ∑ place ∈ range net.doorCount, (net.door place).pending.length + added := by
    refine sum_raised door (fun other apart => ?_) ?_
    · rw [door_updateDoor, if_neg apart]
    · rw [door_updateDoor, if_pos rfl]
      exact longer
  unfold load
  show ∑ index ∈ range net.linkCount, (net.link index).stream.weight +
    ∑ place ∈ range net.doorCount, ((net.updateDoor door change).door place).pending.length +
      net.faults.length ≤ _
  omega

theorem addLink_load (link : Link) : (net.addLink link).load = net.load + link.stream.weight := by
  have old : ∑ index ∈ range net.linkCount, ((net.addLink link).link index).stream.weight =
      ∑ index ∈ range net.linkCount, (net.link index).stream.weight := by
    refine Finset.sum_congr rfl fun index known => ?_
    rw [link_addLink, if_neg (Nat.ne_of_lt (Finset.mem_range.mp known))]
  unfold load
  show ∑ index ∈ range (net.linkCount + 1), ((net.addLink link).link index).stream.weight +
    ∑ door ∈ range net.doorCount, (net.door door).pending.length + net.faults.length = _
  rw [Finset.sum_range_succ, old, link_addLink, if_pos rfl]
  omega

theorem changeStream_load (client : String) {change : Stream → Stream} {added : Nat}
    (heavier : ∀ stream, (change stream).weight ≤ stream.weight + added) :
    (net.changeStream client change).load ≤ net.load + added := by
  unfold changeStream
  split
  · exact updateLink_load net _ (heavier _)
  · exact Nat.le_add_right _ _

theorem connect_load (client : String) (address : Option Address) (window maxSend : Option Nat)
    (port : Option Int) : (net.connect client address window maxSend port).2.load ≤ net.load + 2 := by
  have dialled : Net.load { net with dialled := net.dialled + 1 } = net.load := rfl
  unfold connect
  dsimp only
  split
  next door found =>
    have longer (queue : List Nat) : (queue ++ [net.linkCount]).length ≤ queue.length + 1 := by simp
    refine Nat.le_trans (updateDoor_load _ door (longer _)) ?_
    rw [addLink_load, dialled]
    simp [Stream.weight]
  · rw [addLink_load, dialled]
    simp [Stream.weight]

/-- An event brings no more to do than it weighs. -/
theorem apply_load (event : Event) : (net.apply event).2.load ≤ net.load + event.workload := by
  have same (client : String) {change : Stream → Stream}
      (light : ∀ stream, (change stream).weight ≤ stream.weight) :
      (net.changeStream client change).load ≤ net.load + 2 :=
    changeStream_load net client fun stream => Nat.le_add_right_of_le (light stream)
  cases event with
  | connect client address window maxSend port => exact connect_load net client address window maxSend port
  | send client bytes =>
    rw [apply_send]
    refine changeStream_load net client fun stream => ?_
    unfold Stream.deliver
    split
    next opened =>
      simp only [Bool.and_eq_true] at opened
      simp [Stream.weight, opened.1, Event.workload]
      omega
    · exact Nat.le_add_right _ _
  | close client => exact same client fun _ => Nat.le_refl _
  | reset client =>
    refine same client fun stream => ?_
    unfold Stream.weight Stream.farReset
    split <;> simp
  | window client size => exact same client fun _ => Nat.le_refl _
  | maxSend client size => exact same client fun _ => Nat.le_refl _
  | grants client sizes => exact same client fun _ => Nat.le_refl _
  | fail client call faults =>
    cases client with
    | none =>
      show load { net with faults := FaultQueue.push net.faults call faults } ≤ _
      simp only [load, FaultQueue.push, List.length_append, List.length_map, Event.workload]
      show ∑ index ∈ range net.linkCount, (net.link index).stream.weight +
        ∑ door ∈ range net.doorCount, (net.door door).pending.length + _ ≤ _
      omega
    | some client =>
      refine changeStream_load net client fun stream => ?_
      unfold Stream.weight
      split <;> simp [FaultQueue.push, Event.workload]
      omega
  | taken port => exact Nat.le_add_right _ _
  | interrupt => exact Nat.le_add_right _ _
  | shutdown => exact Nat.le_add_right _ _

theorem applyAll_load (events : List Event) :
    (net.applyAll events).load ≤ net.load + World.total (events.map Event.workload) := by
  induction events generalizing net with
  | nil => exact Nat.le_refl _
  | cons event rest ih =>
    have first := apply_load net event
    have more := ih (net.apply event).2
    show ((net.apply event).2.applyAll rest).load ≤ _
    rw [List.map_cons, World.total_cons]
    omega

end Net

namespace World

theorem total_range (count : Nat) (part : Nat → Nat) :
    total ((List.range count).map part) = ∑ index ∈ Finset.range count, part index := by
  induction count with
  | zero => rfl
  | succ count ih =>
    rw [List.range_succ, List.map_append, total_append, ih, Finset.sum_range_succ]
    rfl

/-- What a script brings, an item more than its events weigh. -/
def scripted (items : List (List Event)) : Nat :=
  total (items.map fun item => 1 + total (item.map Event.workload))

theorem workload_eq (world : World) :
    world.workload = scripted (world.script.getD []) + world.net.load := by
  have streams := total_range world.net.linkCount fun index => (world.net.link index).stream.weight
  have doors := total_range world.net.doorCount fun door => (world.net.door door).pending.length
  unfold Net.load
  rw [← streams, ← doors, ← Nat.add_assoc, ← Nat.add_assoc]
  rfl

theorem workload_lt {before after : World} (script : after.script = before.script)
    (less : after.net.load < before.net.load) : after.workload < before.workload := by
  rw [workload_eq, workload_eq, script]
  omega

theorem workload_le {before after : World} (script : after.script = before.script)
    (load : after.net.load ≤ before.net.load) : after.workload ≤ before.workload := by
  rw [workload_eq, workload_eq, script]
  omega

theorem write_workload (world : World) (entry : Entry) : (world.write entry).workload = world.workload := by
  rw [write_eq]
  rfl

theorem heard_total (events : List Event) :
    total ((heard events).map Event.workload) ≤ total (events.map Event.workload) := by
  have whole : heard events ++ events.dropWhile (fun event => !event.interrupts) = events :=
    List.takeWhile_append_dropWhile
  have parts := congrArg (fun events => total (events.map Event.workload)) whole
  simp only [List.map_append, total_append] at parts
  omega

theorem advanceScript_workload (world : World) : (Action.state (advanceScript world)).workload ≤ world.workload := by
  obtain ⟨stop, state⟩ := world.advanceScript_state
  have happened := world.net.applyAll_load world.next
  rw [state, workload_eq, workload_eq]
  show scripted (world.rest.getD []) + (world.net.applyAll world.next).load ≤ _
  rcases script : world.script with _ | _ | ⟨item, rest⟩
  · simp only [next, World.rest, script]
    exact Nat.le_refl _
  · simp only [next, World.rest, script]
    exact Nat.le_refl _
  · have weighed := heard_total item
    simp only [next, World.rest, script, Option.getD_some, scripted, List.map_cons, total_cons] at happened ⊢
    omega

end World

end RelayBench
