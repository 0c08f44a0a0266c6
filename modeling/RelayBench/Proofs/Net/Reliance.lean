import RelayBench.Proofs.Net.Candor
import RelayBench.Proofs.Net.Opening
import RelayBench.Proofs.Script

/-! Networks on which nothing fails but the listening.  An address may be unavailable; every other call works,
and every link has a full address.  The calls of a program take entries out of fault queues and bring nothing
in, so they leave such a network as reliable as it was. -/
namespace RelayBench

/-- An operating system fault of binding: the address to listen on is unavailable. -/
def Call.Bars (call : Call) (fault : Fault) : Prop := call = .bind ∧ fault.isOs = true

/-- The event brings in no link without a full address, and no fault but that an address is unavailable. -/
structure Event.Reliable (event : Event) : Prop where
  addressed : event.Addressed
  stores : event.Stores Call.Bars fun _ _ => False

theorem Event.Reliable.allOs {event : Event} (reliable : event.Reliable) : event.AllOs := by
  have stores := reliable.stores
  cases event with
  | fail client call faults =>
    intro _ fault member
    cases client with
    | none => exact (stores fault member).2
    | some client => exact (stores fault member).elim
  | _ => trivial

namespace FaultQueue

theorem Stores.of_subset {kind : Call → Fault → Prop} {before after : FaultQueue} (stores : Stores kind before)
    (fewer : after ⊆ before) : Stores kind after :=
  fun call fault member => stores call fault (fewer member)

/-- A call that no fault is for goes through. -/
theorem Stores.quiet {kind : Call → Fault → Prop} {queue : FaultQueue} (stores : Stores kind queue) {call : Call}
    (free : ∀ fault, ¬ kind call fault) : FaultQueue.next queue call = none := by
  by_contra raised
  obtain ⟨fault, found⟩ := Option.ne_none_iff_exists'.mp raised
  exact free fault (next_stored stores found)

end FaultQueue

namespace Net

/-- What the calls of a program that has one door at most do to a network: fault queues lose entries, and there
come no doors, links or faults. -/
structure Spends (own : Option Nat) (before after : Net) : Prop where
  doorCount : after.doorCount = before.doorCount
  linkCount : after.linkCount = before.linkCount
  others : ∀ door, own ≠ some door → after.door door = before.door door
  calls : after.faults ⊆ before.faults
  links : ∀ index, (after.link index).stream.faults ⊆ (before.link index).stream.faults

section

variable {own : Option Nat}

theorem Spends.refl (net : Net) : Spends own net net :=
  ⟨rfl, rfl, fun _ _ => rfl, List.Subset.refl _, fun _ => List.Subset.refl _⟩

theorem Spends.trans {first second third : Net} (early : Spends own first second) (late : Spends own second third) :
    Spends own first third where
  doorCount := late.doorCount.trans early.doorCount
  linkCount := late.linkCount.trans early.linkCount
  others := fun door other => (late.others door other).trans (early.others door other)
  calls := List.Subset.trans late.calls early.calls
  links := fun index => List.Subset.trans (late.links index) (early.links index)

variable (net : Net)

theorem called_spends (call : Call) : Spends own net (net.called call) :=
  ⟨rfl, rfl, fun _ _ => rfl, FaultQueue.drop_subset _ call, fun _ => List.Subset.refl _⟩

theorem updateLink_spends (index : Nat) {change : Link → Link}
    (fewer : (change (net.link index)).stream.faults ⊆ (net.link index).stream.faults) :
    Spends own net (net.updateLink index change) := by
  refine ⟨rfl, rfl, fun _ _ => rfl, List.Subset.refl _, fun other => ?_⟩
  rw [link_updateLink]
  split
  next same => exact same ▸ fewer
  · exact List.Subset.refl _

theorem updateLinks_spends (indices : List Nat) {change : Link → Link}
    (fewer : ∀ link, (change link).stream.faults ⊆ link.stream.faults) :
    Spends own net (net.updateLinks indices change) := by
  induction indices generalizing net with
  | nil => exact .refl net
  | cons first rest ih => exact (updateLink_spends net first (fewer _)).trans (ih (net.updateLink first change))

theorem updateDoor_spends (door : Nat) (change : Door → Door) :
    Spends (some door) net (net.updateDoor door change) := by
  refine ⟨rfl, rfl, fun other apart => ?_, List.Subset.refl _, fun _ => List.Subset.refl _⟩
  rw [door_updateDoor, if_neg fun same => apart (congrArg some same.symm)]

theorem shut_spends (door : Nat) : Spends (some door) net (net.shut door) := by
  let freed := net.updateDoor door fun d => { d with pending := [] }
  have dropped : Spends (some door) freed (freed.updateLinks (net.door door).pending fun link =>
      { link with stream := { link.stream with isOpen := false } }) :=
    updateLinks_spends freed _ fun _ => List.Subset.refl _
  rw [shut, dropPending, foldl_updateLink]
  exact (updateDoor_spends net door _).trans (dropped.trans (updateDoor_spends _ door _))

theorem closeDoor_spends (door : Nat) : Spends (some door) net (Action.state (closeDoor door net)) := by
  rw [closeDoor_eq]
  split
  · have shut := (shut_spends net door).trans (called_spends _ .close)
    split <;> exact shut
  · exact .refl net

end

theorem Candid.spends {own : Option Nat} {net after : Net} (candid : net.Candid) (spends : Spends own net after)
    (addressed : after.Addressed) : after.Candid where
  addressed := addressed
  waits := candid.waits.of_subset spends.calls
  reads := fun index held => candid.reads index (spends.links index held)

/-- Every link has a full address, no fault is in store but that an address is unavailable, and no write
waits for ever. -/
structure Reliable (net : Net) : Prop where
  addressed : net.Addressed
  stores : net.Stores Call.Bars fun _ _ => False
  ends : ∀ index, (net.link index).stream.endless = false

section

variable {net : Net} (reliable : net.Reliable)
include reliable

/-- Every call of the listening side but the binding goes through. -/
theorem Reliable.quiet {call : Call} (other : call ≠ .bind) : FaultQueue.next net.faults call = none :=
  reliable.stores.calls.quiet fun _ bars => other bars.1

/-- Every call on a stream goes through. -/
theorem Reliable.link (index : Nat) (call : Call) :
    FaultQueue.next (net.link index).stream.faults call = none :=
  (reliable.stores.links index).quiet fun _ => id

theorem Reliable.allOs : net.AllOs where
  calls := fun call fault member _ => (reliable.stores.calls call fault member).2
  links := fun index =>
    ⟨fun call fault member => (reliable.stores.links index call fault member).elim, reliable.ends index⟩

theorem Reliable.apply {event : Event} (fair : event.Reliable) : (net.apply event).2.Reliable :=
  ⟨apply_addressed reliable.addressed fair.addressed, apply_stores net reliable.stores fair.stores,
    apply_ends reliable.ends event⟩

theorem Reliable.applyAll {events : List Event} (fair : ∀ event ∈ events, event.Reliable) :
    (net.applyAll events).Reliable :=
  @applyAll_kept Reliable Event.Reliable (fun _ _ kept fair => kept.apply fair) net reliable events fair

theorem Reliable.spends {own : Option Nat} {after : Net} (spends : Spends own net after)
    (addressed : after.Addressed) (ends : ∀ index, (after.link index).stream.endless = false) : after.Reliable where
  addressed := addressed
  stores := ⟨reliable.stores.calls.of_subset spends.calls,
    fun index => (reliable.stores.links index).of_subset (spends.links index)⟩
  ends := ends

theorem Reliable.called (call : Call) : (net.called call).Reliable :=
  reliable.spends (show Spends none net _ from called_spends net call) reliable.addressed reliable.ends

/-- Where a port is one and the platform takes the rest, all that can stand in the way of a door is reported. -/
theorem Reliable.orderly {host : Host} {port : Int} {backlog : Option Int} (takes : net.Takes host backlog)
    (inside : 0 ≤ port ∧ port ≤ 65535) : Orderly host port backlog net where
  takes := takes
  makes := reliable.quiet (by decide)
  closes := reliable.quiet (by decide)
  inside := inside
  system := fun _ _ _ next => (FaultQueue.next_stored reliable.stores.calls next).2

theorem Reliable.opened {host : Host} {port : Int} {backlog : Option Int} {index : Nat} {after : Net}
    (opened : openDoor host port backlog net = .ok index after) : after.Reliable := by
  obtain ⟨links, _, _, stores⟩ := openDoor_success net opened
  have link (other : Nat) : after.link other = net.link other := congrArg (Table.get · other) links
  exact ⟨fun other => link other ▸ reliable.addressed other,
    ⟨stores reliable.stores.calls, fun other => link other ▸ reliable.stores.links other⟩,
    fun other => link other ▸ reliable.ends other⟩

theorem Reliable.stream_close (index : Nat) : (net.link index).stream.close.1 = .ok () := by
  unfold Stream.close
  rw [reliable.link index .close]
  split <;> rfl

end

end Net

/-- What surrounds a program may keep it from listening, and can be relied on in all else. -/
structure World.Reliable (world : World) : Prop where
  net : world.net.Reliable
  script : world.Scripted Event.Reliable

end RelayBench
