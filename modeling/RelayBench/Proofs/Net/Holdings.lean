import RelayBench.Proofs.Net.Reliance

/-! Who holds the doors and links of a network.  Of those that came to be from some numbers on, a program holds
every open door, and every open link that does not wait at a door.  Each of its calls hands on what it holds, so
that nothing stays open behind a program that holds nothing any more. -/
namespace RelayBench
namespace Net

/-- Of the doors and links that came to be from some numbers on none is open, but links that wait at older
doors. -/
structure Tidy (door link : Nat) (net : Net) : Prop where
  doors : ∀ index, door ≤ index → index < net.doorCount → (net.door index).isOpen = false
  links : ∀ index, link ≤ index → index < net.linkCount → (net.link index).stream.isOpen = true →
    ∃ older, older < door ∧ index ∈ (net.door older).pending

theorem Tidy.refl (net : Net) : Tidy net.doorCount net.linkCount net :=
  ⟨fun _ lower upper => absurd lower (Nat.not_le_of_lt upper),
    fun _ lower upper => absurd lower (Nat.not_le_of_lt upper)⟩

/-- An opening that has failed in an orderly way leaves nothing open. -/
theorem AsBefore.tidy {before after : Net} (asBefore : AsBefore before after) :
    Tidy before.doorCount before.linkCount after := by
  refine ⟨fun index lower upper => ?_, fun index lower upper => ?_⟩
  · by_contra opened
    have opened : (after.door index).isOpen = true := by simpa using opened
    have member : index ∈ after.openDoors := by simp [Net.openDoors, Net.doorIndices, upper, opened]
    rw [asBefore.openDoors, Net.openDoors, Net.doorIndices, List.mem_filter, List.mem_range] at member
    exact absurd member.1 (Nat.not_lt_of_le lower)
  · exact absurd (asBefore.kept.linkCount ▸ upper) (Nat.not_lt_of_le lower)

/-- Of the doors and links from some numbers on, the open ones are accounted for: the door is the program's own,
and a link is one of those that it holds or waits at a door.  Nobody waits at a closed door. -/
structure Holds (door link : Nat) (own : Option Nat) (held : List Nat) (net : Net) : Prop where
  doors : ∀ index, door ≤ index → index < net.doorCount → (net.door index).isOpen = true → own = some index
  vacant : ∀ index, door ≤ index → index < net.doorCount → (net.door index).isOpen = false →
    (net.door index).pending = []
  links : ∀ index, link ≤ index → index < net.linkCount → (net.link index).stream.isOpen = true →
    index ∈ held ∨ ∃ place, place < net.doorCount ∧ index ∈ (net.door place).pending

/-- A program that has no door any more, and has closed all links that it holds, leaves nothing open. -/
theorem Holds.tidy {door link : Nat} {held : List Nat} {net : Net} (holds : Holds door link none held net)
    (closed : ∀ index ∈ held, (net.link index).stream.isOpen = false) : Tidy door link net := by
  have shut (index : Nat) (lower : door ≤ index) (upper : index < net.doorCount) :
      (net.door index).isOpen = false := by
    by_contra opened
    exact absurd (holds.doors index lower upper (by simpa using opened)) nofun
  refine ⟨shut, fun index lower upper opened => ?_⟩
  rcases holds.links index lower upper opened with member | ⟨place, known, waits⟩
  · simp [closed index member] at opened
  · refine ⟨place, ?_, waits⟩
    by_contra younger
    have nobody := holds.vacant place (Nat.le_of_not_lt younger) known (shut place (Nat.le_of_not_lt younger) known)
    simp [nobody] at waits

/-- A door that was opened is all that a program holds then. -/
theorem Reliable.holds {host : Host} {port : Int} {backlog : Option Int} {index : Nat} {net after : Net}
    (reliable : net.Reliable) (takes : net.Takes host backlog)
    (opened : openDoor host port backlog net = .ok index after) :
    Holds net.doorCount net.linkCount (some index) [] after := by
  obtain ⟨lower, upper⟩ := openDoor_inRange net opened
  rcases openDoor_cases net reliable.allOs takes lower upper with
    ⟨next, ran, added, count, isOpen, _, empty⟩ | ⟨_, _, failed, _⟩
  · cases opened.symm.trans ran
    have only (other : Nat) (young : net.doorCount ≤ other) (known : other < after.doorCount) :
        other = net.doorCount := by omega
    refine ⟨fun other young known _ => ?_, fun other young known closed => ?_, fun other young known => ?_⟩
    · rw [only other young known]
    · obtain rfl := only other young known
      exact empty
    · exact absurd (added.linkCount ▸ known) (Nat.not_lt_of_le young)
  · cases opened.symm.trans failed

/-- Events close nothing that is held and open nothing that does not wait. -/
theorem Holds.happens {door link : Nat} {own : Option Nat} {held : List Nat} {net : Net}
    (holds : Holds door link own held net) (events : List Event) :
    Holds door link own held (net.applyAll events) := by
  have grown := applyAll_grown net events
  have isOpen (index : Nat) : ((net.applyAll events).door index).isOpen = (net.door index).isOpen := by
    obtain ⟨added, same, _⟩ := grown.waits index
    rw [same]
  refine ⟨fun index lower upper opened => ?_, fun index lower upper closed => ?_, fun index lower upper opened => ?_⟩
  · exact holds.doors index lower (grown.doorCount ▸ upper) (isOpen index ▸ opened)
  · have closed : (net.door index).isOpen = false := (isOpen index).symm.trans closed
    rw [applyAll_leavesShut net events index closed]
    exact holds.vacant index lower (grown.doorCount ▸ upper) closed
  · by_cases old : index < net.linkCount
    · rcases holds.links index lower old ((Link.side_isOpen (grown.side index old)).symm.trans opened) with
        member | ⟨place, known, waits⟩
      · exact .inl member
      · obtain ⟨added, same, _⟩ := grown.waits place
        exact .inr ⟨place, grown.doorCount ▸ known, by rw [same]; exact List.mem_append_left _ waits⟩
    · obtain ⟨_, _, _, waits⟩ := grown.born index (Nat.le_of_not_lt old) upper
      exact .inr (waits opened)

/-- What a call does that has to do with streams only: it opens nothing, touches no door and puts no writes
under a limit. -/
structure Uses (before after : Net) : Prop extends Spends none before after where
  endless : ∀ index, (after.link index).stream.endless = (before.link index).stream.endless
  isOpen : ∀ index, (after.link index).stream.isOpen = true → (before.link index).stream.isOpen = true

section

variable (net : Net)

theorem Uses.refl : Uses net net := ⟨.refl net, fun _ => rfl, fun _ => id⟩

theorem Uses.called (call : Call) : Uses net (net.called call) := ⟨called_spends net call, fun _ => rfl, fun _ => id⟩

theorem Uses.updateLink (index : Nat) {change : Link → Link}
    (fewer : (change (net.link index)).stream.faults ⊆ (net.link index).stream.faults)
    (endless : (change (net.link index)).stream.endless = (net.link index).stream.endless)
    (isOpen : (change (net.link index)).stream.isOpen = true → (net.link index).stream.isOpen = true) :
    Uses net (net.updateLink index change) := by
  refine ⟨updateLink_spends net index fewer, fun other => ?_, fun other opened => ?_⟩
  · rw [link_updateLink]
    split
    next same => exact same ▸ endless
    · rfl
  · rw [link_updateLink] at opened
    split at opened
    next same => exact same ▸ isOpen opened
    · exact opened

end

/-- What one call of a program may do that has one door at most and holds some links: it uses streams, takes in
the oldest link that waits at its door, or closes the door. -/
inductive Deals : Option Nat → List Nat → Net → Option Nat → List Nat → Net → Prop
  | uses {own : Option Nat} {held : List Nat} {before after : Net} (uses : Uses before after) :
      Deals own held before own held after
  | accepts {door first : Nat} {rest held : List Nat} {net : Net}
      (queue : (net.door door).pending = first :: rest) :
      Deals (some door) held net (some door) (held ++ [first])
        ((net.called .accept).updateDoor door fun d => { d with pending := rest })
  | leaves {door : Nat} {held : List Nat} {net after : Net} (distinct : (net.door door).pending.Nodup)
      (closed : closeDoor door net = .ok () after) : Deals (some door) held net none held after

section

variable {door link : Nat} {own given : Option Nat} {held kept : List Nat} {net after : Net}

theorem Deals.spends (deals : Deals own held net given kept after) : Spends own net after := by
  cases deals with
  | uses uses =>
    exact ⟨uses.doorCount, uses.linkCount, fun index _ => uses.others index nofun, uses.calls, uses.links⟩
  | accepts queue => exact (called_spends net .accept).trans (updateDoor_spends _ _ _)
  | @leaves entrance _ _ _ distinct closed =>
    have spends := closeDoor_spends net entrance
    rw [closed] at spends
    exact spends

theorem Deals.endless (deals : Deals own held net given kept after) (index : Nat) :
    (after.link index).stream.endless = (net.link index).stream.endless := by
  cases deals with
  | uses uses => exact uses.endless index
  | accepts queue => rfl
  | leaves distinct closed =>
    rw [closeDoor_eq] at closed
    split at closed
    · split at closed <;> cases closed
      rw [called_link, shut_link net _ distinct]
      split <;> rfl
    · cases closed
      rfl

/-- A program never comes to another door. -/
theorem Deals.same (deals : Deals own held net given kept after) : given = own ∨ given = none := by
  cases deals with
  | uses | accepts => exact .inl rfl
  | leaves => exact .inr rfl

theorem Holds.uses (holds : Holds door link own held net) (uses : Uses net after) :
    Holds door link own held after := by
  have same (index : Nat) : after.door index = net.door index := uses.others index nofun
  have doorCount := uses.doorCount
  refine ⟨fun index lower upper opened => ?_, fun index lower upper closed => ?_, fun index lower upper opened => ?_⟩
  · exact holds.doors index lower (doorCount ▸ upper) (same index ▸ opened)
  · exact same index ▸ holds.vacant index lower (doorCount ▸ upper) (same index ▸ closed)
  · rcases holds.links index lower (uses.linkCount ▸ upper) (uses.isOpen index opened) with
      member | ⟨place, known, waits⟩
    · exact .inl member
    · exact .inr ⟨place, doorCount ▸ known, (same place).symm ▸ waits⟩

theorem Holds.accepts {entrance first : Nat} {rest : List Nat} (holds : Holds door link own held net)
    (queue : (net.door entrance).pending = first :: rest) :
    Holds door link own (held ++ [first])
      ((net.called .accept).updateDoor entrance fun d => { d with pending := rest }) := by
  have isOpen (index : Nat) : (((net.called .accept).updateDoor entrance fun d => { d with pending := rest }).door
      index).isOpen = (net.door index).isOpen := by
    rw [door_updateDoor]
    split
    next same => rw [same, called_door]
    · rfl
  refine ⟨fun index lower upper opened => ?_, fun index lower upper closed => ?_, fun index lower upper opened => ?_⟩
  · exact holds.doors index lower upper (isOpen index ▸ opened)
  · have empty := holds.vacant index lower upper (isOpen index ▸ closed)
    rw [door_updateDoor]
    split
    next same =>
      rw [same, queue] at empty
      cases empty
    · exact empty
  · rcases holds.links index lower upper opened with member | ⟨place, known, waits⟩
    · exact .inl (List.mem_append_left _ member)
    · by_cases same : place = entrance
      · subst same
        rw [queue] at waits
        rcases List.mem_cons.mp waits with rfl | later
        · exact .inl (List.mem_append_right _ (List.mem_singleton_self _))
        · exact .inr ⟨place, known, by rw [door_updateDoor, if_pos rfl]; exact later⟩
      · exact .inr ⟨place, known, by rw [door_updateDoor, if_neg same]; exact waits⟩

/-- With its door, a program lets go of the links that wait there. -/
theorem Holds.shut {entrance : Nat} (holds : Holds door link (some entrance) held net)
    (distinct : (net.door entrance).pending.Nodup) : Holds door link none held (net.shut entrance) := by
  have doorCount := (shut_spends net entrance).doorCount
  refine ⟨fun index lower upper opened => ?_, fun index lower upper shut => ?_, fun index lower upper opened => ?_⟩
  · rw [shut_door] at opened
    split at opened
    · cases opened
    next other => exact absurd (Option.some.inj (holds.doors index lower (doorCount ▸ upper) opened)).symm other
  · rw [shut_door] at shut ⊢
    split
    · rfl
    next other =>
      rw [if_neg other] at shut
      exact holds.vacant index lower (doorCount ▸ upper) shut
  · rw [shut_link net entrance distinct] at opened
    split at opened
    · cases opened
    next elsewhere =>
      rcases holds.links index lower ((shut_spends net entrance).linkCount ▸ upper) opened with
        member | ⟨place, known, waits⟩
      · exact .inl member
      · have other : place ≠ entrance := by
          rintro rfl
          exact elsewhere waits
        exact .inr ⟨place, doorCount ▸ known, by rw [shut_door, if_neg other]; exact waits⟩

/-- What a program holds, it hands on with each call. -/
theorem Holds.deals (holds : Holds door link own held net) (deals : Deals own held net given kept after) :
    Holds door link given kept after := by
  cases deals with
  | uses uses => exact holds.uses uses
  | accepts queue => exact holds.accepts queue
  | leaves distinct closed =>
    rw [closeDoor_eq] at closed
    split at closed
    · have left := (holds.shut distinct).uses (.called _ .close)
      split at closed <;> cases closed
      exact left
    next unopened =>
      cases closed
      refine ⟨fun index lower upper opened => ?_, holds.vacant, holds.links⟩
      obtain rfl := Option.some.inj (holds.doors index lower upper opened)
      exact absurd opened unopened

end

end Net
end RelayBench
