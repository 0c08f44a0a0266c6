import RelayBench.Proofs.Relay.Step

/-! What the service of an iteration keeps.  It brings in no link and touches members and the oldest
waiting link only; a member that leaves is closed; so a sound relay stays sound. -/
namespace RelayBench

/-- Whether a link is alive shows on the program's side. -/
theorem Net.Live.of_side {before after : Net} {index : Nat} (live : before.Live index)
    (known : index < after.linkCount) (side : (after.link index).side = (before.link index).side) :
    after.Live index where
  known := known
  closed := (Link.side_closed side).trans live.closed
  broken := (Link.side_broken side).trans live.broken
  isOpen := (Link.side_isOpen side).trans live.isOpen

namespace Relay

/-- A link that the relay has closed for good. -/
structure Gone (relay : Relay) (index : Nat) : Prop where
  known : index < relay.world.net.linkCount
  apart : index ∉ relay.members
  closed : (relay.world.net.link index).closed = true
  shut : (relay.world.net.link index).stream.isOpen = false

/-- A link that was accepted and has not been let in yet. -/
structure Held (relay : Relay) (index : Nat) : Prop where
  live : relay.world.net.Live index
  apart : index ∉ relay.members
  unqueued : index ∉ relay.waiting

/-- What the service of an iteration keeps of a sound relay. -/
structure Turn (before after : Relay) : Prop where
  settings : after.settings = before.settings
  listener : after.listener = before.listener
  platform : after.world.net.platform = before.world.net.platform
  os : after.world.net.AllOs
  linkCount : after.world.net.linkCount = before.world.net.linkCount
  doorCount : after.world.net.doorCount = before.world.net.doorCount
  shell : ∀ door, (after.world.net.door door).shell = (before.world.net.door door).shell
  queue : after.waiting.Sublist before.waiting
  distinct : after.members.Nodup
  alive : ∀ index ∈ after.members, after.world.net.Live index
  apart : ∀ index ∈ after.waiting, index ∉ after.members ∧
    (after.world.net.link index).side = (before.world.net.link index).side
  fate : ∀ index ∈ before.members, index ∈ after.members ∨ after.Gone index
  still : ∀ index, index ∉ before.members → index ∉ before.waiting →
    (after.world.net.link index).side = (before.world.net.link index).side
  entry : ∀ index ∈ after.members, index ∈ before.members ∨ index ∈ before.waiting

theorem Turn.sound {before after : Relay} (turn : Turn before after) (sound : before.Sound) :
    after.Sound where
  grounded := sound.grounded.of_same turn.platform (congrArg Listener.unbind turn.listener)
  os := turn.os
  distinct := turn.distinct
  alive := turn.alive
  queue := sound.queue.sublist turn.queue
  fresh := by
    intro index waits
    obtain ⟨live, apart, blank⟩ := sound.fresh index (turn.queue.subset waits)
    obtain ⟨outside, side⟩ := turn.apart index waits
    exact ⟨live.of_side (turn.linkCount ▸ live.known) side, outside,
      (Link.side_outbox side).trans blank⟩
  door := by
    intro door bound
    rw [turn.listener] at bound
    obtain ⟨known, reachable⟩ := sound.door door bound
    have reach := congrArg Door.isReachable (turn.shell door)
    exact ⟨turn.doorCount ▸ known, reach.trans reachable⟩

theorem Turn.suited {before after : Relay} (turn : Turn before after) (suited : before.Suited) : after.Suited :=
  suited.of_same turn.platform turn.settings (congrArg Listener.unbind turn.listener)

/-- A link that is gone stays gone, and nothing is written to it. -/
theorem Turn.gone {before after : Relay} (turn : Turn before after) (sound : before.Sound) {index : Nat}
    (gone : before.Gone index) : after.Gone index ∧
      (after.world.net.link index).stream.outbox = (before.world.net.link index).stream.outbox := by
  have unqueued : index ∉ before.waiting := by
    intro waits
    have live := (sound.fresh index waits).1
    exact absurd live.isOpen (by simp [gone.shut])
  have apart : index ∉ after.members := by
    intro member
    rcases turn.entry index member with old | waits
    · exact gone.apart old
    · exact unqueued waits
  have side := turn.still index gone.apart unqueued
  exact ⟨⟨turn.linkCount ▸ gone.known, apart, (Link.side_closed side).trans gone.closed,
    (Link.side_isOpen side).trans gone.shut⟩, Link.side_outbox side⟩

/-- A link that somebody else holds is left alone. -/
theorem Turn.held {before after : Relay} (turn : Turn before after) {index : Nat} (held : before.Held index) :
    after.Held index where
  live := held.live.of_side (turn.linkCount ▸ held.live.known) (turn.still index held.apart held.unqueued)
  apart := fun member => (turn.entry index member).elim held.apart held.unqueued
  unqueued := fun waits => held.unqueued (turn.queue.subset waits)

section

variable {relay : Relay} (sound : relay.Sound)
include sound

/-- A change to members only, of whom those that leave are closed. -/
theorem members_turn {after : Relay} (settings : after.settings = relay.settings)
    (listener : after.listener = relay.listener) (platform : after.world.net.platform = relay.world.net.platform)
    (os : after.world.net.AllOs) (linkCount : after.world.net.linkCount = relay.world.net.linkCount)
    (doorCount : after.world.net.doorCount = relay.world.net.doorCount)
    (doors : ∀ door, after.world.net.door door = relay.world.net.door door)
    (links : ∀ index, index ∉ relay.members → after.world.net.link index = relay.world.net.link index)
    (members : after.members.Sublist relay.members)
    (stays : ∀ index ∈ after.members, after.world.net.Live index)
    (leaves : ∀ index ∈ relay.members, index ∉ after.members →
      (after.world.net.link index).closed = true ∧
        (after.world.net.link index).stream.isOpen = false) : Turn relay after := by
  have queue : after.waiting = relay.waiting := by
    simp only [waiting, listener, doors]
  refine
    { settings, listener, platform, os, linkCount, doorCount
      shell := fun door => by rw [doors]
      queue := queue ▸ List.Sublist.refl _
      distinct := sound.distinct.sublist members
      alive := stays
      apart := fun index waits => ?_
      fate := fun index member => ?_
      still := fun index outside _ => by rw [links index outside]
      entry := fun index member => .inl (members.subset member) }
  · have outside := (sound.fresh index (queue ▸ waits)).2.1
    exact ⟨fun member => outside (members.subset member), by rw [links index outside]⟩
  · by_cases kept : index ∈ after.members
    · exact .inl kept
    · obtain ⟨closed, shut⟩ := leaves index member kept
      exact .inr ⟨linkCount ▸ (sound.alive index member).known, kept, closed, shut⟩

theorem same_turn {after : Relay} (settings : after.settings = relay.settings)
    (listener : after.listener = relay.listener) (platform : after.world.net.platform = relay.world.net.platform)
    (members : after.members = relay.members) (os : after.world.net.AllOs)
    (linkCount : after.world.net.linkCount = relay.world.net.linkCount)
    (doorCount : after.world.net.doorCount = relay.world.net.doorCount)
    (links : ∀ index, after.world.net.link index = relay.world.net.link index)
    (doors : ∀ door, after.world.net.door door = relay.world.net.door door) : Turn relay after := by
  refine members_turn sound settings listener platform os linkCount doorCount doors (fun index _ => links index)
    (members ▸ List.Sublist.refl _) (fun index member => ?_) (fun index member gone => ?_)
  · have live := sound.alive index (members ▸ member)
    exact live.of_side (linkCount ▸ live.known) (by rw [links])
  · exact absurd (members ▸ member) gone

theorem refused_turn (net : Net) (log : List Entry)
    (same : net = relay.world.net ∨ net = relay.world.net.called .accept) :
    Turn relay (relay.put relay.members net log) := by
  rcases same with rfl | rfl
  · exact same_turn sound rfl rfl rfl rfl sound.os rfl rfl (fun _ => rfl) (fun _ => rfl)
  · exact same_turn sound rfl rfl rfl rfl (Net.called_allOs sound.os .accept) rfl rfl (fun _ => rfl) (fun _ => rfl)

end

section

variable {relay : Relay} (sound : relay.Sound) {door first : Nat} {rest : List Nat}
  (bound : relay.listener.door = some door)
  (queue : (relay.world.net.door door).pending = first :: rest)

theorem taking_link (index : Nat) :
    (relay.taking door first rest).link index =
      if index = first then ((relay.world.net.link first).adopt relay.world.net.platform relay.listener.writeTimeout).2
      else relay.world.net.link index := by
  rw [taking, Net.link_updateLink]
  rfl

theorem taking_door (other : Nat) :
    (relay.taking door first rest).door other =
      if other = door then { relay.world.net.door door with pending := rest }
      else relay.world.net.door other := by
  rw [taking, Net.door_updateLink, Net.door_updateDoor]
  rfl

theorem taking_shell (other : Nat) :
    ((relay.taking door first rest).door other).shell = (relay.world.net.door other).shell := by
  rw [taking_door]
  split
  next same => exact same ▸ rfl
  · rfl

/-- All but the oldest waiting link go on to wait. -/
theorem taking_pending (queue : (relay.world.net.door door).pending = first :: rest) {place index : Nat}
    (waits : index ∈ (relay.world.net.door place).pending) :
    index ∈ ((relay.taking door first rest).door place).pending ∨ index = first := by
  rw [taking_door]
  split
  next same =>
    rw [same, queue] at waits
    exact (List.mem_cons.mp waits).symm
  · exact .inl waits

theorem taking_live (live : relay.world.net.Live first) : (relay.taking door first rest).Live first := by
  refine ⟨live.known, ?_, ?_, ?_⟩ <;> rw [taking_link, if_pos rfl]
  · exact Link.adopt_closed _ _ _ live.closed
  · exact Link.adopt_broken _ _ _ live.broken
  · exact (Link.adopt_isOpen _ _ _).trans live.isOpen

include sound

theorem taking_allOs : (relay.taking door first rest).AllOs := by
  refine ⟨FaultQueue.allOs_drop sound.os.calls .accept, fun index => ?_⟩
  rw [taking_link]
  split
  · exact Link.adopt_allOs _ _ _ (sound.os.links first) sound.grounded.ends
  · exact sound.os.links index

include bound queue

/-- The oldest waiting link leaves the queue, and may join the members. -/
theorem taking_turn (members : List Nat) (counted : Nat) (log : List Entry)
    (joins : members = relay.members ∨ members = relay.members ++ [first]) :
    Turn relay
      { relay.put members (relay.taking door first rest) log with accepted := counted } := by
  have waits : relay.waiting = first :: rest := by simp [waiting, bound, queue]
  obtain ⟨live, apart, _⟩ := sound.fresh first (by simp [waits])
  obtain ⟨absent, single⟩ := List.nodup_cons.mp (waits ▸ sound.queue)
  have other (index : Nat) (different : index ≠ first) :
      ((relay.taking door first rest).link index).side = (relay.world.net.link index).side := by
    rw [taking_link, if_neg different]
  have later : waiting { relay.put members (relay.taking door first rest) log with accepted := counted } =
      rest := by
    simp [waiting, put, bound, world, taking_door]
  have within (index : Nat) (member : index ∈ members) : index ∈ relay.members ∨ index = first := by
    rcases joins with rfl | rfl
    · exact .inl member
    · simpa using member
  refine
    { settings := rfl
      listener := rfl
      platform := rfl
      os := taking_allOs sound
      linkCount := rfl
      doorCount := rfl
      shell := taking_shell
      queue := ?_
      distinct := ?_
      alive := fun index member => ?_
      apart := fun index queued => ?_
      fate := fun index member => .inl ?_
      still := fun index _ unqueued => other index fun same => unqueued (by simp [waits, same])
      entry := fun index member => ?_ }
  · rw [later, waits]
    exact List.sublist_cons_self first rest
  · show members.Nodup
    rcases joins with rfl | rfl
    · exact sound.distinct
    · exact sound.distinct.append (List.nodup_singleton first) (by simpa using apart)
  · rcases within index member with old | rfl
    · have kept := sound.alive index old
      exact kept.of_side kept.known (other index fun same => apart (same ▸ old))
    · exact taking_live live
  · rw [later] at queued
    refine ⟨fun member => ?_, other index fun same => absent (same ▸ queued)⟩
    rcases within index member with old | rfl
    · exact (sound.fresh index (by simp [waits, queued])).2.1 old
    · exact absent queued
  · show index ∈ members
    rcases joins with rfl | rfl
    · exact member
    · exact List.mem_append_left _ member
  · rcases within index member with old | rfl
    · exact .inl old
    · exact .inr (by simp [waits])

end

section

variable {relay : Relay} (sound : relay.Sound) {source : Nat}

theorem readNet_link (source index : Nat) :
    (relay.readNet source).link index =
      if index = source then ((relay.world.net.link source).read relay.world.net.platform relay.settings.recvSize).2
      else relay.world.net.link index := by
  rw [readNet, Net.link_updateLink]

/-- Every link after a member was let go: that member has been read and closed. -/
theorem parting_link (source : Nat) (log : List Entry) (index : Nat) :
    (relay.parting source log).world.net.link index =
      if index = source then
        ((relay.world.net.link source).read relay.world.net.platform relay.settings.recvSize).2.close.2
      else relay.world.net.link index := by
  show ((relay.readNet source).updateLink source fun link => link.close.2).link index = _
  rw [Net.link_updateLink, readNet_link, readNet_link, if_pos rfl]
  split <;> rfl

theorem mem_handing (source : Nat) (payload : Bytes) (log : List Entry) (index : Nat) :
    index ∈ (relay.handing source payload log).members ↔ index ∈ relay.members ∧
      (index = source ∨ (relay.world.net.link index).drops payload = false) := by
  show index ∈ FanOut.survivors payload source relay.room ↔ _
  simp [FanOut.survivors, members, Room.link, world]

include sound

theorem parting_turn (member : source ∈ relay.members) (log : List Entry) :
    Turn relay (relay.parting source log) := by
  have live := sound.alive source member
  refine members_turn sound rfl rfl rfl ⟨sound.os.calls, fun index => ?_⟩ rfl rfl (fun _ => rfl)
    (fun index outside => ?_) List.erase_sublist (fun index stays => ?_) (fun index old gone => ?_)
  · rw [parting_link]
    split
    · exact Link.close_allOs _ (Link.read_allOs _ _ _ (sound.os.links source))
    · exact sound.os.links index
  · have other : index ≠ source := fun same => outside (same ▸ member)
    rw [parting_link, if_neg other]
  · obtain ⟨other, old⟩ := (sound.distinct.mem_erase_iff).mp stays
    have kept := sound.alive index old
    exact kept.of_side kept.known (by rw [parting_link, if_neg other])
  · have same : index = source := by
      by_contra other
      exact gone ((sound.distinct.mem_erase_iff).mpr ⟨other, old⟩)
    rw [parting_link, if_pos same]
    exact ⟨Link.close_closed _, Link.close_isOpen _ ((Link.read_closed ..).trans live.closed)⟩

/-- A read that fails keeps everybody where they are. -/
theorem unread_turn (member : source ∈ relay.members) (log : List Entry) :
    Turn relay (relay.put relay.members (relay.readNet source) log) := by
  refine members_turn sound rfl rfl rfl ⟨sound.os.calls, fun index => ?_⟩ rfl rfl (fun _ => rfl)
    (fun index outside => ?_) (List.Sublist.refl _) (fun index stays => ?_) (fun index old gone => absurd old gone)
  · show ((relay.readNet source).link index).stream.AllOs
    rw [readNet_link]
    split
    · exact Link.read_allOs _ _ _ (sound.os.links source)
    · exact sound.os.links index
  · have other : index ≠ source := fun same => outside (same ▸ member)
    exact (readNet_link source index).trans (if_neg other)
  · have live := sound.alive index stays
    refine live.of_side live.known ?_
    show ((relay.readNet source).link index).side = _
    rw [readNet_link]
    split
    next same => rw [same, Link.read_side]
    · rfl

/-- Every link after a fan-out: the source has been read, all other members have been served. -/
theorem handing_link (payload : Bytes) (log : List Entry) (index : Nat) :
    (relay.handing source payload log).world.net.link index =
      if index = source then ((relay.world.net.link source).read relay.world.net.platform relay.settings.recvSize).2
      else if index ∈ relay.members then (relay.world.net.link index).served payload
      else relay.world.net.link index := by
  show ((relay.readNet source).updateLinks (relay.room.others source) (Link.served payload)).link index = _
  have once : (relay.room.others source).Nodup := sound.distinct.filter _
  rw [Net.link_updateLinks _ _ once, readNet_link]
  by_cases same : index = source
  · simp [same, Room.others]
  · by_cases present : index ∈ relay.room.members <;> simp [same, present, Room.others, members]

/-- After a fan-out the source and all recipients that took the payload, or nothing of it, stay. -/
theorem handing_turn (member : source ∈ relay.members) (payload : Bytes) (log : List Entry) :
    Turn relay (relay.handing source payload log) := by
  refine members_turn sound rfl rfl rfl ⟨sound.os.calls, fun index => ?_⟩ rfl rfl (fun _ => rfl)
    (fun index outside => ?_) List.filter_sublist (fun index stays => ?_) (fun index old gone => ?_)
  · rw [handing_link sound]
    split
    · exact Link.read_allOs _ _ _ (sound.os.links source)
    · split
      · exact Link.served_allOs _ _ (sound.os.links index)
      · exact sound.os.links index
  · have other : index ≠ source := fun same => outside (same ▸ member)
    rw [handing_link sound, if_neg other, if_neg outside]
  · obtain ⟨old, remains⟩ := (mem_handing ..).mp stays
    have live := sound.alive index old
    by_cases same : index = source
    · refine live.of_side live.known ?_
      rw [handing_link sound, if_pos same, same, Link.read_side]
    · have takes := remains.resolve_left same
      have os := sound.os.links index
      obtain ⟨closed, isOpen⟩ := Link.served_stays payload _ os takes
      refine ⟨live.known, ?_, ?_, ?_⟩ <;> rw [handing_link sound, if_neg same, if_pos old]
      · exact closed.trans live.closed
      · exact Link.served_broken payload _ os live.broken takes
      · exact isOpen.trans live.isOpen
  · have other : index ≠ source := fun same => gone ((mem_handing ..).mpr ⟨old, .inl same⟩)
    have drops : (relay.world.net.link index).drops payload = true := by
      by_contra takes
      exact gone ((mem_handing ..).mpr ⟨old, .inr (by simpa using takes)⟩)
    rw [handing_link sound, if_neg other, if_pos old]
    exact Link.served_leaves payload _ (sound.alive index old).closed drops

end

/-- The bytes that an iteration read from a link and handed on. -/
def takenFrom (result : Option Outcome) (index : Nat) : Bytes :=
  match result with
  | some (.broadcast source payload) => if source = index then payload else []
  | _ => []

/-- An iteration takes from an inbox what it hands on, and nothing else. -/
theorem Served.taken {relay after : Relay} {result : Except Fault Outcome} (sound : relay.Sound)
    (served : Served relay result after) (index : Nat) :
    Stream.Taken (takenFrom result.toOption index) (relay.world.net.link index).stream
      (after.world.net.link index).stream := by
  cases served with
  | nothing => exact ⟨rfl, rfl, rfl⟩
  | refused net log same =>
    rcases same with rfl | rfl <;> exact ⟨rfl, rfl, rfl⟩
  | welcomed door first rest log bound queue addressed =>
    show Stream.Taken [] _ ((relay.taking door first rest).link index).stream
    rw [taking_link]
    split
    next same => exact same ▸ Link.adopt_taken _ _ _
    · exact ⟨rfl, rfl, rfl⟩
  | misfit fault door first rest | forgone fault door first rest =>
    show Stream.Taken [] _ ((relay.taking door first rest).link index).stream
    rw [taking_link]
    split
    next same => exact same ▸ Link.adopt_taken _ _ _
    · exact ⟨rfl, rfl, rfl⟩
  | left source log member none =>
    show Stream.Taken [] _ _
    rw [parting_link]
    split
    next same =>
      have read := Link.read_taken (relay.world.net.link source) relay.world.net.platform relay.settings.recvSize
      rw [show ((relay.world.net.link source).read _ _).1.taken = [] from none] at read
      exact same ▸ read.trans (Link.close_taken _)
    · exact ⟨rfl, rfl, rfl⟩
  | handedOn source payload log member some full =>
    rw [handing_link sound]
    show Stream.Taken (if source = index then payload else []) _ _
    by_cases own : index = source
    · subst own
      have read := Link.read_taken (relay.world.net.link index) relay.world.net.platform relay.settings.recvSize
      rw [show ((relay.world.net.link index).read _ _).1 = .bytes payload from some] at read
      simpa [Reading.taken] using read
    · rw [if_neg (Ne.symm own), if_neg own]
      split
      · exact Link.served_taken _ _ (sound.os.links index)
      · exact ⟨rfl, rfl, rfl⟩
  | unread source fault member fails =>
    show Stream.Taken [] _ ((relay.readNet source).link index).stream
    rw [readNet_link]
    split
    next same =>
      have read := Link.read_taken (relay.world.net.link source) relay.world.net.platform relay.settings.recvSize
      rw [show ((relay.world.net.link source).read _ _).1 = .fault fault from fails] at read
      exact same ▸ read
    · exact ⟨rfl, rfl, rfl⟩

theorem Served.turn {relay after : Relay} {result : Except Fault Outcome} (sound : relay.Sound)
    (served : Served relay result after) : Turn relay after := by
  cases served with
  | nothing =>
    exact same_turn sound rfl rfl rfl rfl sound.os rfl rfl (fun _ => rfl) (fun _ => rfl)
  | refused net log same => exact refused_turn sound net log same
  | welcomed door first rest log bound queue addressed =>
    exact taking_turn sound bound queue _ _ log (.inr rfl)
  | misfit fault door first rest bound queue | forgone fault door first rest log bound queue =>
    exact taking_turn sound bound queue _ relay.accepted _ (.inl rfl)
  | left source log member none => exact parting_turn sound member log
  | handedOn source payload log member some full => exact handing_turn sound member payload log
  | unread source fault member => exact unread_turn sound member _

end Relay
end RelayBench
