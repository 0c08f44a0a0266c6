import RelayBench.Proofs.Relay.Turn

/-! Binding and closing a relay.  Binding opens one new door or leaves no new door open; closing lets
go of every member and every waiting link and leaves the relay unbound, whatever faults it meets. -/
namespace RelayBench
namespace Relay

section

variable {relay : Relay} {own : Nat} {net : Net} {fault : Fault}

theorem bind_bound (bound : relay.listener.door = some own) : bind relay = .ok () relay := by
  simp [bind, Listener.bind, bound]

theorem bind_opened (unbound : relay.listener.door = none)
    (opened : Net.openDoor relay.listener.host relay.listener.port relay.listener.backlog relay.world.net =
      .ok own net) :
    bind relay = .ok ()
      { relay with
        listener := { relay.listener with door := some own }
        room :=
          { members := relay.members
            world := World.write { relay.world with net }
              (.connection Logger.listener "Listening" (net.door own).host (net.door own).port) } } := by
  simp only [world] at opened
  simp [bind, Listener.bind, unbound, opened, Listener.address, world, members]

theorem bind_failed (unbound : relay.listener.door = none)
    (failed : Net.openDoor relay.listener.host relay.listener.port relay.listener.backlog relay.world.net =
      .error fault net) :
    bind relay = .error fault (relay.put relay.members net relay.world.log) := by
  simp only [world] at failed
  simp [bind, Listener.bind, unbound, failed, put, world, members]

end

/-- A bound relay stays as it is; another opens a new door, or keeps only its fault queue's entries and
a closed door of the attempt. -/
theorem bind_cases {relay : Relay} (sound : relay.Sound) (lower : 0 ≤ relay.listener.port)
    (upper : relay.listener.port ≤ 65535) :
    (relay.listener.door ≠ none ∧ bind relay = .ok () relay) ∨
    relay.listener.door = none ∧
      ((∃ net log, bind relay = .ok ()
          { relay.put relay.members net log with
            listener := { relay.listener with door := some relay.world.net.doorCount } } ∧
          Net.Added relay.world.net net ∧ net.doorCount = relay.world.net.doorCount + 1 ∧
          (net.door relay.world.net.doorCount).isReachable = true ∧
          (net.door relay.world.net.doorCount).pending = []) ∨
        ∃ fault net, bind relay = .error fault (relay.put relay.members net relay.world.log) ∧
          Net.Added relay.world.net net ∧ Net.Vacated relay.world.net.doorCount net) := by
  cases bound : relay.listener.door with
  | some door =>
    exact .inl ⟨by simp, bind_bound bound⟩
  | none =>
    refine .inr ⟨rfl, ?_⟩
    rcases relay.world.net.openDoor_cases sound.os sound.grounded.listens lower upper with
      ⟨net, opened, added, count, isOpen, listens, empty⟩ | ⟨fault, net, failed, added, shut⟩
    · have ran := bind_opened bound opened
      rw [World.write_eq] at ran
      exact .inl ⟨net, _, ran, added, count, by simp [Door.isReachable, isOpen, listens], empty⟩
    · exact .inr ⟨fault, net, bind_failed bound failed, added, shut⟩

/-- Whatever comes of a binding, it adds a door at most and may give it to the listener. -/
theorem bind_state {relay : Relay} (sound : relay.Sound) (lower : 0 ≤ relay.listener.port)
    (upper : relay.listener.port ≤ 65535) : ∃ net log own, Net.Added relay.world.net net ∧
      Action.state (bind relay) =
        { relay.put relay.members net log with listener := { relay.listener with door := own } } := by
  rcases bind_cases sound lower upper with
    ⟨_, ran⟩ | ⟨_, ⟨net, log, ran, added, _⟩ | ⟨fault, net, ran, added, _⟩⟩
  · have same : Net.Added relay.world.net relay.world.net :=
      ⟨rfl, rfl, Nat.le_refl _, fun _ => rfl, fun _ _ => rfl, sound.os⟩
    exact ⟨relay.world.net, relay.world.log, relay.listener.door, same, by rw [ran]; rfl⟩
  · exact ⟨net, log, some relay.world.net.doorCount, added, by rw [ran]; rfl⟩
  · exact ⟨net, relay.world.log, relay.listener.door, added, by rw [ran]; rfl⟩

/-- Only a proper port can be bound. -/
theorem bind_inRange {relay after : Relay} (unbound : relay.listener.door = none)
    (bound : bind relay = .ok () after) : 0 ≤ relay.listener.port ∧ relay.listener.port ≤ 65535 := by
  cases opened : Net.openDoor relay.listener.host relay.listener.port relay.listener.backlog
      relay.world.net with
  | ok index net => exact Net.openDoor_inRange _ opened
  | error fault net => cases bound.symm.trans (bind_failed unbound opened)

/-- Where a relay could be bound, the platform takes its address and its backlog. -/
theorem bind_takes {relay after : Relay} (unbound : relay.listener.door = none)
    (bound : bind relay = .ok () after) : relay.world.net.Takes relay.listener.host relay.listener.backlog := by
  cases opened : Net.openDoor relay.listener.host relay.listener.port relay.listener.backlog
      relay.world.net with
  | ok index net => exact Net.openDoor_takes _ opened
  | error fault net => cases bound.symm.trans (bind_failed unbound opened)

theorem bind_isBound {relay after : Relay} (bound : bind relay = .ok () after) :
    after.listener.isBound = true := by
  cases door : relay.listener.door with
  | some own =>
    cases bound.symm.trans (bind_bound door)
    simp [Listener.isBound, door]
  | none =>
    cases opened : Net.openDoor relay.listener.host relay.listener.port relay.listener.backlog
        relay.world.net with
    | ok index net =>
      cases bound.symm.trans (bind_opened door opened)
      rfl
    | error fault net => cases bound.symm.trans (bind_failed door opened)

theorem closeLinks_ok (indices : List Nat) (room : Room)
    (os : ∀ index, (room.link index).stream.AllOs) :
    ∃ log, (indices.forM fun index => do World.closeLink index : RoomCall Unit) room =
      .ok () { room with
        world :=
          { room.world with
            net := room.world.net.updateLinks indices fun link => link.close.2
            log } } := by
  induction indices generalizing room with
  | nil => exact ⟨room.world.log, rfl⟩
  | cons first rest ih =>
    obtain ⟨log, closed⟩ := World.closeLink_ok room.world first (os first)
    obtain ⟨last, ran⟩ := ih
      { room with
        world :=
          { room.world with
            net := room.world.net.updateLink first fun link => link.close.2
            log } }
      fun index => by
        rw [Room.link, Net.link_updateLink]
        split
        · exact Link.close_allOs _ (os first)
        · exact os index
    refine ⟨last, ?_⟩
    show ((do World.closeLink first; rest.forM fun index => do World.closeLink index : RoomCall Unit) room) = _
    have started := (Action.liftBench_apply (World.closeLink first) room).trans (Action.onPart_ok closed)
    rw [Action.bind_ok started, ran]
    rfl

/-- The network of a relay after its members were closed. -/
def emptiedNet (relay : Relay) : Net :=
  relay.world.net.updateLinks relay.members fun link => link.close.2

/-- The network of a relay after its door, if it has one, was closed. -/
def shutNet (relay : Relay) : Net :=
  match relay.listener.door with
  | some door => (relay.world.net.shut door).called .close
  | none => relay.world.net

/-- The network of a relay after its members, and its door if it has one, were closed. -/
def closedNet (relay : Relay) : Net :=
  shutNet (relay.put [] relay.emptiedNet relay.world.log)

@[simp] theorem shutNet_platform (relay : Relay) : relay.shutNet.platform = relay.world.net.platform := by
  unfold shutNet
  split
  · rw [Net.called_platform, Net.shut_platform]
  · rfl

@[simp] theorem shutNet_doorCount (relay : Relay) : relay.shutNet.doorCount = relay.world.net.doorCount := by
  unfold shutNet
  split
  · rw [Net.called_doorCount, Net.shut_doorCount]
  · rfl

@[simp] theorem shutNet_linkCount (relay : Relay) : relay.shutNet.linkCount = relay.world.net.linkCount := by
  unfold shutNet
  split
  · rw [Net.called_linkCount, Net.shut_linkCount]
  · rfl

theorem shutNet_door (relay : Relay) (door : Nat) :
    relay.shutNet.door door =
      if relay.listener.door = some door then
        { relay.world.net.door door with pending := [], isOpen := false }
      else relay.world.net.door door := by
  unfold shutNet
  split
  next own bound =>
    rw [Net.called_door, Net.shut_door, bound]
    by_cases same : door = own
    · rw [if_pos same, if_pos (congrArg some same.symm), same]
    · rw [if_neg same, if_neg fun equal => same (Option.some.inj equal).symm]
  next unbound =>
    have other : relay.listener.door ≠ some door := by simp [unbound]
    rw [if_neg other]

theorem shutNet_link {relay : Relay} (queue : relay.waiting.Nodup) (index : Nat) :
    relay.shutNet.link index =
      if index ∈ relay.waiting then
        { relay.world.net.link index with
          stream := { (relay.world.net.link index).stream with isOpen := false } }
      else relay.world.net.link index := by
  unfold shutNet
  split
  next door bound =>
    have waits : relay.waiting = (relay.world.net.door door).pending := by simp only [waiting, bound]
    rw [Net.called_link, Net.shut_link _ _ (waits ▸ queue), ← waits]
  next unbound => simp [waiting, unbound]

section

variable {relay : Relay} (sound : relay.Sound)
include sound

theorem emptiedNet_link (index : Nat) :
    relay.emptiedNet.link index =
      if index ∈ relay.members then (relay.world.net.link index).close.2
      else relay.world.net.link index :=
  Net.link_updateLinks _ _ sound.distinct _ index

theorem emptiedNet_allOs : relay.emptiedNet.AllOs := by
  refine ⟨sound.os.calls, fun index => ?_⟩
  rw [emptiedNet_link sound]
  split
  · exact Link.close_allOs _ (sound.os.links index)
  · exact sound.os.links index

/-- A relay whose members were closed is sound. -/
theorem emptied_sound (log : List Entry) : (relay.put [] relay.emptiedNet log).Sound where
  grounded := sound.grounded.of_same rfl rfl
  os := emptiedNet_allOs sound
  distinct := List.nodup_nil
  alive := fun _ member => absurd member List.not_mem_nil
  queue := sound.queue
  fresh := by
    intro index waits
    obtain ⟨live, apart, blank⟩ := sound.fresh index waits
    have link : relay.emptiedNet.link index = relay.world.net.link index := by
      rw [emptiedNet_link sound, if_neg apart]
    exact ⟨⟨live.known, link ▸ live.closed, link ▸ live.broken, link ▸ live.isOpen⟩, List.not_mem_nil,
      (congrArg (fun link : Link => link.stream.outbox) link).trans blank⟩
  door := sound.door

theorem closedNet_link (index : Nat) :
    relay.closedNet.link index =
      if index ∈ relay.members then (relay.world.net.link index).close.2
      else if index ∈ relay.waiting then
        { relay.world.net.link index with
          stream := { (relay.world.net.link index).stream with isOpen := false } }
      else relay.world.net.link index := by
  have shut := shutNet_link (emptied_sound sound relay.world.log).queue index
  have emptied := emptiedNet_link sound index
  by_cases queued : index ∈ relay.waiting
  · have outside := (sound.fresh index queued).2.1
    rw [if_neg outside] at emptied ⊢
    exact shut.trans (emptied ▸ rfl)
  · rw [if_neg queued]
    rw [if_neg (show index ∉ waiting (relay.put [] relay.emptiedNet relay.world.log) from queued)] at shut
    exact shut.trans emptied

theorem shutNet_allOs : relay.shutNet.AllOs := by
  unfold shutNet
  split
  next door bound =>
    have queue : (relay.world.net.door door).pending.Nodup := by
      simpa only [waiting, bound] using sound.queue
    exact Net.called_allOs (Net.shut_allOs _ sound.os door queue) .close
  next unbound => exact sound.os

theorem unlisten_state :
    Action.state (unlisten relay) =
      { relay.put relay.members relay.shutNet relay.world.log with listener := relay.listener.unbind } := by
  have members : relay.room.members = relay.members := rfl
  cases bound : relay.listener.door with
  | none => simp [unlisten, Listener.release, bound, put, shutNet, world, members]
  | some door =>
    rcases relay.world.net.closeDoor_open sound.os door (sound.watches bound).opened with
      closed | ⟨fault, _, closed⟩ <;>
    · simp only [world] at closed
      simp [unlisten, Listener.release, bound, put, shutNet, closed, world, members]

theorem dismiss_ok : ∃ log, dismiss relay = .ok () (relay.put [] relay.emptiedNet log) := by
  obtain ⟨log, closed⟩ := closeLinks_ok relay.room.members relay.room sound.os.links
  have emptied : Room.closeAll relay.room = .ok relay.members.length
      (relay.put [] relay.emptiedNet log).room := by
    rw [Room.closeAll, Action.bind_ok (Action.get_apply _), Action.bind_ok closed]
    rfl
  have started : (liftM Room.closeAll : RelayCall Nat) relay =
      .ok relay.members.length (relay.put [] relay.emptiedNet log) :=
    (Action.liftRoom_apply Room.closeAll relay).trans (Action.onPart_ok emptied)
  rw [dismiss, Action.bind_ok started]
  split
  · have told : (liftM (World.emit (.peers Logger.relay
        ("Closed " ++ toString relay.members.length ++ " remaining peers") "" (some 0))) : RelayCall Unit)
        (relay.put [] relay.emptiedNet log) =
        .ok () ((relay.put [] relay.emptiedNet log).inWorld
          (World.write (relay.put [] relay.emptiedNet log).world (.peers Logger.relay
            ("Closed " ++ toString relay.members.length ++ " remaining peers") "" (some 0)))) := rfl
    rw [World.write_eq] at told
    exact ⟨_, told⟩
  · exact ⟨log, rfl⟩

/-- Closing comes down to its end, once all members are closed. -/
theorem close_split : ∃ log, dismiss relay = .ok () (relay.put [] relay.emptiedNet log) ∧
    close relay = unlisten (relay.put [] relay.emptiedNet log) := by
  obtain ⟨log, dismissed⟩ := dismiss_ok sound
  exact ⟨log, dismissed, Action.bind_ok dismissed _⟩

/-- Closing leaves no member and no bound listener, whether it raises a fault or not. -/
theorem close_state : ∃ log, Action.state (close relay) =
    { relay.put [] relay.closedNet log with listener := relay.listener.unbind } := by
  obtain ⟨log, _, split⟩ := close_split sound
  exact ⟨log, split ▸ unlisten_state (emptied_sound sound log)⟩

end

end Relay
end RelayBench
