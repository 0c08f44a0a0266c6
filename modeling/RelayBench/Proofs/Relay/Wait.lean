import RelayBench.Proofs.FanOut
import RelayBench.Proofs.Script
import RelayBench.Relay.Basic

/-! The wait of an iteration: it changes the world by the events that the script has in store and by
nothing else, and it reports members of the room only. -/
namespace RelayBench
namespace Action

variable {α : Type}

@[simp] theorem liftRoom_apply (action : RoomCall α) (relay : Relay) :
    (liftM action : RelayCall α) relay =
      onPart Relay.room (fun room relay => { relay with room }) action relay := rfl

@[simp] theorem liftBenchRelay_apply (action : Bench α) (relay : Relay) :
    (liftM action : RelayCall α) relay =
      onPart Relay.room (fun room relay => { relay with room })
        (onPart Room.world (fun world room => { room with world }) action) relay := rfl

@[simp] theorem liftNetRelay_apply (call : NetCall α) (relay : Relay) :
    (liftM call : RelayCall α) relay =
      onPart Relay.room (fun room relay => { relay with room })
        (onPart Room.world (fun world room => { room with world })
          (onPart World.net (fun net world => { world with net }) call)) relay := rfl

end Action

namespace World

/-- The events that the next readiness wait lets happen. -/
def upcoming (world : World) : List Event :=
  match FaultQueue.next world.net.faults .select, world.script with
  | none, some (item :: _) => heard item
  | _, _ => []

def remaining (world : World) : Option (List (List Event)) :=
  match FaultQueue.next world.net.faults .select, world.script with
  | none, some (_ :: rest) => some rest
  | _, script => script

/-- Whether the script has an item for the next readiness wait. -/
def advances (world : World) : Bool :=
  match FaultQueue.next world.net.faults .select, world.script with
  | none, some (_ :: _) => true
  | _, _ => false

/-- Whether that item holds an interrupt. -/
def cutShort (world : World) : Bool :=
  match FaultQueue.next world.net.faults .select, world.script with
  | none, some (item :: _) => item.any Event.interrupts
  | _, _ => false

def settled (world : World) : Net := (world.net.called .select).applyAll world.upcoming

end World

namespace Readiness

theorem mem_of_ready {world : World} {watched : List Watched} {thing : Watched}
    (member : thing ∈ ready world watched) : thing ∈ watched ∧ thing.isReady world.net = true := by
  obtain ⟨position, _, found⟩ := List.mem_filterMap.mp member
  exact List.mem_filter.mp (List.mem_of_getElem? found)

/-- An order of report that leaves nothing out. -/
def Complete (order : Nat → List Nat) : Prop := ∀ count position, position < count → position ∈ order count

theorem mem_ready {world : World} (complete : Complete world.order) {watched : List Watched}
    {thing : Watched} : thing ∈ ready world watched ↔ thing ∈ watched ∧ thing.isReady world.net = true := by
  refine ⟨mem_of_ready, fun both => ?_⟩
  obtain ⟨position, within, found⟩ := List.mem_iff_getElem.mp (List.mem_filter.mpr both)
  have stands := List.getElem?_eq_some_iff.mpr ⟨within, found⟩
  exact List.mem_filterMap.mpr ⟨position, complete _ position within, stands⟩

/-- What a wait in the foreground comes to in the world that it leaves: the fault in store for it, an
interrupt, or what is ready. -/
def verdict (timeout : Option Number) (watched : List Watched) (world after : World) :
    Except Fault (List Watched) :=
  match FaultQueue.next world.net.faults .select with
  | some fault => .error fault
  | none =>
    if world.cutShort || (!world.advances && (ready after watched).isEmpty &&
        (timeout.isNone || world.script.isSome)) then .error .keyboardInterrupt
    else .ok (ready after watched)

theorem verdict_ready {timeout : Option Number} {watched found : List Watched} {world after : World}
    (reports : verdict timeout watched world after = .ok found) : found = ready after watched := by
  unfold verdict at reports
  split at reports
  · cases reports
  · split at reports
    · cases reports
    · cases reports
      rfl

theorem poll_advanced (timeout : Option Number) (watched : List Watched) {world after : World}
    {advanced : Bool} (quiet : FaultQueue.next world.net.faults .select = none)
    (advances : World.advanceScript { world with net := world.net.called .select } = .ok advanced after) :
    poll .foreground timeout watched world =
      if (!advanced && (ready after watched).isEmpty && (timeout.isNone || world.script.isSome)) = true then
        .error .keyboardInterrupt after
      else .ok (ready after watched) after := by
  simp only [poll, Action.bind_apply, Action.liftNet_apply, Action.onPart_apply,
    Net.queued_ok quiet, Action.get_apply, advances]
  split <;> rfl

/-- A wait in the foreground lets the upcoming events happen and comes to its verdict. -/
theorem poll_eq (timeout : Option Number) (watched : List Watched) (world : World) :
    ∃ stop, Action.state (poll .foreground timeout watched world) =
        { world with net := world.settled, script := world.remaining, stopRequested := stop } ∧
      Action.result (poll .foreground timeout watched world) = verdict timeout watched world
        { world with net := world.settled, script := world.remaining, stopRequested := stop } := by
  cases raised : FaultQueue.next world.net.faults .select with
  | some fault =>
    refine ⟨world.stopRequested, ?_⟩
    simp [poll, Net.queued_error raised, World.settled, World.upcoming, World.remaining, raised,
      Net.applyAll, verdict]
  | none =>
    have reported (advanced : Bool) {after : World}
        (advances : World.advanceScript { world with net := world.net.called .select } = .ok advanced after)
        (known : world.advances = advanced) (uncut : world.cutShort = false) :
        Action.state (poll .foreground timeout watched world) = after ∧
          Action.result (poll .foreground timeout watched world) = verdict timeout watched world after := by
      rw [poll_advanced timeout watched raised advances]
      simp only [verdict, raised, known, uncut, Bool.false_or]
      split <;> exact ⟨rfl, rfl⟩
    rcases script : world.script with _ | ⟨_ | ⟨item, rest⟩⟩
    · refine ⟨world.stopRequested, reported false ?_ ?_ ?_⟩ <;>
      simp [World.advanceScript, World.advances, World.cutShort, script, World.settled, World.upcoming,
        World.remaining, raised, Net.applyAll]
    · refine ⟨world.stopRequested, reported false ?_ ?_ ?_⟩ <;>
      simp [World.advanceScript, World.advances, World.cutShort, script, World.settled, World.upcoming,
        World.remaining, raised, Net.applyAll]
    · obtain ⟨stop, ⟨clear, replies, ran⟩ | ⟨cut, ran⟩⟩ := World.happenAll_cases
        { world with net := world.net.called .select, script := some rest } item
      · refine ⟨stop, reported true ?_ ?_ ?_⟩
        · simp [World.advanceScript, script, World.settled, World.upcoming, World.remaining, raised, ran]
        · simp [World.advances, raised, script]
        · simpa [World.cutShort, raised, script] using clear
      · refine ⟨stop, ?_⟩
        have short : world.cutShort = true := by simpa [World.cutShort, raised, script] using cut
        simp [poll, Net.queued_ok raised, World.advanceScript, script, World.settled, World.upcoming,
          World.remaining, raised, ran, verdict, short]

/-- A wait in the foreground lets the upcoming events happen and reports watched things only, if it
does not end by a fault. -/
theorem poll_cases (timeout : Option Number) (watched : List Watched) (world : World) :
    ∃ stop, (∃ found, (∀ thing ∈ found, thing ∈ watched) ∧ poll .foreground timeout watched world =
        .ok found { world with net := world.settled, script := world.remaining, stopRequested := stop }) ∨
      ∃ fault, poll .foreground timeout watched world = .error fault
        { world with net := world.settled, script := world.remaining, stopRequested := stop } := by
  obtain ⟨stop, left, result⟩ := poll_eq timeout watched world
  refine ⟨stop, ?_⟩
  cases ran : poll .foreground timeout watched world with
  | ok found after =>
    rw [ran] at left result
    cases left
    exact .inl ⟨found, fun thing member => (mem_of_ready (verdict_ready result.symm ▸ member)).1, rfl⟩
  | error fault after =>
    rw [ran] at left
    cases left
    exact .inr ⟨fault, rfl⟩

/-- What a wait puts in order is the listener's door and members of the room. -/
theorem mem_arrange {members : List Nat} {reported : List Watched} {thing : Watched}
    (member : thing ∈ arrange members reported) :
    thing.isDoor = true ∧ thing ∈ reported ∨ ∃ index ∈ members, thing = .link index := by
  rcases List.mem_append.mp member with door | link
  · have found := Option.mem_toList.mp door
    exact .inl ⟨List.find?_some found, List.mem_of_find?_eq_some found⟩
  · obtain ⟨index, present, rfl⟩ := List.mem_map.mp link
    exact .inr ⟨index, List.mem_of_mem_filter present, rfl⟩

theorem link_mem_arrange {members : List Nat} {reported : List Watched} {index : Nat}
    (member : .link index ∈ arrange members reported) : index ∈ members := by
  rcases mem_arrange member with ⟨isDoor, _⟩ | ⟨_, inside, same⟩
  · simp [Watched.isDoor] at isDoor
  · cases same
    exact inside

theorem finish_ok {caller : Caller} {timeout : Option Number} {watched found : List Watched}
    (room : Room) {world : World}
    (polled : poll caller timeout watched room.world = .ok found world) :
    ∃ log, finish caller timeout watched room =
      .ok (arrange room.members found) { room with world := { world with log } } := by
  have ran : finish caller timeout watched room = .ok (arrange room.members found)
      { room with
        world := World.write world
          (.debugging Logger.readiness "Readiness"
            (.text (toString (arrange room.members found).length ++ " ready"))) } := by
    simp [finish, polled]
  rw [World.write_eq] at ran
  exact ⟨_, ran⟩

theorem finish_error {caller : Caller} {timeout : Option Number} {watched : List Watched} (room : Room)
    {world : World} {fault : Fault} (polled : poll caller timeout watched room.world = .error fault world) :
    finish caller timeout watched room = .error fault { room with world } := by
  simp [finish, polled]

end Readiness

namespace Relay

def await (timeout : Option Number) : RelayCall (List Watched) := do
  let watched ← enter timeout
  Readiness.finish .foreground timeout watched

/-- An iteration is a wait and the service of the first thing that it reports. -/
theorem step_eq (timeout : Option Number) : step timeout = await timeout >>= service := by
  simp only [step, await, bind_assoc]

def inWorld (relay : Relay) (world : World) : Relay :=
  { relay with room := { relay.room with world } }

/-- What a wait may begin on: a listener whose door is open, and members that all have descriptors. -/
structure Watches (relay : Relay) (door : Nat) : Prop where
  bound : relay.listener.door = some door
  opened : (relay.world.net.door door).isOpen = true
  alive : ∀ index ∈ relay.members, (relay.world.net.link index).hasDescriptor = true

theorem watch_ok {relay : Relay} {door : Nat} (watches : relay.Watches door) :
    Readiness.watch relay.listener relay.members relay.world =
      .ok (.door door :: relay.members.map .link) relay.world := by
  have alive : ¬∃ index ∈ relay.members, (relay.world.net.link index).hasDescriptor = false := by
    rintro ⟨index, member, shut⟩
    simp [watches.alive index member] at shut
  simp [Readiness.watch, Listener.descriptor, watches.bound, watches.opened, alive]

theorem enter_ok {relay : Relay} {door : Nat} (watches : relay.Watches door)
    (timeout : Option Number) :
    enter timeout relay = .ok (.door door :: relay.members.map .link)
      (relay.inWorld { relay.world with waits := relay.world.waits ++ [timeout] }) := by
  have watched := watch_ok watches
  simp only [world] at watched
  simp [enter, Listener.isBound, watches.bound, watched, Readiness.start, inWorld, world]

/-- A wait begins, noting its limit, or does not begin and leaves the relay alone. -/
theorem enter_cases (timeout : Option Number) (relay : Relay) :
    (∃ fault, enter timeout relay = .error fault relay) ∨ ∃ door, relay.Watches door ∧
      enter timeout relay = .ok (.door door :: relay.members.map .link)
        (relay.inWorld { relay.world with waits := relay.world.waits ++ [timeout] }) := by
  cases bound : relay.listener.door with
  | none =>
    exact .inl ⟨.harness .notConnected "Relay is not bound"
      [("host", relay.settings.host.datum), ("port", .int relay.settings.port)] none,
      by simp [enter, Listener.isBound, bound]⟩
  | some door =>
    by_cases watches : relay.Watches door
    · exact .inr ⟨door, watches, enter_ok watches timeout⟩
    · refine .inl ⟨Readiness.invalidDescriptor, ?_⟩
      have missing : (relay.room.world.net.door door).isOpen = false ∨
          ∃ index ∈ relay.members, (relay.room.world.net.link index).hasDescriptor = false := by
        by_contra all
        simp only [not_or, Bool.not_eq_false, not_exists, not_and] at all
        exact watches ⟨bound, all.1, all.2⟩
      simp [enter, Listener.isBound, bound, Readiness.watch, Listener.descriptor, missing]

/-- The events that happen during the wait of an iteration: none when the wait does not begin. -/
def heard (timeout : Option Number) (relay : Relay) : List Event :=
  match enter timeout relay with
  | .ok _ _ => relay.world.upcoming
  | .error _ _ => []

/-- What a wait that begins makes of the world: the upcoming events have happened in the network. -/
structure Waited (before after : World) : Prop where
  net : after.net = before.settled
  script : after.script = before.remaining

/-- The readiness call of an iteration's wait on a listener's door and the members. -/
def polled (relay : Relay) (timeout : Option Number) (door : Nat) :
    EStateM.Result Fault World (List Watched) :=
  Readiness.poll .foreground timeout (.door door :: relay.members.map .link)
    { relay.world with waits := relay.world.waits ++ [timeout] }

theorem await_ok {timeout : Option Number} {relay : Relay} {door : Nat} {found : List Watched}
    {world : World} (watches : relay.Watches door) (reports : relay.polled timeout door = .ok found world) :
    ∃ log, await timeout relay =
      .ok (Readiness.arrange relay.members found) (relay.inWorld { world with log }) := by
  have entered := enter_ok watches timeout
  obtain ⟨log, finished⟩ := Readiness.finish_ok
    (relay.inWorld { relay.world with waits := relay.world.waits ++ [timeout] }).room reports
  refine ⟨log, ?_⟩
  rw [await, Action.bind_ok entered, Action.liftRoom_apply, Action.onPart_ok finished]
  rfl

theorem await_error {timeout : Option Number} {relay : Relay} {door : Nat} {fault : Fault}
    {world : World} (watches : relay.Watches door) (raises : relay.polled timeout door = .error fault world) :
    await timeout relay = .error fault (relay.inWorld world) := by
  have entered := enter_ok watches timeout
  have finished := Readiness.finish_error
    (relay.inWorld { relay.world with waits := relay.world.waits ++ [timeout] }).room raises
  rw [await, Action.bind_ok entered, Action.liftRoom_apply, Action.onPart_error finished]
  rfl

/-- The wait of an iteration does not begin and leaves the relay alone, or it changes the world as
told and reports the listener's door and members only, if it does not end by a fault. -/
theorem await_cases (timeout : Option Number) (relay : Relay) :
    (relay.heard timeout = [] ∧ ∃ fault, await timeout relay = .error fault relay) ∨
    ∃ door world, relay.Watches door ∧ relay.heard timeout = relay.world.upcoming ∧
      Waited relay.world world ∧
      ((∃ fault, await timeout relay = .error fault (relay.inWorld world)) ∨
        ∃ ready, await timeout relay = .ok ready (relay.inWorld world) ∧
          ∀ thing ∈ ready, thing = .door door ∨ ∃ index ∈ relay.members, thing = .link index) := by
  rcases relay.enter_cases timeout with ⟨fault, entered⟩ | ⟨door, watches, entered⟩
  · exact .inl ⟨by simp [heard, entered], fault, by rw [await, Action.bind_error entered]⟩
  · have heard : relay.heard timeout = relay.world.upcoming := by simp [heard, entered]
    obtain ⟨stop, ⟨found, watched, reports⟩ | ⟨fault, raises⟩⟩ := Readiness.poll_cases timeout
      (.door door :: relay.members.map .link)
      { relay.world with waits := relay.world.waits ++ [timeout] }
    · obtain ⟨log, ran⟩ := await_ok watches reports
      refine .inr ⟨door, _, watches, heard, ?_, .inr ⟨_, ran, fun thing member => ?_⟩⟩
      · exact ⟨rfl, rfl⟩
      · rcases Readiness.mem_arrange member with ⟨isDoor, reported⟩ | link
        · refine .inl ?_
          have known := watched thing reported
          cases thing with
          | door index => simpa using known
          | link index => simp [Watched.isDoor] at isDoor
        · exact .inr link
    · exact .inr ⟨door, _, watches, heard, ⟨rfl, rfl⟩, .inl ⟨fault, await_error watches raises⟩⟩

theorem polled_eq (relay : Relay) (timeout : Option Number) (door : Nat) :
    ∃ world, Action.state (relay.polled timeout door) = world ∧ Waited relay.world world ∧
      world.order = relay.world.order ∧
      Action.result (relay.polled timeout door) =
        Readiness.verdict timeout (.door door :: relay.members.map .link) relay.world world := by
  obtain ⟨stop, left, verdict⟩ := Readiness.poll_eq timeout (.door door :: relay.members.map .link)
    { relay.world with waits := relay.world.waits ++ [timeout] }
  exact ⟨_, left, ⟨rfl, rfl⟩, rfl, verdict⟩

theorem enter_unbound {relay : Relay} (unbound : relay.listener.door = none) (timeout : Option Number) :
    enter timeout relay = .error (.harness .notConnected "Relay is not bound"
      [("host", relay.settings.host.datum), ("port", .int relay.settings.port)] none) relay := by
  simp [enter, Listener.isBound, unbound]

/-- The wait of an iteration in closed form. -/
theorem await_eq {relay : Relay} {door : Nat} (watches : relay.Watches door) (timeout : Option Number) :
    ∃ world, Action.state (await timeout relay) = relay.inWorld world ∧ Waited relay.world world ∧
      world.order = relay.world.order ∧
      Action.result (await timeout relay) =
        (Readiness.verdict timeout (.door door :: relay.members.map .link) relay.world world).map
          (Readiness.arrange relay.members) := by
  obtain ⟨world, left, waited, order, verdict⟩ := relay.polled_eq timeout door
  cases polled : relay.polled timeout door with
  | ok found after =>
    obtain ⟨log, ran⟩ := await_ok watches polled
    rw [polled, Action.state_ok] at left
    rw [polled, Action.result_ok] at verdict
    subst left
    refine ⟨_, congrArg Action.state ran, ⟨waited.net, waited.script⟩, order, ?_⟩
    rw [ran, Action.result_ok]
    exact congrArg (Except.map (Readiness.arrange relay.members)) verdict
  | error fault after =>
    have ran := await_error watches polled
    rw [polled, Action.state_error] at left
    rw [polled, Action.result_error] at verdict
    subst left
    refine ⟨_, congrArg Action.state ran, waited, order, ?_⟩
    rw [ran, ← verdict]
    rfl

/-- Only a bound relay gets through a wait. -/
theorem await_bound {timeout : Option Number} {relay middle : Relay} {ready : List Watched}
    (waited : await timeout relay = .ok ready middle) : ∃ door, middle.listener.door = some door := by
  rcases relay.await_cases timeout with ⟨_, fault, ran⟩ | ⟨door, world, watches, _, _, course⟩
  · exact nomatch ran.symm.trans waited
  · rcases course with ⟨fault, ran⟩ | ⟨found, ran, _⟩
    · exact nomatch ran.symm.trans waited
    · cases ran.symm.trans waited
      exact ⟨door, watches.bound⟩

end Relay
end RelayBench
