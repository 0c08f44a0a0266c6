import RelayBench.Proofs.Relay.Drift

/-! Runs of a relay: any order of bindings, iterations, requests to stop, closings and events of the
network, with a record of what each of them was met with and left.  Every state of a run is sound. -/
namespace RelayBench

/-- One move of a run: an event of the network, or a call of the relay. -/
inductive Move where
  | event (event : Event)
  | step (timeout : Option Number)
  | bind
  | shutdown
  | close

namespace Move

def isStepping : Move → Bool
  | .event _ => true
  | .step _ => true
  | _ => false

def Meets (kind : Event → Prop) : Move → Prop
  | .event happens => kind happens
  | _ => True

end Move

/-- One move of a run, what it met, how it went and what it left. -/
structure Frame where
  move : Move
  before : Relay
  result : Except Fault (Option Outcome)
  after : Relay

namespace Relay

def perform : Move → RelayCall (Option Outcome)
  | .event event => do
    let _ ← World.happen event
    pure none
  | .step timeout => do
    let outcome ← step timeout
    pure (some outcome)
  | .bind => do
    bind
    pure none
  | .shutdown => do
    shutdown
    pure none
  | .close => do
    close
    pure none

def frame (relay : Relay) (move : Move) : Frame where
  move := move
  before := relay
  result := Action.result (perform move relay)
  after := Action.state (perform move relay)

def trace (relay : Relay) : List Move → List Frame
  | [] => []
  | move :: rest => relay.frame move :: (relay.frame move).after.trace rest

def afterAll (relay : Relay) : List Move → Relay
  | [] => relay
  | move :: rest => (relay.frame move).after.afterAll rest

end Relay

namespace Frame

def outcome? (frame : Frame) : Option Outcome := frame.result.toOption.join

/-- The relay between the wait and the service of an iteration. -/
def awaited (frame : Frame) : Relay :=
  match frame.move with
  | .step timeout => Action.state (frame.before.await timeout)
  | _ => frame.before

/-- The link that an iteration let in. -/
def accepted? (frame : Frame) : Option Nat :=
  match frame.outcome? with
  | some (.accepted link) => some link
  | _ => none

end Frame

namespace Relay

theorem perform_event (relay : Relay) {event : Event} (quiet : event.interrupts = false) :
    perform (.event event) relay = .ok none (relay.inWorld
      { relay.world with
        net := (relay.world.net.apply event).2
        stopRequested := event.stops || relay.world.stopRequested }) := by
  have happened := World.happen_ok relay.world quiet
  simp only [world] at happened
  simp only [perform, Action.bind_apply, Action.liftBenchRelay_apply, Action.onPart_apply, happened]
  rfl

theorem perform_interrupt (relay : Relay) {event : Event} (loud : event.interrupts = true) :
    perform (.event event) relay = .error .keyboardInterrupt relay := by
  cases event <;> simp [Event.interrupts] at loud
  rfl

theorem frame_event (relay : Relay) (event : Event) :
    (relay.frame (.event event)).outcome? = none ∧ ∃ stop, (relay.frame (.event event)).after =
      relay.inWorld { relay.world with net := (relay.world.net.apply event).2, stopRequested := stop } := by
  cases quiet : event.interrupts with
  | true =>
    cases event <;> simp [Event.interrupts] at quiet
    exact ⟨rfl, relay.world.stopRequested, rfl⟩
  | false =>
    refine ⟨?_, event.stops || relay.world.stopRequested, ?_⟩
    · simp only [Frame.outcome?, frame, relay.perform_event quiet]
      rfl
    · simp only [frame, relay.perform_event quiet]
      rfl

theorem frame_quiet (relay : Relay) (move : Move) (action : RelayCall Unit)
    (same : perform move = (do action; pure none)) :
    (relay.frame move).outcome? = none ∧ (relay.frame move).after = Action.state (action relay) := by
  refine ⟨?_, ?_⟩
  · simp only [Frame.outcome?, frame, same, Action.bind_apply]
    cases action relay <;> rfl
  · simp only [frame, same, Action.bind_apply]
    cases action relay <;> rfl

theorem frame_step (relay : Relay) (timeout : Option Number) :
    (relay.frame (.step timeout)).outcome? = (Action.result (step timeout relay)).toOption ∧
      (relay.frame (.step timeout)).after = Action.state (step timeout relay) := by
  refine ⟨?_, ?_⟩
  · simp only [Frame.outcome?, frame, perform, Action.bind_apply]
    cases step timeout relay <;> rfl
  · simp only [frame, perform, Action.bind_apply]
    cases step timeout relay <;> rfl

theorem step_serves {relay middle : Relay} (sound : relay.Sound)
    (script : relay.world.Scripted Event.AllOs) {timeout : Option Number} {ready : List Watched}
    (waited : await timeout relay = .ok ready middle) :
    step timeout relay = service ready middle ∧ middle.Serves (step timeout relay) := by
  have drift := await_drift sound.os script timeout
  have ran : step timeout relay = service ready middle := by
    rw [step_eq, Action.bind_ok waited]
  rw [waited, Action.state_ok] at drift
  refine ⟨ran, ran ▸ ?_⟩
  rcases relay.await_cases timeout with ⟨_, fault, failed⟩ | ⟨door, world, watches, _, _, course⟩
  · rw [failed] at waited
    cases waited
  · rcases course with ⟨fault, failed⟩ | ⟨found, reported, known⟩
    · rw [failed] at waited
      cases waited
    · rw [reported] at waited
      cases waited
      exact service_serves (drift.sound sound) watches.bound known

/-- An iteration ends with its wait, or goes on to the service of what that reported. -/
theorem step_course {relay : Relay} (sound : relay.Sound) (script : relay.world.Scripted Event.AllOs)
    (timeout : Option Number) :
    ((relay.frame (.step timeout)).after = Action.state (await timeout relay) ∧
      (relay.frame (.step timeout)).outcome? = none) ∨
    ∃ result, Served (Action.state (await timeout relay)) result (relay.frame (.step timeout)).after ∧
      (relay.frame (.step timeout)).outcome? = result.toOption := by
  obtain ⟨outcome, after⟩ := relay.frame_step timeout
  rw [outcome, after]
  cases waited : await timeout relay with
  | error fault middle =>
    rw [step_eq, Action.bind_error waited]
    exact .inl ⟨rfl, rfl⟩
  | ok ready middle => exact .inr ⟨_, (step_serves sound script waited).2, rfl⟩

/-- A frame of an event is a drift, and a frame of an iteration is one up to its service, if it comes
to that. -/
theorem stepping_cases {relay : Relay} (sound : relay.Sound)
    (script : relay.world.Scripted Event.AllOs) {move : Move} (stepping : move.isStepping = true)
    (system : move.Meets Event.AllOs) :
    (Drift relay (relay.frame move).after ∧ (relay.frame move).outcome? = none) ∨
    ∃ result, Drift relay (relay.frame move).awaited ∧
      Served (relay.frame move).awaited result (relay.frame move).after ∧
      (relay.frame move).outcome? = result.toOption := by
  cases move with
  | event event =>
    obtain ⟨outcome, stop, after⟩ := relay.frame_event event
    refine .inl ⟨?_, outcome⟩
    rw [after]
    exact ⟨rfl, Net.apply_grown _ event, Net.apply_allOs _ sound.os system⟩
  | step timeout =>
    have drift := await_drift sound.os script timeout
    rcases step_course sound script timeout with ⟨after, quiet⟩ | ⟨result, served, outcome⟩
    · exact .inl ⟨after ▸ drift, quiet⟩
    · exact .inr ⟨result, drift, served, outcome⟩
  | bind => simp [Move.isStepping] at stepping
  | shutdown => simp [Move.isStepping] at stepping
  | close => simp [Move.isStepping] at stepping

theorem Served.script {relay after : Relay} {result : Except Fault Outcome}
    (served : Served relay result after) : after.world.script = relay.world.script := by
  cases served <;> rfl

end Relay

/-- All faults of a world, those in store in its script included, are the operating system's. -/
structure World.AllOs (world : World) : Prop where
  net : world.net.AllOs
  script : world.Scripted Event.AllOs

namespace Relay

/-- What a move comes down to. -/
inductive Course (relay : Relay) (frame : Frame) : Prop
  | drift (drift : Drift relay frame.after) (quiet : frame.outcome? = none)
  | served (result : Except Fault Outcome) (drift : Drift relay frame.awaited)
      (served : Served frame.awaited result frame.after) (outcome : frame.outcome? = result.toOption)
  | bound (after : frame.after = Action.state (bind relay)) (quiet : frame.outcome? = none)
  | closed (after : frame.after = Action.state (close relay)) (quiet : frame.outcome? = none)

/-- What every run of a relay keeps: it is sound, meets faults of the operating system only, and has a
proper port. -/
structure Steady (relay : Relay) : Prop where
  sound : relay.Sound
  script : relay.world.Scripted Event.AllOs
  lower : 0 ≤ relay.listener.port
  upper : relay.listener.port ≤ 65535

variable {relay : Relay} (steady : relay.Steady)
include steady

theorem awaited_drift (move : Move) : Drift relay (relay.frame move).awaited := by
  cases move with
  | step timeout => exact await_drift steady.sound.os steady.script timeout
  | _ => exact drift_refl steady.sound.os

theorem frame_scripted {kind : Event → Prop} (scripted : relay.world.Scripted kind) (move : Move) :
    (relay.frame move).after.world.Scripted kind := by
  cases move with
  | event event =>
    obtain ⟨_, stop, after⟩ := relay.frame_event event
    rw [after]
    exact scripted
  | step timeout =>
    have waited := await_scripted scripted timeout
    rcases step_course steady.sound steady.script timeout with ⟨after, _⟩ | ⟨result, served, _⟩
    · rw [after]
      exact waited
    · exact fun items found => waited items (served.script.symm.trans found)
  | bind =>
    obtain ⟨net, log, own, _, after⟩ := bind_state steady.sound steady.lower steady.upper
    rw [(relay.frame_quiet .bind bind rfl).2, after]
    exact scripted
  | shutdown =>
    rw [(relay.frame_quiet .shutdown shutdown rfl).2]
    exact scripted
  | close =>
    obtain ⟨log, after⟩ := close_state steady.sound
    rw [(relay.frame_quiet .close close rfl).2, after]
    exact scripted

theorem frame_port (move : Move) : (relay.frame move).after.listener.port = relay.listener.port := by
  cases move with
  | event event =>
    obtain ⟨_, stop, after⟩ := relay.frame_event event
    rw [after]
    rfl
  | step timeout =>
    have drift := await_drift steady.sound.os steady.script timeout
    rcases step_course steady.sound steady.script timeout with ⟨after, _⟩ | ⟨result, served, _⟩
    · rw [after]
      exact congrArg Listener.port drift.listener
    · have turn := served.turn (drift.sound steady.sound)
      exact congrArg Listener.port (turn.listener.trans drift.listener)
  | bind =>
    obtain ⟨net, log, own, _, after⟩ := bind_state steady.sound steady.lower steady.upper
    rw [(relay.frame_quiet .bind bind rfl).2, after]
  | shutdown => rfl
  | close =>
    obtain ⟨log, after⟩ := close_state steady.sound
    rw [(relay.frame_quiet .close close rfl).2, after]
    rfl

/-- Every move is a drift, an iteration that comes to its service, a binding or a closing. -/
theorem frame_course {move : Move} (system : move.Meets Event.AllOs) :
    Course relay (relay.frame move) := by
  by_cases stepping : move.isStepping = true
  · rcases stepping_cases steady.sound steady.script stepping system with
      ⟨drift, quiet⟩ | ⟨result, drift, served, outcome⟩
    · exact .drift drift quiet
    · exact .served result drift served outcome
  · cases move with
    | event event => simp [Move.isStepping] at stepping
    | step timeout => simp [Move.isStepping] at stepping
    | bind =>
      obtain ⟨quiet, after⟩ := relay.frame_quiet .bind bind rfl
      exact .bound after quiet
    | shutdown =>
      obtain ⟨quiet, after⟩ := relay.frame_quiet .shutdown shutdown rfl
      exact .drift (after ▸ ⟨rfl, .refl _, steady.sound.os⟩) quiet
    | close =>
      obtain ⟨quiet, after⟩ := relay.frame_quiet .close close rfl
      exact .closed after quiet

theorem frame_kept {move : Move} (system : move.Meets Event.AllOs) :
    Kept relay (relay.frame move).after := by
  have sound := steady.sound
  cases frame_course steady system with
  | drift drift quiet => exact drift.kept sound
  | served result drift served outcome =>
    have calm := drift.kept sound
    exact calm.trans ((served.turn calm.sound).kept calm.sound)
  | bound after quiet => exact after ▸ bind_kept sound steady.lower steady.upper
  | closed after quiet => exact after ▸ close_kept sound

theorem Steady.frame {move : Move} (system : move.Meets Event.AllOs) :
    (relay.frame move).after.Steady where
  sound := (frame_kept steady system).sound
  script := frame_scripted steady steady.script move
  lower := frame_port steady move ▸ steady.lower
  upper := frame_port steady move ▸ steady.upper

theorem Steady.afterAll {moves : List Move} (system : ∀ move ∈ moves, move.Meets Event.AllOs) :
    (relay.afterAll moves).Steady := by
  induction moves generalizing relay with
  | nil => exact steady
  | cons move rest ih =>
    obtain ⟨here, others⟩ := List.forall_mem_cons.mp system
    exact ih (steady.frame here) others

/-- A platform that suits a relay suits it for the rest of a run. -/
theorem Steady.afterAll_suited (suited : relay.Suited) {moves : List Move}
    (system : ∀ move ∈ moves, move.Meets Event.AllOs) : (relay.afterAll moves).Suited := by
  induction moves generalizing relay with
  | nil => exact suited
  | cons move rest ih =>
    obtain ⟨here, others⟩ := List.forall_mem_cons.mp system
    exact ih (steady.frame here) ((frame_kept steady here).suited suited) others

/-- A link that is gone stays gone for the rest of a run, and nothing more is written to it. -/
theorem gone_forever {index : Nat} (gone : relay.Gone index) {moves : List Move}
    (system : ∀ move ∈ moves, move.Meets Event.AllOs) :
    (relay.afterAll moves).Gone index ∧
      ((relay.afterAll moves).world.net.link index).stream.outbox =
        (relay.world.net.link index).stream.outbox := by
  induction moves generalizing relay with
  | nil => exact ⟨gone, rfl⟩
  | cons move rest ih =>
    obtain ⟨here, others⟩ := List.forall_mem_cons.mp system
    obtain ⟨still, same⟩ := (frame_kept steady here).gone index gone
    obtain ⟨ever, written⟩ := ih (steady.frame here) still others
    exact ⟨ever, written.trans same⟩

theorem gone_trace {index : Nat} (gone : relay.Gone index) {moves : List Move}
    (system : ∀ move ∈ moves, move.Meets Event.AllOs) :
    ∀ next ∈ relay.trace moves, next.after.Gone index ∧
      (next.after.world.net.link index).stream.outbox = (relay.world.net.link index).stream.outbox := by
  induction moves generalizing relay with
  | nil => exact fun next member => absurd member List.not_mem_nil
  | cons move rest ih =>
    intro next member
    obtain ⟨here, others⟩ := List.forall_mem_cons.mp system
    obtain ⟨still, same⟩ := (frame_kept steady here).gone index gone
    rcases List.mem_cons.mp member with rfl | later
    · exact ⟨still, same⟩
    · obtain ⟨ever, written⟩ := ih (steady.frame here) still others next later
      exact ⟨ever, written.trans same⟩

omit steady

theorem afterAll_append (relay : Relay) (first rest : List Move) :
    relay.afterAll (first ++ rest) = (relay.afterAll first).afterAll rest := by
  induction first generalizing relay with
  | nil => rfl
  | cons move moves ih => exact ih _

theorem trace_append (relay : Relay) (first rest : List Move) :
    relay.trace (first ++ rest) = relay.trace first ++ (relay.afterAll first).trace rest := by
  induction first generalizing relay with
  | nil => rfl
  | cons move moves ih => exact congrArg (_ :: ·) (ih _)

/-- A place in the record of a run is a place among its moves. -/
theorem trace_split {relay : Relay} {moves : List Move} {earlier later : List Frame} {frame : Frame}
    (split : relay.trace moves = earlier ++ frame :: later) :
    ∃ before move rest, moves = before ++ move :: rest ∧ earlier = relay.trace before ∧
      frame = (relay.afterAll before).frame move ∧ later = frame.after.trace rest := by
  induction earlier generalizing relay moves with
  | nil =>
    cases moves with
    | nil => exact nomatch split
    | cons move rest =>
      obtain ⟨rfl, rfl⟩ := List.cons.inj split
      exact ⟨[], move, rest, rfl, rfl, rfl, rfl⟩
  | cons first early ih =>
    cases moves with
    | nil => exact nomatch split
    | cons move rest =>
      obtain ⟨rfl, more⟩ := List.cons.inj split
      obtain ⟨before, found, others, rfl, rfl, rfl, rfl⟩ := ih more
      exact ⟨move :: before, found, others, rfl, rfl, rfl, rfl⟩

theorem ofSettings_steady (settings : RelaySettings) {world : World}
    (grounded : (ofSettings settings world).Grounded) (os : world.AllOs)
    (lower : 0 ≤ settings.port) (upper : settings.port ≤ 65535) :
    (ofSettings settings world).Steady where
  sound :=
    { grounded
      os := os.net
      distinct := List.nodup_nil
      alive := fun _ member => absurd member List.not_mem_nil
      queue := List.nodup_nil
      fresh := fun _ waits => absurd waits List.not_mem_nil
      door := fun _ bound => nomatch bound }
  script := os.script
  lower := lower
  upper := upper

/-- Settings with a port that is found free and no limits. -/
def plainSettings : RelaySettings where
  host := .named "127.0.0.1"
  port := 0
  recvSize := 4
  backlog := some 128
  writeTimeout := none
  pollInterval := none

/-- A world in which nothing has happened yet has no fault in store, whatever its platform is. -/
theorem allOs_of_platform (platform : Platform) : World.AllOs { net := { platform } } where
  net := ⟨FaultQueue.allOs_nil, fun _ => .of_nil rfl rfl⟩
  script := fun _ found => nomatch found

theorem blank_allOs : World.AllOs {} := allOs_of_platform {}

/-- A platform of which nothing is said suits every relay. -/
theorem suited_of_blank {relay : Relay} (blank : relay.world.net.platform = {}) : relay.Suited := by
  refine ⟨⟨⟨?_, ?_⟩, ?_⟩, ?_, ?_⟩ <;> rw [blank]
  · exact Platform.osOnly_none
  · exact Platform.osOnly_none
  · rfl

/-- The settings of a relay that could be bound have a proper port, and its binding is a move. -/
theorem bound_frame {settings : RelaySettings} {world : World} {relay : Relay}
    (ends : world.net.platform.isEndless settings.writeTimeout = false) (os : world.AllOs)
    (bound : bind (ofSettings settings world) = .ok () relay) :
    (ofSettings settings world).Steady ∧ ((ofSettings settings world).frame .bind).after = relay := by
  obtain ⟨lower, upper⟩ := bind_inRange rfl bound
  refine ⟨ofSettings_steady settings ⟨bind_takes rfl bound, ends⟩ os lower upper, ?_⟩
  rw [((ofSettings settings world).frame_quiet .bind bind rfl).2, bound, Action.state_ok]

theorem bound_steady {settings : RelaySettings} {world : World} {relay : Relay}
    (ends : world.net.platform.isEndless settings.writeTimeout = false) (os : world.AllOs)
    (bound : bind (ofSettings settings world) = .ok () relay) : relay.Steady := by
  obtain ⟨start, after⟩ := bound_frame ends os bound
  have binds : Move.bind.Meets Event.AllOs := trivial
  exact after ▸ start.frame binds

end Relay
end RelayBench
