import RelayBench.Proofs.Device.Wait

/-! Runs around a device that was started: events of the network, single actions of its reader, calls
that want a chunk and single actions of a thread that closes it, in any order. -/
namespace RelayBench
namespace Device

/-- One turn of a run.  A call that had to wait for other threads is the turn in which it comes back. -/
inductive Turn where
  | event (event : Event)
  | read
  | receive (timeout : Option Number)
  | close

def Turn.Meets (kind : Event → Prop) : Turn → Prop
  | .event happens => kind happens
  | _ => True

/-- A device and where a thread that closes it stands. -/
structure Scene where
  device : Device
  closer : ClosingPhase := .marking

/-- One turn of a run, what it met, how it went and what it left. -/
structure Frame where
  turn : Turn
  before : Scene
  result : Except Fault (Option Bytes)
  after : Scene

/-- One action of the reader, from where it stands. -/
def readOnce (device : Device) : Device :=
  match device.reader with
  | some phase => { (advanceReader phase device).2 with reader := some (advanceReader phase device).1 }
  | none => device

namespace Scene

def onDevice {α : Type} (action : DeviceCall α) : EStateM Fault Scene α :=
  onPart Scene.device (fun device scene => { scene with device }) action

def perform : Turn → EStateM Fault Scene (Option Bytes)
  | .event event => do
    let _ ← onDevice (World.happen event)
    pure none
  | .read => do
    modify fun scene => { scene with device := scene.device.readOnce }
    pure none
  | .receive timeout => do
    let chunk ← onDevice (receive timeout)
    pure (some chunk)
  | .close => do
    modify fun scene =>
      { device := (advanceClosing scene.closer scene.device).2
        closer := (advanceClosing scene.closer scene.device).1 }
    pure none

def frame (scene : Scene) (turn : Turn) : Frame where
  turn := turn
  before := scene
  result := Action.result (perform turn scene)
  after := Action.state (perform turn scene)

def trace (scene : Scene) : List Turn → List Frame
  | [] => []
  | turn :: rest => scene.frame turn :: (scene.frame turn).after.trace rest

def afterAll (scene : Scene) : List Turn → Scene
  | [] => scene
  | turn :: rest => (scene.frame turn).after.afterAll rest

end Scene

namespace Frame

/-- The chunk that a call was given. -/
def taken (frame : Frame) : List Bytes :=
  match frame.result with
  | .ok (some chunk) => [chunk]
  | _ => []

/-- Whether a call was told that the stream has ended. -/
def isOver (frame : Frame) : Bool :=
  match frame.result with
  | .error fault => fault.kind == .harness .deviceClosed
  | _ => false

/-- What the client of a link sends in the frame, for as long as it lasts. -/
def sentBy (frame : Frame) (index : Nat) : Bytes :=
  match frame.turn with
  | .event event => frame.before.device.world.net.arrivals index [event]
  | .receive timeout => frame.before.device.arrivingFor timeout index
  | _ => []

end Frame

def returned (frames : List Frame) : List Bytes := frames.flatMap Frame.taken

def sentIn (frames : List Frame) (index : Nat) : Bytes := frames.flatMap (Frame.sentBy · index)

namespace Scene

variable (scene : Scene)

theorem frame_event (event : Event) :
    (scene.frame (.event event)).taken = [] ∧ (scene.frame (.event event)).isOver = false ∧
      scene.device.Hears [event] (scene.frame (.event event)).after.device ∧
      (scene.frame (.event event)).after.device.world.script = scene.device.world.script := by
  obtain ⟨stop, state⟩ := scene.device.world.happen_state event
  simp only [frame, perform, onDevice, Action.bind_apply, Action.onPart_apply, Action.liftBenchDevice_apply,
    Frame.taken, Frame.isOver]
  cases ran : World.happen event scene.device.world with
  | ok reply world =>
    rw [ran, Action.state_ok] at state
    subst state
    exact ⟨rfl, rfl, ⟨rfl, rfl⟩, rfl⟩
  | error fault world =>
    rw [ran, Action.state_error] at state
    subst state
    rw [World.happen_failed ran]
    exact ⟨rfl, rfl, ⟨rfl, rfl⟩, rfl⟩

theorem frame_receive (timeout : Option Number) :
    (scene.frame (.receive timeout)).result = (Action.result (receive timeout scene.device)).map some ∧
      (scene.frame (.receive timeout)).after.device = Action.state (receive timeout scene.device) := by
  simp only [frame, perform, onDevice, Action.bind_apply, Action.onPart_apply]
  cases receive timeout scene.device <;> exact ⟨rfl, rfl⟩

end Scene

theorem readOnce_eq {device : Device} {phase : ReaderPhase} (reader : device.reader = some phase) :
    device.readOnce =
      { (advanceReader phase device).2 with reader := some (advanceReader phase device).1 } := by
  rw [readOnce, reader]

/-- An invariant that also knows what the calls were given, and that they keep. -/
structure Serving (kind : Event → Prop)
    (good : List Bytes → (Nat → Bytes) → ReaderPhase → Device → Prop) : Prop where
  keeping : ∀ taken, Keeping kind (good taken)
  takes : ∀ {taken sent phase device chunk rest}, good taken sent phase device →
    device.queue = some chunk :: rest → good (taken ++ [chunk]) sent phase { device with queue := rest }
  finished : ∀ {taken sent phase device rest}, good taken sent phase device →
    device.queue = none :: rest → good taken sent phase { device with queue := rest ++ [none] }

namespace Serving

variable {kind : Event → Prop} {good : List Bytes → (Nat → Bytes) → ReaderPhase → Device → Prop}
  (serving : Serving kind good) {taken : List Bytes} {sent : Nat → Bytes} {scene : Scene}
include serving

theorem frame {turn : Turn} (stands : Standing kind (good taken) sent scene.device) (meets : turn.Meets kind)
    (closes : turn = .close → ∀ phase, scene.device.reader = some phase → good taken sent phase scene.device →
      good taken sent phase (advanceClosing scene.closer scene.device).2) :
    Standing kind (good (taken ++ (scene.frame turn).taken))
      (fun index => sent index ++ (scene.frame turn).sentBy index) (scene.frame turn).after.device := by
  obtain ⟨scripted, phase, reader, fits⟩ := stands
  cases turn with
  | event event =>
    obtain ⟨nothing, _, hears, script⟩ := scene.frame_event event
    rw [nothing, List.append_nil]
    refine ⟨fun items found => scripted items (script ▸ found), phase, hears.reader.trans reader, ?_⟩
    exact (serving.keeping taken).hears fits (by simpa [Turn.Meets] using meets) hears
  | read =>
    obtain ⟨scripted, fits⟩ := (serving.keeping taken).advance scripted fits
    have after : (scene.frame .read).after.device = _ := readOnce_eq reader
    rw [after]
    show Standing kind (good (taken ++ [])) (fun index => sent index ++ []) _
    simp only [List.append_nil]
    exact ⟨scripted, _, rfl, (serving.keeping taken).aside fits⟩
  | receive timeout =>
    obtain ⟨result, after⟩ := scene.frame_receive timeout
    obtain ⟨scripted, phase, reader, fits⟩ :=
      (serving.keeping taken).waited timeout ⟨scripted, phase, reader, fits⟩
    have course := receive_received timeout scene.device
    rw [after, Frame.taken, result]
    generalize receive timeout scene.device = ran at course
    cases course with
    | chunk queue => exact ⟨scripted, phase, reader, serving.takes fits queue⟩
    | finished queue =>
      show Standing kind (good (taken ++ [])) _ _
      rw [List.append_nil]
      exact ⟨scripted, phase, reader, serving.finished fits queue⟩
    | failed other =>
      show Standing kind (good (taken ++ [])) _ _
      rw [List.append_nil]
      exact ⟨scripted, phase, reader, fits⟩
  | close =>
    obtain ⟨same, script, _⟩ := (advanceClosing_advance scene.device reader scene.closer).aside
    have after : (scene.frame .close).after.device = (advanceClosing scene.closer scene.device).2 := rfl
    rw [after]
    show Standing kind (good (taken ++ [])) (fun index => sent index ++ []) _
    simp only [List.append_nil]
    exact ⟨fun items found => scripted items (script ▸ found), phase, same.trans reader,
      closes rfl phase reader fits⟩

/-- An invariant holds on through every run in which each closing action keeps it. -/
theorem run {turns : List Turn} (stands : Standing kind (good taken) sent scene.device)
    (meets : ∀ turn ∈ turns, turn.Meets kind)
    (closes : ∀ earlier later, turns = earlier ++ .close :: later → ∀ taken sent phase,
      (scene.afterAll earlier).device.reader = some phase → good taken sent phase (scene.afterAll earlier).device →
      good taken sent phase
        (advanceClosing (scene.afterAll earlier).closer (scene.afterAll earlier).device).2) :
    Standing kind (good (taken ++ returned (scene.trace turns)))
      (fun index => sent index ++ sentIn (scene.trace turns) index) (scene.afterAll turns).device := by
  induction turns generalizing taken sent scene with
  | nil => simpa [returned, sentIn, Scene.trace, Scene.afterAll] using stands
  | cons turn rest ih =>
    obtain ⟨here, others⟩ := List.forall_mem_cons.mp meets
    have next := serving.frame stands here fun closing => by
      subst closing
      exact closes [] rest rfl taken sent
    -- The closing actions behind a first turn are those of the rest.
    have final := ih next others fun earlier later split =>
      closes (turn :: earlier) later (by rw [split]; rfl)
    simpa [returned, sentIn, Scene.trace, Scene.afterAll, List.append_assoc] using final

end Serving
namespace Tallies

variable {start : Nat} {sent : Nat → Bytes} {taken : List Bytes} {phase : ReaderPhase} {device : Device}
  (tallies : Tallies start sent taken phase device)
include tallies

theorem aside {reader : Option ReaderPhase} : Tallies start sent taken phase { device with reader } :=
  ⟨tallies.order, tallies.sizes, tallies.search, tallies.unlinked, tallies.distinct, tallies.older, tallies.born,
    tallies.ledger, tallies.named, tallies.addressed⟩

theorem queue {queue : List (Option Bytes)} {taken : List Bytes}
    (order : ∃ queued, queue = queued.map some ++ phase.mark ∧ taken ++ queued = device.received) :
    Tallies start sent taken phase { device with queue } :=
  ⟨order, tallies.sizes, tallies.search, tallies.unlinked, tallies.distinct, tallies.older, tallies.born,
    tallies.ledger, tallies.named, tallies.addressed⟩

theorem takes {chunk : Bytes} {rest : List (Option Bytes)} (next : device.queue = some chunk :: rest) :
    Tallies start sent (taken ++ [chunk]) phase { device with queue := rest } := by
  obtain ⟨queued, queue, all⟩ := tallies.order
  rw [next] at queue
  cases queued with
  | nil =>
    have marked : phase.mark = some chunk :: rest := queue.symm
    unfold ReaderPhase.mark at marked
    split at marked <;> simp at marked
  | cons first queued =>
    simp only [List.map_cons, List.cons_append, List.cons.injEq, Option.some.injEq] at queue
    obtain ⟨rfl, rfl⟩ := queue
    exact tallies.queue ⟨queued, rfl, by rw [← all]; simp⟩

/-- The mark comes to the head of the queue only when the reader has ended and all was taken. -/
theorem finished {rest : List (Option Bytes)} (next : device.queue = none :: rest) :
    rest = [] ∧ phase.isEnded = true ∧ taken = device.received := by
  obtain ⟨queued, queue, all⟩ := tallies.order
  rw [next] at queue
  cases queued with
  | nil =>
    have marked : phase.mark = none :: rest := queue.symm
    unfold ReaderPhase.mark at marked
    split at marked
    next ended => exact ⟨by simpa using marked.symm, ended, by simpa using all⟩
    · simp at marked
  | cons first queued => simp at queue

end Tallies

/-- The tally is kept by events, by the reader and by the calls. -/
theorem tallies_serving (start : Nat) :
    Serving Event.Addressed fun taken sent => Tallies start sent taken where
  keeping := fun taken =>
    { hears := fun tallies proper hears => tallies.hears _ proper hears
      reads := fun tallies => tallies.advance (advanceReader_advance _ _)
      aside := fun tallies => tallies.aside }
  takes := fun tallies next => tallies.takes next
  finished := by
    intro taken sent phase device rest tallies next
    obtain ⟨rfl, _, _⟩ := tallies.finished next
    exact tallies.queue (next ▸ tallies.order)

theorem tallies_run {start : Nat} {taken : List Bytes} {sent : Nat → Bytes} {scene : Scene} {turns : List Turn}
    (stands : Standing Event.Addressed (Tallies start · taken) sent scene.device)
    (proper : ∀ turn ∈ turns, turn.Meets Event.Addressed) :
    Standing Event.Addressed (Tallies start · (taken ++ returned (scene.trace turns)))
      (fun index => sent index ++ sentIn (scene.trace turns) index) (scene.afterAll turns).device :=
  (tallies_serving start).run stands proper fun earlier _ _ _ _ _ reader tallies =>
    tallies.advance (advanceClosing_advance _ reader (scene.afterAll earlier).closer)

theorem sized_serving (size : Int) : Serving (fun _ => True) fun _ _ _ device => device.chunkSize = size where
  keeping := fun _ =>
    { hears := fun same _ hears => hears.chunkSize.trans same
      reads := fun same => (advanceReader_advance _ _).aside.2.2.trans same
      aside := id }
  takes := fun same _ => same
  finished := fun same _ => same

theorem Turn.meets_any (turn : Turn) : turn.Meets fun _ => True := by cases turn <;> trivial

theorem chunkSize_run {scene : Scene} {phase : ReaderPhase} (reader : scene.device.reader = some phase)
    (turns : List Turn) : (scene.afterAll turns).device.chunkSize = scene.device.chunkSize := by
  have stands : Standing (fun _ => True) (fun _ _ device => device.chunkSize = scene.device.chunkSize) (fun _ => [])
      scene.device := ⟨fun _ _ _ _ _ _ => trivial, phase, reader, rfl⟩
  have final := @Serving.run _ _ (sized_serving scene.device.chunkSize) [] _ scene turns stands
    (fun turn _ => turn.meets_any) fun earlier _ _ _ _ _ reader same =>
      (advanceClosing_advance _ reader (scene.afterAll earlier).closer).aside.2.2.trans same
  obtain ⟨_, _, _, same⟩ := final
  exact same

end Device
end RelayBench
