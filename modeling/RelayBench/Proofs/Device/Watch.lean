import RelayBench.Device.Foreground
import RelayBench.Proofs.Device.Closing

/-! A device that is run on its own.  The program waits for its peer, takes and logs chunks, says why it
leaves and closes the device, one action at a time, while the reader goes on. -/
namespace RelayBench

namespace World

variable (world : World)

/-- What the program itself has logged, besides the entries of relays and devices. -/
def commandLog : List Entry := world.log.filter fun entry => entry.logger == Logger.command

@[simp] theorem write_threshold (entry : Entry) : (world.write entry).threshold = world.threshold := by
  rw [write_eq]

theorem write_commandLog {entry : Entry} (command : entry.logger = Logger.command) :
    (world.write entry).commandLog = world.commandLog ++ [entry].filter world.keeps := by
  unfold write
  split
  next kept => simp [commandLog, command, kept]
  next dropped => simp [dropped]

theorem write_otherLog {entry : Entry} (other : entry.logger ≠ Logger.command) :
    (world.write entry).commandLog = world.commandLog := by
  unfold write
  split
  · simp [commandLog, other]
  · rfl

theorem keeps_congr {first second : World} (threshold : first.threshold = second.threshold) :
    first.keeps = second.keeps := by
  funext entry
  rw [keeps, keeps, threshold]

end World

/-- How many actions a closing thread has left at most. -/
def ClosingPhase.effort : ClosingPhase → Nat
  | .marking => 6
  | .signalling => 5
  | .looking => 4
  | .shutting _ => 3
  | .closing _ => 2
  | .joining => 1
  | .ended _ => 0

/-- Whether the reader is on its way to announce a peer. -/
def ReaderPhase.approaches : ReaderPhase → Bool
  | .testing | .accepting | .awaiting | .storing _ | .leaving true none | .rechecking | .announcing => true
  | _ => false

namespace Device

/-- Where the program stands that runs a device on its own. -/
inductive Post where
  /-- Waiting for the peer. -/
  | awaiting
  /-- Waiting for a chunk. -/
  | taking
  | logging (chunk : Bytes)
  /-- About to say why it leaves. -/
  | parting (fault : Fault)
  | closing (fault : Fault)
  /-- Done, because of one fault, and with another one if it could not close the device. -/
  | done (fault : Fault) (raised : Option Fault)

/-- A device and where the program stands that runs it. -/
structure Watch where
  scene : Scene
  post : Post := .awaiting

/-- One move: the next item of the script happens, the person at the keyboard interrupts, or the reader or
the program does an action. -/
inductive Move where
  | item
  | interrupt
  | read
  | tend
  deriving DecidableEq

/-- Whether the reader is about to give up: its accept is to fail, or the door is to fail to close behind
the peer. -/
def Fails (device : Device) (phase : ReaderPhase) : Prop :=
  ∃ door fault net, device.door = some door ∧
    ((phase = .accepting ∨ phase = .awaiting) ∧ fault.kind.under (.system .timedOut) = false ∧
        Net.accept .background door device.world.net = .error fault net ∨
      phase = .leaving true none ∧ Net.closeDoor door device.world.net = .error fault net)

/-- Whether a closing thread is about to fail at the link of the device. -/
def FailsToClose (device : Device) (closer : ClosingPhase) : Prop :=
  ∃ link fault,
    closer = .shutting link ∧ fault.isOs = false ∧
        (device.world.net.link link).stream.shutdown.1 = .error fault ∨
      closer = .closing link ∧ (device.world.net.link link).stream.close.1 = .error fault

namespace Watch

/-- Interrupts are for a program that waits. -/
def interrupted (watch : Watch) (fault : Fault) : Watch :=
  match watch.post with
  | .awaiting | .taking => { watch with post := .parting fault }
  | _ => watch

/-- What the program is left with when the closing of the device has ended. -/
def outcome (fault : Fault) : Option Fault → Option Fault
  | some raised => some raised
  | none => if (farewell fault).isSome then none else some fault

/-- One action of the program.  It stays where it is while there is nothing to go on with. -/
def tend (watch : Watch) : Watch :=
  let device := watch.scene.device
  match watch.post with
  | .awaiting => if device.announced then { watch with post := .taking } else watch
  | .taking =>
    if device.queue.isEmpty then watch
    else match receive none device with
      | .ok chunk device => { scene := { watch.scene with device }, post := .logging chunk }
      | .error fault device => { scene := { watch.scene with device }, post := .parting fault }
  | .logging chunk =>
    { scene := { watch.scene with device := device.note (chunkEntry chunk) }, post := .taking }
  | .parting fault =>
    match farewell fault with
    | some message =>
      { scene := { watch.scene with device := device.note (.plain .info Logger.command message) }
        post := .closing fault }
    | none => { watch with post := .closing fault }
  | .closing fault =>
    let scene := (watch.scene.frame .close).after
    match scene.closer with
    | .ended raised => { scene, post := .done fault (outcome fault raised) }
    | _ => { scene, post := .closing fault }
  | .done _ _ => watch

def after (watch : Watch) : Move → Watch
  | .item =>
    match (liftM World.advanceScript : DeviceCall Bool) watch.scene.device with
    | .ok _ device => { watch with scene := { watch.scene with device } }
    | .error fault device => interrupted { watch with scene := { watch.scene with device } } fault
  | .interrupt => watch.interrupted .keyboardInterrupt
  | .read => { watch with scene := (watch.scene.frame .read).after }
  | .tend => watch.tend

def afterAll (watch : Watch) : List Move → Watch
  | [] => watch
  | move :: rest => (watch.after move).afterAll rest

/-- Whether some move of a run is of a kind. -/
def Meets (kind : Watch → Move → Prop) (watch : Watch) : List Move → Prop
  | [] => False
  | move :: rest => kind watch move ∨ (watch.after move).Meets kind rest

/-- A move that interrupts the program. -/
def Cuts (watch : Watch) (move : Move) : Prop :=
  move = .interrupt ∨ move = .item ∧ ∃ fault world,
    World.advanceScript watch.scene.device.world = .error fault world

/-- A move in which the reader gives up before it has announced its peer. -/
def Misses (watch : Watch) (move : Move) : Prop :=
  move = .read ∧ ∃ phase, watch.scene.device.reader = some phase ∧ watch.scene.device.Fails phase

/-- A move in which the program fails to close the link of the device. -/
def Botches (watch : Watch) (move : Move) : Prop :=
  move = .tend ∧ watch.scene.device.FailsToClose watch.scene.closer

/-- How many actions the program has left at most, if nothing more is queued. -/
def effort (watch : Watch) : Nat :=
  match watch.post with
  | .awaiting | .logging _ => 2 * watch.scene.device.queue.length + 9
  | .taking => 2 * watch.scene.device.queue.length + 8
  | .parting _ => 8
  | .closing _ => watch.scene.closer.effort + 1
  | .done _ _ => 0

/-- Whether the program is not done and has nothing to go on with. -/
def Waits (watch : Watch) : Prop :=
  (∀ fault raised, watch.post ≠ .done fault raised) ∧ watch.tend = watch

end Watch

/-- What an action does that says nothing in the name of the program. -/
structure Hushed (before after : Device) : Prop where
  log : after.world.commandLog = before.world.commandLog
  threshold : after.world.threshold = before.world.threshold
  announced : before.announced = true → after.announced = true

namespace Hushed

variable (device : Device)

theorem refl : Hushed device device := ⟨rfl, rfl, id⟩

theorem inNet (net : Net) : Hushed device (device.inNet net) := ⟨rfl, rfl, id⟩

theorem note {before after : Device} (hushed : Hushed before after) {entry : Entry}
    (other : entry.logger ≠ Logger.command) : Hushed before (after.note entry) where
  log := (World.write_otherLog after.world other).trans hushed.log
  threshold := (World.write_threshold after.world entry).trans hushed.threshold
  announced := hushed.announced

theorem noteUnlessClosing {before after : Device} (hushed : Hushed before after) {entry : Entry}
    (other : entry.logger ≠ Logger.command) : Hushed before (after.noteUnlessClosing entry) := by
  unfold Device.noteUnlessClosing
  split
  · exact hushed
  · exact hushed.note other

end Hushed

section

variable (device : Device)

theorem device_other : Logger.device ≠ Logger.command := by decide

theorem liftNet_hushed {α : Type} (call : NetCall α) :
    Hushed device (Action.state ((liftM call : DeviceCall α) device)) := by
  rw [Action.liftNetDevice_apply, Action.onPart_apply, Action.onPart_apply]
  cases call device.world.net <;> exact .inNet device _

theorem answer_hushed : Hushed device (answer device).2 := by
  unfold answer
  split
  · exact .refl device
  next door known =>
    have quiet := liftNet_hushed device (Net.accept .background door)
    generalize (liftM (Net.accept .background door) : DeviceCall Nat) device = ran at quiet ⊢
    cases ran with
    | ok link after => exact quiet
    | error fault after =>
      dsimp only
      split
      · exact quiet
      · split
        · exact quiet.noteUnlessClosing device_other
        · exact quiet

theorem leave_hushed (found : Bool) (fault : Option Fault) : Hushed device (leave device found fault).2 := by
  rw [leave_eq]
  split
  · exact .refl device
  next door known =>
    have quiet := liftNet_hushed device (Net.closeDoor door)
    generalize (liftM (Net.closeDoor door) : DeviceCall Unit) device = ran at quiet ⊢
    cases ran with
    | ok done after => exact ⟨quiet.log, quiet.threshold, quiet.announced⟩
    | error raised after => exact quiet

theorem discard_hushed : Hushed device (discard device).2 := by
  obtain ⟨_, left⟩ | ⟨link, fault, _, left⟩ := device.discard_cases <;> rw [left]
  · exact .refl device
  · exact .inNet device _

theorem announce_hushed : Hushed device (announce device).2 := by
  have announced : Hushed device { device with announced := true } := ⟨rfl, rfl, fun _ => rfl⟩
  unfold announce
  dsimp only
  split
  · exact announced.note device_other
  · exact announced

theorem readChunk_hushed : Hushed device (readChunk device).2 := by
  unfold readChunk
  split
  · exact .refl device
  next link linked =>
    have quiet := liftNet_hushed device (Net.readLink link device.chunkSize)
    generalize (liftM (Net.readLink link device.chunkSize) : DeviceCall Reading) device = ran at quiet ⊢
    rcases ran with ⟨(_ | ⟨first, rest⟩) | fault | _, after⟩ | ⟨fault, after⟩
    · exact quiet.noteUnlessClosing device_other
    · exact quiet.note device_other
    · dsimp only
      split
      · exact quiet.noteUnlessClosing device_other
      · exact quiet
    · exact quiet
    · exact quiet

theorem advanceReader_hushed (phase : ReaderPhase) : Hushed device (advanceReader phase device).2 := by
  cases phase with
  | testing => exact .refl device
  | accepting =>
    rw [advanceReader]
    split
    · split
      · exact answer_hushed device
      · exact .refl device
    · exact answer_hushed device
  | awaiting => exact answer_hushed device
  | storing link => exact ⟨rfl, rfl, id⟩
  | leaving found fault => exact leave_hushed device found fault
  | rechecking => exact .refl device
  | discarding => exact discard_hushed device
  | announcing => exact announce_hushed device
  | reading => exact readChunk_hushed device
  | stalled => exact readChunk_hushed device
  | handing chunk => exact ⟨rfl, rfl, id⟩
  | ending fault => exact ⟨rfl, rfl, id⟩
  | ended fault => exact .refl device

theorem advanceClosing_hushed (closer : ClosingPhase) : Hushed device (advanceClosing closer device).2 := by
  have retreat := device.advanceClosing_retreat closer
  generalize advanceClosing closer device = ran at retreat ⊢
  cases retreat with
  | marked | signalled => exact ⟨rfl, rfl, id⟩
  | shut | refused | closes | fails => exact .inNet device _
  | unread =>
    apply Hushed.note _ device_other
    exact ⟨rfl, rfl, id⟩
  | joined => exact (Hushed.refl device).note device_other
  | closed | found | alone | waits | past => exact .refl device

/-- The door is left alone as long as the reader has not closed it. -/
theorem outside_advance {phase : ReaderPhase} (outside : (advanceReader phase device).1.isOutside = true) :
    phase.isOutside = true ∧ (advanceReader phase device).2.door = device.door := by
  have stride := advanceReader_stride device phase
  generalize advanceReader phase device = ran at stride outside ⊢
  obtain ⟨next, after⟩ := ran
  cases stride with
  | seeks free search outside returns door lasting =>
    refine ⟨?_, door⟩
    cases phase <;> first | rfl | simp [ReaderPhase.isSearching] at search
  | stores => exact ⟨rfl, rfl⟩
  | @leaves found fault _ _ shut course lasting =>
    rcases course with rfl | ⟨_, _, _, _, _, rfl⟩
    · cases fault <;> cases found <;> cases outside
    · cases outside
  | looks course =>
    rw [course] at outside
    split at outside <;> cases outside
  | discards shut lasting => cases outside
  | serves inside stays lasting =>
    cases next <;> simp [ReaderPhase.isInside, ReaderPhase.isOutside] at stays outside

theorem flags_advance (phase : ReaderPhase) : (advanceReader phase device).2.closing = device.closing ∧
    (advanceReader phase device).2.closed = device.closed := by
  have stride := advanceReader_stride device phase
  generalize advanceReader phase device = ran at stride ⊢
  obtain ⟨next, after⟩ := ran
  cases stride with
  | stores => exact ⟨rfl, rfl⟩
  | looks course => exact ⟨rfl, rfl⟩
  | seeks _ _ _ _ _ lasting => exact ⟨lasting.closing, lasting.closed⟩
  | leaves _ _ lasting => exact ⟨lasting.closing, lasting.closed⟩
  | discards _ lasting => exact ⟨lasting.closing, lasting.closed⟩
  | serves _ _ lasting => exact ⟨lasting.closing, lasting.closed⟩

end


section

variable {device : Device} {phase : ReaderPhase}

theorem answer_approaches {door : Nat} (known : device.door = some door)
    (accepting : phase = .accepting ∨ phase = .awaiting) :
    (answer device).1.approaches = true ∨ device.Fails phase := by
  unfold answer
  rw [known]
  dsimp only
  cases ran : Net.accept .background door device.world.net with
  | ok link net =>
    rw [liftNet_ok ran]
    exact .inl rfl
  | error fault net =>
    rw [liftNet_error ran]
    dsimp only
    split
    · exact .inl rfl
    next other =>
      exact .inr ⟨door, fault, net, known, .inl ⟨accepting, by simpa using other, ran⟩⟩

/-- A reader on its way to announce a peer goes on, unless it fails or is asked to end. -/
theorem approaches_advance (calm : device.closing = false)
    (known : phase.isOutside = true → ∃ door, device.door = some door) (approaches : phase.approaches = true) :
    (advanceReader phase device).1.approaches = true ∨ (advanceReader phase device).2.announced = true ∨
      device.Fails phase := by
  cases phase with
  | testing => simp [advanceReader, calm, ReaderPhase.approaches]
  | accepting =>
    obtain ⟨door, known⟩ := known rfl
    simp only [advanceReader, known]
    split
    · rcases answer_approaches known (.inl rfl) with on | fails
      · exact .inl on
      · exact .inr (.inr fails)
    · exact .inl rfl
  | awaiting =>
    obtain ⟨door, known⟩ := known rfl
    rcases answer_approaches known (.inr rfl) with on | fails
    · exact .inl on
    · exact .inr (.inr fails)
  | storing link => exact .inl rfl
  | leaving found fault =>
    obtain ⟨door, here⟩ := known rfl
    have came : found = true ∧ fault = none := by
      cases found <;> cases fault <;> simp [ReaderPhase.approaches] at approaches ⊢
    obtain ⟨rfl, rfl⟩ := came
    cases ran : Net.closeDoor door device.world.net with
    | ok done net =>
      refine .inl ?_
      simp only [advanceReader, leave_eq, here, liftNet_ok ran]
      rfl
    | error fault net => exact .inr (.inr ⟨door, fault, net, here, .inr ⟨rfl, ran⟩⟩)
  | rechecking => simp [advanceReader, calm, ReaderPhase.approaches]
  | announcing =>
    refine .inr (.inl ?_)
    simp only [advanceReader, announce]
    split <;> rfl
  | discarding => cases approaches
  | reading => cases approaches
  | stalled => cases approaches
  | handing chunk => cases approaches
  | ending fault => cases approaches
  | ended fault => cases approaches

theorem readOnce_ended (reader : device.reader = some phase) (ended : phase.isEnded = true) :
    device.readOnce = device := by
  rw [readOnce_eq reader]
  cases phase with
  | ended fault =>
    show { device with reader := some (.ended fault) } = device
    rw [← reader]
  | _ => cases ended

end

/-- The device when the next item of its script has happened. -/
def heard (device : Device) : Device := { device with world := Action.state (World.advanceScript device.world) }

theorem heard_hears (device : Device) : device.Hears device.world.next device.heard := by
  obtain ⟨stop, state⟩ := device.world.advanceScript_state
  refine ⟨rfl, ?_⟩
  show (Action.state (World.advanceScript device.world)).net = _
  rw [state]

theorem heard_hushed (device : Device) : Hushed device device.heard := by
  obtain ⟨stop, state⟩ := device.world.advanceScript_state
  refine ⟨?_, ?_, id⟩
  · show (Action.state (World.advanceScript device.world)).commandLog = _
    rw [state]
    rfl
  · show (Action.state (World.advanceScript device.world)).threshold = _
    rw [state]

theorem heard_scripted {kind : Event → Prop} {device : Device} (scripted : device.world.Scripted kind) :
    device.heard.world.Scripted kind := by
  obtain ⟨stop, state⟩ := device.world.advanceScript_state
  apply World.rest_scripted scripted
  show (Action.state (World.advanceScript device.world)).script = _
  rw [state]

end Device
end RelayBench
