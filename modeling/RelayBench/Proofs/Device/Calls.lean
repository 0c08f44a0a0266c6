import RelayBench.Proofs.Device.Overlay
import RelayBench.Proofs.Device.Run

/-! The calls that start, resume and close a device, taken apart: starting is opening the door, and all
that follows is single actions of the reader and of the closing thread. -/
namespace RelayBench
namespace Device

/-- Opens the door of a device and starts its reader, which has all its actions yet to do. -/
def launch : DeviceCall Unit := do
  let device ← get
  if device.reader.isSome then throw (.system .runtime [.text "Mock device already started"])
  let door ← Net.openDoor device.host device.port (some 1)
  let opened := ((← get).world.net.door door)
  modify fun device => { device with door := some door, address := (opened.host, opened.port) }
  modify fun device => device.note (.device Logger.device "Listening" device.addressText)
  modify fun device => { device with reader := some .testing }

/-- The device when its door is open. -/
def behind (device : Device) (door : Nat) (net : Net) : Device :=
  { device.inNet net with door := some door, address := ((net.door door).host, (net.door door).port) }

theorem launch_split {device after : Device} (launched : launch device = .ok () after) :
    device.reader = none ∧ ∃ door net entry,
      Net.openDoor device.host device.port (some 1) device.world.net = .ok door net ∧
        entry.logger = Logger.device ∧
        after = { (device.behind door net).note entry with reader := some .testing } := by
  simp only [launch, Action.bind_apply, Action.get_apply] at launched
  cases unstarted : device.reader with
  | some phase => simp [unstarted] at launched
  | none =>
    cases opened : Net.openDoor device.host device.port (some 1) device.world.net with
    | error fault net => simp [unstarted, opened] at launched
    | ok door net =>
      simp only [unstarted, Option.isSome_none, Bool.false_eq_true, if_false, Action.bind_apply, Action.get_apply,
        Action.liftNetDevice_apply, Action.onPart_apply, opened, Action.modify_apply,
        EStateM.Result.ok.injEq, true_and] at launched
      subst launched
      exact ⟨rfl, door, net, _, rfl, rfl, rfl⟩

section

variable (device : Device) (reader : Option ReaderPhase) (phase : ReaderPhase)

/-- The reader does the same wherever it was last noted to stand. -/
theorem advanceReader_aside : advanceReader phase { device with reader } =
    ((advanceReader phase device).1, { (advanceReader phase device).2 with reader }) :=
  advanceReader_overlaid (fun _ => reader) [] device phase

theorem runReader_aside : runReader phase { device with reader } = runReader phase device :=
  runReader_overlaid (fun _ => reader) [] device phase

/-- To connect is to launch the device and to let its reader go on until it parks. -/
theorem connect_eq : connect device = (launch >>= fun _ => modify resume) device := by
  have resumed (device : Device) : resume { device with reader := some .testing } = runReader .testing device :=
    runReader_aside device _ .testing
  simp only [connect, launch, Action.bind_apply, Action.get_apply]
  cases device.reader with
  | some phase => rfl
  | none =>
    cases opened : Net.openDoor device.host device.port (some 1) device.world.net with
    | error fault net => simp [opened]
    | ok door net => simp [opened, resumed]

end

/-- A device that was closed by a call, and where the call has left off. -/
def closeScene (device : Device) : Scene :=
  let asked := advanceClosingBy 5 .marking device
  match asked.1 with
  | .joining =>
    let joined := advanceClosing .joining (awaitReader (asked.2.world.workload + 2) asked.2)
    { device := joined.2, closer := joined.1 }
  | closer => { device := asked.2, closer }

theorem close_apply (device : Device) : close device = match device.closeScene.closer with
    | .ended (some fault) => .error fault device.closeScene.device
    | _ => .ok () device.closeScene.device := by
  unfold close closeScene
  generalize advanceClosingBy 5 .marking device = asked
  obtain ⟨closer, after⟩ := asked
  cases closer <;> rfl

namespace Scene

variable (scene : Scene)

theorem afterAll_append (first rest : List Turn) :
    scene.afterAll (first ++ rest) = (scene.afterAll first).afterAll rest := by
  induction first generalizing scene with
  | nil => rfl
  | cons turn first ih => exact ih _

theorem parks_reads (limit : Nat) (phase : ReaderPhase) : ∃ count,
    ({ scene with device := { scene.device with reader := some phase } } : Scene).afterAll
        (List.replicate count .read) =
      { scene with device := { (advanceReaderToPark limit phase scene.device).2 with
        reader := some (advanceReaderToPark limit phase scene.device).1 } } := by
  induction limit generalizing phase scene with
  | zero => exact ⟨0, rfl⟩
  | succ limit ih =>
    rw [advanceReaderToPark]
    split
    · exact ⟨0, rfl⟩
    · obtain ⟨count, parks⟩ := ih { scene with device := (advanceReader phase scene.device).2 }
        (advanceReader phase scene.device).1
      refine ⟨count + 1, ?_⟩
      rw [← parks, List.replicate_succ]
      -- A turn notes where the reader stands after each action, the call only where it parks.
      show Scene.afterAll { scene with device := readOnce { scene.device with reader := some phase } } _ = _
      rw [readOnce_eq rfl, advanceReader_aside]

theorem resume_reads : ∃ count,
    scene.afterAll (List.replicate count .read) = { scene with device := scene.device.resume } := by
  cases reader : scene.device.reader with
  | none => exact ⟨0, by simp [resume, reader, Scene.afterAll]⟩
  | some phase =>
    obtain ⟨count, parks⟩ := parks_reads { scene with device := (advanceReader phase scene.device).2 }
      (4 * (scene.device.world.workload + 4)) (advanceReader phase scene.device).1
    have runs : scene.device.resume = runReader phase scene.device := by rw [resume, reader]
    refine ⟨count + 1, ?_⟩
    rw [runs, runReader, ← parks, List.replicate_succ]
    show Scene.afterAll { scene with device := readOnce scene.device } _ = _
    rw [readOnce_eq reader]

/-- A device that connects is launched, and its reader does a number of actions. -/
theorem connect_reads {device after : Device} (connected : connect device = .ok () after) :
    ∃ launched count, launch device = .ok () launched ∧
      (Scene.mk launched .marking).afterAll (List.replicate count .read) = { device := after } := by
  rw [connect_eq] at connected
  obtain ⟨_, launched, ran, resumed⟩ := Action.bind_success connected
  cases resumed
  obtain ⟨count, reads⟩ := resume_reads { device := launched }
  exact ⟨launched, count, ran, reads⟩

theorem awaitReader_reads (limit : Nat) : ∃ count,
    scene.afterAll (List.replicate count .read) = { scene with device := awaitReader limit scene.device } := by
  induction limit generalizing scene with
  | zero => exact ⟨0, rfl⟩
  | succ limit ih =>
    rw [awaitReader]
    split
    · exact ⟨0, rfl⟩
    · obtain ⟨first, resumed⟩ := resume_reads scene
      obtain ⟨rest, awaited⟩ := ih { scene with device := scene.device.resume }
      exact ⟨first + rest, by rw [← List.replicate_append_replicate, afterAll_append, resumed, awaited]⟩

theorem advanceClosingBy_closes (limit : Nat) : scene.afterAll (List.replicate limit .close) =
    { device := (advanceClosingBy limit scene.closer scene.device).2
      closer := (advanceClosingBy limit scene.closer scene.device).1 } := by
  induction limit generalizing scene with
  | zero => rfl
  | succ limit ih => exact ih _

/-- To close a device is a run of closing actions and of actions of its reader. -/
theorem close_run (device : Device) : ∃ turns : List Turn, (∀ turn ∈ turns, turn = .close ∨ turn = .read) ∧
    (Scene.mk device .marking).afterAll turns = device.closeScene := by
  have asked : (Scene.mk device .marking).afterAll (List.replicate 5 .close) = _ :=
    advanceClosingBy_closes { device } 5
  have five (turn : Turn) (member : turn ∈ List.replicate 5 .close) : turn = .close := (List.mem_replicate.mp member).2
  obtain ⟨count, awaited⟩ := awaitReader_reads
    ⟨(advanceClosingBy 5 .marking device).2, .joining⟩ ((advanceClosingBy 5 .marking device).2.world.workload + 2)
  unfold closeScene
  generalize advanceClosingBy 5 .marking device = ran at asked awaited
  obtain ⟨closer, after⟩ := ran
  by_cases joins : closer = .joining
  · subst joins
    refine ⟨List.replicate 5 .close ++ (List.replicate count .read ++ [.close]), fun turn member => ?_, ?_⟩
    · simp only [List.mem_append, List.mem_replicate, List.mem_singleton] at member
      tauto
    · rw [afterAll_append, asked, afterAll_append, awaited]
      rfl
  · refine ⟨List.replicate 5 .close, fun turn member => .inl (five turn member), ?_⟩
    rw [asked]
    cases closer with
    | joining => exact absurd rfl joins
    | _ => rfl

end Scene

end Device
end RelayBench
