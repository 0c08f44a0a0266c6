import RelayBench.Proofs.Device.Wait

/-! What a device does whatever its log holds already and wherever its reader was last noted to stand.  An
overlay changes these two and nothing else, and every action of the reader gets through it; a call that does
not look at the reader's place gets through an overlay of the log. -/
namespace RelayBench
namespace Device

/-- The device with entries in front of its log, and its reader noted elsewhere. -/
def overlaid (place : Option ReaderPhase → Option ReaderPhase) (prior : List Entry) (device : Device) : Device :=
  { device with reader := place device.reader, world := { device.world with log := prior ++ device.world.log } }

/-- An action's result with the device that it leaves overlaid. -/
def overlay {α : Type} (place : Option ReaderPhase → Option ReaderPhase) (prior : List Entry) :
    EStateM.Result Fault Device α → EStateM.Result Fault Device α
  | .ok a after => .ok a (after.overlaid place prior)
  | .error fault after => .error fault (after.overlaid place prior)

section

variable {α : Type} (place : Option ReaderPhase → Option ReaderPhase) (prior : List Entry) (device : Device)

@[simp] theorem overlaid_net : (device.overlaid place prior).world.net = device.world.net := rfl

@[simp] theorem overlaid_door : (device.overlaid place prior).door = device.door := rfl

@[simp] theorem overlaid_link : (device.overlaid place prior).link = device.link := rfl

@[simp] theorem overlaid_peer : (device.overlaid place prior).peer = device.peer := rfl

@[simp] theorem overlaid_closing : (device.overlaid place prior).closing = device.closing := rfl

@[simp] theorem overlaid_chunkSize : (device.overlaid place prior).chunkSize = device.chunkSize := rfl

theorem liftNet_overlaid (call : NetCall α) :
    (liftM call : DeviceCall α) (device.overlaid place prior) =
      overlay place prior ((liftM call : DeviceCall α) device) := by
  simp only [Action.liftNetDevice_apply, Action.onPart_apply, overlaid_net]
  cases call device.world.net <;> rfl

theorem note_overlaid (entry : Entry) :
    (device.overlaid place prior).note entry = (device.note entry).overlaid place prior := by
  have kept : (device.overlaid place prior).world.keeps entry = device.world.keeps entry := rfl
  unfold note World.write
  rw [kept]
  split
  · simp only [overlaid, List.append_assoc]
  · rfl

theorem noteUnlessClosing_overlaid (entry : Entry) :
    (device.overlaid place prior).noteUnlessClosing entry =
      (device.noteUnlessClosing entry).overlaid place prior := by
  simp only [noteUnlessClosing, overlaid_closing, note_overlaid]
  split <;> rfl

/-- A phase and a device, overlaid. -/
def beneath (next : ReaderPhase × Device) : ReaderPhase × Device := (next.1, next.2.overlaid place prior)

theorem answer_overlaid : answer (device.overlaid place prior) = beneath place prior (answer device) := by
  cases known : device.door with
  | none => simp only [answer, overlaid_door, known, beneath]
  | some door =>
    simp only [answer, overlaid_door, known, liftNet_overlaid]
    cases (liftM (Net.accept .background door) : DeviceCall Nat) device with
    | ok link after => rfl
    | error fault after =>
      simp only [overlay, noteUnlessClosing_overlaid]
      split
      · rfl
      · split <;> rfl

theorem leave_overlaid (found : Bool) (fault : Option Fault) :
    leave (device.overlaid place prior) found fault = beneath place prior (leave device found fault) := by
  cases known : device.door with
  | none => simp only [leave_eq, overlaid_door, known, beneath]
  | some door =>
    simp only [leave_eq, overlaid_door, known, liftNet_overlaid]
    cases (liftM (Net.closeDoor door) : DeviceCall Unit) device <;> rfl

theorem discard_overlaid : discard (device.overlaid place prior) = beneath place prior (discard device) := by
  cases known : device.link with
  | none => simp only [discard, overlaid_link, known, beneath]
  | some link =>
    simp only [discard, overlaid_link, known, liftNet_overlaid]
    cases (liftM (Net.onStream link Stream.close) : DeviceCall Unit) device <;> rfl

theorem announce_overlaid : announce (device.overlaid place prior) = beneath place prior (announce device) := by
  cases named : device.peer.text with
  | ok peer =>
    have told := note_overlaid place prior { device with announced := true }
      (.device Logger.device "Peer connected" peer)
    simp only [announce, overlaid_peer, named, beneath]
    exact congrArg (ReaderPhase.reading, ·) told
  | error fault =>
    simp only [announce, overlaid_peer, named, beneath]
    rfl

theorem readChunk_overlaid : readChunk (device.overlaid place prior) = beneath place prior (readChunk device) := by
  cases known : device.link with
  | none => simp only [readChunk, overlaid_link, known, beneath]
  | some link =>
    simp only [readChunk, overlaid_link, known, overlaid_chunkSize, liftNet_overlaid]
    rcases (liftM (Net.readLink link device.chunkSize) : DeviceCall Reading) device with
      ⟨(_ | ⟨first, rest⟩) | fault | _, after⟩ | ⟨fault, after⟩
    · simp only [overlay, noteUnlessClosing_overlaid, beneath]
    · simp only [overlay, note_overlaid, beneath]
    · simp only [overlay, noteUnlessClosing_overlaid]
      split <;> rfl
    · rfl
    · rfl

/-- The reader does the same beneath an overlay. -/
theorem advanceReader_overlaid (phase : ReaderPhase) :
    advanceReader phase (device.overlaid place prior) = beneath place prior (advanceReader phase device) := by
  cases phase with
  | testing => rfl
  | accepting =>
    cases known : device.door with
    | none => simp only [advanceReader, overlaid_door, known, answer_overlaid]
    | some door =>
      simp only [advanceReader, overlaid_door, known, overlaid_net, answer_overlaid]
      split <;> rfl
  | awaiting => exact answer_overlaid place prior device
  | storing link => rfl
  | leaving found fault => exact leave_overlaid place prior device found fault
  | rechecking => rfl
  | discarding => exact discard_overlaid place prior device
  | announcing => exact announce_overlaid place prior device
  | reading => exact readChunk_overlaid place prior device
  | stalled => exact readChunk_overlaid place prior device
  | handing chunk => rfl
  | ending fault => rfl
  | ended fault => rfl

theorem advanceReaderToPark_overlaid (limit : Nat) (phase : ReaderPhase) :
    advanceReaderToPark limit phase (device.overlaid place prior) =
      beneath place prior (advanceReaderToPark limit phase device) := by
  induction limit generalizing phase device with
  | zero => rfl
  | succ limit ih =>
    rw [advanceReaderToPark, advanceReaderToPark, advanceReader_overlaid]
    split
    · rfl
    · exact ih _ _

/-- A run of the reader notes where it parks, so that an overlay of its place does not last. -/
theorem runReader_overlaid (phase : ReaderPhase) :
    runReader phase (device.overlaid place prior) = (runReader phase device).overlaid id prior := by
  have work : (device.overlaid place prior).world.workload = device.world.workload := rfl
  simp only [runReader, work, advanceReader_overlaid, beneath, advanceReaderToPark_overlaid]
  rfl

end

end Device
end RelayBench
