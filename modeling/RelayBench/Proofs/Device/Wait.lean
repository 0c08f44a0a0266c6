import RelayBench.Proofs.Device.Tally
import RelayBench.Proofs.Script

/-! Waiting for a chunk and taking it.  While a call waits, the script goes on and the reader with it; an
invariant of events and of single actions of the reader holds on through every wait. -/
namespace RelayBench

theorem Number.not_isPositive {number : Number} (negative : number.isNegative = true) :
    number.isPositive = false := by
  cases number with
  | int n =>
    simp only [isNegative, decide_eq_true_eq] at negative
    simp only [isPositive, decide_eq_false_iff_not]
    omega
  | float x => cases x <;> simp_all [isNegative, isPositive, Binary64.isNegative, Binary64.isPositive]

namespace Device

/-- One round of a wait: the next item of the script happens, and the reader goes on until it parks. -/
def pass : DeviceCall Unit := do
  let _ ← World.advanceScript
  modify resume

/-- What the client of a link sends while a call waits. -/
def arriving (index : Nat) (isThere : Device → Bool) (timeout : Option Number) : Nat → Device → Bytes
  | 0, _ => []
  | items + 1, device =>
    if isThere device || !waits timeout then []
    else device.world.net.arrivals index device.world.next ++
      match pass device with
      | .ok _ after => arriving index isThere timeout items after
      | .error _ _ => []

theorem awaitItems_succ (isThere : Device → Bool) (timeout : Option Number) (items : Nat) (device : Device) :
    awaitItems isThere timeout (items + 1) device =
      if isThere device then .ok true device
      else if waits timeout then (pass >>= fun _ => awaitItems isThere timeout items) device
      else .ok false device := by
  simp only [awaitItems, Action.bind_apply, Action.get_apply]
  split
  · rfl
  · split
    · simp only [pass, Action.bind_apply]
      cases (liftM World.advanceScript : DeviceCall Bool) device <;> rfl
    · rfl

theorem awaitItems_found {isThere : Device → Bool} {timeout : Option Number} {items : Nat} {device after : Device}
    (waited : awaitItems isThere timeout items device = .ok true after) : isThere after = true := by
  induction items generalizing device with
  | zero =>
    simp only [awaitItems, Action.bind_apply, Action.get_apply] at waited
    split at waited
    next found =>
      cases waited
      exact found
    · split at waited <;> cases waited
  | succ items ih =>
    rw [awaitItems_succ] at waited
    split at waited
    next found =>
      cases waited
      exact found
    · split at waited
      · obtain ⟨_, middle, _, rest⟩ := Action.bind_success waited
        exact ih rest
      · cases waited

/-- An invariant of a device, of what its clients have sent and of where its reader stands, that every
action of the reader and all events of some kind keep. -/
structure Keeping (kind : Event → Prop) (good : (Nat → Bytes) → ReaderPhase → Device → Prop) : Prop where
  hears : ∀ {sent phase device after events}, good sent phase device → (∀ event ∈ events, kind event) →
    device.Hears events after →
    good (fun index => sent index ++ device.world.net.arrivals index events) phase after
  reads : ∀ {sent phase device}, good sent phase device →
    good sent (advanceReader phase device).1 (advanceReader phase device).2
  aside : ∀ {sent phase device reader}, good sent phase device → good sent phase { device with reader }

/-- A started device for which an invariant holds, and all of its script is of some kind. -/
def Standing (kind : Event → Prop) (good : (Nat → Bytes) → ReaderPhase → Device → Prop) (sent : Nat → Bytes)
    (device : Device) : Prop :=
  device.world.Scripted kind ∧ ∃ phase, device.reader = some phase ∧ good sent phase device

theorem Advance.aside {device : Device} {phase : ReaderPhase} {after : ReaderPhase × Device}
    (step : Advance device phase after) : after.2.reader = device.reader ∧
      after.2.world.script = device.world.script ∧ after.2.chunkSize = device.chunkSize := by
  cases step with
  | quietly keeps => exact ⟨keeps.reader, keeps.script, keeps.chunkSize⟩
  | drew _ _ _ _ keeps => exact ⟨keeps.reader, keeps.script, keeps.chunkSize⟩
  | stored => exact ⟨rfl, rfl, rfl⟩
  | handed => exact ⟨rfl, rfl, rfl⟩
  | ended => exact ⟨rfl, rfl, rfl⟩

namespace Keeping

variable {kind : Event → Prop} {good : (Nat → Bytes) → ReaderPhase → Device → Prop} (keeping : Keeping kind good)
  {sent : Nat → Bytes} {device : Device}
include keeping

theorem advance {phase : ReaderPhase} (scripted : device.world.Scripted kind) (fits : good sent phase device) :
    (advanceReader phase device).2.world.Scripted kind ∧
      good sent (advanceReader phase device).1 (advanceReader phase device).2 :=
  ⟨fun items found => scripted items ((advanceReader_advance device phase).aside.2.1 ▸ found), keeping.reads fits⟩

theorem advanceToPark (limit : Nat) {phase : ReaderPhase} (scripted : device.world.Scripted kind)
    (fits : good sent phase device) :
    (advanceReaderToPark limit phase device).2.world.Scripted kind ∧
      good sent (advanceReaderToPark limit phase device).1 (advanceReaderToPark limit phase device).2 := by
  induction limit generalizing phase device with
  | zero => exact ⟨scripted, fits⟩
  | succ limit ih =>
    rw [advanceReaderToPark]
    split
    · exact ⟨scripted, fits⟩
    · obtain ⟨scripted, fits⟩ := keeping.advance scripted fits
      exact ih scripted fits

theorem resume (stands : Standing kind good sent device) : Standing kind good sent device.resume := by
  obtain ⟨scripted, phase, reader, fits⟩ := stands
  obtain ⟨scripted, fits⟩ := keeping.advance scripted fits
  obtain ⟨scripted, fits⟩ := keeping.advanceToPark (4 * (device.world.workload + 4)) scripted fits
  rw [Device.resume, reader]
  exact ⟨scripted, _, rfl, keeping.aside fits⟩

theorem pass (stands : Standing kind good sent device) :
    Standing kind good (fun index => sent index ++ device.world.net.arrivals index device.world.next)
      (Action.state (pass device)) := by
  obtain ⟨scripted, phase, reader, fits⟩ := stands
  obtain ⟨stop, state⟩ := device.world.advanceScript_state
  have heard : Standing kind good
      (fun index => sent index ++ device.world.net.arrivals index device.world.next)
      { device with world := Action.state (World.advanceScript device.world) } := by
    refine ⟨World.rest_scripted scripted (by rw [state]), phase, reader, keeping.hears fits
      (World.next_kind scripted) ⟨rfl, ?_⟩⟩
    rw [state]
  simp only [Device.pass, Action.bind_apply, Action.liftBenchDevice_apply, Action.onPart_apply]
  cases ran : World.advanceScript device.world with
  | ok advanced world =>
    rw [ran] at heard
    exact keeping.resume heard
  | error fault world =>
    rw [ran] at heard
    exact heard

/-- What holds before a wait holds after it, of all that was sent till then. -/
theorem awaitItems (isThere : Device → Bool) (timeout : Option Number) (items : Nat)
    (stands : Standing kind good sent device) :
    Standing kind good (fun index => sent index ++ arriving index isThere timeout items device)
      (Action.state (awaitItems isThere timeout items device)) := by
  induction items generalizing sent device with
  | zero =>
    have still : Action.state (Device.awaitItems isThere timeout 0 device) = device := by
      simp only [Device.awaitItems, Action.bind_apply, Action.get_apply]
      split
      · rfl
      · split <;> rfl
    rw [still]
    simpa only [arriving, List.append_nil] using stands
  | succ items ih =>
    rw [awaitItems_succ]
    by_cases found : isThere device = true
    · simpa only [arriving, found, Bool.true_or, if_true, List.append_nil, Action.state_ok] using stands
    · by_cases patient : waits timeout = true
      · have passed := keeping.pass stands
        simp only [arriving, found, patient, Bool.not_true, Bool.or_false, Bool.false_eq_true, if_false, if_true]
        cases ran : Device.pass device with
        | ok done after =>
          rw [ran] at passed
          rw [Action.bind_ok ran]
          simpa only [List.append_assoc, Action.state_ok] using ih passed
        | error fault after =>
          -- An interrupt ends the wait behind the events that came before it.
          rw [ran] at passed
          rw [Action.bind_error ran]
          simpa only [List.append_nil, Action.state_error] using passed
      · simpa only [arriving, found, patient, Bool.not_false, Bool.or_true, if_true, Bool.false_eq_true,
          if_false, List.append_nil, Action.state_ok] using stands

end Keeping

theorem await_eq (isThere : Device → Bool) (timeout : Option Number) (device : Device) :
    await isThere timeout device = match device.waitFault isThere timeout with
      | some fault => .error fault device
      | none => awaitItems isThere timeout (device.world.script.getD []).length device := by
  simp only [await, Action.bind_apply, Action.get_apply]
  cases device.waitFault isThere timeout <;> rfl

theorem waitFault_there {isThere : Device → Bool} {device : Device} (there : isThere device = true)
    (timeout : Option Number) : device.waitFault isThere timeout = none := by
  simp [waitFault, there]

@[simp] theorem waitFault_unlimited (isThere : Device → Bool) (device : Device) :
    device.waitFault isThere none = none := by
  simp [waitFault]

theorem waitFault_hasty {timeout : Option Number} (hasty : waits timeout = false) (isThere : Device → Bool)
    (device : Device) : device.waitFault isThere timeout = none := by
  simp [waitFault, hasty]

/-- The fault of a wait is none of this library's. -/
theorem waitFault_system {isThere : Device → Bool} {timeout : Option Number} {device : Device} {fault : Fault}
    (refused : device.waitFault isThere timeout = some fault) : ∃ kind arguments, fault = .system kind arguments := by
  unfold waitFault at refused
  split at refused
  · cases refused
  · obtain ⟨⟨kind, arguments⟩, _, rfl⟩ := Option.map_eq_some_iff.mp refused
    exact ⟨kind, arguments, rfl⟩

/-- A wait without a limit is not refused. -/
theorem await_unlimited (isThere : Device → Bool) (device : Device) :
    await isThere none device = awaitItems isThere none (device.world.script.getD []).length device := by
  rw [await_eq, waitFault_unlimited]

/-- The device when a call that wants a chunk has waited for one. -/
def waited (timeout : Option Number) (device : Device) : Device :=
  Action.state (await hasItem timeout device)

/-- What a client sends while a call waits for a chunk. -/
def arrivingFor (timeout : Option Number) (device : Device) (index : Nat) : Bytes :=
  match device.waitFault hasItem timeout with
  | some _ => []
  | none => arriving index hasItem timeout (device.world.script.getD []).length device

theorem Keeping.waited {kind : Event → Prop} {good : (Nat → Bytes) → ReaderPhase → Device → Prop}
    (keeping : Keeping kind good) {sent : Nat → Bytes} {device : Device} (timeout : Option Number)
    (stands : Standing kind good sent device) :
    Standing kind good (fun index => sent index ++ device.arrivingFor timeout index) (device.waited timeout) := by
  simp only [Device.waited, arrivingFor, await_eq]
  split
  · simpa only [List.append_nil, Action.state_error] using stands
  · exact keeping.awaitItems hasItem timeout _ stands

theorem waited_negative {timeout : Option Number} (negative : timeout.any Number.isNegative = true)
    (device : Device) : device.waited timeout = device := by
  have hasty : waits timeout = false := by
    cases timeout with
    | none => simp at negative
    | some number => exact Number.not_isPositive (by simpa using negative)
  rw [waited, await_eq, waitFault_hasty hasty]
  cases (device.world.script.getD []).length with
  | zero =>
    simp only [awaitItems, Action.bind_apply, Action.get_apply]
    split
    · rfl
    · split <;> rfl
  | succ items =>
    simp only [awaitItems_succ, hasty]
    split <;> rfl

/-- How a call that wants a chunk ends after its wait. -/
inductive Received (waited : Device) : EStateM.Result Fault Device Bytes → Prop
  | chunk {chunk : Bytes} {rest : List (Option Bytes)} (queue : waited.queue = some chunk :: rest) :
      Received waited (.ok chunk { waited with queue := rest })
  | finished {rest : List (Option Bytes)} (queue : waited.queue = none :: rest) :
      Received waited (.error waited.streamEnded { waited with queue := rest ++ [none] })
  | failed {fault : Fault} (other : fault.kind ≠ .harness .deviceClosed) : Received waited (.error fault waited)

/-- Only an interrupt ends a wait before its time. -/
theorem awaitItems_failed {isThere : Device → Bool} {timeout : Option Number} {items : Nat}
    {device after : Device} {fault : Fault} (failed : awaitItems isThere timeout items device = .error fault after) :
    fault = .keyboardInterrupt := by
  induction items generalizing device with
  | zero =>
    simp only [awaitItems, Action.bind_apply, Action.get_apply] at failed
    split at failed
    · cases failed
    · split at failed <;> cases failed
      rfl
  | succ items ih =>
    rw [awaitItems_succ] at failed
    split at failed
    · cases failed
    · split at failed
      · cases passed : pass device with
        | ok done middle =>
          rw [Action.bind_ok passed] at failed
          exact ih failed
        | error other middle =>
          rw [Action.bind_error passed] at failed
          cases failed
          simp only [pass, Action.bind_apply, Action.liftBenchDevice_apply, Action.onPart_apply] at passed
          cases advanced : World.advanceScript device.world with
          | ok went world => simp [advanced] at passed
          | error raised world =>
            simp only [advanced, EStateM.Result.error.injEq] at passed
            exact passed.1 ▸ World.advanceScript_failed advanced
      · cases failed

/-- A wait fails with a system fault: it is refused or interrupted. -/
theorem await_failed {isThere : Device → Bool} {timeout : Option Number} {device after : Device} {fault : Fault}
    (failed : await isThere timeout device = .error fault after) :
    ∃ kind arguments, fault = .system kind arguments := by
  rw [await_eq] at failed
  split at failed
  next refused =>
    cases failed
    exact waitFault_system refused
  · exact ⟨_, _, awaitItems_failed failed⟩

theorem await_found {isThere : Device → Bool} {timeout : Option Number} {device after : Device}
    (waited : await isThere timeout device = .ok true after) : isThere after = true := by
  rw [await_eq] at waited
  split at waited
  · cases waited
  · exact awaitItems_found waited

theorem receive_received (timeout : Option Number) (device : Device) :
    Received (device.waited timeout) (receive timeout device) := by
  by_cases negative : timeout.any Number.isNegative = true
  · -- Such a limit is refused before any wait, and a wait with it would not begin.
    rw [waited_negative negative]
    simp only [receive, negative, if_true]
    exact .failed (by decide)
  · cases ran : await hasItem timeout device with
    | error fault after =>
      obtain ⟨kind, arguments, rfl⟩ := await_failed ran
      have call : receive timeout device = .error (.system kind arguments) after := by
        simp [receive, negative, ran]
      rw [waited, ran, call]
      exact .failed (by simp [Fault.kind])
    | ok found after =>
      rw [Device.waited, ran, Action.state_ok]
      simp only [receive, negative, Bool.false_eq_true, if_false, Action.bind_apply, ran]
      cases found with
      | false => exact .failed (by simp [Fault.kind])
      | true =>
        have some : after.queue ≠ [] := by
          have there := await_found ran
          simpa [hasItem] using there
        by_cases huge : timeout.any Number.isBeyondFloats = true
        · simp only [huge]
          exact .failed (by decide)
        · simp only [huge]
          rcases queue : after.queue with _ | ⟨_ | chunk, rest⟩
          · exact absurd queue some
          · have finished := Received.finished queue
            simpa [queue] using finished
          · have taken := Received.chunk queue
            simpa [queue] using taken

theorem awaitItems_there {isThere : Device → Bool} {timeout : Option Number} {device : Device}
    (there : isThere device = true) (items : Nat) :
    awaitItems isThere timeout items device = .ok true device := by
  cases items with
  | zero => simp [awaitItems, there]
  | succ items => rw [awaitItems_succ, if_pos there]

theorem await_there {isThere : Device → Bool} {timeout : Option Number} {device : Device}
    (there : isThere device = true) : await isThere timeout device = .ok true device := by
  rw [await_eq, waitFault_there there]
  exact awaitItems_there there _

/-- Whether a limit can be waited for: it is not below zero, and a deadline can be reckoned from it. -/
def isMeasurable (timeout : Option Number) : Bool :=
  !timeout.any Number.isNegative && !timeout.any Number.isBeyondFloats

theorem receive_over {timeout : Option Number} (measurable : isMeasurable timeout = true) {device : Device}
    (queue : device.queue = [none]) : receive timeout device = .error device.streamEnded device := by
  simp only [isMeasurable, Bool.and_eq_true, Bool.not_eq_true'] at measurable
  obtain ⟨positive, small⟩ := measurable
  have waited : await hasItem timeout device = .ok true device := await_there (by simp [hasItem, queue])
  have same : { device with queue := [none] } = device := queue ▸ rfl
  simp [receive, positive, small, waited, queue, same]

theorem streamEnded_kind {device : Device} (named : device.peer.length ≠ 1) :
    device.streamEnded.kind = .harness .deviceClosed := by
  obtain ⟨name, text⟩ := Address.text_ok named
  rw [streamEnded, text]
  rfl

end Device
end RelayBench
