import RelayBench.Proofs.Device.Watch
import RelayBench.Proofs.Workload

/-! The reader of a device comes to park.  Between two parks each of its actions brings it nearer to the next
one or takes something from the network, so the actions that it is given are enough; and once the device is
closing and its link is shut, there is no place left to park but its end. -/
namespace RelayBench

namespace Net

variable (net : Net)

theorem updateLinks_eases (indices : List Nat) {change : Link → Link}
    (lighter : ∀ link, (change link).stream.weight ≤ link.stream.weight) :
    Eases net (net.updateLinks indices change) := by
  induction indices generalizing net with
  | nil => exact .refl net
  | cons first rest ih =>
    exact (updateLink_eases net first (lighter (net.link first))).trans (ih (net.updateLink first change))

theorem shut_eases (door : Nat) : Eases net (net.shut door) := by
  have emptied : Eases net (net.updateDoor door fun d => { d with pending := [] }) :=
    updateDoor_eases net door (Nat.zero_le _)
  have closed (link : Link) :
      ({ link with stream := { link.stream with isOpen := false } } : Link).stream.weight ≤ link.stream.weight := by
    simp [Stream.weight]
  rw [shut, dropPending, foldl_updateLink]
  exact (emptied.trans (updateLinks_eases _ _ closed)).trans (updateDoor_eases _ door (Nat.le_refl _))

theorem accept_eases (caller : Caller) (door : Nat) : Eases net (Action.state (accept caller door net)) := by
  have called := net.called_eases .accept
  rcases net.accept_split caller door with ⟨fault, after, failed, rfl | rfl⟩ | ⟨first, rest, _, queue, taken⟩
  · rw [failed]
    exact .refl _
  · rw [failed]
    exact called
  · rw [taken]
    refine called.trans (updateDoor_eases _ door ?_)
    show rest.length ≤ (net.door door).pending.length
    rw [queue]
    exact Nat.le_succ _

theorem closeDoor_eases (door : Nat) : Eases net (Action.state (closeDoor door net)) := by
  rw [closeDoor_eq]
  split
  · have shut := (net.shut_eases door).trans (called_eases _ .close)
    split <;> exact shut
  · exact .refl net

theorem readLink_eases (index : Nat) (size : Int) : Eases net (Action.state (readLink index size net)) := by
  rw [readLink_apply]
  exact updateLink_eases net index
    (Nat.le_trans (Nat.le_add_right _ _) ((net.link index).read_weight net.platform size))

theorem readLink_load {index : Nat} {size : Int} {chunk : Bytes} (known : index < net.linkCount)
    (read : ((net.link index).read net.platform size).1 = .bytes chunk) (full : chunk ≠ []) :
    (net.updateLink index fun link => (link.read net.platform size).2).load < net.load := by
  have weight := (net.link index).read_weight net.platform size
  have some := List.length_pos_iff.mpr full
  rw [read, Reading.taken] at weight
  have lighter : ((net.link index).read net.platform size).2.stream.weight < (net.link index).stream.weight := by
    omega
  refine (updateLink_eases net index (Nat.le_of_lt lighter)).load_lt (.inl ⟨index, known, ?_⟩)
  rw [link_updateLink, if_pos rfl]
  exact lighter

end Net

namespace ReaderPhase

/-- How many actions are left before the reader parks, if it finds nothing to do in the network. -/
def rank : ReaderPhase → Nat
  | .testing => 9
  | .accepting => 8
  | .storing _ => 7
  | .leaving _ _ => 6
  | .rechecking => 5
  | .announcing => 4
  | .handing _ => 4
  | .reading => 3
  | .discarding => 2
  | .stalled => 2
  | .ending _ => 1
  | .awaiting | .ended _ => 0

theorem rank_le (phase : ReaderPhase) : phase.rank ≤ 9 := by
  cases phase <;> simp [rank]

theorem isParked_of_rank {phase : ReaderPhase} (last : phase.rank = 0) : phase.isParked = true := by
  cases phase <;> simp [rank, isParked] at last ⊢

/-- Whether the reader, if it finds the device closing, goes on to its end without another park. -/
def isLeaving : ReaderPhase → Bool
  | .testing | .storing _ | .leaving _ _ | .rechecking | .discarding | .ending _ | .ended _ => true
  | _ => false

end ReaderPhase

namespace Device

variable (device : Device)

/-- What one action of the reader takes from the way to its next park. -/
structure Paces (device : Device) (phase : ReaderPhase) (next : ReaderPhase × Device) : Prop where
  eases : Net.Eases device.world.net next.2.world.net
  nearer : next.1.isParked = true ∨ phase = .awaiting ∨
    next.1.rank + 4 * next.2.world.net.load < phase.rank + 4 * device.world.net.load

theorem Paces.lower {device after : Device} {phase next : ReaderPhase}
    (eases : Net.Eases device.world.net after.world.net)
    (less : next.isParked = true ∨ phase = .awaiting ∨ next.rank < phase.rank) :
    Paces device phase (next, after) := by
  have load := eases.load
  refine ⟨eases, less.imp id (Or.imp id fun less => ?_)⟩
  show next.rank + 4 * after.world.net.load < _
  omega

theorem answer_paces {phase : ReaderPhase} (course : phase = .awaiting ∨ phase = .accepting ∧
    ∀ door, device.door = some door → device.world.net.hasCaller door = true) :
    Paces device phase (answer device) := by
  have toward {next : ReaderPhase} {after : Device} (eases : Net.Eases device.world.net after.world.net)
      (low : next.rank < 8) : Paces device phase (next, after) := by
    refine .lower eases (.inr (course.imp id fun accepts => ?_))
    rw [accepts.1]
    exact low
  unfold answer
  split
  · exact toward (.refl _) (by decide)
  next door known =>
    have eases := device.world.net.accept_eases .background door
    cases ran : Net.accept .background door device.world.net with
    | ok link net =>
      rw [ran] at eases
      rw [liftNet_ok ran]
      exact toward eases (by simp [ReaderPhase.rank])
    | error fault net =>
      rw [ran, Action.state_error] at eases
      rw [liftNet_error ran]
      dsimp only
      split
      next late =>
        refine ⟨eases, .inr (course.imp id ?_)⟩
        rintro ⟨rfl, calls⟩
        have opened : (device.world.net.door door).isOpen = true := by
          by_contra shut
          rw [Net.accept_eq, if_neg shut] at ran
          cases ran
          exact absurd late (by decide)
        -- Only a fault in store makes an accept run out of time that somebody waits for.
        obtain ⟨rfl, holds⟩ := Net.accept_failed opened (calls door known) ran
        have less := (device.world.net.called_eases .accept).load_lt (.inr (.inr (FaultQueue.length_drop_lt holds)))
        show 9 + 4 * (device.world.net.called .accept).load < 8 + 4 * device.world.net.load
        omega
      · split
        · refine toward ?_ (by decide)
          rw [noteUnlessClosing_net]
          exact eases
        · exact toward eases (by simp [ReaderPhase.rank])

theorem leave_paces (found : Bool) (fault : Option Fault) :
    Paces device (.leaving found fault) (leave device found fault) := by
  have low : (afterLeaving found fault).rank < 6 := by
    cases fault <;> cases found <;> simp [afterLeaving, ReaderPhase.rank]
  rw [leave_eq]
  split
  · exact .lower (.refl _) (.inr (.inr low))
  next door known =>
    have eases := device.world.net.closeDoor_eases door
    cases ran : Net.closeDoor door device.world.net with
    | ok done net =>
      rw [ran] at eases
      rw [liftNet_ok ran]
      exact .lower eases (.inr (.inr low))
    | error raised net =>
      rw [ran] at eases
      rw [liftNet_error ran]
      exact .lower eases (.inr (.inr (by simp [ReaderPhase.rank])))

theorem discard_paces : Paces device .discarding (discard device) := by
  have low (fault : Option Fault) : (ReaderPhase.ending fault).rank < ReaderPhase.discarding.rank :=
    Nat.lt_succ_self 1
  obtain ⟨_, left⟩ | ⟨link, fault, _, left⟩ := device.discard_cases <;> rw [left]
  · exact .lower (.refl _) (.inr (.inr (low none)))
  · have weight := (device.world.net.link link).stream.close_weight
    refine .lower (Net.updateLink_eases device.world.net link ?_) (.inr (.inr (low fault)))
    exact Nat.le_trans (Nat.le_of_eq weight) (Nat.zero_le _)

theorem announce_paces : Paces device .announcing (announce device) := by
  unfold announce
  dsimp only
  split
  · refine .lower ?_ (.inr (.inr (by decide)))
    rw [note_net]
    exact .refl _
  · exact .lower (.refl _) (.inr (.inr (by simp [ReaderPhase.rank])))

theorem readChunk_paces {phase : ReaderPhase} (awake : phase = .reading ∨ phase = .stalled)
    (known : ∀ link, device.link = some link → link < device.world.net.linkCount) :
    Paces device phase (readChunk device) := by
  have toward {next : ReaderPhase} {after : Device} (eases : Net.Eases device.world.net after.world.net)
      (low : next.rank < 2) : Paces device phase (next, after) := by
    rcases awake with rfl | rfl
    · exact .lower eases (.inr (.inr (Nat.lt_succ_of_lt low)))
    · exact .lower eases (.inr (.inr low))
  unfold readChunk
  split
  · exact toward (.refl _) (by decide)
  next link linked =>
    have eases := device.world.net.readLink_eases link device.chunkSize
    rw [Net.readLink_apply, Action.state_ok] at eases
    rw [liftNet_ok (Net.readLink_apply link device.chunkSize device.world.net)]
    rcases reading : ((device.world.net.link link).read device.world.net.platform device.chunkSize).1 with
      (_ | ⟨first, rest⟩) | fault | _
    · refine toward ?_ (by decide)
      rw [noteUnlessClosing_net]
      exact eases
    · have less := device.world.net.readLink_load (known link linked) reading (List.cons_ne_nil first rest)
      refine ⟨?_, .inr (.inr ?_)⟩ <;> rw [note_net]
      · exact eases
      · have most : 2 ≤ phase.rank := by rcases awake with rfl | rfl <;> decide
        show 4 + 4 * Net.load (device.world.net.updateLink link _) < phase.rank + 4 * device.world.net.load
        omega
    · dsimp only
      split
      · refine toward ?_ (by decide)
        rw [noteUnlessClosing_net]
        exact eases
      · exact toward eases (by simp [ReaderPhase.rank])
    · exact .lower eases (.inl rfl)

theorem advanceReader_paces (phase : ReaderPhase)
    (known : ∀ link, device.link = some link → link < device.world.net.linkCount) :
    Paces device phase (advanceReader phase device) := by
  cases phase with
  | testing =>
    rw [advanceReader]
    split <;> exact .lower (.refl _) (.inr (.inr (by decide)))
  | accepting =>
    rw [advanceReader]
    split
    next door known =>
      split
      next calls =>
        refine answer_paces device (.inr ⟨rfl, fun other also => ?_⟩)
        obtain rfl : door = other := Option.some.inj (known.symm.trans also)
        exact calls
      · exact .lower (.refl _) (.inl rfl)
    next none => exact answer_paces device (.inr ⟨rfl, by simp [none]⟩)
  | awaiting => exact answer_paces device (.inl rfl)
  | storing link => exact .lower (Net.updateLink_eases _ link (Nat.le_refl _)) (.inr (.inr (by simp [ReaderPhase.rank])))
  | leaving found fault => exact leave_paces device found fault
  | rechecking =>
    rw [advanceReader]
    split <;> exact .lower (.refl _) (.inr (.inr (by decide)))
  | discarding => exact discard_paces device
  | announcing => exact announce_paces device
  | reading => exact readChunk_paces device (.inl rfl) known
  | stalled => exact readChunk_paces device (.inr rfl) known
  | handing chunk => exact .lower (.refl _) (.inr (.inr (by simp [ReaderPhase.rank])))
  | ending fault => exact .lower (.refl _) (.inl rfl)
  | ended fault => exact .lower (.refl _) (.inl rfl)

/-- How many chunks can be taken from a device at most, before more events than its script holds. -/
def due (device : Device) : Nat := (device.queue.filterMap id).length + device.world.workload

section

variable {device} {start : Nat} {sent : Nat → Bytes} {taken : List Bytes} {phase : ReaderPhase}
  (tallies : Tallies start sent taken phase device)
include tallies

theorem Tallies.known (link : Nat) (linked : device.link = some link) : link < device.world.net.linkCount :=
  (tallies.born link (mem_holding linked)).2

/-- What the reader hands over it has taken from the network. -/
theorem advanceReader_due : (advanceReader phase device).2.due + (advanceReader phase device).1.carried.length ≤
    device.due + phase.carried.length := by
  have paces := device.advanceReader_paces phase tallies.known
  have step := advanceReader_advance device phase
  generalize advanceReader phase device = ran at paces step ⊢
  have load := paces.eases.load
  cases step with
  | quietly keeps _ _ carried _ =>
    have work := World.workload_le keeps.script load
    simp only [due, keeps.queue, carried]
    omega
  | @stored link =>
    have work : (device.store link).world.workload ≤ device.world.workload := World.workload_le rfl load
    exact Nat.add_le_add_right (Nat.add_le_add_left work _) 0
  | @drew _ after _ _ awake _ _ _ keeps _ =>
    have low : phase.rank ≤ 3 ∧ phase ≠ .awaiting := by rcases awake with rfl | rfl <;> simp [ReaderPhase.rank]
    have nearer : 4 + 4 * after.world.net.load < phase.rank + 4 * device.world.net.load :=
      (paces.nearer.resolve_left (by simp [ReaderPhase.isParked])).resolve_left low.2
    have less : after.world.net.load < device.world.net.load := by omega
    have work := World.workload_lt keeps.script less
    simp only [due, keeps.queue, ReaderPhase.carried, List.length_singleton]
    omega
  | handed =>
    simp [due, enqueue, ReaderPhase.carried]
    omega
  | ended => simp [due, enqueue, ReaderPhase.carried]

theorem advanceReaderToPark_parks (limit : Nat) (enough : phase.rank + 4 * device.world.net.load ≤ limit) :
    (advanceReaderToPark limit phase device).1.isParked = true := by
  induction limit generalizing phase device with
  | zero =>
    have last : phase.rank = 0 := by omega
    exact ReaderPhase.isParked_of_rank last
  | succ limit ih =>
    rw [advanceReaderToPark]
    split
    next parked => exact parked
    next going =>
      have advanced := tallies.advance (advanceReader_advance device phase)
      show (advanceReaderToPark limit (advanceReader phase device).1 (advanceReader phase device).2).1.isParked = true
      rcases (device.advanceReader_paces phase tallies.known).nearer with parked | waits | nearer
      · cases limit with
        | zero => exact parked
        | succ limit =>
          rw [advanceReaderToPark, if_pos parked]
          exact parked
      · exact absurd (waits ▸ rfl) going
      · exact ih advanced (by omega)

theorem advanceReaderToPark_due (limit : Nat) :
    (advanceReaderToPark limit phase device).2.due +
        (advanceReaderToPark limit phase device).1.carried.length ≤ device.due + phase.carried.length := by
  induction limit generalizing phase device with
  | zero => exact Nat.le_refl _
  | succ limit ih =>
    rw [advanceReaderToPark]
    split
    · exact Nat.le_refl _
    · exact Nat.le_trans (ih (tallies.advance (advanceReader_advance device phase))) (advanceReader_due tallies)

end

/-- A started device at a call: it tallies, and its reader is parked. -/
structure Rests (start : Nat) (taken : List Bytes) (device : Device) : Prop where
  stands : ∃ sent, Standing Event.Addressed (Tallies start · taken) sent device
  parked : ∃ phase, device.reader = some phase ∧ phase.isParked = true

/-- A reader that is resumed parks again. -/
theorem resume_rests {start : Nat} {sent : Nat → Bytes} {taken : List Bytes} {phase : ReaderPhase}
    {device : Device} (scripted : device.world.Scripted Event.Addressed) (reader : device.reader = some phase)
    (tallies : Tallies start sent taken phase device) :
    Rests start taken device.resume ∧ device.resume.due ≤ device.due + phase.carried.length := by
  have stands := ((tallies_serving start).keeping taken).resume ⟨scripted, phase, reader, tallies⟩
  have advanced := tallies.advance (advanceReader_advance device phase)
  have load := (device.advanceReader_paces phase tallies.known).eases.load
  have low := (advanceReader phase device).1.rank_le
  have work : device.world.net.load ≤ device.world.workload := by
    rw [World.workload_eq]
    exact Nat.le_add_left _ _
  have parks := advanceReaderToPark_parks advanced (4 * (device.world.workload + 4)) (by omega)
  have due := Nat.le_trans (advanceReaderToPark_due advanced (4 * (device.world.workload + 4)))
    (advanceReader_due tallies)
  have resumed : device.resume = runReader phase device := by rw [resume, reader]
  rw [resumed] at stands ⊢
  exact ⟨⟨⟨sent, stands⟩, _, rfl, parks⟩, Nat.le_trans (Nat.le_add_right _ _) due⟩

section

variable {start : Nat} {taken : List Bytes} {device : Device} (rests : Rests start taken device)
include rests

theorem Rests.heard : Rests start taken device.heard := by
  obtain ⟨⟨sent, scripted, phase, reader, tallies⟩, parked⟩ := rests
  have hears := device.heard_hears
  exact ⟨⟨_, heard_scripted scripted, phase, reader, tallies.hears _ (World.next_kind scripted) hears⟩, parked⟩

theorem Rests.resume : Rests start taken device.resume ∧ device.resume.due ≤ device.due := by
  obtain ⟨⟨sent, scripted, phase, reader, tallies⟩, other, same, parked⟩ := rests
  obtain rfl : phase = other := Option.some.inj (reader.symm.trans same)
  obtain ⟨rests, due⟩ := resume_rests scripted reader tallies
  have idle : phase.carried = [] := by cases phase <;> first | rfl | cases parked
  rw [idle] at due
  exact ⟨rests, due⟩

theorem Rests.takes {chunk : Bytes} {rest : List (Option Bytes)} (queue : device.queue = some chunk :: rest) :
    Rests start (taken ++ [chunk]) { device with queue := rest } := by
  obtain ⟨⟨sent, scripted, phase, reader, tallies⟩, parked⟩ := rests
  exact ⟨⟨sent, scripted, phase, reader, tallies.takes queue⟩, parked⟩

theorem Rests.finished {rest : List (Option Bytes)} (queue : device.queue = none :: rest) :
    Rests start taken { device with queue := rest ++ [none] } := by
  obtain ⟨⟨sent, scripted, phase, reader, tallies⟩, parked⟩ := rests
  exact ⟨⟨sent, scripted, phase, reader, (tallies_serving start).finished tallies queue⟩, parked⟩

theorem Rests.note (entry : Entry) : Rests start taken (device.note entry) := by
  obtain ⟨⟨sent, scripted, phase, reader, tallies⟩, parked⟩ := rests
  exact ⟨⟨sent, fun items found => scripted items ((note_script device entry).symm.trans found), phase, reader,
    tallies.note entry⟩, parked⟩

theorem Rests.closes (closer : ClosingPhase) : Rests start taken (advanceClosing closer device).2 := by
  obtain ⟨⟨sent, scripted, phase, reader, tallies⟩, parked⟩ := rests
  have step := advanceClosing_advance device reader closer
  obtain ⟨same, script, _⟩ := step.aside
  exact ⟨⟨sent, fun items found => scripted items (script ▸ found), phase, same.trans reader,
    tallies.advance step⟩, same ▸ parked⟩

end

theorem note_due (device : Device) (entry : Entry) : (device.note entry).due = device.due :=
  congrArg ((device.queue.filterMap id).length + ·) (World.write_workload device.world entry)

theorem heard_due (device : Device) : device.heard.due ≤ device.due :=
  Nat.add_le_add_left device.world.advanceScript_workload _

/-! Once the device is closing, the reader goes on to its end. -/

theorem answer_isLeaving : (answer device).1.isLeaving = true := by
  unfold answer
  split
  · rfl
  next door known =>
    generalize (liftM (Net.accept .background door) : DeviceCall Nat) device = ran
    cases ran with
    | ok link after => rfl
    | error fault after =>
      dsimp only
      split
      · rfl
      · split <;> rfl

theorem advanceReader_isLeaving {device : Device} (closing : device.closing = true) {phase : ReaderPhase}
    (leaving : phase.isLeaving = true) : (advanceReader phase device).1.isLeaving = true := by
  cases phase with
  | testing => simp [advanceReader, closing, ReaderPhase.isLeaving]
  | storing link => rfl
  | leaving found fault =>
    have next : (afterLeaving found fault).isLeaving = true := by cases fault <;> cases found <;> rfl
    rw [advanceReader, leave_eq]
    split
    · exact next
    next door known =>
      generalize (liftM (Net.closeDoor door) : DeviceCall Unit) device = ran
      cases ran with
      | ok done after => exact next
      | error raised after => rfl
  | rechecking => simp [advanceReader, closing, ReaderPhase.isLeaving]
  | discarding =>
    rw [advanceReader]
    obtain ⟨_, left⟩ | ⟨link, fault, _, left⟩ := device.discard_cases <;> rw [left] <;> rfl
  | ending fault => rfl
  | ended fault => rfl
  | _ => cases leaving

theorem advanceReaderToPark_isLeaving (limit : Nat) {device : Device} (closing : device.closing = true)
    {phase : ReaderPhase} (leaving : phase.isLeaving = true) :
    (advanceReaderToPark limit phase device).1.isLeaving = true := by
  induction limit generalizing phase device with
  | zero => exact leaving
  | succ limit ih =>
    rw [advanceReaderToPark]
    split
    · exact leaving
    · exact ih ((flags_advance device phase).1.trans closing) (advanceReader_isLeaving closing leaving)

/-- A parked reader of a device that is closing, and whose link is shut, ends when it is resumed. -/
theorem resume_ends {start : Nat} {taken : List Bytes} {device : Device} (rests : Rests start taken device)
    (closing : device.closing = true)
    (shut : ∀ link, device.link = some link → (device.world.net.link link).stream.isOpen = false) :
    device.resume.readerEnded = true := by
  obtain ⟨⟨sent, scripted, phase, reader, tallies⟩, other, same, parked⟩ := rests
  obtain rfl : phase = other := Option.some.inj (reader.symm.trans same)
  obtain ⟨_, next, ended, parks⟩ := (resume_rests scripted reader tallies).1
  have first : (advanceReader phase device).1.isLeaving = true := by
    cases phase with
    | awaiting => exact device.answer_isLeaving
    | stalled =>
      simp only [advanceReader, readChunk]
      split
      · rfl
      next link linked =>
        obtain ⟨fault, refused⟩ :=
          Link.read_shut _ device.world.net.platform device.chunkSize (shut link linked)
        rw [liftNet_ok (Net.readLink_apply link device.chunkSize device.world.net), refused]
        dsimp only
        split <;> rfl
    | ended fault => rfl
    | _ => cases parked
  have leaving := advanceReaderToPark_isLeaving (4 * (device.world.workload + 4))
    ((flags_advance device phase).1.trans closing) first
  rw [readerEnded_eq ended]
  have resumed : device.resume = runReader phase device := by rw [resume, reader]
  obtain rfl : (advanceReaderToPark (4 * (device.world.workload + 4)) (advanceReader phase device).1
      (advanceReader phase device).2).1 = next := by
    rw [resumed] at ended
    exact Option.some.inj ended
  generalize (advanceReaderToPark _ _ _).1 = last at leaving parks
  cases last <;> simp [ReaderPhase.isLeaving, ReaderPhase.isParked, ReaderPhase.isEnded] at leaving parks ⊢

theorem awaitReader_ends {start : Nat} {taken : List Bytes} {device : Device} (rests : Rests start taken device)
    (closing : device.closing = true)
    (shut : ∀ link, device.link = some link → (device.world.net.link link).stream.isOpen = false) (limit : Nat) :
    (awaitReader (limit + 2) device).readerEnded = true := by
  have ends := resume_ends rests closing shut
  rw [awaitReader]
  split
  next ended => exact ended
  · rw [awaitReader, if_pos ends]
    exact ends

end Device
end RelayBench
