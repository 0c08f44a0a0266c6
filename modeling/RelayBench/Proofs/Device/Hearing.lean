import RelayBench.Proofs.Device.Run

/-! Hearing the peer out.  As long as nothing is made to fail and nobody closes the device, the reader
ends only when its peer has gone, and after a clean close only when it has read all that was sent. -/
namespace RelayBench

/-- An event that makes neither the listening side nor a read fail. -/
def Event.Unfailing : Event → Prop := Event.Stores (fun _ _ => False) fun call _ => call ≠ .recv

/-- A network in which neither the listening side nor a read is made to fail. -/
def Net.Unfailing (net : Net) : Prop := net.Stores (fun _ _ => False) fun call _ => call ≠ .recv

namespace Net

variable {net : Net} (unfailing : net.Unfailing)
include unfailing

theorem Unfailing.call (call : Call) : FaultQueue.next net.faults call = none := by
  by_contra raised
  obtain ⟨fault, found⟩ := Option.ne_none_iff_exists'.mp raised
  exact FaultQueue.next_stored unfailing.calls found

theorem Unfailing.read (index : Nat) : FaultQueue.next (net.link index).stream.faults .recv = none := by
  by_contra raised
  obtain ⟨fault, found⟩ := Option.ne_none_iff_exists'.mp raised
  exact FaultQueue.next_stored (unfailing.links index) found rfl

theorem Unfailing.called (call : Call) : (net.called call).Unfailing :=
  ⟨FaultQueue.stores_drop unfailing.calls call, unfailing.links⟩

theorem Unfailing.updateLink (index : Nat) {change : Link → Link}
    (keeps : ∀ link : Link, ∀ {kind : Call → Fault → Prop}, FaultQueue.Stores kind link.stream.faults →
      FaultQueue.Stores kind (change link).stream.faults) : (net.updateLink index change).Unfailing := by
  refine ⟨unfailing.calls, fun other => ?_⟩
  rw [link_updateLink]
  split
  next same => exact keeps _ (unfailing.links index)
  · exact unfailing.links other

theorem Unfailing.applyAll (events : List Event) (kinds : ∀ event ∈ events, event.Unfailing) :
    (net.applyAll events).Unfailing :=
  @applyAll_kept Unfailing Event.Unfailing (fun _ _ kept kind => apply_stores _ kept kind) net unfailing events
    kinds

end Net

namespace Stream

/-- A read gives nothing only when there is nothing left and its client has closed. -/
theorem read_end {stream : Stream} {size : Nat} (some : 0 < size) (read : (stream.read size).1 = .bytes []) :
    stream.far = .closed ∧ stream.inbox = [] := by
  have course := stream.read_course size
  generalize stream.read size = ran at course read
  cases course with
  | ended far empty => exact ⟨far, empty⟩
  | took _ _ unread =>
    have nothing : stream.inbox.take size = [] := by simpa using read
    exact absurd nothing (by simp [List.take_eq_nil_iff, Nat.ne_of_gt some, unread])
  | _ => cases read

theorem read_reset {stream : Stream} {size : Nat} (opened : stream.isOpen = true)
    (spared : FaultQueue.next stream.faults .recv = none) {fault : Fault}
    (read : (stream.read size).1 = .fault fault) : stream.far = .reset := by
  have course := stream.read_course size
  generalize stream.read size = ran at course read
  cases course with
  | closed shut => exact absurd opened (by simp [shut])
  | failed found => exact nomatch spared.symm.trans found
  | reset far => exact far
  | _ => cases read

end Stream

namespace Device

/-- The peer is gone, and if it has closed, all that it sent was received. -/
def HeardOut (sent : Nat → Bytes) (device : Device) : Prop :=
  ∀ link, device.link = some link → (device.world.net.link link).stream.far ≠ .opened ∧
    ((device.world.net.link link).stream.far = .closed → device.received.flatten = sent link)

/-- Where the reader stands when nothing has gone wrong. -/
def OnCourse (sent : Nat → Bytes) : ReaderPhase → Device → Prop
  | .leaving found fault, device => fault = none ∧ (found = false → device.link = none)
  | .discarding, _ => False
  | .ending _, device => HeardOut sent device
  | .ended _, device => HeardOut sent device
  | _, _ => True

/-- A device that nobody closes, in a network in which nothing fails. -/
structure Attends (sent : Nat → Bytes) (phase : ReaderPhase) (device : Device) : Prop where
  size : 1 ≤ device.chunkSize
  reads : device.world.net.platform.sizeFault device.chunkSize = none
  calm : device.closing = false
  unfailing : device.world.net.Unfailing
  opened : ∀ index ∈ device.holding phase, (device.world.net.link index).stream.isOpen = true
  course : OnCourse sent phase device

theorem HeardOut.unlinked {sent : Nat → Bytes} {device : Device} (none : device.link = none) :
    HeardOut sent device := by
  intro link linked
  simp [none] at linked

theorem noteUnlessClosing_calm {device : Device} (calm : device.closing = false) (entry : Entry) :
    device.noteUnlessClosing entry = device.note entry := by
  simp [noteUnlessClosing, calm]

theorem HeardOut.note {sent : Nat → Bytes} {device : Device} (heard : HeardOut sent device) (entry : Entry) :
    HeardOut sent (device.note entry) := by
  intro link linked
  rw [note_net]
  exact heard link linked

namespace Attends

variable {start : Nat} {sent : Nat → Bytes} {taken : List Bytes} {phase : ReaderPhase} {device : Device}

theorem note (attends : Attends sent phase device) (entry : Entry) : Attends sent phase (device.note entry) where
  size := attends.size
  reads := by
    rw [note_net]
    exact attends.reads
  calm := attends.calm
  unfailing := by
    rw [note_net]
    exact attends.unfailing
  opened := by
    have same : (device.note entry).holding phase = device.holding phase := by
      rw [holding, holding, note_pending]
      rfl
    rw [same, note_net]
    exact attends.opened
  course := by
    have course := attends.course
    cases phase with
    | ending fault => exact course.note entry
    | ended fault => exact course.note entry
    | _ => exact course

section

variable (attends : Attends sent phase device)
include attends

theorem stays {next : ReaderPhase} (caught : next.caught = []) (course : OnCourse sent next device) :
    Attends sent next device := by
  refine ⟨attends.size, attends.reads, attends.calm, attends.unfailing, fun index held => attends.opened index ?_, course⟩
  rw [holding, caught] at held
  rw [holding]
  rcases List.mem_append.mp held with linked | waiting
  · exact List.mem_append_left _ linked
  · exact List.mem_append_right _ (List.mem_append_right _ waiting)

theorem unmoved {next : ReaderPhase} {net : Net} (links : net.links = device.world.net.links)
    (platform : net.platform = device.world.net.platform) (unfailing : net.Unfailing)
    (holding : ((device.inNet net).holding next).Sublist (device.holding phase))
    (course : OnCourse sent next (device.inNet net)) : Attends sent next (device.inNet net) where
  size := attends.size
  reads := (congrArg (Platform.sizeFault · device.chunkSize) platform).trans attends.reads
  calm := attends.calm
  unfailing := unfailing
  opened := by
    intro index held
    have same : net.link index = device.world.net.link index := congrArg (Table.get · index) links
    show (net.link index).stream.isOpen = true
    rw [same]
    exact attends.opened index (holding.subset held)
  course := course

theorem answer (search : device.link = none) (free : phase.caught = []) {next : ReaderPhase} {after : Device}
    (step : device.answer = (next, after)) : Attends sent next after := by
  have still {next : ReaderPhase} {net : Net} (same : net = device.world.net ∨ net = device.world.net.called .accept)
      (caught : next.caught = []) (course : OnCourse sent next (device.inNet net)) :
      Attends sent next (device.inNet net) := by
    have pending : (device.inNet net).pending = device.pending := by rcases same with rfl | rfl <;> rfl
    refine attends.unmoved (by rcases same with rfl | rfl <;> rfl) (by rcases same with rfl | rfl <;> rfl) ?_ ?_
      course
    · rcases same with rfl | rfl
      · exact attends.unfailing
      · exact attends.unfailing.called .accept
    · rw [holding, holding, pending, caught, free]
      exact .refl _
  unfold Device.answer at step
  split at step
  next none =>
    cases step
    exact still (.inl rfl) rfl ⟨rfl, fun _ => search⟩
  next door known =>
    have course := device.world.net.accept_eq .background door
    rw [attends.unfailing.call] at course
    split at course
    next opened =>
      split at course
      next raised => cases raised
      next =>
        rw [liftNet_error course] at step
        cases step
        exact still (.inr rfl) rfl trivial
      next first rest _ queue =>
        rw [liftNet_ok course] at step
        cases step
        refine attends.unmoved rfl rfl ?_ ?_ trivial
        · exact ⟨(attends.unfailing.called .accept).calls, attends.unfailing.links⟩
        · exact holding_accepted device known queue free ▸ .refl _
    next shut =>
      rw [liftNet_error course] at step
      cases step
      rw [noteUnlessClosing_calm (show (device.inNet device.world.net).closing = false from attends.calm)]
      have course : OnCourse sent (.leaving false none) (device.inNet device.world.net) :=
        ⟨rfl, fun _ => search⟩
      exact (still (.inl rfl) rfl course).note _

theorem store {link : Nat} (storing : phase = .storing link) (search : device.link = none) :
    Attends sent (.leaving true none) (device.store link) where
  size := attends.size
  reads := attends.reads
  calm := attends.calm
  unfailing := attends.unfailing.updateLink link fun _ _ stores => stores
  opened := by
    subst storing
    intro index held
    have before : index ∈ device.holding (.storing link) := by
      simpa [holding, Device.store, pending, ReaderPhase.caught, search] using held
    have same : ((device.store link).world.net.link index).stream.isOpen =
        (device.world.net.link index).stream.isOpen := by
      simp only [Device.store, Net.link_updateLink]
      split
      next same => rw [same]
      · rfl
    rw [same]
    exact attends.opened index before
  course := ⟨rfl, nofun⟩

theorem leave {found : Bool} {fault : Option Fault} (leaving : phase = .leaving found fault)
    (distinct : (device.holding phase).Nodup) {next : ReaderPhase} {after : Device}
    (step : device.leave found fault = (next, after)) : Attends sent next after := by
  subst leaving
  obtain ⟨rfl, unlinked⟩ := attends.course
  have caught : (afterLeaving found none).caught = [] := by cases found <;> rfl
  have going {after : Device} (link : after.link = device.link) : OnCourse sent (afterLeaving found none) after := by
    cases found with
    | true => trivial
    | false => exact HeardOut.unlinked (link.trans (unlinked rfl))
  have gone {net : Net} (platform : net.platform = device.world.net.platform) (unfailing : net.Unfailing)
      (same : ∀ index, device.link = some index →
        (net.link index).stream.isOpen = (device.world.net.link index).stream.isOpen) :
      Attends sent (afterLeaving found none) { device.inNet net with door := none } := by
    refine ⟨attends.size, ?_, attends.calm, unfailing, fun index held => ?_, going rfl⟩
    · exact (congrArg (Platform.sizeFault · device.chunkSize) platform).trans attends.reads
    have linked : device.link = some index := by
      simpa [holding, caught, pending, inNet] using held
    exact (same index linked).trans (attends.opened index (mem_holding linked))
  rw [leave_eq] at step
  split at step
  next shut =>
    cases step
    exact attends.stays caught (going rfl)
  next door known =>
    have closed := device.world.net.closeDoor_eq door
    rw [attends.unfailing.call] at closed
    split at closed
    next opened =>
      rw [liftNet_ok closed] at step
      cases step
      -- Closing the door shuts all that wait there, of which the link of the device is none.
      have waiting : device.holding (.leaving found none) =
          device.link.toList ++ (device.world.net.door door).pending := by
        simp [holding, pending, known, ReaderPhase.caught]
      rw [waiting] at distinct
      obtain ⟨_, apart, other⟩ := List.nodup_append.mp distinct
      have link (index : Nat) := Net.shut_link device.world.net door apart index
      refine gone (Net.shut_platform ..) ⟨?_, fun index => ?_⟩ fun index linked => ?_
      · rw [Net.called, Net.shut_faults]
        exact FaultQueue.stores_drop attends.unfailing.calls .close
      · rw [Net.called_link, link]
        split <;> exact attends.unfailing.links index
      · rw [Net.called_link, link, if_neg fun waits => other index (by simp [linked]) index waits rfl]
    next =>
      rw [liftNet_ok closed] at step
      cases step
      exact gone rfl attends.unfailing fun _ _ => rfl

theorem announce (announcing : phase = .announcing) (named : device.peer.length ≠ 1) {next : ReaderPhase}
    {after : Device} (step : device.announce = (next, after)) : Attends sent next after := by
  subst announcing
  obtain ⟨name, text⟩ := Address.text_ok named
  simp only [Device.announce, text, Prod.mk.injEq] at step
  obtain ⟨rfl, rfl⟩ := step
  have going : Attends sent .reading { device with announced := true } :=
    ⟨attends.size, attends.reads, attends.calm, attends.unfailing, attends.opened, trivial⟩
  exact going.note _

theorem readChunk (tallies : Tallies start sent taken phase device) (awake : phase = .reading ∨ phase = .stalled)
    {next : ReaderPhase} {after : Device} (step : device.readChunk = (next, after)) :
    Attends sent next after := by
  have plain : phase.carried = [] ∧ phase.caught = [] := by
    rcases awake with rfl | rfl <;> exact ⟨rfl, rfl⟩
  obtain ⟨idle, free⟩ := plain
  unfold Device.readChunk at step
  split at step
  next none =>
    cases step
    exact attends.stays rfl (HeardOut.unlinked none)
  next link linked =>
    let platform := device.world.net.platform
    let net := device.world.net.updateLink link fun link => (link.read platform device.chunkSize).2
    have asked := (device.world.net.link link).read_ok attends.reads
    have same : (net.link link).stream = ((device.world.net.link link).stream.read device.chunkSize.toNat).2 := by
      rw [Net.link_updateLink, if_pos rfl, asked]
    have going {next : ReaderPhase} (caught : next.caught = []) (course : OnCourse sent next (device.inNet net)) :
        Attends sent next (device.inNet net) := by
      refine ⟨attends.size, attends.reads, attends.calm,
        attends.unfailing.updateLink link fun _ _ stores => Link.read_stores _ _ _ stores, fun index held => ?_, course⟩
      have before : index ∈ device.holding phase := by
        rw [holding, caught] at held
        rw [holding, free]
        exact held
      have opened : (net.link index).stream.isOpen = (device.world.net.link index).stream.isOpen := by
        rw [Net.link_updateLink]
        split
        next this => rw [this, Link.side_isOpen (Link.read_side ..)]
        · rfl
      exact opened.trans (attends.opened index before)
    have heard (gone : (device.world.net.link link).stream.far ≠ .opened)
        (all : (device.world.net.link link).stream.far = .closed → device.received.flatten = sent link) :
        HeardOut sent (device.inNet net) := by
      intro other known
      cases linked.symm.trans known
      show (net.link link).stream.far ≠ .opened ∧ ((net.link link).stream.far = .closed → _)
      rw [same, Stream.read_far]
      exact ⟨gone, all⟩
    have opened := attends.opened link (mem_holding linked)
    have spared := attends.unfailing.read link
    rw [liftNet_ok (Net.readLink_apply link device.chunkSize device.world.net), asked] at step
    cases read : ((device.world.net.link link).stream.read device.chunkSize.toNat).1 with
    | nothing =>
      simp only [read] at step
      cases step
      exact going rfl trivial
    | fault fault =>
      have far := Stream.read_reset opened spared read
      have finished := heard (by rw [far]; decide) fun closed => absurd (far.symm.trans closed) (by decide)
      have calm : (device.inNet net).closing = false := attends.calm
      simp only [read] at step
      split at step
      · cases step
        rw [noteUnlessClosing_calm calm]
        exact (going rfl finished : Attends sent (.ending none) (device.inNet net)).note _
      · cases step
        exact going rfl finished
    | bytes bytes =>
      cases bytes with
      | nil =>
        obtain ⟨far, empty⟩ := Stream.read_end (by have := attends.size; omega) read
        -- With nothing left to read and nothing lost, what was drawn is all that was sent.
        have all : device.received.flatten = sent link := by
          have settled := tallies.ledger.settled (tallies.born link (mem_holding linked)).2 empty (by rw [far]; decide)
          rw [settled, drawn, if_pos linked, chunks, idle, List.append_nil]
        have finished := heard (by rw [far]; decide) fun _ => all
        have calm : (device.inNet net).closing = false := attends.calm
        simp only [read] at step
        cases step
        rw [noteUnlessClosing_calm calm]
        exact (going rfl finished : Attends sent (.ending none) (device.inNet net)).note _
      | cons first rest =>
        simp only [read] at step
        cases step
        exact (going rfl trivial : Attends sent (.handing (first :: rest)) (device.inNet net)).note _

/-- No action of the reader ends it before the peer is heard out. -/
theorem advance (tallies : Tallies start sent taken phase device) {next : ReaderPhase} {after : Device}
    (step : advanceReader phase device = (next, after)) : Attends sent next after := by
  cases phase with
  | testing =>
    simp only [advanceReader, attends.calm] at step
    cases step
    exact attends.stays rfl trivial
  | accepting =>
    rw [advanceReader] at step
    split at step
    · split at step
      · exact attends.answer (tallies.search rfl) rfl step
      · cases step
        exact attends.stays rfl trivial
    · exact attends.answer (tallies.search rfl) rfl step
  | awaiting => exact attends.answer (tallies.search rfl) rfl step
  | storing link =>
    cases step
    exact attends.store rfl (tallies.search rfl)
  | leaving found fault => exact attends.leave rfl tallies.distinct step
  | rechecking =>
    simp only [advanceReader, attends.calm] at step
    cases step
    exact attends.stays rfl trivial
  | discarding => exact attends.course.elim
  | announcing => exact attends.announce rfl tallies.named step
  | reading => exact attends.readChunk tallies (.inl rfl) step
  | stalled => exact attends.readChunk tallies (.inr rfl) step
  | handing chunk =>
    cases step
    exact ⟨attends.size, attends.reads, attends.calm, attends.unfailing, attends.opened, trivial⟩
  | ending fault =>
    cases step
    exact ⟨attends.size, attends.reads, attends.calm, attends.unfailing, attends.opened, attends.course⟩
  | ended fault =>
    cases step
    exact attends

end

end Attends

theorem HeardOut.hears {sent : Nat → Bytes} {device after : Device} {events : List Event}
    (heard : HeardOut sent device)
    (known : ∀ link, device.link = some link → link < device.world.net.linkCount)
    (hears : device.Hears events after) :
    HeardOut (fun index => sent index ++ device.world.net.arrivals index events) after := by
  intro link linked
  rw [hears.link] at linked
  obtain ⟨gone, all⟩ := heard link linked
  obtain ⟨silent, still, closed⟩ := Net.applyAll_gone (known link linked) gone events
  rw [hears.net, hears.received]
  refine ⟨still, fun final => ?_⟩
  show device.received.flatten = sent link ++ device.world.net.arrivals link events
  rw [silent, List.append_nil]
  exact all (closed final)

theorem Attends.hears {start : Nat} {sent : Nat → Bytes} {taken : List Bytes} {phase : ReaderPhase}
    {device after : Device} {events : List Event} (attends : Attends sent phase device)
    (tallies : Tallies start sent taken phase device) (kinds : ∀ event ∈ events, event.Unfailing)
    (hears : device.Hears events after) :
    Attends (fun index => sent index ++ device.world.net.arrivals index events) phase after where
  size := hears.chunkSize ▸ attends.size
  reads := by
    rw [hears.chunkSize, hears.grown.platform]
    exact attends.reads
  calm := hears.closing.trans attends.calm
  unfailing := hears.net ▸ attends.unfailing.applyAll events kinds
  opened := by
    obtain ⟨added, holding, _, new⟩ := hears.holding phase
    rw [holding]
    intro index held
    rcases List.mem_append.mp held with old | fresh
    · have side := hears.grown.side index (tallies.born index old).2
      exact (Link.side_isOpen side).trans (attends.opened index old)
    · exact (new index fresh).2.2
  course := by
    have known (link : Nat) (linked : device.link = some link) : link < device.world.net.linkCount :=
      (tallies.born link (mem_holding linked)).2
    have course := attends.course
    cases phase with
    | leaving found fault => exact ⟨course.1, fun lost => hears.link.trans (course.2 lost)⟩
    | discarding => exact course.elim
    | ending fault => exact HeardOut.hears course known hears
    | ended fault => exact HeardOut.hears course known hears
    | _ => trivial

/-- The tally of a device whose reader goes on for as long as the peer may send, or has heard it out. -/
structure Listens (start : Nat) (taken : List Bytes) (sent : Nat → Bytes) (phase : ReaderPhase)
    (device : Device) : Prop where
  tallies : Tallies start sent taken phase device
  course : Attends sent phase device ∨ phase.isEnded = true ∧ HeardOut sent device

namespace Listens

variable {start : Nat} {sent : Nat → Bytes} {taken : List Bytes} {phase : ReaderPhase} {device : Device}
  (listens : Listens start taken sent phase device)
include listens

theorem heardOut (ended : phase.isEnded = true) : HeardOut sent device := by
  rcases listens.course with attends | ⟨_, heard⟩
  · have course := attends.course
    cases phase <;> first | exact course | simp [ReaderPhase.isEnded] at ended
  · exact heard

theorem hears {after : Device} {events : List Event}
    (kinds : ∀ event ∈ events, event.Addressed ∧ event.Unfailing) (hears : device.Hears events after) :
    Listens start taken (fun index => sent index ++ device.world.net.arrivals index events) phase after where
  tallies := listens.tallies.hears events (fun event member => (kinds event member).1) hears
  course := by
    rcases listens.course with attends | ⟨ended, heard⟩
    · exact .inl (attends.hears listens.tallies (fun event member => (kinds event member).2) hears)
    · refine .inr ⟨ended, heard.hears (fun link linked => ?_) hears⟩
      exact (listens.tallies.born link (mem_holding linked)).2

theorem reads : Listens start taken sent (advanceReader phase device).1 (advanceReader phase device).2 where
  tallies := listens.tallies.advance (advanceReader_advance _ _)
  course := by
    rcases listens.course with attends | ⟨ended, heard⟩
    · exact .inl (attends.advance listens.tallies rfl)
    · cases phase <;> first | exact .inr ⟨rfl, heard⟩ | simp [ReaderPhase.isEnded] at ended

theorem closes (started : device.reader = some phase) (ended : phase.isEnded = true) (closer : ClosingPhase) :
    Listens start taken sent phase (advanceClosing closer device).2 := by
  obtain ⟨keeps, _⟩ := advanceClosing_keeps device started closer
  refine ⟨listens.tallies.advance (advanceClosing_advance device started closer), .inr ⟨ended, fun link linked => ?_⟩⟩
  rw [(keeps.net.taken link).far, keeps.received]
  exact listens.heardOut ended link (keeps.link.symm.trans linked)

end Listens

/-- Neither the queue nor the note of where the reader stands matters. -/
theorem Listens.besides {start : Nat} {sent : Nat → Bytes} {taken now : List Bytes} {phase : ReaderPhase}
    {device : Device} {queue : List (Option Bytes)} {reader : Option ReaderPhase}
    (listens : Listens start taken sent phase device)
    (tallies : Tallies start sent now phase { device with queue, reader }) :
    Listens start now sent phase { device with queue, reader } where
  tallies := tallies
  course := by
    refine listens.course.imp (fun attends => ?_) id
    refine ⟨attends.size, attends.reads, attends.calm, attends.unfailing, attends.opened, ?_⟩
    have course := attends.course
    cases phase <;> exact course

theorem listens_serving (start : Nat) :
    Serving (fun event => event.Addressed ∧ event.Unfailing) (Listens start) where
  keeping := fun taken =>
    { hears := fun listens kinds hears => listens.hears kinds hears
      reads := fun listens => listens.reads
      aside := fun listens => listens.besides listens.tallies.aside }
  takes := fun listens next => listens.besides (listens.tallies.takes next)
  finished := by
    intro taken sent phase device rest listens next
    obtain ⟨rfl, _, _⟩ := listens.tallies.finished next
    exact listens.besides (listens.tallies.queue (next ▸ listens.tallies.order))

/-- A run in which nothing is made to fail, no read either by its size, and nobody closes the device before its
reader has ended. -/
structure Scene.Undisturbed (scene : Scene) (turns : List Turn) : Prop where
  reads : scene.device.world.net.platform.sizeFault scene.device.chunkSize = none
  unfailing : scene.device.world.net.Unfailing
  script : scene.device.world.Scripted Event.Unfailing
  events : ∀ turn ∈ turns, turn.Meets Event.Unfailing
  closes : ∀ earlier later, turns = earlier ++ .close :: later →
    (scene.afterAll earlier).device.readerEnded = true

theorem readerEnded_eq {device : Device} {phase : ReaderPhase} (reader : device.reader = some phase) :
    device.readerEnded = phase.isEnded := by
  rw [readerEnded, reader]

theorem Turn.Meets.and {turn : Turn} {first second : Event → Prop} (meets : turn.Meets first)
    (also : turn.Meets second) : turn.Meets fun event => first event ∧ second event := by
  cases turn <;> trivial

theorem listens_run {start : Nat} {taken : List Bytes} {sent : Nat → Bytes} {scene : Scene} {turns : List Turn}
    {phase : ReaderPhase} (reader : scene.device.reader = some phase)
    (listens : Listens start taken sent phase scene.device) (script : scene.device.world.Scripted Event.Addressed)
    (proper : ∀ turn ∈ turns, turn.Meets Event.Addressed) (undisturbed : scene.Undisturbed turns) :
    Standing (fun event => event.Addressed ∧ event.Unfailing)
      (Listens start (taken ++ returned (scene.trace turns)))
      (fun index => sent index ++ sentIn (scene.trace turns) index) (scene.afterAll turns).device := by
  refine (listens_serving start).run ⟨fun items found item member event comes => ?_, phase, reader, listens⟩
    (fun turn member => (proper turn member).and (undisturbed.events turn member)) ?_
  · exact ⟨script items found item member event comes, undisturbed.script items found item member event comes⟩
  · intro earlier later split taken sent phase reader listens
    have ended := undisturbed.closes earlier later split
    rw [readerEnded_eq reader] at ended
    exact listens.closes reader ended (scene.afterAll earlier).closer

end Device
end RelayBench
