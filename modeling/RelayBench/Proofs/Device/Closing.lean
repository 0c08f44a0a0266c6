import RelayBench.Proofs.Device.Stream

/-! Closing a device while its reader goes on.  A closing thread raises a flag and then looks for the link
of the device; the reader stores the link and then looks at the flag.  One of the two sees what the other
has done, and closes the link, unless the closing of the door fails between the store and the look. -/
namespace RelayBench

/-- What a call does that opens nothing. -/
structure Net.Shuts (before after : Net) : Prop where
  os : before.AllOs → after.AllOs
  doors : ∀ door, (after.door door).isOpen = true → (before.door door).isOpen = true
  links : ∀ index, (after.link index).stream.isOpen = true → (before.link index).stream.isOpen = true

/-- A call on a stream that opens nothing and brings no fault in. -/
structure Stream.Shuts (before after : Stream) : Prop where
  os : before.AllOs → after.AllOs
  isOpen : after.isOpen = true → before.isOpen = true

namespace Net

variable (net : Net)

theorem Shuts.refl : Shuts net net := ⟨id, fun _ => id, fun _ => id⟩

theorem Shuts.trans {first second third : Net} (early : Shuts first second) (late : Shuts second third) :
    Shuts first third :=
  ⟨fun os => late.os (early.os os), fun door opened => early.doors door (late.doors door opened),
    fun index opened => early.links index (late.links index opened)⟩

theorem Shuts.closed {before after : Net} (shuts : Shuts before after) {door : Nat}
    (closed : (before.door door).isOpen = false) : (after.door door).isOpen = false := by
  by_contra opened
  exact absurd (shuts.doors door (by simpa using opened)) (by simp [closed])

theorem Shuts.called (call : Call) : Shuts net (net.called call) :=
  ⟨fun os => called_allOs os call, fun _ => id, fun _ => id⟩

theorem Shuts.updateDoor (door : Nat) {change : Door → Door}
    (shuts : (change (net.door door)).isOpen = true → (net.door door).isOpen = true) :
    Shuts net (net.updateDoor door change) := by
  refine ⟨fun os => updateDoor_allOs os door change, fun other opened => ?_, fun _ => id⟩
  rw [door_updateDoor] at opened
  split at opened
  next same => exact same ▸ shuts opened
  · exact opened

theorem Shuts.updateLink (index : Nat) {change : Link → Link}
    (shuts : Stream.Shuts (net.link index).stream (change (net.link index)).stream) :
    Shuts net (net.updateLink index change) := by
  refine ⟨fun os => ⟨os.calls, fun other => ?_⟩, fun _ => id, fun other opened => ?_⟩
  · rw [link_updateLink]
    split
    · exact shuts.os (os.links index)
    · exact os.links other
  · rw [link_updateLink] at opened
    split at opened
    next same => exact same ▸ shuts.isOpen opened
    · exact opened

theorem Shuts.updateLinks (indices : List Nat) {change : Link → Link}
    (shuts : ∀ link, Stream.Shuts link.stream (change link).stream) :
    Shuts net (net.updateLinks indices change) := by
  induction indices generalizing net with
  | nil => exact .refl net
  | cons first rest ih => exact (Shuts.updateLink net first (shuts _)).trans (ih (net.updateLink first change))

theorem Shuts.shut (door : Nat) : Shuts net (net.shut door) := by
  let freed := net.updateDoor door fun d => { d with pending := [] }
  have emptied : Shuts net freed := .updateDoor net door id
  have dropped : Shuts freed (freed.updateLinks (net.door door).pending fun link =>
      { link with stream := { link.stream with isOpen := false } }) :=
    .updateLinks freed _ fun _ => ⟨fun os => ⟨os.faults, os.ends⟩, fun opened => absurd opened Bool.false_ne_true⟩
  rw [Net.shut, dropPending, foldl_updateLink]
  exact (emptied.trans dropped).trans
    (.updateDoor _ door fun opened => absurd opened Bool.false_ne_true)

/-- A door that was closed is closed, even if the call has raised a fault. -/
theorem closeDoor_shuts (door : Nat) :
    Shuts net (Action.state (closeDoor door net)) ∧
      ((Action.state (closeDoor door net)).door door).isOpen = false := by
  rw [closeDoor_eq]
  split
  next opened =>
    have shuts : Shuts net ((net.shut door).called .close) := (Shuts.shut net door).trans (.called _ .close)
    have closed : (((net.shut door).called .close).door door).isOpen = false := by
      rw [called_door, shut_door, if_pos rfl]
    split <;> exact ⟨shuts, closed⟩
  next closed => exact ⟨.refl net, by simpa using closed⟩

theorem accept_shuts (caller : Caller) (door : Nat) : Shuts net (Action.state (accept caller door net)) := by
  rcases net.accept_split caller door with ⟨fault, after, failed, rfl | rfl⟩ | ⟨first, rest, _, _, taken⟩
  · rw [failed]
    exact .refl _
  · rw [failed]
    exact .called net .accept
  · rw [taken]
    exact (Shuts.called net .accept).trans (.updateDoor _ door id)

end Net

namespace Stream

variable (stream : Stream)

theorem shutdown_shuts : Shuts stream stream.shutdown.2 := by
  have called : Shuts stream (stream.called .shutdown) := ⟨fun os => Stream.called_allOs os .shutdown, id⟩
  unfold shutdown
  split
  · exact ⟨id, id⟩
  · dsimp only
    split
    · exact called
    · split <;> exact called

theorem shutdown_error_isOs {stream : Stream} (os : stream.AllOs) {fault : Fault}
    (failed : stream.shutdown.1 = .error fault) : fault.isOs = true := by
  unfold shutdown at failed
  split at failed
  · cases failed
    rfl
  · dsimp only at failed
    split at failed
    next raised found =>
      cases failed
      exact FaultQueue.next_isOs os.faults found (by decide)
    · split at failed <;> cases failed
      rfl

theorem close_shuts : Shuts stream stream.close.2 :=
  ⟨stream.close_allOs, fun opened => absurd opened (by simp [stream.close_isOpen])⟩

end Stream

theorem Link.read_shuts (link : Link) (platform : Platform) (size : Int) :
    Stream.Shuts link.stream (link.read platform size).2.stream :=
  ⟨link.read_allOs platform size, fun opened => Link.side_isOpen (link.read_side platform size) ▸ opened⟩

namespace ReaderPhase

/-- Whether the reader has yet to close the door. -/
def isOutside : ReaderPhase → Bool
  | .testing | .accepting | .awaiting | .storing _ | .leaving _ _ => true
  | _ => false

/-- Whether the reader has closed the door and need not look at the flag any more. -/
def isInside : ReaderPhase → Bool
  | .announcing | .reading | .stalled | .handing _ | .ending _ | .ended _ => true
  | _ => false

/-- Whether the reader, when it sees the flag, is still to close the link that it has stored. -/
def turnsBack : ReaderPhase → Bool
  | .leaving true none | .rechecking | .discarding => true
  | _ => false

end ReaderPhase

/-- Whether a closing thread is done with the link, or has found none. -/
def ClosingPhase.hasLooked : ClosingPhase → Bool
  | .joining | .ended _ => true
  | _ => false

def ClosingPhase.isOver : ClosingPhase → Bool
  | .ended _ => true
  | _ => false

namespace Device

/-- What an action does that opens nothing, and that leaves alone what reader and closing thread know of
each other. -/
structure Lasting (before after : Device) : Prop where
  link : after.link = before.link
  closing : after.closing = before.closing
  closed : after.closed = before.closed
  net : Net.Shuts before.world.net after.world.net

namespace Lasting

variable (device : Device)

theorem refl : Lasting device device := ⟨rfl, rfl, rfl, .refl _⟩

theorem inNet {net : Net} (shuts : Net.Shuts device.world.net net) : Lasting device (device.inNet net) :=
  ⟨rfl, rfl, rfl, shuts⟩

theorem aside {before after : Device} (lasting : Lasting before after) (reader : Option ReaderPhase) :
    Lasting before { after with reader } :=
  ⟨lasting.link, lasting.closing, lasting.closed, lasting.net⟩

theorem note {before after : Device} (lasting : Lasting before after) (entry : Entry) :
    Lasting before (after.note entry) :=
  ⟨lasting.link, lasting.closing, lasting.closed, by
    rw [note_net]
    exact lasting.net⟩

theorem noteUnlessClosing {before after : Device} (lasting : Lasting before after) (entry : Entry) :
    Lasting before (after.noteUnlessClosing entry) := by
  unfold Device.noteUnlessClosing
  split
  · exact lasting
  · exact lasting.note entry

end Lasting

/-- One action of the reader, as far as door and link are concerned. -/
inductive Stride (device : Device) : ReaderPhase → ReaderPhase → Device → Prop
  | seeks {phase next : ReaderPhase} {after : Device} (free : phase.caught = [])
      (search : phase.isSearching = true) (outside : next.isOutside = true) (returns : next.turnsBack = false)
      (door : after.door = device.door) (lasting : Lasting device after) : Stride device phase next after
  | stores {link : Nat} : Stride device (.storing link) (.leaving true none) (device.store link)
  | leaves {found : Bool} {fault : Option Fault} {next : ReaderPhase} {after : Device}
      (shut : ∀ door, device.door = some door → (after.world.net.door door).isOpen = false)
      (course : next = afterLeaving found fault ∨ ∃ door raised net, device.door = some door ∧
        Net.closeDoor door device.world.net = .error raised net ∧ next = .ending (some raised))
      (lasting : Lasting device after) : Stride device (.leaving found fault) next after
  | looks {next : ReaderPhase} (course : next = if device.closing then .discarding else .announcing) :
      Stride device .rechecking next device
  | discards {fault : Option Fault} {after : Device}
      (shut : ∀ link, device.link = some link → (after.world.net.link link).stream.isOpen = false)
      (lasting : Lasting device after) : Stride device .discarding (.ending fault) after
  | serves {phase next : ReaderPhase} {after : Device} (inside : phase.isInside = true)
      (stays : next.isInside = true) (lasting : Lasting device after) : Stride device phase next after

section

variable (device : Device)

theorem answer_stride {phase : ReaderPhase} (free : phase.caught = []) (search : phase.isSearching = true) :
    Stride device phase (answer device).1 (answer device).2 := by
  unfold answer
  split
  next => exact .seeks free search rfl rfl rfl (.refl device)
  next door known =>
    have shuts := device.world.net.accept_shuts .background door
    cases ran : Net.accept .background door device.world.net with
    | ok link net =>
      rw [ran, Action.state_ok] at shuts
      rw [liftNet_ok ran]
      exact .seeks free search rfl rfl rfl (.inNet device shuts)
    | error fault net =>
      rw [ran, Action.state_error] at shuts
      have lasting := Lasting.inNet device shuts
      rw [liftNet_error ran]
      dsimp only
      split
      · exact .seeks free search rfl rfl rfl lasting
      · split
        · refine .seeks free search rfl rfl ?_ (lasting.noteUnlessClosing _)
          unfold noteUnlessClosing
          split <;> rfl
        · exact .seeks free search rfl rfl rfl lasting

theorem leave_stride (found : Bool) (fault : Option Fault) :
    Stride device (.leaving found fault) (leave device found fault).1 (leave device found fault).2 := by
  rw [leave_eq]
  cases known : device.door with
  | none => exact .leaves (by simp [known]) (.inl rfl) (.refl device)
  | some door =>
    obtain ⟨shuts, closed⟩ := device.world.net.closeDoor_shuts door
    have shut {after : Device} (same : (after.world.net.door door).isOpen = false) :
        ∀ other, device.door = some other → (after.world.net.door other).isOpen = false := by
      intro other also
      obtain rfl : door = other := Option.some.inj (known.symm.trans also)
      exact same
    cases ran : Net.closeDoor door device.world.net with
    | ok done net =>
      rw [ran, Action.state_ok] at shuts closed
      simp only [liftNet_ok ran]
      exact .leaves (shut closed) (.inl rfl) ⟨rfl, rfl, rfl, shuts⟩
    | error raised net =>
      rw [ran, Action.state_error] at shuts closed
      simp only [liftNet_error ran]
      exact .leaves (shut closed) (.inr ⟨door, raised, net, known, ran, rfl⟩)
        ⟨rfl, rfl, rfl, shuts⟩

theorem calls_shuts (device : Device) (link : Nat) {call : Stream → Except Fault Unit × Stream}
    (shuts : ∀ stream, Stream.Shuts stream (call stream).2) :
    Net.Shuts device.world.net (device.calls link call).world.net :=
  .updateLink device.world.net link (shuts (device.world.net.link link).stream)

theorem calls_close_shut {device : Device} {link other : Nat} (held : device.link = some link)
    (linked : device.link = some other) :
    ((device.calls link Stream.close).world.net.link other).stream.isOpen = false := by
  obtain rfl : link = other := Option.some.inj (held.symm.trans linked)
  simp [calls, inNet, Net.link_updateLink, Stream.close_isOpen]

theorem advanceClosing_shuts (closer : ClosingPhase) :
    Net.Shuts device.world.net (advanceClosing closer device).2.world.net := by
  have retreat := device.advanceClosing_retreat closer
  generalize advanceClosing closer device = ran at retreat ⊢
  cases retreat with
  | shut link | refused link => exact device.calls_shuts link Stream.shutdown_shuts
  | closes link | fails link => exact device.calls_shuts link Stream.close_shuts
  | unread | joined =>
    rw [note_net]
    exact .refl _
  | marked | signalled | closed | found | alone | waits | past => exact .refl _

theorem advanceClosing_door (closer : ClosingPhase) : (advanceClosing closer device).2.door = device.door := by
  have retreat := device.advanceClosing_retreat closer
  generalize advanceClosing closer device = ran at retreat ⊢
  cases retreat <;> rfl

theorem discard_stride : Stride device .discarding (discard device).1 (discard device).2 := by
  obtain ⟨unlinked, left⟩ | ⟨link, fault, linked, left⟩ := device.discard_cases <;> rw [left]
  · exact .discards (by simp [unlinked]) (.refl device)
  · exact .discards (fun _ also => calls_close_shut linked also)
      (.inNet device (device.calls_shuts link Stream.close_shuts))

theorem announce_stride : Stride device .announcing (announce device).1 (announce device).2 := by
  have lasting : Lasting device { device with announced := true } := ⟨rfl, rfl, rfl, .refl _⟩
  unfold announce
  dsimp only
  split
  · exact .serves rfl rfl (lasting.note _)
  · exact .serves rfl rfl lasting

theorem readChunk_stride {phase : ReaderPhase} (inside : phase.isInside = true) :
    Stride device phase (readChunk device).1 (readChunk device).2 := by
  unfold readChunk
  split
  next => exact .serves inside rfl (.refl device)
  next link linked =>
    have shuts : Net.Shuts device.world.net
        (device.world.net.updateLink link fun link => (link.read device.world.net.platform device.chunkSize).2) :=
      .updateLink device.world.net link (Link.read_shuts ..)
    have lasting := Lasting.inNet device shuts
    rw [liftNet_ok (Net.readLink_apply link device.chunkSize device.world.net)]
    rcases ((device.world.net.link link).read device.world.net.platform device.chunkSize).1 with
      (_ | ⟨first, rest⟩) | fault | _
    · exact .serves inside rfl (lasting.noteUnlessClosing _)
    · exact .serves inside rfl (lasting.note _)
    · dsimp only
      split
      · exact .serves inside rfl (lasting.noteUnlessClosing _)
      · exact .serves inside rfl lasting
    · exact .serves inside rfl lasting

theorem advanceReader_stride (phase : ReaderPhase) :
    Stride device phase (advanceReader phase device).1 (advanceReader phase device).2 := by
  cases phase with
  | testing =>
    refine .seeks rfl rfl ?_ ?_ rfl (.refl device) <;>
    · rw [advanceReader]
      split <;> rfl
  | accepting =>
    rw [advanceReader]
    split
    · split
      · exact answer_stride device rfl rfl
      · exact .seeks rfl rfl rfl rfl rfl (.refl device)
    · exact answer_stride device rfl rfl
  | awaiting => exact answer_stride device rfl rfl
  | storing link => exact .stores
  | leaving found fault => exact leave_stride device found fault
  | rechecking => exact .looks rfl
  | discarding => exact discard_stride device
  | announcing => exact announce_stride device
  | reading => exact readChunk_stride device rfl
  | stalled => exact readChunk_stride device rfl
  | handing chunk => exact .serves rfl rfl ⟨rfl, rfl, rfl, .refl _⟩
  | ending fault => exact .serves rfl rfl ⟨rfl, rfl, rfl, .refl _⟩
  | ended fault => exact .serves rfl rfl (.refl device)

end

/-- An open link of the device is one that the reader is still to close, unless that was lost. -/
def Closes (lost : Prop) (phase : ReaderPhase) (device : Device) : Prop :=
  ∀ link, device.link = some link → (device.world.net.link link).stream.isOpen = true →
    phase.turnsBack = true ∨ lost

/-- A frame in which the reader, which has stored its link, fails to close its door, when the closing
thread has raised the flag and found no link to close. -/
structure Frame.Slips (frame : Frame) : Prop where
  turn : frame.turn = .read
  left : frame.before.device.reader = some (.leaving true none)
  flagged : frame.before.device.closing = true
  looked : frame.before.closer.hasLooked = true
  failed : ∃ door fault net, frame.before.device.door = some door ∧
    Net.closeDoor door frame.before.device.world.net = .error fault net

/-- No frame slips in which no failure of a close is in store for the listening side. -/
theorem Frame.not_slips {frame : Frame}
    (quiet : FaultQueue.next frame.before.device.world.net.faults .close = none) : ¬ frame.Slips := by
  intro slips
  obtain ⟨door, fault, net, _, failed⟩ := slips.failed
  obtain ⟨after, closed⟩ := Net.closeDoor_ok quiet door
  rw [closed] at failed
  cases failed

/-- What the closing thread has done and knows, wherever it stands. -/
def Asked (lost : Prop) (phase : ReaderPhase) (device : Device) : ClosingPhase → Prop
  | .marking => device.closed = false
  | .signalling => True
  | .looking => device.closing = true
  | .shutting link => device.closing = true ∧ device.link = some link
  | .closing link => device.closing = true ∧ device.link = some link
  | .joining => device.closing = true ∧ Closes lost phase device
  | .ended _ => device.closing = true ∧ Closes lost phase device

/-- Reader and closing thread between any two actions, for a door that the device was given. -/
structure Handshake (door : Nat) (lost : Prop) (phase : ReaderPhase) (scene : Scene) : Prop where
  reader : scene.device.reader = some phase
  os : scene.device.world.net.AllOs
  script : scene.device.world.script = none
  outside : phase.isOutside = true → scene.device.door = some door
  shut : phase.isOutside = false → (scene.device.world.net.door door).isOpen = false
  asked : Asked lost phase scene.device scene.closer

section

variable {lost later : Prop} {phase next : ReaderPhase} {device after : Device}

/-- What the closing thread knows lasts as long as link and flags do. -/
theorem Asked.kept {closer : ClosingPhase} (asked : Asked lost phase device closer)
    (link : after.link = device.link) (closing : after.closing = device.closing)
    (closed : after.closed = device.closed)
    (closes : closer.hasLooked = true → device.closing = true → Closes lost phase device →
      Closes later next after) : Asked later next after closer := by
  cases closer with
  | marking => exact closed.trans asked
  | signalling => trivial
  | looking => exact closing.trans asked
  | shutting other => exact ⟨closing.trans asked.1, link.trans asked.2⟩
  | closing other => exact ⟨closing.trans asked.1, link.trans asked.2⟩
  | joining => exact ⟨closing.trans asked.1, closes rfl asked.1 asked.2⟩
  | ended fault => exact ⟨closing.trans asked.1, closes rfl asked.1 asked.2⟩

/-- A closing thread that has looked before the link is stored leaves it to the reader. -/
theorem Asked.stored {closer : ClosingPhase} {link : Nat} {reader : Option ReaderPhase}
    (asked : Asked lost phase device closer) (unlinked : device.link = none) :
    Asked later (.leaving true none) { device.store link with reader } closer := by
  cases closer with
  | marking => exact asked
  | signalling => trivial
  | looking => exact asked
  | shutting other => exact absurd (unlinked.symm.trans asked.2) nofun
  | closing other => exact absurd (unlinked.symm.trans asked.2) nofun
  | joining => exact ⟨asked.1, fun _ _ _ => .inl rfl⟩
  | ended fault => exact ⟨asked.1, fun _ _ _ => .inl rfl⟩

theorem Closes.lasting (closes : Closes lost phase device) (lasting : Lasting device after)
    (stays : phase.turnsBack = true → next.turnsBack = true ∨ later) (more : lost → later) :
    Closes later next after := by
  intro link linked opened
  rcases closes link (lasting.link ▸ linked) (lasting.net.links link opened) with turns | gone
  · exact stays turns
  · exact .inr (more gone)

/-- Where the reader does not turn back any more, the link is closed. -/
theorem Closes.shut (closes : Closes lost phase device) (settled : phase.turnsBack = false) (kept : ¬ lost) {link : Nat}
    (linked : device.link = some link) : (device.world.net.link link).stream.isOpen = false := by
  by_contra unshut
  rcases closes link linked (by simpa using unshut) with returns | gone
  · simp [settled] at returns
  · exact kept gone

/-- A closing action that does not fail at a shutdown leaves the closing thread to know what it should. -/
theorem Asked.closes {closer : ClosingPhase} (asked : Asked lost phase device closer)
    (reader : device.reader = some phase) :
    Asked lost phase (advanceClosing closer device).2 (advanceClosing closer device).1 ∨
      ∃ link fault, fault.isOs = false ∧ (device.world.net.link link).stream.shutdown.1 = .error fault ∧
        (advanceClosing closer device).1 = .ended (some fault) := by
  have retreat := device.advanceClosing_retreat closer
  generalize advanceClosing closer device = ran at retreat ⊢
  have shut (link : Nat) (held : device.link = some link) : Closes lost phase (device.calls link Stream.close) := by
    intro other linked opened
    exact absurd opened (by simp [calls_close_shut held linked])
  cases retreat with
  | closed closed => simp [Asked, closed] at asked
  | marked => exact .inl trivial
  | signalled => exact .inl rfl
  | found linked => exact .inl ⟨asked, linked⟩
  | alone unlinked =>
    refine .inl ⟨asked, fun link linked => ?_⟩
    simp [unlinked] at linked
  | shut link => exact .inl asked
  | refused link foreign failed => exact .inr ⟨link, _, foreign, failed, rfl⟩
  | closes link => exact .inl ⟨asked.1, shut link asked.2⟩
  | fails link => exact .inl ⟨asked.1, shut link asked.2⟩
  | unread none => simp [reader] at none
  | joined =>
    have lasting := (Lasting.refl device).note (.device Logger.device "Closed" device.addressText)
    exact .inl ⟨lasting.closing.trans asked.1, asked.2.lasting lasting .inl id⟩
  | waits => exact .inl asked
  | past fault => exact .inl asked

end

theorem store_shuts (device : Device) (link : Nat) :
    Net.Shuts device.world.net (device.store link).world.net :=
  .updateLink device.world.net link ⟨fun os => ⟨os.faults, os.ends⟩, id⟩

section

variable {lost later : Prop} {phase : ReaderPhase} {device : Device} {closer : ClosingPhase}
  (asked : Asked lost phase device closer)
include asked

/-- An action of the reader leaves the closing thread to know what it should, unless the door fails to close
when the link is stored already and the closing thread has found none. -/
theorem Asked.reads (search : phase.isSearching = true → device.link = none) (more : lost → later)
    (slips : phase = .leaving true none → device.closing = true → closer.hasLooked = true →
      ∀ door fault net, device.door = some door → Net.closeDoor door device.world.net = .error fault net → later)
    (reader : Option ReaderPhase) :
    Asked later (advanceReader phase device).1 { (advanceReader phase device).2 with reader } closer := by
  have stride := advanceReader_stride device phase
  generalize (advanceReader phase device).1 = next, (advanceReader phase device).2 = after at stride ⊢
  cases stride with
  | seeks free searching outside returns same lasting =>
    have stays : phase.turnsBack = true → next.turnsBack = true ∨ later := by
      cases phase <;> simp [ReaderPhase.turnsBack, ReaderPhase.isSearching] at searching ⊢
    refine asked.kept lasting.link lasting.closing lasting.closed fun _ _ closes => ?_
    exact closes.lasting (lasting.aside _) stays more
  | stores => exact asked.stored (search rfl)
  | @leaves found fault _ _ shut course lasting =>
    refine asked.kept lasting.link lasting.closing lasting.closed fun looked flagged closes => ?_
    refine closes.lasting (lasting.aside _) (fun turns => ?_) more
    have came : found = true ∧ fault = none := by
      cases found <;> cases fault <;> simp [ReaderPhase.turnsBack] at turns ⊢
    obtain ⟨rfl, rfl⟩ := came
    rcases course with rfl | ⟨own, raised, net, known, failed, rfl⟩
    · exact .inl rfl
    · exact .inr (slips rfl flagged looked own raised net known failed)
  | looks course =>
    refine asked.kept rfl rfl rfl fun _ flagged closes => ?_
    have turns : next.turnsBack = true := by
      rw [course, if_pos flagged]
      rfl
    exact closes.lasting ((Lasting.refl _).aside _) (fun _ => .inl turns) more
  | discards shut lasting =>
    refine asked.kept lasting.link lasting.closing lasting.closed fun _ _ _ link linked opened => ?_
    exact absurd opened (by simp [shut link (lasting.link.symm.trans linked)])
  | serves inside stays lasting =>
    have settled : phase.turnsBack = false := by
      cases phase <;> simp [ReaderPhase.isInside, ReaderPhase.turnsBack] at inside ⊢
    refine asked.kept lasting.link lasting.closing lasting.closed fun _ _ closes => ?_
    exact closes.lasting (lasting.aside _) (fun turns => absurd turns (by simp [settled])) more

theorem Asked.hears {events : List Event} {after : Device} (hears : device.Hears events after)
    (known : ∀ link, device.link = some link → link < device.world.net.linkCount) :
    Asked lost phase after closer := by
  refine asked.kept hears.link hears.closing (by rw [hears.rest]) fun _ _ closes link linked opened => ?_
  have linked := hears.link.symm.trans linked
  have side := Link.side_isOpen (hears.grown.side link (known link linked))
  exact closes link linked (side ▸ opened)

end

theorem frame_read {scene : Scene} {phase : ReaderPhase} (reader : scene.device.reader = some phase) :
    (scene.frame .read).after = { scene with
      device := { (advanceReader phase scene.device).2 with
        reader := some (advanceReader phase scene.device).1 } } := by
  show { scene with device := scene.device.readOnce } = _
  rw [readOnce_eq reader]

theorem frame_closer (scene : Scene) {turn : Turn} (other : turn ≠ .close) :
    (scene.frame turn).after.closer = scene.closer := by
  cases turn with
  | event event =>
    simp only [Scene.frame, Scene.perform, Scene.onDevice, Action.bind_apply, Action.onPart_apply,
      Action.liftBenchDevice_apply]
    cases World.happen event scene.device.world <;> rfl
  | read => rfl
  | receive timeout =>
    simp only [Scene.frame, Scene.perform, Scene.onDevice, Action.bind_apply, Action.onPart_apply]
    cases receive timeout scene.device <;> rfl
  | close => exact absurd rfl other

/-- When nothing is scripted, a call comes back with the queue changed at most. -/
theorem receive_state {device : Device} (script : device.world.script = none) (timeout : Option Number) :
    ∃ queue, Action.state (receive timeout device) = { device with queue } := by
  have waited : device.waited timeout = device := by
    rw [Device.waited, await_eq, script]
    split
    · rfl
    · simp only [Option.getD_none, List.length_nil, awaitItems, Action.bind_apply, Action.get_apply]
      split
      · rfl
      · split <;> rfl
  have course := receive_received timeout device
  rw [waited] at course
  generalize receive timeout device = ran at course
  cases course with
  | chunk queue => exact ⟨_, rfl⟩
  | finished queue => exact ⟨_, rfl⟩
  | failed other => exact ⟨device.queue, rfl⟩

namespace Handshake

variable {door : Nat} {lost : Prop} {phase : ReaderPhase} {scene : Scene}
  (handshake : Handshake door lost phase scene)
include handshake

theorem reads (search : phase.isSearching = true → scene.device.link = none) :
    Handshake door (lost ∨ (scene.frame .read).Slips) (advanceReader phase scene.device).1
      (scene.frame .read).after := by
  have stride := advanceReader_stride scene.device phase
  have script := (advanceReader_advance scene.device phase).aside.2.1.trans handshake.script
  have asked := handshake.asked.reads search (.inl : lost → lost ∨ (scene.frame .read).Slips)
    (fun leaving flagged looked own raised net known failed =>
      .inr ⟨rfl, leaving ▸ handshake.reader, flagged, looked, own, raised, net, known, failed⟩)
    (some (advanceReader phase scene.device).1)
  rw [frame_read handshake.reader]
  generalize (advanceReader phase scene.device).1 = next, (advanceReader phase scene.device).2 = device
    at stride script asked
  cases stride with
  | seeks free searching outside returns same lasting =>
    have out : phase.isOutside = true := by
      cases phase <;> first | rfl | simp [ReaderPhase.isSearching] at searching
    exact ⟨rfl, lasting.net.os handshake.os, script, fun _ => same.trans (handshake.outside out),
      fun inside => absurd inside (by simp [outside]), asked⟩
  | @stores link =>
    exact ⟨rfl, (store_shuts scene.device link).os handshake.os, script, fun _ => handshake.outside rfl, nofun, asked⟩
  | @leaves found fault _ _ shut course lasting =>
    have outside : next.isOutside = false := by
      rcases course with rfl | ⟨_, _, _, _, _, rfl⟩
      · cases fault <;> cases found <;> rfl
      · rfl
    exact ⟨rfl, lasting.net.os handshake.os, script, fun out => absurd out (by simp [outside]),
      fun _ => shut door (handshake.outside rfl), asked⟩
  | looks course =>
    have inside : next.isOutside = false := by
      rw [course]
      split <;> rfl
    exact ⟨rfl, handshake.os, script, fun out => absurd out (by simp [inside]), fun _ => handshake.shut rfl, asked⟩
  | discards shut lasting =>
    exact ⟨rfl, lasting.net.os handshake.os, script, nofun, fun _ => lasting.net.closed (handshake.shut rfl), asked⟩
  | serves inside stays lasting =>
    have settled (phase : ReaderPhase) (inside : phase.isInside = true) : phase.isOutside = false := by
      cases phase <;> simp [ReaderPhase.isInside, ReaderPhase.isOutside] at inside ⊢
    exact ⟨rfl, lasting.net.os handshake.os, script, fun out => absurd out (by simp [settled next stays]),
      fun _ => lasting.net.closed (handshake.shut (settled phase inside)), asked⟩

theorem closes : Handshake door lost phase (scene.frame .close).after := by
  have shuts := scene.device.advanceClosing_shuts scene.closer
  have keeps := (advanceClosing_keeps scene.device handshake.reader scene.closer).1
  have asked : Asked lost phase (scene.frame .close).after.device (scene.frame .close).after.closer := by
    rcases handshake.asked.closes handshake.reader with asked | ⟨link, fault, foreign, failed, _⟩
    · exact asked
    · have system := Stream.shutdown_error_isOs (handshake.os.links link) failed
      simp [foreign] at system
  exact ⟨keeps.reader.trans handshake.reader, shuts.os handshake.os, keeps.script.trans handshake.script,
    fun out => (scene.device.advanceClosing_door scene.closer).trans (handshake.outside out),
    fun inside => shuts.closed (handshake.shut inside), asked⟩

theorem hears {event : Event} (system : event.AllOs)
    (known : ∀ link, scene.device.link = some link → link < scene.device.world.net.linkCount) :
    Handshake door lost phase (scene.frame (.event event)).after := by
  obtain ⟨_, _, hears, script⟩ := scene.frame_event event
  have same : (scene.frame (.event event)).after.closer = scene.closer := frame_closer scene nofun
  have net : (scene.frame (.event event)).after.device.world.net = (scene.device.world.net.apply event).2 := hears.net
  have grown := hears.grown
  refine ⟨hears.reader.trans handshake.reader, ?_, script.trans handshake.script,
    fun out => hears.door.trans (handshake.outside out), fun inside => ?_, ?_⟩
  · rw [net]
    exact Net.apply_allOs _ handshake.os system
  · obtain ⟨added, waits, _⟩ := grown.waits door
    rw [waits]
    exact handshake.shut inside
  · rw [same]
    exact handshake.asked.hears hears known

theorem takes (timeout : Option Number) : Handshake door lost phase (scene.frame (.receive timeout)).after := by
  obtain ⟨queue, state⟩ := receive_state handshake.script timeout
  have same : (scene.frame (.receive timeout)).after.closer = scene.closer := frame_closer scene nofun
  have after : (scene.frame (.receive timeout)).after = { scene with device := { scene.device with queue } } := by
    have device := (scene.frame_receive timeout).2.trans state
    rw [← same, ← device]
  have lasting : Lasting scene.device { scene.device with queue } := ⟨rfl, rfl, rfl, .refl _⟩
  rw [after]
  exact ⟨handshake.reader, handshake.os, handshake.script, handshake.outside, handshake.shut,
    handshake.asked.kept rfl rfl rfl fun _ _ closes => closes.lasting lasting .inl id⟩

theorem mono {later : Prop} (more : lost → later) : Handshake door later phase scene :=
  ⟨handshake.reader, handshake.os, handshake.script, handshake.outside, handshake.shut,
    handshake.asked.kept rfl rfl rfl fun _ _ closes => closes.lasting (.refl _) .inl more⟩

end Handshake

/-- The link that an action of the reader has accepted. -/
def Frame.accepted (frame : Frame) : List Nat :=
  match frame.turn, frame.after.device.reader with
  | .read, some phase => phase.caught
  | _, _ => []

/-- What the reader accepts it holds until it stores it. -/
theorem accepted_read {scene : Scene} {phase : ReaderPhase} (reader : scene.device.reader = some phase)
    (search : phase.isSearching = true → scene.device.link = none) :
    scene.device.link.toList ++ phase.caught ++ (scene.frame .read).accepted =
      (advanceReader phase scene.device).2.link.toList ++ (advanceReader phase scene.device).1.caught := by
  have stride := advanceReader_stride scene.device phase
  have accepted : (scene.frame .read).accepted = (advanceReader phase scene.device).1.caught := by
    have after := frame_read reader
    have turn : (scene.frame .read).turn = .read := rfl
    rw [Frame.accepted, turn, after]
  rw [accepted]
  generalize (advanceReader phase scene.device).1 = next, (advanceReader phase scene.device).2 = device at stride
  cases stride with
  | seeks free _ _ _ _ lasting => rw [free, lasting.link, List.append_nil]
  | stores =>
    rw [search rfl]
    rfl
  | @leaves found fault _ _ _ course lasting =>
    have caught : next.caught = [] := by
      rcases course with rfl | ⟨_, _, _, _, _, rfl⟩
      · cases fault <;> cases found <;> rfl
      · rfl
    rw [caught, lasting.link, List.append_nil, List.append_nil]
    exact List.append_nil _
  | looks course =>
    rw [course]
    split <;> simp [ReaderPhase.caught]
  | discards _ lasting => simp only [lasting.link, ReaderPhase.caught, List.append_nil]
  | serves inside stays lasting =>
    have caught (phase : ReaderPhase) (inside : phase.isInside = true) : phase.caught = [] := by
      cases phase <;> first | rfl | simp [ReaderPhase.isInside] at inside
    rw [caught phase inside, caught next stays, lasting.link, List.append_nil]

section

variable {start door : Nat} {sent : Nat → Bytes} {taken : List Bytes} {lost : Prop} {phase : ReaderPhase}
  {scene : Scene}

theorem handshake_frame (stands : Standing Event.Addressed (Tallies start · taken) sent scene.device)
    (handshake : Handshake door lost phase scene) {turn : Turn} (system : turn.Meets Event.AllOs) :
    ∃ next, Handshake door (lost ∨ (scene.frame turn).Slips) next (scene.frame turn).after ∧
      scene.device.link.toList ++ phase.caught ++ (scene.frame turn).accepted =
        (scene.frame turn).after.device.link.toList ++ next.caught := by
  obtain ⟨_, same, reader, tallies⟩ := stands
  obtain rfl : phase = same := Option.some.inj (handshake.reader.symm.trans reader)
  cases turn with
  | event event =>
    have hears := (scene.frame_event event).2.2.1
    refine ⟨phase, (handshake.hears system fun link linked => (tallies.born link (mem_holding linked)).2).mono .inl, ?_⟩
    rw [hears.link]
    exact List.append_nil _
  | read =>
    refine ⟨_, handshake.reads tallies.search, ?_⟩
    rw [accepted_read reader tallies.search, frame_read reader]
  | receive timeout =>
    obtain ⟨queue, state⟩ := receive_state handshake.script timeout
    refine ⟨phase, (handshake.takes timeout).mono .inl, ?_⟩
    rw [(scene.frame_receive timeout).2, state]
    exact List.append_nil _
  | close =>
    have keeps := (advanceClosing_keeps scene.device reader scene.closer).1
    refine ⟨phase, handshake.closes.mono .inl, ?_⟩
    have link : (scene.frame .close).after.device.link = scene.device.link := keeps.link
    rw [link]
    exact List.append_nil _

/-- Reader and closing thread keep to their handshake through every run, unless a door that fails to close
breaks it. -/
theorem handshake_run {turns : List Turn}
    (stands : Standing Event.Addressed (Tallies start · taken) sent scene.device)
    (handshake : Handshake door lost phase scene) (system : ∀ turn ∈ turns, turn.Meets Event.AllOs)
    (proper : ∀ turn ∈ turns, turn.Meets Event.Addressed) :
    ∃ last, Handshake door (lost ∨ ∃ frame ∈ scene.trace turns, frame.Slips) last (scene.afterAll turns) ∧
      scene.device.link.toList ++ phase.caught ++ (scene.trace turns).flatMap Frame.accepted =
        (scene.afterAll turns).device.link.toList ++ last.caught := by
  induction turns generalizing scene sent taken lost phase with
  | nil => exact ⟨phase, handshake.mono .inl, List.append_nil _⟩
  | cons turn rest ih =>
    obtain ⟨here, others⟩ := List.forall_mem_cons.mp system
    obtain ⟨named, more⟩ := List.forall_mem_cons.mp proper
    obtain ⟨next, still, first⟩ := handshake_frame stands handshake here
    have onward := (tallies_serving start).frame stands named fun _ _ reader tallies =>
      tallies.advance (advanceClosing_advance _ reader scene.closer)
    obtain ⟨last, final, account⟩ := ih onward still others more
    refine ⟨last, final.mono ?_, ?_⟩
    · rintro ((lost | slips) | ⟨frame, member, slips⟩)
      · exact .inl lost
      · exact .inr ⟨_, List.mem_cons_self .., slips⟩
      · exact .inr ⟨frame, List.mem_cons_of_mem _ member, slips⟩
    · rw [Scene.trace, List.flatMap_cons, ← List.append_assoc, first]
      exact account

end

/-- A device that was launched stands at its open door, and nobody has begun to close it. -/
theorem launch_handshake {settings : DeviceSettings} {world : World} {device : Device} (os : world.net.AllOs)
    (script : world.script = none) (launched : launch (ofSettings settings world) = .ok () device) :
    ∃ door, device.door = some door ∧ device.link = none ∧ Handshake door False .testing { device } := by
  obtain ⟨_, door, net, entry, opened, _, rfl⟩ := launch_split launched
  obtain ⟨links, _, _, stores⟩ := Net.openDoor_success _ opened
  refine ⟨door, rfl, rfl, rfl, ?_, (note_script _ _).trans script, fun _ => rfl, nofun, rfl⟩
  show (((ofSettings settings world).behind door net).note entry).world.net.AllOs
  rw [note_net]
  refine ⟨stores (show FaultQueue.Stores FaultQueue.IsOs _ from os.calls), fun index => ?_⟩
  have same : net.link index = world.net.link index := congrArg (Table.get · index) links
  show (net.link index).stream.AllOs
  rw [same]
  exact os.links index

/-- A call without a limit comes back at once when anything is queued. -/
theorem receive_queued {device : Device} {item : Option Bytes} {rest : List (Option Bytes)}
    (queue : device.queue = item :: rest) :
    receive none device = match item with
      | some chunk => .ok chunk { device with queue := rest }
      | none => .error device.streamEnded { device with queue := rest ++ [none] } := by
  have waited : await hasItem none device = .ok true device := await_there (by simp [hasItem, queue])
  cases item <;> simp [receive, waited, queue]

/-- A device whose reader has ended: of all that was left in the queue then, what was not taken is still
there, with the mark of the end behind it. -/
structure Spent (all taken : List Bytes) (phase : ReaderPhase) (device : Device) : Prop where
  ended : phase.isEnded = true
  order : ∃ rest, device.queue = rest.map some ++ [none] ∧ taken ++ rest = all
  named : device.peer.length ≠ 1

section

variable {all : List Bytes}

theorem spent_serving (all : List Bytes) : Serving (fun _ => True) fun taken _ => Spent all taken where
  keeping := fun taken =>
    { hears := fun spent _ hears => ⟨spent.ended, hears.queue ▸ spent.order, hears.peer ▸ spent.named⟩
      reads := by
        intro _ phase device spent
        have ended := spent.ended
        cases phase <;> first | exact spent | simp [ReaderPhase.isEnded] at ended
      aside := fun spent => ⟨spent.ended, spent.order, spent.named⟩ }
  takes := by
    intro taken _ phase device chunk queue spent next
    obtain ⟨rest, order, all⟩ := spent.order
    rw [next] at order
    cases rest with
    | nil => simp at order
    | cons first rest =>
      simp only [List.map_cons, List.cons_append, List.cons.injEq, Option.some.injEq] at order
      obtain ⟨rfl, rfl⟩ := order
      exact ⟨spent.ended, ⟨rest, rfl, by rw [← all, List.append_assoc]; rfl⟩, spent.named⟩
  finished := by
    intro taken _ phase device queue spent next
    obtain ⟨rest, order, all⟩ := spent.order
    rw [next] at order
    cases rest with
    | nil =>
      simp only [List.map_nil, List.nil_append, List.cons.injEq, true_and] at order
      exact ⟨spent.ended, ⟨[], by rw [order]; rfl, all⟩, spent.named⟩
    | cons first rest => simp at order

theorem Spent.closes {taken : List Bytes} {phase : ReaderPhase} {device : Device} (spent : Spent all taken phase device)
    (started : device.reader = some phase) (closer : ClosingPhase) :
    Spent all taken phase (advanceClosing closer device).2 := by
  obtain ⟨keeps, _⟩ := advanceClosing_keeps device started closer
  exact ⟨spent.ended, keeps.queue ▸ spent.order, keeps.peer ▸ spent.named⟩

/-- Once the reader has ended, every call without a limit is given the next chunk or told of the end. -/
theorem spent_trace {sent : Nat → Bytes} {taken : List Bytes} {scene : Scene}
    (stands : Standing (fun _ => True) (fun _ => Spent all taken) sent scene.device) (turns : List Turn) :
    ∀ frame ∈ scene.trace turns, frame.turn = .receive none →
      frame.isOver = true ∨ ∃ chunk, frame.taken = [chunk] := by
  induction turns generalizing scene sent taken with
  | nil => exact List.forall_mem_nil _
  | cons turn rest ih =>
    have next := (spent_serving all).frame stands turn.meets_any fun _ phase reader spent =>
      spent.closes reader scene.closer
    refine List.forall_mem_cons.mpr ⟨fun wants => ?_, ih next⟩
    obtain ⟨_, _, _, spent⟩ := stands
    obtain rfl : turn = .receive none := wants
    obtain ⟨left, order, _⟩ := spent.order
    rw [Frame.isOver, Frame.taken, (scene.frame_receive none).1]
    cases left with
    | nil =>
      rw [receive_queued (show scene.device.queue = none :: [] from order)]
      exact .inl (by simp [Except.map, streamEnded_kind spent.named])
    | cons chunk left =>
      rw [receive_queued (show scene.device.queue = some chunk :: (left.map some ++ [none]) from order)]
      exact .inr ⟨chunk, rfl⟩

end

/-- Closing a device at any moment, whose door does not fail to close, at least not once the closing thread has
looked for a link and found none.  When reader and closing thread have both ended, the door of the device is
closed.  At most one link was ever accepted, which is the one that the device knows, and it is closed.  The mark
of the end is behind all chunks that are queued, and later calls without a limit are given these chunks, each
once and in order, or are told of the end. -/
theorem closing_of_run (settings : DeviceSettings) (world : World) (device : Device) (turns : List Turn)
    (os : world.net.AllOs) (addressed : world.net.Addressed) (script : world.script = none)
    (launched : launch (ofSettings settings world) = .ok () device)
    (system : ∀ turn ∈ turns, turn.Meets Event.AllOs)
    (proper : ∀ turn ∈ turns, turn.Meets Event.Addressed) :
    let start : Scene := { device }
    let final := start.afterAll turns
    (∀ frame ∈ start.trace turns, ¬ frame.Slips) → final.device.readerEnded = true → final.closer.isOver = true →
      (∃ door, device.door = some door ∧ (final.device.world.net.door door).isOpen = false) ∧
      (start.trace turns).flatMap Frame.accepted = final.device.link.toList ∧
      (∀ link, final.device.link = some link → (final.device.world.net.link link).stream.isOpen = false) ∧
      ∃ queued, final.device.queue = queued.map some ++ [none] ∧ ∀ later : List Turn,
        returned (final.trace later) <+: queued ∧
        ∀ frame ∈ final.trace later, frame.turn = .receive none →
          frame.isOver = true ∨ ∃ chunk, frame.taken = [chunk] := by
  intro start final firm ended finished
  obtain ⟨reader, same, _, _, _, tallies⟩ := launch_fresh launched
  obtain ⟨door, entrance, unlinked, handshake⟩ := launch_handshake os script launched
  have stands : Standing Event.Addressed (Tallies world.net.linkCount · []) world.net.unread start.device :=
    ⟨fun items found => absurd (same.trans script ▸ found) nofun, .testing, reader, tallies addressed⟩
  obtain ⟨phase, shaken, account⟩ := handshake_run stands handshake system proper
  obtain ⟨scripted, last, ending, fits⟩ := tallies_run stands proper
  obtain rfl : phase = last := Option.some.inj (shaken.reader.symm.trans ending)
  have ended : phase.isEnded = true := (readerEnded_eq ending).symm.trans ended
  have past : phase.isOutside = false ∧ phase.turnsBack = false ∧ phase.caught = [] ∧ phase.mark = [none] := by
    cases phase <;> first | exact ⟨rfl, rfl, rfl, rfl⟩ | simp [ReaderPhase.isEnded] at ended
  obtain ⟨inside, settled, nothing, mark⟩ := past
  have closes : Closes (False ∨ ∃ frame ∈ start.trace turns, frame.Slips) phase final.device := by
    have asked := shaken.asked
    cases closer : final.closer with
    | ended fault =>
      rw [closer] at asked
      exact asked.2
    | _ => simp [closer, ClosingPhase.isOver] at finished
  refine ⟨⟨door, entrance, shaken.shut inside⟩, ?_, fun link linked => ?_, ?_⟩
  · rw [nothing, show start.device.link = none from unlinked, List.append_nil] at account
    exact account
  · exact closes.shut settled (by simpa using firm) linked
  · obtain ⟨queued, queue, _⟩ := fits.order
    have order : final.device.queue = queued.map some ++ [none] := by rw [← mark, ← queue]
    have spent : Standing (fun _ => True) (fun _ => Spent queued []) (fun _ => []) final.device :=
      ⟨fun _ _ _ _ _ _ => trivial, phase, ending, ended, ⟨queued, order, rfl⟩, fits.named⟩
    refine ⟨queued, order, fun later => ⟨?_, spent_trace spent later⟩⟩
    obtain ⟨_, _, _, left⟩ := (spent_serving queued).run spent (fun turn (_ : turn ∈ later) => turn.meets_any)
      fun earlier _ _ _ _ _ reader spent => spent.closes reader (final.afterAll earlier).closer
    obtain ⟨rest, _, all⟩ := left.order
    exact ⟨rest, all⟩

/-- A peer is accepted, and a closing thread finds no link before the reader stores it. -/
def lateComer : List Turn :=
  .event (.connect "ann" none none none none) :: List.replicate 2 .read ++ List.replicate 3 .close ++
    List.replicate 5 .read ++ [.close]

theorem closing_of_lateComer :
    let device := Action.state (launch (ofSettings pairSettings {}))
    let start : Scene := { device }
    let final := start.afterAll lateComer
    final.device.readerEnded = true ∧ final.closer.isOver = true ∧ final.device.link = some 0 ∧
      (∃ door, device.door = some door ∧ (final.device.world.net.door door).isOpen = false) ∧
      (start.trace lateComer).flatMap Frame.accepted = final.device.link.toList ∧
      (final.device.world.net.link 0).stream.isOpen = false ∧
      ∀ frame ∈ final.trace [.receive none, .receive none], frame.turn = .receive none →
        frame.isOver = true ∨ ∃ chunk, frame.taken = [chunk] := by
  intro device start final
  have ended : final.device.readerEnded = true := by decide +kernel
  have finished : final.closer.isOver = true := by decide +kernel
  have linked : final.device.link = some 0 := by decide +kernel
  have firm : ∀ frame ∈ start.trace lateComer, ¬ frame.Slips := by
    have quiet : ∀ frame ∈ start.trace lateComer,
        (FaultQueue.next frame.before.device.world.net.faults .close).isNone = true := by decide +kernel
    exact fun frame member => Frame.not_slips (Option.isNone_iff_eq_none.mp (quiet frame member))
  have launched : launch (ofSettings pairSettings {}) = .ok () device := by rfl
  clear_value device
  obtain ⟨shut, accepted, closed, queued, queue, later⟩ :=
    closing_of_run pairSettings {} device lateComer ⟨FaultQueue.allOs_nil, fun _ => .of_nil rfl rfl⟩
      blank_addressed rfl launched (by simp [lateComer, Turn.Meets, Event.AllOs])
      (by simp [lateComer, Turn.Meets, Event.Addressed]) firm ended finished
  exact ⟨ended, finished, linked, shut, accepted, closed 0 linked, (later _).2⟩

end Device
end RelayBench
