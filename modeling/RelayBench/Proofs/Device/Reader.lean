import RelayBench.Device.Endpoint
import RelayBench.Proofs.Net.Door
import RelayBench.Proofs.Net.Ledger

/-! What one action of the reader of a device, or of a thread that closes it, can do: read a chunk, hand
it over, take in the one link or mark the end; all else leaves queue, chunks and links as they are. -/
namespace RelayBench
namespace Action

variable {α : Type}

@[simp] theorem liftBenchDevice_apply (action : Bench α) (device : Device) :
    (liftM action : DeviceCall α) device =
      onPart Device.world (fun world device => { device with world }) action device := rfl

@[simp] theorem liftNetDevice_apply (call : NetCall α) (device : Device) :
    (liftM call : DeviceCall α) device =
      onPart Device.world (fun world device => { device with world })
        (onPart World.net (fun net world => { world with net }) call) device := rfl

end Action

namespace Net

variable (net : Net)

theorem Drawn.of_links {net after : Net} (links : after.links = net.links)
    (linkCount : after.linkCount = net.linkCount) : Drawn (fun _ => []) net after where
  linkCount := linkCount
  taken := by
    intro index
    have same : after.link index = net.link index := congrArg (Table.get · index) links
    rw [same]
    exact ⟨rfl, rfl, rfl⟩

theorem Drawn.refl : Drawn (fun _ => []) net net := .of_links rfl rfl

theorem Drawn.updateLink (index : Nat) {change : Link → Link} {taken : Bytes}
    (takes : Stream.Taken taken (net.link index).stream (change (net.link index)).stream) :
    Drawn (fun other => if other = index then taken else []) net (net.updateLink index change) where
  linkCount := rfl
  taken := by
    intro other
    rw [link_updateLink]
    split
    next same => exact same ▸ takes
    · exact ⟨rfl, rfl, rfl⟩

theorem Drawn.updateQuietly (index : Nat) {change : Link → Link}
    (takes : Stream.Taken [] (net.link index).stream (change (net.link index)).stream) :
    Drawn (fun _ => []) net (net.updateLink index change) := by
  have drawn := Drawn.updateLink net index takes
  simpa only [ite_self] using drawn

theorem Drawn.trans {first second third : Net} (early : Drawn (fun _ => []) first second)
    (late : Drawn (fun _ => []) second third) : Drawn (fun _ => []) first third :=
  ⟨late.linkCount.trans early.linkCount, fun index => (early.taken index).trans (late.taken index)⟩

theorem Drawn.updateLinks (indices : List Nat) {change : Link → Link}
    (takes : ∀ link, Stream.Taken [] link.stream (change link).stream) :
    Drawn (fun _ => []) net (net.updateLinks indices change) := by
  induction indices generalizing net with
  | nil => exact .refl net
  | cons first rest ih =>
    exact (Drawn.updateQuietly net first (takes (net.link first))).trans (ih (net.updateLink first change))

theorem Drawn.shut (door : Nat) (call : Call) : Drawn (fun _ => []) net ((net.shut door).called call) := by
  let freed := net.updateDoor door fun d => { d with pending := [] }
  let change (link : Link) : Link := { link with stream := { link.stream with isOpen := false } }
  have links : ((net.shut door).called call).links =
      (freed.updateLinks (net.door door).pending change).links := by
    rw [called, Net.shut, dropPending, foldl_updateLink]
    rfl
  have draws : Drawn (fun _ => []) freed (freed.updateLinks (net.door door).pending change) :=
    .updateLinks freed _ fun _ => ⟨rfl, rfl, rfl⟩
  exact (of_links rfl rfl : Drawn (fun _ => []) net freed).trans
    (draws.trans (.of_links links (by simp [freed, Net.updateLinks, updateDoor])))

theorem onStream_apply {α : Type} (index : Nat) (call : Stream → Except Fault α × Stream) :
    onStream index call net = match (call (net.link index).stream).1 with
      | .ok a => .ok a (net.updateLink index fun link => { link with stream := (call link.stream).2 })
      | .error fault =>
        .error fault (net.updateLink index fun link => { link with stream := (call link.stream).2 }) :=
  onLink_apply index _ net

theorem onStream_drawn {α : Type} (index : Nat) {call : Stream → Except Fault α × Stream}
    (takes : ∀ stream, Stream.Taken [] stream (call stream).2) :
    Drawn (fun _ => []) net
      (net.updateLink index fun link => { link with stream := (call link.stream).2 }) :=
  .updateQuietly net index (takes (net.link index).stream)

end Net

namespace Stream

theorem shutdown_taken (stream : Stream) : Taken [] stream stream.shutdown.2 := by
  unfold shutdown
  split
  · exact ⟨rfl, rfl, rfl⟩
  · dsimp only
    split
    · exact ⟨rfl, rfl, rfl⟩
    · split <;> exact ⟨rfl, rfl, rfl⟩

theorem close_taken (stream : Stream) : Taken [] stream stream.close.2 := by
  have same := stream.close_unclosed
  have inbox := congrArg Stream.inbox same
  have far := congrArg Stream.far same
  have address := congrArg Stream.address same
  exact ⟨inbox.symm, far, address⟩

end Stream

namespace ReaderPhase

/-- The link that an accept gave and the device has not stored yet. -/
def caught : ReaderPhase → List Nat
  | .storing link => [link]
  | _ => []

/-- The chunk that was read and is not handed over yet. -/
def carried : ReaderPhase → List Bytes
  | .handing chunk => [chunk]
  | _ => []

/-- Whether the reader has yet to store the link of the peer. -/
def isSearching : ReaderPhase → Bool
  | .testing | .accepting | .awaiting | .storing _ => true
  | _ => false

/-- What marks the end of the queue. -/
def mark (phase : ReaderPhase) : List (Option Bytes) := if phase.isEnded then [none] else []

end ReaderPhase

namespace Device

def inNet (device : Device) (net : Net) : Device := { device with world := { device.world with net } }

/-- The device after a call on the stream of a link. -/
def calls (device : Device) (link : Nat) (call : Stream → Except Fault Unit × Stream) : Device :=
  device.inNet (device.world.net.updateLink link fun link => { link with stream := (call link.stream).2 })

section

variable {α : Type} {device : Device} {call : NetCall α} {net : Net}

theorem liftNet_ok {a : α} (ran : call device.world.net = .ok a net) :
    (liftM call : DeviceCall α) device = .ok a (device.inNet net) := by
  simp only [Action.liftNetDevice_apply, Action.onPart_apply, ran]
  rfl

theorem liftNet_error {fault : Fault} (ran : call device.world.net = .error fault net) :
    (liftM call : DeviceCall α) device = .error fault (device.inNet net) := by
  simp only [Action.liftNetDevice_apply, Action.onPart_apply, ran]
  rfl

end

/-- The links that wait at the door of the device. -/
def pending (device : Device) : List Nat :=
  match device.door with
  | some door => (device.world.net.door door).pending
  | none => []

/-- The links that the device has or may yet come to have. -/
def holding (phase : ReaderPhase) (device : Device) : List Nat :=
  device.link.toList ++ (phase.caught ++ device.pending)

/-- All chunks that were read. -/
def chunks (phase : ReaderPhase) (device : Device) : List Bytes := device.received ++ phase.carried

/-- What an action leaves as it is when it does no more than draw bytes from streams. -/
structure Keeps (drawn : Nat → Bytes) (before after : Device) : Prop where
  chunkSize : after.chunkSize = before.chunkSize
  peer : after.peer = before.peer
  queue : after.queue = before.queue
  received : after.received = before.received
  link : after.link = before.link
  reader : after.reader = before.reader
  script : after.world.script = before.world.script
  net : Net.Drawn drawn before.world.net after.world.net

namespace Keeps

variable (device : Device)

theorem refl : Keeps (fun _ => []) device device := ⟨rfl, rfl, rfl, rfl, rfl, rfl, rfl, .refl _⟩

theorem inNet {drawn : Nat → Bytes} {net : Net} (draws : Net.Drawn drawn device.world.net net) :
    Keeps drawn device (device.inNet net) :=
  ⟨rfl, rfl, rfl, rfl, rfl, rfl, rfl, draws⟩

theorem note {drawn : Nat → Bytes} {before after : Device} (keeps : Keeps drawn before after)
    (entry : Entry) : Keeps drawn before (after.note entry) where
  chunkSize := keeps.chunkSize
  peer := keeps.peer
  queue := keeps.queue
  received := keeps.received
  link := keeps.link
  reader := keeps.reader
  script := by
    rw [← keeps.script, Device.note, World.write_eq]
  net := by
    show Net.Drawn drawn before.world.net (after.world.write entry).net
    rw [World.write_net]
    exact keeps.net

theorem noteUnlessClosing {drawn : Nat → Bytes} {before after : Device} (keeps : Keeps drawn before after)
    (entry : Entry) : Keeps drawn before (after.noteUnlessClosing entry) := by
  unfold Device.noteUnlessClosing
  split
  · exact keeps
  · exact keeps.note entry

end Keeps

@[simp] theorem note_net (device : Device) (entry : Entry) :
    (device.note entry).world.net = device.world.net := World.write_net _ _

@[simp] theorem noteUnlessClosing_net (device : Device) (entry : Entry) :
    (device.noteUnlessClosing entry).world.net = device.world.net := by
  unfold noteUnlessClosing
  split
  · rfl
  · exact note_net device entry

@[simp] theorem note_script (device : Device) (entry : Entry) :
    (device.note entry).world.script = device.world.script := by
  rw [note, World.write_eq]

@[simp] theorem note_pending (device : Device) (entry : Entry) :
    (device.note entry).pending = device.pending := by
  unfold pending
  rw [note_net]
  rfl

@[simp] theorem noteUnlessClosing_pending (device : Device) (entry : Entry) :
    (device.noteUnlessClosing entry).pending = device.pending := by
  unfold noteUnlessClosing
  split
  · rfl
  · exact note_pending device entry

/-- What one action of the reader can do. -/
inductive Advance (device : Device) : ReaderPhase → ReaderPhase × Device → Prop
  | quietly {phase next : ReaderPhase} {after : Device} (keeps : Keeps (fun _ => []) device after)
      (holding : (after.holding next).Sublist (device.holding phase))
      (search : next.isSearching = true → phase.isSearching = true)
      (carried : next.carried = phase.carried) (ended : next.isEnded = phase.isEnded) :
      Advance device phase (next, after)
  | stored {link : Nat} : Advance device (.storing link) (.leaving true none, device.store link)
  | drew {phase : ReaderPhase} {after : Device} {link : Nat} {chunk : Bytes}
      (awake : phase = .reading ∨ phase = .stalled) (linked : device.link = some link)
      (some : chunk ≠ []) (size : chunk.length ≤ device.chunkSize.toNat)
      (keeps : Keeps (fun index => if index = link then chunk else []) device after)
      (pending : after.pending = device.pending) : Advance device phase (.handing chunk, after)
  | handed {chunk : Bytes} : Advance device (.handing chunk)
      (.reading, { device with received := device.received ++ [chunk] }.enqueue (some chunk))
  | ended {fault : Option Fault} : Advance device (.ending fault) (.ended fault, device.enqueue none)

section

variable (device : Device)

/-- An action that neither ends the reader nor has to do with a chunk or a new link. -/
theorem Advance.plainly {device after : Device} {phase next : ReaderPhase}
    (keeps : Keeps (fun _ => []) device after) (pending : after.pending.Sublist device.pending)
    (carried : next.carried = phase.carried) (caught : next.caught = [])
    (search : next.isSearching = true → phase.isSearching = true)
    (ended : next.isEnded = phase.isEnded) : Advance device phase (next, after) := by
  refine .quietly keeps ?_ search carried ended
  rw [holding, holding, keeps.link, caught, List.nil_append]
  exact (List.Sublist.refl _).append (pending.trans (List.sublist_append_right _ _))

theorem holding_accepted {phase : ReaderPhase} {door first : Nat} {rest : List Nat}
    (known : device.door = some door) (queue : (device.world.net.door door).pending = first :: rest)
    (free : phase.caught = []) :
    (device.inNet
        ((device.world.net.called .accept).updateDoor door fun d => { d with pending := rest })).holding
          (.storing first) = device.holding phase := by
  have before : device.pending = first :: rest := by
    rw [pending, known]
    exact queue
  have after : (device.inNet
      ((device.world.net.called .accept).updateDoor door fun d => { d with pending := rest })).pending =
        rest := by
    simp [pending, inNet, known, Net.door_updateDoor]
  rw [holding, holding, before, after, free]
  rfl

/-- An accept takes in the oldest link that waits, or it leaves links and queue alone. -/
theorem answer_advance {phase : ReaderPhase} (search : phase.isSearching = true)
    (free : phase.caught = []) (idle : phase.carried = []) (going : phase.isEnded = false) :
    Advance device phase device.answer := by
  unfold answer
  split
  next none => exact .plainly (.refl device) (.refl _) idle.symm rfl (fun _ => search) going.symm
  next door known =>
    rcases Net.accept_split device.world.net .background door with
      ⟨fault, net, failed, left⟩ | ⟨first, rest, opened, queue, taken⟩
    · have draws : Net.Drawn (fun _ => []) device.world.net net := by
        rcases left with rfl | rfl <;> exact .of_links rfl rfl
      have keeps := Keeps.inNet device draws
      have pending : (device.inNet net).pending = device.pending := by
        rcases left with rfl | rfl <;> rfl
      rw [liftNet_error failed]
      dsimp only
      split
      · exact .plainly keeps (pending ▸ .refl _) idle.symm rfl (fun _ => search) going.symm
      · split
        · refine .plainly (keeps.noteUnlessClosing _) ?_ idle.symm rfl (fun _ => search) going.symm
          rw [noteUnlessClosing_pending, pending]
        · exact .plainly keeps (pending ▸ .refl _) idle.symm rfl (fun _ => search) going.symm
    · rw [liftNet_ok taken]
      exact .quietly (Keeps.inNet device (.of_links rfl rfl))
        (holding_accepted device known queue free ▸ .refl _) (fun _ => search) idle.symm going.symm

/-- What the device has to do after it has closed the door. -/
def afterLeaving (found : Bool) (fault : Option Fault) : ReaderPhase :=
  match fault with
  | some fault => .ending (some fault)
  | none => if found then .rechecking else .ending none

theorem leave_eq (found : Bool) (fault : Option Fault) :
    device.leave found fault = match device.door with
      | none => (afterLeaving found fault, device)
      | some door =>
        match (liftM (Net.closeDoor door) : DeviceCall Unit) device with
        | .ok () device => (afterLeaving found fault, { device with door := none })
        | .error fault device => (.ending (some fault), device) := rfl

theorem leave_advance (found : Bool) (fault : Option Fault) :
    Advance device (.leaving found fault) (device.leave found fault) := by
  have next : (afterLeaving found fault).carried = [] ∧ (afterLeaving found fault).caught = [] ∧
      (afterLeaving found fault).isSearching = false ∧ (afterLeaving found fault).isEnded = false := by
    cases fault <;> cases found <;> exact ⟨rfl, rfl, rfl, rfl⟩
  obtain ⟨carried, caught, search, going⟩ := next
  have plainly {after : Device} (keeps : Keeps (fun _ => []) device after)
      (pending : after.pending.Sublist device.pending) :
      Advance device (.leaving found fault) (afterLeaving found fault, after) :=
    .plainly keeps pending carried caught (by simp [search]) going
  have bare {net : Net} (draws : Net.Drawn (fun _ => []) device.world.net net) :
      Keeps (fun _ => []) device { device.inNet net with door := none } :=
    ⟨rfl, rfl, rfl, rfl, rfl, rfl, rfl, draws⟩
  rw [leave_eq]
  cases known : device.door with
  | none => exact plainly (.refl device) (.refl _)
  | some door =>
    have shut := Net.Drawn.shut device.world.net door .close
    have closed := device.world.net.closeDoor_eq door
    split at closed
    next opened =>
      split at closed
      next raised found =>
        -- The fault leaves the door noted, but nobody waits there any more.
        simp only [liftNet_error closed]
        refine .plainly (.inNet device shut) ?_ rfl rfl nofun rfl
        have empty : (device.inNet ((device.world.net.shut door).called .close)).pending = [] := by
          simp [pending, inNet, known, Net.shut_door]
        rw [empty]
        exact List.nil_sublist _
      next =>
        simp only [liftNet_ok closed]
        exact plainly (bare shut) (List.nil_sublist _)
    next =>
      simp only [liftNet_ok closed]
      exact plainly (bare (.refl _)) (List.nil_sublist _)

/-- To discard a link is to close its stream. -/
theorem discard_cases : device.link = none ∧ discard device = (.ending none, device) ∨
    ∃ link fault, device.link = some link ∧ discard device = (.ending fault, device.calls link Stream.close) := by
  unfold discard
  split
  next unlinked => exact .inl ⟨unlinked, rfl⟩
  next link linked =>
    have ran := device.world.net.onStream_apply link Stream.close
    refine .inr ⟨link, ?_⟩
    split at ran
    · rw [liftNet_ok ran]
      exact ⟨none, linked, rfl⟩
    next fault failed =>
      rw [liftNet_error ran]
      exact ⟨some fault, linked, rfl⟩

theorem discard_advance : Advance device .discarding device.discard := by
  obtain ⟨_, left⟩ | ⟨link, fault, _, left⟩ := device.discard_cases <;> rw [left]
  · exact .plainly (.refl device) (.refl _) rfl rfl nofun rfl
  · have keeps := Keeps.inNet device (device.world.net.onStream_drawn link Stream.close_taken)
    exact .plainly keeps (.refl _) rfl rfl nofun rfl

theorem announce_advance : Advance device .announcing device.announce := by
  have keeps : Keeps (fun _ => []) device { device with announced := true } :=
    ⟨rfl, rfl, rfl, rfl, rfl, rfl, rfl, .refl _⟩
  unfold announce
  dsimp only
  split
  next peer named =>
    refine .plainly (keeps.note _) ?_ rfl rfl nofun rfl
    rw [note_pending]
    exact .refl _
  next fault unnamed => exact .plainly keeps (.refl _) rfl rfl nofun rfl

theorem readChunk_advance {phase : ReaderPhase} (awake : phase = .reading ∨ phase = .stalled) :
    Advance device phase device.readChunk := by
  have plain : phase.carried = [] ∧ phase.isEnded = false := by
    rcases awake with rfl | rfl <;> exact ⟨rfl, rfl⟩
  obtain ⟨idle, going⟩ := plain
  unfold readChunk
  split
  next none => exact .plainly (.refl device) (.refl _) idle.symm rfl nofun going.symm
  next link linked =>
    let platform := device.world.net.platform
    let net := device.world.net.updateLink link fun link => (link.read platform device.chunkSize).2
    have draws {taken : Bytes}
        (read : ((device.world.net.link link).read platform device.chunkSize).1.taken = taken) :
        Net.Drawn (fun other => if other = link then taken else []) device.world.net net :=
      .updateLink device.world.net link (read ▸ (device.world.net.link link).read_taken ..)
    have quietly {next : ReaderPhase} {after : Device}
        (keeps : Keeps (fun other => if other = link then [] else []) device after)
        (pending : after.pending = device.pending) (carried : next.carried = []) (caught : next.caught = [])
        (search : next.isSearching = false) (ended : next.isEnded = false) :
        Advance device phase (next, after) := by
      simp only [ite_self] at keeps
      exact .plainly keeps (pending ▸ .refl _) (carried.trans idle.symm) caught (by simp [search])
        (ended.trans going.symm)
    rw [liftNet_ok (Net.readLink_apply link device.chunkSize device.world.net)]
    cases read : ((device.world.net.link link).read platform device.chunkSize).1 with
    | nothing => exact quietly (.inNet device (draws (congrArg Reading.taken read))) rfl rfl rfl rfl rfl
    | fault fault =>
      have keeps := Keeps.inNet device (draws (congrArg Reading.taken read))
      dsimp only
      split
      · exact quietly (keeps.noteUnlessClosing _) (noteUnlessClosing_pending _ _) rfl rfl rfl rfl
      · exact quietly keeps rfl rfl rfl rfl rfl
    | bytes bytes =>
      have keeps := Keeps.inNet device (draws (congrArg Reading.taken read))
      cases bytes with
      | nil => exact quietly (keeps.noteUnlessClosing _) (noteUnlessClosing_pending _ _) rfl rfl rfl rfl
      | cons first rest =>
        exact .drew awake linked (List.cons_ne_nil first rest) (Link.read_length _ _ _ read) (keeps.note _)
          (note_pending _ _)

theorem advanceReader_advance (phase : ReaderPhase) :
    Advance device phase (advanceReader phase device) := by
  cases phase with
  | testing =>
    rw [advanceReader]
    split <;> exact .plainly (.refl device) (.refl _) rfl rfl (fun _ => rfl) rfl
  | accepting =>
    rw [advanceReader]
    split
    · split
      · exact answer_advance device rfl rfl rfl rfl
      · exact .plainly (.refl device) (.refl _) rfl rfl (fun _ => rfl) rfl
    · exact answer_advance device rfl rfl rfl rfl
  | awaiting => exact answer_advance device rfl rfl rfl rfl
  | storing link => exact .stored
  | leaving found fault => exact leave_advance device found fault
  | rechecking =>
    rw [advanceReader]
    split <;> exact .plainly (.refl device) (.refl _) rfl rfl nofun rfl
  | discarding => exact discard_advance device
  | announcing => exact announce_advance device
  | reading => exact readChunk_advance device (.inl rfl)
  | stalled => exact readChunk_advance device (.inr rfl)
  | handing chunk => exact .handed
  | ending fault => exact .ended
  | ended fault => exact .plainly (.refl device) (.refl _) rfl rfl nofun rfl

/-- What one action of a closing thread can do. -/
inductive Retreat (device : Device) : ClosingPhase → ClosingPhase × Device → Prop
  | closed (closed : device.closed = true) : Retreat device .marking (.ended none, device)
  | marked (unclosed : device.closed = false) :
      Retreat device .marking (.signalling, { device with closed := true })
  | signalled : Retreat device .signalling (.looking, { device with closing := true })
  | found {link : Nat} (linked : device.link = some link) : Retreat device .looking (.shutting link, device)
  | alone (unlinked : device.link = none) : Retreat device .looking (.joining, device)
  | shut (link : Nat) : Retreat device (.shutting link) (.closing link, device.calls link Stream.shutdown)
  | refused (link : Nat) {fault : Fault} (foreign : fault.isOs = false)
      (failed : (device.world.net.link link).stream.shutdown.1 = .error fault) :
      Retreat device (.shutting link) (.ended (some fault), device.calls link Stream.shutdown)
  | closes (link : Nat) : Retreat device (.closing link) (.joining, device.calls link Stream.close)
  | fails (link : Nat) {fault : Fault} (failed : (device.world.net.link link).stream.close.1 = .error fault) :
      Retreat device (.closing link) (.ended (some fault), device.calls link Stream.close)
  | unread (reader : device.reader = none) : Retreat device .joining
      (.ended none, (device.enqueue none).note (.device Logger.device "Closed" device.addressText))
  | joined {phase : ReaderPhase} (reader : device.reader = some phase) (ended : phase.isEnded = true) :
      Retreat device .joining (.ended none, device.note (.device Logger.device "Closed" device.addressText))
  | waits {phase : ReaderPhase} (reader : device.reader = some phase) (going : phase.isEnded = false) :
      Retreat device .joining (.joining, device)
  | past (fault : Option Fault) : Retreat device (.ended fault) (.ended fault, device)

theorem advanceClosing_retreat (closer : ClosingPhase) : Retreat device closer (advanceClosing closer device) := by
  cases closer with
  | marking =>
    rw [advanceClosing]
    split
    next closed => exact .closed closed
    next unclosed => exact .marked (by simpa using unclosed)
  | signalling => exact .signalled
  | looking =>
    cases linked : device.link with
    | none =>
      simp only [advanceClosing, linked]
      exact .alone linked
    | some link =>
      simp only [advanceClosing, linked]
      exact .found linked
  | shutting link =>
    have ran := device.world.net.onStream_apply link Stream.shutdown
    rw [advanceClosing]
    split at ran
    · rw [liftNet_ok ran]
      exact .shut link
    next fault failed =>
      rw [liftNet_error ran]
      dsimp only
      split
      · exact .shut link
      next foreign => exact .refused link (by simpa using foreign) failed
  | closing link =>
    have ran := device.world.net.onStream_apply link Stream.close
    rw [advanceClosing]
    split at ran
    · rw [liftNet_ok ran]
      exact .closes link
    next fault failed =>
      rw [liftNet_error ran]
      exact .fails link failed
  | joining =>
    simp only [advanceClosing]
    split
    next reader => exact .unread reader
    next phase reader =>
      split
      next ended => exact .joined reader ended
      next going => exact .waits reader (by simpa using going)
  | ended fault => exact .past fault

/-- One action of a closing thread draws nothing and queues nothing, if the reader was started. -/
theorem advanceClosing_keeps {phase : ReaderPhase} (started : device.reader = some phase)
    (closer : ClosingPhase) : Keeps (fun _ => []) device (advanceClosing closer device).2 ∧
      (advanceClosing closer device).2.pending = device.pending := by
  have retreat := device.advanceClosing_retreat closer
  generalize advanceClosing closer device = ran at retreat ⊢
  cases retreat with
  | marked | signalled => exact ⟨⟨rfl, rfl, rfl, rfl, rfl, rfl, rfl, .refl _⟩, rfl⟩
  | shut link | refused link =>
    exact ⟨.inNet device (device.world.net.onStream_drawn link Stream.shutdown_taken), rfl⟩
  | closes link | fails link =>
    exact ⟨.inNet device (device.world.net.onStream_drawn link Stream.close_taken), rfl⟩
  | unread reader => simp [started] at reader
  | joined => exact ⟨.note (.refl device) _, note_pending _ _⟩
  | closed | found | alone | waits | past => exact ⟨.refl device, rfl⟩

theorem advanceClosing_advance {phase : ReaderPhase} (started : device.reader = some phase)
    (closer : ClosingPhase) : Advance device phase (phase, (advanceClosing closer device).2) := by
  obtain ⟨keeps, pending⟩ := advanceClosing_keeps device started closer
  refine .quietly keeps ?_ id rfl rfl
  rw [holding, holding, keeps.link, pending]

end

end Device
end RelayBench
