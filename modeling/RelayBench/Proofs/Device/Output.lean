import RelayBench.Proofs.Device.Run

/-! What a device has written to its peer.  Neither events nor the reader write anything; a call that
writes puts out all of its bytes, or fails and puts out a first part of them. -/
namespace RelayBench

namespace Stream

variable (stream : Stream) (data : Bytes)

theorem writeAll_taken : Taken [] stream (stream.writeAll data).2 := by
  unfold writeAll
  split
  · exact ⟨rfl, rfl, rfl⟩
  · dsimp only
    split
    · exact ⟨rfl, rfl, rfl⟩
    · split <;> exact ⟨rfl, rfl, rfl⟩

/-- A call puts out all of its bytes, or it fails and has put out a first part of them, if any. -/
theorem writeAll_cases :
    (∃ after, stream.writeAll data = (.ok (), after) ∧ after.outbox = stream.outbox ++ data) ∨
      ∃ fault part after, stream.writeAll data = (.error fault, after) ∧ part <+: data ∧
        after.outbox = stream.outbox ++ part := by
  have nothing : stream.outbox = stream.outbox ++ [] := (List.append_nil _).symm
  unfold writeAll
  split
  · exact .inr ⟨_, [], _, rfl, List.nil_prefix, nothing⟩
  · dsimp only
    split
    · exact .inr ⟨_, _, _, rfl, List.take_prefix _ data, rfl⟩
    · split
      · exact .inr ⟨_, [], _, rfl, List.nil_prefix, nothing⟩
      · exact .inl ⟨_, rfl, rfl⟩

end Stream

namespace Net

/-- Nothing is written to any link. -/
def Silent (before after : Net) : Prop :=
  ∀ index, (after.link index).stream.outbox = (before.link index).stream.outbox

namespace Silent

theorem refl (net : Net) : Silent net net := fun _ => rfl

theorem of_links {net after : Net} (links : after.links = net.links) : Silent net after := by
  intro index
  have same : after.link index = net.link index := congrArg (Table.get · index) links
  rw [same]

theorem updateLink (net : Net) (index : Nat) {change : Link → Link}
    (same : (change (net.link index)).stream.outbox = (net.link index).stream.outbox) :
    Silent net (net.updateLink index change) := by
  intro other
  rw [link_updateLink]
  split
  next here => rw [here, same]
  · rfl

theorem updateLinks (net : Net) (indices : List Nat) {change : Link → Link}
    (same : ∀ link, (change link).stream.outbox = link.stream.outbox) :
    Silent net (net.updateLinks indices change) := by
  induction indices generalizing net with
  | nil => exact refl net
  | cons first rest ih =>
    intro index
    exact (ih (net.updateLink first change) index).trans (updateLink net first (same _) index)

theorem shut (net : Net) (door : Nat) (call : Call) : Silent net ((net.shut door).called call) := by
  let freed := net.updateDoor door fun d => { d with pending := [] }
  let change (link : Link) : Link := { link with stream := { link.stream with isOpen := false } }
  have links : ((net.shut door).called call).links =
      (freed.updateLinks (net.door door).pending change).links := by
    rw [called, Net.shut, dropPending, foldl_updateLink]
    rfl
  have silent : Silent freed (freed.updateLinks (net.door door).pending change) :=
    .updateLinks freed _ fun _ => rfl
  intro index
  exact (of_links links index).trans (silent index)

end Silent
end Net

namespace Device

section

variable (device : Device)

theorem answer_silent : Net.Silent device.world.net device.answer.2.world.net := by
  unfold answer
  split
  next none => exact .refl _
  next door known =>
    rcases Net.accept_split device.world.net .background door with
      ⟨fault, net, failed, left⟩ | ⟨first, rest, opened, queue, taken⟩
    · have silent : Net.Silent device.world.net (device.inNet net).world.net := by
        rcases left with rfl | rfl <;> exact .of_links rfl
      rw [liftNet_error failed]
      dsimp only
      split
      · exact silent
      · split
        · rw [noteUnlessClosing_net]
          exact silent
        · exact silent
    · rw [liftNet_ok taken]
      exact .of_links rfl

theorem leave_silent (found : Bool) (fault : Option Fault) :
    Net.Silent device.world.net (device.leave found fault).2.world.net := by
  rw [leave_eq]
  cases known : device.door with
  | none => exact .refl _
  | some door =>
    have shut := Net.Silent.shut device.world.net door .close
    have closed := device.world.net.closeDoor_eq door
    split at closed
    · split at closed
      · simp only [liftNet_error closed]
        exact shut
      · simp only [liftNet_ok closed]
        exact shut
    · simp only [liftNet_ok closed]
      exact .refl _

theorem calls_silent (link : Nat) {call : Stream → Except Fault Unit × Stream}
    (same : ∀ stream, (call stream).2.outbox = stream.outbox) :
    Net.Silent device.world.net (device.calls link call).world.net :=
  .updateLink _ link (same _)

theorem readChunk_silent : Net.Silent device.world.net device.readChunk.2.world.net := by
  unfold readChunk
  split
  · exact .refl _
  next link linked =>
    have silent : Net.Silent device.world.net
        (device.world.net.updateLink link fun link => (link.read device.world.net.platform device.chunkSize).2) :=
      .updateLink _ link (Link.read_outbox ..)
    rw [liftNet_ok (Net.readLink_apply link device.chunkSize device.world.net)]
    cases ((device.world.net.link link).read device.world.net.platform device.chunkSize).1 with
    | nothing => exact silent
    | fault fault =>
      dsimp only
      split
      · rw [noteUnlessClosing_net]
        exact silent
      · exact silent
    | bytes bytes =>
      cases bytes with
      | nil =>
        dsimp only
        rw [noteUnlessClosing_net]
        exact silent
      | cons first rest =>
        dsimp only
        rw [note_net]
        exact silent

/-- No action of the reader writes anything. -/
theorem advanceReader_silent (phase : ReaderPhase) :
    Net.Silent device.world.net (advanceReader phase device).2.world.net := by
  cases phase with
  | accepting =>
    rw [advanceReader]
    split
    · split
      · exact answer_silent device
      · exact .refl _
    · exact answer_silent device
  | awaiting => exact answer_silent device
  | storing link => exact .updateLink _ link rfl
  | leaving found fault => exact leave_silent device found fault
  | discarding =>
    obtain ⟨_, left⟩ | ⟨link, fault, _, left⟩ := device.discard_cases <;> rw [advanceReader, left]
    · exact .refl _
    · refine device.calls_silent link fun stream => ?_
      have same := congrArg Stream.outbox stream.close_unclosed
      exact same
  | announcing =>
    rw [advanceReader, announce]
    dsimp only
    split
    · rw [note_net]
      exact .refl _
    · exact .refl _
  | reading => exact readChunk_silent device
  | stalled => exact readChunk_silent device
  | _ => exact .refl _

end

/-- A device with its link: what calls were given and what is queued tally, and what was written to the
link and what had been received at some earlier time is known. -/
structure Wired (start link : Nat) (earlier : List Bytes) (written : Bytes) (taken : List Bytes)
    (sent : Nat → Bytes) (phase : ReaderPhase) (device : Device) : Prop where
  tallies : Tallies start sent taken phase device
  linked : device.link = some link
  outbox : (device.world.net.link link).stream.outbox = written
  received : earlier <+: device.received

namespace Wired

variable {start link : Nat} {earlier taken : List Bytes} {written : Bytes} {sent : Nat → Bytes}
  {phase : ReaderPhase} {device after : Device}

theorem hears (wired : Wired start link earlier written taken sent phase device) {events : List Event}
    (proper : ∀ event ∈ events, event.Addressed) (hears : device.Hears events after) :
    Wired start link earlier written taken
      (fun index => sent index ++ device.world.net.arrivals index events) phase after where
  tallies := wired.tallies.hears events proper hears
  linked := hears.link.trans wired.linked
  outbox := by
    have known := (wired.tallies.born link (mem_holding wired.linked)).2
    exact (Link.side_outbox (hears.grown.side link known)).trans wired.outbox
  received := hears.received ▸ wired.received

theorem reads (wired : Wired start link earlier written taken sent phase device) :
    Wired start link earlier written taken sent (advanceReader phase device).1 (advanceReader phase device).2 := by
  have advance := advanceReader_advance device phase
  have tallies := wired.tallies.advance advance
  have outbox := (device.advanceReader_silent phase link).trans wired.outbox
  generalize advanceReader phase device = next at advance tallies outbox ⊢
  cases advance with
  | quietly keeps => exact ⟨tallies, keeps.link.trans wired.linked, outbox, keeps.received ▸ wired.received⟩
  | stored => exact absurd ((wired.tallies.search rfl).symm.trans wired.linked) nofun
  | drew _ _ _ _ keeps =>
    exact ⟨tallies, keeps.link.trans wired.linked, outbox, keeps.received ▸ wired.received⟩
  | handed => exact ⟨tallies, wired.linked, outbox, wired.received.trans (List.prefix_append _ _)⟩
  | ended => exact ⟨tallies, wired.linked, outbox, wired.received⟩

end Wired

/-- Events, the reader and the calls that want a chunk write nothing. -/
theorem wired_serving (start link : Nat) (earlier : List Bytes) (written : Bytes) :
    Serving Event.Addressed fun taken sent => Wired start link earlier written taken sent where
  keeping := fun _ =>
    { hears := fun wired proper hears => wired.hears proper hears
      reads := fun wired => wired.reads
      aside := fun wired => ⟨wired.tallies.aside, wired.linked, wired.outbox, wired.received⟩ }
  takes := fun wired next => ⟨wired.tallies.takes next, wired.linked, wired.outbox, wired.received⟩
  finished := fun wired next =>
    ⟨(tallies_serving start).finished wired.tallies next, wired.linked, wired.outbox, wired.received⟩

section

variable {device : Device} {link : Nat} (linked : device.link = some link) (payload : Bytes)
include linked

theorem send_closed (closed : device.closed = true) :
    send (.bytes payload) device = .error (.harness .notConnected "Mock device has no connected peer"
      [("port", .int device.address.2)] none) device := by
  simp [send, bytesOf, ByteSource.toBytes, linked, closed]

/-- A call that writes to a link passes on what the link makes of it. -/
theorem send_eq (opened : device.closed = false) :
    send (.bytes payload) device =
      match ((device.world.net.link link).stream.writeAll payload).1 with
      | .ok () => .ok () ((device.calls link (Stream.writeAll · payload)).note
          (.data Logger.device "Mock device sent" (Text.hex payload)))
      | .error fault => .error (if fault.isOs then device.writeFault fault else fault)
          (device.calls link (Stream.writeAll · payload)) := by
  have ran := device.world.net.onStream_apply link (Stream.writeAll · payload)
  cases wrote : ((device.world.net.link link).stream.writeAll payload).1 with
  | ok done =>
    rw [wrote] at ran
    simp only [send, bytesOf, ByteSource.toBytes, Action.bind_apply, Action.pure_apply, Action.get_apply, linked,
      opened, Action.attempt_apply, liftNet_ok ran, Action.modify_apply]
    rfl
  | error fault =>
    rw [wrote] at ran
    simp only [send, bytesOf, ByteSource.toBytes, Action.bind_apply, Action.pure_apply, Action.get_apply, linked,
      opened, Action.attempt_apply, liftNet_error ran]
    cases fault.isOs <;> rfl

end

section

variable {start link : Nat} {earlier taken : List Bytes} {written : Bytes} {sent : Nat → Bytes}
  {device after : Device}
  (stands : Standing Event.Addressed (Wired start link earlier written taken) sent device)
include stands

/-- An action that draws nothing, and writes some bytes to the link. -/
theorem standing_writes (data : Bytes) (keeps : Keeps (fun _ => []) device after)
    (pending : after.pending = device.pending)
    (outbox : (after.world.net.link link).stream.outbox =
      (device.world.net.link link).stream.outbox ++ data) :
    Standing Event.Addressed (Wired start link earlier (written ++ data) taken) sent after := by
  obtain ⟨scripted, phase, reader, wired⟩ := stands
  refine ⟨fun items found => scripted items (keeps.script ▸ found), phase, keeps.reader.trans reader, ?_⟩
  exact
    { tallies := wired.tallies.keeps keeps (by rw [holding, holding, keeps.link, pending]) id rfl rfl
      linked := keeps.link.trans wired.linked
      outbox := by rw [outbox, wired.outbox]
      received := keeps.received ▸ wired.received }

theorem send_standing (payload : Bytes) :
    (∃ after, send (.bytes payload) device = .ok () after ∧
      Standing Event.Addressed (Wired start link earlier (written ++ payload) taken) sent after) ∨
    ∃ fault part after, send (.bytes payload) device = .error fault after ∧ part <+: payload ∧
      Standing Event.Addressed (Wired start link earlier (written ++ part) taken) sent after := by
  have ⟨_, _, _, wired⟩ := stands
  cases closed : device.closed with
  | true =>
    refine .inr ⟨_, [], _, send_closed wired.linked payload closed, List.nil_prefix, ?_⟩
    exact standing_writes stands [] (.refl device) rfl (List.append_nil _).symm
  | false =>
    have ran := send_eq wired.linked payload closed
    have keeps : Keeps (fun _ => []) device (device.calls link (Stream.writeAll · payload)) :=
      .inNet device (device.world.net.onStream_drawn link fun stream => stream.writeAll_taken payload)
    have outbox : ((device.calls link (Stream.writeAll · payload)).world.net.link link).stream.outbox =
        ((device.world.net.link link).stream.writeAll payload).2.outbox := by
      simp [calls, inNet, Net.link_updateLink]
    rcases (device.world.net.link link).stream.writeAll_cases payload with
      ⟨stream, wrote, out⟩ | ⟨fault, part, stream, wrote, first, out⟩ <;> rw [wrote] at ran outbox
    · refine .inl ⟨_, ran, standing_writes stands payload (keeps.note _) (note_pending _ _) ?_⟩
      rw [note_net, outbox, out]
    · exact .inr ⟨_, part, _, ran, first, standing_writes stands part keeps rfl (outbox.trans out)⟩

end

end Device
end RelayBench
