import RelayBench.Proofs.Relay.Run

/-! What the relay writes to a member, frame by frame and over whole runs: whole payloads, and at most
one cut-off payload at the end, with which the member leaves. -/
namespace RelayBench

/-- The payload that an iteration hands to a member: what another member sent. -/
def meantFor (outcome : Option Outcome) (index : Nat) : Option Bytes :=
  match outcome with
  | some (.broadcast source payload) => if source = index then none else some payload
  | _ => none

def Frame.payloadFor? (frame : Frame) (index : Nat) : Option Bytes := meantFor frame.outcome? index

def Relay.written (relay : Relay) (index : Nat) : Bytes := (relay.world.net.link index).stream.outbox

namespace Relay

/-- How an iteration went for one of the members: a payload was handed to it and it took all of it, or
nothing and stayed, or less than all of it and left; or no payload was meant for it. -/
inductive Handed (outcome : Option Outcome) (before awaited after : Relay) (index : Nat) : Prop
  | whole (payload : Bytes) (meant : meantFor outcome index = some payload)
      (accepted : (awaited.world.net.link index).refusal? payload = none)
      (stays : index ∈ after.members) (written : after.written index = before.written index ++ payload)
  | nothing (payload : Bytes) (meant : meantFor outcome index = some payload)
      (refused : (awaited.world.net.link index).refusal? payload ≠ none)
      (stays : index ∈ after.members) (written : after.written index = before.written index)
  | part (payload : Bytes) (count : Nat) (meant : meantFor outcome index = some payload)
      (refused : (awaited.world.net.link index).refusal? payload ≠ none)
      (short : count < payload.length) (leaves : index ∉ after.members)
      (written : after.written index = before.written index ++ payload.take count)
  | unmeant (none : meantFor outcome index = none)
      (written : after.written index = before.written index)

/-- An iteration that hands nothing on writes nothing. -/
theorem Served.unwritten {relay after : Relay} {result : Except Fault Outcome}
    (served : Served relay result after)
    (silent : ∀ source payload, result ≠ .ok (.broadcast source payload)) (index : Nat) :
    after.written index = relay.written index := by
  cases served with
  | nothing => rfl
  | refused net log same => rcases same with rfl | rfl <;> rfl
  | welcomed door first rest log bound queue addressed =>
    show ((relay.taking door first rest).link index).stream.outbox = _
    rw [taking_link]
    split
    next same => rw [Link.adopt_outbox, same, written]
    · rfl
  | misfit fault door first rest | forgone fault door first rest =>
    show ((relay.taking door first rest).link index).stream.outbox = _
    rw [taking_link]
    split
    next same => rw [Link.adopt_outbox, same, written]
    · rfl
  | left source log member none =>
    rw [written, parting_link]
    split
    next same =>
      rw [Link.close_outbox, same]
      exact Link.read_outbox ..
    · rfl
  | handedOn source payload log member some full => exact absurd rfl (silent source payload)
  | unread source fault member fails =>
    show ((relay.readNet source).link index).stream.outbox = _
    rw [readNet_link]
    split
    next same => rw [Link.read_outbox, same, written]
    · rfl

theorem handing_handed {relay : Relay} (sound : relay.Sound) (source : Nat) (payload : Bytes)
    (log : List Entry) {index : Nat} (member : index ∈ relay.members) :
    Handed (some (.broadcast source payload)) relay relay (relay.handing source payload log) index := by
  have link : (relay.handing source payload log).world.net.link index = _ := handing_link sound payload log index
  by_cases own : source = index
  · refine .unmeant (by simp [meantFor, own]) ?_
    rw [written, link, if_pos own.symm, own]
    exact Link.read_outbox ..
  · have other : index ≠ source := Ne.symm own
    have meant : meantFor (some (.broadcast source payload)) index = some payload := by
      simp [meantFor, own]
    rw [if_neg other, if_pos member] at link
    have live := sound.alive index member
    cases Link.served_share payload _ (sound.os.links index) live.broken with
    | whole accepted stays outbox _ =>
      exact .whole payload meant accepted ((mem_handing ..).mpr ⟨member, .inr stays⟩)
        (by rw [written, link, outbox]; rfl)
    | none refused stays outbox _ =>
      exact .nothing payload meant refused ((mem_handing ..).mpr ⟨member, .inr stays⟩)
        (by rw [written, link, outbox]; rfl)
    | part count refused leaves short outbox =>
      refine .part payload count meant refused short (fun stays => ?_) (by rw [written, link, outbox]; rfl)
      have kept := ((mem_handing ..).mp stays).2.resolve_left other
      exact absurd leaves (by simp [kept])

theorem Served.handed {relay after : Relay} {result : Except Fault Outcome} (sound : relay.Sound)
    (served : Served relay result after) {index : Nat} (member : index ∈ relay.members) :
    Handed result.toOption relay relay after index := by
  by_cases silent : ∀ source payload, result ≠ .ok (.broadcast source payload)
  · refine .unmeant ?_ (served.unwritten silent index)
    rcases result with fault | _ | _ | ⟨source, payload⟩ | _ <;>
      first | rfl | exact absurd rfl (silent source payload)
  · cases served with
    | handedOn source payload log inside some full => exact handing_handed sound source payload log member
    | _ => exact absurd (by simp) silent

section

variable {relay : Relay} (steady : relay.Steady) {move : Move} (stepping : move.isStepping = true)
  (system : move.Meets Event.AllOs) {index : Nat}
include steady stepping system

theorem frame_handed (member : index ∈ relay.members) :
    Handed (relay.frame move).outcome? relay (relay.frame move).awaited (relay.frame move).after index := by
  have alive := steady.sound.alive index member
  rcases stepping_cases steady.sound steady.script stepping system with
    ⟨drift, quiet⟩ | ⟨result, drift, served, outcome⟩
  · exact .unmeant (by rw [quiet]; rfl) (Link.side_outbox (drift.grown.side index alive.known))
  · have same : (relay.frame move).awaited.written index = relay.written index :=
      Link.side_outbox (drift.grown.side index alive.known)
    rw [outcome]
    have handed := served.handed (drift.sound steady.sound) (drift.members ▸ member)
    cases handed with
    | whole payload meant accepted stays written =>
      exact .whole payload meant accepted stays (same ▸ written)
    | nothing payload meant refused stays written =>
      exact .nothing payload meant refused stays (same ▸ written)
    | part payload count meant refused short leaves written =>
      exact .part payload count meant refused short leaves (same ▸ written)
    | unmeant none written => exact .unmeant none (same ▸ written)

/-- A link that an iteration lets in has been written nothing yet. -/
theorem frame_joined (joined : (relay.frame move).accepted? = some index) :
    index ∈ (relay.frame move).after.members ∧ (relay.frame move).after.written index = [] := by
  rcases stepping_cases steady.sound steady.script stepping system with
    ⟨drift, quiet⟩ | ⟨result, drift, served, outcome⟩
  · simp [Frame.accepted?, quiet] at joined
  · have sound := drift.sound steady.sound
    rw [Frame.accepted?, outcome] at joined
    generalize (relay.frame move).awaited = awaited at served sound
    generalize (relay.frame move).after = after at served
    cases served with
    | welcomed door first rest log bound queue addressed =>
      cases joined
      have waits : index ∈ awaited.waiting := by simp [waiting, bound, queue]
      refine ⟨List.mem_append_right _ (List.mem_singleton_self index), ?_⟩
      show ((awaited.taking door index rest).link index).stream.outbox = []
      rw [taking_link, if_pos rfl, Link.adopt_outbox]
      exact (sound.fresh index waits).2.2
    | _ => cases joined

end

/-- A payload that was cut off: the member holds a part of it only, leaves and is closed in that very
frame, and is not written to afterwards. -/
structure CutOff (index : Nat) (cut : Bytes) (frame : Frame) (later : List Frame) : Prop where
  part : ∃ payload, frame.payloadFor? index = some payload ∧ cut <+: payload ∧ cut ≠ [] ∧ cut ≠ payload
  leaves : index ∈ frame.before.members ∧ index ∉ frame.after.members
  closed : (frame.after.world.net.link index).closed = true ∧
    (frame.after.world.net.link index).hasDescriptor = false
  silent : ∀ next ∈ later, next.after.written index = frame.after.written index

/-- What was written during a run: whole payloads that were meant for the link, one after the other, and
at most one cut-off payload behind them. -/
inductive Whole (index : Nat) (frames : List Frame) (whole : List Bytes) : Bytes → Prop
  | clean (meant : whole.Sublist (frames.filterMap (Frame.payloadFor? · index))) :
      Whole index frames whole []
  | cut (cut : Bytes) (earlier later : List Frame) (frame : Frame)
      (split : frames = earlier ++ frame :: later)
      (meant : whole.Sublist (earlier.filterMap (Frame.payloadFor? · index)))
      (off : CutOff index cut frame later) : Whole index frames whole cut

theorem Whole.cons {index : Nat} {frames : List Frame} {whole : List Bytes} {cut : Bytes} {frame : Frame}
    (run : Whole index frames whole cut) (got : List Bytes)
    (meant : got.Sublist (frame.payloadFor? index).toList) :
    Whole index (frame :: frames) (got ++ whole) cut := by
  have more (frames : List Frame) : ((frame :: frames).filterMap (Frame.payloadFor? · index)) =
      (frame.payloadFor? index).toList ++ frames.filterMap (Frame.payloadFor? · index) := by
    rw [List.filterMap_cons]
    cases frame.payloadFor? index <;> rfl
  cases run with
  | clean all => exact .clean (more frames ▸ meant.append all)
  | cut cut earlier later last split all off =>
    exact .cut cut (frame :: earlier) later last (congrArg (frame :: ·) split)
      (more earlier ▸ meant.append all) off

theorem whole_run {relay : Relay} (steady : relay.Steady) {moves : List Move}
    (stepping : ∀ move ∈ moves, move.isStepping = true) (system : ∀ move ∈ moves, move.Meets Event.AllOs)
    {index : Nat} (member : index ∈ relay.members) :
    ∃ whole cut, (relay.afterAll moves).written index = relay.written index ++ (whole.flatten ++ cut) ∧
      Whole index (relay.trace moves) whole cut := by
  -- From the front: while the link stays, the rest of the run goes on from a whole payload or none;
  -- once it has left, nothing more is written to it.
  induction moves generalizing relay with
  | nil => exact ⟨[], [], by simp [Relay.afterAll], .clean (List.nil_sublist _)⟩
  | cons move rest ih =>
    obtain ⟨goes, steps⟩ := List.forall_mem_cons.mp stepping
    obtain ⟨first, others⟩ := List.forall_mem_cons.mp system
    have next := steady.frame first
    have kept := frame_kept steady first
    have later (stays : index ∈ (relay.frame move).after.members) := ih next steps others stays
    have ended (leaves : index ∉ (relay.frame move).after.members) :=
      (kept.fate index member).resolve_left leaves
    have handed := frame_handed steady goes first member
    cases handed with
    | whole payload meant accepted stays written =>
      obtain ⟨whole, cut, run, course⟩ := later stays
      refine ⟨[payload] ++ whole, cut, ?_, course.cons [payload] ?_⟩
      · rw [Relay.afterAll, run, written]
        simp
      · simp [Frame.payloadFor?, meant]
    | nothing payload meant refused stays written =>
      obtain ⟨whole, cut, run, course⟩ := later stays
      refine ⟨[] ++ whole, cut, ?_, course.cons [] (List.nil_sublist _)⟩
      rw [Relay.afterAll, run, written]
      rfl
    | part payload count meant refused short leaves written =>
      have gone := ended leaves
      have same : (relay.afterAll (move :: rest)).written index = relay.written index ++ payload.take count :=
        (gone_forever next gone others).2.trans written
      by_cases none : count = 0
      · exact ⟨[], [], by simp [same, none], .clean (List.nil_sublist _)⟩
      · have size : (payload.take count).length = count := by simp; omega
        refine ⟨[], payload.take count, by simp [same], ?_⟩
        refine .cut _ [] _ (relay.frame move) rfl (List.nil_sublist _) ⟨?_, ⟨member, leaves⟩, ?_, ?_⟩
        · refine ⟨payload, meant, List.take_prefix count payload, fun empty => none ?_, fun all => ?_⟩
          · rw [← size, empty, List.length_nil]
          · rw [all] at size
            omega
        · exact ⟨gone.closed, gone.shut⟩
        · exact fun after inside => (gone_trace next gone others after inside).2
    | unmeant none written =>
      by_cases stays : index ∈ (relay.frame move).after.members
      · obtain ⟨whole, cut, run, course⟩ := later stays
        refine ⟨[] ++ whole, cut, ?_, course.cons [] (List.nil_sublist _)⟩
        rw [Relay.afterAll, run, written]
        rfl
      · have silent := (gone_forever next (ended stays) others).2
        exact ⟨[], [], by simp; exact silent.trans written, .clean (List.nil_sublist _)⟩

/-- What the relay writes to any link that it ever accepts, whatever comes in between and whatever writes
fail: whole payloads, each in its turn, and then at most one non-empty, proper front part of a payload;
with such a part the link leaves and is closed in that very frame, and is not written to again.  So no
member is ever broken. -/
theorem integrity_of_run (settings : RelaySettings) (world : World) (relay : Relay) (moves : List Move)
    (ends : world.net.platform.isEndless settings.writeTimeout = false) (os : world.AllOs)
    (bound : bind (ofSettings settings world) = .ok () relay)
    (stepping : ∀ move ∈ moves, move.isStepping = true)
    (system : ∀ move ∈ moves, move.Meets Event.AllOs) :
    (∀ earlier join later index, relay.trace moves = earlier ++ join :: later →
      join.accepted? = some index →
      ∃ whole cut, (relay.afterAll moves).written index = whole.flatten ++ cut ∧
        Whole index later whole cut) ∧
    ∀ index ∈ (relay.afterAll moves).members,
      ((relay.afterAll moves).world.net.link index).broken = false := by
  have steady := bound_steady ends os bound
  refine ⟨fun earlier join later index split joined => ?_, fun index member => ?_⟩
  · obtain ⟨before, move, rest, rfl, rfl, rfl, rfl⟩ := trace_split split
    obtain ⟨_, steps⟩ := List.forall_mem_append.mp stepping
    obtain ⟨prior, rest⟩ := List.forall_mem_append.mp system
    obtain ⟨goes, steps⟩ := List.forall_mem_cons.mp steps
    obtain ⟨here, rest⟩ := List.forall_mem_cons.mp rest
    have before := steady.afterAll prior
    obtain ⟨member, blank⟩ := frame_joined before goes here joined
    obtain ⟨whole, cut, run, course⟩ := whole_run (before.frame here) steps rest member
    refine ⟨whole, cut, ?_, course⟩
    rw [afterAll_append]
    exact run.trans (by rw [blank, List.nil_append])
  · exact ((steady.afterAll system).sound.alive index member).broken

/-- Two clients connect, and the first link comes in; the second one takes two bytes and no more. -/
def narrowComer : List Move :=
  [.event (.connect "ann" none none none none), .event (.connect "bob" none (some 2) none none),
    .step none]

/-- The first client sends three bytes and one more. -/
def twoSends : List Move :=
  [.event (.send "ann" [1, 2, 3]), .step none, .event (.send "ann" [4]), .step none]

theorem integrity_of_narrowComer :
    let relay := Action.state (bind (ofSettings plainSettings {}))
    let moves := narrowComer ++ .step none :: twoSends
    let join := (relay.afterAll narrowComer).frame (.step none)
    (relay.afterAll moves).written 1 = [1, 2] ∧ (relay.afterAll moves).members = [0] ∧
      (∃ whole cut, (relay.afterAll moves).written 1 = whole.flatten ++ cut ∧
        Whole 1 (join.after.trace twoSends) whole cut) ∧
      ∀ index ∈ (relay.afterAll moves).members,
        ((relay.afterAll moves).world.net.link index).broken = false := by
  intro relay moves join
  obtain ⟨writes, sound⟩ := integrity_of_run plainSettings {} relay moves rfl blank_allOs (by rfl)
    (by decide) (by simp [moves, narrowComer, twoSends, Move.Meets, Event.AllOs])
  have joined : join.accepted? = some 1 := by decide +kernel
  exact ⟨by decide +kernel, by decide +kernel,
    writes _ join _ 1 (trace_append relay narrowComer (.step none :: twoSends)) joined, sound⟩

end Relay
end RelayBench
