import RelayBench.Proofs.Relay.Integrity
import RelayBench.Proofs.Relay.Membership
import RelayBench.Proofs.Workload

/-! The counters of a relay over whole runs.  Each of them is compared with what the run itself shows:
the links that came, left and were closed, the writes that failed and those that went through, and the
bytes that every accepted link holds in the end. -/
namespace RelayBench
namespace Link

/-- How many bytes of a payload a write puts out. -/
def puts (payload : Bytes) (link : Link) : Nat :=
  (link.send payload).2.stream.outbox.length - link.stream.outbox.length

variable (payload : Bytes) (link : Link)

theorem served_outbox : (link.served payload).stream.outbox = (link.send payload).2.stream.outbox := by
  unfold served
  split
  · exact close_outbox _
  · rfl

theorem served_length (os : link.stream.AllOs) :
    (link.served payload).stream.outbox.length = link.stream.outbox.length + link.puts payload := by
  obtain ⟨count, out, _⟩ := link.send_outbox payload os
  have grows : link.stream.outbox.length ≤ (link.send payload).2.stream.outbox.length := by
    rw [out, List.length_append]
    omega
  rw [served_outbox, puts]
  omega

/-- What a write puts out is the whole payload, if it goes through, or what the recipient is dropped
with. -/
theorem puts_eq (os : link.stream.AllOs) (sound : link.broken = false) :
    link.puts payload = (if (link.refusal? payload).isNone then payload.length else 0) +
      (if link.drops payload then link.puts payload else 0) := by
  have length := link.served_length payload os
  cases link.served_share payload os sound with
  | whole accepted stays outbox _ =>
    rw [outbox, List.length_append] at length
    simp only [accepted, stays, Option.isNone_none, if_true, Bool.false_eq_true, if_false]
    omega
  | none refused stays outbox _ =>
    rw [outbox] at length
    have some : (link.refusal? payload).isNone = false := by simpa [Option.isSome_iff_ne_none] using refused
    simp only [some, stays, Bool.false_eq_true, if_false]
    omega
  | part count refused leaves short outbox =>
    have some : (link.refusal? payload).isNone = false := by simpa [Option.isSome_iff_ne_none] using refused
    simp [some, leaves]

end Link

namespace Relay

/-- The members to which an iteration writes what it hands on. -/
def recipients (relay : Relay) : Option Outcome → List Nat
  | some (.broadcast source _) => relay.room.others source
  | _ => []

def payloadOf : Option Outcome → Bytes
  | some (.broadcast _ payload) => payload
  | _ => []

/-- How many of the writes of an iteration raise a fault. -/
def failedWrites (relay : Relay) (outcome : Option Outcome) : Nat :=
  (relay.recipients outcome).countP fun index =>
    ((relay.world.net.link index).refusal? (payloadOf outcome)).isSome

/-- The payload's bytes, once for each write of an iteration that goes through. -/
def wholeWrites (relay : Relay) (outcome : Option Outcome) : Nat :=
  World.total (((relay.recipients outcome).filter fun index =>
    ((relay.world.net.link index).refusal? (payloadOf outcome)).isNone).map fun _ =>
      (payloadOf outcome).length)

/-- The bytes that the recipients whom an iteration drops have taken of the payload. -/
def partWrites (relay : Relay) (outcome : Option Outcome) : Nat :=
  World.total (((relay.recipients outcome).filter fun index =>
    (relay.world.net.link index).drops (payloadOf outcome)).map fun index =>
      (relay.world.net.link index).puts (payloadOf outcome))

/-- The bytes that some links hold of what the relay wrote. -/
def output (relay : Relay) (links : List Nat) : Nat :=
  World.total (links.map fun index => (relay.written index).length)

theorem recipients_sublist (relay : Relay) (outcome : Option Outcome) :
    (relay.recipients outcome).Sublist relay.members := by
  unfold recipients
  split
  · exact List.filter_sublist
  · exact List.nil_sublist _

theorem puts_total {relay : Relay} (sound : relay.Sound) (outcome : Option Outcome) :
    World.total ((relay.recipients outcome).map fun index =>
        (relay.world.net.link index).puts (payloadOf outcome)) =
      relay.wholeWrites outcome + relay.partWrites outcome := by
  rw [wholeWrites, partWrites, World.total_filter, World.total_filter, ← World.total_map_add]
  congr 1
  refine List.map_congr_left fun index member => ?_
  have live := sound.alive index ((relay.recipients_sublist outcome).subset member)
  exact Link.puts_eq _ _ (sound.os.links index) live.broken

/-- How many links an iteration lets in. -/
def arrivals : Option Outcome → Nat
  | some (.accepted _) => 1
  | _ => 0

/-- How an iteration moves the counters. -/
structure Counted (outcome : Option Outcome) (before after : Relay) : Prop where
  accepted : after.accepted = before.accepted + arrivals outcome
  links : after.members.length + after.disconnected =
    before.members.length + before.disconnected + arrivals outcome
  failures : after.writeFailures = before.writeFailures + before.failedWrites outcome
  bytes : after.bytesRelayed = before.bytesRelayed + before.wholeWrites outcome

theorem Counted.silent {outcome : Option Outcome} {before after : Relay}
    (silent : ∀ source payload, outcome ≠ some (.broadcast source payload))
    (accepted : after.accepted = before.accepted + arrivals outcome)
    (links : after.members.length + after.disconnected =
      before.members.length + before.disconnected + arrivals outcome)
    (failures : after.writeFailures = before.writeFailures)
    (bytes : after.bytesRelayed = before.bytesRelayed) : Counted outcome before after := by
  have nobody : before.recipients outcome = [] := by
    unfold recipients
    split
    next source payload => exact absurd rfl (silent source payload)
    · rfl
  refine ⟨accepted, links, ?_, ?_⟩
  · rw [failures, failedWrites, nobody]
    rfl
  · rw [bytes, wholeWrites, nobody]
    rfl

theorem survivors_length (relay : Relay) (payload : Bytes) (source : Nat) :
    (FanOut.survivors payload source relay.room).length +
      (FanOut.tally payload relay.room (relay.room.others source)).dropped.length =
        relay.members.length := by
  have parts := List.length_eq_countP_add_countP (l := relay.members)
    fun index => index == source || !(relay.room.link index).drops payload
  rw [List.countP_eq_length_filter, List.countP_eq_length_filter] at parts
  have dropped : (FanOut.tally payload relay.room (relay.room.others source)).dropped =
      relay.members.filter fun index =>
        decide ¬(index == source || !(relay.room.link index).drops payload) = true := by
    show (relay.room.members.filter (· != source)).filter _ = _
    rw [List.filter_filter]
    refine List.filter_congr fun index _ => ?_
    by_cases own : index = source <;> simp [own]
  rw [dropped, parts]
  rfl

theorem handing_counted (relay : Relay) (source : Nat) (payload : Bytes) (log : List Entry) :
    Counted (some (.broadcast source payload)) relay (relay.handing source payload log) where
  accepted := rfl
  links := by
    have left := relay.survivors_length payload source
    show (FanOut.survivors payload source relay.room).length + (relay.disconnected +
      (FanOut.tally payload relay.room (relay.room.others source)).dropped.length) = _ + _ + 0
    omega
  failures := by
    show relay.writeFailures + ((relay.room.others source).filterMap _).length = _
    rw [List.length_filterMap_eq_countP]
    congr 1
    refine List.countP_congr fun index _ => ?_
    simp [payloadOf, Room.link, world]
  bytes := by
    show relay.bytesRelayed + payload.length * (relay.room.others source).countP _ = _
    rw [wholeWrites, World.total_map_const, List.countP_eq_length_filter]
    rfl

theorem Served.counted {relay after : Relay} {result : Except Fault Outcome}
    (served : Served relay result after) : Counted result.toOption relay after := by
  cases served with
  | nothing => exact .silent (by simp [Except.toOption]) rfl rfl rfl rfl
  | refused net log same => exact .silent (by simp [Except.toOption]) rfl rfl rfl rfl
  | welcomed door first rest log bound queue addressed =>
    refine .silent (by simp [Except.toOption]) rfl ?_ rfl rfl
    show (relay.members ++ [first]).length + relay.disconnected = _ + _ + 1
    rw [List.length_append, List.length_singleton]
    omega
  | misfit | forgone | unread => exact .silent (by simp [Except.toOption]) rfl rfl rfl rfl
  | left source log member none =>
    refine .silent (by simp [Except.toOption]) rfl ?_ rfl rfl
    have fewer := List.length_erase_add_one member
    show (relay.members.erase source).length + (relay.disconnected + 1) = _ + _ + 0
    omega
  | handedOn source payload log member some full => exact relay.handing_counted source payload log

/-- An iteration writes to its recipients only. -/
theorem Served.output {relay after : Relay} {result : Except Fault Outcome} (sound : relay.Sound)
    (served : Served relay result after) (index : Nat) :
    (after.written index).length = (relay.written index).length +
      if index ∈ relay.recipients result.toOption then
        (relay.world.net.link index).puts (payloadOf result.toOption)
      else 0 := by
  by_cases silent : ∀ source payload, result ≠ .ok (.broadcast source payload)
  · have nobody : relay.recipients result.toOption = [] := by
      rcases result with fault | _ | _ | ⟨source, payload⟩ | _ <;>
        first | rfl | exact absurd rfl (silent source payload)
    rw [served.unwritten silent, nobody, if_neg List.not_mem_nil, Nat.add_zero]
  · cases served with
    | handedOn source payload log member some full =>
      have link : (relay.handing source payload log).world.net.link index = _ :=
        handing_link sound payload log index
      show _ = _ + if index ∈ relay.room.members.filter (· != source) then _ else 0
      rw [written, link]
      by_cases own : index = source
      · simp [own, written]
      · rw [if_neg own]
        by_cases inside : index ∈ relay.members
        · have recipient : index ∈ relay.room.members.filter (· != source) :=
            List.mem_filter.mpr ⟨inside, by simp [own]⟩
          rw [if_pos inside, if_pos recipient]
          exact Link.served_length _ _ (sound.os.links index)
        · have outside : index ∉ relay.room.members.filter (· != source) := fun member =>
            inside (List.mem_of_mem_filter member)
          rw [if_neg inside, if_neg outside, written, Nat.add_zero]
    | _ => exact absurd (by simp) silent

end Relay

namespace Frame

/-- How many members a closing of the relay has closed. -/
def evicted (frame : Frame) : Nat :=
  match frame.move with
  | .close => frame.before.members.length
  | _ => 0

def failedWrites (frame : Frame) : Nat := frame.awaited.failedWrites frame.outcome?

def wholeWrites (frame : Frame) : Nat := frame.awaited.wholeWrites frame.outcome?

def partWrites (frame : Frame) : Nat := frame.awaited.partWrites frame.outcome?

/-- How a frame moves the counters. -/
structure Balanced (frame : Frame) : Prop where
  accepted : frame.after.accepted = frame.before.accepted + frame.accepted?.toList.length
  links : frame.after.members.length + frame.after.disconnected + frame.evicted =
    frame.before.members.length + frame.before.disconnected + frame.accepted?.toList.length
  failures : frame.after.writeFailures = frame.before.writeFailures + frame.failedWrites
  bytes : frame.after.bytesRelayed = frame.before.bytesRelayed + frame.wholeWrites

theorem Balanced.quiet {frame : Frame} (quiet : frame.outcome? = none)
    (accepted : frame.after.accepted = frame.before.accepted)
    (links : frame.after.members.length + frame.after.disconnected + frame.evicted =
      frame.before.members.length + frame.before.disconnected)
    (failures : frame.after.writeFailures = frame.before.writeFailures)
    (bytes : frame.after.bytesRelayed = frame.before.bytesRelayed) : frame.Balanced where
  accepted := by simp [accepted, accepted?, quiet]
  links := by simp [links, accepted?, quiet]
  failures := by simp [failures, failedWrites, quiet, Relay.failedWrites, Relay.recipients]
  bytes := by
    rw [bytes, wholeWrites, quiet]
    rfl

theorem accepted?_length (frame : Frame) :
    frame.accepted?.toList.length = Relay.arrivals frame.outcome? := by
  unfold accepted?
  rcases frame.outcome? with _ | _ | _ | _ | _ <;> rfl

end Frame

namespace Relay

/-- A change of the world alone moves no counter. -/
theorem Drift.counters {before after : Relay} (drift : Drift before after) :
    after.accepted = before.accepted ∧ after.disconnected = before.disconnected ∧
      after.writeFailures = before.writeFailures ∧ after.bytesRelayed = before.bytesRelayed := by
  rw [drift.world]
  exact ⟨rfl, rfl, rfl, rfl⟩

section

variable {relay : Relay} (steady : relay.Steady) {move : Move} (system : move.Meets Event.AllOs)
include steady system

theorem stepping_balanced (stepping : move.isStepping = true) : (relay.frame move).Balanced := by
  have nobody : (relay.frame move).evicted = 0 := by
    cases move with
    | close => simp [Move.isStepping] at stepping
    | _ => rfl
  rcases stepping_cases steady.sound steady.script stepping system with
    ⟨drift, quiet⟩ | ⟨result, drift, served, outcome⟩
  · obtain ⟨accepted, disconnected, failures, bytes⟩ := drift.counters
    refine .quiet quiet accepted ?_ failures bytes
    rw [drift.members, disconnected, nobody]
    rfl
  · obtain ⟨accepted, disconnected, failures, bytes⟩ := drift.counters
    have counted := served.counted
    have arrivals := (relay.frame move).accepted?_length
    rw [← outcome] at counted
    refine ⟨?_, ?_, ?_, ?_⟩
    · rw [counted.accepted, accepted, arrivals]
      rfl
    · have links := counted.links
      rw [drift.members, disconnected, ← arrivals] at links
      rw [nobody]
      exact links
    · rw [counted.failures, failures]
      rfl
    · rw [counted.bytes, bytes]
      rfl

theorem frame_balanced : (relay.frame move).Balanced := by
  by_cases stepping : move.isStepping = true
  · exact stepping_balanced steady system stepping
  · cases move with
    | event event => simp [Move.isStepping] at stepping
    | step timeout => simp [Move.isStepping] at stepping
    | bind =>
      obtain ⟨quiet, after⟩ := relay.frame_quiet .bind bind rfl
      obtain ⟨net, log, own, _, bound⟩ := bind_state steady.sound steady.lower steady.upper
      refine .quiet quiet ?_ ?_ ?_ ?_ <;> rw [after, bound] <;> rfl
    | shutdown =>
      obtain ⟨quiet, _⟩ := relay.frame_quiet .shutdown shutdown rfl
      exact .quiet quiet rfl rfl rfl rfl
    | close =>
      obtain ⟨quiet, after⟩ := relay.frame_quiet .close close rfl
      obtain ⟨log, closed⟩ := close_state steady.sound
      refine .quiet quiet ?_ ?_ ?_ ?_ <;> rw [after, closed]
      · rfl
      · show 0 + relay.disconnected + relay.members.length = relay.members.length + relay.disconnected
        omega
      · rfl
      · rfl

/-- What a link holds grows by what was put out to it as a recipient. -/
theorem frame_output {index : Nat} (known : index < relay.world.net.linkCount) :
    ((relay.frame move).after.written index).length = (relay.written index).length +
      if index ∈ (relay.frame move).awaited.recipients (relay.frame move).outcome? then
        ((relay.frame move).awaited.world.net.link index).puts (payloadOf (relay.frame move).outcome?)
      else 0 := by
  have silent (quiet : (relay.frame move).outcome? = none)
      (same : (relay.frame move).after.written index = relay.written index) :
      ((relay.frame move).after.written index).length = (relay.written index).length +
        if index ∈ (relay.frame move).awaited.recipients (relay.frame move).outcome? then
          ((relay.frame move).awaited.world.net.link index).puts (payloadOf (relay.frame move).outcome?)
        else 0 := by
    rw [quiet, same]
    exact (if_neg List.not_mem_nil).symm ▸ rfl
  cases frame_course steady system with
  | drift drift quiet => exact silent quiet (Link.side_outbox (drift.grown.side index known))
  | served result drift served outcome =>
    have same : (relay.frame move).awaited.written index = relay.written index :=
      Link.side_outbox (drift.grown.side index known)
    rw [outcome, served.output (drift.sound steady.sound) index, same]
  | bound after quiet =>
    obtain ⟨net, log, own, added, bound⟩ := bind_state steady.sound steady.lower steady.upper
    refine silent quiet ?_
    rw [after, bound]
    exact congrArg (fun link : Link => link.stream.outbox) (added.link index)
  | closed after quiet =>
    obtain ⟨log, closed⟩ := close_state steady.sound
    refine silent quiet ?_
    rw [after, closed]
    show (relay.closedNet.link index).stream.outbox = _
    rw [closedNet_link steady.sound]
    split
    · exact Link.close_outbox _
    · split <;> rfl

theorem frame_accepted_blank {index : Nat} (joined : (relay.frame move).accepted? = some index) :
    (relay.frame move).after.written index = [] := by
  cases move with
  | event event => exact (frame_joined steady rfl system joined).2
  | step timeout => exact (frame_joined steady rfl system joined).2
  | bind => simp [Frame.accepted?, (relay.frame_quiet .bind bind rfl).1] at joined
  | shutdown => simp [Frame.accepted?, (relay.frame_quiet .shutdown shutdown rfl).1] at joined
  | close => simp [Frame.accepted?, (relay.frame_quiet .close close rfl).1] at joined

/-- All that the accepted links hold grows by what went through and by what recipients were dropped with. -/
theorem frame_output_total {accepted : List Nat} (follows : Follows accepted relay) :
    (relay.frame move).after.output (accepted ++ (relay.frame move).accepted?.toList) =
      relay.output accepted + (relay.frame move).wholeWrites + (relay.frame move).partWrites := by
  have drift := awaited_drift steady move
  have known (index : Nat) (member : index ∈ accepted) : index < relay.world.net.linkCount := by
    rcases follows.fate index member with inside | gone
    · exact (steady.sound.alive index inside).known
    · exact gone.known
  have old : (relay.frame move).after.output accepted =
      relay.output accepted + (relay.frame move).wholeWrites + (relay.frame move).partWrites := by
    have within := ((relay.frame move).awaited.recipients_sublist (relay.frame move).outcome?).trans
      (drift.members ▸ follows.order)
    rw [output, List.map_congr_left fun index member => frame_output steady system (known index member),
      World.total_map_add, World.total_sublist within follows.once,
      puts_total (drift.sound steady.sound), Nat.add_assoc]
    rfl
  have new : (relay.frame move).after.output (relay.frame move).accepted?.toList = 0 := by
    cases joined : (relay.frame move).accepted? with
    | none => rfl
    | some index =>
      show ((relay.frame move).after.written index).length + 0 = 0
      rw [frame_accepted_blank steady system joined]
      rfl
  rw [output, List.map_append, World.total_append]
  exact (congrArg₂ (· + ·) old new).trans (Nat.add_zero _)

end

theorem run_balanced {relay : Relay} (steady : relay.Steady) {moves : List Move}
    (system : ∀ move ∈ moves, move.Meets Event.AllOs) :
    (relay.afterAll moves).accepted =
      relay.accepted + ((relay.trace moves).filterMap Frame.accepted?).length ∧
    (relay.afterAll moves).members.length + (relay.afterAll moves).disconnected +
        World.total ((relay.trace moves).map Frame.evicted) =
      relay.members.length + relay.disconnected +
        ((relay.trace moves).filterMap Frame.accepted?).length ∧
    (relay.afterAll moves).writeFailures =
      relay.writeFailures + World.total ((relay.trace moves).map Frame.failedWrites) ∧
    (relay.afterAll moves).bytesRelayed =
      relay.bytesRelayed + World.total ((relay.trace moves).map Frame.wholeWrites) := by
  induction moves generalizing relay with
  | nil => exact ⟨rfl, rfl, rfl, rfl⟩
  | cons move rest ih =>
    obtain ⟨here, others⟩ := List.forall_mem_cons.mp system
    have first := frame_balanced steady here
    obtain ⟨accepted, links, failures, bytes⟩ := ih (steady.frame here) others
    have joins : ((relay.trace (move :: rest)).filterMap Frame.accepted?).length =
        (relay.frame move).accepted?.toList.length +
          (((relay.frame move).after.trace rest).filterMap Frame.accepted?).length := by
      rw [trace, List.filterMap_cons]
      cases (relay.frame move).accepted? <;> simp [Nat.add_comm]
    rw [joins]
    simp only [trace, Relay.afterAll, List.map_cons, World.total_cons]
    refine ⟨?_, ?_, ?_, ?_⟩
    · rw [accepted, first.accepted, Nat.add_assoc]
      rfl
    · have now : (relay.frame move).after.members.length + (relay.frame move).after.disconnected +
          (relay.frame move).evicted =
          relay.members.length + relay.disconnected + (relay.frame move).accepted?.toList.length :=
        first.links
      omega
    · rw [failures, first.failures, Nat.add_assoc]
      rfl
    · rw [bytes, first.bytes, Nat.add_assoc]
      rfl

theorem run_output {relay : Relay} (steady : relay.Steady) {moves : List Move}
    (system : ∀ move ∈ moves, move.Meets Event.AllOs) {accepted : List Nat}
    (follows : Follows accepted relay) :
    (relay.afterAll moves).output (accepted ++ (relay.trace moves).filterMap Frame.accepted?) =
      relay.output accepted + World.total ((relay.trace moves).map Frame.wholeWrites) +
        World.total ((relay.trace moves).map Frame.partWrites) := by
  induction moves generalizing relay accepted with
  | nil => simp [trace, Relay.afterAll, World.total]
  | cons move rest ih =>
    obtain ⟨here, others⟩ := List.forall_mem_cons.mp system
    have first := frame_output_total steady here follows
    have more := ih (steady.frame here) others (follows.frame steady here)
    have joins : (relay.trace (move :: rest)).filterMap Frame.accepted? =
        (relay.frame move).accepted?.toList ++
          ((relay.frame move).after.trace rest).filterMap Frame.accepted? := by
      rw [trace, List.filterMap_cons]
      cases (relay.frame move).accepted? <;> rfl
    rw [joins, ← List.append_assoc, Relay.afterAll, more, first]
    simp only [trace, List.map_cons, World.total_cons]
    omega

/-- The counters of a relay in every state that a fresh relay comes to, by any calls and events and with
any faults of the operating system.  Every link that came in has left, is a member or was closed with the
relay.  As many writes of a payload to a recipient failed as are counted; the bytes counted are those of
the payloads, once for each write that went through; and what the accepted links have been written is
that and, besides, the parts with which recipients were dropped. -/
theorem counters_of_run (settings : RelaySettings) (world : World) (moves : List Move)
    (lower : 0 ≤ settings.port) (upper : settings.port ≤ 65535)
    (grounded : (ofSettings settings world).Grounded) (os : world.AllOs)
    (system : ∀ move ∈ moves, move.Meets Event.AllOs) :
    let start := ofSettings settings world
    let relay := start.afterAll moves
    let frames := start.trace moves
    let accepted := frames.filterMap Frame.accepted?
    relay.accepted = accepted.length ∧
    relay.accepted = relay.disconnected + relay.members.length + World.total (frames.map Frame.evicted) ∧
    relay.writeFailures = World.total (frames.map Frame.failedWrites) ∧
    relay.bytesRelayed = World.total (frames.map Frame.wholeWrites) ∧
    World.total (accepted.map fun index => (relay.written index).length) =
      relay.bytesRelayed + World.total (frames.map Frame.partWrites) := by
  intro start relay frames accepted
  have steady : start.Steady := ofSettings_steady settings grounded os lower upper
  obtain ⟨joins, links, failures, bytes⟩ := run_balanced steady system
  have blank : Follows [] start := ⟨.refl _, List.nodup_nil, by simp⟩
  have output := run_output steady system blank
  have joined : relay.accepted = accepted.length := joins.trans (Nat.zero_add _)
  have relayed : relay.bytesRelayed = World.total (frames.map Frame.wholeWrites) :=
    bytes.trans (Nat.zero_add _)
  refine ⟨joined, ?_, failures.trans (Nat.zero_add _), relayed, ?_⟩
  · have balance : relay.members.length + relay.disconnected + World.total (frames.map Frame.evicted) =
        0 + 0 + accepted.length := links
    omega
  · have written : World.total (accepted.map fun index => (relay.written index).length) =
        0 + World.total (frames.map Frame.wholeWrites) + World.total (frames.map Frame.partWrites) :=
      output
    rw [written, relayed, Nat.zero_add]

/-- Two links come in, of which the second takes two bytes and no more.  It takes one payload and is cut
off in the next one, and the first link stays until the relay is closed. -/
def narrowRun : List Move :=
  .bind :: narrowComer ++ [.step none, .event (.send "ann" [1]), .step none,
    .event (.send "ann" [2, 3, 4]), .step none, .close]

theorem counters_of_narrowRun :
    let start := ofSettings plainSettings {}
    let relay := start.afterAll narrowRun
    let frames := start.trace narrowRun
    let accepted := frames.filterMap Frame.accepted?
    accepted = [0, 1] ∧ World.total (frames.map Frame.evicted) = 1 ∧ relay.members = [] ∧
      relay.disconnected = 1 ∧ relay.writeFailures = 1 ∧ relay.bytesRelayed = 1 ∧
      World.total (accepted.map fun index => (relay.written index).length) = 1 + 1 := by
  intro start relay frames accepted
  obtain ⟨joined, balance, failures, bytes, output⟩ := counters_of_run plainSettings {} narrowRun
    (by decide) (by decide) (suited_of_blank rfl).toGrounded blank_allOs
    (by simp [narrowRun, narrowComer, Move.Meets, Event.AllOs])
  have links : accepted = [0, 1] := by decide +kernel
  have evicted : World.total (frames.map Frame.evicted) = 1 := by decide +kernel
  have members : relay.members = [] := by decide +kernel
  have whole : World.total (frames.map Frame.wholeWrites) = 1 := by decide +kernel
  have part : World.total (frames.map Frame.partWrites) = 1 := by decide +kernel
  have failed : World.total (frames.map Frame.failedWrites) = 1 := by decide +kernel
  refine ⟨links, evicted, members, ?_, failures.trans failed, bytes.trans whole, ?_⟩
  · have two : relay.accepted = 2 := joined.trans (congrArg List.length links)
    have none : relay.members.length = 0 := congrArg List.length members
    have sum : relay.accepted =
      relay.disconnected + relay.members.length + World.total (frames.map Frame.evicted) := balance
    omega
  · exact output.trans (congrArg₂ (· + ·) (bytes.trans whole) part)

end Relay
end RelayBench
