import RelayBench.Proofs.Net.Ledger
import RelayBench.Proofs.Relay.Integrity
import RelayBench.Proofs.Relay.Membership

/-! Delivery from end to end.  What each client has sent is kept account of through all events and
iterations, and what a member that never refuses a write is given is compared with it: every payload
of the others while it is a member, once and in order, and of each other client one unbroken stretch
of what that client sent. -/
namespace RelayBench
namespace Frame

def sentBy (frame : Frame) (index : Nat) : Bytes :=
  match frame.move with
  | .event event => frame.before.world.net.arrivals index [event]
  | .step timeout =>
    (frame.before.world.net.called .select).arrivals index (frame.before.heard timeout)
  | _ => []

def readFrom (frame : Frame) (index : Nat) : Bytes := Relay.takenFrom frame.outcome? index

end Frame

namespace Relay

open Net (Ledger)

theorem Served.ledger {relay after : Relay} {result : Except Fault Outcome} {sent read : Nat → Bytes}
    (sound : relay.Sound) (served : Served relay result after) (ledger : Ledger sent read relay.world.net) :
    Ledger sent (fun index => read index ++ takenFrom result.toOption index) after.world.net where
  balance := by
    intro index known
    rw [(served.turn sound).linkCount] at known
    exact (ledger.balance index known).taken (served.taken sound index)
  unborn := by
    intro index unknown
    rw [(served.turn sound).linkCount] at unknown
    obtain ⟨noneSent, noneRead⟩ := ledger.unborn index unknown
    have nothing : takenFrom result.toOption index = [] := by
      cases served with
      | handedOn source payload log member some full =>
        have known := (sound.alive source member).known
        exact if_neg fun same => by omega
      | _ => rfl
    rw [noneSent, noneRead, nothing]
    exact ⟨rfl, rfl⟩

theorem await_ledger {relay : Relay} {sent read : Nat → Bytes} (ledger : Ledger sent read relay.world.net)
    (timeout : Option Number) :
    Ledger (fun index => sent index ++
        (relay.world.net.called .select).arrivals index (relay.heard timeout)) read
      (Action.state (await timeout relay)).world.net := by
  rcases relay.await_cases timeout with ⟨heard, fault, ran⟩ | ⟨door, world, _, heard, waited, course⟩
  · rw [ran, heard]
    simpa [Net.arrivals] using ledger
  · have called : Ledger sent read (relay.world.net.called .select) := ⟨ledger.balance, ledger.unborn⟩
    have settled := called.applyAll relay.world.upcoming
    have final : Ledger (fun index => sent index ++
        (relay.world.net.called .select).arrivals index (relay.heard timeout)) read world.net := by
      rw [heard, waited.net]
      exact settled
    rcases course with ⟨fault, ran⟩ | ⟨ready, ran, _⟩ <;> rw [ran] <;> exact final

section

variable {relay : Relay} (steady : relay.Steady)
include steady

theorem frame_ledger {move : Move} (stepping : move.isStepping = true) {sent read : Nat → Bytes}
    (ledger : Ledger sent read relay.world.net) :
    Ledger (fun index => sent index ++ (relay.frame move).sentBy index)
      (fun index => read index ++ (relay.frame move).readFrom index)
      (relay.frame move).after.world.net := by
  cases move with
  | event event =>
    obtain ⟨quiet, stop, after⟩ := relay.frame_event event
    have happened := ledger.applyAll [event]
    simp only [Frame.readFrom, quiet, takenFrom, List.append_nil, after]
    exact happened
  | step timeout =>
    have waited := await_ledger ledger timeout
    have drift := await_drift steady.sound.os steady.script timeout
    rcases step_course steady.sound steady.script timeout with ⟨after, quiet⟩ | ⟨result, served, outcome⟩
    · simp only [Frame.readFrom, quiet, takenFrom, List.append_nil, after]
      exact waited
    · simp only [Frame.readFrom, outcome]
      exact served.ledger (drift.sound steady.sound) waited
  | bind => simp [Move.isStepping] at stepping
  | shutdown => simp [Move.isStepping] at stepping
  | close => simp [Move.isStepping] at stepping

theorem run_ledger {moves : List Move} (stepping : ∀ move ∈ moves, move.isStepping = true)
    (system : ∀ move ∈ moves, move.Meets Event.AllOs) {sent read : Nat → Bytes}
    (ledger : Ledger sent read relay.world.net) :
    Ledger (fun index => sent index ++ (relay.trace moves).flatMap (Frame.sentBy · index))
      (fun index => read index ++ (relay.trace moves).flatMap (Frame.readFrom · index))
      (relay.afterAll moves).world.net := by
  induction moves generalizing relay sent read with
  | nil => simpa [trace, Relay.afterAll] using ledger
  | cons move rest ih =>
    obtain ⟨goes, steps⟩ := List.forall_mem_cons.mp stepping
    obtain ⟨here, others⟩ := List.forall_mem_cons.mp system
    have more := ih (steady.frame here) steps others (frame_ledger steady goes ledger)
    simpa [trace, Relay.afterAll, List.append_assoc] using more

end

end Relay

namespace Frame

/-- What a frame hands to a link: the source of the bytes and the bytes, unless they are its own. -/
def delivery? (frame : Frame) (index : Nat) : Option (Nat × Bytes) :=
  match frame.outcome? with
  | some (.broadcast source payload) => if source = index then none else some (source, payload)
  | _ => none

/-- Whether no write to a link raises a fault when the frame hands a payload to it as a member. -/
def takesAll (frame : Frame) (index : Nat) : Bool :=
  match frame.payloadFor? index with
  | some payload =>
    !frame.before.members.contains index ||
      ((frame.awaited.world.net.link index).refusal? payload).isNone
  | none => true

end Frame

namespace Relay

/-- The frames for as long as a link is a member. -/
def stint (index : Nat) (frames : List Frame) : List Frame :=
  frames.takeWhile fun frame => decide (index ∈ frame.before.members)

def deliveries (index : Nat) (frames : List Frame) : List (Nat × Bytes) :=
  frames.filterMap (Frame.delivery? · index)

def joined (deliveries : List (Nat × Bytes)) : Bytes := (deliveries.map Prod.snd).flatten

theorem stint_gone {relay : Relay} {index : Nat} (outside : index ∉ relay.members) (moves : List Move) :
    stint index (relay.trace moves) = [] := by
  cases moves with
  | nil => rfl
  | cons move rest => exact List.takeWhile_cons_of_neg fun inside => outside (of_decide_eq_true inside)

theorem deliveries_cons (index : Nat) (frame : Frame) (frames : List Frame) :
    deliveries index (frame :: frames) = (frame.delivery? index).toList ++ deliveries index frames := by
  rw [deliveries, List.filterMap_cons]
  cases frame.delivery? index <;> rfl

theorem joined_append (early late : List (Nat × Bytes)) : joined (early ++ late) = joined early ++ joined late := by
  simp [joined]

theorem joined_delivery (frame : Frame) (index : Nat) :
    joined (frame.delivery? index).toList = (frame.payloadFor? index).getD [] := by
  unfold Frame.payloadFor? Frame.delivery?
  generalize frame.outcome? = outcome
  rcases outcome with _ | _ | _ | ⟨source, payload⟩ | _ <;> try rfl
  by_cases own : source = index <;> simp [meantFor, own, joined]

/-- Of what is handed to a link, the part from another link is what was read from that one. -/
theorem joined_delivery_from (frame : Frame) {index other : Nat} (apart : other ≠ index) :
    joined ((frame.delivery? index).toList.filter (·.1 == other)) = frame.readFrom other := by
  unfold Frame.delivery? Frame.readFrom
  generalize frame.outcome? = outcome
  rcases outcome with _ | _ | _ | ⟨source, payload⟩ | _ <;> try rfl
  by_cases own : source = index
  · have elsewhere : index ≠ other := Ne.symm apart
    simp [own, takenFrom, elsewhere, joined]
  · by_cases here : source = other <;> simp [here, own, apart, takenFrom, joined]

/-- A member that takes all that it is handed has been written exactly that. -/
theorem delivered_run {relay : Relay} (steady : relay.Steady) {moves : List Move}
    (stepping : ∀ move ∈ moves, move.isStepping = true) (system : ∀ move ∈ moves, move.Meets Event.AllOs)
    {index : Nat} (member : index ∈ relay.members)
    (takes : ∀ frame ∈ relay.trace moves, frame.takesAll index = true) :
    (relay.afterAll moves).written index =
      relay.written index ++ joined (deliveries index (stint index (relay.trace moves))) := by
  induction moves generalizing relay with
  | nil => simp [Relay.afterAll, trace, stint, deliveries, joined]
  | cons move rest ih =>
    obtain ⟨goes, steps⟩ := List.forall_mem_cons.mp stepping
    obtain ⟨here, others⟩ := List.forall_mem_cons.mp system
    obtain ⟨now, later⟩ := List.forall_mem_cons.mp takes
    have next := steady.frame here
    have first : stint index (relay.trace (move :: rest)) =
        relay.frame move :: stint index ((relay.frame move).after.trace rest) :=
      List.takeWhile_cons_of_pos (decide_eq_true member)
    have accepts {payload : Bytes} (meant : (relay.frame move).payloadFor? index = some payload) :
        ((relay.frame move).awaited.world.net.link index).refusal? payload = none := by
      have inside : (relay.frame move).before.members.contains index = true := List.contains_iff_mem.mpr member
      rw [Frame.takesAll, meant] at now
      simpa only [inside, Bool.not_true, Bool.false_or, Option.isNone_iff_eq_none] using now
    have more (stays : index ∈ (relay.frame move).after.members) := ih next steps others stays later
    rw [first, Relay.afterAll, deliveries_cons, joined_append, joined_delivery]
    cases frame_handed steady goes here member with
    | whole payload meant accepted stays written =>
      rw [more stays, written, show (relay.frame move).payloadFor? index = some payload from meant,
        List.append_assoc]
      rfl
    | nothing payload meant refused stays written => exact absurd (accepts meant) refused
    | part payload count meant refused short leaves written => exact absurd (accepts meant) refused
    | unmeant none written =>
      rw [show (relay.frame move).payloadFor? index = .none from none]
      by_cases stays : index ∈ (relay.frame move).after.members
      · rw [more stays, written]
        rfl
      · have gone := ((frame_kept steady here).fate index member).resolve_left stays
        rw [stint_gone stays rest]
        exact ((gone_forever next gone others).2.trans written).trans (List.append_nil _).symm

theorem joined_from {index other : Nat} (apart : other ≠ index) (frames : List Frame) :
    joined ((deliveries index frames).filter (·.1 == other)) = frames.flatMap (Frame.readFrom · other) := by
  induction frames with
  | nil => rfl
  | cons frame rest ih =>
    rw [deliveries_cons, List.filter_append, joined_append, joined_delivery_from frame apart, ih]
    rfl

theorem Served.source {relay after : Relay} {source : Nat} {payload : Bytes}
    (served : Served relay (.ok (.broadcast source payload)) after) : source ∈ relay.members := by
  cases served with
  | handedOn _ _ _ member _ _ => exact member

/-- A link that has been let in, whether it is still a member or not. -/
def Settled (index : Nat) (relay : Relay) : Prop := index ∈ relay.members ∨ relay.Gone index

theorem Kept.settled {before after : Relay} (kept : Kept before after) {index : Nat}
    (settled : Settled index before) : Settled index after := by
  rcases settled with member | gone
  · exact kept.fate index member
  · exact .inr (kept.gone index gone).1

section

variable {relay : Relay} (steady : relay.Steady) {index : Nat} {moves : List Move}
  (system : ∀ move ∈ moves, move.Meets Event.AllOs)
include steady system

theorem settled_run (settled : Settled index relay) : Settled index (relay.afterAll moves) := by
  induction moves generalizing relay with
  | nil => exact settled
  | cons move rest ih =>
    obtain ⟨here, others⟩ := List.forall_mem_cons.mp system
    exact ih (steady.frame here) others ((frame_kept steady here).settled settled)

theorem settled_trace (settled : Settled index relay) :
    ∀ frame ∈ relay.trace moves, frame.accepted? ≠ some index := by
  induction moves generalizing relay with
  | nil => exact fun frame member => absurd member List.not_mem_nil
  | cons move rest ih =>
    obtain ⟨here, others⟩ := List.forall_mem_cons.mp system
    have kept := frame_kept steady here
    intro frame member
    rcases List.mem_cons.mp member with rfl | later
    · intro accepted
      rcases frame_order steady here with ⟨_, none⟩ | ⟨first, some, members, new⟩
      · exact nomatch none.symm.trans accepted
      · obtain rfl : first = index := Option.some.inj (some.symm.trans accepted)
        have gone := settled.resolve_left new
        exact (kept.gone first gone).1.apart (by simp [members])
    · exact ih (steady.frame here) others (kept.settled settled) frame later

/-- Only a link that has been let in is read. -/
theorem read_settled (stepping : ∀ move ∈ moves, move.isStepping = true)
    (read : (relay.trace moves).flatMap (Frame.readFrom · index) ≠ []) :
    Settled index (relay.afterAll moves) := by
  induction moves generalizing relay with
  | nil => exact absurd rfl read
  | cons move rest ih =>
    obtain ⟨here, others⟩ := List.forall_mem_cons.mp system
    obtain ⟨goes, steps⟩ := List.forall_mem_cons.mp stepping
    by_cases first : (relay.frame move).readFrom index = []
    · refine ih (steady.frame here) others steps fun nothing => read ?_
      rw [trace, List.flatMap_cons, first, nothing]
      rfl
    · have member : index ∈ relay.members := by
        rcases stepping_cases steady.sound steady.script goes here with
          ⟨_, quiet⟩ | ⟨result, drift, served, outcome⟩
        · exact absurd (by rw [Frame.readFrom, quiet]; rfl) first
        · rw [Frame.readFrom, outcome] at first
          rcases result with fault | _ | _ | ⟨source, payload⟩ | _ <;>
            try exact absurd rfl first
          by_cases own : source = index
          · exact drift.members ▸ own ▸ served.source
          · exact absurd (if_neg own) first
      exact settled_run (steady.frame here) others ((frame_kept steady here).settled (.inl member))

end

/-- An iteration that lets a link in reads nothing. -/
theorem accepted_reads {frame : Frame} {index : Nat} (accepted : frame.accepted? = some index) (other : Nat) :
    frame.readFrom other = [] := by
  unfold Frame.accepted? at accepted
  unfold Frame.readFrom
  split at accepted
  next link outcome => rw [outcome]; rfl
  next => exact nomatch accepted

/-- What the client of a link had sent before a run and was not read yet. -/
def unread (relay : Relay) (index : Nat) : Bytes :=
  if index < relay.world.net.linkCount then (relay.world.net.link index).stream.inbox else []

theorem unread_ledger (relay : Relay) : Net.Ledger relay.unread (fun _ => []) relay.world.net :=
  relay.world.net.unread_ledger

/-- End-to-end delivery.  A link that the relay accepts, and that takes all that it is handed while it
is a member, is written exactly the payloads of the other members in that time, once and in their
order.  The part of it that came from any other link is one stretch of what that link's client sent:
it begins behind what had been read from there before, which is nothing for a link that came later. -/
theorem delivery_of_run (settings : RelaySettings) (world : World) (relay : Relay) (moves : List Move)
    (ends : world.net.platform.isEndless settings.writeTimeout = false) (os : world.AllOs)
    (bound : bind (ofSettings settings world) = .ok () relay)
    (stepping : ∀ move ∈ moves, move.isStepping = true)
    (system : ∀ move ∈ moves, move.Meets Event.AllOs) (earlier later : List Frame) (join : Frame)
    (index : Nat) (split : relay.trace moves = earlier ++ join :: later)
    (accepted : join.accepted? = some index) (takes : ∀ frame ∈ later, frame.takesAll index = true) :
    (relay.afterAll moves).written index = joined (deliveries index (stint index later)) ∧
    ∀ other, other ≠ index →
      (∃ rest, relay.unread other ++ (relay.trace moves).flatMap (Frame.sentBy · other) =
        earlier.flatMap (Frame.readFrom · other) ++
          (joined ((deliveries index (stint index later)).filter (·.1 == other)) ++ rest)) ∧
      (other < join.after.world.net.linkCount → (join.after.world.net.link other).stream.Account
        (relay.unread other ++ (earlier ++ [join]).flatMap (Frame.sentBy · other))
        (earlier.flatMap (Frame.readFrom · other))) ∧
      ((∃ frame ∈ later, frame.accepted? = some other) →
        earlier.flatMap (Frame.readFrom · other) = []) := by
  have steady := bound_steady ends os bound
  obtain ⟨before, move, rest, rfl, rfl, rfl, rfl⟩ := trace_split split
  obtain ⟨steps, later⟩ := List.forall_mem_append.mp stepping
  obtain ⟨prior, others⟩ := List.forall_mem_append.mp system
  obtain ⟨goes, laterSteps⟩ := List.forall_mem_cons.mp later
  obtain ⟨here, laterSystem⟩ := List.forall_mem_cons.mp others
  have middle := steady.afterAll prior
  have next := middle.frame here
  obtain ⟨member, blank⟩ := frame_joined middle goes here accepted
  have silent (other : Nat) : ((relay.afterAll before).frame move).readFrom other = [] :=
    accepted_reads accepted other
  refine ⟨?_, fun other apart => ⟨?_, fun known => ?_, ?_⟩⟩
  · have run := delivered_run next laterSteps laterSystem member takes
    rw [blank, List.nil_append] at run
    rw [afterAll_append]
    exact run
  · have front := (run_ledger steady stepping system relay.unread_ledger).front other
    obtain ⟨unseen, balance⟩ := front
    -- What was read from the other link behind the stint goes to the rest, with what is still unread.
    obtain ⟨remaining, parts⟩ : ∃ remaining,
        stint index (((relay.afterAll before).frame move).after.trace rest) ++ remaining =
          ((relay.afterAll before).frame move).after.trace rest :=
      ⟨_, List.takeWhile_append_dropWhile⟩
    refine ⟨remaining.flatMap (Frame.readFrom · other) ++ unseen, balance.symm.trans ?_⟩
    rw [split, joined_from apart, List.flatMap_append, List.flatMap_cons, silent other]
    nth_rewrite 1 [← parts]
    rw [List.flatMap_append]
    simp only [List.nil_append, List.append_assoc]
  · have ledger := frame_ledger middle goes (run_ledger steady steps prior relay.unread_ledger)
    have account := ledger.balance other known
    simpa [silent other, List.flatMap_append] using account
  · rintro ⟨frame, inside, joins⟩
    by_contra read
    have settled := read_settled steady prior steps read
    have known := (frame_kept middle here).settled settled
    exact settled_trace next laterSystem known frame inside joins

/-- A first link comes in, and its client has sent two bytes that are read before the second one. -/
def firstComer : List Move :=
  [.event (.connect "ann" none none none none), .step none, .event (.send "ann" [1, 2]), .step none,
    .event (.connect "bob" none none (some 1) none)]

/-- Both clients send, and the second one takes a byte at a time. -/
def mutualSends : List Move :=
  [.event (.send "ann" [3, 4]), .step none, .event (.send "bob" [9]), .step none,
    .event (.send "ann" [5]), .step none]

theorem delivery_of_mutualSends :
    let relay := Action.state (bind (ofSettings plainSettings {}))
    let moves := firstComer ++ .step none :: mutualSends
    let join := (relay.afterAll firstComer).frame (.step none)
    let later := join.after.trace mutualSends
    (relay.afterAll moves).written 1 = [3, 4, 5] ∧
      (relay.afterAll moves).written 1 = joined (deliveries 1 (stint 1 later)) ∧
      ∃ rest, relay.unread 0 ++ (relay.trace moves).flatMap (Frame.sentBy · 0) =
        (relay.trace firstComer).flatMap (Frame.readFrom · 0) ++
          (joined ((deliveries 1 (stint 1 later)).filter (·.1 == 0)) ++ rest) := by
  intro relay moves join later
  have takes : ∀ frame ∈ later, frame.takesAll 1 = true := by decide +kernel
  obtain ⟨whole, parts⟩ := delivery_of_run plainSettings {} relay moves rfl blank_allOs
    (by rfl) (by decide) (by simp [moves, firstComer, mutualSends, Move.Meets, Event.AllOs])
    (relay.trace firstComer) later
    join 1 (trace_append relay firstComer (.step none :: mutualSends)) (by decide +kernel) takes
  exact ⟨by decide +kernel, whole, (parts 0 (by decide)).1⟩

end Relay
end RelayBench
