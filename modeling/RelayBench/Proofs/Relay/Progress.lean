import RelayBench.Proofs.Relay.Priority

/-! Whether an iteration with something ready gets on: a link joins or a ready member is served, unless the
listener comes first and lets nobody in, or the platform does not take how much the relay reads.  Such an
iteration serves nobody, and however many of them follow one another, no member is served as long as they do. -/
namespace RelayBench
namespace Relay

/-- An iteration gets on with the first thing that is ready: a link joins the members, or a member is read, and
its bytes go to the others or it is let go. -/
inductive Progress (relay : Relay) : Watched → Outcome → Relay → Prop
  | joins {door first : Nat} {after : Relay} (joined : Joined relay door first after) :
      Progress relay (.door door) (.accepted first) after
  | parts {source : Nat} {after : Relay} (parted : Parted relay source after) :
      Progress relay (.link source) (.disconnected source) after
  | relays {source : Nat} {payload : Bytes} {after : Relay} (relayed : Relayed relay source payload after) :
      Progress relay (.link source) (.broadcast source payload) after

/-- Why nothing comes of the first thing that is ready: the accept fails, or the platform does not take how
much the relay reads. -/
inductive Hindered (relay : Relay) : Watched → Except Fault Outcome → Prop
  | accept {door : Nat} {fault : Fault}
      (fails : Action.result (relay.listener.accept .foreground relay.world) = .error fault) :
      Hindered relay (.door door) (if fault.isOs then .ok .idle else .error fault)
  | read {source : Nat} {fault : Fault}
      (size : relay.world.net.platform.sizeFault relay.settings.recvSize = some fault)
      (foreign : fault.isOs = false) : Hindered relay (.link source) (.error fault)

/-- The first thing that is ready is not served: no member was touched, and none is served. -/
structure Refused (relay : Relay) (first : Watched) (result : Except Fault Outcome) (after : Relay) : Prop where
  cause : Hindered relay first result
  missed : Missed relay after

/-- What the service of an iteration comes to. -/
inductive Advance (relay : Relay) : List Watched → Except Fault Outcome → Relay → Prop
  | nothing : Advance relay [] (.ok .idle) relay
  | progress {first : Watched} {others : List Watched} {outcome : Outcome} {after : Relay}
      (progress : Progress relay first outcome after) : Advance relay (first :: others) (.ok outcome) after
  | refused {first : Watched} {others : List Watched} {result : Except Fault Outcome} {after : Relay}
      (refused : Refused relay first result after) : Advance relay (first :: others) result after

theorem Dispatched.advance {relay after : Relay} (sound : relay.Sound) {ready : List Watched}
    {result : Except Fault Outcome} (dispatched : Dispatched relay ready result after) :
    Advance relay ready result after := by
  cases dispatched with
  | nothing => exact .nothing
  | joined accepts joined => exact .progress (.joins joined)
  | missed fails missed => exact .refused ⟨.accept fails, missed⟩
  | parted none copes parted => exact .progress (.parts parted)
  | relayed some relayed => exact .progress (.relays relayed)
  | unread fails foreign missed => exact .refused ⟨.read (size_of_unread sound fails foreign) foreign, missed⟩

theorem Advance.found {relay after : Relay} {first : Watched} {others : List Watched} {result : Except Fault Outcome}
    (advance : Advance relay (first :: others) result after) :
    (∃ outcome, result = .ok outcome ∧ Progress relay first outcome after) ∨ Refused relay first result after := by
  cases advance with
  | progress progress => exact .inl ⟨_, rfl, progress⟩
  | refused refused => exact .inr refused

end Relay

namespace Frame

/-- Whether the wait of an iteration reported something. -/
def finds (frame : Frame) : Bool :=
  match frame.ready? with
  | some (_ :: _) => true
  | _ => false

/-- Whether an iteration let a link in. -/
def joins (frame : Frame) : Bool := frame.accepted?.isSome

/-- Whether an iteration served a member: it forwarded its bytes, or let it go. -/
def serves (frame : Frame) : Bool :=
  match frame.outcome? with
  | some (.broadcast ..) => true
  | some (.disconnected _) => true
  | _ => false

/-- Whether an iteration let nobody in to whom the listener was ready, or could not read a ready member. -/
def refuses (frame : Frame) : Bool := !frame.admits || (frame.reads && frame.outcome?.isNone)

end Frame

namespace Relay

section

variable {relay : Relay} {door : Nat} (listens : relay.Listens door) {move : Move}
  (system : move.Meets Event.AllOs) (stays : move ≠ .close)
include listens system stays

/-- A move of a listening relay is no service, or it is the service of what its wait found. -/
theorem Listens.course :
    ((relay.frame move).ready? = none ∧ (relay.frame move).outcome? = none ∧
      Drift (relay.frame move).awaited (relay.frame move).after) ∨
    ∃ ready result, (relay.frame move).ready? = some ready ∧ (relay.frame move).outcome? = result.toOption ∧
      Dispatched (relay.frame move).awaited ready result (relay.frame move).after ∧
      ready = (Watched.door door :: (relay.frame move).awaited.members.map .link).filter
        (Watched.isReady (relay.frame move).awaited.world.net) := by
  cases listens.befalls system stays with
  | served ready result returned exact outcome dispatched =>
    exact .inr ⟨ready, result, returned, outcome, dispatched, exact⟩
  | unserved silent drift =>
    cases move with
    | event event => exact .inl ⟨rfl, (relay.frame_event event).1, drift⟩
    | bind => exact .inl ⟨rfl, (relay.frame_quiet .bind bind rfl).1, drift⟩
    | shutdown => exact .inl ⟨rfl, (relay.frame_quiet .shutdown shutdown rfl).1, drift⟩
    | close => exact absurd rfl stays
    | step timeout =>
      obtain ⟨outcome, after⟩ := relay.frame_step timeout
      have awaited : (relay.frame (.step timeout)).awaited = Action.state (relay.await timeout) := rfl
      have ready : (relay.frame (.step timeout)).ready? = (Action.result (relay.await timeout)).toOption := rfl
      cases iterated listens.steady listens.bound listens.complete timeout with
      | unserved failed _ ran => exact .inl ⟨by rw [ready, failed]; rfl, by rw [outcome, ran]; rfl, drift⟩
      | served waited early exact ran dispatched =>
        rw [waited, Action.state_ok] at awaited
        rw [waited] at ready
        rw [awaited, after, early.members]
        exact .inr ⟨_, _, ready, outcome, dispatched, exact⟩

/-- An iteration that finds something lets a link in, serves a member, or refuses, and does one of these only. -/
theorem Listens.frame_account : (relay.frame move).finds.toNat =
    (relay.frame move).joins.toNat + (relay.frame move).serves.toNat + (relay.frame move).refuses.toNat := by
  simp only [Frame.finds, Frame.joins, Frame.serves, Frame.refuses, Frame.admits, Frame.reads, Frame.accepted?]
  rcases listens.course system stays with ⟨ready, outcome, _⟩ | ⟨ready, result, returned, outcome, dispatched, _⟩
  · simp only [ready, outcome]
    rfl
  · simp only [returned, outcome]
    generalize (relay.frame move).after = after at dispatched
    cases dispatched with
    | nothing => rfl
    | joined => rfl
    | @missed _ fault => cases fault.isOs <;> rfl
    | parted => rfl
    | relayed => rfl
    | unread => rfl

/-- An iteration is idle when it finds nothing, and else only when it serves nobody. -/
theorem Listens.frame_idle (idle : (relay.frame move).outcome? = some .idle) :
    (relay.frame move).finds = false ∨ (relay.frame move).refuses = true := by
  rw [Frame.finds, Frame.refuses, Frame.admits, Frame.reads, Frame.accepted?, idle]
  rcases listens.course system stays with ⟨ready, _, _⟩ | ⟨ready, result, returned, outcome, dispatched, _⟩
  · exact .inl (by rw [ready])
  · rw [returned]
    rw [idle] at outcome
    generalize (relay.frame move).after = after at dispatched
    cases dispatched with
    | nothing => exact .inl rfl
    | joined => cases outcome
    | missed => exact .inr rfl
    | parted => cases outcome
    | relayed => cases outcome
    | unread => cases outcome

/-- Where nobody is served, the members stay, and nothing is written to them. -/
theorem Listens.frame_unserved (unserved : (relay.frame move).finds = true → (relay.frame move).refuses = true) :
    (relay.frame move).serves = false ∧ (relay.frame move).after.members = relay.members ∧
      ∀ index ∈ relay.members, ((relay.frame move).after.world.net.link index).stream.outbox =
        (relay.world.net.link index).stream.outbox := by
  have early := awaited_drift listens.steady move
  have still {index : Nat} (member : index ∈ relay.members) :
      ((relay.frame move).awaited.world.net.link index).stream.outbox = (relay.world.net.link index).stream.outbox :=
    Link.side_outbox (early.grown.side index (listens.steady.sound.alive index member).known)
  rw [Frame.finds, Frame.refuses, Frame.admits, Frame.reads, Frame.accepted?] at unserved
  rw [Frame.serves]
  rcases listens.course system stays with ⟨ready, outcome, late⟩ | ⟨ready, result, returned, outcome, dispatched, _⟩
  · refine ⟨by rw [outcome], late.members.trans early.members, fun index member => ?_⟩
    have known := (early.live (listens.steady.sound.alive index member)).known
    exact (Link.side_outbox (late.grown.side index known)).trans (still member)
  · rw [returned, outcome] at unserved
    rw [outcome]
    rw [← early.members]
    have kept {index : Nat} (member : index ∈ (relay.frame move).awaited.members) :=
      still (early.members ▸ member)
    generalize (relay.frame move).after = after at dispatched ⊢
    cases dispatched with
    | nothing => exact ⟨rfl, rfl, fun index member => kept member⟩
    | joined => simp [Except.toOption] at unserved
    | @missed _ fault _ _ _ missed =>
      refine ⟨by cases fault.isOs <;> rfl, ?_, fun index member => ?_⟩
      · obtain ⟨net, log, rfl⟩ := missed.rest
        rfl
      · rw [missed.links index member, kept member]
    | parted => simp [Except.toOption] at unserved
    | relayed => simp [Except.toOption] at unserved
    | unread fails foreign missed =>
      refine ⟨rfl, ?_, fun index member => ?_⟩
      · obtain ⟨net, log, rfl⟩ := missed.rest
        rfl
      · rw [missed.links index member, kept member]

end

/-- An account of a run: each iteration that finds something lets a link in, serves a member, or refuses. -/
theorem Passes.account {relay last : Relay} {frames : List Frame} (run : Passes relay frames last)
    (steady : relay.Steady) {door : Nat} (bound : relay.listener.door = some door)
    (stays : ∀ frame ∈ frames, frame.move ≠ .close) :
    frames.countP Frame.finds =
      frames.countP Frame.joins + frames.countP Frame.serves + frames.countP Frame.refuses := by
  induction run with
  | nil => rfl
  | cons order move complete system rest ih =>
    obtain ⟨here, others⟩ := List.forall_mem_cons.mp stays
    have listens : Listens door _ := ⟨steady.reordered order, bound, complete⟩
    have account := listens.frame_account system here
    have later := ih (listens.steady.frame system) (listens.frame_bound system here) others
    have count (test : Frame → Bool) (frame : Frame) (frames : List Frame) :
        (frame :: frames).countP test = frames.countP test + (test frame).toNat := by
      rw [List.countP_cons]
      cases test frame <;> rfl
    simp only [count]
    omega

/-- As long as iterations find nothing or refuse, the members stay as they are and nobody is served. -/
theorem Passes.unserved {relay last : Relay} {frames : List Frame} (run : Passes relay frames last)
    (steady : relay.Steady) {door : Nat} (bound : relay.listener.door = some door)
    (stays : ∀ frame ∈ frames, frame.move ≠ .close)
    (unserved : ∀ frame ∈ frames, frame.finds = true → frame.refuses = true) :
    (∀ frame ∈ frames, frame.serves = false) ∧ last.members = relay.members ∧
      ∀ index ∈ relay.members,
        (last.world.net.link index).stream.outbox = (relay.world.net.link index).stream.outbox := by
  induction run with
  | nil => exact ⟨List.forall_mem_nil _, rfl, fun _ _ => rfl⟩
  | cons order move complete system rest ih =>
    obtain ⟨here, others⟩ := List.forall_mem_cons.mp stays
    obtain ⟨stuck, further⟩ := List.forall_mem_cons.mp unserved
    have listens : Listens door _ := ⟨steady.reordered order, bound, complete⟩
    obtain ⟨silent, members, outboxes⟩ := listens.frame_unserved system here stuck
    obtain ⟨quiet, same, written⟩ := ih (listens.steady.frame system) (listens.frame_bound system here) others further
    refine ⟨List.forall_mem_cons.mpr ⟨silent, quiet⟩, same.trans members, fun index member => ?_⟩
    rw [written index (by rw [members]; exact member)]
    exact outboxes index member

/-- An iteration that is idle although every member that can be read is among the ready. -/
structure Frame.PassesOver (relay : Relay) (timeout : Option Number) (frame : Frame) : Prop where
  move : frame.move = .step timeout
  idle : frame.outcome? = some .idle
  found : ∃ ready, frame.ready? = some ready ∧ ∀ index ∈ relay.members,
    (relay.world.net.link index).stream.isReadable = true → .link index ∈ ready

theorem Frame.PassesOver.congr {frame : Frame} {relay other : Relay} {timeout : Option Number}
    (passes : Frame.PassesOver relay timeout frame) (members : relay.members = other.members)
    (links : ∀ index, relay.world.net.link index = other.world.net.link index) :
    Frame.PassesOver other timeout frame := by
  refine ⟨passes.move, passes.idle, ?_⟩
  simpa only [members, links] using passes.found

/-- A relay to whose next accepts the same fault comes, as often as told, and to whose waits nothing else. -/
structure Jammed (fault : Fault) (count : Nat) (relay : Relay) : Prop where
  script : relay.world.script = none
  waits : FaultQueue.entries relay.world.net.faults .select = []
  accepts : FaultQueue.entries relay.world.net.faults .accept = List.replicate count (.accept, some fault)

theorem Jammed.quiet {fault : Fault} {count : Nat} {relay : Relay} (jammed : Jammed fault count relay) :
    FaultQueue.next relay.world.net.faults .select = none := by
  rw [FaultQueue.next_eq, jammed.waits]
  rfl

section

variable {relay : Relay} {door : Nat} (listens : relay.Listens door) {fault : Fault} {count : Nat}
  (jammed : Jammed fault (count + 1) relay)
include listens jammed

/-- The wait of a relay to whose accepts a fault comes returns what is ready, with the listener first. -/
theorem Jammed.await_ok (timeout : Option Number) : ∃ world ready,
    await timeout relay = .ok (.door door :: ready) (relay.inWorld world) ∧ world.script = none ∧
      world.net = relay.world.net.called .select ∧
      ready = (relay.members.map .link).filter (Watched.isReady world.net) := by
  have quiet := jammed.quiet
  obtain ⟨world, left, waited, order, result⟩ := await_eq (listens.steady.sound.watches listens.bound) timeout
  have net : world.net = relay.world.net.called .select := by
    rw [waited.net]
    simp [World.settled, World.upcoming, quiet, jammed.script, Net.applyAll]
  have script : world.script = none := by
    rw [waited.script]
    simp [World.remaining, quiet, jammed.script]
  have called : Watched.isReady world.net (.door door) = true := by
    have stored : FaultQueue.holds (FaultQueue.drop relay.world.net.faults .select) .accept = true := by
      rw [FaultQueue.holds_iff, FaultQueue.entries_drop_of_ne (by decide), jammed.accepts]
      simp
    simp [Watched.isReady, Net.hasCaller, net, Net.called, stored]
  have complete : Readiness.Complete world.order := order ▸ listens.complete
  have found : Readiness.ready world (.door door :: relay.members.map .link) ≠ [] :=
    List.ne_nil_of_mem ((Readiness.mem_ready complete).mpr ⟨List.mem_cons_self, called⟩)
  have uncut : relay.world.cutShort = false := by simp [World.cutShort, quiet, jammed.script]
  have verdict : Readiness.verdict timeout (.door door :: relay.members.map .link) relay.world world =
      .ok (Readiness.ready world (.door door :: relay.members.map .link)) := by
    simp [Readiness.verdict, quiet, uncut, found]
  rw [verdict] at result
  have ran := Action.eq_ok (congrArg Except.toOption result)
  rw [left] at ran
  have exact := await_exact listens.steady.sound listens.bound listens.complete ran
  have first := exact.trans (List.filter_cons_of_pos called)
  rw [first] at ran
  exact ⟨world, _, ran, script, net, rfl⟩

/-- An iteration that the fault comes to is idle, whoever else is ready, and leaves all links alone. -/
theorem Jammed.frame (system : fault.isOs = true) (timeout : Option Number) :
    Frame.PassesOver relay timeout (relay.frame (.step timeout)) ∧
    Jammed fault count (relay.frame (.step timeout)).after ∧
    (relay.frame (.step timeout)).after.members = relay.members ∧
    ∀ index, (relay.frame (.step timeout)).after.world.net.link index = relay.world.net.link index := by
  obtain ⟨world, ready, waited, script, net, exact⟩ := jammed.await_ok listens timeout
  have next : FaultQueue.next world.net.faults .accept = some fault := by
    rw [net, FaultQueue.next_eq, Net.called, FaultQueue.entries_drop_of_ne (by decide), jammed.accepts]
    rfl
  have opened : (world.net.door door).isOpen = true := by
    rw [net]
    exact (listens.steady.sound.watches listens.bound).opened
  have failed :
      Net.accept .foreground door (relay.inWorld world).world.net = .error fault (world.net.called .accept) := by
    show Net.accept .foreground door world.net = _
    rw [Net.accept_eq, if_pos opened, next]
  have bound : (relay.inWorld world).listener.door = some door := listens.bound
  obtain ⟨log, refused⟩ := welcome_refused bound failed system
  have ran : step timeout relay =
      .ok .idle ((relay.inWorld world).put relay.members (world.net.called .accept) log) := by
    rw [step_eq, Action.bind_ok waited]
    exact refused
  obtain ⟨outcome, after⟩ := relay.frame_step timeout
  rw [ran] at outcome after
  have found : (relay.frame (.step timeout)).ready? = some (.door door :: ready) := by
    show (Action.result (relay.await timeout)).toOption = _
    rw [waited]
    rfl
  refine ⟨⟨rfl, outcome, _, found, fun index member readable => ?_⟩, ?_, by rw [after]; rfl, fun index => ?_⟩
  · refine List.mem_cons_of_mem _ (exact ▸ List.mem_filter.mpr ⟨List.mem_map_of_mem member, ?_⟩)
    rw [net]
    exact readable
  · rw [after, Action.state_ok]
    refine ⟨script, ?_, ?_⟩
    · show FaultQueue.entries (world.net.called .accept).faults .select = []
      rw [Net.called, net, FaultQueue.entries_drop_of_ne (by decide), Net.called, FaultQueue.entries_drop,
        jammed.waits]
      rfl
    · show FaultQueue.entries (world.net.called .accept).faults .accept = _
      rw [Net.called, net, FaultQueue.entries_drop, if_pos rfl, Net.called,
        FaultQueue.entries_drop_of_ne (by decide), jammed.accepts]
      rfl
  · rw [after, Action.state_ok]
    show (world.net.called .accept).link index = _
    rw [net]
    rfl

end

/-- As often as the fault comes, so many iterations are idle one after the other, with members ready in each. -/
theorem Jammed.passes {relay : Relay} {door : Nat} {fault : Fault} {count : Nat} {order : Nat → List Nat}
    (jammed : Jammed fault count relay) (steady : relay.Steady) (bound : relay.listener.door = some door)
    (complete : Readiness.Complete order) (system : fault.isOs = true) (timeout : Option Number) :
    ∃ frames last, Passes relay frames last ∧ frames.length = count ∧
      (∀ frame ∈ frames, Frame.PassesOver relay timeout frame) ∧
      last.members = relay.members ∧ ∀ index, last.world.net.link index = relay.world.net.link index := by
  induction count generalizing relay with
  | zero => exact ⟨[], relay, .nil relay, rfl, List.forall_mem_nil _, rfl, fun _ => rfl⟩
  | succ count ih =>
    have listens : (relay.reordered order).Listens door := ⟨steady.reordered order, bound, complete⟩
    have still : Jammed fault (count + 1) (relay.reordered order) := ⟨jammed.script, jammed.waits, jammed.accepts⟩
    obtain ⟨passes, less, members, links⟩ := still.frame listens system timeout
    have calm : (Move.step timeout).Meets Event.AllOs := trivial
    have kept := listens.steady.frame calm
    have own := listens.frame_bound calm nofun
    obtain ⟨frames, last, run, length, stuck, same, unread⟩ := ih less kept own
    refine ⟨_, last, .cons order (.step timeout) complete calm run, by simp [length],
      List.forall_mem_cons.mpr ⟨passes.congr rfl fun _ => rfl, fun frame member => ?_⟩, same.trans members,
      fun index => (unread index).trans (links index)⟩
    exact (stuck frame member).congr members links

/-- What every move of a listening relay is like, every frame of its runs is like. -/
theorem Passes.each {kind : Frame → Prop} {door : Nat}
    (every : ∀ relay : Relay, relay.Listens door → ∀ move : Move, move.Meets Event.AllOs → move ≠ .close →
      kind (relay.frame move))
    {relay last : Relay} {frames : List Frame} (run : Passes relay frames last) (steady : relay.Steady)
    (bound : relay.listener.door = some door) (stays : ∀ frame ∈ frames, frame.move ≠ .close) :
    ∀ frame ∈ frames, kind frame := by
  induction run with
  | nil => exact List.forall_mem_nil _
  | cons order move complete system rest ih =>
    obtain ⟨here, others⟩ := List.forall_mem_cons.mp stays
    have listens : Listens door _ := ⟨steady.reordered order, bound, complete⟩
    exact List.forall_mem_cons.mpr ⟨every _ listens move system here,
      ih (listens.steady.frame system) (listens.frame_bound system here) others⟩

/-- What an iteration found when its wait returned, and what it came to. -/
def Frame.Told (door : Nat) (frame : Frame) : Prop :=
  ∀ ready, frame.ready? = some ready →
    ready = (Watched.door door :: frame.awaited.members.map .link).filter (Watched.isReady frame.awaited.world.net) ∧
      ∃ result, frame.outcome? = result.toOption ∧ Advance frame.awaited ready result frame.after

theorem Listens.told {relay : Relay} {door : Nat} (listens : relay.Listens door) {move : Move}
    (system : move.Meets Event.AllOs) (stays : move ≠ .close) : Frame.Told door (relay.frame move) := by
  intro ready returned
  rcases listens.course system stays with ⟨none, _⟩ | ⟨found, result, some, outcome, dispatched, exact⟩
  · exact nomatch none.symm.trans returned
  · obtain rfl : found = ready := Option.some.inj (some.symm.trans returned)
    have sound := (awaited_drift listens.steady move).sound listens.steady.sound
    exact ⟨exact, result, outcome, dispatched.advance sound⟩

/-- However often accepting is to fail, there is a run in which it does, and in which all those iterations are
idle while the members that are ready wait. -/
def Starves (relay : Relay) : Prop :=
  ∀ (order : Nat → List Nat) (timeout : Option Number) (fault : Fault) (count : Nat), Readiness.Complete order →
    fault.isOs = true → ∃ frame frames last, Passes relay (frame :: frames) last ∧ frames.length = count ∧
      (∀ next ∈ frames, Frame.PassesOver relay timeout next) ∧
      last.members = relay.members ∧ ∀ index, last.world.net.link index = relay.world.net.link index

theorem starves {relay : Relay} {door : Nat} (steady : relay.Steady) (bound : relay.listener.door = some door)
    (script : relay.world.script = none) (waits : FaultQueue.entries relay.world.net.faults .select = [])
    (accepts : FaultQueue.entries relay.world.net.faults .accept = []) : Starves relay := by
  intro order timeout fault count complete system
  let move : Move := .event (.fail none .accept (List.replicate count (some fault)))
  have meets : move.Meets Event.AllOs := by
    intro _ other member
    obtain rfl : other = fault := Option.some.inj (List.mem_replicate.mp member).2
    exact system
  have listens : (relay.reordered order).Listens door := ⟨steady.reordered order, bound, complete⟩
  obtain ⟨_, stop, after⟩ :=
    (relay.reordered order).frame_event (.fail none .accept (List.replicate count (some fault)))
  have jammed : Jammed fault count ((relay.reordered order).frame move).after := by
    rw [after]
    refine ⟨script, ?_, ?_⟩
    · show FaultQueue.entries (FaultQueue.push relay.world.net.faults .accept _) .select = []
      rw [FaultQueue.entries_push, waits]
      rfl
    · show FaultQueue.entries (FaultQueue.push relay.world.net.faults .accept _) .accept = _
      rw [FaultQueue.entries_push, accepts, if_pos rfl, List.map_replicate]
      rfl
  obtain ⟨frames, last, run, length, stuck, members, links⟩ := jammed.passes (listens.steady.frame meets)
    (listens.frame_bound meets nofun) complete system timeout
  rw [after] at stuck members links
  refine ⟨_, frames, last, .cons order move complete meets run, length, fun next member => ?_, members, links⟩
  exact (stuck next member).congr rfl fun _ => rfl

/-- Every iteration with something ready gets on, unless the listener comes first and lets nobody in, or the
platform does not take how much the relay reads.  Wherever a bound relay comes to whose writes come to an end,
whatever is ready there: a link joins, or a ready member is read and its bytes go to the others or it is let go,
or the accept or the read cannot be made.  Along every run, what each wait found is what was ready, an iteration
is idle only when it found nothing or the accept failed, and the iterations that found something are those that
let a link in, those that served a member and those that failed so.  While all of them fail, no member is served,
and there are as many of them in a row as there are failures. -/
theorem progress_of_run (settings : RelaySettings) (world : World) (relay reached : Relay)
    (frames : List Frame) (door : Nat) (ends : world.net.platform.isEndless settings.writeTimeout = false)
    (os : world.AllOs)
    (start : bind (ofSettings settings world) = .ok () relay) (run : Passes relay frames reached)
    (bound : reached.listener.door = some door) :
    (∀ first others, (∀ thing ∈ first :: others, thing ∈ Watched.door door :: reached.members.map .link) →
      let served := service (first :: others) reached
      (∃ outcome, Action.result served = .ok outcome ∧ Progress reached first outcome (Action.state served)) ∨
        Refused reached first (Action.result served) (Action.state served)) ∧
    (∀ later last, Passes reached later last → (∀ frame ∈ later, frame.move ≠ .close) →
      (∀ frame ∈ later, Frame.Told door frame ∧
        (frame.outcome? = some .idle → frame.finds = false ∨ frame.refuses = true)) ∧
      later.countP Frame.finds =
        later.countP Frame.joins + later.countP Frame.serves + later.countP Frame.refuses ∧
      ((∀ frame ∈ later, frame.finds = true → frame.refuses = true) →
        (∀ frame ∈ later, frame.serves = false) ∧ last.members = reached.members ∧
          ∀ index ∈ reached.members,
            (last.world.net.link index).stream.outbox = (reached.world.net.link index).stream.outbox)) ∧
    (reached.world.script = none → FaultQueue.entries reached.world.net.faults .select = [] →
      FaultQueue.entries reached.world.net.faults .accept = [] → Starves reached) := by
  have steady : reached.Steady := run.steady (bound_steady ends os start)
  refine ⟨fun first others watched => ?_, fun later last more stays => ?_, starves steady bound⟩
  · exact ((service_dispatched steady.sound bound watched).advance steady.sound).found
  · refine ⟨?_, more.account steady bound stays, more.unserved steady bound stays⟩
    exact more.each (fun _ listens _ system here => ⟨listens.told system here, listens.frame_idle system here⟩)
      steady bound stays

/-- A member sends while a third client connects, and the accept fails twice before it works. -/
def lateAccept : List Move :=
  [.event (.connect "ann" none none none none), .event (.connect "bob" none none none none), .step none, .step none,
    .event (.send "ann" [1]), .event (.connect "cy" none none none none),
    .event (.fail none .accept (List.replicate 2 (some (Fault.osError 24 "Too many open files")))),
    .step none, .step none, .step none, .step none]

theorem progress_of_lateAccept :
    let relay := Action.state (bind (ofSettings plainSettings {}))
    let frames := framesBy List.range relay lateAccept
    frames.countP Frame.finds = 3 + 1 + 2 ∧ Starves relay := by
  intro relay frames
  have complete : Readiness.Complete List.range := fun _ _ within => List.mem_range.mpr within
  have system : ∀ move ∈ lateAccept, move.Meets Event.AllOs := by
    have full : (Fault.osError 24 "Too many open files").isOs = true := by decide
    simp [lateAccept, Move.Meets, Event.AllOs, full]
  have stays (frame : Frame) (member : frame ∈ frames) : frame.move ≠ .close := by
    have move := framesBy_move member
    intro same
    simp [same, lateAccept] at move
  obtain ⟨last, run⟩ := framesBy_passes complete relay system
  obtain ⟨_, passes, starved⟩ := progress_of_run plainSettings {} relay relay [] 0 rfl
    blank_allOs (by rfl) (.nil relay) (by decide +kernel)
  obtain ⟨_, account, _⟩ := passes frames last run stays
  have joins : frames.countP Frame.joins = 3 := by decide +kernel
  have serves : frames.countP Frame.serves = 1 := by decide +kernel
  have refuses : frames.countP Frame.refuses = 2 := by decide +kernel
  exact ⟨by rw [account, joins, serves, refuses], starved (by rfl) (by rfl) (by rfl)⟩

/-- The member that has sent is ready in two idle iterations, and nothing of what it sent is forwarded. -/
theorem progress_fails :
    let frames := framesBy List.range (Action.state (bind (ofSettings plainSettings {}))) lateAccept
    ∃ early first second late, frames = early ++ first :: second :: late ∧
      (∀ frame ∈ [first, second], frame.ready? = some [.door 0, .link 0] ∧ frame.outcome? = some .idle) ∧
      (second.after.world.net.link 0).stream.inbox = [1] ∧ (second.after.world.net.link 1).stream.outbox = [] := by
  intro frames
  exact ⟨frames.take 7, frames[7], frames[8], frames.drop 9, rfl, by decide +kernel, by decide +kernel,
    by decide +kernel⟩

end Relay
end RelayBench
