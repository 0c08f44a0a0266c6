import RelayBench.Proofs.Relay.Dispatch
import RelayBench.Proofs.Relay.Membership

/-! The listener comes first.  Whatever the order in which readiness is reported, a wait returns exactly
what is ready in the order of the watch set; so a link that waits at the door is let in before any member
is read. -/
namespace RelayBench

namespace Readiness

/-- What is reported of a watch set comes to what is ready of it, in the order of the watch set. -/
theorem arrange_ready {world : World} (complete : Complete world.order) (door : Nat) (members : List Nat) :
    arrange members (ready world (.door door :: members.map .link)) =
      (Watched.door door :: members.map .link).filter (Watched.isReady world.net) := by
  rw [arrange_eq fun thing member => ((mem_ready complete).mp member).1]
  refine List.filter_congr fun thing member => ?_
  rw [Bool.eq_iff_iff, List.contains_iff_mem, mem_ready complete]
  exact ⟨And.right, fun isReady => ⟨member, isReady⟩⟩

end Readiness

namespace Relay

/-- The relay with another order in which readiness will be reported to it. -/
def reordered (relay : Relay) (order : Nat → List Nat) : Relay := relay.inWorld { relay.world with order }

theorem Steady.reordered {relay : Relay} (steady : relay.Steady) (order : Nat → List Nat) :
    (relay.reordered order).Steady where
  sound := steady.sound.of_same rfl rfl rfl
  script := steady.script
  lower := steady.lower
  upper := steady.upper

/-- The wait of a bound relay is a readiness wait on its listener and its members. -/
theorem await_wait {relay : Relay} {door : Nat} (bound : relay.listener.door = some door)
    (timeout : Option Number) :
    await timeout relay = (liftM (Readiness.wait relay.listener timeout) : RelayCall _) relay := by
  have isBound : relay.listener.isBound = true := by simp [Listener.isBound, bound]
  cases watched : Readiness.watch relay.listener relay.room.members relay.room.world with
  | ok things world =>
    simp only [await, enter, Readiness.wait, isBound, members, Action.bind_apply, Action.get_apply,
      Action.liftRoom_apply, Action.liftBenchRelay_apply, Action.onPart_apply, Action.liftBench_apply, watched,
      Bool.not_true, Bool.false_eq_true, if_false, Action.pure_apply]
    rfl
  | error fault world => simp [await, enter, Readiness.wait, isBound, members, watched]

/-- How an iteration goes: its wait fails, or it returns exactly what is ready, and one thing follows. -/
inductive Iterated (relay : Relay) (door : Nat) (timeout : Option Number) : Prop
  | unserved {fault : Fault} {middle : Relay} (failed : await timeout relay = .error fault middle)
      (drift : Drift relay middle) (ran : step timeout relay = .error fault middle)
  | served {ready : List Watched} {middle : Relay} (waited : await timeout relay = .ok ready middle)
      (drift : Drift relay middle)
      (exact : ready =
        (Watched.door door :: relay.members.map .link).filter (Watched.isReady middle.world.net))
      (ran : step timeout relay = service ready middle)
      (dispatched : Dispatched middle ready (Action.result (step timeout relay))
        (Action.state (step timeout relay)))

/-- What a wait returns is what is ready when it returns. -/
theorem await_exact {relay middle : Relay} {door : Nat} {timeout : Option Number} {ready : List Watched}
    (sound : relay.Sound) (bound : relay.listener.door = some door)
    (complete : Readiness.Complete relay.world.order) (waited : await timeout relay = .ok ready middle) :
    ready = (Watched.door door :: relay.members.map .link).filter (Watched.isReady middle.world.net) := by
  obtain ⟨world, left, _, order, result⟩ := await_eq (sound.watches bound) timeout
  rw [waited, Action.state_ok] at left
  rw [waited, Action.result_ok] at result
  cases reports : Readiness.verdict timeout (.door door :: relay.members.map .link) relay.world world with
  | error fault => simp [reports, Except.map] at result
  | ok found =>
    rw [reports] at result
    obtain rfl : ready = Readiness.arrange relay.members found := Except.ok.inj result
    rw [Readiness.verdict_ready reports, Readiness.arrange_ready (order ▸ complete), left]
    rfl

theorem iterated {relay : Relay} (steady : relay.Steady) {door : Nat}
    (bound : relay.listener.door = some door) (complete : Readiness.Complete relay.world.order)
    (timeout : Option Number) : Iterated relay door timeout := by
  have drift := await_drift steady.sound.os steady.script timeout
  cases waited : await timeout relay with
  | error fault middle =>
    rw [waited] at drift
    exact .unserved waited drift (by rw [step_eq, Action.bind_error waited])
  | ok ready middle =>
    rw [waited, Action.state_ok] at drift
    have exact := await_exact steady.sound bound complete waited
    have ran : step timeout relay = service ready middle := by rw [step_eq, Action.bind_ok waited]
    refine .served waited drift exact ran (ran ▸ ?_)
    refine service_dispatched (drift.sound steady.sound) (drift.listener ▸ bound) fun thing member => ?_
    rw [drift.members]
    exact (List.mem_filter.mp (exact ▸ member)).1

end Relay

namespace Frame

/-- What the wait of an iteration returned, if it did. -/
def ready? (frame : Frame) : Option (List Watched) :=
  match frame.move with
  | .step timeout => (Action.result (frame.before.await timeout)).toOption
  | _ => none

/-- Whether an iteration came to read a member. -/
def reads (frame : Frame) : Bool :=
  match frame.ready? with
  | some (.link _ :: _) => true
  | _ => false

/-- Whether accepting works: an iteration to which the listener is ready lets a link in. -/
def admits (frame : Frame) : Bool :=
  match frame.ready? with
  | some (.door _ :: _) => frame.accepted?.isSome
  | _ => true

end Frame

namespace Relay

theorem waiting_eq {relay : Relay} {door : Nat} (bound : relay.listener.door = some door) :
    relay.waiting = (relay.world.net.door door).pending := by
  rw [waiting, bound]

/-- A relay that listens on a door, with a complete order of report. -/
structure Listens (door : Nat) (relay : Relay) : Prop where
  steady : relay.Steady
  bound : relay.listener.door = some door
  complete : Readiness.Complete relay.world.order

/-- A run in which every move meets an order of report of its own. -/
inductive Passes : Relay → List Frame → Relay → Prop
  | nil (relay : Relay) : Passes relay [] relay
  | cons {relay last : Relay} {frames : List Frame} (order : Nat → List Nat) (move : Move)
      (complete : Readiness.Complete order) (system : move.Meets Event.AllOs)
      (rest : Passes ((relay.reordered order).frame move).after frames last) :
      Passes relay ((relay.reordered order).frame move :: frames) last

theorem Passes.steady {relay last : Relay} {frames : List Frame} (run : Passes relay frames last)
    (steady : relay.Steady) : last.Steady := by
  induction run with
  | nil => exact steady
  | cons order move complete system rest ih => exact ih ((steady.reordered order).frame system)

theorem Passes.split {relay last : Relay} {early late : List Frame} (run : Passes relay (early ++ late) last) :
    ∃ middle, Passes relay early middle ∧ Passes middle late last := by
  induction early generalizing relay with
  | nil => exact ⟨relay, .nil relay, run⟩
  | cons first rest ih =>
    cases run with
    | cons order move complete system run =>
      obtain ⟨middle, before, after⟩ := ih run
      exact ⟨middle, .cons order move complete system before, after⟩

theorem Dispatched.listener {relay after : Relay} {ready : List Watched} {result : Except Fault Outcome}
    (dispatched : Dispatched relay ready result after) : after.listener = relay.listener := by
  cases dispatched with
  | nothing => rfl
  | joined accepts joined =>
    obtain ⟨net, log, rfl⟩ := joined.rest
    rfl
  | missed fails missed =>
    obtain ⟨net, log, rfl⟩ := missed.rest
    rfl
  | parted none copes parted =>
    obtain ⟨net, log, rfl⟩ := parted.rest
    rfl
  | relayed some relayed =>
    obtain ⟨_, _, _, _, _, net, log, rfl⟩ := relayed.fanOut
    rfl
  | unread fails foreign missed =>
    obtain ⟨net, log, rfl⟩ := missed.rest
    rfl

theorem Dispatched.keeps {relay after : Relay} {ready : List Watched} {result : Except Fault Outcome}
    (dispatched : Dispatched relay ready result after)
    (unread : ∀ source others, ready ≠ .link source :: others) {index : Nat}
    (member : index ∈ relay.members) : index ∈ after.members := by
  cases dispatched with
  | nothing => exact member
  | joined accepts joined =>
    obtain ⟨net, log, rfl⟩ := joined.rest
    exact List.mem_append_left _ member
  | missed fails missed =>
    obtain ⟨net, log, rfl⟩ := missed.rest
    exact member
  | parted | relayed | unread => exact absurd rfl (unread _ _)

/-- What a move of a listening relay comes to: it serves nobody, or it is an iteration that does one thing. -/
inductive Befalls (door : Nat) (frame : Frame) : Prop
  | unserved (silent : frame.reads = false) (drift : Drift frame.awaited frame.after)
  | served (ready : List Watched) (result : Except Fault Outcome) (returned : frame.ready? = some ready)
      (exact : ready = (Watched.door door :: frame.awaited.members.map .link).filter
        (Watched.isReady frame.awaited.world.net))
      (outcome : frame.outcome? = result.toOption)
      (dispatched : Dispatched frame.awaited ready result frame.after)

section

variable {relay : Relay} {door : Nat} (listens : relay.Listens door) {move : Move}
  (system : move.Meets Event.AllOs) (stays : move ≠ .close)
include listens system stays

theorem Listens.befalls : Befalls door (relay.frame move) := by
  have sound := listens.steady.sound
  cases move with
  | event event =>
    obtain ⟨_, stop, after⟩ := relay.frame_event event
    refine .unserved rfl ?_
    rw [after]
    exact ⟨rfl, Net.apply_grown _ event, Net.apply_allOs _ sound.os system⟩
  | step timeout =>
    obtain ⟨outcome, after⟩ := relay.frame_step timeout
    have awaited : (relay.frame (.step timeout)).awaited = Action.state (relay.await timeout) := rfl
    have ready : (relay.frame (.step timeout)).ready? = (Action.result (relay.await timeout)).toOption := rfl
    cases iterated listens.steady listens.bound listens.complete timeout with
    | unserved failed drift ran =>
      rw [failed] at awaited ready
      rw [ran] at after
      refine .unserved (by rw [Frame.reads, ready]; rfl) ?_
      rw [awaited, after]
      exact drift_refl drift.os
    | served waited drift exact ran dispatched =>
      rw [waited] at awaited ready
      refine .served _ _ ready ?_ outcome ?_
      · rw [awaited, Action.state_ok, drift.members]
        exact exact
      · rw [awaited, after]
        exact dispatched
  | bind =>
    have same : Action.state (bind relay) = relay := by
      rcases bind_cases sound listens.steady.lower listens.steady.upper with ⟨_, ran⟩ | ⟨unbound, _⟩
      · rw [ran, Action.state_ok]
      · exact absurd (listens.bound.symm.trans unbound) (by simp)
    refine .unserved rfl ?_
    rw [(relay.frame_quiet .bind bind rfl).2, same]
    exact drift_refl sound.os
  | shutdown =>
    refine .unserved rfl ?_
    rw [(relay.frame_quiet .shutdown shutdown rfl).2]
    exact ⟨rfl, .refl _, sound.os⟩
  | close => exact absurd rfl stays

theorem Listens.frame_bound : (relay.frame move).after.listener.door = some door := by
  have early := congrArg Listener.door (awaited_drift listens.steady move).listener
  cases listens.befalls system stays with
  | unserved silent drift => exact (congrArg Listener.door drift.listener).trans (early.trans listens.bound)
  | served ready result returned exact outcome dispatched =>
    exact (congrArg Listener.door dispatched.listener).trans (early.trans listens.bound)

/-- A link that waits when a wait returns keeps all members from being read: it is let in, or another that
came before it. -/
theorem Listens.frame_waits {index : Nat} (waits : index ∈ (relay.frame move).awaited.waiting) :
    (relay.frame move).reads = false ∧ ((relay.frame move).admits = true →
      (relay.frame move).accepted? = some index ∨ index ∈ (relay.frame move).after.waiting) := by
  have bound : (relay.frame move).awaited.listener.door = some door :=
    (congrArg Listener.door (awaited_drift listens.steady move).listener).trans listens.bound
  have later := listens.frame_bound system stays
  cases listens.befalls system stays with
  | unserved silent drift =>
    obtain ⟨added, grown, _⟩ := drift.waiting
    exact ⟨silent, fun _ => .inr (by simp [grown, waits])⟩
  | served ready result returned exact outcome dispatched =>
    rw [waiting_eq bound] at waits
    have isReady : Watched.isReady (relay.frame move).awaited.world.net (.door door) = true := by
      simp only [Watched.isReady, Net.hasCaller, Bool.or_eq_true, Bool.not_eq_true', List.isEmpty_eq_false_iff]
      exact .inl (List.ne_nil_of_mem waits)
    rw [List.filter_cons_of_pos isReady] at exact
    rw [exact] at returned dispatched
    refine ⟨by rw [Frame.reads, returned], fun admits => ?_⟩
    rw [Frame.admits, returned] at admits
    cases dispatched with
    | joined accepts joined =>
      rw [joined.queue] at waits
      rw [waiting_eq later]
      rcases List.mem_cons.mp waits with rfl | behind
      · exact .inl (by rw [Frame.accepted?, outcome]; rfl)
      · exact .inr behind
    | @missed _ fault _ _ fails missed =>
      rw [Frame.accepted?, outcome] at admits
      cases system : fault.isOs <;> simp [system, Except.toOption] at admits

/-- Where nobody is read, no member goes. -/
theorem Listens.frame_keeps (unread : (relay.frame move).reads = false) {index : Nat}
    (member : index ∈ relay.members) : index ∈ (relay.frame move).after.members := by
  rw [← (awaited_drift listens.steady move).members] at member
  cases listens.befalls system stays with
  | unserved silent drift => rwa [drift.members]
  | served ready result returned exact outcome dispatched =>
    refine dispatched.keeps (fun source others first => ?_) member
    rw [Frame.reads, returned, first] at unread
    cases unread

/-- A link that waits is let in by an iteration before any other reads a member, or still waits. -/
theorem Listens.frame_turn (admits : (relay.frame move).admits = true) {index : Nat}
    (waits : index ∈ (relay.frame move).awaited.waiting) :
    ((relay.frame move).accepted? = some index ∧ index ∈ (relay.frame move).after.members) ∨
      index ∈ (relay.frame move).after.waiting := by
  rcases (listens.frame_waits system stays waits).2 admits with accepted | still
  · rcases frame_order listens.steady system with ⟨_, nobody⟩ | ⟨first, joined, members, _⟩
    · exact nomatch accepted.symm.trans nobody
    · obtain rfl : index = first := Option.some.inj (accepted.symm.trans joined)
      exact .inl ⟨accepted, by simp [members]⟩
  · exact .inr still

end

theorem awaited_waits {relay : Relay} (steady : relay.Steady) (move : Move) {index : Nat}
    (waits : index ∈ relay.waiting) : index ∈ (relay.frame move).awaited.waiting := by
  obtain ⟨added, grown, _⟩ := (awaited_drift steady move).waiting
  simp [grown, waits]

section

variable {relay last : Relay} {door index : Nat} {between late : List Frame} {later : Frame}
  (run : Passes relay (between ++ later :: late) last) (steady : relay.Steady)
  (bound : relay.listener.door = some door)
  (stays : ∀ frame ∈ between ++ later :: late, frame.move ≠ .close)
  (admits : ∀ frame ∈ between ++ later :: late, frame.admits = true) (reads : later.reads = true)
include run steady bound stays admits reads

/-- Whoever waits at the door has been let in when a member is read. -/
theorem Passes.letsIn (waits : index ∈ relay.waiting) :
    ∃ next ∈ between, next.accepted? = some index ∧ index ∈ next.after.members := by
  induction between generalizing relay with
  | nil =>
    cases run with
    | cons order move complete system rest =>
      have listens : (relay.reordered order).Listens door := ⟨steady.reordered order, bound, complete⟩
      have unread := (listens.frame_waits system (stays _ List.mem_cons_self)
        (awaited_waits listens.steady move waits)).1
      exact absurd reads (by simp [unread])
  | cons first more ih =>
    cases run with
    | cons order move complete system rest =>
      have listens : (relay.reordered order).Listens door := ⟨steady.reordered order, bound, complete⟩
      obtain ⟨here, others⟩ := List.forall_mem_cons.mp stays
      obtain ⟨lets, further⟩ := List.forall_mem_cons.mp admits
      rcases listens.frame_turn system here lets (awaited_waits listens.steady move waits) with
        joined | still
      · exact ⟨_, List.mem_cons_self, joined⟩
      · obtain ⟨next, member, joined⟩ := ih rest (listens.steady.frame system)
          (listens.frame_bound system here) others further still
        exact ⟨next, List.mem_cons_of_mem _ member, joined⟩

/-- Whoever waits at the door, or is a member, is a member when a member is read next. -/
theorem Passes.hasJoined (comes : index ∈ relay.waiting ∨ index ∈ relay.members)
    (unread : ∀ next ∈ between, next.reads = false) : index ∈ later.awaited.members := by
  induction between generalizing relay with
  | nil =>
    cases run with
    | cons order move complete system rest =>
      have listens : (relay.reordered order).Listens door := ⟨steady.reordered order, bound, complete⟩
      rcases comes with waits | member
      · have silent := (listens.frame_waits system (stays _ List.mem_cons_self)
          (awaited_waits listens.steady move waits)).1
        exact absurd reads (by simp [silent])
      · rw [(awaited_drift listens.steady move).members]
        exact member
  | cons first more ih =>
    cases run with
    | cons order move complete system rest =>
      have listens : (relay.reordered order).Listens door := ⟨steady.reordered order, bound, complete⟩
      obtain ⟨here, others⟩ := List.forall_mem_cons.mp stays
      obtain ⟨lets, further⟩ := List.forall_mem_cons.mp admits
      obtain ⟨silent, quiet⟩ := List.forall_mem_cons.mp unread
      refine ih rest (listens.steady.frame system) (listens.frame_bound system here) others further ?_ quiet
      rcases comes with waits | member
      · exact (listens.frame_turn system here lets (awaited_waits listens.steady move waits)).symm.imp_right
          And.right
      · exact .inr (listens.frame_keeps system here silent member)

end

theorem Passes.bound {relay last : Relay} {frames : List Frame} (run : Passes relay frames last)
    (steady : relay.Steady) {door : Nat} (bound : relay.listener.door = some door)
    (stays : ∀ frame ∈ frames, frame.move ≠ .close) : last.listener.door = some door := by
  induction run with
  | nil => exact bound
  | cons order move complete system rest ih =>
    obtain ⟨here, others⟩ := List.forall_mem_cons.mp stays
    have listens : Listens door _ := ⟨steady.reordered order, bound, complete⟩
    exact ih (listens.steady.frame system) (listens.frame_bound system here) others

/-- One iteration, one event, and the listener first.  Wherever a bound relay comes to whose writes come to an
end, whatever faults of the operating system and whatever orders of report it meets on the way: things reported
in any order come into the order of the watch set, and the first of them alone is served; a wait returns exactly
what is ready when it returns; and as long as the relay is not closed and accepting does not fail, every link
that waits when a wait returns has been let in when a member is read. -/
theorem priority_of_run (settings : RelaySettings) (world : World) (relay reached : Relay)
    (frames : List Frame) (door : Nat) (ends : world.net.platform.isEndless settings.writeTimeout = false)
    (os : world.AllOs)
    (start : bind (ofSettings settings world) = .ok () relay) (run : Passes relay frames reached)
    (bound : reached.listener.door = some door) :
    (∀ reported : List Watched,
      (∀ thing ∈ reported, thing ∈ Watched.door door :: reached.members.map .link) →
      let ready := Readiness.arrange reached.members reported
      ready = (Watched.door door :: reached.members.map .link).filter (fun thing => reported.contains thing) ∧
        Dispatched reached ready (Action.result (service ready reached))
          (Action.state (service ready reached))) ∧
    (∀ order timeout, Readiness.Complete order →
      let relay := reached.reordered order
      await timeout relay = (liftM (Readiness.wait relay.listener timeout) : RelayCall _) relay ∧
        Iterated relay door timeout) ∧
    ∀ early frame between later late last,
      let passed := early ++ frame :: (between ++ later :: late)
      Passes reached passed last → (∀ next ∈ passed, next.move ≠ .close) →
      (∀ next ∈ passed, next.admits = true) → later.reads = true → ∀ index ∈ frame.awaited.waiting,
        (∃ next ∈ frame :: between, next.accepted? = some index ∧ index ∈ next.after.members) ∧
          ((∀ next ∈ between, next.reads = false) → index ∈ later.awaited.members) := by
  have steady : reached.Steady := run.steady (bound_steady ends os start)
  refine ⟨fun reported watched => ?_, fun order timeout complete => ?_, ?_⟩
  · have inOrder := Readiness.arrange_eq watched
    refine ⟨inOrder, service_dispatched steady.sound bound fun thing member => ?_⟩
    exact (List.mem_filter.mp (inOrder ▸ member)).1
  · have same : (reached.reordered order).listener.door = some door := bound
    exact ⟨await_wait same timeout, iterated (steady.reordered order) bound complete timeout⟩
  · intro early frame between later late last passed run stays admits reads index waits
    obtain ⟨middle, before, after⟩ := run.split
    obtain ⟨staysBefore, staysAfter⟩ := List.forall_mem_append.mp stays
    obtain ⟨_, admitsAfter⟩ := List.forall_mem_append.mp admits
    obtain ⟨here, others⟩ := List.forall_mem_cons.mp staysAfter
    obtain ⟨lets, further⟩ := List.forall_mem_cons.mp admitsAfter
    have reachedSteady := before.steady steady
    have reachedBound := before.bound steady bound staysBefore
    cases after with
    | cons order move complete system rest =>
      have listens : (middle.reordered order).Listens door :=
        ⟨reachedSteady.reordered order, reachedBound, complete⟩
      have kept := listens.steady.frame system
      have own := listens.frame_bound system here
      rcases listens.frame_turn system here lets waits with joined | still
      · exact ⟨⟨_, List.mem_cons_self, joined⟩,
          rest.hasJoined kept own others further reads (.inr joined.2)⟩
      · obtain ⟨next, member, joined⟩ := rest.letsIn kept own others further reads still
        exact ⟨⟨next, List.mem_cons_of_mem _ member, joined⟩,
          rest.hasJoined kept own others further reads (.inl still)⟩

/-- The frames of a list of moves under one order of report. -/
def framesBy (order : Nat → List Nat) (relay : Relay) : List Move → List Frame
  | [] => []
  | move :: rest =>
    (relay.reordered order).frame move :: framesBy order ((relay.reordered order).frame move).after rest

theorem framesBy_passes {order : Nat → List Nat} (complete : Readiness.Complete order) (relay : Relay)
    {moves : List Move} (system : ∀ move ∈ moves, move.Meets Event.AllOs) :
    ∃ last, Passes relay (framesBy order relay moves) last := by
  induction moves generalizing relay with
  | nil => exact ⟨relay, .nil relay⟩
  | cons move rest ih =>
    obtain ⟨here, others⟩ := List.forall_mem_cons.mp system
    obtain ⟨last, run⟩ := ih ((relay.reordered order).frame move).after others
    exact ⟨last, .cons order move complete here run⟩

theorem framesBy_move {order : Nat → List Nat} {relay : Relay} {moves : List Move} {frame : Frame}
    (member : frame ∈ framesBy order relay moves) : frame.move ∈ moves := by
  induction moves generalizing relay with
  | nil => exact absurd member List.not_mem_nil
  | cons move rest ih =>
    rcases List.mem_cons.mp member with rfl | later
    · exact List.mem_cons_self
    · exact List.mem_cons_of_mem _ (ih later)

/-- The last thing that is ready is reported first. -/
def backwards (count : Nat) : List Nat := (List.range count).reverse

/-- One client sends while another connects; then there are two iterations. -/
def busySender : List Move :=
  [.event (.connect "ann" none none none none), .step none, .event (.send "ann" [1, 2]),
    .event (.connect "bob" none none none none), .step none, .step none]

theorem priority_of_busySender :
    let relay := Action.state (bind (ofSettings plainSettings {}))
    ∃ early frame later, framesBy backwards relay busySender = early ++ [frame, later] ∧
      frame.awaited.waiting = [1] ∧ frame.accepted? = some 1 ∧
      later.outcome? = some (.broadcast 0 [1, 2]) ∧ 1 ∈ later.awaited.members := by
  intro relay
  let frames := framesBy backwards relay busySender
  have complete : Readiness.Complete backwards := fun count position within => by
    simpa [backwards] using within
  have system : ∀ move ∈ busySender, move.Meets Event.AllOs := by
    simp [busySender, Move.Meets, Event.AllOs]
  have stays (frame : Frame) (member : frame ∈ frames) : frame.move ≠ .close := by
    have move := framesBy_move member
    intro same
    simp [same, busySender] at move
  have admits : ∀ frame ∈ frames, frame.admits = true := List.all_eq_true.mp (by decide +kernel)
  have split : frames = frames.take 4 ++ frames[4] :: ([] ++ frames[5] :: []) := rfl
  have waits : frames[4].awaited.waiting = [1] := by decide +kernel
  obtain ⟨last, run⟩ := framesBy_passes complete relay system
  obtain ⟨_, _, joins⟩ := priority_of_run plainSettings {} relay relay [] 0 rfl
    blank_allOs (by rfl) (.nil relay) (by decide +kernel)
  obtain ⟨_, joined⟩ := joins (frames.take 4) frames[4] [] frames[5] [] last run stays admits
    (by decide +kernel) 1 (by simp [waits])
  exact ⟨_, _, _, split, waits, by decide +kernel, by decide +kernel, joined (List.forall_mem_nil _)⟩

end Relay
end RelayBench
