import RelayBench.Proofs.Relay.Site

/-! A loop and other threads.  Between any two actions of a loop there may be events and requests to stop.
Once the loop is past its clearing of earlier requests it heeds them: it begins no further iteration, and
every action that is not a read that finds nothing brings it nearer to its end. -/
namespace RelayBench

namespace World

theorem happen_asked {world : World} (asked : world.stopRequested = true) (event : Event) :
    (Action.state (happen event world)).stopRequested = true := by
  cases event <;> first | exact asked | rfl

theorem happenAll_asked {world : World} (asked : world.stopRequested = true) (events : List Event) :
    (Action.state (happenAll events world)).stopRequested = true := by
  induction events generalizing world with
  | nil => exact asked
  | cons event rest ih =>
    have first := happen_asked asked event
    cases happened : happen event world with
    | error fault after =>
      rw [happened] at first
      rw [happenAll, Action.bind_error happened]
      exact first
    | ok reply after =>
      rw [happened] at first
      have later := @ih after first
      rw [happenAll, Action.bind_ok happened, Action.bind_apply]
      cases ran : happenAll rest after <;> rw [ran] at later <;> exact later

theorem advanceScript_asked {world : World} (asked : world.stopRequested = true) :
    (Action.state (advanceScript world)).stopRequested = true := by
  rcases script : world.script with _ | _ | ⟨item, rest⟩
  · simpa [advanceScript, script] using asked
  · simpa [advanceScript, script] using asked
  · have kept := @happenAll_asked { world with script := some rest } asked item
    simp only [advanceScript, Action.bind_apply, Action.get_apply, script, Action.modify_apply]
    cases ran : happenAll item { world with script := some rest } <;> rwa [ran] at kept

end World

namespace Readiness

/-- A request to stop outlasts every wait. -/
theorem poll_asked {world : World} (asked : world.stopRequested = true) (caller : Caller)
    (timeout : Option Number) (watched : List Watched) :
    (Action.state (poll caller timeout watched world)).stopRequested = true := by
  cases raised : FaultQueue.next world.net.faults .select with
  | some fault =>
    simp only [poll, Action.bind_apply, Action.liftNet_apply, Action.onPart_apply, Net.queued_error raised]
    exact asked
  | none =>
    cases caller with
    | background =>
      simp only [poll, Action.bind_apply, Action.liftNet_apply, Action.onPart_apply, Net.queued_ok raised]
      exact asked
    | foreground =>
      have kept := @World.advanceScript_asked { world with net := world.net.called .select } asked
      cases advances : World.advanceScript { world with net := world.net.called .select } with
      | error fault after =>
        rw [advances] at kept
        simpa [poll, Net.queued_ok raised, advances] using kept
      | ok advanced after =>
        rw [advances] at kept
        rw [poll_advanced timeout watched raised advances]
        split <;> exact kept

theorem finish_asked {room : Room} (asked : room.world.stopRequested = true) (caller : Caller)
    (timeout : Option Number) (watched : List Watched) :
    (Action.state (finish caller timeout watched room)).world.stopRequested = true := by
  have kept := poll_asked asked caller timeout watched
  cases polled : poll caller timeout watched room.world with
  | error fault world =>
    rw [finish_error room polled]
    rwa [polled] at kept
  | ok found world =>
    obtain ⟨log, ran⟩ := finish_ok room polled
    rw [ran]
    rwa [polled] at kept

end Readiness

namespace Phase

/-- Whether a loop has come past its clearing of earlier requests. -/
def isHeeding : Phase → Bool
  | .binding | .clearing => false
  | _ => true

def isEntering : Phase → Bool
  | .entering => true
  | _ => false

def isStalled : Phase → Bool
  | .stalled _ => true
  | _ => false

/-- The loop as one that runs, once it is past its binding. -/
def launched : Phase → List Phase
  | .binding => []
  | phase => [phase]

/-- How many actions a loop that has been asked to stop has left at most, besides reads that find nothing. -/
def left : Phase → Nat
  | .stopped _ => 0
  | .stopping _ => 1
  | .testing | .stalled _ => 2
  | .announcing | .admitting _ | .reading _ => 3
  | .waiting _ => 4
  | _ => 5

theorem left_le (phase : Phase) : phase.left ≤ 5 := by
  cases phase <;> simp [left]

theorem isStopped_of_left {phase : Phase} (none : phase.left = 0) : phase.isStopped = true := by
  cases phase <;> simp [left, isStopped] at none ⊢

theorem launched_of_bound {phase : Phase} (bound : phase ≠ .binding) : phase.launched = [phase] := by
  cases phase <;> simp [launched] at bound ⊢

theorem launched_of_heeding {phase : Phase} (heeding : phase.isHeeding = true) : phase.launched = [phase] := by
  cases phase <;> simp [isHeeding, launched] at heeding ⊢

end Phase

namespace Relay

/-- What may happen next while a loop runs: its next action, an event, or a request to stop from another
thread. -/
inductive Tick where
  | action
  | event (event : Event)
  | request

def Tick.Meets (kind : Event → Prop) : Tick → Prop
  | .event happens => kind happens
  | _ => True

section

variable (caller : Caller) (interval : Option Number)

/-- Where a loop stands, and the relay that it runs on, after a tick. -/
def tick (now : Phase × Relay) : Tick → Phase × Relay
  | .action => advance caller interval now.1 now.2
  | .event event => (now.1, (now.2.frame (.event event)).after)
  | .request => (now.1, Action.state (shutdown now.2))

def ticks (now : Phase × Relay) (course : List Tick) : Phase × Relay := course.foldl (tick caller interval) now

/-- Where a loop stood at each of its actions. -/
def acts : (now : Phase × Relay) → (course : List Tick) → List Phase
  | _, [] => []
  | now, .action :: rest => now.1 :: acts (tick caller interval now .action) rest
  | now, other :: rest => acts (tick caller interval now other) rest

/-- A loop that nobody disturbs does nothing but its actions. -/
theorem advanceToEnd_ticks (limit : Nat) (phase : Phase) (relay : Relay) :
    advanceToEnd caller interval limit phase relay =
      ticks caller interval (phase, relay) (List.replicate limit .action) := by
  induction limit generalizing phase relay with
  | zero => rfl
  | succ limit ih =>
    rw [advanceToEnd, List.replicate_succ]
    split
    next stopped =>
      have same : tick caller interval (phase, relay) .action = (phase, relay) := by
        cases phase <;> first | rfl | cases stopped
      rw [ticks, List.foldl_cons, same]
      exact (advanceToEnd_of_stopped caller interval limit stopped relay).symm.trans (ih phase relay)
    · exact ih _ _

end

/-! What an action does once the loop has been asked to stop. -/

theorem Served.asked {relay after : Relay} {result : Except Fault Outcome}
    (served : Served relay result after) : after.world.stopRequested = relay.world.stopRequested := by
  cases served <;> rfl

/-- Once a waiting link was accepted, or turned away, a loop has three actions left at most. -/
theorem Accepting.asked {relay : Relay} {caller : Caller} {next : Phase × Relay}
    (accepting : Accepting relay caller next) :
    next.2.world.stopRequested = relay.world.stopRequested ∧ next.1.isHeeding = true ∧
      next.1.isEntering = false ∧ next.1.left ≤ 3 := by
  cases accepting with
  | unbound fault unbound => exact ⟨rfl, rfl, rfl, by simp [Phase.left]⟩
  | refused door fault net log bound failed same => exact ⟨rfl, rfl, rfl, by simp [Phase.left]⟩
  | misfit => exact ⟨rfl, rfl, rfl, by simp [Phase.left]⟩
  | forgone => exact ⟨rfl, rfl, rfl, by simp [Phase.left]⟩
  | taken door first rest bound queue adopted => exact ⟨rfl, rfl, rfl, Nat.le_refl 3⟩

/-- An action of a loop that heeds a request to stop: the request stays, no iteration begins, and the loop
has an action less left. -/
structure Heeds (phase : Phase) (next : Phase × Relay) : Prop where
  asked : next.2.world.stopRequested = true
  heeding : next.1.isHeeding = true
  begins : next.1.isEntering = false
  nears : next.1.left ≤ phase.left - if phase.isStalled then 0 else 1

theorem Heeds.of_action {relay : Relay} {phase : Phase} {action : RelayCall Outcome}
    (asked : (Action.state (action relay)).world.stopRequested = true)
    (left : 2 ≤ phase.left - if phase.isStalled then 0 else 1) :
    Heeds phase (advanceBy action (fun _ => .testing) relay) := by
  unfold advanceBy
  cases course : action relay with
  | ok outcome after =>
    rw [course] at asked
    exact ⟨asked, rfl, rfl, left⟩
  | error fault after =>
    rw [course] at asked
    exact ⟨asked, rfl, rfl, Nat.le_trans (Nat.le_succ 1) left⟩

section

variable {relay : Relay} (sound : relay.Sound) (asked : relay.world.stopRequested = true)
include sound asked

theorem advanceRead_heeds (caller : Caller) {source : Nat} (known : source ∈ relay.members ∨ relay.Gone source)
    {phase : Phase} (left : 2 ≤ phase.left - if phase.isStalled then 0 else 1) :
    Heeds phase (advanceRead caller source relay) := by
  rcases advanceRead_cases caller source relay with ⟨_, ran⟩ | ran <;> rw [ran]
  · exact ⟨asked, rfl, rfl, left⟩
  · refine .of_action ?_ left
    rcases known with member | gone
    · exact (received_serves sound member).asked.trans asked
    · obtain ⟨log, ran⟩ := received_gone_state gone
      rw [ran]
      exact asked

theorem advanceWait_heeds (caller : Caller) (interval : Option Number) (watched : List Watched)
    (script : relay.world.Scripted Event.AllOs) :
    Heeds (.waiting watched) (advance caller interval (.waiting watched) relay) := by
  have inside : relay.room.world.stopRequested = true := asked
  have kept := Readiness.finish_asked inside caller interval watched
  obtain ⟨world, polled, ⟨fault, ran⟩ | ⟨found, ran⟩⟩ :=
    Readiness.finish_cases caller interval watched relay.room <;> rw [ran] at kept <;>
    simp only [advance, ran]
  · exact ⟨kept, rfl, rfl, by simp [Phase.left, Phase.isStalled]⟩
  · cases Readiness.arrange relay.room.members found with
    | nil => exact ⟨kept, rfl, rfl, by simp [Phase.left, Phase.isStalled]⟩
    | cons first rest =>
      cases first with
      | door index =>
        have waited := (polled_lull sound.os script polled).toDrift.sound sound
        obtain ⟨same, heeding, begins, left⟩ := (advanceAccept_accepting waited caller).asked
        exact ⟨same.trans kept, heeding, begins, left⟩
      | link source => exact ⟨kept, rfl, rfl, by simp [Phase.left, Phase.isStalled]⟩

theorem advance_heeds (caller : Caller) (interval : Option Number) {phase : Phase}
    (script : relay.world.Scripted Event.AllOs) (fits : phase.Fits relay) (heeding : phase.isHeeding = true) :
    Heeds phase (advance caller interval phase relay) := by
  cases phase with
  | binding => cases heeding
  | clearing => cases heeding
  | announcing =>
    refine ⟨?_, rfl, rfl, by simp [Phase.left, Phase.isStalled, advance]⟩
    show (World.write _ _).stopRequested = true
    rw [World.write_eq]
    exact asked
  | testing =>
    simp only [advance, asked, if_true]
    exact ⟨asked, rfl, rfl, by simp [Phase.left, Phase.isStalled]⟩
  | entering =>
    simp only [advance, advanceBy]
    rcases relay.enter_cases interval with ⟨fault, ran⟩ | ⟨door, _, ran⟩ <;> rw [ran] <;>
      exact ⟨asked, rfl, rfl, by simp [Phase.left, Phase.isStalled]⟩
  | waiting watched => exact advanceWait_heeds sound asked caller interval watched script
  | admitting link =>
    obtain ⟨log, ran⟩ := advanceAdmit_ok fits caller interval
    rw [ran]
    exact ⟨asked, rfl, rfl, Nat.le_refl 2⟩
  | reading source => exact advanceRead_heeds sound asked caller fits (by simp [Phase.left, Phase.isStalled])
  | stalled source => exact advanceRead_heeds sound asked caller fits (by simp [Phase.left, Phase.isStalled])
  | stopping fault =>
    refine ⟨?_, rfl, rfl, by simp [Phase.left, Phase.isStalled, advance]⟩
    show (World.write _ _).stopRequested = true
    rw [World.write_eq]
    exact asked
  | stopped fault => exact ⟨asked, rfl, rfl, by simp [Phase.left, advance]⟩

end

theorem acts_other (caller : Caller) (interval : Option Number) (now : Phase × Relay) {first : Tick}
    (rest : List Tick) (other : first ≠ .action) :
    acts caller interval now (first :: rest) = acts caller interval (tick caller interval now first) rest := by
  cases first <;> first | rfl | exact absurd rfl other

/-- What holds between any two ticks of a loop that is alone with its relay. -/
def Manned (door link : Nat) (now : Phase × Relay) : Prop := now.2.Attended door link [] now.1.launched

section

variable {door link : Nat} {now : Phase × Relay} (manned : Manned door link now)
include manned

theorem Manned.advance (caller : Caller) (interval : Option Number) :
    Manned door link (advance caller interval now.1 now.2) := by
  rcases now with ⟨phase, relay⟩
  by_cases unbound : phase = .binding
  · subst unbound
    have bound := Attended.bind manned
    simp only [Relay.advance]
    cases ran : bind relay with
    | ok done after =>
      rw [ran] at bound
      exact bound.enlist (show Phase.clearing.Fits after from trivial) rfl
    | error fault after =>
      rw [ran] at bound
      exact bound.enlist (show (Phase.stopped (some fault)).Fits after from trivial) rfl
  · have listed : relay.Attended door link [] [phase] := by
      rw [← Phase.launched_of_bound unbound]
      exact manned
    have moved := listed.advance caller interval
    have fits := moved.fits _ (List.mem_cons_self ..)
    rw [← Phase.launched_of_bound fun same => (same ▸ fits : Phase.binding.Fits _)] at moved
    exact moved

theorem Manned.tick (caller : Caller) (interval : Option Number) {next : Tick}
    (system : next.Meets Event.AllOs) : Manned door link (tick caller interval now next) := by
  cases next with
  | action => exact manned.advance caller interval
  | event event => exact Attended.frame manned (show Move.Meets Event.AllOs (.event event) from system)
  | request => exact Attended.frame manned (show Move.Meets Event.AllOs .shutdown from trivial)

/-- No tick changes more of a relay than a move does. -/
theorem Manned.tick_kept (caller : Caller) (interval : Option Number) {next : Tick}
    (system : next.Meets Event.AllOs) : Kept now.2 (Relay.tick caller interval now next).2 := by
  have steady := (Attended.orderly manned).steady
  cases next with
  | event event => exact frame_kept steady (show Move.Meets Event.AllOs (.event event) from system)
  | request => exact frame_kept steady (show Move.Meets Event.AllOs .shutdown from trivial)
  | action =>
    rcases now with ⟨phase, relay⟩
    by_cases unbound : phase = .binding
    · subst unbound
      have kept := bind_kept steady.sound steady.lower steady.upper
      simp only [Relay.tick, Relay.advance]
      cases ran : bind relay <;> rwa [ran] at kept
    · have listed : relay.Attended door link [] [phase] := by
        rw [← Phase.launched_of_bound unbound]
        exact manned
      have stroke := advance_stroke steady caller interval (listed.fits phase (List.mem_singleton_self _))
      exact (stroke.sway.kept steady.sound).of_flagged

theorem Manned.ticks (caller : Caller) (interval : Option Number) {course : List Tick}
    (system : ∀ next ∈ course, next.Meets Event.AllOs) :
    Manned door link (ticks caller interval now course) := by
  induction course generalizing now with
  | nil => exact manned
  | cons first rest ih =>
    obtain ⟨here, others⟩ := List.forall_mem_cons.mp system
    exact ih (manned.tick caller interval here) others

theorem Manned.ticks_kept (caller : Caller) (interval : Option Number) {course : List Tick}
    (system : ∀ next ∈ course, next.Meets Event.AllOs) :
    Kept now.2 (Relay.ticks caller interval now course).2 := by
  induction course generalizing now with
  | nil =>
    have sound := Attended.sound manned
    exact (drift_refl sound.os).kept sound
  | cons first rest ih =>
    obtain ⟨here, others⟩ := List.forall_mem_cons.mp system
    exact (manned.tick_kept caller interval here).trans (ih (manned.tick caller interval here) others)

theorem Manned.serving (stopped : now.1.isStopped = true) : now.2.serving = false := by
  by_contra on
  obtain ⟨phase, member, serves⟩ := Attended.serving manned (by simpa using on)
  rcases now with ⟨here, relay⟩
  cases here <;> cases stopped
  obtain rfl := List.mem_singleton.mp member
  cases serves

end

theorem tick_asked {now : Phase × Relay} (asked : now.2.world.stopRequested = true) (caller : Caller)
    (interval : Option Number) {next : Tick} (other : next ≠ .action) :
    (tick caller interval now next).1 = now.1 ∧
      (tick caller interval now next).2.world.stopRequested = true := by
  cases next with
  | action => exact absurd rfl other
  | event event =>
    refine ⟨rfl, ?_⟩
    show (now.2.frame (.event event)).after.world.stopRequested = true
    cases quiet : event.interrupts with
    | true => simpa [frame, now.2.perform_interrupt quiet] using asked
    | false =>
      simp only [frame, now.2.perform_event quiet, Action.state_ok]
      show (event.stops || now.2.world.stopRequested) = true
      rw [asked, Bool.or_true]
  | request => exact ⟨rfl, rfl⟩

/-- How a loop goes on that has been asked to stop: it begins no iteration but one that it stands before, and
every action that is not a read that finds nothing brings it nearer to its end. -/
structure Stops (now : Phase × Relay) (acts : List Phase) (final : Phase × Relay) : Prop where
  asked : final.2.world.stopRequested = true
  heeding : final.1.isHeeding = true
  begun : acts.countP Phase.isEntering ≤ if now.1.isEntering then 1 else 0
  nears : final.1.left ≤ now.1.left - acts.countP (!·.isStalled)

theorem Stops.action {now next final : Phase × Relay} {acts : List Phase} (heeds : Heeds now.1 next)
    (stops : Stops next acts final) : Stops now (now.1 :: acts) final where
  asked := stops.asked
  heeding := stops.heeding
  begun := by
    have begun := stops.begun
    rw [heeds.begins] at begun
    rw [List.countP_cons]
    simp only [Bool.false_eq_true, if_false] at begun
    omega
  nears := by
    have first := heeds.nears
    have later := stops.nears
    rw [List.countP_cons]
    cases stalled : now.1.isStalled <;> simp only [stalled, Bool.not_true, Bool.not_false, if_true, if_false,
      Bool.false_eq_true] at first ⊢ <;> omega

theorem Manned.stops {door link : Nat} {now : Phase × Relay} (manned : Manned door link now)
    (asked : now.2.world.stopRequested = true) (heeding : now.1.isHeeding = true) (caller : Caller)
    (interval : Option Number) {course : List Tick} (system : ∀ next ∈ course, next.Meets Event.AllOs) :
    Stops now (acts caller interval now course) (Relay.ticks caller interval now course) := by
  induction course generalizing now with
  | nil => exact ⟨asked, heeding, Nat.zero_le _, Nat.le_refl _⟩
  | cons first rest ih =>
    obtain ⟨here, others⟩ := List.forall_mem_cons.mp system
    have next := manned.tick caller interval here
    by_cases acting : first = .action
    · subst acting
      have listed : now.2.Attended door link [] [now.1] := by
        rw [← Phase.launched_of_heeding heeding]
        exact manned
      have heeds := advance_heeds listed.sound asked caller interval listed.orderly.steady.script
        (listed.fits _ (List.mem_singleton_self _)) heeding
      exact .action heeds (ih next heeds.asked heeds.heeding others)
    · obtain ⟨stays, still⟩ := tick_asked asked caller interval acting
      have course := ih next still (stays ▸ heeding) others
      rw [acts_other caller interval now rest acting]
      exact ⟨course.asked, course.heeding, stays ▸ course.begun, stays ▸ course.nears⟩

theorem tick_stopped {now : Phase × Relay} (stopped : now.1.isStopped = true) (caller : Caller)
    (interval : Option Number) (next : Tick) : (tick caller interval now next).1.isStopped = true := by
  rcases now with ⟨phase, relay⟩
  cases next with
  | action => cases phase <;> first | exact stopped | cases stopped
  | event event => exact stopped
  | request => exact stopped

theorem ticks_stopped {now : Phase × Relay} (stopped : now.1.isStopped = true) (caller : Caller)
    (interval : Option Number) (course : List Tick) :
    (ticks caller interval now course).1.isStopped = true := by
  induction course generalizing now with
  | nil => exact stopped
  | cons first rest ih => exact ih (tick_stopped stopped caller interval first)

end Relay
end RelayBench
