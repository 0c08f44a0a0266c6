import Mathlib.Logic.Relation
import RelayBench.Proofs.Relay.Ending

/-! A relay with the loops that run on it.  A loop whose end was not waited for goes on beside later ones, so
each of them may act between any two actions of the others and of the relay's owner; what holds between any
two actions of all of them is kept by each. -/
namespace RelayBench

namespace Relay

theorem Gone.of_flagged {relay : Relay} {serving started : Bool} {loop : Option Phase} {index : Nat}
    (gone : (relay.flagged serving started loop).Gone index) : relay.Gone index :=
  ⟨gone.known, gone.apart, gone.closed, gone.shut⟩

theorem Kept.of_flagged {relay after : Relay} {serving started : Bool} {loop : Option Phase}
    (kept : Kept relay (after.flagged serving started loop)) : Kept relay after where
  sound := kept.sound.of_flagged
  suited := fun suited => (kept.suited suited).of_same rfl rfl rfl
  fate := fun index member => (kept.fate index member).imp id Gone.of_flagged
  gone := fun index gone => (kept.gone index gone).imp Gone.of_flagged id

/-- Closing is letting all members go, and then closing the door. -/
theorem close_composed {relay : Relay} (sound : relay.Sound) :
    Action.state (close relay) = Action.state (unlisten (Action.state (dismiss relay))) := by
  obtain ⟨log, dismissed, split⟩ := close_split sound
  rw [split, dismissed, Action.state_ok]

theorem dismiss_flags {relay : Relay} (sound : relay.Sound) :
    (Action.state (dismiss relay)).flags = relay.flags := by
  obtain ⟨log, dismissed⟩ := dismiss_ok sound
  rw [dismissed]
  rfl

theorem unlisten_flags {relay : Relay} (sound : relay.Sound) :
    (Action.state (unlisten relay)).flags = relay.flags := by
  rw [unlisten_state sound]
  rfl

section

variable {relay : Relay} (steady : relay.Steady) {move : Move} (system : move.Meets Event.AllOs)
include steady system

theorem frame_flags : (relay.frame move).after.flags = relay.flags := by
  by_cases other : move ≠ .bind ∧ move ≠ .close
  · exact (frame_sway steady system other).flags
  · cases move with
    | bind => exact (congrArg flags (relay.frame_quiet .bind Relay.bind rfl).2).trans relay.bind_flags
    | close =>
      rw [(relay.frame_quiet .close Relay.close rfl).2, close_composed steady.sound]
      obtain ⟨log, dismissed⟩ := dismiss_ok steady.sound
      rw [dismissed]
      exact unlisten_flags (emptied_sound steady.sound log)
    | _ => simp at other

/-- No move takes a link out of the hand that holds it. -/
theorem frame_held {index : Nat} (held : relay.Held index) : (relay.frame move).after.Held index := by
  by_cases other : move ≠ .bind ∧ move ≠ .close
  · exact (frame_sway steady system other).held steady.sound List.not_mem_nil held
  · cases move with
    | bind => exact (relay.frame_quiet .bind Relay.bind rfl).2 ▸ bind_held steady held
    | close =>
      obtain ⟨log, _, split⟩ := close_split steady.sound
      rw [(relay.frame_quiet .close Relay.close rfl).2, split]
      exact unlisten_held (emptied_sound steady.sound log) (emptied_held steady.sound held log)
    | _ => simp at other

theorem Orderly.frame {door link : Nat} {hands : List Nat} (orderly : Orderly door link hands relay) :
    Orderly door link hands (relay.frame move).after := by
  by_cases other : move ≠ .bind ∧ move ≠ .close
  · exact orderly.sway (frame_sway steady system other)
  · cases move with
    | bind => exact (relay.frame_quiet .bind Relay.bind rfl).2 ▸ orderly.bind
    | close =>
      obtain ⟨log, _, split⟩ := close_split steady.sound
      rw [(relay.frame_quiet .close Relay.close rfl).2, split]
      exact (orderly.emptied log).unlisten
    | _ => simp at other

end

/-- The links that loops have accepted and not let in yet. -/
def hands (loops : List Phase) : List Nat := loops.flatMap Phase.hand

theorem mem_hands {loops : List Phase} {index : Nat} :
    index ∈ hands loops ↔ ∃ phase ∈ loops, index ∈ phase.hand :=
  List.mem_flatMap

/-- What holds of a relay and of the loops that run on it, between any two actions.  The links of `ever`
have been let in at some time, and no link is in the hands of two loops. -/
structure Attended (door link : Nat) (ever : List Nat) (loops : List Phase) (relay : Relay) : Prop where
  orderly : Orderly door link (hands loops) relay
  known : ∀ index ∈ ever, index ∈ relay.members ∨ relay.Gone index
  fits : ∀ phase ∈ loops, phase.Fits relay
  single : (hands loops).Nodup
  serving : relay.serving = true → ∃ phase ∈ loops, phase.isServing = true

namespace Attended

variable {door link : Nat} {ever : List Nat} {loops : List Phase} {relay : Relay}

section

variable (attended : Attended door link ever loops relay)
include attended

theorem sound : relay.Sound := attended.orderly.steady.sound

theorem held {index : Nat} (inHand : index ∈ hands loops) : relay.Held index := by
  obtain ⟨phase, member, own⟩ := mem_hands.mp inHand
  exact (attended.fits phase member).held index own

/-- The order of the loops does not matter. -/
theorem reorder {others : List Phase} (same : loops.Perm others) : Attended door link ever others relay where
  orderly :=
    { attended.orderly with
      placed := fun index aside => attended.orderly.placed index fun inHand =>
        aside ((same.flatMap_right Phase.hand).mem_iff.mp inHand) }
  known := attended.known
  fits := fun phase member => attended.fits phase (same.mem_iff.mpr member)
  single := (same.flatMap_right Phase.hand).nodup_iff.mp attended.single
  serving := by
    intro on
    obtain ⟨phase, member, serves⟩ := attended.serving on
    exact ⟨phase, same.mem_iff.mp member, serves⟩

/-- What a call does to a relay, up to its flags, leaves all loops where they may stand. -/
theorem kept {after : Relay} (kept : Kept relay after) (held : ∀ index, relay.Held index → after.Held index)
    (orderly : Orderly door link (hands loops) after)
    (serving : after.serving = true → relay.serving = true) : Attended door link ever loops after where
  orderly := orderly
  known := by
    intro index member
    rcases attended.known index member with inside | gone
    · exact kept.fate index inside
    · exact .inr (kept.gone index gone).1
  fits := by
    intro phase member
    have fits := attended.fits phase member
    exact fits.kept kept fun index own => held index (fits.held index own)
  single := attended.single
  serving := fun on => attended.serving (serving on)

theorem relabel (started : Bool) (loop : Option Phase) :
    Attended door link ever loops { relay with started, loop } := by
  have same : Kept relay relay := (drift_refl attended.sound.os).kept attended.sound
  have kept : Kept relay (({ relay with started, loop } : Relay).flagged relay.serving relay.started
    relay.loop) := same
  have orderly : Orderly door link (hands loops) (({ relay with started, loop } : Relay).flagged
    relay.serving relay.started relay.loop) := attended.orderly
  exact attended.kept kept.of_flagged (fun _ held => ⟨held.live, held.apart, held.unqueued⟩) orderly.of_flagged id

theorem sway {after : Relay} (sway : Sway relay [] [] after) : Attended door link ever loops after := by
  have serving : after.serving = relay.serving := congrArg Prod.fst sway.flags
  exact attended.kept (sway.kept attended.sound) (fun _ => sway.held attended.sound List.not_mem_nil)
    (attended.orderly.sway sway) fun on => serving ▸ on

theorem frame {move : Move} (system : move.Meets Event.AllOs) :
    Attended door link ever loops (relay.frame move).after := by
  have steady := attended.orderly.steady
  have serving : (relay.frame move).after.serving = relay.serving :=
    congrArg Prod.fst (frame_flags steady system)
  exact attended.kept (frame_kept steady system) (fun _ => frame_held steady system)
    (attended.orderly.frame steady system) fun on => serving ▸ on

theorem enlist {phase : Phase} (fits : phase.Fits relay) (free : phase.hand = []) :
    Attended door link ever (phase :: loops) relay := by
  have same : hands (phase :: loops) = hands loops := by simp [hands, free]
  exact
    { orderly := same ▸ attended.orderly
      known := attended.known
      fits := List.forall_mem_cons.mpr ⟨fits, attended.fits⟩
      single := same ▸ attended.single
      serving := by
        intro on
        obtain ⟨other, member, serves⟩ := attended.serving on
        exact ⟨other, List.mem_cons_of_mem _ member, serves⟩ }

theorem bind : Attended door link ever loops (Action.state (Relay.bind relay)) := by
  have system : Move.Meets Event.AllOs .bind := trivial
  exact (relay.frame_quiet .bind Relay.bind rfl).2 ▸ attended.frame system

theorem dismiss : Attended door link ever loops (Action.state (Relay.dismiss relay)) := by
  obtain ⟨log, dismissed⟩ := dismiss_ok attended.sound
  rw [dismissed, Action.state_ok]
  exact attended.kept (emptied_kept attended.sound log) (fun _ held => emptied_held attended.sound held log)
    (attended.orderly.emptied log) id

theorem unlisten : Attended door link ever loops (Action.state (Relay.unlisten relay)) := by
  have serving : (Action.state (Relay.unlisten relay)).serving = relay.serving :=
    congrArg Prod.fst (unlisten_flags attended.sound)
  exact attended.kept (unlisten_kept attended.sound) (fun _ => unlisten_held attended.sound)
    attended.orderly.unlisten fun on => serving ▸ on

theorem close : Attended door link ever loops (Action.state (Relay.close relay)) := by
  rw [close_composed attended.sound]
  exact attended.dismiss.unlisten

end

/-- A loop that has stopped does not matter any more. -/
theorem retire {phase : Phase} (attended : Attended door link ever (phase :: loops) relay)
    (stopped : phase.isStopped = true) : Attended door link ever loops relay := by
  have same : hands (phase :: loops) = hands loops := by simp [hands, Phase.hand_stopped stopped]
  exact
    { orderly := same ▸ attended.orderly
      known := attended.known
      fits := (List.forall_mem_cons.mp attended.fits).2
      single := same ▸ attended.single
      serving := by
        intro on
        obtain ⟨other, member, serves⟩ := attended.serving on
        rcases List.mem_cons.mp member with rfl | member
        · cases other <;> simp [Phase.isStopped, Phase.isServing] at stopped serves
        · exact ⟨other, member, serves⟩ }

theorem retireAll (attended : Attended door link ever loops relay)
    (stopped : ∀ phase ∈ loops, phase.isStopped = true) : Attended door link ever [] relay := by
  induction loops with
  | nil => exact attended
  | cons phase rest ih =>
    obtain ⟨here, others⟩ := List.forall_mem_cons.mp stopped
    exact ih (attended.retire here) others

/-- One action of one of the loops. -/
theorem advance {phase : Phase} (attended : Attended door link ever (phase :: loops) relay) (caller : Caller)
    (interval : Option Number) :
    Attended door link ever ((Relay.advance caller interval phase relay).1 :: loops)
      (Relay.advance caller interval phase relay).2 := by
  obtain ⟨fits, others⟩ := List.forall_mem_cons.mp attended.fits
  have sound := attended.sound
  have stroke := advance_stroke attended.orderly.steady caller interval fits
  have kept := (stroke.sway.kept sound).of_flagged
  obtain ⟨_, single, apart⟩ := List.nodup_append.mp attended.single
  refine
    { orderly := attended.orderly.stroke stroke
      known := fun index member => ?_
      fits := List.forall_mem_cons.mpr ⟨stroke.fits, fun other member => ?_⟩
      single := List.nodup_append.mpr ⟨Phase.hand_nodup _, single, fun first new second old same => ?_⟩
      serving := fun on => ?_ }
  · rcases attended.known index member with inside | gone
    · exact kept.fate index inside
    · exact .inr (kept.gone index gone).1
  · have fits := others other member
    refine fits.kept kept fun index own => (stroke.sway.held sound (fun mine => ?_) (fits.held index own)).of_flagged
    exact apart index mine index (mem_hands.mpr ⟨other, member, own⟩) rfl
  · -- The link was waiting at the door before, so it was in no hand.
    have held := attended.held (mem_hands.mpr (mem_hands.mp old |>.imp fun _ => .imp_left (List.mem_cons_of_mem _)))
    exact (stroke.sway.takes sound new).1 (same ▸ held)
  · rcases stroke.serving on with here | ⟨before, quiet⟩
    · exact ⟨_, List.mem_cons_self .., here⟩
    · obtain ⟨other, member, serves⟩ := attended.serving before
      rcases List.mem_cons.mp member with rfl | member
      · simp [quiet] at serves
      · exact ⟨other, List.mem_cons_of_mem _ member, serves⟩

theorem advanceToEnd {phase : Phase} (attended : Attended door link ever (phase :: loops) relay)
    (caller : Caller) (interval : Option Number) (limit : Nat) :
    Attended door link ever ((Relay.advanceToEnd caller interval limit phase relay).1 :: loops)
        (Relay.advanceToEnd caller interval limit phase relay).2 ∧
      (Relay.advanceToEnd caller interval limit phase relay).2.loop = relay.loop := by
  induction limit generalizing phase relay with
  | zero => exact ⟨attended, rfl⟩
  | succ limit ih =>
    rw [Relay.advanceToEnd]
    split
    · exact ⟨attended, rfl⟩
    · have fits := attended.fits phase (List.mem_cons_self ..)
      have stroke := advance_stroke attended.orderly.steady caller interval fits
      obtain ⟨final, loop⟩ := ih (attended.advance caller interval)
      exact ⟨final, loop.trans stroke.loop⟩

theorem advanceToPark {phase : Phase} (attended : Attended door link ever (phase :: loops) relay)
    (interval : Option Number) (limit : Nat) :
    Attended door link ever ((Relay.advanceToPark interval limit phase relay).1 :: loops)
      (Relay.advanceToPark interval limit phase relay).2 := by
  induction limit generalizing phase relay with
  | zero => exact attended
  | succ limit ih =>
    rw [Relay.advanceToPark]
    split
    · exact attended
    · exact ih (attended.advance .background interval)

end Attended

/-! Serving in the foreground. -/

theorem serve_state (interval : Option Number) (relay : Relay) :
    Action.state (serve interval relay) =
      (advanceToEnd .foreground (interval <|> relay.settings.pollInterval)
        (6 * (relay.world.workload + 4)) .binding relay).2 := by
  unfold serve
  dsimp only
  split
  next ran => rw [ran]; rfl
  next ran => rw [ran]; rfl

theorem advanceToEnd_of_stopped (caller : Caller) (interval : Option Number) (limit : Nat) {phase : Phase}
    (stopped : phase.isStopped = true) (relay : Relay) :
    advanceToEnd caller interval limit phase relay = (phase, relay) := by
  cases limit with
  | zero => rfl
  | succ limit => rw [advanceToEnd, if_pos stopped]

theorem Attended.serve {door link : Nat} {ever : List Nat} {loops : List Phase} {relay : Relay}
    (attended : Attended door link ever loops relay) {interval : Option Number} (ends : relay.Ends interval) :
    Attended door link ever loops (Action.state (Relay.serve interval relay)) ∧
      (Action.state (Relay.serve interval relay)).loop = relay.loop := by
  have limit : 6 * (relay.world.workload + 4) = 6 * relay.world.workload + 23 + 1 := by omega
  have bound := attended.bind
  have loop : (Action.state (Relay.bind relay)).loop = relay.loop := congrArg (·.2.2) relay.bind_flags
  rw [serve_state]
  rw [Ends] at ends
  rw [limit, Relay.advanceToEnd, if_neg (by simp [Phase.isStopped])] at ends ⊢
  simp only [Relay.advance] at ends ⊢
  cases ran : Relay.bind relay with
  | ok done after =>
    rw [ran] at bound loop
    simp only [ran] at ends ⊢
    have listed := bound.enlist (show Phase.clearing.Fits after from trivial) rfl
    obtain ⟨final, same⟩ := listed.advanceToEnd .foreground (interval <|> relay.settings.pollInterval)
      (6 * relay.world.workload + 23)
    exact ⟨final.retire ends, same.trans loop⟩
  | error fault after =>
    rw [ran] at bound loop
    rw [advanceToEnd_of_stopped _ _ _ rfl]
    exact ⟨bound, loop⟩

/-! Serving in the background. -/

theorem Attended.runLoop {door link : Nat} {ever : List Nat} {strays : List Phase} {phase : Phase}
    {relay : Relay} (attended : Attended door link ever (phase :: strays) relay) :
    Attended door link ever ((Relay.runLoop phase relay).loop.toList ++ strays) (Relay.runLoop phase relay) := by
  have parked := (attended.advance .background relay.settings.pollInterval).advanceToPark
    relay.settings.pollInterval 6
  exact parked.relabel _ _

/-- A bound relay goes straight on to clear earlier requests to stop. -/
theorem runLoop_binding {relay : Relay} (bound : relay.listener.isBound = true) :
    runLoop .binding relay =
      { (advanceToPark relay.settings.pollInterval 6 .clearing relay).2 with
        loop := some (advanceToPark relay.settings.pollInterval 6 .clearing relay).1 } := by
  obtain ⟨own, known⟩ := Option.isSome_iff_exists.mp bound
  have idle : bind relay = .ok () relay := by simp [bind, Listener.bind, known]
  simp only [runLoop, advance, idle]

theorem start_ok {relay after : Relay} (ran : start relay = .ok () after) : relay.started = false ∧
    ∃ bound, bind relay = .ok () bound ∧ after = runLoop .binding { bound with started := true } := by
  cases started : relay.started with
  | true => simp [start, started] at ran
  | false =>
    cases bound : bind relay with
    | error fault middle => simp [start, started, bound] at ran
    | ok done middle =>
      simp only [start, started, bound, Action.bind_apply, Action.get_apply, Action.modify_apply,
        Bool.false_eq_true, if_false] at ran
      cases ran
      exact ⟨rfl, middle, rfl, rfl⟩

theorem start_error {relay after : Relay} {fault : Fault} (ran : start relay = .error fault after) :
    after = relay ∨ after = Action.state (bind relay) := by
  cases started : relay.started with
  | true =>
    simp only [start, started, Action.bind_apply, Action.get_apply, if_true, Action.throw_apply] at ran
    cases ran
    exact .inl rfl
  | false =>
    cases bound : bind relay with
    | error fault middle =>
      simp only [start, started, bound, Action.bind_apply, Action.get_apply, Bool.false_eq_true,
        if_false] at ran
      cases ran
      exact .inr rfl
    | ok done middle => simp [start, started, bound] at ran

theorem Attended.start {door link : Nat} {ever : List Nat} {loops : List Phase} {relay after : Relay}
    (attended : Attended door link ever loops relay) (ran : Relay.start relay = .ok () after) :
    Attended door link ever (after.loop.toList ++ loops) after := by
  obtain ⟨_, bound, binding, rfl⟩ := start_ok ran
  have listens : bound.listener.isBound = true := bind_isBound binding
  have ready := attended.bind
  rw [binding, Action.state_ok] at ready
  have labelled : Attended door link ever loops { bound with started := true } := ready.relabel true bound.loop
  have listed := labelled.enlist (show Phase.clearing.Fits { bound with started := true } from trivial) rfl
  have launched : Relay.runLoop .binding { bound with started := true } = _ := runLoop_binding listens
  rw [launched]
  exact (listed.advanceToPark bound.settings.pollInterval 6).relabel _ _

theorem Attended.resume {door link : Nat} {ever : List Nat} {strays : List Phase} {relay : Relay}
    (attended : Attended door link ever (relay.loop.toList ++ strays) relay) :
    Attended door link ever (relay.resume.loop.toList ++ strays) relay.resume := by
  unfold Relay.resume
  split
  next phase stands =>
    rw [stands] at attended
    exact attended.runLoop
  · exact attended

theorem Attended.awaitLoop {door link : Nat} {ever : List Nat} {strays : List Phase} {relay : Relay}
    (attended : Attended door link ever (relay.loop.toList ++ strays) relay) (limit : Nat) :
    Attended door link ever ((Relay.awaitLoop limit relay).loop.toList ++ strays)
      (Relay.awaitLoop limit relay) := by
  induction limit generalizing relay with
  | zero => exact attended
  | succ limit ih =>
    rw [Relay.awaitLoop]
    split
    · exact attended
    · exact ih attended.resume

/-- The relay when its background loop has been asked to stop and has been waited for. -/
def halted (relay : Relay) : Relay :=
  let asked := Action.state (shutdown relay)
  if asked.started then { awaitLoop (asked.world.workload + 2) asked with started := false } else asked

theorem Attended.halted {door link : Nat} {ever : List Nat} {strays : List Phase} {relay : Relay}
    (attended : Attended door link ever (relay.loop.toList ++ strays) relay) :
    Attended door link ever (relay.halted.loop.toList ++ strays) relay.halted ∧
      relay.halted.started = false := by
  have system : Move.Meets Event.AllOs .shutdown := trivial
  have asked : Attended door link ever (relay.loop.toList ++ strays) (Action.state (shutdown relay)) :=
    attended.frame system
  unfold Relay.halted
  dsimp only
  split
  next started => exact ⟨(asked.awaitLoop _).relabel _ _, rfl⟩
  next idle => exact ⟨asked, by simpa using idle⟩

/-- The ways to leave a relay for good.  Who abandons it has not waited long enough for its loop to stop. -/
inductive Exit where
  | close
  | stop
  | leave
  | abandon

namespace Exit

def call : Exit → RelayCall Unit
  | .close => Relay.close
  | .stop => Relay.stop
  | .leave => Relay.leave
  | .abandon => Relay.abandon

/-- What happens to a relay that is left before it is closed. -/
def begun : Exit → Relay → Relay
  | .close, relay => relay
  | .stop, relay => relay.halted
  | .leave, relay => if relay.started then relay.halted else relay
  | .abandon, relay => { Action.state (shutdown relay) with started := false }

theorem call_eq (exit : Exit) (relay : Relay) : exit.call relay = Relay.close (exit.begun relay) := by
  cases exit with
  | leave =>
    simp only [call, Relay.leave, begun, Action.bind_apply, Action.get_apply]
    split <;> rfl
  | _ => rfl

end Exit

theorem Attended.begun {door link : Nat} {ever : List Nat} {strays : List Phase} {relay : Relay}
    (attended : Attended door link ever (relay.loop.toList ++ strays) relay) (exit : Exit) :
    Attended door link ever ((exit.begun relay).loop.toList ++ strays) (exit.begun relay) ∧
      (exit ≠ .close → (exit.begun relay).started = false) := by
  have halted := attended.halted
  cases exit with
  | close => exact ⟨attended, fun other => absurd rfl other⟩
  | stop => exact ⟨halted.1, fun _ => halted.2⟩
  | leave =>
    by_cases started : relay.started = true
    · have same : Exit.begun .leave relay = relay.halted := if_pos started
      exact same.symm ▸ ⟨halted.1, fun _ => halted.2⟩
    · have same : Exit.begun .leave relay = relay := if_neg started
      exact same.symm ▸ ⟨attended, fun _ => by simpa using started⟩
  | abandon =>
    have system : Move.Meets Event.AllOs .shutdown := trivial
    have asked : Attended door link ever (relay.loop.toList ++ strays) (Action.state (shutdown relay)) :=
      attended.frame system
    exact ⟨asked.relabel false _, fun _ => rfl⟩

/-- A relay with the loops of earlier starts, which may still run. -/
structure Site where
  relay : Relay
  strays : List Phase

namespace Site

def loops (site : Site) : List Phase := site.relay.loop.toList ++ site.strays

/-- Whether no loop runs any more. -/
def IsOver (site : Site) : Prop := ∀ phase ∈ site.loops, phase.isStopped = true

/-- Whether no loop has accepted a link that it has not let in yet. -/
def IsFree (site : Site) : Prop := ∀ phase ∈ site.loops, phase.hand = []

instance (site : Site) : Decidable site.IsOver :=
  inferInstanceAs (Decidable (∀ phase ∈ site.loops, phase.isStopped = true))

instance (site : Site) : Decidable site.IsFree :=
  inferInstanceAs (Decidable (∀ phase ∈ site.loops, phase.hand = []))

def begun (site : Site) (exit : Relay.Exit) : Site := { site with relay := exit.begun site.relay }

def dismissed (site : Site) : Site := { site with relay := Action.state (Relay.dismiss site.relay) }

def unlisted (site : Site) : Site := { site with relay := Action.state (Relay.unlisten site.relay) }

/-- What may happen while nobody calls the relay: an event, or an action of one of its loops. -/
inductive Beat : Site → Site → Prop
  | event (site : Site) (event : Event) (system : event.AllOs) :
      Beat site { site with relay := (site.relay.frame (.event event)).after }
  | loop (site : Site) (phase : Phase) (stands : site.relay.loop = some phase) :
      Beat site { site with
        relay :=
          { (Relay.advance .background site.relay.settings.pollInterval phase site.relay).2 with
            loop := some (Relay.advance .background site.relay.settings.pollInterval phase site.relay).1 } }
  | stray (relay : Relay) (early late : List Phase) (phase : Phase) :
      Beat ⟨relay, early ++ phase :: late⟩
        ⟨(Relay.advance .background relay.settings.pollInterval phase relay).2,
          early ++ (Relay.advance .background relay.settings.pollInterval phase relay).1 :: late⟩

/-- The site after one more action of the loop that was started last. -/
def goOn (site : Site) : Site :=
  match site.relay.loop with
  | some phase =>
    { site with
      relay :=
        { (Relay.advance .background site.relay.settings.pollInterval phase site.relay).2 with
          loop := some (Relay.advance .background site.relay.settings.pollInterval phase site.relay).1 } }
  | none => site

/-- What a relay may be put through: what happens by itself, and all that its owner may call.  Of the calls
that close it, each part is a deed of its own, so that its loops may act in between. -/
inductive Deed : Site → Site → Prop
  | beat {site after : Site} (beat : Beat site after) : Deed site after
  | move (site : Site) (move : Move) (system : move.Meets Event.AllOs) :
      Deed site { site with relay := (site.relay.frame move).after }
  | resumed (site : Site) : Deed site { site with relay := site.relay.resume }
  | started (site : Site) (after : Relay) (ran : Relay.start site.relay = .ok () after) :
      Deed site ⟨after, site.loops⟩
  | refused (site : Site) (fault : Fault) (after : Relay) (ran : Relay.start site.relay = .error fault after) :
      Deed site { site with relay := after }
  | served (site : Site) (interval : Option Number) (ends : site.relay.Ends interval) :
      Deed site { site with relay := Action.state (Relay.serve interval site.relay) }
  | begun (site : Site) (exit : Relay.Exit) : Deed site (site.begun exit)
  | dismissed (site : Site) : Deed site site.dismissed
  | unlisted (site : Site) : Deed site site.unlisted

def Attended (door link : Nat) (ever : List Nat) (site : Site) : Prop :=
  site.relay.Attended door link ever site.loops

section

variable {door link : Nat} {ever : List Nat} {site after : Site}

theorem Attended.steady (attended : site.Attended door link ever) : site.relay.Steady :=
  (Relay.Attended.orderly attended).steady

/-- A call that leaves the loops as they are. -/
theorem Attended.called {relay : Relay} (flags : relay.flags = site.relay.flags)
    (attended : relay.Attended door link ever site.loops) : Attended door link ever { site with relay } := by
  have loop : relay.loop = site.relay.loop := congrArg (·.2.2) flags
  show Relay.Attended door link ever (_ ++ site.strays) _
  rw [loop]
  exact attended

theorem Attended.move (attended : site.Attended door link ever) {move : Move}
    (system : move.Meets Event.AllOs) :
    Attended door link ever { site with relay := (site.relay.frame move).after } :=
  .called (Relay.frame_flags attended.steady system) (Relay.Attended.frame attended system)

theorem Attended.dismissed (attended : site.Attended door link ever) :
    site.dismissed.Attended door link ever :=
  .called (Relay.dismiss_flags attended.steady.sound) (Relay.Attended.dismiss attended)

theorem Attended.unlisted (attended : site.Attended door link ever) :
    site.unlisted.Attended door link ever :=
  .called (Relay.unlisten_flags attended.steady.sound) (Relay.Attended.unlisten attended)

theorem Attended.begun (attended : site.Attended door link ever) (exit : Relay.Exit) :
    (site.begun exit).Attended door link ever :=
  (Relay.Attended.begun attended exit).1

/-- Any of the loops may be looked at first. -/
theorem stray_iff {relay : Relay} {early late : List Phase} {phase : Phase} :
    Attended door link ever ⟨relay, early ++ phase :: late⟩ ↔
      relay.Attended door link ever (phase :: (relay.loop.toList ++ (early ++ late))) := by
  have same : (loops ⟨relay, early ++ phase :: late⟩).Perm (phase :: (relay.loop.toList ++ (early ++ late))) := by
    simp only [loops, ← List.append_assoc]
    exact List.perm_middle
  exact ⟨fun attended => attended.reorder same, fun attended => attended.reorder same.symm⟩

/-- The loop that was started last, looked at first. -/
theorem Attended.listed (attended : site.Attended door link ever) {phase : Phase}
    (stands : site.relay.loop = some phase) : site.relay.Attended door link ever (phase :: site.strays) := by
  simpa [Attended, loops, stands] using attended

theorem Attended.beat (attended : site.Attended door link ever) (beat : Beat site after) :
    after.Attended door link ever := by
  cases beat with
  | event site event system => exact attended.move system
  | loop site phase stands =>
    exact ((attended.listed stands).advance .background site.relay.settings.pollInterval).relabel _ _
  | stray relay early late phase =>
    have listed := stray_iff.mp attended
    have stroke := Relay.advance_stroke listed.orderly.steady .background relay.settings.pollInterval
      (listed.fits phase (List.mem_cons_self ..))
    have moved := listed.advance .background relay.settings.pollInterval
    rw [← stroke.loop] at moved
    exact stray_iff.mpr moved

theorem Attended.deed (attended : site.Attended door link ever) (deed : Deed site after) :
    after.Attended door link ever := by
  cases deed with
  | beat beat => exact attended.beat beat
  | move move system => exact attended.move system
  | resumed => exact Relay.Attended.resume attended
  | started relay ran => exact Relay.Attended.start attended ran
  | refused fault relay ran =>
    rcases Relay.start_error ran with rfl | rfl
    · exact attended
    · have system : Move.Meets Event.AllOs .bind := trivial
      have moved := attended.move system
      rw [(site.relay.frame_quiet .bind Relay.bind rfl).2] at moved
      exact moved
  | served interval ends =>
    obtain ⟨served, loop⟩ := Relay.Attended.serve attended ends
    show Relay.Attended door link ever (_ ++ site.strays) _
    rw [loop]
    exact served
  | begun exit => exact attended.begun exit
  | dismissed => exact attended.dismissed
  | unlisted => exact attended.unlisted

theorem Attended.deeds (attended : site.Attended door link ever) (deeds : Relation.ReflTransGen Deed site after) :
    after.Attended door link ever := by
  induction deeds with
  | refl => exact attended
  | tail earlier deed ih => exact ih.deed deed

end

end Site

theorem ofSettings_attended (settings : RelaySettings) {world : World}
    (grounded : (ofSettings settings world).Grounded) (os : world.AllOs)
    (lower : 0 ≤ settings.port) (upper : settings.port ≤ 65535) :
    Attended world.net.doorCount world.net.linkCount [] [] (ofSettings settings world) where
  orderly :=
    { steady := ofSettings_steady settings grounded os lower upper
      owns := ⟨Nat.le_refl _, fun _ bound => (nomatch bound), fun _ low high => absurd high (Nat.not_lt_of_le low)⟩
      placed := fun _ _ low high => absurd high (Nat.not_lt_of_le low)
      vacant := fun _ low high => absurd high (Nat.not_lt_of_le low) }
  known := fun _ member => (nomatch member)
  fits := fun _ member => (nomatch member)
  single := List.nodup_nil
  serving := fun on => (nomatch on)

end Relay
end RelayBench
