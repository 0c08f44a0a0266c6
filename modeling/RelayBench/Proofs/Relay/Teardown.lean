import RelayBench.Proofs.Relay.Site

/-! Tearing a relay down.  Whichever way a relay is left, it is unbound and empty afterwards, and no link or
door of its own stays open, unless one of its loops still holds a link that it has accepted and not let in;
loops that run on cannot open the relay any more, and it can be started again. -/
namespace RelayBench

namespace Relay

/-- A relay that holds nothing. -/
structure Bare (relay : Relay) : Prop where
  unbound : relay.listener.door = none
  empty : relay.members = []

theorem close_bare {relay : Relay} (sound : relay.Sound) : (Action.state (close relay)).Bare := by
  obtain ⟨log, closed⟩ := close_state sound
  rw [closed]
  exact ⟨rfl, rfl⟩

/-- An action of one of the loops, when none of them holds a link: nobody comes in by it, and on an unbound
relay it takes nobody from the door. -/
theorem Attended.advance_free {door link : Nat} {ever : List Nat} {loops : List Phase} {phase : Phase}
    {relay : Relay} (attended : Attended door link ever (phase :: loops) relay) (free : phase.hand = [])
    (caller : Caller) (interval : Option Number) :
    (relay.members = [] → (Relay.advance caller interval phase relay).2.members = []) ∧
      (Relay.advance caller interval phase relay).2.listener = relay.listener ∧
      (Relay.advance caller interval phase relay).2.started = relay.started ∧
      (Relay.advance caller interval phase relay).2.loop = relay.loop ∧
      (relay.listener.door = none → (Relay.advance caller interval phase relay).1.hand = []) := by
  have fits := attended.fits phase (List.mem_cons_self ..)
  have stroke := advance_stroke attended.orderly.steady caller interval fits
  refine ⟨fun empty => List.eq_nil_iff_forall_not_mem.mpr fun index member => ?_,
    stroke.sway.listener attended.sound, stroke.started, stroke.loop, fun unbound => ?_⟩
  · have entered := stroke.entry index member
    simp [empty, free] at entered
  · refine List.eq_nil_iff_forall_not_mem.mpr fun index member => ?_
    have bound := (stroke.sway.takes attended.sound member).2.2
    simp [Listener.isBound, unbound] at bound

/-- Of the doors and links from some numbers on, a relay holds none: it has no listener and no members, no
door is open, and an open link waits at an older door, if it is one that can be taken over. -/
structure Released (door link : Nat) (relay : Relay) : Prop where
  unbound : relay.listener.isBound = false
  empty : relay.members = []
  doors : ∀ index, door ≤ index → index < relay.world.net.doorCount →
    (relay.world.net.door index).isOpen = false
  links : ∀ index, link ≤ index → index < relay.world.net.linkCount →
    relay.adoption index = .ok () →
    (relay.world.net.link index).hasDescriptor = true →
    ∃ older, older < door ∧ index ∈ (relay.world.net.door older).pending

theorem Orderly.released {door link : Nat} {relay : Relay} (orderly : Orderly door link [] relay)
    (bare : relay.Bare) : Released door link relay := by
  have shut (index : Nat) (lower : door ≤ index) (upper : index < relay.world.net.doorCount) :
      (relay.world.net.door index).isOpen = false := by
    by_contra opened
    have own := orderly.owns.only index lower upper (by simpa using opened)
    simp [bare.unbound] at own
  refine ⟨by simp [Listener.isBound, bare.unbound], bare.empty, shut, ?_⟩
  intro index lower upper adopted opened
  rcases orderly.placed index List.not_mem_nil lower upper opened with member | ⟨place, known, waits⟩ | lost
  · simp [bare.empty] at member
  · refine ⟨place, ?_, waits⟩
    by_contra own
    have nobody := orderly.vacant place (Nat.le_of_not_lt own) known (shut place (Nat.le_of_not_lt own) known)
    simp [nobody] at waits
  · exact absurd adopted lost

/-- Whether serving in the foreground comes to its end, if it comes to its beginning. -/
def ServesOut (relay : Relay) : Prop := ∀ bound, bind relay = .ok () bound → bound.Ends none

theorem foreground_state {relay bound : Relay} (ran : bind relay = .ok () bound) : ∃ log,
    Action.state (foreground relay) = Action.state (close ((Action.state (serve none bound)).inWorld
      { (Action.state (serve none bound)).world with log })) := by
  simp only [foreground, Action.bind_apply, ran, Action.attempt_apply]
  cases served : serve none bound with
  | ok done after => exact ⟨after.world.log, rfl⟩
  | error fault after =>
    dsimp only
    split
    · have told : (liftM (World.emit (.plain .info Logger.relay "KeyboardInterrupt. Exiting")) :
          RelayCall Unit) after = .ok () (after.inWorld (after.world.write
            (.plain .info Logger.relay "KeyboardInterrupt. Exiting"))) := rfl
      rw [World.write_eq] at told
      exact ⟨_, by rw [Action.bind_ok told]; rfl⟩
    · refine ⟨after.world.log, ?_⟩
      show _ = Action.state (close after)
      rw [Action.bind_apply]
      cases close after <;> rfl

theorem Bare.unbindable {relay after : Relay} {fault : Fault} (bare : relay.Bare)
    (failed : bind relay = .error fault after) : after.Bare := by
  cases opened : Net.openDoor relay.listener.host relay.listener.port relay.listener.backlog
      relay.room.world.net with
  | ok index net => simp [bind, Listener.bind, bare.unbound, opened] at failed
  | error raised net =>
    simp only [bind, Listener.bind, bare.unbound, opened, Action.bind_apply, Action.get_apply,
      Action.liftBenchRelay_apply, Action.onPart_apply, Action.liftNet_apply] at failed
    cases failed
    exact ⟨bare.unbound, bare.empty⟩

theorem Attended.foreground {door link : Nat} {ever : List Nat} {loops : List Phase} {relay : Relay}
    (attended : Attended door link ever loops relay) (bare : relay.Bare) (ends : relay.ServesOut) :
    Attended door link ever loops (Action.state (Relay.foreground relay)) ∧
      (Action.state (Relay.foreground relay)).Bare := by
  have ready := attended.bind
  cases ran : Relay.bind relay with
  | ok done bound =>
    rw [ran] at ready
    have served := (ready.serve (ends bound ran)).1
    obtain ⟨log, left⟩ := foreground_state ran
    have noted : Attended door link ever loops ((Action.state (Relay.serve none bound)).inWorld
        { (Action.state (Relay.serve none bound)).world with log }) :=
      served.sway (.lull (quiet_lull served.sound.os rfl rfl))
    rw [left]
    exact ⟨noted.close, close_bare noted.sound⟩
  | error fault after =>
    have left : Relay.foreground relay = .error fault after := by
      simp only [Relay.foreground, Action.bind_apply, ran]
    rw [ran] at ready
    rw [left]
    exact ⟨ready, bare.unbindable ran⟩

namespace Site

/-- A beat that leaves no loop with a link that it has not let in yet. -/
def Calm (before after : Site) : Prop := Beat before after ∧ after.IsFree

section

variable {door link : Nat} {ever : List Nat} {site after : Site} (attended : site.Attended door link ever)
  (free : site.IsFree)
include attended free

/-- When no loop holds a link, nobody comes in by a beat, and an unbound relay stays without. -/
theorem Attended.quiet (beat : Beat site after) :
    (site.relay.members = [] → after.relay.members = []) ∧ after.relay.listener = site.relay.listener ∧
      after.relay.started = site.relay.started ∧ (site.relay.listener.door = none → after.IsFree) := by
  cases beat with
  | event site event system =>
    obtain ⟨_, stop, left⟩ := site.relay.frame_event event
    have same : (site.relay.frame (.event event)).after.loop = site.relay.loop := by
      rw [left]
      rfl
    refine ⟨fun empty => ?_, ?_, ?_, fun _ phase member => free phase ?_⟩
    · exact (congrArg Relay.members left).trans empty
    · exact (congrArg Relay.listener left).trans rfl
    · exact (congrArg Relay.started left).trans rfl
    · simpa only [loops, same] using member
  | loop site phase stands =>
    have here : phase.hand = [] := free phase (by simp [loops, stands])
    obtain ⟨empty, listener, started, _, still⟩ := (attended.listed stands).advance_free here .background
      site.relay.settings.pollInterval
    refine ⟨empty, listener, started, fun unbound other member => ?_⟩
    rcases List.mem_cons.mp member with rfl | member
    · exact still unbound
    · exact free other (List.mem_append_right _ member)
  | stray relay early late phase =>
    have here : phase.hand = [] := free phase (by simp [loops])
    obtain ⟨empty, listener, started, loop, still⟩ := (stray_iff.mp attended).advance_free here .background
      relay.settings.pollInterval
    refine ⟨empty, listener, started, fun unbound other member => ?_⟩
    simp only [loops, loop, List.mem_append, List.mem_cons] at member
    rcases member with own | before | rfl | behind
    · exact free other (by simp [loops, own])
    · exact free other (by simp [loops, before])
    · exact still unbound
    · exact free other (by simp [loops, behind])

/-- Between the two parts of a closing. -/
theorem Attended.calms (empty : site.relay.members = []) (calms : Relation.ReflTransGen Calm site after) :
    after.Attended door link ever ∧ after.IsFree ∧ after.relay.members = [] ∧
      after.relay.started = site.relay.started := by
  induction calms with
  | refl => exact ⟨attended, free, empty, rfl⟩
  | tail earlier calm ih =>
    obtain ⟨attended, free, empty, started⟩ := ih
    obtain ⟨nobody, _, same, _⟩ := attended.quiet free calm.1
    exact ⟨attended.beat calm.1, calm.2, nobody empty, same.trans started⟩

/-- After a closing: loops that run on leave a relay that holds nothing that way. -/
theorem Attended.beats (bare : site.relay.Bare) (beats : Relation.ReflTransGen Beat site after) :
    after.Attended door link ever ∧ after.IsFree ∧ after.relay.Bare ∧
      after.relay.started = site.relay.started := by
  induction beats with
  | refl => exact ⟨attended, free, bare, rfl⟩
  | tail earlier beat ih =>
    obtain ⟨attended, free, bare, started⟩ := ih
    obtain ⟨nobody, listener, same, still⟩ := attended.quiet free beat
    exact ⟨attended.beat beat, still bare.unbound, ⟨listener ▸ bare.unbound, nobody bare.empty⟩,
      same.trans started⟩

end

section

variable {door link : Nat} {ever : List Nat} {site : Site} (attended : site.Attended door link ever)
include attended

/-- To leave a relay in one go is to begin to leave it, to let its members go and to close its door. -/
theorem Attended.exit (exit : Relay.Exit) :
    Action.state (exit.call site.relay) = (site.begun exit).dismissed.unlisted.relay := by
  rw [exit.call_eq]
  exact Relay.close_composed (attended.begun exit).steady.sound

theorem Attended.emptied : site.dismissed.relay.members = [] ∧ (site.IsFree → site.dismissed.IsFree) ∧
    site.dismissed.relay.started = site.relay.started := by
  obtain ⟨log, dismissed⟩ := Relay.dismiss_ok attended.steady.sound
  have left : site.dismissed = ⟨site.relay.put [] site.relay.emptiedNet log, site.strays⟩ := by
    rw [Site.dismissed, dismissed, Action.state_ok]
  rw [left]
  exact ⟨rfl, id, rfl⟩

theorem Attended.shut : site.unlisted.relay.listener.door = none ∧
    site.unlisted.relay.members = site.relay.members ∧ (site.IsFree → site.unlisted.IsFree) ∧
    site.unlisted.relay.started = site.relay.started := by
  rw [Site.unlisted, Relay.unlisten_state attended.steady.sound]
  exact ⟨rfl, rfl, id, rfl⟩

/-- A relay that is left while no loop holds a link, and whose loops accept none until its door is closed,
holds nothing from then on. -/
theorem Attended.left {exit : Relay.Exit} (free : (site.begun exit).IsFree) {closing final : Site}
    (calms : Relation.ReflTransGen Calm (site.begun exit).dismissed closing)
    (beats : Relation.ReflTransGen Beat closing.unlisted final) :
    final.Attended door link ever ∧ final.IsFree ∧ final.relay.Bare ∧
      (exit ≠ .close → final.relay.started = false) := by
  have idle := (Relay.Attended.begun attended exit).2
  have attended := attended.begun exit
  obtain ⟨empty, still, started⟩ := attended.emptied
  obtain ⟨attended, free, empty, same⟩ := attended.dismissed.calms (still free) empty calms
  obtain ⟨unbound, members, still, kept⟩ := attended.shut
  have bare : closing.unlisted.relay.Bare := ⟨unbound, members.trans empty⟩
  obtain ⟨attended, free, bare, unmoved⟩ := attended.unlisted.beats (still free) bare beats
  refine ⟨attended, free, bare, fun other => ?_⟩
  rw [unmoved, kept, same, started]
  exact idle other

end

end Site

/-- A client connects to a relay that has been started, and the loop accepts the link. -/
def caught : Site :=
  Site.goOn ⟨(Action.state (start (ofSettings plainSettings {}))).afterAll
    [.event (.connect "ann" none none none none)], []⟩

end Relay
end RelayBench
