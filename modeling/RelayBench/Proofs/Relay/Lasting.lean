import RelayBench.Proofs.Net.Reliance
import RelayBench.Proofs.Relay.Heeding
import RelayBench.Proofs.Relay.Resilience

/-! Nothing but a request ends a loop.  On a network that can be relied on, and with no script to follow, a
loop on a bound relay never stalls and never meets a fault that it does not handle; a request to stop ends it
without one. -/
namespace RelayBench

namespace World

/-- No script has a part in a wait: it is a wait in the background, or there is no script and the wait is
limited by time. -/
def Unscripted (caller : Caller) (timeout : Option Number) (world : World) : Prop :=
  caller = .background ∨ world.script = none ∧ timeout.isSome = true

theorem Unscripted.of_script {caller : Caller} {timeout : Option Number} {before after : World}
    (lasts : before.Unscripted caller timeout) (script : after.script = before.script) :
    after.Unscripted caller timeout :=
  lasts.imp id (And.imp script.trans id)

end World

namespace Readiness

/-- A wait that has no script to follow, and no fault to meet, reports what is ready and goes on. -/
theorem poll_reports {caller : Caller} {timeout : Option Number} {world : World}
    (quiet : FaultQueue.next world.net.faults .select = none)
    (lasts : world.Unscripted caller timeout) (watched : List Watched) :
    poll caller timeout watched world = .ok (ready { world with net := world.net.called .select } watched)
      { world with net := world.net.called .select } := by
  rcases lasts with rfl | ⟨script, limited⟩
  · simp [poll, Net.queued_ok quiet]
  · obtain ⟨limit, rfl⟩ := Option.isSome_iff_exists.mp limited
    cases caller <;> simp [poll, Net.queued_ok quiet, World.advanceScript, script]

theorem finish_reports {caller : Caller} {timeout : Option Number} (room : Room)
    (quiet : FaultQueue.next room.world.net.faults .select = none)
    (lasts : room.world.Unscripted caller timeout) (watched : List Watched) :
    ∃ found log, (∀ thing ∈ found, thing.isReady (room.world.net.called .select) = true) ∧
      finish caller timeout watched room = .ok (arrange room.members found)
        { room with world := { room.world with net := room.world.net.called .select, log } } := by
  have polled := poll_reports quiet lasts watched
  obtain ⟨log, ran⟩ := finish_ok room polled
  exact ⟨_, log, fun _ member => (mem_of_ready member).2, ran⟩

end Readiness

namespace Relay

theorem readNet_spends (relay : Relay) (source : Nat) {own : Option Nat} :
    Net.Spends own relay.world.net (relay.readNet source) :=
  Net.updateLink_spends relay.world.net source (Link.read_subset ..)

theorem taking_spends (relay : Relay) (door first : Nat) (rest : List Nat) :
    Net.Spends (some door) relay.world.net (relay.taking door first rest) := by
  refine (Net.called_spends relay.world.net .accept).trans
    ((Net.updateDoor_spends _ door fun d => { d with pending := rest }).trans (Net.updateLink_spends _ first ?_))
  rw [Link.adopt_faults]
  exact List.Subset.refl _

theorem taking_addressed {relay : Relay} (addressed : relay.world.net.Addressed) (door first : Nat)
    (rest : List Nat) : (relay.taking door first rest).Addressed := by
  intro index
  rw [taking_link]
  split
  · rw [(Link.adopt_taken ..).address]
    exact addressed first
  · exact addressed index

/-- The service of an iteration uses up faults in store and changes the door of the relay at most. -/
theorem Served.spends {relay after : Relay} {result : Except Fault Outcome} (served : Served relay result after) :
    Net.Spends relay.listener.door relay.world.net after.world.net := by
  cases served with
  | nothing => exact .refl _
  | refused net log same => rcases same with rfl | rfl <;> [exact .refl _; exact Net.called_spends _ .accept]
  | welcomed door first rest log bound queue adopted => exact bound ▸ relay.taking_spends door first rest
  | misfit fault door first rest bound queue lost => exact bound ▸ relay.taking_spends door first rest
  | forgone fault door first rest log bound queue lost system => exact bound ▸ relay.taking_spends door first rest
  | left source log member none =>
    exact (relay.readNet_spends source).trans (Net.updateLink_spends _ source (Link.close_subset _))
  | handedOn source payload log member some full =>
    exact (relay.readNet_spends source).trans
      (Net.updateLinks_spends _ (relay.room.others source) fun link => link.served_subset payload)
  | unread source fault member fails foreign => exact relay.readNet_spends source

theorem Served.candid {relay after : Relay} {result : Except Fault Outcome} (sound : relay.Sound)
    (served : Served relay result after) (candid : relay.world.net.Candid) : after.world.net.Candid :=
  candid.spends served.spends (served.addressed sound candid.addressed)

theorem afterRead_addressed {relay : Relay} (addressed : relay.world.net.Addressed) (source : Nat)
    (log : List Entry) : (relay.afterRead source log).world.net.Addressed := by
  intro index
  have read : (relay.afterRead source log).world.net.link index =
      if index = source then ((relay.world.net.link source).read relay.world.net.platform relay.settings.recvSize).2
      else relay.world.net.link index := relay.readNet_link source index
  rw [read]
  split
  · rw [Link.side_address (Link.read_side ..)]
    exact addressed source
  · exact addressed index

theorem afterRead_candid {relay : Relay} (candid : relay.world.net.Candid) (source : Nat) (log : List Entry) :
    (relay.afterRead source log).world.net.Candid :=
  candid.spends (show Net.Spends none _ _ from relay.readNet_spends source)
    (afterRead_addressed candid.addressed source log)

theorem bind_candid {relay after : Relay} (ran : bind relay = .ok () after) (candid : relay.world.net.Candid) :
    after.world.net.Candid ∧ after.world.script = relay.world.script := by
  cases bound : relay.listener.door with
  | some own =>
    cases ran.symm.trans (bind_bound bound)
    exact ⟨candid, rfl⟩
  | none =>
    cases opened : Net.openDoor relay.listener.host relay.listener.port relay.listener.backlog
        relay.world.net with
    | error fault net => cases ran.symm.trans (bind_failed bound opened)
    | ok index net =>
      obtain ⟨links, _, _, stores⟩ := Net.openDoor_success _ opened
      have link (other : Nat) : net.link other = relay.world.net.link other := congrArg (Table.get · other) links
      have listening : net.Candid :=
        ⟨fun other => link other ▸ candid.addressed other, stores candid.waits,
          fun other => link other ▸ candid.reads other⟩
      have told := bind_opened bound opened
      rw [World.write_eq] at told
      cases ran.symm.trans told
      exact ⟨listening, rfl⟩

end Relay

/-- Where a loop may stand that no fault has come near. -/
def Phase.Goes (relay : Relay) : Phase → Prop
  | .binding => True
  | .reading source =>
    relay.listener.isBound = true ∧ (relay.world.net.link source).stream.isReadable = true
  | .stalled _ => False
  | .stopping fault => fault = none
  | .stopped fault => fault = none
  | _ => relay.listener.isBound = true

namespace Relay

/-- What holds between any two ticks of a loop on a network that can be relied on, if no script has a part
in its waits. -/
structure Hale (caller : Caller) (interval : Option Number) (now : Phase × Relay) : Prop where
  candid : now.2.world.net.Candid
  lasts : now.2.world.Unscripted caller interval
  goes : now.1.Goes now.2

section

variable {caller : Caller} {interval : Option Number} {relay : Relay}
  (lasts : relay.world.Unscripted caller interval)
  (bound : relay.listener.isBound = true) (sound : relay.Sound) (suited : relay.Suited)
  (candid : relay.world.net.Candid)
include lasts bound sound suited candid

theorem Serves.hale {action : RelayCall Outcome} (serves : relay.Serves (action relay)) :
    Hale caller interval (advanceBy action (fun _ => .testing) relay) := by
  obtain ⟨outcome, result⟩ := Served.outcome sound suited serves candid.addressed
  have reliable := Served.candid sound serves candid
  have script := Served.script serves
  have listener := (Served.turn sound serves).listener
  cases ran : action relay with
  | error fault after => simp [ran] at result
  | ok done after =>
    rw [ran, Action.state_ok] at reliable script listener
    simp only [advanceBy, ran]
    have still : after.listener.isBound = true := listener ▸ bound
    exact ⟨reliable, lasts.of_script script, still⟩

/-- A read of what was reported readable does not stall, and nothing that comes of it ends the loop. -/
theorem advanceRead_hale {source : Nat} (known : source ∈ relay.members ∨ relay.Gone source)
    (readable : (relay.world.net.link source).stream.isReadable = true) :
    Hale caller interval (advanceRead caller source relay) := by
  have heard : relay.reading source ≠ .nothing := by
    rw [reading, Link.read_ok _ suited.size]
    exact Stream.read_readable _ _ (candid.reads source) readable
  have goesOn : advanceRead caller source relay =
      advanceBy (readMember source >>= received source) (fun _ => .testing) relay := by
    simp only [advanceRead, advanceBy, Action.bind_apply, relay.readMember_ok source]
    cases read : relay.reading source with
    | nothing => exact absurd read heard
    | bytes payload => cases caller <;> rfl
    | fault fault => cases caller <;> rfl
  rw [goesOn]
  rcases known with member | gone
  · exact Serves.hale lasts bound sound suited candid (received_serves sound member)
  · obtain ⟨log, ran⟩ := received_gone gone (copes_of_size sound suited.size source)
    simp only [advanceBy, ran]
    exact ⟨afterRead_candid candid source log, lasts, bound⟩

/-- Nothing that comes of an acceptance ends the loop. -/
theorem Accepting.hale {next : Phase × Relay} (accepting : Accepting relay caller next) :
    Hale caller interval next := by
  cases accepting with
  | unbound fault unbound => simp [Listener.isBound, unbound] at bound
  | refused door fault net log own failed same =>
    exact ⟨Served.candid sound (.refused net log same) candid, lasts, bound⟩
  | misfit fault door first rest own queue lost foreign =>
    exact absurd (cut_of_adoption suited.limit (by simp [lost])) (candid.addressed first)
  | forgone fault door first rest log own queue lost system =>
    exact absurd (cut_of_adoption suited.limit (by simp [lost])) (candid.addressed first)
  | taken door first rest own queue adopted =>
    have taken := candid.spends (relay.taking_spends door first rest) (taking_addressed candid.addressed door first rest)
    exact ⟨taken, lasts, bound⟩

theorem advanceWait_hale (script : relay.world.Scripted Event.AllOs) (watched : List Watched) :
    Hale caller interval (advance caller interval (.waiting watched) relay) := by
  obtain ⟨found, log, heard, ran⟩ := Readiness.finish_reports relay.room candid.quiet lasts watched
  have waited : relay.world.Polled { relay.world with net := relay.world.net.called .select, log } :=
    ⟨.inr rfl, .inr rfl⟩
  have drift := (polled_lull sound.os script waited).toDrift
  have still := drift.sound sound
  have reliable : (relay.world.net.called .select).Candid := candid.called .select
  simp only [advance, ran]
  cases ready : Readiness.arrange relay.room.members found with
  | nil => exact ⟨reliable, lasts, bound⟩
  | cons first rest =>
    cases first with
    | door index =>
      exact @Accepting.hale caller interval (relay.inWorld { relay.world with net := _, log }) lasts bound still
        (drift.suited suited) reliable _ (advanceAccept_accepting still caller)
    | link source =>
      refine ⟨reliable, lasts, bound, ?_⟩
      have reported : Watched.link source ∈ Readiness.arrange relay.room.members found := by simp [ready]
      rcases List.mem_append.mp reported with door | link
      · have isDoor := List.find?_some (Option.mem_toList.mp door)
        cases isDoor
      · obtain ⟨index, kept, same⟩ := List.mem_map.mp link
        cases same
        exact heard _ (List.contains_iff_mem.mp (List.mem_filter.mp kept).2)

end

theorem Manned.hale {door link : Nat} {now : Phase × Relay} {caller : Caller} {interval : Option Number}
    (manned : Manned door link now) (suited : now.2.Suited) (hale : Hale caller interval now) :
    Hale caller interval (Relay.advance caller interval now.1 now.2) ∨
      now.1 = .binding ∧ (Relay.advance caller interval now.1 now.2).1.isStopped = true := by
  rcases now with ⟨phase, relay⟩
  obtain ⟨candid, lasts, goes⟩ := hale
  have steady := (Attended.orderly manned).steady
  have sound := steady.sound
  have noted (entry : Entry) : (relay.world.write entry).net.Candid ∧
      (relay.world.write entry).script = relay.world.script := by
    rw [World.write_eq]
    exact ⟨candid, rfl⟩
  cases phase with
  | binding =>
    cases ran : bind relay with
    | error fault after => exact .inr ⟨rfl, by simp [Relay.advance, ran, Phase.isStopped]⟩
    | ok done after =>
      obtain ⟨reliable, script⟩ := bind_candid ran candid
      refine .inl ?_
      simp only [Relay.advance, ran]
      exact ⟨reliable, lasts.of_script script, bind_isBound ran⟩
  | clearing => exact .inl ⟨candid, lasts, goes⟩
  | announcing =>
    obtain ⟨reliable, script⟩ := noted (relay.announcement "Relay serving")
    exact .inl ⟨reliable, lasts.of_script script, goes⟩
  | testing =>
    simp only [Relay.advance]
    split
    · exact .inl ⟨candid, lasts, rfl⟩
    · exact .inl ⟨candid, lasts, goes⟩
  | entering =>
    obtain ⟨door, own⟩ := Option.isSome_iff_exists.mp goes
    simp only [Relay.advance, advanceBy, enter_ok (sound.watches own)]
    exact .inl ⟨candid, lasts, goes⟩
  | waiting watched => exact .inl (advanceWait_hale lasts goes sound suited candid steady.script watched)
  | admitting link =>
    have held := Attended.fits manned _ (List.mem_singleton_self _)
    obtain ⟨log, ran⟩ := advanceAdmit_ok held caller interval
    rw [ran]
    exact .inl ⟨candid, lasts, goes⟩
  | reading source =>
    have known := Attended.fits manned _ (List.mem_singleton_self _)
    exact .inl (advanceRead_hale lasts goes.1 sound suited candid known goes.2)
  | stalled source => exact goes.elim
  | stopping fault =>
    obtain ⟨reliable, script⟩ := noted (relay.announcement "Relay stopped")
    exact .inl ⟨reliable, lasts.of_script script, goes⟩
  | stopped fault => exact .inl ⟨candid, lasts, goes⟩

section

variable {door link : Nat} {now : Phase × Relay} {caller : Caller} {interval : Option Number}
  (manned : Manned door link now) (hale : Hale caller interval now)
include manned hale

theorem Manned.hale_other {next : Tick} (other : next ≠ .action) (fair : next.Meets Event.Candid) :
    Hale caller interval (Relay.tick caller interval now next) := by
  obtain ⟨candid, lasts, goes⟩ := hale
  rcases now with ⟨phase, relay⟩
  cases next with
  | action => exact absurd rfl other
  | request =>
    refine ⟨candid, lasts, ?_⟩
    cases phase <;> exact goes
  | event event =>
    obtain ⟨_, stop, after⟩ := relay.frame_event event
    simp only [Relay.tick, after]
    refine ⟨candid.apply fair, lasts, ?_⟩
    cases phase with
    | reading source =>
      have known : source < relay.world.net.linkCount := by
        rcases Attended.fits manned _ (List.mem_singleton_self _) with member | gone
        · exact ((Attended.sound manned).alive source member).known
        · exact gone.known
      refine ⟨goes.1, ?_⟩
      exact @Net.apply_link (fun stream => stream.isReadable = true) relay.world.net event
        (fun _ readable => event.change_readable readable) source
        (fun new => absurd new (Nat.ne_of_lt known)) goes.2
    | _ => exact goes

/-- Up to the first request a loop goes on, if it has been able to bind its relay. -/
theorem Manned.goesOn (suited : now.2.Suited) {course : List Tick} (system : ∀ next ∈ course, next.Meets Event.AllOs)
    (fair : ∀ next ∈ course, next.Meets Event.Candid) :
    (Relay.ticks caller interval now course).1.isStopped = true ∨
      Hale caller interval (Relay.ticks caller interval now course) := by
  induction course generalizing now with
  | nil => exact .inr hale
  | cons first rest ih =>
    obtain ⟨here, others⟩ := List.forall_mem_cons.mp system
    obtain ⟨fairly, later⟩ := List.forall_mem_cons.mp fair
    have next := manned.tick caller interval here
    have suits := (manned.tick_kept caller interval here).suited suited
    by_cases acting : first = .action
    · subst acting
      rcases manned.hale suited hale with goes | ⟨_, stopped⟩
      · exact ih next goes suits others later
      · exact .inl (ticks_stopped stopped caller interval rest)
    · exact ih next (manned.hale_other hale acting fairly) suits others later

/-- A loop that has been asked to stop reads nothing in vain and stops without a fault. -/
theorem Manned.ends (suited : now.2.Suited) (asked : now.2.world.stopRequested = true) (heeding : now.1.isHeeding = true)
    {course : List Tick} (system : ∀ next ∈ course, next.Meets Event.AllOs)
    (fair : ∀ next ∈ course, next.Meets Event.Candid) :
    (∀ phase ∈ acts caller interval now course, phase.isStalled = false) ∧
      Hale caller interval (Relay.ticks caller interval now course) := by
  induction course generalizing now with
  | nil => exact ⟨fun _ member => absurd member List.not_mem_nil, hale⟩
  | cons first rest ih =>
    obtain ⟨here, others⟩ := List.forall_mem_cons.mp system
    obtain ⟨fairly, later⟩ := List.forall_mem_cons.mp fair
    have next := manned.tick caller interval here
    have alone : ∀ next ∈ [first], next.Meets Event.AllOs := by simpa using here
    have stops := manned.stops asked heeding caller interval alone
    have suits := (manned.tick_kept caller interval here).suited suited
    by_cases acting : first = .action
    · subst acting
      rcases manned.hale suited hale with goes | ⟨unbound, _⟩
      · obtain ⟨unstalled, final⟩ := ih next goes suits stops.asked stops.heeding others later
        refine ⟨fun phase member => ?_, final⟩
        rcases List.mem_cons.mp member with rfl | member
        · rcases now with ⟨phase, relay⟩
          cases phase <;> first | rfl | exact hale.goes.elim
        · exact unstalled phase member
      · rw [unbound] at heeding
        cases heeding
    · rw [acts_other caller interval now rest acting]
      exact ih next (manned.hale_other hale acting fairly) suits stops.asked stops.heeding others later

end

end Relay
end RelayBench
