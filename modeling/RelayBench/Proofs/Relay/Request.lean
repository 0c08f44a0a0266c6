import RelayBench.Proofs.Relay.Lasting

/-! Requests to stop.  A loop forgets earlier requests when it begins, and from then on it heeds every request,
wherever another thread makes it between two of its actions: it begins no further iteration and stops.  A
request that comes before the loop has cleared the earlier ones is lost with them. -/
namespace RelayBench

/-- What is written to the log does not depend on requests to stop. -/
theorem World.write_unasked (world : World) (entry : Entry) :
    World.write { world with stopRequested := false } entry =
      { world.write entry with stopRequested := false } := by
  have same : World.keeps { world with stopRequested := false } entry = world.keeps entry := rfl
  unfold write
  rw [same]
  cases world.keeps entry <;> rfl

namespace Relay

/-- The relay without a request to stop. -/
def unasked (relay : Relay) : Relay := relay.inWorld { relay.world with stopRequested := false }

theorem bind_unasked (relay : Relay) : bind relay.unasked = match bind relay with
    | .ok done after => .ok done after.unasked
    | .error fault after => .error fault after.unasked := by
  cases bound : relay.listener.door with
  | some own =>
    rw [bind_bound bound]
    exact bind_bound bound
  | none =>
    cases opened : Net.openDoor relay.listener.host relay.listener.port relay.listener.backlog
        relay.world.net with
    | error fault net =>
      rw [bind_failed bound opened]
      exact bind_failed bound opened
    | ok own net =>
      rw [bind_opened bound opened]
      have told (entry : Entry) := World.write_unasked { relay.world with net } entry
      have ran : bind relay.unasked = _ := bind_opened bound opened
      rw [ran]
      exact congrArg (fun world => EStateM.Result.ok ()
        { relay with
          listener := { relay.listener with door := some own }
          room := { members := relay.members, world } }) (told _)

theorem frame_unasked (relay : Relay) (event : Event) :
    (relay.frame (.event event)).after.unasked =
      relay.unasked.inWorld { relay.unasked.world with net := (relay.unasked.world.net.apply event).2 } := by
  obtain ⟨_, stop, after⟩ := relay.frame_event event
  rw [after]
  rfl

/-- Two courses of a loop that differ in nothing, or in a request to stop that the loop has yet to clear or
does not look for any more. -/
inductive Alike : Phase × Relay → Phase × Relay → Prop
  | same (now : Phase × Relay) : Alike now now
  | early (phase : Phase) (one other : Relay) (forgets : phase.isHeeding = false ∨ phase.isStopped = true)
      (rest : one.unasked = other.unasked) : Alike (phase, one) (phase, other)

theorem Alike.tick {one other : Phase × Relay} (alike : Alike one other) (caller : Caller)
    (interval : Option Number) (next : Tick) :
    Alike (tick caller interval one next) (tick caller interval other next) := by
  cases alike with
  | same now => exact .same _
  | early phase one other forgets rest =>
    cases next with
    | event event =>
      refine .early phase _ _ forgets ?_
      rw [frame_unasked, frame_unasked, rest]
    | request => exact .early phase _ _ forgets rest
    | action =>
      cases phase with
      | binding =>
        have bound := one.bind_unasked
        rw [rest, other.bind_unasked] at bound
        simp only [Relay.tick, advance]
        cases first : bind one with
        | ok done after =>
          cases second : bind other with
          | ok done later =>
            rw [first, second] at bound
            exact .early _ _ _ (.inl rfl) (EStateM.Result.ok.inj bound).2.symm
          | error fault later => simp [first, second] at bound
        | error fault after =>
          cases second : bind other with
          | ok done later => simp [first, second] at bound
          | error raised later =>
            rw [first, second] at bound
            obtain ⟨same, left⟩ := EStateM.Result.error.inj bound
            exact same ▸ .early _ _ _ (.inr rfl) left.symm
      | clearing =>
        have cleared : Relay.tick caller interval (.clearing, one) .action =
            Relay.tick caller interval (.clearing, other) .action := congrArg (Phase.announcing, ·) rest
        rw [cleared]
        exact .same _
      | stopped fault => exact .early _ _ _ forgets rest
      | _ => simp [Phase.isHeeding, Phase.isStopped] at forgets

theorem Alike.ticks {one other : Phase × Relay} (alike : Alike one other) (caller : Caller)
    (interval : Option Number) (course : List Tick) :
    Alike (ticks caller interval one course) (ticks caller interval other course) := by
  induction course generalizing one other with
  | nil => exact alike
  | cons first rest ih => exact ih (alike.tick caller interval first)

theorem Alike.goes {one other : Phase × Relay} (alike : Alike one other) :
    one.1 = other.1 ∧ one.2.unasked = other.2.unasked := by
  cases alike with
  | same now => exact ⟨rfl, rfl⟩
  | early phase one other forgets rest => exact ⟨rfl, rest⟩

/-- A relay on which no loop runs any more has a loop of its own from the call on. -/
theorem manned_of_deeds {settings : RelaySettings} {world : World}
    (grounded : (ofSettings settings world).Grounded) (os : world.AllOs) (lower : 0 ≤ settings.port)
    (upper : settings.port ≤ 65535) {site : Site}
    (deeds : Relation.ReflTransGen Site.Deed ⟨ofSettings settings world, []⟩ site) (idle : site.IsOver) :
    Manned world.net.doorCount world.net.linkCount (.binding, site.relay) := by
  have start : Site.Attended world.net.doorCount world.net.linkCount [] ⟨ofSettings settings world, []⟩ :=
    ofSettings_attended settings grounded os lower upper
  exact (start.deeds deeds).retireAll idle

/-- A loop heeds every request to stop that another thread makes once it has cleared the earlier ones.
Whatever clients do, and wherever between two actions the request comes, the loop begins no further iteration
but one that it stands before; besides reads that find nothing it acts five times at most, and the relay is
not announced as serving any more.  Where the network can be relied on and the platform suits the relay, no read
finds nothing and the loop ends without a fault.  A request that comes before the clearing is lost: the loop goes on, and so does the relay, as
if it had not been made. -/
theorem request_of_run (settings : RelaySettings) (world : World) (lower : 0 ≤ settings.port)
    (upper : settings.port ≤ 65535) (grounded : (ofSettings settings world).Grounded) (os : world.AllOs)
    (site : Site) (deeds : Relation.ReflTransGen Site.Deed ⟨ofSettings settings world, []⟩ site) (idle : site.IsOver)
    (caller : Caller) (interval : Option Number) (earlier later : List Tick)
    (system : ∀ next ∈ earlier ++ later, next.Meets Event.AllOs) :
    let now := ticks caller interval (.binding, site.relay) earlier
    let asked := tick caller interval now .request
    let acted := acts caller interval asked later
    let final := ticks caller interval asked later
    (now.1.isHeeding = true →
      acted.countP Phase.isEntering ≤ (if now.1.isEntering then 1 else 0) ∧
      (5 ≤ acted.countP (!·.isStalled) → final.1.isStopped = true) ∧
      (final.1.isStopped = true → final.2.serving = false) ∧
      (site.relay.Suited → site.relay.world.net.Candid → (∀ next ∈ earlier ++ later, next.Meets Event.Candid) →
        site.relay.world.Unscripted caller interval → now.1.isStopped = false →
        (∀ phase ∈ acted, phase.isStalled = false) ∧ (5 ≤ acted.length → final.1 = .stopped none))) ∧
    (now.1.isHeeding = false →
      final.1 = (ticks caller interval now later).1 ∧
      final.2.unasked = (ticks caller interval now later).2.unasked) := by
  intro now asked acted final
  obtain ⟨before, after⟩ := List.forall_mem_append.mp system
  have begun := manned_of_deeds grounded os lower upper deeds idle
  have manned := begun.ticks caller interval before
  have follows := manned.tick caller interval (show Tick.request.Meets Event.AllOs from trivial)
  refine ⟨fun heeding => ?_, fun early => ?_⟩
  · have stops := follows.stops rfl heeding caller interval after
    have ended : 5 ≤ acted.countP (!·.isStalled) → final.1.isStopped = true := by
      intro enough
      have nears : final.1.left ≤ asked.1.left - acted.countP (!·.isStalled) := stops.nears
      have few := Phase.left_le asked.1
      exact Phase.isStopped_of_left (by omega)
    refine ⟨stops.begun, ended, (follows.ticks caller interval after).serving, ?_⟩
    intro suited candid fair lasts going
    obtain ⟨fairly, later⟩ := List.forall_mem_append.mp fair
    have start : Hale caller interval (.binding, site.relay) := ⟨candid, lasts, trivial⟩
    have hale := (begun.goesOn start suited before fairly).resolve_left (Bool.eq_false_iff.mp going)
    have suits : asked.2.Suited := ((begun.ticks_kept caller interval before).suited suited).of_same rfl rfl rfl
    obtain ⟨unstalled, goes⟩ := follows.ends (manned.hale_other hale nofun trivial) suits rfl heeding after later
    refine ⟨unstalled, fun enough => ?_⟩
    have all : acted.countP (!·.isStalled) = acted.length :=
      List.countP_eq_length.mpr fun phase member => by simp [unstalled phase member]
    have stopped := ended (all ▸ enough)
    have unharmed := goes.goes
    generalize final.1 = phase at stopped unharmed
    cases phase with
    | stopped fault => exact congrArg Phase.stopped unharmed
    | _ => cases stopped
  · have alike : Alike asked now := .early now.1 _ _ (.inl early) rfl
    exact (alike.ticks caller interval later).goes

/-- The loop stands before its first iteration when a client connects and the relay is asked to stop. -/
def lastCaller : List Tick :=
  [.action, .action, .action, .action, .event (.connect "ann" none none none none)]

theorem request_of_lastCaller :
    let now := ticks .background none (.binding, ofSettings plainSettings {}) lastCaller
    let asked := tick .background none now .request
    let rest := List.replicate 5 Tick.action
    let final := ticks .background none asked rest
    now.1.isEntering = true ∧ (acts .background none asked rest).countP Phase.isEntering ≤ 1 ∧
      final.1 = .stopped none ∧ final.2.serving = false ∧ final.2.members = [0] := by
  intro now asked rest final
  have candid : ({} : World).net.Candid :=
    ⟨fun _ => Nat.zero_ne_one, FaultQueue.stores_nil, fun _ => List.not_mem_nil⟩
  have quiet : ∀ next ∈ lastCaller ++ rest, next.Meets Event.AllOs := by
    simp [lastCaller, rest, Tick.Meets, Event.AllOs]
  have fair : ∀ next ∈ lastCaller ++ rest, next.Meets Event.Candid := by
    simp [lastCaller, rest, Tick.Meets]
    exact ⟨trivial, trivial, fun _ _ same => Event.noConfusion same⟩
  obtain ⟨heeds, _⟩ := request_of_run plainSettings {} (by decide) (by decide)
    (suited_of_blank rfl).toGrounded blank_allOs ⟨ofSettings plainSettings {}, []⟩ .refl (List.forall_mem_nil _)
    .background none lastCaller rest quiet
  obtain ⟨begun, _, _, ends⟩ := heeds (by decide +kernel)
  have stopped := (ends (suited_of_blank rfl) candid fair (.inl rfl) (by decide +kernel)).2 (by decide +kernel)
  exact ⟨by decide +kernel, Nat.le_trans begun (by decide +kernel), stopped, by decide +kernel,
    by decide +kernel⟩

/-- A request that comes between the binding of a loop and its clearing does not stop it: the loop begins one
iteration after the other. -/
theorem request_lost :
    let now := ticks .background none (.binding, ofSettings plainSettings {}) [.action]
    let asked := tick .background none now .request
    let rest := List.replicate 12 Tick.action
    let final := ticks .background none asked rest
    asked.2.world.stopRequested = true ∧ (acts .background none asked rest).countP Phase.isEntering = 3 ∧
      final.1.isStopped = false ∧ final.2.serving = true := by
  decide +kernel

end Relay
end RelayBench
