import RelayBench.Proofs.Net.Holdings
import RelayBench.Proofs.Relay.Lasting
import RelayBench.Proofs.Relay.Teardown

/-! A relay that is served in the foreground, on a network where nothing fails but the listening.  If it cannot
begin to listen, it says so and leaves nothing behind; once it listens, nothing but a request to stop or an
interrupt ends it, and it returns with everything closed. -/
namespace RelayBench

theorem World.Reliable.allOs {world : World} (reliable : world.Reliable) : world.AllOs where
  net := reliable.net.allOs
  script := fun items found item member event comes => (reliable.script items found item member event comes).allOs

namespace Readiness

/-- A readiness call with no fault in store fails by an interrupt only. -/
theorem finish_fault {timeout : Option Number} {watched : List Watched} {room after : Room} {fault : Fault}
    (quiet : FaultQueue.next room.world.net.faults .select = none)
    (failed : finish .foreground timeout watched room = .error fault after) : fault = .keyboardInterrupt := by
  obtain ⟨stop, _, result⟩ := poll_eq timeout watched room.world
  cases polled : poll .foreground timeout watched room.world with
  | ok found world =>
    obtain ⟨log, ran⟩ := finish_ok room polled
    cases ran.symm.trans failed
  | error raised world =>
    cases (finish_error room polled).symm.trans failed
    rw [polled, Action.result_error, verdict, quiet] at result
    dsimp only at result
    split at result <;> cases result
    rfl

end Readiness

/-- Whether a loop has met no fault but an interrupt. -/
def Phase.Unhurt : Phase → Prop
  | .stopping fault | .stopped fault => ∀ raised, fault = some raised → raised = .keyboardInterrupt
  | _ => True

namespace Relay

/-- What holds of a loop in the foreground between any two of its actions, if its world can be relied on. -/
structure Smooth (now : Phase × Relay) : Prop where
  reliable : now.2.world.Reliable
  bound : now.2.listener.isBound = true
  unhurt : now.1.Unhurt

section

variable {relay : Relay} (sound : relay.Sound) (suited : relay.Suited) (reliable : relay.world.Reliable)
  (bound : relay.listener.isBound = true)
include sound suited reliable bound

theorem Serves.smooth {action : RelayCall Outcome} (serves : relay.Serves (action relay)) :
    Smooth (advanceBy action (fun _ => .testing) relay) := by
  obtain ⟨outcome, result⟩ := Served.outcome sound suited serves reliable.net.addressed
  have turn := Served.turn sound serves
  have net := reliable.net.spends (Served.spends serves) (Served.addressed sound serves reliable.net.addressed)
    fun index => (turn.os.links index).ends
  have script := Served.script serves
  have listener := turn.listener
  cases ran : action relay with
  | error fault after => simp [ran] at result
  | ok done after =>
    rw [ran, Action.state_ok] at net script listener
    simp only [advanceBy, ran]
    exact ⟨⟨net, fun items found => reliable.script items (script ▸ found)⟩, listener ▸ bound, trivial⟩

theorem Accepting.smooth {caller : Caller} {next : Phase × Relay} (accepting : Accepting relay caller next) :
    Smooth next := by
  have later {net : Net} {log : List Entry} (spends : Net.Spends relay.listener.door relay.world.net net)
      (addressed : net.Addressed) (os : net.AllOs) : (relay.put relay.members net log).world.Reliable :=
    ⟨reliable.net.spends spends addressed fun index => (os.links index).ends, reliable.script⟩
  cases accepting with
  | unbound fault unbound => simp [Listener.isBound, unbound] at bound
  | refused door fault net log own failed same =>
    have served : Served relay (.ok .idle) (relay.put relay.members net log) := .refused net log same
    exact ⟨later served.spends (served.addressed sound reliable.net.addressed) (served.turn sound).os, bound, trivial⟩
  | misfit fault door first rest own queue lost foreign =>
    exact absurd (cut_of_adoption suited.limit (by simp [lost])) (reliable.net.addressed first)
  | forgone fault door first rest log own queue lost system =>
    exact absurd (cut_of_adoption suited.limit (by simp [lost])) (reliable.net.addressed first)
  | taken door first rest own queue adopted =>
    exact ⟨later (own ▸ relay.taking_spends door first rest) (taking_addressed reliable.net.addressed door first rest)
      (taking_allOs sound), bound, trivial⟩

theorem advanceWait_smooth (interval : Option Number) (watched : List Watched) :
    Smooth (advance .foreground interval (.waiting watched) relay) := by
  have quiet : FaultQueue.next relay.room.world.net.faults .select = none := reliable.net.quiet (by decide)
  have fair : ∀ event ∈ relay.world.upcoming, event.Reliable := fun _ comes => World.upcoming_kind reliable.script comes
  have settled : relay.world.settled.Reliable := (reliable.net.called .select).applyAll fair
  obtain ⟨world, net, script, course⟩ := Readiness.finish_foreground interval watched relay.room
  have later : world.Reliable := ⟨net ▸ settled, World.remaining_scripted reliable.script script⟩
  have drift := (polled_lull sound.os reliable.allOs.script ⟨.inl net, .inl script⟩).toDrift
  have still := drift.sound sound
  rcases course with ⟨fault, ran⟩ | ⟨found, ran, _⟩
  · obtain rfl := Readiness.finish_fault quiet ran
    simp only [advance, ran]
    exact ⟨later, bound, fun _ same => (Option.some.inj same).symm⟩
  · simp only [advance, ran]
    cases Readiness.arrange relay.room.members found with
    | nil => exact ⟨later, bound, trivial⟩
    | cons first rest =>
      cases first with
      | door index =>
        have listens : (relay.inWorld world).listener.isBound = true := bound
        exact Accepting.smooth still (drift.suited suited) later listens (advanceAccept_accepting still .foreground)
      | link source => exact ⟨later, bound, trivial⟩

/-- Every action of the loop keeps it so. -/
theorem Smooth.advance {phase : Phase} (unhurt : phase.Unhurt) (current : phase.IsCurrent relay)
    (interval : Option Number) : Smooth (advance .foreground interval phase relay) := by
  have noted (entry : Entry) : (relay.world.write entry).Reliable := by
    rw [World.write_eq]
    exact ⟨reliable.net, reliable.script⟩
  cases phase with
  | binding => exact current.elim
  | clearing => exact ⟨⟨reliable.net, reliable.script⟩, bound, trivial⟩
  | announcing => exact ⟨noted _, bound, trivial⟩
  | testing =>
    simp only [Relay.advance]
    split
    · exact ⟨reliable, bound, by rintro _ ⟨⟩⟩
    · exact ⟨reliable, bound, trivial⟩
  | entering =>
    obtain ⟨door, own⟩ := Option.isSome_iff_exists.mp bound
    simp only [Relay.advance, advanceBy, enter_ok (sound.watches own)]
    exact ⟨⟨reliable.net, reliable.script⟩, bound, trivial⟩
  | waiting watched => exact advanceWait_smooth sound suited reliable bound interval watched
  | admitting link =>
    obtain ⟨log, ran⟩ := advanceAdmit_ok current .foreground interval
    rw [ran]
    exact ⟨⟨reliable.net, reliable.script⟩, bound, trivial⟩
  | reading source =>
    rcases advanceRead_cases .foreground source relay with ⟨other, _⟩ | ran
    · cases other
    · have goesOn := Serves.smooth sound suited reliable bound (received_serves sound current)
      rw [← ran] at goesOn
      exact goesOn
  | stalled source => exact current.elim
  | stopping fault => exact ⟨noted _, bound, unhurt⟩
  | stopped fault => exact ⟨reliable, bound, unhurt⟩

end

theorem Released.tidy {door link : Nat} {relay : Relay} (released : Released door link relay)
    (takes : relay.world.net.platform.limitFault relay.listener.writeTimeout = none)
    (addressed : relay.world.net.Addressed) : Net.Tidy door link relay.world.net where
  doors := released.doors
  links := by
    intro index lower upper
    refine released.links index lower upper ?_
    by_contra lost
    exact addressed index (cut_of_adoption takes lost)

end Relay
end RelayBench
