import RelayBench.Proofs.Relay.Loop
import RelayBench.Proofs.Workload

/-! Serving in the foreground comes to an end.  Every iteration of the loop that can go on takes something
from the workload of the world, so the actions that the loop is given are enough: once the script is used
up and nothing is ready any more, the wait is interrupted. -/
namespace RelayBench

namespace Link

end Link

namespace World

end World

namespace Readiness

/-- A wait in the foreground reports watched things that are ready, or its script has gone on, or it has a
limit and no script at all. -/
theorem finish_foreground (timeout : Option Number) (watched : List Watched) (room : Room) :
    ∃ world, world.net = room.world.settled ∧ world.script = room.world.remaining ∧
      ((∃ fault, finish .foreground timeout watched room = .error fault { room with world }) ∨
        ∃ found, finish .foreground timeout watched room =
            .ok (arrange room.members found) { room with world } ∧
          (∀ thing ∈ found, thing ∈ watched ∧ thing.isReady world.net = true) ∧
          (found = [] → room.world.advances = true ∨
            (timeout.isNone || room.world.script.isSome) = false)) := by
  obtain ⟨stop, left, result⟩ := poll_eq timeout watched room.world
  cases polled : poll .foreground timeout watched room.world with
  | error fault world =>
    rw [polled] at left
    cases left
    exact ⟨_, rfl, rfl, .inl ⟨fault, finish_error room polled⟩⟩
  | ok found world =>
    rw [polled] at left result
    cases left
    obtain ⟨log, ran⟩ := finish_ok room polled
    refine ⟨_, rfl, rfl, .inr ⟨found, ran, fun thing member => ?_, fun nothing => ?_⟩⟩
    · exact mem_of_ready (verdict_ready result.symm ▸ member)
    · have ready := verdict_ready result.symm
      rw [Action.result_ok, verdict, ← ready, nothing] at result
      by_contra stays
      simp only [not_or, Bool.not_eq_true, Bool.not_eq_false] at stays
      split at result
      · cases result
      · simp [stays.1, stays.2] at result

end Readiness

namespace Relay

/-! What the service of an iteration takes from the load of the network. -/

section

variable {relay : Relay} (sound : relay.Sound)
include sound

end

end Relay

/-- Where a loop stands that nobody else acts on: what it is about to do is up to date. -/
def Phase.IsCurrent (relay : Relay) : Phase → Prop
  | .binding => False
  | .waiting watched => ∃ door, relay.listener.door = some door ∧
      watched = .door door :: relay.members.map .link
  | .admitting link => relay.Held link
  | .reading source => source ∈ relay.members
  | .stalled _ => False
  | _ => True

theorem Phase.IsCurrent.fits {relay : Relay} {phase : Phase} (current : phase.IsCurrent relay) :
    phase.Fits relay := by
  cases phase with
  | binding => exact current
  | admitting link => exact current
  | reading source => exact .inl current
  | stalled source => exact current.elim
  | _ => trivial

namespace World

end World

namespace Relay

/-- How many actions are left for a loop in the foreground at most. -/
def effort : Phase → Relay → Nat
  | .stopped _, _ => 0
  | .stopping _, _ => 1
  | .reading _, relay => 6 * relay.world.workload + 2
  | .stalled _, relay => 6 * relay.world.workload + 2
  | .waiting _, relay => 6 * relay.world.workload + 3
  | .entering, relay => 6 * relay.world.workload + 4
  | .testing, relay => 6 * relay.world.workload + 5
  | .admitting _, relay => 6 * relay.world.workload + 6
  | .announcing, relay => 6 * relay.world.workload + 6
  | .clearing, relay => 6 * relay.world.workload + 7
  | .binding, relay => 6 * relay.world.workload + 8

/-- Letting in the link that was accepted is at most one action more than an iteration begins with. -/
theorem Accepting.nears {relay : Relay} {caller : Caller} {next : Phase × Relay} (sound : relay.Sound)
    (accepting : Accepting relay caller next) :
    effort next.1 next.2 ≤ 6 * next.2.world.workload + 6 ∧ next.1.IsCurrent next.2 := by
  cases accepting with
  | unbound fault unbound => exact ⟨Nat.le_add_left 1 _, trivial⟩
  | refused door fault net log bound failed same => exact ⟨Nat.le_succ _, trivial⟩
  | misfit => exact ⟨Nat.le_add_left 1 _, trivial⟩
  | forgone => exact ⟨Nat.le_succ _, trivial⟩
  | taken door first rest bound queue adopted => exact ⟨Nat.le_refl _, (taken_held sound bound queue _).2⟩

/-- An action of a foreground loop that takes it on towards its end. -/
structure Nears (relay : Relay) (phase : Phase) (next : Phase × Relay) : Prop where
  less : effort next.1 next.2 < effort phase relay
  current : next.1.IsCurrent next.2
  script : relay.world.script.isSome = true → next.2.world.script.isSome = true

theorem Nears.of_action {before relay : Relay} {phase : Phase} {action : RelayCall Outcome}
    (less : 6 * (Action.state (action relay)).world.workload + 5 < effort phase before)
    (script : before.world.script.isSome = true → (Action.state (action relay)).world.script.isSome = true) :
    Nears before phase (advanceBy action (fun _ => .testing) relay) := by
  unfold advanceBy
  cases course : action relay with
  | ok outcome after =>
    rw [course] at less script
    exact ⟨less, trivial, script⟩
  | error fault after =>
    rw [course] at less script
    exact ⟨Nat.lt_of_le_of_lt (Nat.succ_le_succ (Nat.zero_le _)) less, trivial, script⟩

section

variable {relay : Relay} (steady : relay.Steady)
include steady

end

/-- Whether serving comes to its end in the actions that are given to it. -/
def Ends (interval : Option Number) (relay : Relay) : Prop :=
  (advanceToEnd .foreground (interval <|> relay.settings.pollInterval) (6 * (relay.world.workload + 4))
    .binding relay).1.isStopped = true

end Relay
end RelayBench
