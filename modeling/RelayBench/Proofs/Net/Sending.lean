import RelayBench.Proofs.Net.Link

/-! What sending through an outlet comes to.  Whatever the sizes of the single writes, its loop ends after at
most one write for each byte; all of the data is out then, or a front part of it and the fault that the last
write raised, and a front part of some bytes leaves the outlet broken. -/
namespace RelayBench
namespace Outlet

variable {σ : Type}

/-- A sending that a fault ended when only a front part of the data was out. -/
structure CutShort (write : σ → Bytes → Except Fault Nat × σ) (wire : σ → Bytes) (data : Bytes)
    (before after : Outlet σ) (fault : Fault) (front : Bytes) : Prop where
  system : fault.isOs = true
  /-- The sink itself raised the fault, when it was given what was left. -/
  raised : ∃ last, wire last = wire before.sink ++ front ∧
    write last (data.drop front.length) = (.error fault, after.sink)
  isFront : front <+: data
  proper : front ≠ data
  out : wire after.sink = wire before.sink ++ front
  broken : after.broken = (before.broken || !front.isEmpty)

/-- A sending from the outlet before it: the end of its loop, its result and the outlet after it. -/
structure Sending (write : σ → Bytes → Except Fault Nat × σ) (wire : σ → Bytes) (data : Bytes)
    (before : Outlet σ) (final : Transfer σ) (result : Except Fault Unit) (after : Outlet σ) : Prop where
  /-- The loop comes to an end, and to no other one. -/
  ends : ∀ other, Transfer.Loop write data other before.sink 0 0 ↔ other = final
  result_eq : result = final.result
  sink_eq : after.sink = final.sink
  calls : final.calls ≤ data.length
  empty : data = [] → final.calls = 0
  whole : result = .ok () → wire after.sink = wire before.sink ++ data ∧ after.broken = before.broken
  part : ∀ fault, result = .error fault → ∃ front, CutShort write wire data before after fault front

section

variable {kind : σ → Prop} {wire : σ → Bytes} {write : σ → Bytes → Except Fault Nat × σ}
  (honest : Transfer.Honest kind wire write) (outlet : Outlet σ) (start : kind outlet.sink) (data : Bytes)
include honest start

theorem send_whole (sent : (outlet.send write data).1 = .ok ()) :
    wire (outlet.send write data).2.sink = wire outlet.sink ++ data ∧
      (outlet.send write data).2.broken = outlet.broken := by
  have course := (Transfer.run_putsOut honest outlet.sink data start).2
  have result : (Transfer.run write outlet.sink data).result = .ok () := sent
  refine ⟨?_, by rw [send, Transfer.isCutOff_of_ok result, Bool.or_false]⟩
  have out := course.out
  rwa [course.whole result, List.take_length] at out

theorem send_part {fault : Fault} (failed : (outlet.send write data).1 = .error fault) :
    ∃ front, CutShort write wire data outlet (outlet.send write data).2 fault front := by
  have course := (Transfer.run_putsOut honest outlet.sink data start).2
  have loop := (Transfer.loop_iff honest outlet.sink data start _).mpr rfl
  have result : (Transfer.run write outlet.sink data).result = .error fault := failed
  obtain ⟨system, short⟩ := course.part fault result
  have front : (data.take (Transfer.run write outlet.sink data).sent).length =
      (Transfer.run write outlet.sink data).sent := List.length_take_of_le (Nat.le_of_lt short)
  refine ⟨_, system, ?_, List.take_prefix _ _, fun whole => ?_, course.out, ?_⟩
  · rw [front]
    exact loop.raised honest (Transfer.standing_first start) result
  · rw [whole] at front
    exact absurd front (Nat.ne_of_gt short)
  · calc (outlet.send write data).2.broken
        = (outlet.broken || decide (0 < (Transfer.run write outlet.sink data).sent)) := by
          rw [send, Transfer.isCutOff_of_error result system]
      _ = (outlet.broken || decide (0 < (data.take (Transfer.run write outlet.sink data).sent).length)) := by
          rw [front]
      _ = (outlet.broken || !(data.take (Transfer.run write outlet.sink data).sent).isEmpty) := by
          cases data.take (Transfer.run write outlet.sink data).sent <;> rfl

/-- Sending comes to an end through every sink that takes some of what it is given or raises a fault of the
operating system: it returns with all of the data out, each byte once, or raises the sink's own fault. -/
theorem sending_of_run :
    Sending write wire data outlet (Transfer.run write outlet.sink data) (outlet.send write data).1
      (outlet.send write data).2 where
  ends := Transfer.loop_iff honest outlet.sink data start
  result_eq := rfl
  sink_eq := rfl
  calls := (Transfer.run_putsOut honest outlet.sink data start).1
  empty := by
    rintro rfl
    rfl
  whole := send_whole honest outlet start data
  part _ := send_part honest outlet start data

end

/-- A link whose client has room for three bytes and takes two of them at first. -/
def narrowLink : Link := { stream := { isOpen := true, window := some 3, grants := [2] } }

/-- Of six bytes two go out, then one, and the third write times out, which breaks the link. -/
theorem sending_of_narrowLink :
    let data : Bytes := [1, 2, 3, 4, 5, 6]
    let transfer := Transfer.run Stream.write narrowLink.outlet.sink data
    let sent := narrowLink.outlet.send Stream.write data
    Sending Stream.write Stream.outbox data narrowLink.outlet transfer sent.1 sent.2 ∧
      transfer.calls = 3 ∧
      narrowLink.send data = (.error .timedOut,
        { stream := { isOpen := true, outbox := [1, 2, 3], window := some 0 }, broken := true }) := by
  intro data transfer sent
  have honest := Stream.write_honest narrowLink.stream
  refine ⟨sending_of_run honest narrowLink.outlet ⟨.of_nil rfl rfl, rfl⟩ data, ?_, ?_⟩
  · rfl
  · rfl

end Outlet
end RelayBench
