import RelayBench.Net.Transfer

/-! Transfers through an honest sink: whatever the sizes of the single writes, the bytes that went
out are a prefix of the data, all of it unless a write failed.  The number of bytes is bound enough:
with it a transfer is the loop that goes on until nothing is left or a write fails. -/
namespace RelayBench
namespace Transfer

variable {σ : Type}

section

variable {write : σ → Bytes → Except Fault Nat × σ} {sink middle after : σ} {data : Bytes}
  {limit calls sent count : Nat} {fault : Fault}

theorem pump_nothing : pump write limit sink [] calls sent = { result := .ok (), sink, calls, sent } := by
  cases limit <;> rfl

theorem pump_wrote (nonempty : data ≠ []) (wrote : write sink data = (.ok count, after)) :
    pump write (limit + 1) sink data calls sent =
      pump write limit after (data.drop count) (calls + 1) (sent + count) := by
  obtain ⟨first, rest, rfl⟩ := List.exists_cons_of_ne_nil nonempty
  simp only [pump, wrote]

theorem pump_refused (nonempty : data ≠ []) (refused : write sink data = (.error fault, after)) :
    pump write (limit + 1) sink data calls sent =
      { result := .error fault, sink := after, calls := calls + 1, sent } := by
  obtain ⟨first, rest, rfl⟩ := List.exists_cons_of_ne_nil nonempty
  simp only [pump, refused]

theorem run_refused (nonempty : 0 < data.length) (refused : write sink data = (.error fault, after)) :
    run write sink data = { result := .error fault, sink := after, calls := 1, sent := 0 } := by
  obtain ⟨limit, length⟩ := Nat.exists_eq_succ_of_ne_zero (Nat.ne_of_gt nonempty)
  rw [run, length, pump_refused (List.length_pos_iff.mp nonempty) refused]

theorem run_cutOff (short : count < data.length) (started : 0 < count)
    (first : write sink data = (.ok count, middle))
    (refused : write middle (data.drop count) = (.error fault, after)) :
    run write sink data = { result := .error fault, sink := after, calls := 2, sent := count } := by
  obtain ⟨limit, length⟩ : ∃ limit, data.length = limit + 2 := ⟨data.length - 2, by omega⟩
  have whole : data ≠ [] := List.length_pos_iff.mp (by omega)
  have left : data.drop count ≠ [] := by simpa [List.drop_eq_nil_iff] using short
  rw [run, length, pump_wrote whole first, pump_refused left refused]
  simp

end

/-- What every write keeps of a sink, a transfer keeps. -/
theorem pump_kept {kind : σ → Prop} {write : σ → Bytes → Except Fault Nat × σ}
    (keeps : ∀ sink data, kind sink → kind (write sink data).2) (limit : Nat) (sink : σ) (data : Bytes)
    (calls sent : Nat) (start : kind sink) : kind (pump write limit sink data calls sent).sink := by
  fun_induction pump write limit sink data calls sent with
  | case1 => exact start
  | case2 => exact start
  | case3 limit sink data calls sent _ count after wrote ih =>
    have kept := keeps sink data start
    rw [wrote] at kept
    exact ih kept
  | case4 limit sink data calls sent _ fault after wrote =>
    have kept := keeps sink data start
    rw [wrote] at kept
    exact kept

/-- A transfer through a sink that never refuses a write succeeds. -/
theorem pump_ok (kind : σ → Prop) {write : σ → Bytes → Except Fault Nat × σ}
    (willing : ∀ sink data, kind sink → ∃ count after, write sink data = (.ok count, after) ∧ kind after)
    (limit : Nat) (sink : σ) (data : Bytes) (calls sent : Nat) (start : kind sink) :
    (pump write limit sink data calls sent).result = .ok () := by
  fun_induction pump write limit sink data calls sent with
  | case1 => rfl
  | case2 => rfl
  | case3 limit sink data calls sent _ count after wrote ih =>
    obtain ⟨taken, next, same, kept⟩ := willing sink data start
    rw [wrote] at same
    cases same
    exact ih kept
  | case4 limit sink data calls sent _ fault after wrote =>
    obtain ⟨taken, next, same, _⟩ := willing sink data start
    rw [wrote] at same
    cases same

/-- Sinks of a kind take a non-empty prefix of what they are given and tell its length, or raise an
operating system fault and take nothing; `wire` is what a sink has taken so far. -/
structure Honest (kind : σ → Prop) (wire : σ → Bytes)
    (write : σ → Bytes → Except Fault Nat × σ) : Prop where
  keeps : ∀ sink data, kind sink → kind (write sink data).2
  takes : ∀ sink data count after, kind sink → data ≠ [] → write sink data = (.ok count, after) →
    0 < count ∧ count ≤ data.length ∧ wire after = wire sink ++ data.take count
  refuses : ∀ sink data fault after, kind sink → data ≠ [] → write sink data = (.error fault, after) →
    fault.isOs = true ∧ wire after = wire sink

/-- A transfer that began at `sink` has put out the first `count` bytes of the data: all of them when
it succeeded, less than all when an operating system fault ended it. -/
structure PutsOut (kind : σ → Prop) (wire : σ → Bytes) (sink : σ) (data : Bytes) (count : Nat)
    (transfer : Transfer σ) : Prop where
  kept : kind transfer.sink
  out : wire transfer.sink = wire sink ++ data.take count
  whole : transfer.result = .ok () → count = data.length
  part : ∀ fault, transfer.result = .error fault → fault.isOs = true ∧ count < data.length

theorem isCutOff_of_ok {transfer : Transfer σ} (succeeded : transfer.result = .ok ()) :
    transfer.isCutOff = false := by
  simp [isCutOff, succeeded]

theorem isCutOff_of_error {transfer : Transfer σ} {fault : Fault} (failed : transfer.result = .error fault)
    (system : fault.isOs = true) : transfer.isCutOff = decide (0 < transfer.sent) := by
  simp [isCutOff, failed, system]

/-! The loop of a transfer. -/

/-- The loop of a transfer, with no bound on its rounds, from a test whether anything is left to its end as
`final`.  At the test it has made `calls` writes, and the first `sent` bytes are out. -/
inductive Loop (write : σ → Bytes → Except Fault Nat × σ) (data : Bytes) (final : Transfer σ) :
    (sink : σ) → (calls sent : Nat) → Prop
  | finished {sink : σ} {calls sent : Nat} (nothing : data.length ≤ sent)
      (ends : final = { result := .ok (), sink, calls, sent }) : Loop write data final sink calls sent
  | fails {sink after : σ} {calls sent : Nat} {fault : Fault} (left : sent < data.length)
      (raised : write sink (data.drop sent) = (.error fault, after))
      (ends : final = { result := .error fault, sink := after, calls := calls + 1, sent }) :
      Loop write data final sink calls sent
  | goesOn {sink after : σ} {calls sent count : Nat} (left : sent < data.length)
      (took : write sink (data.drop sent) = (.ok count, after))
      (rest : Loop write data final after (calls + 1) (sent + count)) :
      Loop write data final sink calls sent

/-- What holds at each test whether anything is left: every write so far has put out at least one byte, and
the sink has taken what is out and no more. -/
structure Standing (kind : σ → Prop) (wire : σ → Bytes) (start : σ) (data : Bytes) (sink : σ)
    (calls sent : Nat) : Prop where
  kept : kind sink
  out : wire sink = wire start ++ data.take sent
  inside : sent ≤ data.length
  paid : calls ≤ sent

section

variable {kind : σ → Prop} {wire : σ → Bytes} {write : σ → Bytes → Except Fault Nat × σ} {data : Bytes}
  {start sink after : σ} {calls sent count limit : Nat} {fault : Fault} {final other : Transfer σ}

theorem drop_ne_nil (left : sent < data.length) : data.drop sent ≠ [] :=
  mt List.drop_eq_nil_iff.mp (Nat.not_le_of_gt left)

/-- A loop has one end only. -/
theorem Loop.unique (loop : Loop write data final sink calls sent)
    (again : Loop write data other sink calls sent) : other = final := by
  induction loop with
  | finished nothing ends =>
    cases again with
    | finished _ same => rw [ends, same]
    | fails left => omega
    | goesOn left => omega
  | fails left raised ends =>
    cases again with
    | finished nothing => omega
    | fails _ twice same =>
      rw [raised] at twice
      cases twice
      rw [ends, same]
    | goesOn _ took =>
      rw [raised] at took
      cases took
  | goesOn left took _ ih =>
    cases again with
    | finished nothing => omega
    | fails _ raised =>
      rw [took] at raised
      cases raised
    | goesOn _ twice rest =>
      rw [took] at twice
      cases twice
      exact ih rest

section

variable (honest : Honest kind wire write)
include honest

/-- A write that takes something goes on from where the last one stopped. -/
theorem Standing.took (standing : Standing kind wire start data sink calls sent) (left : sent < data.length)
    (took : write sink (data.drop sent) = (.ok count, after)) :
    Standing kind wire start data after (calls + 1) (sent + count) := by
  obtain ⟨positive, bound, out⟩ := honest.takes _ _ _ _ standing.kept (drop_ne_nil left) took
  have kept := honest.keeps sink (data.drop sent) standing.kept
  rw [took] at kept
  rw [List.length_drop] at bound
  have paid := standing.paid
  refine ⟨kept, ?_, by omega, by omega⟩
  rw [out, standing.out, List.append_assoc, List.take_add]

/-- A write that fails puts out nothing. -/
theorem Standing.refused (standing : Standing kind wire start data sink calls sent) (left : sent < data.length)
    (raised : write sink (data.drop sent) = (.error fault, after)) :
    fault.isOs = true ∧ kind after ∧ wire after = wire start ++ data.take sent := by
  obtain ⟨system, same⟩ := honest.refuses _ _ _ _ standing.kept (drop_ne_nil left) raised
  have kept := honest.keeps sink (data.drop sent) standing.kept
  rw [raised] at kept
  exact ⟨system, kept, same.trans standing.out⟩

/-- However a loop ends, a prefix is out by then, and it has made no more writes than there are bytes. -/
theorem Loop.putsOut (loop : Loop write data final sink calls sent)
    (standing : Standing kind wire start data sink calls sent) :
    final.calls ≤ data.length ∧ PutsOut kind wire start data final.sent final := by
  induction loop with
  | finished nothing ends =>
    subst ends
    have whole := Nat.le_antisymm standing.inside nothing
    exact ⟨Nat.le_trans standing.paid standing.inside, standing.kept, standing.out, fun _ => whole, nofun⟩
  | fails left raised ends =>
    subst ends
    obtain ⟨system, kept, out⟩ := standing.refused honest left raised
    refine ⟨Nat.lt_of_le_of_lt standing.paid left, kept, out, nofun, fun fault failed => ?_⟩
    cases failed
    exact ⟨system, left⟩
  | goesOn left took _ ih => exact ih (standing.took honest left took)

/-- The fault that ends a loop is the one that its last write raised, on what was left then. -/
theorem Loop.raised (loop : Loop write data final sink calls sent)
    (standing : Standing kind wire start data sink calls sent) (failed : final.result = .error fault) :
    ∃ last, wire last = wire start ++ data.take final.sent ∧
      write last (data.drop final.sent) = (.error fault, final.sink) := by
  induction loop with
  | finished _ ends =>
    subst ends
    cases failed
  | fails _ raised ends =>
    subst ends
    cases failed
    exact ⟨_, standing.out, raised⟩
  | goesOn left took _ ih => exact ih (standing.took honest left took)

/-- A bound that covers what is left does not show: the transfer is the loop. -/
theorem pump_loop (standing : Standing kind wire start data sink calls sent)
    (enough : data.length ≤ sent + limit) :
    Loop write data (pump write limit sink (data.drop sent) calls sent) sink calls sent := by
  induction limit generalizing sink calls sent with
  | zero => exact .finished enough rfl
  | succ limit ih =>
    rcases Nat.lt_or_ge sent data.length with left | nothing
    -- A round uses up one of the bound and at least one of the bytes left, so the bound goes on covering these.
    · rcases wrote : write sink (data.drop sent) with ⟨fault | count, after⟩
      · rw [pump_refused (drop_ne_nil left) wrote]
        exact .fails left wrote rfl
      · have positive := (honest.takes _ _ _ _ standing.kept (drop_ne_nil left) wrote).1
        rw [pump_wrote (drop_ne_nil left) wrote, List.drop_drop]
        exact .goesOn left wrote (ih (standing.took honest left wrote) (by omega))
    · rw [List.drop_eq_nil_of_le nothing, pump_nothing]
      exact .finished nothing rfl

end

theorem standing_first (kept : kind sink) : Standing kind wire sink data sink 0 0 :=
  ⟨kept, by simp, Nat.zero_le _, Nat.le_refl _⟩

end

/-- A transfer ends as its loop does, which has one end. -/
theorem loop_iff {kind : σ → Prop} {wire : σ → Bytes} {write : σ → Bytes → Except Fault Nat × σ}
    (honest : Honest kind wire write) (sink : σ) (data : Bytes) (start : kind sink) (final : Transfer σ) :
    Loop write data final sink 0 0 ↔ final = run write sink data := by
  have loop : Loop write data (run write sink data) sink 0 0 :=
    pump_loop honest (standing_first start) (by omega)
  exact ⟨loop.unique, fun same => same ▸ loop⟩

/-- A whole transfer puts out a prefix of its data, counts its bytes, and makes no more writes than
there are bytes. -/
theorem run_putsOut {kind : σ → Prop} {wire : σ → Bytes}
    {write : σ → Bytes → Except Fault Nat × σ} (honest : Honest kind wire write) (sink : σ)
    (data : Bytes) (start : kind sink) :
    (run write sink data).calls ≤ data.length ∧
      PutsOut kind wire sink data (run write sink data).sent (run write sink data) :=
  ((loop_iff honest sink data start _).mpr rfl).putsOut honest (standing_first start)

end Transfer
end RelayBench
