import RelayBench.Polling
import RelayBench.Proofs.Action

/-! What a search comes to.  It makes its attempts one after the other, up to the first that settles it, and
pauses after each that does not; when none of those it may make settles it, it fails and tells the last fault
that it has ignored.  A pause that the clock does not take ends it at once. -/
namespace RelayBench
namespace Action

@[simp] theorem liftPoll_apply {α : Type} (action : Bench α) (polling : Polling) :
    (liftM action : PollCall α) polling =
      onPart Polling.world (fun world polling => { polling with world }) action polling := rfl

end Action

/-- The end of a search that an attempt settles. -/
def Attempt.conclude (attempt : Attempt) (polling : Polling) : EStateM.Result Fault Polling Datum :=
  match attempt with
  | .returned value => .ok value polling
  | .raised fault => .error fault polling

namespace Polling

/-- A search after further calls and pauses. -/
def later (polling : Polling) (calls pauses : Nat) (delay : Number) : Polling where
  world := { polling.world with pauses := polling.world.pauses ++ List.replicate pauses delay }
  calls := polling.calls + calls

theorem later_calls (polling : Polling) (calls pauses : Nat) (delay : Number) :
    (polling.later calls pauses delay).calls = polling.calls + calls := rfl

theorem later_later (polling : Polling) (delay : Number) (early calls before pauses : Nat) :
    (polling.later early before delay).later calls pauses delay =
      polling.later (early + calls) (before + pauses) delay := by
  simp only [later, List.append_assoc, List.replicate_append_replicate, Nat.add_assoc]

end Polling

namespace PollPlan

/-- An attempt settles a search when it returns something, or raises a fault that is of no ignored kind. -/
def Settles (plan : PollPlan) : Attempt → Prop
  | .returned value => value.isTruthy = true
  | .raised fault => ∀ kind ∈ plan.ignored, fault.kind.under kind = false

/-- The last fault raised among the first attempts, if one of them has raised any. -/
def LastRaised (attempts : Nat → Attempt) (count : Nat) : Option Fault → Prop
  | none => ∀ index < count, ∀ fault, attempts index ≠ .raised fault
  | some fault => ∃ index < count, attempts index = .raised fault ∧
      ∀ later, index < later → later < count → ∀ other, attempts later ≠ .raised other

/-- What a search remembers after an attempt that did not settle it. -/
def remembered (last : Option Fault) : Attempt → Option Fault
  | .returned _ => last
  | .raised fault => some fault

section

variable {plan : PollPlan} {attempts : Nat → Attempt} {calls : Nat} {last : Option Fault}

theorem LastRaised.succ (before : LastRaised attempts calls last) :
    LastRaised attempts (calls + 1) (remembered last (attempts calls)) := by
  cases here : attempts calls with
  | raised fault => exact ⟨calls, Nat.lt_succ_self _, here, fun later after inside => by omega⟩
  | returned value =>
    have silent (fault : Fault) : attempts calls ≠ .raised fault := by simp [here]
    cases last with
    | none =>
      intro index inside
      rcases Nat.lt_succ_iff_lt_or_eq.mp inside with earlier | rfl
      · exact before index earlier
      · exact silent
    | some fault =>
      obtain ⟨index, inside, raised, others⟩ := before
      refine ⟨index, Nat.lt_succ_of_lt inside, raised, fun later after bound => ?_⟩
      rcases Nat.lt_succ_iff_lt_or_eq.mp bound with earlier | rfl
      · exact others later after earlier
      · exact silent

/-- Only one fault is the last one raised. -/
theorem LastRaised.unique {other : Option Fault} (this : LastRaised attempts calls last)
    (that : LastRaised attempts calls other) : last = other := by
  cases last with
  | none =>
    cases other with
    | none => rfl
    | some fault =>
      obtain ⟨index, inside, raised, _⟩ := that
      exact absurd raised (this index inside fault)
  | some fault =>
    obtain ⟨index, inside, raised, silent⟩ := this
    cases other with
    | none => exact absurd raised (that index inside fault)
    | some second =>
      obtain ⟨place, bound, here, others⟩ := that
      rcases Nat.lt_trichotomy index place with before | rfl | after
      · exact absurd here (silent place before bound second)
      · rw [raised] at here
        cases here
        rfl
      · exact absurd raised (others index after inside fault)

/-! One attempt. -/

theorem call_apply (attempts : Nat → Attempt) (polling : Polling) :
    call attempts polling = (attempts polling.calls).conclude { polling with calls := polling.calls + 1 } := by
  simp only [call, Action.bind_apply, Action.get_apply, Action.modify_apply]
  cases attempts polling.calls <;> rfl

variable {polling : Polling}

theorem search_settled (settles : plan.Settles (attempts polling.calls)) (remaining : Nat) (last : Option Fault) :
    plan.search attempts (remaining + 1) last polling =
      (attempts polling.calls).conclude (polling.later 1 0 plan.delay) := by
  have later : polling.later 1 0 plan.delay = { polling with calls := polling.calls + 1 } := by
    simp [Polling.later]
  rw [search, Action.bind_apply, Action.attempt_apply, call_apply, later]
  cases here : attempts polling.calls with
  | returned value =>
    rw [here] at settles
    have something : value.isTruthy = true := settles
    simp [Attempt.conclude, something]
  | raised fault =>
    rw [here] at settles
    have known : plan.ignores fault = false := List.any_eq_false.mpr fun kind member => by
      simp [settles kind member]
    simp [Attempt.conclude, known]

/-- After an attempt that does not settle it, a search pauses. -/
theorem search_unsettled (unsettled : ¬ plan.Settles (attempts polling.calls)) (remaining : Nat)
    (last : Option Fault) :
    plan.search attempts (remaining + 1) last polling = (do
      World.pause plan.delay
      plan.search attempts remaining (remembered last (attempts polling.calls)) : PollCall Datum)
        { polling with calls := polling.calls + 1 } := by
  rw [search, Action.bind_apply, Action.attempt_apply, call_apply]
  cases here : attempts polling.calls with
  | returned value =>
    rw [here] at unsettled
    have nothing : value.isTruthy = false := by simpa [Settles] using unsettled
    simp only [Attempt.conclude, nothing, Bool.false_eq_true, if_false, remembered]
  | raised fault =>
    rw [here] at unsettled
    have known : plan.ignores fault = true := by
      refine (Bool.not_eq_false _).mp fun unknown => unsettled fun kind member => ?_
      simpa using List.any_eq_false.mp unknown kind member
    simp only [Attempt.conclude, known, if_true, remembered]

theorem search_goesOn (takes : polling.world.pauseFault plan.delay = none)
    (unsettled : ¬ plan.Settles (attempts polling.calls)) (remaining : Nat) (last : Option Fault) :
    plan.search attempts (remaining + 1) last polling =
      plan.search attempts remaining (remembered last (attempts polling.calls)) (polling.later 1 1 plan.delay) := by
  rw [search_unsettled unsettled]
  simp only [Action.bind_apply, Action.liftPoll_apply, Action.onPart_apply, World.pause, takes]
  rfl

/-- A pause that the clock does not take ends a search. -/
theorem search_refused {fault : Fault} (refuses : polling.world.pauseFault plan.delay = some fault)
    (unsettled : ¬ plan.Settles (attempts polling.calls)) (remaining : Nat) (last : Option Fault) :
    plan.search attempts (remaining + 1) last polling = .error fault (polling.later 1 0 plan.delay) := by
  rw [search_unsettled unsettled]
  simp [World.pause, refuses, Polling.later]

/-! All attempts. -/

/-- A search goes on through attempts that do not settle it, to the first that does. -/
theorem search_first {ahead remaining : Nat} (within : ahead < remaining)
    (takes : 0 < ahead → polling.world.pauseFault plan.delay = none)
    (before : ∀ index, polling.calls ≤ index → index < polling.calls + ahead → ¬ plan.Settles (attempts index))
    (settles : plan.Settles (attempts (polling.calls + ahead))) :
    plan.search attempts remaining last polling =
      (attempts (polling.calls + ahead)).conclude (polling.later (ahead + 1) ahead plan.delay) := by
  induction ahead generalizing remaining polling last with
  | zero =>
    obtain ⟨remaining, rfl⟩ := Nat.exists_eq_succ_of_ne_zero (Nat.ne_of_gt within)
    exact search_settled settles remaining last
  | succ ahead ih =>
    obtain ⟨remaining, rfl⟩ := Nat.exists_eq_succ_of_ne_zero (Nat.ne_of_gt (Nat.zero_lt_of_lt within))
    have taken := takes (Nat.succ_pos _)
    have here := before polling.calls (Nat.le_refl _) (by omega)
    have shifted : polling.calls + (ahead + 1) = (polling.later 1 1 plan.delay).calls + ahead := by
      rw [Polling.later_calls]
      omega
    have rest (index : Nat) (low : (polling.later 1 1 plan.delay).calls ≤ index)
        (high : index < (polling.later 1 1 plan.delay).calls + ahead) : ¬ plan.Settles (attempts index) := by
      rw [Polling.later_calls] at low high
      exact before index (by omega) (by omega)
    rw [shifted] at settles ⊢
    have more := @ih (remembered last (attempts polling.calls)) (polling.later 1 1 plan.delay) remaining
      (Nat.lt_of_succ_lt_succ within) (fun _ => taken) rest settles
    rw [search_goesOn taken here, more, Polling.later_later, Nat.add_comm 1 (ahead + 1), Nat.add_comm 1 ahead]

/-- A search that no attempt settles makes all its attempts and remembers the last fault they have raised. -/
theorem search_unsettled_all {remaining : Nat}
    (takes : 0 < remaining → polling.world.pauseFault plan.delay = none)
    (never : ∀ index, polling.calls ≤ index → index < polling.calls + remaining →
      ¬ plan.Settles (attempts index))
    (known : LastRaised attempts polling.calls last) :
    ∃ final, LastRaised attempts (polling.calls + remaining) final ∧ plan.search attempts remaining last polling =
      .error (plan.exceeded final) (polling.later remaining remaining plan.delay) := by
  induction remaining generalizing polling last with
  | zero => exact ⟨last, known, by simp [search, Polling.later]⟩
  | succ remaining ih =>
    have taken := takes (Nat.succ_pos _)
    have here := never polling.calls (Nat.le_refl _) (by omega)
    have rest (index : Nat) (low : (polling.later 1 1 plan.delay).calls ≤ index)
        (high : index < (polling.later 1 1 plan.delay).calls + remaining) : ¬ plan.Settles (attempts index) := by
      rw [Polling.later_calls] at low high
      exact never index (by omega) (by omega)
    have told : LastRaised attempts (polling.later 1 1 plan.delay).calls (remembered last (attempts polling.calls)) :=
      known.succ
    obtain ⟨final, raised, ran⟩ := @ih _ (polling.later 1 1 plan.delay) (fun _ => taken) rest told
    refine ⟨final, ?_, ?_⟩
    · rw [Polling.later_calls] at raised
      rwa [show polling.calls + (remaining + 1) = polling.calls + 1 + remaining by omega]
    · rw [search_goesOn taken here, ran, Polling.later_later, Nat.add_comm 1 remaining]

/-- How a search goes on from an attempt: it is over after this one, or it goes on behind it and a pause. -/
theorem search_cases (remaining : Nat) (last : Option Fault) :
    (∃ ended : EStateM.Result Fault Polling Datum, (Action.state ended).calls = polling.calls + 1 ∧
      ∀ others : Nat → Attempt, others polling.calls = attempts polling.calls →
        plan.search others (remaining + 1) last polling = ended) ∨
    ∃ remembers, ∀ others : Nat → Attempt, others polling.calls = attempts polling.calls →
      plan.search others (remaining + 1) last polling =
        plan.search others remaining remembers (polling.later 1 1 plan.delay) := by
  by_cases settles : plan.Settles (attempts polling.calls)
  · refine .inl ⟨(attempts polling.calls).conclude (polling.later 1 0 plan.delay), ?_, fun others same => ?_⟩
    · cases attempts polling.calls <;> rfl
    · rw [← same] at settles ⊢
      exact search_settled settles remaining last
  · cases refusal : polling.world.pauseFault plan.delay with
    | some fault =>
      refine .inl ⟨.error fault (polling.later 1 0 plan.delay), rfl, fun others same => ?_⟩
      rw [← same] at settles
      exact search_refused refusal settles remaining last
    | none =>
      refine .inr ⟨remembered last (attempts polling.calls), fun others same => ?_⟩
      rw [← same] at settles ⊢
      exact search_goesOn refusal settles remaining last

/-- A search never takes a call back. -/
theorem calls_le (remaining : Nat) (last : Option Fault) (polling : Polling) :
    polling.calls ≤ (Action.state (plan.search attempts remaining last polling)).calls := by
  induction remaining generalizing last polling with
  | zero => exact Nat.le_refl _
  | succ remaining ih =>
    rcases @search_cases plan attempts polling remaining last with
      ⟨ended, count, ends⟩ | ⟨remembers, more⟩
    · rw [ends attempts rfl, count]
      exact Nat.le_succ _
    · rw [more attempts rfl]
      exact Nat.le_trans (Nat.le_succ _) (ih remembers (polling.later 1 1 plan.delay))

/-- A search makes no attempt beyond those it counts. -/
theorem search_congr {others : Nat → Attempt} (remaining : Nat) (last : Option Fault) (polling : Polling)
    (same : ∀ index, index < (Action.state (plan.search attempts remaining last polling)).calls →
      others index = attempts index) :
    plan.search others remaining last polling = plan.search attempts remaining last polling := by
  induction remaining generalizing last polling with
  | zero => rfl
  | succ remaining ih =>
    rcases @search_cases plan attempts polling remaining last with
      ⟨ended, count, ends⟩ | ⟨remembers, more⟩
    · rw [ends attempts rfl, count] at same
      rw [ends attempts rfl, ends others (same _ (Nat.lt_succ_self _))]
    · rw [more attempts rfl] at same ⊢
      have behind := @calls_le plan attempts remaining remembers (polling.later 1 1 plan.delay)
      rw [more others (same _ (Nat.lt_of_lt_of_le (Nat.lt_succ_self _) behind))]
      exact ih remembers _ same

end

/-- How a search fails that nothing has settled: its fault shows the last fault it has ignored, which is also the
cause if it is a general one. -/
structure Exceeded (last : Option Fault) (fault : Fault) : Prop where
  kind : fault.kind = .harness .retriesExceeded
  shown : fault.context.get? "last_error" = some (match last with | some raised => .fault raised | none => .none)
  cause : fault.cause = last.filter Fault.isGeneral

theorem exceeded_told (plan : PollPlan) (last : Option Fault) : Exceeded last (plan.exceeded last) where
  kind := rfl
  shown := rfl
  cause := rfl

/-- The fault of a pause for ever. -/
def endlessPause : Fault := .system .overflow [.text "timestamp too large to convert to C _PyTime_t"]

/-- A platform whose clock does not pause for ever. -/
def mortalClock : Platform where
  pauseFault
    | .float (.infinite false) => some endlessPause
    | _ => none

/-- A search whose pauses the clock takes, or that makes none, ends with its first attempt that settles it, as
this attempt ends, if it may make so many.  With `index` attempts before that one it makes `index + 1` calls and
`index` pauses of its delay.  If there is no such attempt it makes all its attempts, as many as its limit if that
is above zero and none otherwise, and fails with the last fault that they have raised, if there is any.  Where the
clock does not take the delay, its fault ends a search at the first pause between two attempts.  Attempts beyond
those counted are not made. -/
theorem first_success_of_run (plan : PollPlan) (attempts : Nat → Attempt) (world : World) :
    (∀ index : Nat, (index : Int) < plan.retries → plan.Settles (attempts index) →
      (∀ earlier < index, ¬ plan.Settles (attempts earlier)) →
      (0 < index → world.pauseFault plan.delay = none) →
      plan.run attempts { world } = (attempts index).conclude
        { world := { world with pauses := world.pauses ++ List.replicate index plan.delay }, calls := index + 1 }) ∧
    ((∀ index : Nat, (index : Int) < plan.retries → ¬ plan.Settles (attempts index)) →
      (0 < plan.retries → world.pauseFault plan.delay = none) →
      ∃ fault last slept, plan.run attempts { world } = .error fault
          { world := { world with pauses := world.pauses ++ List.replicate slept plan.delay },
            calls := (max plan.retries 0).toNat } ∧
        LastRaised attempts (max plan.retries 0).toNat last ∧ Exceeded last fault) ∧
    (∀ fault, world.pauseFault plan.delay = some fault → 1 < plan.retries → ¬ plan.Settles (attempts 0) →
      plan.run attempts { world } = .error fault { world, calls := 1 }) ∧
    ∀ others : Nat → Attempt,
      (∀ index < (Action.state (plan.run attempts { world })).calls, others index = attempts index) →
      plan.run others { world } = plan.run attempts { world } := by
  have limit : (max plan.retries 0).toNat = plan.retries.toNat := by omega
  refine ⟨fun index within settles before takes => ?_, fun never takes => ?_,
    fun fault refuses several unsettled => ?_, fun others same => search_congr _ _ _ same⟩
  · have searched : plan.run attempts { world } =
        (attempts (0 + index)).conclude (Polling.later { world } (index + 1) index plan.delay) := by
      refine search_first (by omega) takes (fun earlier _ inside => ?_) ?_
      · exact before earlier (by simpa using inside)
      · simpa using settles
    simpa [Polling.later] using searched
  · have start : LastRaised attempts 0 none := fun index inside => absurd inside (Nat.not_lt_zero _)
    have unsettled (index : Nat) (_ : 0 ≤ index) (inside : index < 0 + plan.retries.toNat) :
        ¬ plan.Settles (attempts index) := never index (by omega)
    obtain ⟨last, raised, ran⟩ := @search_unsettled_all plan attempts none { world } _
      (fun some => takes (by omega)) unsettled start
    rw [limit]
    refine ⟨_, last, plan.retries.toNat, ?_, by simpa using raised, plan.exceeded_told last⟩
    simpa [run, Polling.later] using ran
  · obtain ⟨more, count⟩ := @Nat.exists_eq_succ_of_ne_zero plan.retries.toNat (by omega)
    have ran := @search_refused plan attempts { world } fault refuses unsettled more none
    simpa [run, count, Polling.later] using ran

/-- The listener is refused once, then not there yet, and there at the third attempt. -/
def hesitant : Nat → Attempt :=
  Attempt.sequence [.raised (Fault.osError 111 "Connection refused"), .returned .none, .returned (.int 7)]
    (.returned .none)

/-- Three attempts are enough; two are not, and the refusal is then what is told; and no pause is for ever. -/
theorem first_success_of_hesitant :
    let plan : PollPlan := { retries := 3, delay := .int 1 }
    let short : PollPlan := { retries := 2, delay := .int 1 }
    let endless : PollPlan := { retries := 2, delay := .float (.infinite false) }
    let world : World := { net := { platform := mortalClock } }
    plan.run hesitant { world } = .ok (.int 7) { world := { world with pauses := [.int 1, .int 1] }, calls := 3 } ∧
      (∃ fault slept, short.run hesitant { world } = .error fault
          { world := { world with pauses := List.replicate slept (.int 1) }, calls := 2 } ∧
        Exceeded (some (Fault.osError 111 "Connection refused")) fault) ∧
      endless.run hesitant { world } = .error endlessPause { world, calls := 1 } := by
  intro plan short endless world
  have refused (plan : PollPlan) (ignores : .system .os ∈ plan.ignored) : ¬ plan.Settles (hesitant 0) :=
    fun settles => absurd (settles (.system .os) ignores) (by decide)
  have unsettled (plan : PollPlan) (ignores : .system .os ∈ plan.ignored) (index : Nat) (inside : index < 2) :
      ¬ plan.Settles (hesitant index) := by
    match index, inside with
    | 0, _ => exact refused plan ignores
    | 1, _ => exact Bool.false_ne_true
  refine ⟨?_, ?_, ?_⟩
  · exact (first_success_of_run plan hesitant world).1 2 (by decide) rfl (unsettled plan (by simp [plan])) fun _ => rfl
  · obtain ⟨fault, last, slept, ran, raised, exceeded⟩ := (first_success_of_run short hesitant world).2.1
      (fun index inside => unsettled short (by simp [short]) index (Int.ofNat_lt.mp inside)) fun _ => rfl
    have known : LastRaised hesitant 2 (some (Fault.osError 111 "Connection refused")) := by
      refine ⟨0, by decide, rfl, fun later after bound other same => ?_⟩
      obtain rfl : later = 1 := by omega
      cases same
    exact ⟨fault, slept, ran, raised.unique known ▸ exceeded⟩
  · exact (first_success_of_run endless hesitant world).2.2.1 endlessPause rfl (by decide)
      (refused endless (by simp [endless]))

/-- On a clock that does not pause for ever, a search of one attempt may end otherwise than by telling that it was
without success. -/
theorem first_success_fails :
    let plan : PollPlan := { retries := 1, delay := .float (.infinite false) }
    let world : World := { net := { platform := mortalClock } }
    plan.delay.isNegative = false ∧ ¬ plan.Settles (.returned .none) ∧
      ∃ after, plan.run (fun _ => .returned .none) { world } = .error endlessPause after ∧
        ∀ last, ¬ Exceeded last endlessPause := by
  refine ⟨rfl, Bool.false_ne_true, _, rfl, fun last exceeded => ?_⟩
  exact absurd exceeded.kind (by decide)

end PollPlan
end RelayBench
