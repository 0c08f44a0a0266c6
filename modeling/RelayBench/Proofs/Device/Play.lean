import RelayBench.Exchange
import RelayBench.Proofs.Device.Output
import RelayBench.Proofs.Device.Stream

/-! Playing a scripted exchange.  Its steps take effect one after the other up to the first that fails:
what they expect is taken from the device and what they reply is written to the peer, chunk by chunk
and in order, and nothing behind a failing step happens. -/
namespace RelayBench

namespace Device

/-- Why a call that wants a chunk is given none: its limit is refused, or an interrupt or the limit ends its
wait with nothing there, or the mark of the end is all that is there. -/
inductive Denied (timeout : Option Number) (device : Device) : Fault → Prop
  | negative (negative : timeout.any Number.isNegative = true) :
      Denied timeout device (.invalidValue "'timeout' must be a non-negative number")
  | unwaitable {fault : Fault} (refused : device.waitFault hasItem timeout = some fault) :
      Denied timeout device fault
  | interrupted (empty : (device.waited timeout).queue = []) : Denied timeout device .keyboardInterrupt
  | timedOut (limited : timeout.isSome = true) (empty : (device.waited timeout).queue = []) :
      Denied timeout device
        (.harness .timeout "Nothing received from peer" [("timeout", Number.limitDatum timeout)] none)
  | huge (huge : timeout.any Number.isBeyondFloats = true) (there : (device.waited timeout).queue ≠ []) :
      Denied timeout device (.system .overflow [.text "int too large to convert to float"])
  | ended {rest : List (Option Bytes)} (next : (device.waited timeout).queue = none :: rest) :
      Denied timeout device (device.waited timeout).streamEnded

/-- A wait for a chunk that does not find one ends with nothing there: it had a limit, or was interrupted. -/
theorem awaitItems_empty {timeout : Option Number} {items : Nat} {device : Device}
    (missed : Action.result (awaitItems hasItem timeout items device) ≠ .ok true) :
    (Action.state (awaitItems hasItem timeout items device)).queue = [] ∧
      (Action.result (awaitItems hasItem timeout items device) = .ok false → timeout.isSome = true) := by
  induction items generalizing device with
  | zero =>
    simp only [awaitItems, Action.bind_apply, Action.get_apply] at missed ⊢
    split at missed
    · exact absurd rfl missed
    next there =>
      rw [if_neg there]
      have empty : device.queue = [] := by simpa [hasItem] using there
      cases timeout with
      | none => exact ⟨empty, fun missing => by cases missing⟩
      | some limit => exact ⟨empty, fun _ => rfl⟩
  | succ items ih =>
    rw [awaitItems_succ] at missed ⊢
    split at missed
    · exact absurd rfl missed
    next there =>
      have empty : device.queue = [] := by simpa [hasItem] using there
      rw [if_neg there]
      split at missed
      next patient =>
        rw [if_pos patient]
        cases passed : pass device with
        | ok done middle =>
          rw [Action.bind_ok passed] at missed ⊢
          exact ih missed
        | error fault middle =>
          -- What interrupts a round is an event, before the reader had its turn.
          rw [Action.bind_error passed]
          simp only [pass, Action.bind_apply, Action.liftBenchDevice_apply, Action.onPart_apply] at passed
          cases advanced : World.advanceScript device.world with
          | ok went world => simp [advanced] at passed
          | error raised world =>
            simp only [advanced, EStateM.Result.error.injEq] at passed
            exact ⟨passed.2 ▸ empty, fun missing => by cases missing⟩
      next hasty =>
        rw [if_neg hasty]
        cases timeout with
        | none => exact absurd rfl hasty
        | some limit => exact ⟨empty, fun _ => rfl⟩

theorem receive_denied {timeout : Option Number} {device after : Device} {fault : Fault}
    (failed : receive timeout device = .error fault after) : Denied timeout device fault := by
  by_cases negative : timeout.any Number.isNegative = true
  · simp only [receive, negative, if_true] at failed
    cases failed
    exact .negative negative
  simp only [receive, negative, Bool.false_eq_true, if_false, Action.bind_apply] at failed
  cases refused : device.waitFault hasItem timeout with
  | some refusal =>
    rw [await_eq, refused] at failed
    cases failed
    exact .unwaitable refused
  | none =>
    obtain ⟨items, ran⟩ : ∃ items, await hasItem timeout device = awaitItems hasItem timeout items device :=
      ⟨_, by rw [await_eq, refused]⟩
    have waited : device.waited timeout = Action.state (awaitItems hasItem timeout items device) :=
      congrArg Action.state ran
    rw [ran] at failed
    have empty := @awaitItems_empty timeout items device
    cases course : awaitItems hasItem timeout items device with
    | error raised middle =>
      simp only [course, EStateM.Result.error.injEq] at failed
      obtain ⟨rfl, rfl⟩ := failed
      rw [← waited, course] at empty
      exact awaitItems_failed course ▸ .interrupted (empty (by simp)).1
    | ok found middle =>
      simp only [course, Action.state_ok] at failed waited
      rw [course] at empty
      cases found with
      | false =>
        cases failed
        obtain ⟨empty, limited⟩ := empty (by simp)
        exact .timedOut (limited rfl) (waited ▸ empty)
      | true =>
        have there : middle.queue ≠ [] := by simpa [hasItem] using awaitItems_found course
        by_cases huge : timeout.any Number.isBeyondFloats = true
        · simp only [huge] at failed
          cases failed
          exact .huge huge (waited ▸ there)
        · simp only [huge] at failed
          rcases queue : middle.queue with _ | ⟨_ | chunk, rest⟩
          · exact absurd queue there
          · have told : (.error middle.streamEnded { middle with queue := rest ++ [none] } :
                EStateM.Result Fault Device Bytes) = .error fault after := by simpa [queue] using failed
            cases told
            exact waited ▸ .ended (waited ▸ queue)
          · simp [queue] at failed

/-- A call is given a chunk only under a limit that can be waited for. -/
theorem receive_measurable {timeout : Option Number} {device after : Device} {chunk : Bytes}
    (given : receive timeout device = .ok chunk after) :
    isMeasurable timeout = true ∧ device.waitFault hasItem timeout = none := by
  have positive : timeout.any Number.isNegative = false := by
    by_contra negative
    rw [Bool.not_eq_false] at negative
    simp only [receive, negative, if_true] at given
    cases given
  simp only [receive, positive, Bool.false_eq_true, if_false, Action.bind_apply] at given
  have small : timeout.any Number.isBeyondFloats = false := by
    by_contra huge
    rw [Bool.not_eq_false] at huge
    cases waited : await hasItem timeout device with
    | error fault middle => simp [waited] at given
    | ok found middle => cases found <;> simp [waited, huge] at given
  refine ⟨by simp [isMeasurable, positive, small], ?_⟩
  cases refused : device.waitFault hasItem timeout with
  | none => rfl
  | some fault =>
    rw [await_eq, refused] at given
    cases given

end Device

namespace ExchangeStep

def expected? : ExchangeStep → Option Bytes
  | .expect data => some data
  | _ => none

def replied : ExchangeStep → Bytes
  | .reply data => data
  | _ => []

end ExchangeStep

namespace Exchange

def expected (steps : List ExchangeStep) : List Bytes := steps.filterMap ExchangeStep.expected?

def replied (steps : List ExchangeStep) : Bytes := steps.flatMap ExchangeStep.replied

/-- How a step goes well: the chunk that comes next is the one that it expects, its reply is written, or the
clock takes its pause.  A step of no known kind never does. -/
inductive Goes (timeout : Option Number) (device : Device) : ExchangeStep → Device → Prop
  | heard {data : Bytes} {rest : List (Option Bytes)} (measurable : Device.isMeasurable timeout = true)
      (waitable : device.waitFault Device.hasItem timeout = none)
      (next : (device.waited timeout).queue = some data :: rest) :
      Goes timeout device (.expect data) { device.waited timeout with queue := rest }
  | sent {data : Bytes} {after : Device} (sent : Device.send (.bytes data) device = .ok () after) :
      Goes timeout device (.reply data) after
  | paused {seconds : Number} (taken : device.world.pauseFault seconds = none) :
      Goes timeout device (.pause seconds)
        { device with world := { device.world with pauses := device.world.pauses ++ [seconds] } }

/-- How a step fails: with what fault, what chunk it has taken and what bytes it has put out all the same,
and what it leaves. -/
inductive Halts (name : String) (timeout : Option Number) (index : Nat) (device : Device) :
    ExchangeStep → Fault → List Bytes → Bytes → Device → Prop
  | mismatch {data chunk : Bytes} {rest : List (Option Bytes)}
      (next : (device.waited timeout).queue = some chunk :: rest) (other : chunk ≠ data) :
      Halts name timeout index device (.expect data)
        (.harness .unexpectedData ("Scenario " ++ name ++ " step " ++ toString index ++ " mismatch")
          (Device.mismatch data chunk) none)
        [chunk] [] { device.waited timeout with queue := rest }
  | denied {data : Bytes} {fault : Fault} (why : Device.Denied timeout device fault) :
      Halts name timeout index device (.expect data) fault [] [] (device.waited timeout)
  | unsent {data part : Bytes} {fault : Fault} {after : Device}
      (failed : Device.send (.bytes data) device = .error fault after) (first : part <+: data) :
      Halts name timeout index device (.reply data) fault [] part after
  | restless {seconds : Number} {fault : Fault} (refused : device.world.pauseFault seconds = some fault) :
      Halts name timeout index device (.pause seconds) fault [] [] device
  | unknown {value : Datum} : Halts name timeout index device (.unknown value)
      (.system .type [.text ("Unknown scenario step " ++ value.literal)]) [] [] device

/-- A step that goes well does not fail. -/
theorem Goes.not_halts {name : String} {timeout : Option Number} {index : Nat} {device after last : Device}
    {step : ExchangeStep} (goes : Goes timeout device step after) {fault : Fault} {chunks : List Bytes}
    {part : Bytes} : ¬ Halts name timeout index device step fault chunks part last := by
  intro halts
  cases goes with
  | heard measurable waitable next =>
    cases halts with
    | mismatch other differs =>
      rw [next] at other
      cases other
      exact differs rfl
    | denied why =>
      simp only [Device.isMeasurable, Bool.and_eq_true, Bool.not_eq_true'] at measurable
      cases why with
      | negative negative => simp [measurable] at negative
      | unwaitable refused => simp [waitable] at refused
      | interrupted empty => simp [next] at empty
      | timedOut _ empty => simp [next] at empty
      | huge huge => simp [measurable] at huge
      | ended mark => simp [next] at mark
  | sent sent =>
    cases halts with
    | unsent failed => cases sent.symm.trans failed
  | paused taken =>
    cases halts with
    | restless refused => cases taken.symm.trans refused

/-- Steps that go well one after the other. -/
inductive Runs (timeout : Option Number) : Device → List ExchangeStep → Device → Prop
  | nil (device : Device) : Runs timeout device [] device
  | cons {device middle after : Device} {step : ExchangeStep} {rest : List ExchangeStep}
      (goes : Goes timeout device step middle) (runs : Runs timeout middle rest after) :
      Runs timeout device (step :: rest) after

section

variable {start link : Nat} {earlier taken : List Bytes} {written : Bytes} {sent : Nat → Bytes}
  {device : Device} (name : String) (timeout : Option Number) (index : Nat)

/-- Where a play stands: what has been taken of the device and written to its link. -/
def Stands (start link : Nat) (earlier : List Bytes) (written : Bytes) (taken : List Bytes) (device : Device) :
    Prop :=
  ∃ sent, Device.Standing Event.Addressed (Device.Wired start link earlier written taken) sent device

/-- A single step: it takes and writes its share and goes on, or it halts. -/
inductive StepCourse (start link : Nat) (earlier : List Bytes) (written : Bytes) (taken : List Bytes)
    (device : Device) (step : ExchangeStep) : Prop
  | well {after : Device} (ran : playStep name timeout index step device = .ok step.expected? after)
      (goes : Goes timeout device step after)
      (stands : Stands start link earlier (written ++ step.replied) (taken ++ step.expected?.toList) after)
  | halts {fault : Fault} {chunks : List Bytes} {part : Bytes} {after : Device}
      (ran : playStep name timeout index step device = .error fault after)
      (halts : Halts name timeout index device step fault chunks part after)
      (stands : Stands start link earlier (written ++ part) (taken ++ chunks) after)

theorem expect_course (stands : Stands start link earlier written taken device) (data : Bytes) :
    StepCourse name timeout index start link earlier written taken device (.expect data) := by
  obtain ⟨sent, standing⟩ := stands
  have serving := Device.wired_serving start link earlier written
  obtain ⟨scripted, phase, reader, wired⟩ := (serving.keeping taken).waited timeout standing
  have still : Stands start link earlier (written ++ []) (taken ++ []) (device.waited timeout) := by
    rw [List.append_nil, List.append_nil]
    exact ⟨_, scripted, phase, reader, wired⟩
  have course := Device.receive_received timeout device
  cases ran : Device.receive timeout device with
  | ok chunk after =>
    rw [ran] at course
    cases course with
    | @chunk _ rest queue =>
      have given : Stands start link earlier (written ++ []) (taken ++ [chunk])
          { device.waited timeout with queue := rest } := by
        rw [List.append_nil]
        exact ⟨_, scripted, phase, reader, serving.takes wired queue⟩
      by_cases same : chunk = data
      · obtain ⟨measurable, waitable⟩ := Device.receive_measurable ran
        have went : playStep name timeout index (.expect data) device = .ok (some data)
            { device.waited timeout with queue := rest } := by simp [playStep, ran, same]
        exact .well went (.heard measurable waitable (same ▸ queue)) (same ▸ given)
      · exact .halts (by simp [playStep, ran, same]) (.mismatch queue same) given
  | error fault after =>
    have denied := Device.receive_denied ran
    have stopped : playStep name timeout index (.expect data) device = .error fault after := by
      simp [playStep, ran]
    rw [ran] at course
    have same : after = device.waited timeout := by
      cases course with
      | @finished rest queue =>
        -- The mark of the end is alone in the queue, so putting it back behind changes nothing.
        obtain ⟨rfl, _, _⟩ := wired.tallies.finished queue
        rw [List.nil_append, ← queue]
      | failed other => rfl
    subst same
    exact .halts stopped (.denied denied) still

theorem reply_course (stands : Stands start link earlier written taken device) (data : Bytes) :
    StepCourse name timeout index start link earlier written taken device (.reply data) := by
  obtain ⟨sent, standing⟩ := stands
  rw [← List.append_nil taken] at standing
  rcases Device.send_standing standing data with
    ⟨after, went, wrote⟩ | ⟨fault, part, after, failed, first, wrote⟩
  · have ran : playStep name timeout index (.reply data) device = .ok none after := by
      simp only [playStep, Action.bind_apply, went, Action.pure_apply]
    exact .well ran (.sent went) ⟨sent, wrote⟩
  · have ran : playStep name timeout index (.reply data) device = .error fault after := by
      simp only [playStep, Action.bind_apply, failed]
    exact .halts ran (.unsent failed first) ⟨sent, wrote⟩

theorem pause_course (stands : Stands start link earlier written taken device) (seconds : Number) :
    StepCourse name timeout index start link earlier written taken device (.pause seconds) := by
  obtain ⟨sent, standing⟩ := stands
  rw [← List.append_nil taken] at standing
  have still := Device.standing_writes standing [] (.refl device) rfl (List.append_nil _).symm
  cases answer : device.world.pauseFault seconds with
  | some fault =>
    have refused : World.pause seconds device.world = .error fault device.world := by
      simp only [World.pause, answer]
    have ran : playStep name timeout index (.pause seconds) device = .error fault device := by
      simp only [playStep, Action.bind_apply, Action.liftBenchDevice_apply, Action.onPart_apply, refused]
    exact .halts ran (.restless answer) ⟨sent, still⟩
  | none =>
    have paused : World.pause seconds device.world =
        .ok () { device.world with pauses := device.world.pauses ++ [seconds] } := by
      simp only [World.pause, answer]
    have ran : playStep name timeout index (.pause seconds) device = .ok none
        { device with world := { device.world with pauses := device.world.pauses ++ [seconds] } } := by
      simp only [playStep, Action.bind_apply, Action.liftBenchDevice_apply, Action.onPart_apply, paused,
        Action.pure_apply]
    have keeps : Device.Keeps (fun _ => []) device
        { device with world := { device.world with pauses := device.world.pauses ++ [seconds] } } :=
      ⟨rfl, rfl, rfl, rfl, rfl, rfl, rfl, .refl _⟩
    exact .well ran (.paused answer) ⟨sent, Device.standing_writes standing [] keeps rfl (List.append_nil _).symm⟩

theorem step_course (stands : Stands start link earlier written taken device) (step : ExchangeStep) :
    StepCourse name timeout index start link earlier written taken device step := by
  cases step with
  | expect data => exact expect_course name timeout index stands data
  | reply data => exact reply_course name timeout index stands data
  | pause seconds => exact pause_course name timeout index stands seconds
  | unknown value => exact .halts rfl .unknown (by simpa using stands)

/-- A play that a step halts: the steps before it went well, and those behind it do not matter. -/
structure Halted (device : Device) (done : List ExchangeStep) (middle : Device) (step : ExchangeStep)
    (fault : Fault) (chunks : List Bytes) (part : Bytes) (after : Device) : Prop where
  well : playSteps name timeout index done device = .ok (expected done) middle
  runs : Runs timeout device done middle
  halts : Halts name timeout (index + done.length) middle step fault chunks part after
  deaf : ∀ rest, playSteps name timeout index (done ++ step :: rest) device = .error fault after

/-- A play goes through to its end, or up to the first step that fails. -/
inductive Course (start link : Nat) (earlier : List Bytes) (written : Bytes) (taken : List Bytes)
    (device : Device) (steps : List ExchangeStep) : Prop
  | whole {after : Device} (ran : playSteps name timeout index steps device = .ok (expected steps) after)
      (runs : Runs timeout device steps after)
      (stands : Stands start link earlier (written ++ replied steps) (taken ++ expected steps) after)
  | part {done tail : List ExchangeStep} {step : ExchangeStep} {fault : Fault} {chunks : List Bytes}
      {part : Bytes} {middle after : Device} (split : steps = done ++ step :: tail)
      (halted : Halted name timeout index device done middle step fault chunks part after)
      (before : Stands start link earlier (written ++ replied done) (taken ++ expected done) middle)
      (stands : Stands start link earlier (written ++ (replied done ++ part))
        (taken ++ (expected done ++ chunks)) after)

theorem playSteps_cons {step : ExchangeStep} {middle : Device} {chunk : Option Bytes}
    (ran : playStep name timeout index step device = .ok chunk middle) (rest : List ExchangeStep) :
    playSteps name timeout index (step :: rest) device =
      match playSteps name timeout (index + 1) rest middle with
      | .ok later after => .ok (chunk.toList ++ later) after
      | .error fault after => .error fault after := by
  simp only [playSteps, Action.bind_apply, ran, Action.pure_apply]
  cases playSteps name timeout (index + 1) rest middle <;> rfl

theorem playSteps_halt {step : ExchangeStep} {after : Device} {fault : Fault}
    (ran : playStep name timeout index step device = .error fault after) (rest : List ExchangeStep) :
    playSteps name timeout index (step :: rest) device = .error fault after := by
  simp only [playSteps, Action.bind_apply, ran]

theorem expected_cons (step : ExchangeStep) (steps : List ExchangeStep) :
    expected (step :: steps) = step.expected?.toList ++ expected steps := by
  rw [expected, List.filterMap_cons]
  cases step.expected? <;> rfl

theorem replied_cons (step : ExchangeStep) (steps : List ExchangeStep) :
    replied (step :: steps) = step.replied ++ replied steps := List.flatMap_cons

theorem playSteps_course (steps : List ExchangeStep) (stands : Stands start link earlier written taken device) :
    Course name timeout index start link earlier written taken device steps := by
  induction steps generalizing index device written taken with
  | nil => exact .whole rfl (.nil device) (by simpa [replied, expected] using stands)
  | cons step rest ih =>
    cases step_course name timeout index stands step with
    | halts ran halts kept =>
      have first : step :: rest = [] ++ step :: rest := rfl
      refine .part first ⟨rfl, .nil device, halts, playSteps_halt name timeout index ran⟩ ?_ ?_
      · simpa [replied, expected] using stands
      · simpa [replied, expected] using kept
    | @well middle ran goes kept =>
      have cons := playSteps_cons name timeout index ran
      cases ih (index + 1) kept with
      | @whole after went runs final =>
        have through : playSteps name timeout index (step :: rest) device =
            .ok (expected (step :: rest)) after := by rw [cons, went, expected_cons]
        refine .whole through (.cons goes runs) ?_
        simpa only [expected_cons, replied_cons, List.append_assoc] using final
      | @part done tail other fault chunks part last after split halted before final =>
        have through : playSteps name timeout index (step :: done) device =
            .ok (expected (step :: done)) last := by rw [cons, halted.well, expected_cons]
        have deaf (more : List ExchangeStep) :
            playSteps name timeout index ((step :: done) ++ other :: more) device = .error fault after := by
          rw [List.cons_append, cons, halted.deaf more]
        have place : index + 1 + done.length = index + (step :: done).length := by
          rw [List.length_cons]
          omega
        refine .part (congrArg (step :: ·) split) ⟨through, .cons goes halted.runs, place ▸ halted.halts, deaf⟩
          ?_ ?_
        · simpa only [expected_cons, replied_cons, List.append_assoc] using before
        · simpa only [expected_cons, replied_cons, List.append_assoc] using final

end

/-- What a play does to a device: the chunks that it takes are the next ones of what is received, and its
bytes are written to the link behind those of before. -/
structure Account (link : Nat) (taken : List Bytes) (before after : Device) (chunks : List Bytes)
    (written : Bytes) : Prop where
  start : ∃ queued, before.queue = queued.map some ++ (if before.readerEnded then [none] else []) ∧
    taken ++ queued = before.received
  received : before.received <+: after.received
  order : ∃ queued, after.queue = queued.map some ++ (if after.readerEnded then [none] else []) ∧
    taken ++ chunks ++ queued = after.received
  outbox : (after.world.net.link link).stream.outbox = (before.world.net.link link).stream.outbox ++ written

theorem Stands.account {start link : Nat} {taken chunks : List Bytes} {written : Bytes} {before after : Device}
    (here : Stands start link before.received (before.world.net.link link).stream.outbox taken before)
    (there : Stands start link before.received
      ((before.world.net.link link).stream.outbox ++ written) (taken ++ chunks) after) :
    Account link taken before after chunks written := by
  obtain ⟨_, _, phase, reader, wired⟩ := here
  obtain ⟨_, _, next, ending, final⟩ := there
  refine ⟨?_, final.received, ?_, final.outbox⟩
  · rw [Device.readerEnded_eq reader]
    exact wired.tallies.order
  · rw [Device.readerEnded_eq ending]
    exact final.tallies.order

/-- The entry that a play makes in the log before its first step. -/
def opening (exchange : Exchange) : Entry :=
  .device Logger.exchange ("Playing scenario " ++ exchange.name) (toString exchange.steps.length ++ " steps")

theorem play_eq (exchange : Exchange) (timeout : Option Number) (device : Device) :
    play exchange timeout device =
      playSteps exchange.name timeout 0 exchange.steps (device.note exchange.opening) := rfl

/-- A play takes effect step by step, up to the first step that fails.  When a device that was started has
its link, wherever it has come to and whatever else is still to come, either all steps of the exchange go
well, and the play gives what they expect; or all steps before some step go well and this one fails, which no
step does that goes well, the play ends by its fault, and whatever steps stand behind it, the outcome is the
same.  In the first case the play has taken just the expected chunks and written just the replies; in the
second those of the steps before, and besides them the chunk of a mismatch, or what a reply that fails has put
out. -/
theorem play_of_run (settings : DeviceSettings) (world : World) (start : Device.Scene)
    (turns : List Device.Turn) (exchange : Exchange) (timeout : Option Number) (link : Nat)
    (addressed : world.net.Addressed) (script : world.Scripted Event.Addressed)
    (launched : Device.launch (Device.ofSettings settings world) = .ok () start.device)
    (proper : ∀ turn ∈ turns, turn.Meets Event.Addressed)
    (linked : (start.afterAll turns).device.link = some link) :
    let device := (start.afterAll turns).device
    let taken := Device.returned (start.trace turns)
    (∃ after, play exchange timeout device = .ok (expected exchange.steps) after ∧
      Runs timeout (device.note exchange.opening) exchange.steps after ∧
      Account link taken device after (expected exchange.steps) (replied exchange.steps)) ∨
    ∃ done step tail middle fault chunks part after, exchange.steps = done ++ step :: tail ∧
      play exchange timeout device = .error fault after ∧
      Halted exchange.name timeout 0 (device.note exchange.opening) done middle step fault chunks part after ∧
      (∀ next, ¬ Goes timeout middle step next) ∧
      Account link taken device middle (expected done) (replied done) ∧
      Account link taken device after (expected done ++ chunks) (replied done ++ part) := by
  intro device taken
  obtain ⟨reader, same, _, _, _, tallies⟩ := Device.launch_fresh launched
  have began : Device.Standing Event.Addressed (Device.Tallies world.net.linkCount · []) world.net.unread
      start.device := ⟨fun items found => script items (same ▸ found), .testing, reader, tallies addressed⟩
  obtain ⟨scripted, phase, ending, fits⟩ := Device.tallies_run began proper
  have here : Stands world.net.linkCount link device.received (device.world.net.link link).stream.outbox
      taken device := ⟨_, scripted, phase, ending, fits, linked, rfl, List.prefix_refl _⟩
  have noted : Stands world.net.linkCount link device.received (device.world.net.link link).stream.outbox
      taken (device.note exchange.opening) := by
    obtain ⟨sent, standing⟩ := here
    have wrote := Device.standing_writes standing [] (.note (.refl device) exchange.opening)
      (Device.note_pending _ _) (by rw [Device.note_net, List.append_nil])
    rw [List.append_nil] at wrote
    exact ⟨sent, wrote⟩
  rw [play_eq]
  cases playSteps_course exchange.name timeout 0 exchange.steps noted with
  | whole ran runs stands => exact .inl ⟨_, ran, runs, here.account stands⟩
  | part split halted before stands =>
    exact .inr ⟨_, _, _, _, _, _, _, _, split, split ▸ halted.deaf _, halted,
      fun _ goes => goes.not_halts halted.halts, here.account before, here.account stands⟩

/-- The peer comes in and sends three bytes, of which the reader makes two chunks. -/
def greeting : List Device.Turn :=
  .event (.connect "ann" none none none none) :: List.replicate 8 .read ++
    .event (.send "ann" [1, 2, 3]) :: List.replicate 4 .read

/-- An exchange whose third step expects another chunk than the second that comes. -/
def misheard : Exchange where
  name := "talk"
  steps := [.expect [1, 2], .reply [7], .expect [4], .reply [8]]

theorem play_of_misheard :
    let start : Device.Scene :=
      { device := Action.state (Device.launch (Device.ofSettings Device.pairSettings {})) }
    ∃ done step tail fault chunks part after, misheard.steps = done ++ step :: tail ∧
      play misheard none (start.afterAll greeting).device = .error fault after ∧
      expected done ++ chunks = [[1, 2], [3]] ∧ replied done ++ part = [7] ∧
      fault.kind = .harness .unexpectedData := by
  intro start
  let device := (start.afterAll greeting).device
  let final := Action.state (play misheard none device)
  have result : (match play misheard none device with
      | .error fault _ => some fault.kind
      | .ok _ _ => none) = some (.harness .unexpectedData) := by decide +kernel
  have course := play_of_run Device.pairSettings {} start greeting misheard none 0 Device.blank_addressed
    (fun _ found => absurd found (Option.some_ne_none _).symm) (by rfl)
    (by simp [greeting, Device.Turn.Meets, Event.Addressed]) (by decide +kernel)
  have nothing : Device.returned (start.trace greeting) = [] := by decide +kernel
  have received : final.received = [[1, 2], [3]] := by decide +kernel
  have written : (final.world.net.link 0).stream.outbox = [7] := by decide +kernel
  have before : (device.world.net.link 0).stream.outbox = [] := by decide +kernel
  have empty : final.queue = [] := by decide +kernel
  simp only [nothing] at course
  -- From here on the device is no more than what was computed of it.
  change (∃ after, play misheard none device = .ok (expected misheard.steps) after ∧ _ ∧
    Account 0 [] device after _ _) ∨ ∃ done step tail middle fault chunks part after,
      misheard.steps = done ++ step :: tail ∧ play misheard none device = .error fault after ∧ _ ∧ _ ∧
      Account 0 [] device middle (expected done) (replied done) ∧
      Account 0 [] device after (expected done ++ chunks) (replied done ++ part) at course
  show ∃ done step tail fault chunks part after, misheard.steps = done ++ step :: tail ∧
    play misheard none device = .error fault after ∧ _
  clear_value device
  rcases course with ⟨after, ran, _⟩ |
    ⟨done, step, tail, middle, fault, chunks, part, after, split, ran, _, _, _, account⟩
  · rw [ran] at result
    cases result
  · obtain rfl : final = after := congrArg Action.state ran
    rw [ran] at result
    obtain ⟨queued, queue, order⟩ := account.order
    obtain rfl : queued = [] := by
      have none := queue.symm.trans empty
      simpa using (List.append_eq_nil_iff.mp none).1
    refine ⟨done, step, tail, fault, chunks, part, final, split, ran, ?_, ?_, Option.some.inj result⟩
    · simpa [received] using order
    · have outbox := account.outbox
      rw [before, written, List.nil_append] at outbox
      exact outbox.symm

end Exchange
end RelayBench
