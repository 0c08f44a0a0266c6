import RelayBench.Proofs.Device.Overlay
import RelayBench.Proofs.Device.Play

/-! Two ways to hold a conversation.  An exchange of requests and replies that is played, and calls that respond
to one request after the other, take the same chunks, write the same bytes and fail at the same pair, whatever
happens around the device before each of their steps; only their log and the words of a mismatch differ. -/
namespace RelayBench

namespace World

def overlaid (prior : List Entry) (world : World) : World := { world with log := prior ++ world.log }

/-- An action of a world that does the same whatever the log holds already. -/
def Oblivious {α : Type} (action : Bench α) : Prop :=
  ∀ prior world, action (overlaid prior world) = match action world with
    | .ok a after => .ok a (overlaid prior after)
    | .error fault after => .error fault (overlaid prior after)

theorem happen_oblivious (event : Event) : Oblivious (happen event) := by
  intro prior world
  cases event <;> rfl

theorem happenAll_oblivious (events : List Event) : Oblivious (happenAll events) := by
  induction events with
  | nil => exact fun _ _ => rfl
  | cons event rest ih =>
    intro prior world
    simp only [happenAll, Action.bind_apply, happen_oblivious event prior world]
    cases happen event world with
    | error fault after => rfl
    | ok reply after =>
      simp only [ih prior after]
      cases happenAll rest after <;> rfl

theorem advanceScript_oblivious : Oblivious advanceScript := by
  intro prior world
  have same : (overlaid prior world).script = world.script := rfl
  simp only [advanceScript, Action.bind_apply, Action.get_apply, same]
  rcases world.script with _ | ⟨_ | ⟨item, rest⟩⟩
  · rfl
  · rfl
  · have happened : happenAll item { overlaid prior world with script := some rest } = _ :=
      happenAll_oblivious item prior { world with script := some rest }
    simp only [Action.bind_apply, Action.modify_apply, happened]
    cases happenAll item { world with script := some rest } <;> rfl

end World

namespace Device

/-- A call that does the same whatever the log holds already. -/
def Oblivious {α : Type} (call : DeviceCall α) : Prop :=
  ∀ prior device, call (device.overlaid id prior) = overlay id prior (call device)

section

variable {α β : Type}

theorem oblivious_pure (a : α) : Oblivious (pure a : DeviceCall α) := fun _ _ => rfl

theorem oblivious_throw (fault : Fault) : Oblivious (throw fault : DeviceCall α) := fun _ _ => rfl

theorem Oblivious.bind {first : DeviceCall α} {next : α → DeviceCall β} (early : Oblivious first)
    (late : ∀ a, Oblivious (next a)) : Oblivious (first >>= next) := by
  intro prior device
  rw [Action.bind_apply, Action.bind_apply, early prior device]
  cases first device with
  | ok a after => exact late a prior after
  | error fault after => rfl

theorem oblivious_modify {change : Device → Device}
    (commutes : ∀ prior device, change (device.overlaid id prior) = (change device).overlaid id prior) :
    Oblivious (modify change : DeviceCall PUnit) := by
  intro prior device
  rw [Action.modify_apply, commutes]
  rfl

theorem liftBench_oblivious {action : Bench α} (oblivious : World.Oblivious action) :
    Oblivious (liftM action : DeviceCall α) := by
  intro prior device
  have same : action (device.overlaid id prior).world = _ := oblivious prior device.world
  simp only [Action.liftBenchDevice_apply, Action.onPart_apply, same]
  cases action device.world <;> rfl

end

theorem resume_overlaid (prior : List Entry) (device : Device) :
    resume (device.overlaid id prior) = (resume device).overlaid id prior := by
  have same : (device.overlaid id prior).reader = device.reader := rfl
  unfold resume
  rw [same]
  cases device.reader with
  | none => rfl
  | some phase => exact runReader_overlaid id prior device phase

theorem pass_oblivious : Oblivious pass :=
  (liftBench_oblivious World.advanceScript_oblivious).bind fun _ => oblivious_modify resume_overlaid

theorem awaitItems_oblivious (isThere : Device → Bool)
    (blind : ∀ prior device, isThere (overlaid id prior device) = isThere device) (timeout : Option Number)
    (items : Nat) : Oblivious (awaitItems isThere timeout items) := by
  induction items with
  | zero =>
    intro prior device
    simp only [awaitItems, Action.bind_apply, Action.get_apply, blind]
    cases isThere device with
    | true => rfl
    | false => cases timeout <;> rfl
  | succ items ih =>
    intro prior device
    rw [awaitItems_succ, awaitItems_succ, blind]
    split
    · rfl
    · split
      · exact (pass_oblivious.bind fun _ => ih) prior device
      · rfl

theorem await_oblivious (isThere : Device → Bool)
    (blind : ∀ prior device, isThere (overlaid id prior device) = isThere device) (timeout : Option Number) :
    Oblivious (await isThere timeout) := by
  intro prior device
  have refusal : (device.overlaid id prior).waitFault isThere timeout = device.waitFault isThere timeout := by
    rw [waitFault, waitFault, blind]
    rfl
  rw [await_eq, await_eq, refusal]
  split
  · rfl
  · exact awaitItems_oblivious isThere blind timeout _ prior device

theorem receive_oblivious (timeout : Option Number) : Oblivious (receive timeout) := by
  intro prior device
  by_cases negative : timeout.any Number.isNegative = true
  · simp only [receive, negative, if_true]
    rfl
  · have waited : await hasItem timeout (device.overlaid id prior) =
        overlay id prior (await hasItem timeout device) :=
      await_oblivious hasItem (fun _ _ => rfl) timeout prior device
    simp only [receive, negative, Bool.false_eq_true, if_false, Action.bind_apply, waited]
    rcases await hasItem timeout device with ⟨_ | _, after⟩ | ⟨fault, after⟩
    · rfl
    · by_cases huge : timeout.any Number.isBeyondFloats = true
      · simp only [overlay, huge]
        rfl
      · have same : (after.overlaid id prior).queue = after.queue := rfl
        have ended : (after.overlaid id prior).streamEnded = after.streamEnded := rfl
        rcases queue : after.queue with _ | ⟨_ | chunk, rest⟩ <;>
        simp [overlay, huge, same, queue, ended] <;> rfl
    · rfl

theorem send_oblivious (payload : Bytes) : Oblivious (send (.bytes payload)) := by
  intro prior device
  have link : (device.overlaid id prior).link = device.link := rfl
  have closed : (device.overlaid id prior).closed = device.closed := rfl
  simp only [send, bytesOf, ByteSource.toBytes, Action.bind_apply, Action.pure_apply, Action.get_apply, link, closed]
  cases linked : device.link with
  | none => rfl
  | some index =>
    cases device.closed with
    | true => rfl
    | false =>
      simp only [Action.attempt_apply, Action.bind_apply, liftNet_overlaid]
      cases (liftM (Net.onStream index (Stream.writeAll · payload)) : DeviceCall Unit) device with
      | ok done after =>
        simp only [overlay, Action.modify_apply, note_overlaid]
      | error fault after =>
        simp only [overlay]
        split <;> rfl

/-- What may happen around a device between two calls on it: an event of the network, or an action of its
reader. -/
inductive Happening where
  | event (event : Event)
  | read

def undergo : List Happening → Device → Device
  | [], device => device
  | .event event :: rest, device =>
    undergo rest { device with world := Action.state (World.happen event device.world) }
  | .read :: rest, device => undergo rest device.readOnce

theorem undergo_overlaid (happenings : List Happening) (prior : List Entry) (device : Device) :
    undergo happenings (device.overlaid id prior) = (undergo happenings device).overlaid id prior := by
  induction happenings generalizing device with
  | nil => rfl
  | cons happening rest ih =>
    cases happening with
    | event event =>
      have same : Action.state (World.happen event (device.overlaid id prior).world) =
          World.overlaid prior (Action.state (World.happen event device.world)) := by
        have happened := World.happen_oblivious event prior device.world
        show Action.state (World.happen event (World.overlaid prior device.world)) = _
        rw [happened]
        cases World.happen event device.world <;> rfl
      rw [undergo, undergo, same, ← ih]
      rfl
    | read =>
      have same : (device.overlaid id prior).readOnce = device.readOnce.overlaid id prior := by
        have reader : (device.overlaid id prior).reader = device.reader := rfl
        unfold readOnce
        rw [reader]
        cases device.reader with
        | none => rfl
        | some phase =>
          simp only [advanceReader_overlaid]
          rfl
      rw [undergo, undergo, same, ih]

/-- Responds to the requests of some pairs with their replies, one pair after the other. -/
def respondInTurn (timeout : Option Number) : List (Bytes × Bytes) → DeviceCall (List Bytes)
  | [] => pure []
  | (request, reply) :: rest => do
    let chunk ← respondTo (.bytes request) (.bytes reply) timeout
    let later ← respondInTurn timeout rest
    pure (chunk :: later)

/-- The same, while other things happen before each of the two calls that a response is made of. -/
def respondAmid (gaps : Nat → List Happening) (timeout : Option Number) :
    (index : Nat) → List (Bytes × Bytes) → DeviceCall (List Bytes)
  | _, [] => pure []
  | index, (request, reply) :: rest => do
    modify (undergo (gaps index))
    let chunk ← receive timeout
    if chunk ≠ request then
      throw (.harness .unexpectedData "Unexpected bytes from peer" (mismatch request chunk) none)
    modify (undergo (gaps (index + 1)))
    send (.bytes reply)
    let later ← respondAmid gaps timeout (index + 2) rest
    pure (chunk :: later)

/-- Where nothing else happens, the calls follow one another. -/
theorem respondAmid_calm (timeout : Option Number) (index : Nat) (pairs : List (Bytes × Bytes)) :
    respondAmid (fun _ => []) timeout index pairs = respondInTurn timeout pairs := by
  induction pairs generalizing index with
  | nil => rfl
  | cons pair rest ih =>
    funext device
    simp only [respondAmid, respondInTurn, respondTo, bytesOf, ByteSource.toBytes, Action.bind_apply,
      Action.modify_apply, undergo, Action.pure_apply, ih]
    cases receive timeout device with
    | error fault after => rfl
    | ok chunk after =>
      by_cases same : chunk = pair.1
      · simp only [same, ne_eq, not_true_eq_false, if_false, Action.bind_apply, Action.pure_apply, Action.modify_apply]
        cases send (.bytes pair.2) after <;> rfl
      · simp [same]

theorem respondAmid_oblivious (gaps : Nat → List Happening) (timeout : Option Number) (index : Nat)
    (pairs : List (Bytes × Bytes)) : Oblivious (respondAmid gaps timeout index pairs) := by
  induction pairs generalizing index with
  | nil => exact oblivious_pure []
  | cons pair rest ih =>
    have passes (index : Nat) := oblivious_modify (undergo_overlaid (gaps index))
    refine (passes index).bind fun _ => (receive_oblivious timeout).bind fun chunk => ?_
    by_cases same : chunk = pair.1
    · simp only [same, ne_eq, not_true_eq_false, if_false]
      exact (passes (index + 1)).bind fun _ => (send_oblivious pair.2).bind fun _ =>
        (ih (index + 2)).bind fun later => oblivious_pure _
    · simp only [same, ne_eq, not_false_eq_true, if_true]
      exact oblivious_throw _

end Device

namespace Exchange

/-- The steps that expect the requests of some pairs and send their replies. -/
def pairSteps (pairs : List (Bytes × Bytes)) : List ExchangeStep :=
  pairs.flatMap fun pair => [.expect pair.1, .reply pair.2]

theorem ofPairs_eq (name : String) (pairs : List (Bytes × Bytes)) :
    ofPairs (pairs.map fun pair => (.bytes pair.1, .bytes pair.2)) name = .ok { name, steps := pairSteps pairs } := by
  have answered (exchange : Exchange) :
      answering exchange (pairs.map fun pair => (.bytes pair.1, .bytes pair.2)) =
        .ok { exchange with steps := exchange.steps ++ pairSteps pairs } := by
    induction pairs generalizing exchange with
    | nil => simp [answering, pairSteps]
    | cons pair rest ih =>
      simp only [List.map_cons, answering, expect, reply, ByteSource.toBytes, Except.map, ih, add, pairSteps,
        List.flatMap_cons, List.append_assoc]
      rfl
  exact answered { name }

/-- Plays steps while other things happen before each of them. -/
def playStepsAmid (gaps : Nat → List Device.Happening) (name : String) (timeout : Option Number) :
    (index : Nat) → List ExchangeStep → DeviceCall (List Bytes)
  | _, [] => pure []
  | index, step :: rest => do
    modify (Device.undergo (gaps index))
    let taken ← playStep name timeout index step
    let later ← playStepsAmid gaps name timeout (index + 1) rest
    pure (taken.toList ++ later)

def playAmid (gaps : Nat → List Device.Happening) (exchange : Exchange) (timeout : Option Number) :
    DeviceCall (List Bytes) := do
  World.emit exchange.opening
  playStepsAmid gaps exchange.name timeout 0 exchange.steps

theorem playStepsAmid_calm (name : String) (timeout : Option Number) (index : Nat) (steps : List ExchangeStep) :
    playStepsAmid (fun _ => []) name timeout index steps = playSteps name timeout index steps := by
  induction steps generalizing index with
  | nil => rfl
  | cons step rest ih =>
    funext device
    simp only [playStepsAmid, playSteps, Action.bind_apply, Action.modify_apply, Device.undergo, ih]

theorem playAmid_calm (exchange : Exchange) (timeout : Option Number) :
    playAmid (fun _ => []) exchange timeout = exchange.play timeout := by
  funext device
  simp only [playAmid, play, playStepsAmid_calm]
  rfl

/-- Two faults that are one, or that tell of the same wrong chunk, each in its own words. -/
inductive SameFault : Fault → Fault → Prop
  | same (fault : Fault) : SameFault fault fault
  | mismatch (first second : String) (context : Context) :
      SameFault (.harness .unexpectedData first context none) (.harness .unexpectedData second context none)

section

variable (gaps : Nat → List Device.Happening) (name : String) (timeout : Option Number)

/-- Puts the chunk of a pair in front of what is taken later. -/
def following (chunk : Bytes) : EStateM.Result Fault Device (List Bytes) → EStateM.Result Fault Device (List Bytes)
  | .ok later after => .ok (chunk :: later) after
  | .error fault after => .error fault after

/-- How a single pair goes: both ways go on from the same device with its request taken, or both end there. -/
inductive PairCourse (index : Nat) (device : Device) (pair : Bytes × Bytes) : Prop
  | well {after : Device}
      (plays : ∀ rest, playStepsAmid gaps name timeout index (pairSteps (pair :: rest)) device =
        following pair.1 (playStepsAmid gaps name timeout (index + 2) (pairSteps rest) after))
      (responds : ∀ rest, Device.respondAmid gaps timeout index (pair :: rest) device =
        following pair.1 (Device.respondAmid gaps timeout (index + 2) rest after))
  | halts {fault other : Fault} {after : Device} (same : SameFault fault other)
      (plays : ∀ rest, playStepsAmid gaps name timeout index (pairSteps (pair :: rest)) device = .error fault after)
      (responds : ∀ rest, Device.respondAmid gaps timeout index (pair :: rest) device = .error other after)

theorem pair_course (index : Nat) (device : Device) (pair : Bytes × Bytes) :
    PairCourse gaps name timeout index device pair := by
  let play (rest : List (Bytes × Bytes)) := playStepsAmid gaps name timeout index (pairSteps (pair :: rest)) device
  let respond (rest : List (Bytes × Bytes)) := Device.respondAmid gaps timeout index (pair :: rest) device
  have steps (rest : List (Bytes × Bytes)) :
      pairSteps (pair :: rest) = .expect pair.1 :: .reply pair.2 :: pairSteps rest := rfl
  cases took : Device.receive timeout (Device.undergo (gaps index) device) with
  | error fault after =>
    have plays rest : play rest = .error fault after := by simp [play, steps, playStepsAmid, playStep, took]
    have responds rest : respond rest = .error fault after := by simp [respond, Device.respondAmid, took]
    exact .halts (.same fault) plays responds
  | ok chunk middle =>
    by_cases wanted : chunk = pair.1
    · cases wrote : Device.send (.bytes pair.2) (Device.undergo (gaps (index + 1)) middle) with
      | error fault after =>
        have plays rest : play rest = .error fault after := by
          simp [play, steps, playStepsAmid, playStep, took, wanted, wrote]
        have responds rest : respond rest = .error fault after := by
          simp [respond, Device.respondAmid, took, wanted, wrote]
        exact .halts (.same fault) plays responds
      | ok done after =>
        have plays rest : play rest =
            following pair.1 (playStepsAmid gaps name timeout (index + 2) (pairSteps rest) after) := by
          simp only [play, steps, playStepsAmid, playStep, took, wanted, wrote, Action.bind_apply, Action.modify_apply,
            Action.pure_apply, ne_eq, not_true_eq_false, if_false]
          cases playStepsAmid gaps name timeout (index + 2) (pairSteps rest) after <;> rfl
        have responds rest : respond rest =
            following pair.1 (Device.respondAmid gaps timeout (index + 2) rest after) := by
          simp only [respond, Device.respondAmid, took, wanted, wrote, Action.bind_apply, Action.modify_apply,
            Action.pure_apply, ne_eq, not_true_eq_false, if_false]
          cases Device.respondAmid gaps timeout (index + 2) rest after <;> rfl
        exact .well plays responds
    · let told (words : String) : Fault := .harness .unexpectedData words (Device.mismatch pair.1 chunk) none
      have plays rest :
          play rest = .error (told ("Scenario " ++ name ++ " step " ++ toString index ++ " mismatch")) middle := by
        simp [play, steps, playStepsAmid, playStep, took, wanted, told]
      have responds rest : respond rest = .error (told "Unexpected bytes from peer") middle := by
        simp [respond, Device.respondAmid, took, wanted, told]
      exact .halts (.mismatch _ _ _) plays responds

/-- The two ways of going through pairs from one device: through all of them, or up to the same pair. -/
inductive SameCourse (index : Nat) (device : Device) (pairs : List (Bytes × Bytes)) : Prop
  | well {after : Device}
      (plays : playStepsAmid gaps name timeout index (pairSteps pairs) device = .ok (pairs.map (·.1)) after)
      (responds : Device.respondAmid gaps timeout index pairs device = .ok (pairs.map (·.1)) after)
  | halts {done tail : List (Bytes × Bytes)} {pair : Bytes × Bytes} {middle after : Device} {fault other : Fault}
      (split : pairs = done ++ pair :: tail) (same : SameFault fault other)
      (before : playStepsAmid gaps name timeout index (pairSteps done) device = .ok (done.map (·.1)) middle ∧
        Device.respondAmid gaps timeout index done device = .ok (done.map (·.1)) middle)
      (here : playStepsAmid gaps name timeout (index + 2 * done.length) (pairSteps [pair]) middle = .error fault after ∧
        Device.respondAmid gaps timeout (index + 2 * done.length) [pair] middle = .error other after)
      (plays : playStepsAmid gaps name timeout index (pairSteps pairs) device = .error fault after)
      (responds : Device.respondAmid gaps timeout index pairs device = .error other after)

theorem same_course (index : Nat) (device : Device) (pairs : List (Bytes × Bytes)) :
    SameCourse gaps name timeout index device pairs := by
  induction pairs generalizing index device with
  | nil => exact .well rfl rfl
  | cons pair rest ih =>
    cases pair_course gaps name timeout index device pair with
    | halts same plays responds =>
      exact .halts (List.nil_append _).symm same ⟨rfl, rfl⟩ ⟨plays [], responds []⟩ (plays rest) (responds rest)
    | @well middle plays responds =>
      cases ih (index + 2) middle with
      | @well after played responded =>
        exact .well ((plays rest).trans (by rw [played]; rfl)) ((responds rest).trans (by rw [responded]; rfl))
      | @halts done tail last between after fault other split same before here played responded =>
        have place : index + 2 + 2 * done.length = index + 2 * (pair :: done).length := by
          rw [List.length_cons]
          omega
        refine .halts (congrArg (pair :: ·) split) same ⟨(plays done).trans ?_, (responds done).trans ?_⟩
          (place ▸ here) ((plays rest).trans ?_) ((responds rest).trans ?_)
        · rw [before.1]
          rfl
        · rw [before.2]
          rfl
        · rw [played]
          rfl
        · rw [responded]
          rfl

end

/-- Two devices that came from one and are the same but for an entry that only the first was given in its log:
the same chunks are queued, and the same bytes were written to the same peer. -/
structure Apart (device : Device) (entry : Entry) (played responded : Device) : Prop where
  same : played = { responded with world := { responded.world with log := played.world.log } }
  log : ∃ written, responded.world.log = device.world.log ++ written ∧
    played.world.log = (device.note entry).world.log ++ written

section

variable {device first second : Device} {entry : Entry}

theorem apart_note (device : Device) (entry : Entry) : Apart device entry (device.note entry) device where
  same := by
    have written := World.write_eq device.world entry
    exact congrArg (fun world : World => { device with world }) written
  log := ⟨[], (List.append_nil _).symm, (List.append_nil _).symm⟩

theorem Apart.overlays (apart : Apart device entry first second) : ∃ base : Device,
    first = base.overlaid id (device.note entry).world.log ∧ second = base.overlaid id device.world.log := by
  obtain ⟨written, responded, played⟩ := apart.log
  refine ⟨{ second with world := { second.world with log := written } }, ?_, ?_⟩
  · rw [apart.same, played]
    rfl
  · show second = { second with world := { second.world with log := device.world.log ++ written } }
    rw [← responded]

theorem apart_overlaid (base : Device) : Apart device entry (base.overlaid id (device.note entry).world.log)
    (base.overlaid id device.world.log) :=
  ⟨rfl, base.world.log, rfl, rfl⟩

/-- The first device tells what the second is. -/
theorem Apart.unique {third : Device} (apart : Apart device entry first second)
    (also : Apart device entry first third) : second = third := by
  obtain ⟨base, rfl, rfl⟩ := apart.overlays
  obtain ⟨other, same, rfl⟩ := also.overlays
  have written : base.world.log = other.world.log :=
    List.append_cancel_left (congrArg (fun device : Device => device.world.log) same)
  have alike : base = { other with world := { other.world with log := base.world.log } } :=
    congrArg (fun device : Device => { device with world := { device.world with log := base.world.log } }) same
  rw [alike, written]

/-- Whether a call that does not look at the log is made on one of them or on the other makes no difference. -/
theorem Apart.call {call : DeviceCall (List Bytes)} (apart : Apart device entry first second)
    (oblivious : Device.Oblivious call) :
    (∀ {chunks after}, call first = .ok chunks after →
      ∃ other, call second = .ok chunks other ∧ Apart device entry after other) ∧
    ∀ {fault after}, call first = .error fault after →
      ∃ other, call second = .error fault other ∧ Apart device entry after other := by
  obtain ⟨base, rfl, rfl⟩ := apart.overlays
  rw [oblivious, oblivious]
  cases call base with
  | ok chunks last =>
    refine ⟨fun ran => ?_, nofun⟩
    cases ran
    exact ⟨_, rfl, apart_overlaid last⟩
  | error fault last =>
    refine ⟨nofun, fun ran => ?_⟩
    cases ran
    exact ⟨_, rfl, apart_overlaid last⟩

end

/-- How two ways of going through pairs agree, of which the first makes an entry in the log before it begins: both
take all requests; or both take those of the same first pairs and end by the same fault in the same pair. -/
inductive Agreement (play respond : Nat → List (Bytes × Bytes) → DeviceCall (List Bytes)) (entry : Entry)
    (device : Device) (pairs : List (Bytes × Bytes)) :
    EStateM.Result Fault Device (List Bytes) → EStateM.Result Fault Device (List Bytes) → Prop
  | well {played responded : Device} (apart : Apart device entry played responded) :
      Agreement play respond entry device pairs (.ok (pairs.map (·.1)) played) (.ok (pairs.map (·.1)) responded)
  | halted {done tail : List (Bytes × Bytes)} {pair : Bytes × Bytes} {first second played responded : Device}
      {fault other : Fault} (split : pairs = done ++ pair :: tail) (same : SameFault fault other)
      (before : play 0 done (device.note entry) = .ok (done.map (·.1)) first ∧
        respond 0 done device = .ok (done.map (·.1)) second ∧ Apart device entry first second)
      (here : play (2 * done.length) [pair] first = .error fault played ∧
        respond (2 * done.length) [pair] second = .error other responded)
      (apart : Apart device entry played responded) :
      Agreement play respond entry device pairs (.error fault played) (.error other responded)

theorem amid_agreement (gaps : Nat → List Device.Happening) (name : String) (timeout : Option Number)
    (entry : Entry) (device : Device) (pairs : List (Bytes × Bytes)) :
    Agreement (fun index pairs => playStepsAmid gaps name timeout index (pairSteps pairs))
      (Device.respondAmid gaps timeout) entry device pairs
      (playStepsAmid gaps name timeout 0 (pairSteps pairs) (device.note entry))
      (Device.respondAmid gaps timeout 0 pairs device) := by
  have oblivious := Device.respondAmid_oblivious gaps timeout
  have start := apart_note device entry
  cases same_course gaps name timeout 0 (device.note entry) pairs with
  | well plays responds =>
    obtain ⟨other, ran, apart⟩ := (start.call (oblivious 0 pairs)).1 responds
    rw [plays, ran]
    exact .well apart
  | @halts done tail pair middle after fault other split same before here plays responds =>
    obtain ⟨second, through, between⟩ := (start.call (oblivious 0 done)).1 before.2
    rw [Nat.zero_add] at here
    obtain ⟨last, stopped, apart⟩ := (between.call (oblivious (2 * done.length) [pair])).2 here.2
    obtain ⟨other, ran, also⟩ := (start.call (oblivious 0 pairs)).2 responds
    obtain rfl := apart.unique also
    rw [plays, ran]
    exact .halted split same ⟨before.1, through, between⟩ ⟨here.1, stopped⟩ apart

/-- The exchange that pairs of requests and replies make plays as the calls go that respond to the same pairs in
turn: with the device left alone between the calls, and with whatever else happens before each of them.  Both
ways give the same chunks, or they fail in the same pair with the same kind of fault and the same context, and
every byte written and every chunk left in the queue is the same. -/
theorem play_agrees (name : String) (pairs : List (Bytes × Bytes)) (timeout : Option Number) (device : Device) :
    ∃ exchange, ofPairs (pairs.map fun pair => (.bytes pair.1, .bytes pair.2)) name = .ok exchange ∧
      Agreement (fun index pairs => playSteps name timeout index (pairSteps pairs))
        (fun _ => Device.respondInTurn timeout) exchange.opening device pairs
        (exchange.play timeout device) (Device.respondInTurn timeout pairs device) ∧
      ∀ gaps, Agreement (fun index pairs => playStepsAmid gaps name timeout index (pairSteps pairs))
        (Device.respondAmid gaps timeout) exchange.opening device pairs
        (playAmid gaps exchange timeout device) (Device.respondAmid gaps timeout 0 pairs device) := by
  let exchange : Exchange := { name, steps := pairSteps pairs }
  have amid gaps : Agreement (fun index pairs => playStepsAmid gaps name timeout index (pairSteps pairs))
      (Device.respondAmid gaps timeout) exchange.opening device pairs
      (playAmid gaps exchange timeout device) (Device.respondAmid gaps timeout 0 pairs device) :=
    amid_agreement gaps name timeout exchange.opening device pairs
  refine ⟨exchange, ofPairs_eq name pairs, ?_, amid⟩
  have responds : Device.respondAmid (fun _ => []) timeout = fun _ => Device.respondInTurn timeout := by
    funext index pairs
    exact Device.respondAmid_calm timeout index pairs
  have calm := amid fun _ => []
  simp only [playAmid_calm, playStepsAmid_calm, responds] at calm
  exact calm

end Exchange
end RelayBench
