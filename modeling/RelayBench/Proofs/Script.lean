import RelayBench.Proofs.Action
import RelayBench.Proofs.Net.Event

/-! Scripts: what happens while a call waits.  The events of an item happen one after the other, up to
an interrupt. -/
namespace RelayBench

namespace Event

/-- Whether the event is an interrupt, behind which nothing more of a script item happens. -/
def interrupts : Event → Bool
  | .interrupt => true
  | _ => false

def stops : Event → Bool
  | .shutdown => true
  | _ => false

end Event

namespace World

/-- The part of a script item that happens: all up to the first interrupt. -/
def heard (events : List Event) : List Event := events.takeWhile fun event => !event.interrupts

/-- All events that a script has in store are of some kind. -/
def Scripted (kind : Event → Prop) (world : World) : Prop :=
  ∀ items, world.script = some items → ∀ item ∈ items, ∀ event ∈ item, kind event

/-- What the next item of the script lets happen. -/
def next (world : World) : List Event :=
  match world.script with
  | some (item :: _) => heard item
  | _ => []

def rest (world : World) : Option (List (List Event)) :=
  match world.script with
  | some (_ :: rest) => some rest
  | script => script

theorem happen_ok (world : World) {event : Event} (quiet : event.interrupts = false) :
    happen event world = .ok (world.net.apply event).1
      { world with
        net := (world.net.apply event).2
        stopRequested := event.stops || world.stopRequested } := by
  cases event with
  | interrupt => simp [Event.interrupts] at quiet
  | _ => rfl

theorem happen_state (world : World) (event : Event) :
    ∃ stop, Action.state (happen event world) =
      { world with net := (world.net.apply event).2, stopRequested := stop } := by
  cases quiet : event.interrupts with
  | true =>
    cases event <;> simp [Event.interrupts] at quiet
    exact ⟨world.stopRequested, rfl⟩
  | false => exact ⟨_, by rw [world.happen_ok quiet, Action.state_ok]⟩

theorem happen_failed {world after : World} {event : Event} {fault : Fault}
    (failed : happen event world = .error fault after) : fault = .keyboardInterrupt := by
  cases event <;> cases failed
  rfl

/-- A script item happens up to its first interrupt, which ends the wait. -/
theorem happenAll_cases (world : World) (events : List Event) :
    ∃ stop, (events.any Event.interrupts = false ∧ ∃ replies, happenAll events world =
        .ok replies { world with net := world.net.applyAll (heard events), stopRequested := stop }) ∨
      (events.any Event.interrupts = true ∧ happenAll events world = .error .keyboardInterrupt
        { world with net := world.net.applyAll (heard events), stopRequested := stop }) := by
  induction events generalizing world with
  | nil => exact ⟨world.stopRequested, .inl ⟨rfl, [], rfl⟩⟩
  | cons event rest ih =>
    cases quiet : event.interrupts with
    | true =>
      have none : heard (event :: rest) = [] := by simp [heard, quiet]
      have raised : happen event world = .error .keyboardInterrupt world := by
        cases event <;> first | rfl | simp [Event.interrupts] at quiet
      refine ⟨world.stopRequested, .inr ⟨by simp [quiet], ?_⟩⟩
      rw [happenAll, Action.bind_error raised, none]
      rfl
    | false =>
      have happened := world.happen_ok quiet
      have more : heard (event :: rest) = event :: heard rest := by simp [heard, quiet]
      generalize later : { world with
        net := (world.net.apply event).2
        stopRequested := event.stops || world.stopRequested } = middle at happened
      have final (stop : Bool) :
          { middle with net := middle.net.applyAll (heard rest), stopRequested := stop } =
            { world with net := world.net.applyAll (heard (event :: rest)), stopRequested := stop } := by
        subst later
        rw [more]
        rfl
      obtain ⟨stop, ⟨clear, replies, ran⟩ | ⟨cut, ran⟩⟩ := ih middle
      · refine ⟨stop, .inl ⟨by simpa [quiet] using clear, (world.net.apply event).1 :: replies, ?_⟩⟩
        rw [happenAll, Action.bind_ok happened, Action.bind_ok ran, final]
        rfl
      · refine ⟨stop, .inr ⟨by simp [cut], ?_⟩⟩
        rw [happenAll, Action.bind_ok happened, Action.bind_error ran, final]

theorem advanceScript_state (world : World) :
    ∃ stop, Action.state (advanceScript world) =
      { world with net := world.net.applyAll world.next, script := world.rest, stopRequested := stop } := by
  have still (ran : advanceScript world = .ok false world) (none : world.next = [])
      (same : world.rest = world.script) : Action.state (advanceScript world) =
        { world with net := world.net.applyAll world.next, script := world.rest } := by
    rw [ran, none, same]
    rfl
  rcases script : world.script with _ | _ | ⟨item, rest⟩
  · exact ⟨world.stopRequested, still (by simp [advanceScript, script]) (by simp [next, script])
      (by simp [World.rest, script])⟩
  · exact ⟨world.stopRequested, still (by simp [advanceScript, script]) (by simp [next, script])
      (by simp [World.rest, script])⟩
  · obtain ⟨stop, ⟨_, replies, ran⟩ | ⟨_, ran⟩⟩ := happenAll_cases { world with script := some rest } item <;>
      exact ⟨stop, by simp [advanceScript, script, ran, next, World.rest]⟩

theorem advanceScript_failed {world after : World} {fault : Fault}
    (failed : advanceScript world = .error fault after) : fault = .keyboardInterrupt := by
  rcases script : world.script with _ | _ | ⟨item, rest⟩
  · simp [advanceScript, script] at failed
  · simp [advanceScript, script] at failed
  · obtain ⟨stop, ⟨_, replies, ran⟩ | ⟨_, ran⟩⟩ := happenAll_cases { world with script := some rest } item
    · simp [advanceScript, script, ran] at failed
    · simp only [advanceScript, script, Action.bind_apply, Action.get_apply, Action.modify_apply, ran,
        EStateM.Result.error.injEq] at failed
      exact failed.1.symm

section

variable {kind : Event → Prop} {world : World} (scripted : world.Scripted kind)
include scripted

theorem next_kind : ∀ event ∈ world.next, kind event := by
  intro event comes
  unfold next at comes
  split at comes
  next item rest script =>
    exact scripted _ script item (by simp) event ((List.takeWhile_sublist _).subset comes)
  · simp at comes

theorem rest_scripted {after : World} (script : after.script = world.rest) : after.Scripted kind := by
  intro items found item member
  rw [script, rest] at found
  split at found
  next first rest before =>
    cases found
    exact scripted _ before item (by simp [member])
  · exact scripted items found item member

end

end World
end RelayBench
