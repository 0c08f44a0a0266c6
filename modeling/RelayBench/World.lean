import RelayBench.Log.Entry
import RelayBench.Net.Event

/-! The world of a program: the network, the log, the clock and the script of what happens while
the program waits. -/
namespace RelayBench

/-- All that surrounds a relay or a device. -/
structure World where
  net : Net := {}
  /-- The least weight that is written to the log. -/
  threshold : Int := Level.debug.weight
  log : List Entry := []
  /-- The limits of the readiness waits, in order. -/
  waits : List (Option Number) := []
  pauses : List Number := []
  /-- What happens during each of the next waits; there may be no script at all. -/
  script : Option (List (List Event)) := none
  /-- The order in which readiness is reported, as positions among so many ready things. -/
  order : Nat → List Nat := List.range
  /-- Whether the relay has been asked to stop. -/
  stopRequested : Bool := false

instance : Inhabited World := ⟨{}⟩

/-- Actions in a world; an action that raises a fault may still have changed the world. -/
abbrev Bench := EStateM Fault World

/-- Runs an action on a part of a state. -/
def onPart {σ τ α : Type} (part : σ → τ) (put : τ → σ → σ) (action : EStateM Fault τ α) :
    EStateM Fault σ α := fun state =>
  match action (part state) with
  | .ok a t => .ok a (put t state)
  | .error fault t => .error fault (put t state)

/-- An action that keeps its fault as a value. -/
def attempt {σ α : Type} (action : EStateM Fault σ α) : EStateM Fault σ (Except Fault α) :=
  fun state =>
    match action state with
    | .ok a state => .ok (.ok a) state
    | .error fault state => .ok (.error fault) state

/-- Network calls are actions in a world. -/
instance : MonadLift NetCall Bench :=
  ⟨onPart World.net fun net world => { world with net }⟩

namespace World

/-- Whether an entry is written: one without a weight above zero never is. -/
def keeps (world : World) (entry : Entry) : Bool :=
  decide (0 < entry.weight) && decide (world.threshold ≤ entry.weight)

def write (world : World) (entry : Entry) : World :=
  if world.keeps entry then { world with log := world.log ++ [entry] } else world

/-- The log as far as it comes from the library's own loggers. -/
def ownLog (world : World) : List Entry := world.log.filter fun entry => Logger.isOwn entry.logger

def emit (entry : Entry) : Bench Unit := modify fun world => world.write entry

/-- The fault of a pause: one below zero is none, and of the others the platform takes what it likes. -/
def pauseFault (world : World) (seconds : Number) : Option Fault :=
  if seconds.isNegative then some (.negativePause seconds) else world.net.platform.pauseFault seconds

/-- Pauses, and notes how long. -/
def pause (seconds : Number) : Bench Unit := fun world =>
  match world.pauseFault seconds with
  | some fault => .error fault world
  | none => .ok () { world with pauses := world.pauses ++ [seconds] }

def happen : Event → Bench Reply
  | .interrupt => throw .keyboardInterrupt
  | .shutdown => do
    modify fun world => { world with stopRequested := true }
    pure .ok
  | event => fun world =>
    let (reply, net) := world.net.apply event
    .ok reply { world with net }

/-- Lets events happen one after the other, up to the first that raises a fault. -/
def happenAll : List Event → Bench (List Reply)
  | [] => pure []
  | event :: rest => do
    let reply ← happen event
    let replies ← happenAll rest
    pure (reply :: replies)

/-- Lets the next item of the script happen; tells whether there was one. -/
def advanceScript : Bench Bool := do
  match (← get).script with
  | some (item :: rest) =>
    modify fun world => { world with script := some rest }
    let _ ← happenAll item
    pure true
  | _ => pure false

end World
end RelayBench
