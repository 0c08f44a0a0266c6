import RelayBench.World

/-! Polling: a call is tried until it returns something, with a pause after each failed attempt.
Chosen faults count as failed attempts, all others end the search. -/
namespace RelayBench

inductive Attempt where
  | returned (value : Datum)
  | raised (fault : Fault)

/-- A search under way: the world around it, and how many attempts it has made. -/
structure Polling where
  world : World := {}
  calls : Nat := 0

abbrev PollCall := EStateM Fault Polling

/-- Actions in a world are actions of a search in it. -/
instance : MonadLift Bench PollCall :=
  ⟨onPart Polling.world fun world polling => { polling with world }⟩

structure PollPlan where
  retries : Int := 1000
  delay : Number := .float (.ofDecimal false 1 (-2))
  ignored : List FaultKind := [.system .os]

namespace PollPlan

def ignores (plan : PollPlan) (fault : Fault) : Bool := plan.ignored.any fault.kind.under

/-- The fault of a search without success; only a general fault becomes its cause. -/
def exceeded (plan : PollPlan) (last : Option Fault) : Fault :=
  .harness .retriesExceeded "Retries exceeded"
    [("retries", .int plan.retries), ("delay", plan.delay.toDatum),
     ("last_error", match last with | some fault => .fault fault | none => .none)]
    (last.filter Fault.isGeneral)

/-- Makes the next attempt. -/
def call (attempts : Nat → Attempt) : PollCall Datum := do
  let index := (← get).calls
  modify fun polling => { polling with calls := index + 1 }
  match attempts index with
  | .returned value => pure value
  | .raised fault => throw fault

/-- The rest of a search with `remaining` attempts.  Every attempt that fails is followed by a pause,
the last one too. -/
def search (plan : PollPlan) (attempts : Nat → Attempt) :
    (remaining : Nat) → (last : Option Fault) → PollCall Datum
  | 0, last => throw (plan.exceeded last)
  | remaining + 1, last => do
    match ← attempt (call attempts) with
    | .ok value =>
      if value.isTruthy then pure value
      else
        World.pause plan.delay
        search plan attempts remaining last
    | .error fault =>
      if plan.ignores fault then
        World.pause plan.delay
        search plan attempts remaining (some fault)
      else throw fault

def run (plan : PollPlan) (attempts : Nat → Attempt) : PollCall Datum :=
  plan.search attempts plan.retries.toNat none

end PollPlan

namespace Attempt

/-- Attempts from a list; after its end an attempt does `default`. -/
def sequence (attempts : List Attempt) (default : Attempt) (index : Nat) : Attempt :=
  attempts.getD index default

def dial : Option Fault → Attempt
  | none => .returned (.bool true)
  | some fault => .raised fault

end Attempt

def dialTimeout : Number := .float (.ofDecimal false 1 0)

def foundEntry (host : String) (port : Int) : Entry :=
  .plain .debug Logger.polling (host ++ ":" ++ toString port ++ " is accepting connections")

/-- Searches for a listener until a connection to it succeeds; after the listed attempts every one does. -/
def awaitListener (plan : PollPlan) (host : String) (port : Int) (dials : List (Option Fault)) :
    PollCall Unit := do
  let _ ← plan.run (Attempt.sequence (dials.map Attempt.dial) (.dial none))
  World.emit (foundEntry host port)

end RelayBench
