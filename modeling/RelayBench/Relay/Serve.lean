import RelayBench.Relay.Basic
import RelayBench.World.Workload

/-! The serving loop, one action at a time, in the foreground or in the background.  In the
background the loop parks in its readiness waits and in reads that find nothing, and goes on when
it is resumed; another thread may act wherever it stands between two actions. -/
namespace RelayBench

namespace Phase

def isStopped : Phase → Bool
  | .stopped _ => true
  | _ => false

def isParked : Phase → Bool
  | .waiting _ | .stalled _ | .stopped _ => true
  | _ => false

end Phase

namespace Relay

def announcement (event : String) (relay : Relay) : Entry :=
  let (host, port) := relay.address
  .connection Logger.relay event host port

def note (relay : Relay) (entry : Entry) : Relay :=
  { relay with room := { relay.room with world := relay.room.world.write entry } }

/-- Takes the loop on from an action: to a phase that depends on its result, or, after a fault,
to the end. -/
def advanceBy {α : Type} (action : RelayCall α) (next : α → Phase) (relay : Relay) :
    Phase × Relay :=
  match action relay with
  | .ok a relay => (next a, relay)
  | .error fault relay => (.stopping (some fault), relay)

/-- Tries to read a member; in the background a read that finds nothing stalls. -/
def advanceRead (caller : Caller) (source : Nat) (relay : Relay) : Phase × Relay :=
  match readMember source relay with
  | .error fault relay => (.stopping (some fault), relay)
  | .ok reading relay =>
    match caller, reading with
    | .background, .nothing => (.stalled source, relay)
    | _, reading => advanceBy (received source reading) (fun _ => .testing) relay

/-- Accepts a waiting link, which the loop lets in by its next action. -/
def advanceAccept (caller : Caller) (relay : Relay) : Phase × Relay :=
  match (liftM (relay.listener.accept caller) : RelayCall Nat) relay with
  | .ok link relay => (.admitting link, relay)
  | .error fault relay => advanceBy (turnAway fault) (fun _ => .testing) relay

/-- One action of the loop.  A wait is limited by `interval`. -/
def advance (caller : Caller) (interval : Option Number) : Phase → Relay → Phase × Relay
  | .binding, relay =>
    match bind relay with
    | .ok () relay => (.clearing, relay)
    | .error fault relay => (.stopped (some fault), relay)
  | .clearing, relay =>
    (.announcing,
      { relay with room := { relay.room with world := { relay.world with stopRequested := false } } })
  | .announcing, relay =>
    (.testing, { relay with serving := true }.note (relay.announcement "Relay serving"))
  | .testing, relay =>
    (if relay.world.stopRequested then .stopping none else .entering, relay)
  | .entering, relay => advanceBy (enter interval) .waiting relay
  | .waiting watched, relay =>
    match (Readiness.finish caller interval watched : RoomCall _) relay.room with
    | .error fault room => (.stopping (some fault), { relay with room })
    | .ok ready room =>
      let relay := { relay with room }
      match ready with
      | [] => (.testing, relay)
      | .door _ :: _ => advanceAccept caller relay
      | .link source :: _ => (.reading source, relay)
  | .admitting link, relay => advanceBy (letIn link) (fun _ => .testing) relay
  | .reading source, relay => advanceRead caller source relay
  | .stalled source, relay => advanceRead caller source relay
  | .stopping fault, relay =>
    (.stopped fault, { relay with serving := false }.note (relay.announcement "Relay stopped"))
  | .stopped fault, relay => (.stopped fault, relay)

def advanceToEnd (caller : Caller) (interval : Option Number) :
    (limit : Nat) → Phase → Relay → Phase × Relay
  | 0, phase, relay => (phase, relay)
  | limit + 1, phase, relay =>
    if phase.isStopped then (phase, relay)
    else
      let (phase, relay) := advance caller interval phase relay
      advanceToEnd caller interval limit phase relay

/-- Serves in the foreground until a request to stop, a fault or an interrupt.  An iteration takes
at most five actions and uses up some of the world's work. -/
def serve (interval : Option Number) : RelayCall Unit := fun relay =>
  let interval := interval <|> relay.settings.pollInterval
  let limit := 6 * (relay.world.workload + 4)
  match advanceToEnd .foreground interval limit .binding relay with
  | (.stopped (some fault), relay) => .error fault relay
  | (_, relay) => .ok () relay

/-- Actions of a background loop until it parks, `limit` of them at most. -/
def advanceToPark (interval : Option Number) : (limit : Nat) → Phase → Relay → Phase × Relay
  | 0, phase, relay => (phase, relay)
  | limit + 1, phase, relay =>
    if phase.isParked then (phase, relay)
    else
      let (phase, relay) := advance .background interval phase relay
      advanceToPark interval limit phase relay

/-- Runs a background loop from where it stands until it parks; between two parks lie six actions
at most. -/
def runLoop (phase : Phase) (relay : Relay) : Relay :=
  let interval := relay.settings.pollInterval
  let (phase, relay) := advance .background interval phase relay
  let (phase, relay) := advanceToPark interval 6 phase relay
  { relay with loop := some phase }

def resume (relay : Relay) : Relay :=
  match relay.loop with
  | some phase => runLoop phase relay
  | none => relay

def loopEnded (relay : Relay) : Bool :=
  match relay.loop with
  | some phase => phase.isStopped
  | none => true

def loopFault (relay : Relay) : Option Fault :=
  match relay.loop with
  | some (.stopped fault) => fault
  | _ => none

def awaitLoop : (limit : Nat) → Relay → Relay
  | 0, relay => relay
  | limit + 1, relay => if relay.loopEnded then relay else awaitLoop limit relay.resume

/-- Binds the listener and starts a background loop, which runs until it parks. -/
def start : RelayCall Unit := do
  if (← get).started then throw (.system .runtime [.text "Relay already started"])
  bind
  modify fun relay => runLoop .binding { relay with started := true }

def stop : RelayCall Unit := do
  shutdown
  modify fun relay =>
    if relay.started then
      { awaitLoop (relay.world.workload + 2) relay with started := false }
    else relay
  close

/-- Stops a relay whose background loop does not come to its end in time: the loop goes on by itself. -/
def abandon : RelayCall Unit := do
  shutdown
  modify fun relay => { relay with started := false }
  close

/-- Leaves the relay: a background loop is stopped, and everything is closed. -/
def leave : RelayCall Unit := do
  if (← get).started then stop else close

/-- Serves a relay in the foreground; an interrupt ends it, and everything is closed at the end. -/
def foreground : RelayCall Unit := do
  bind
  match ← attempt (serve none) with
  | .ok () => close
  | .error fault =>
    if fault.kind.under (.system .keyboardInterrupt) then
      World.emit (.plain .info Logger.relay "KeyboardInterrupt. Exiting")
      close
    else
      close
      throw fault

end Relay
end RelayBench
