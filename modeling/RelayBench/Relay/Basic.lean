import RelayBench.FanOut
import RelayBench.Readiness
import RelayBench.Settings

/-! The relay: what it holds, and one iteration of its loop.  An iteration accepts one link, or
reads one member and hands the bytes to all others, or lets one member go. -/
namespace RelayBench

inductive Outcome where
  /-- No link came or went and nothing was read. -/
  | idle
  | accepted (link : Nat)
  /-- Bytes were read from a member and handed to all others. -/
  | broadcast (source : Nat) (payload : Bytes)
  /-- A member from which nothing more can be read was let go. -/
  | disconnected (link : Nat)
  deriving DecidableEq, Repr

namespace Outcome

def word : Outcome → String
  | .idle => "idle"
  | .accepted _ => "accepted"
  | .broadcast _ _ => "broadcast"
  | .disconnected _ => "disconnected"

end Outcome

inductive Phase where
  | binding
  /-- About to forget earlier requests to stop. -/
  | clearing
  /-- About to announce that the relay serves. -/
  | announcing
  /-- About to look for a request to stop. -/
  | testing
  | entering
  /-- In the readiness wait of an iteration. -/
  | waiting (watched : List Watched)
  /-- About to let in a link that was accepted. -/
  | admitting (link : Nat)
  | reading (source : Nat)
  /-- In a read of a member that has nothing to read. -/
  | stalled (source : Nat)
  /-- Past the loop, about to announce the end. -/
  | stopping (fault : Option Fault)
  | stopped (fault : Option Fault)

structure Relay where
  settings : RelaySettings
  listener : Listener
  room : Room
  accepted : Nat := 0
  disconnected : Nat := 0
  bytesRelayed : Nat := 0
  writeFailures : Nat := 0
  lastFanOut : Option FanOut := none
  serving : Bool := false
  /-- Whether a started background loop has not been stopped yet. -/
  started : Bool := false
  /-- Where the background loop that was started last stands. -/
  loop : Option Phase := none
  deriving Inhabited

abbrev RelayCall := EStateM Fault Relay

/-- Actions in a room are actions of a relay. -/
instance : MonadLift RoomCall RelayCall :=
  ⟨onPart Relay.room fun room relay => { relay with room }⟩

namespace Relay

def ofSettings (settings : RelaySettings) (world : World) : Relay :=
  { settings
    listener :=
      { host := settings.host
        port := settings.port
        backlog := settings.backlog
        writeTimeout := settings.writeTimeout }
    room := { world } }

/-- A relay from settings whose host and port may be overridden, or from the environment. -/
def make (settings : Option RelaySettings) (host : Option Host) (port : Option Int)
    (env : Environment) (world : World) : Except Fault Relay :=
  match settings with
  | some given =>
    .ok (ofSettings { given with host := host.getD given.host, port := port.getD given.port } world)
  | none =>
    match RelaySettings.make { host, port } env with
    | .ok settings => .ok (ofSettings settings world)
    | .error fault => .error fault

def world (relay : Relay) : World := relay.room.world

def members (relay : Relay) : List Nat := relay.room.members

def address (relay : Relay) : Host × Int := relay.listener.address relay.world.net

def bind : RelayCall Unit := do
  let bound ← (← get).listener.bind
  modify fun relay => { relay with listener := bound }

/-- Begins the wait of an iteration, which only a bound relay can. -/
def enter (timeout : Option Number) : RelayCall (List Watched) := do
  let relay ← get
  if !relay.listener.isBound then
    throw (.harness .notConnected "Relay is not bound"
      [("host", relay.settings.host.datum), ("port", .int relay.settings.port)] none)
  let watched ← Readiness.watch relay.listener relay.members
  Readiness.start timeout
  pure watched

/-- Lets a link in that was accepted. -/
def letIn (index : Nat) : RelayCall Outcome := do
  Room.add index
  modify fun relay => { relay with accepted := relay.accepted + 1 }
  let relay ← get
  World.emit (.peers Logger.relay "Peer connected" (relay.room.link index).name
    (some relay.members.length))
  pure (.accepted index)

/-- Goes on after an accept that failed; an operating system fault goes to the log. -/
def turnAway (fault : Fault) : RelayCall Outcome := do
  if !fault.isOs then throw fault
  World.emit (.plain .warning Logger.relay ("Accept failed: " ++ fault.message))
  pure .idle

/-- Accepts a waiting link and lets it in. -/
def welcome (caller : Caller) : RelayCall Outcome := do
  match ← attempt (liftM ((← get).listener.accept caller) : RelayCall Nat) with
  | .ok index => letIn index
  | .error fault => turnAway fault

def disconnect (index : Nat) : RelayCall Outcome := do
  if ← Room.remove index then
    modify fun relay => { relay with disconnected := relay.disconnected + 1 }
    let relay ← get
    World.emit (.peers Logger.relay "Peer disconnected" (relay.room.link index).name
      (some relay.members.length))
  pure (.disconnected index)

def reportDropped (index : Nat) : RelayCall Unit := do
  let relay ← get
  World.emit (.peers Logger.relay "Peer dropped" (relay.room.link index).name
    (some relay.members.length))

def broadcast (source : Nat) (payload : Bytes) : RelayCall Unit := do
  let name := ((← get).room.link source).name
  World.emit (.data Logger.relay ("Read " ++ toString payload.length ++ " bytes") name)
  let result ← FanOut.run payload source
  modify fun relay =>
    { relay with
      bytesRelayed := relay.bytesRelayed + payload.length * result.delivered
      writeFailures := relay.writeFailures + result.failures.length
      disconnected := relay.disconnected + result.dropped.length }
  result.dropped.forM reportDropped
  modify fun relay => { relay with lastFanOut := some result }

def readWarning (name : String) (fault : Fault) : Entry :=
  .plain .warning Logger.relay
    (Fault.harness .disconnect ("Read from " ++ name ++ " failed") [("peer", .text name)]
      (some fault)).message

/-- Goes on after a read of a member.  A member that reads nothing, at its end or by an operating
system fault, is let go. -/
def received (source : Nat) (reading : Reading) : RelayCall Outcome := do
  match reading with
  | .bytes [] => disconnect source
  | .bytes payload =>
    broadcast source payload
    pure (.broadcast source payload)
  | .nothing =>
    World.emit (readWarning ((← get).room.link source).name .unavailable)
    disconnect source
  | .fault fault =>
    if !fault.isOs then throw fault
    World.emit (readWarning ((← get).room.link source).name fault)
    disconnect source

def readMember (source : Nat) : RelayCall Reading := do
  Net.readLink source (← get).settings.recvSize

def service (ready : List Watched) : RelayCall Outcome :=
  match ready with
  | [] => pure .idle
  | .door _ :: _ => welcome .foreground
  | .link source :: _ => do received source (← readMember source)

def step (timeout : Option Number) : RelayCall Outcome := do
  let watched ← enter timeout
  let ready ← Readiness.finish .foreground timeout watched
  service ready

def shutdown : RelayCall Unit :=
  modify fun relay =>
    { relay with room := { relay.room with world := { relay.world with stopRequested := true } } }

/-- Closes all members. -/
def dismiss : RelayCall Unit := do
  let closed ← Room.closeAll
  if closed ≠ 0 then
    World.emit (.peers Logger.relay ("Closed " ++ toString closed ++ " remaining peers") "" (some 0))

/-- Stops listening; the listener is unbound whatever comes of it. -/
def unlisten : RelayCall Unit := do
  let listener := (← get).listener
  modify fun relay => { relay with listener := relay.listener.unbind }
  listener.release

def close : RelayCall Unit := do
  dismiss
  unlisten

def text (relay : Relay) : String :=
  let (host, port) := relay.address
  "<RelayServer " ++ host.text ++ ":" ++ toString port ++ " peers=" ++
    toString relay.members.length ++ ">"

end Relay
end RelayBench
