import RelayBench.World

/-! Listeners: one address to listen on, bound to a door while it is in use. -/
namespace RelayBench

/-- A listener; it has a door exactly while it is bound. -/
structure Listener where
  host : Host
  port : Int
  backlog : Option Int := some 128
  writeTimeout : Option Number := none
  door : Option Nat := none
  deriving Inhabited

namespace Listener

def isBound (listener : Listener) : Bool := listener.door.isSome

/-- The address listened on, with the port that was found free, or else the one asked for. -/
def address (listener : Listener) (net : Net) : Host × Int :=
  match listener.door with
  | some index => ((net.door index).host, (net.door index).port)
  | none => (listener.host, listener.port)

/-- Begins to listen unless the listener does already, and gives the bound listener. -/
def bind (listener : Listener) : Bench Listener := do
  match listener.door with
  | some _ => pure listener
  | none =>
    let index ← Net.openDoor listener.host listener.port listener.backlog
    let bound := { listener with door := some index }
    let (host, port) := bound.address (← get).net
    World.emit (.connection Logger.listener "Listening" host port)
    pure bound

def unbound (listener : Listener) : Fault :=
  .harness .notConnected "Listener is not bound" [("port", .int listener.port)] none

def descriptor (listener : Listener) : Bench Nat :=
  match listener.door with
  | some index => pure index
  | none => throw listener.unbound

/-- Accepts the oldest waiting link and gives it the write limit and its name. -/
def accept (listener : Listener) (caller : Caller) : Bench Nat := do
  let door ← listener.descriptor
  let link ← Net.accept caller door
  Net.adoptLink link listener.writeTimeout
  pure link

/-- Closes the door of a listener; the listener itself is unbound whatever comes of it. -/
def release (listener : Listener) : Bench Unit :=
  match listener.door with
  | some index => Net.closeDoor index
  | none => pure ()

def unbind (listener : Listener) : Listener := { listener with door := none }

end Listener
end RelayBench
