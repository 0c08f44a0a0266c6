import RelayBench.Net.Link
import RelayBench.Net.Table

/-! The simulated network: doors, which are listening sockets, and links, in the order in which
they came to be.  Every call first takes its entry from the fault queue. -/
namespace RelayBench

structure Door where
  host : Host := .named ""
  port : Int := 0
  backlog : Option Int := some 0
  /-- Links that wait to be accepted, the oldest first. -/
  pending : List Nat := []
  isOpen : Bool := false
  isListening : Bool := false

instance : Inhabited Door := ⟨{}⟩

namespace Door

def isReachable (door : Door) : Bool := door.isOpen && door.isListening

end Door

structure Net where
  platform : Platform := {}
  doors : Table Door := {}
  doorCount : Nat := 0
  links : Table Link := {}
  linkCount : Nat := 0
  taken : List Int := []
  /-- Where the search for a free port begins. -/
  nextPort : Nat := 40001
  /-- How often a client has tried to connect. -/
  dialled : Nat := 0
  /-- Entries for the calls of the listening side and of the readiness wait. -/
  faults : FaultQueue := []

instance : Inhabited Net := ⟨{}⟩

/-- Who makes a call: the foreground never waits in a socket call, the background does. -/
inductive Caller where
  | foreground
  | background
  deriving DecidableEq, Repr

/-- Calls on the network; a call that raises a fault may still have changed the network. -/
abbrev NetCall := EStateM Fault Net

namespace Net

def link (net : Net) (index : Nat) : Link := net.links.get index

def door (net : Net) (index : Nat) : Door := net.doors.get index

def updateLink (net : Net) (index : Nat) (change : Link → Link) : Net :=
  { net with links := net.links.update index change }

def updateDoor (net : Net) (index : Nat) (change : Door → Door) : Net :=
  { net with doors := net.doors.update index change }

def doorIndices (net : Net) : List Nat := List.range net.doorCount

def linkIndices (net : Net) : List Nat := List.range net.linkCount

def addLink (net : Net) (link : Link) : Net :=
  { net with
    links := net.links.update net.linkCount fun _ => link
    linkCount := net.linkCount + 1 }

def linkOf? (net : Net) (client : String) : Option Nat :=
  net.linkIndices.reverse.find? fun index => (net.link index).stream.client == client

def isPortUsed (net : Net) (port : Int) : Bool :=
  net.taken.contains port ||
    net.doorIndices.any fun index =>
      (net.door index).isReachable && (net.door index).port == port

/-- The first free port from `port` on, in at most `limit` tries. -/
def freePort (net : Net) : (limit port : Nat) → Nat
  | 0, port => port
  | limit + 1, port => if net.isPortUsed port then net.freePort limit (port + 1) else port

def hasCaller (net : Net) (index : Nat) : Bool :=
  !(net.door index).pending.isEmpty || FaultQueue.holds net.faults .accept

def onLink {α : Type} (index : Nat) (call : Link → Except Fault α × Link) : NetCall α := fun net =>
  match call (net.link index) with
  | (.ok a, link) => .ok a (net.updateLink index fun _ => link)
  | (.error fault, link) => .error fault (net.updateLink index fun _ => link)

def onStream {α : Type} (index : Nat) (call : Stream → Except Fault α × Stream) : NetCall α :=
  onLink index fun link =>
    let (result, stream) := call link.stream
    (result, { link with stream })

def adoptLink (index : Nat) (limit : Option Number) : NetCall Unit := fun net =>
  onLink index (Link.adopt · net.platform limit) net

def readLink (index : Nat) (size : Int) : NetCall Reading := fun net =>
  let (reading, link) := (net.link index).read net.platform size
  .ok reading (net.updateLink index fun _ => link)

/-- Raises the fault of a value that the platform does not take. -/
def checked (answer : Platform → Option Fault) : NetCall Unit := fun net =>
  match answer net.platform with
  | some fault => .error fault net
  | none => .ok () net

/-- Takes the entry of a call of the listening side and raises its fault. -/
def queued (call : Call) : NetCall Unit := fun net =>
  let after := { net with faults := FaultQueue.drop net.faults call }
  match FaultQueue.next net.faults call with
  | some fault => .error fault after
  | none => .ok () after

def createDoor : NetCall Nat := do
  queued .socket
  let net ← get
  set { net with
    doors := net.doors.update net.doorCount fun _ => { isOpen := true }
    doorCount := net.doorCount + 1 }
  pure net.doorCount

/-- Gives a socket its address; port zero stands for the next free port. -/
def bindDoor (index : Nat) (host : Host) (port : Int) : NetCall Unit := do
  checked (Platform.hostFault · host)
  queued .bind
  let net ← get
  if port < 0 || 65535 < port then
    throw (.system .overflow [.text "bind(): port must be 0-65535."])
  else if port = 0 then
    let free := net.freePort (net.taken.length + net.doorCount + 1) net.nextPort
    set ({ net with nextPort := free + 1 }.updateDoor index fun door => { door with host, port := free })
  else if net.isPortUsed port then throw .addressInUse
  else set (net.updateDoor index fun door => { door with host, port })

def listenDoor (index : Nat) (backlog : Option Int) : NetCall Unit := do
  checked (Platform.backlogFault · backlog)
  queued .listen
  modify fun net => net.updateDoor index fun door => { door with backlog, isListening := true }

def dropPending (net : Net) (index : Nat) : Net :=
  (net.door index).pending.foldl
    (fun net pending => net.updateLink pending fun link =>
      { link with stream := { link.stream with isOpen := false } })
    (net.updateDoor index fun door => { door with pending := [] })

/-- Closes a door, which stays closed even when the call raises a fault. -/
def closeDoor (index : Nat) : NetCall Unit := do
  let net ← get
  if (net.door index).isOpen then
    set ((net.dropPending index).updateDoor index fun door => { door with isOpen := false })
    queued .close

def bindFault (host : Host) (port : Int) (fault : Fault) : Fault :=
  let reason := match fault.systemText with
    | some text => if text.isTruthy then text.display else fault.message
    | none => fault.message
  .harness .bind ("Cannot listen on " ++ host.text ++ ":" ++ toString port ++ ": " ++ reason)
    [("host", host.datum), ("port", .int port)] (some fault)

/-- Makes a socket, binds it and listens on it.  An operating system fault after its making closes
the socket and is reported with the address. -/
def openDoor (host : Host) (port : Int) (backlog : Option Int) : NetCall Nat := do
  let index ← createDoor
  try
    queued .setsockopt
    bindDoor index host port
    listenDoor index backlog
  catch fault =>
    if fault.isOs then
      closeDoor index
      throw (bindFault host port fault)
    else throw fault
  pure index

def accept (caller : Caller) (index : Nat) : NetCall Nat := do
  let net ← get
  if !(net.door index).isOpen then throw .badDescriptor
  queued .accept
  let net ← get
  match (net.door index).pending with
  | [] => throw (if caller = .background then .timedOut else .unavailable)
  | link :: rest =>
    set (net.updateDoor index fun door => { door with pending := rest })
    pure link

end Net
end RelayBench
