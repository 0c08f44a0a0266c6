import RelayBench.Net.Basic

/-! What may happen in the network besides the program's own calls. -/
namespace RelayBench

/-- An event of the network or of the person at the keyboard. -/
inductive Event where
  | connect (client : String) (address : Option Address) (window maxSend : Option Nat)
      (port : Option Int)
  | send (client : String) (bytes : Bytes)
  | close (client : String)
  | reset (client : String)
  | window (client : String) (size : Option Nat)
  | maxSend (client : String) (size : Option Nat)
  | grants (client : String) (sizes : List Nat)
  | fail (client : Option String) (call : Call) (faults : List (Option Fault))
  | taken (port : Int)
  | interrupt
  | shutdown

inductive Reply where
  | ok
  | refused
  | broken
  deriving DecidableEq, Repr

namespace Reply

def word : Reply → String
  | .ok => "ok"
  | .refused => "refused"
  | .broken => "broken"

end Reply

namespace Net

/-- The door a client reaches: the youngest that is reachable, on a given port if one is given. -/
def doorFor? (net : Net) (port : Option Int) : Option Nat :=
  net.doorIndices.reverse.find? fun index =>
    (net.door index).isReachable &&
      match port with
      | some port => (net.door index).port == port
      | none => true

/-- A client connects: its link waits at a door or is refused. -/
def connect (net : Net) (client : String) (address : Option Address) (window maxSend : Option Nat)
    (port : Option Int) : Reply × Net :=
  let net := { net with dialled := net.dialled + 1 }
  let stream : Stream :=
    { client
      address := address.getD (.pair "127.0.0.1" (50000 + net.dialled))
      window, maxSend }
  match net.doorFor? port with
  | some door =>
    let added := net.addLink { stream := { stream with isOpen := true } }
    (.ok, added.updateDoor door fun d => { d with pending := d.pending ++ [net.linkCount] })
  | none => (.refused, net.addLink { stream := { stream with far := .closed } })

/-- Changes the stream of a client, if there is such a client. -/
def changeStream (net : Net) (client : String) (change : Stream → Stream) : Net :=
  match net.linkOf? client with
  | some index => net.updateLink index fun link => { link with stream := change link.stream }
  | none => net

def apply (net : Net) : Event → Reply × Net
  | .connect client address window maxSend port => net.connect client address window maxSend port
  | .send client bytes =>
    match net.linkOf? client with
    | some index =>
      let (taken, stream) := (net.link index).stream.deliver bytes
      (if taken then .ok else .broken, net.updateLink index fun link => { link with stream })
    | none => (.broken, net)
  | .close client => (.ok, net.changeStream client Stream.farClose)
  | .reset client => (.ok, net.changeStream client Stream.farReset)
  | .window client size => (.ok, net.changeStream client fun s => { s with window := size })
  | .maxSend client size => (.ok, net.changeStream client fun s => { s with maxSend := size })
  | .grants client sizes => (.ok, net.changeStream client fun s => { s with grants := sizes })
  | .fail (some client) call faults =>
    (.ok, net.changeStream client fun s => { s with faults := FaultQueue.push s.faults call faults })
  | .fail none call faults => (.ok, { net with faults := FaultQueue.push net.faults call faults })
  | .taken port => (.ok, { net with taken := port :: net.taken })
  | .interrupt => (.ok, net)
  | .shutdown => (.ok, net)

end Net
end RelayBench
