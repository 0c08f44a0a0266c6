import RelayBench.Net.Stream
import RelayBench.Net.Transfer

/-! Links: streams together with what the program remembers of them.  A link is closed at most
once, and it is broken when a write failed after part of its bytes had gone out. -/
namespace RelayBench

/-- A stream with the name, the closing and the state of its writes as the program knows them. -/
structure Link where
  stream : Stream := {}
  name : String := ""
  closed : Bool := false
  broken : Bool := false

instance : Inhabited Link := ⟨{}⟩

namespace Link

/-- The link of a new stream: the write limit is set first, if the platform takes it, then the address
gives the name. -/
def adopt (link : Link) (platform : Platform) (limit : Option Number) : Except Fault Unit × Link :=
  match platform.limitFault limit with
  | some fault => (.error fault, link)
  | none =>
    let link := { link with stream := link.stream.limited platform limit }
    match Address.text link.stream.address with
    | .ok name => (.ok (), { link with name, closed := false, broken := false })
    | .error fault => (.error fault, link)

/-- Reads at most `size` bytes; a size that the platform does not take is a fault of the read. -/
def read (link : Link) (platform : Platform) (size : Int) : Reading × Link :=
  match platform.sizeFault size with
  | some fault => (.fault fault, link)
  | none =>
    let (reading, stream) := link.stream.read size.toNat
    (reading, { link with stream })

def outlet (link : Link) : Outlet Stream := { sink := link.stream, broken := link.broken }

/-- Writes all bytes or raises a fault, as the outlet of the link does. -/
def send (link : Link) (data : Bytes) : Except Fault Unit × Link :=
  let (result, outlet) := link.outlet.send Stream.write data
  (result, { link with stream := outlet.sink, broken := outlet.broken })

def close (link : Link) : Except Fault Unit × Link :=
  if link.closed then (.ok (), link)
  else
    let (result, stream) := link.stream.close
    (result, { link with stream, closed := true })

def hasDescriptor (link : Link) : Bool := link.stream.isOpen

def text (link : Link) : String :=
  "<Connection " ++ link.name ++ (if link.closed then " closed>" else " open>")

end Link
end RelayBench
