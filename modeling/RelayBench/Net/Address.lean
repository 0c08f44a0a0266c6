import RelayBench.Fault.Text

/-! Socket addresses: a host, a port and what else the address family may add. -/
namespace RelayBench

inductive Host where
  | named (name : String)
  /-- No name at all, shown as an empty list of names. -/
  | unnamed
  deriving DecidableEq, Repr

instance : Inhabited Host := ⟨.named ""⟩

namespace Host

def datum : Host → Datum
  | .named name => .text name
  | .unnamed => .list []

def text (host : Host) : String := host.datum.display

def isBlank (host : Host) : Bool := !host.datum.isTruthy

end Host

/-- A socket address; no address at all is the empty one. -/
abbrev Address := List Datum

namespace Address

def pair (host : String) (port : Int) : Address := [.text host, .int port]

/-- The address as host and port; an address that stops after the host has no text. -/
def text : Address → Except Fault String
  | [] => .ok "?"
  | [_] => .error (.system .index [.text "tuple index out of range"])
  | host :: port :: _ => .ok (host.display ++ ":" ++ port.display)

end Address
end RelayBench
