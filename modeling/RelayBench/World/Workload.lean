import RelayBench.World

/-! How much there is left to do in a world.  The loops of the relay and of the device take the
measure as a bound on their number of actions. -/
namespace RelayBench

namespace Event

def workload : Event → Nat
  | .send _ bytes => bytes.length + 1
  | .fail _ _ faults => faults.length + 1
  | _ => 2

end Event

namespace World

def total (counts : List Nat) : Nat := counts.foldr (· + ·) 0

/-- How many items of work a world holds: bytes, queued faults, waiting links and what the script
brings.  Each iteration of a loop that can go on uses up at least one. -/
def workload (world : World) : Nat :=
  let scripted := total ((world.script.getD []).map fun item => 1 + total (item.map Event.workload))
  let stored := total (world.net.linkIndices.map fun index =>
    let stream := (world.net.link index).stream
    if stream.isOpen then stream.inbox.length + stream.faults.length + 1 else 0)
  let waiting := total (world.net.doorIndices.map fun index => (world.net.door index).pending.length)
  scripted + stored + waiting + world.net.faults.length

end World

end RelayBench
