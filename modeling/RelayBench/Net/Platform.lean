import RelayBench.Net.Address

/-! What the platform below a network decides by itself: which values its calls take, whatever the
network is like, and whether a write comes back that nobody takes in. -/
namespace RelayBench

/-- The answers of a platform to the values that calls hand it.  A value that it takes has no fault.
A platform of which nothing is said takes them all, and all its writes come back. -/
structure Platform where
  /-- The fault of a host that is no address and no name of one. -/
  hostFault : Host → Option Fault := fun _ => none
  backlogFault : Option Int → Option Fault := fun _ => none
  /-- The fault of a limit to writes, in seconds. -/
  limitFault : Option Number → Option Fault := fun _ => none
  /-- The fault of a read of at most so many bytes. -/
  sizeFault : Int → Option Fault := fun _ => none
  /-- The fault of a pause of so many seconds that is not below zero. -/
  pauseFault : Number → Option Fault := fun _ => none
  /-- The kind and the arguments of the fault of a wait for at most so many seconds, above zero. -/
  waitFault : Number → Option (SystemFault × List Datum) := fun _ => none
  /-- Whether a write without a limit waits for its client, however long that takes. -/
  writesWait : Bool := false

instance : Inhabited Platform := ⟨{}⟩

namespace Platform

/-- Whether nothing but its client, or an interrupt, ends a write under a limit. -/
def isEndless (platform : Platform) (limit : Option Number) : Bool :=
  platform.writesWait && limit.isNone

end Platform
end RelayBench
