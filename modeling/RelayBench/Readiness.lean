import RelayBench.Room

/-! Readiness waits on a listener and the members of a room.  The watch set is made anew for every
wait; of what is reported ready the listener comes first, then the members in their order. -/
namespace RelayBench

inductive Watched where
  | door (index : Nat)
  | link (index : Nat)
  deriving DecidableEq, Repr

namespace Watched

def isDoor : Watched → Bool
  | .door _ => true
  | .link _ => false

def isReady (net : Net) : Watched → Bool
  | .door index => net.hasCaller index
  | .link index => (net.link index).stream.isReadable

end Watched

namespace Readiness

def invalidDescriptor : Fault := .invalidValue "Invalid file descriptor: -1"

def watch (listener : Listener) (members : List Nat) : Bench (List Watched) := do
  let door ← listener.descriptor
  let net := (← get).net
  if !(net.door door).isOpen || members.any (fun index => !(net.link index).hasDescriptor) then
    throw invalidDescriptor
  pure (.door door :: members.map .link)

def start (timeout : Option Number) : Bench Unit :=
  modify fun world => { world with waits := world.waits ++ [timeout] }

/-- The ready part of the watch set, in the order in which the network reports it. -/
def ready (world : World) (watched : List Watched) : List Watched :=
  let found := watched.filter (Watched.isReady world.net)
  (world.order found.length).filterMap (found[·]?)

/-- Ends a wait.  In the foreground the next item of the script happens first; a wait that nothing
can end is interrupted. -/
def poll (caller : Caller) (timeout : Option Number) (watched : List Watched) :
    Bench (List Watched) := do
  Net.queued .select
  match caller with
  | .background => pure (ready (← get) watched)
  | .foreground =>
    let scripted := (← get).script.isSome
    let advanced ← World.advanceScript
    let found := ready (← get) watched
    if !advanced && found.isEmpty && (timeout.isNone || scripted) then throw .keyboardInterrupt
    pure found

/-- The reported things in order: the listener's door, then the members. -/
def arrange (members : List Nat) (reported : List Watched) : List Watched :=
  (reported.find? Watched.isDoor).toList ++
    (members.filter fun index => reported.contains (.link index)).map .link

def finish (caller : Caller) (timeout : Option Number) (watched : List Watched) :
    RoomCall (List Watched) := do
  let reported ← poll caller timeout watched
  let result := arrange (← get).members reported
  World.emit (.debugging Logger.readiness "Readiness" (.text (toString result.length ++ " ready")))
  pure result

def wait (listener : Listener) (timeout : Option Number) : RoomCall (List Watched) := do
  let watched ← watch listener (← get).members
  start timeout
  finish .foreground timeout watched

end Readiness
end RelayBench
