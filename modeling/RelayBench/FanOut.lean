import RelayBench.Room

/-! Fan-out: one payload goes to every member but its source, in order.  A failed write is
recorded and the rest goes on; a recipient is dropped when it is gone or holds a part of the
payload only. -/
namespace RelayBench

structure FanOut where
  delivered : Nat := 0
  failures : List Fault := []
  dropped : List Nat := []
  deriving Inhabited

namespace FanOut

def isOk (fanOut : FanOut) : Bool := fanOut.failures.isEmpty

def text (fanOut : FanOut) : String :=
  "FanOutResult(delivered=" ++ toString fanOut.delivered ++ ", failures=" ++
    toString fanOut.failures.length ++ ", dropped=" ++ toString fanOut.dropped.length ++ ")"

def failure (peer : String) (payload : Bytes) (fault : Fault) : Fault :=
  .harness .fanOutWrite ("Write to " ++ peer ++ " failed")
    [("peer", .text peer), ("bytes", .int payload.length)] (some fault)

def deliver (payload : Bytes) (sofar : FanOut) (recipient : Nat) : RoomCall FanOut := do
  match ← attempt (liftM (Net.onLink recipient (Link.send · payload)) : RoomCall Unit) with
  | .ok () => pure { sofar with delivered := sofar.delivered + 1 }
  | .error fault =>
    if !fault.isOs then throw fault
    let link := (← get).link recipient
    let drops := fault.isClosed || link.broken
    let removed ← if drops then Room.remove recipient else pure false
    World.emit (.writeFailure Logger.fanOut link.name fault drops)
    pure
      { sofar with
        failures := sofar.failures ++ [failure link.name payload fault]
        dropped := if removed then sofar.dropped ++ [recipient] else sofar.dropped }

def run (payload : Bytes) (source : Nat) : RoomCall FanOut := do
  let room ← get
  let result ← (room.others source).foldlM (deliver payload) {}
  World.emit (.data Logger.fanOut
    ("Relayed " ++ toString payload.length ++ " bytes from " ++ (room.link source).name)
    (toString result.delivered ++ " recipients"))
  pure result

end FanOut
end RelayBench
