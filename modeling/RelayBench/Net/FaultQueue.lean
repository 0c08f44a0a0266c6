import RelayBench.Fault.Basic

/-! Queues of faults that a simulated network has in store for its calls.  Each call takes the next
entry of its own; an empty entry lets the call go on. -/
namespace RelayBench

/-- The calls that may be made to fail. -/
inductive Call where
  | socket
  | setsockopt
  | bind
  | listen
  | accept
  | close
  /-- A wait on a selector, which is made for that wait. -/
  | select
  | recv
  | send
  | shutdown
  deriving DecidableEq, Repr

namespace Call

def name : Call → String
  | .socket => "socket"
  | .setsockopt => "setsockopt"
  | .bind => "bind"
  | .listen => "listen"
  | .accept => "accept"
  | .close => "close"
  | .select => "select"
  | .recv => "recv"
  | .send => "send"
  | .shutdown => "shutdown"

def all : List Call :=
  [.socket, .setsockopt, .bind, .listen, .accept, .close, .select, .recv, .send, .shutdown]

def ofName? (name : String) : Option Call := all.find? fun call => call.name == name

end Call

/-- Entries for the calls to come, the oldest first. -/
abbrev FaultQueue := List (Call × Option Fault)

namespace FaultQueue

/-- Whether an entry for a call is waiting, empty or not. -/
def holds (queue : FaultQueue) (call : Call) : Bool := queue.any fun entry => entry.1 == call

/-- The fault that the next such call raises, if it raises one. -/
def next (queue : FaultQueue) (call : Call) : Option Fault :=
  (queue.find? fun entry => entry.1 == call).bind (·.2)

def drop (queue : FaultQueue) (call : Call) : FaultQueue :=
  queue.eraseP fun entry => entry.1 == call

def push (queue : FaultQueue) (call : Call) (faults : List (Option Fault)) : FaultQueue :=
  queue ++ faults.map (call, ·)

@[simp] theorem next_nil (call : Call) : FaultQueue.next [] call = none := rfl

@[simp] theorem drop_nil (call : Call) : FaultQueue.drop [] call = [] := rfl

@[simp] theorem holds_nil (call : Call) : FaultQueue.holds [] call = false := rfl

end FaultQueue
end RelayBench
