import RelayBench.Net.FaultQueue
import RelayBench.Net.Platform

/-! Byte streams between a client and the program, seen from the program's end.  A stream keeps
what the client has sent and the program has not read, and all that the program has written. -/
namespace RelayBench

/-- What the client has done with its end. -/
inductive FarEnd where
  | opened
  | closed
  | reset
  deriving DecidableEq, Repr

/-- The program's end of a stream. -/
structure Stream where
  /-- The client's name in the events of the network. -/
  client : String := ""
  address : Address := []
  /-- Sent by the client and not read yet. -/
  inbox : Bytes := []
  /-- Written by the program, from the first byte on. -/
  outbox : Bytes := []
  /-- How many more bytes the client lets in; no number means no limit. -/
  window : Option Nat := none
  /-- How many bytes each of the next writes may take, or puts out before its fault. -/
  grants : List Nat := []
  /-- How many bytes a write may take after those. -/
  maxSend : Option Nat := none
  far : FarEnd := .opened
  isOpen : Bool := false
  /-- The limit in seconds that the program has set. -/
  timeout : Option Number := none
  /-- Whether a write under this limit waits for the client, however long that takes. -/
  endless : Bool := false
  faults : FaultQueue := []

instance : Inhabited Stream := ⟨{}⟩

/-- The outcome of a read: bytes, none of them when the client has closed its end, a fault, or
nothing to be had yet. -/
inductive Reading where
  | bytes (bytes : Bytes)
  | fault (fault : Fault)
  | nothing

namespace Stream

/-- The stream after a call has taken its entry from the fault queue. -/
def called (stream : Stream) (call : Call) : Stream :=
  { stream with faults := FaultQueue.drop stream.faults call }

def read (stream : Stream) (size : Nat) : Reading × Stream :=
  if !stream.isOpen then (.fault .badDescriptor, stream)
  else
    let after := stream.called .recv
    match FaultQueue.next stream.faults .recv with
    | some fault => (.fault fault, after)
    | none =>
      match stream.far, stream.inbox with
      | .reset, _ => (.fault .connectionReset, after)
      | .closed, [] => (.bytes [], after)
      | .opened, [] => (.nothing, after)
      | _, inbox => (.bytes (inbox.take size), { after with inbox := inbox.drop size })

/-- The most that the next write takes of `length` bytes, were the window open; a limit of zero
counts as one, so that a write always gets on. -/
def grant (stream : Stream) (length : Nat) : Nat :=
  match stream.grants, stream.maxSend with
  | limit :: _, _ => min length (max 1 limit)
  | [], some limit => min length (max 1 limit)
  | [], none => length

/-- How many of `length` bytes the next write takes. -/
def quota (stream : Stream) (length : Nat) : Nat :=
  match stream.window with
  | some window => min (stream.grant length) window
  | none => stream.grant length

def taking (stream : Stream) (bytes : Bytes) : Stream :=
  { stream with
    outbox := stream.outbox ++ bytes
    window := stream.window.map (· - bytes.length)
    grants := stream.grants.tail }

/-- Puts writes under a limit. -/
def limited (stream : Stream) (platform : Platform) (limit : Option Number) : Stream :=
  { stream with timeout := limit, endless := platform.isEndless limit }

/-- What ends a write to a client that lets nothing in: its limit, or an interrupt if it has none. -/
def stall (stream : Stream) : Fault := if stream.endless then .keyboardInterrupt else .timedOut

/-- One write: it takes some of the bytes and tells how many, or raises a fault and takes none. -/
def write (stream : Stream) (data : Bytes) : Except Fault Nat × Stream :=
  if !stream.isOpen then (.error .badDescriptor, stream)
  else
    let after := stream.called .send
    match FaultQueue.next stream.faults .send with
    | some fault => (.error fault, after)
    | none =>
      if stream.far ≠ .opened then (.error .brokenPipe, after)
      else if stream.window = some 0 then (.error stream.stall, after)
      else
        let count := stream.quota data.length
        (.ok count, after.taking (data.take count))

/-- A write that takes all bytes or raises a fault; a queued fault may come when some bytes are out. -/
def writeAll (stream : Stream) (data : Bytes) : Except Fault Unit × Stream :=
  if !stream.isOpen then (.error .badDescriptor, stream)
  else
    let after := stream.called .send
    match FaultQueue.next stream.faults .send with
    | some fault =>
      let first := data.take (stream.grants.headD 0)
      (.error fault, { after with outbox := after.outbox ++ first, grants := stream.grants.tail })
    | none =>
      if stream.far ≠ .opened then (.error .brokenPipe, after)
      else (.ok (), { after with outbox := after.outbox ++ data })

def shutdown (stream : Stream) : Except Fault Unit × Stream :=
  if !stream.isOpen then (.error .badDescriptor, stream)
  else
    let after := stream.called .shutdown
    match FaultQueue.next stream.faults .shutdown with
    | some fault => (.error fault, after)
    | none => if stream.far ≠ .opened then (.error .notConnected, after) else (.ok (), after)

/-- Closes the program's end, which stays closed even when the call raises a fault. -/
def close (stream : Stream) : Except Fault Unit × Stream :=
  if !stream.isOpen then (.ok (), stream)
  else
    let after := { stream.called .close with isOpen := false }
    match FaultQueue.next stream.faults .close with
    | some fault => (.error fault, after)
    | none => (.ok (), after)

def isReadable (stream : Stream) : Bool :=
  !stream.inbox.isEmpty || stream.far != .opened || FaultQueue.holds stream.faults .recv

/-- The client sends bytes; whether they could be taken in. -/
def deliver (stream : Stream) (bytes : Bytes) : Bool × Stream :=
  if stream.isOpen && stream.far == .opened then
    (true, { stream with inbox := stream.inbox ++ bytes })
  else (false, stream)

/-- The client closes its end; a reset stream stays reset. -/
def farClose (stream : Stream) : Stream :=
  { stream with far := if stream.far = .reset then .reset else .closed }

/-- The client resets the stream, which drops what the program has not read. -/
def farReset (stream : Stream) : Stream := { stream with far := .reset, inbox := [] }

@[simp] theorem called_isOpen (stream : Stream) (call : Call) :
    (stream.called call).isOpen = stream.isOpen := rfl

@[simp] theorem called_outbox (stream : Stream) (call : Call) :
    (stream.called call).outbox = stream.outbox := rfl

@[simp] theorem taking_isOpen (stream : Stream) (bytes : Bytes) :
    (stream.taking bytes).isOpen = stream.isOpen := rfl

@[simp] theorem taking_outbox (stream : Stream) (bytes : Bytes) :
    (stream.taking bytes).outbox = stream.outbox ++ bytes := rfl

/-- A closed end stays closed. -/
theorem close_isOpen (stream : Stream) : stream.close.2.isOpen = false := by
  unfold close
  split
  · simp_all
  · split <;> rfl

theorem grant_le (stream : Stream) (length : Nat) : stream.grant length ≤ length := by
  unfold grant
  split <;> omega

theorem quota_le (stream : Stream) (length : Nat) : stream.quota length ≤ length := by
  have := stream.grant_le length
  unfold quota
  split <;> omega

theorem grant_pos (stream : Stream) {length : Nat} (h : 0 < length) : 0 < stream.grant length := by
  unfold grant
  split <;> omega

/-- An open window lets every write of some bytes take at least one. -/
theorem quota_pos (stream : Stream) {length : Nat} (h : 0 < length) (hw : stream.window ≠ some 0) :
    0 < stream.quota length := by
  have := stream.grant_pos h
  unfold quota
  split
  · next window hwindow =>
    have : window ≠ 0 := fun h0 => hw (h0 ▸ hwindow)
    omega
  · omega

end Stream
end RelayBench
