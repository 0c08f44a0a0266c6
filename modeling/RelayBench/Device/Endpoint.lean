import RelayBench.Device.Reader

/-! What the foreground does with a device: start it, wait, take chunks, write and close.  While
the foreground waits, the items of the script happen one by one and the reader is resumed after
each. -/
namespace RelayBench

/-- Where a thread that closes a device stands. -/
inductive ClosingPhase where
  /-- About to mark the device as closed. -/
  | marking
  /-- About to ask the reader to end. -/
  | signalling
  | looking
  | shutting (link : Nat)
  | closing (link : Nat)
  /-- Waiting for the end of the reader. -/
  | joining
  | ended (fault : Option Fault)

namespace Device

/-- Starts to listen and starts the reader, which runs until it parks. -/
def connect : DeviceCall Unit := do
  let device ← get
  if device.reader.isSome then throw (.system .runtime [.text "Mock device already started"])
  let door ← Net.openDoor device.host device.port (some 1)
  let opened := ((← get).world.net.door door)
  modify fun device => { device with door := some door, address := (opened.host, opened.port) }
  modify fun device => device.note (.device Logger.device "Listening" device.addressText)
  modify (runReader .testing)

def waits : Option Number → Bool
  | none => true
  | some seconds => seconds.isPositive

/-- Waits for something.  When the script is over, a wait without a limit is interrupted and one
with a limit runs out. -/
def awaitItems (isThere : Device → Bool) (timeout : Option Number) : (items : Nat) → DeviceCall Bool
  | 0 => do
    if isThere (← get) then pure true
    else if timeout.isNone then throw .keyboardInterrupt
    else pure false
  | items + 1 => do
    if isThere (← get) then pure true
    else if waits timeout then
      let _ ← World.advanceScript
      modify resume
      awaitItems isThere timeout items
    else pure false

/-- The fault of a limit that the platform cannot wait for, if there is a wait. -/
def waitFault (device : Device) (isThere : Device → Bool) (timeout : Option Number) : Option Fault :=
  if isThere device || !waits timeout then none
  else (timeout.bind device.world.net.platform.waitFault).map fun (kind, arguments) => .system kind arguments

def await (isThere : Device → Bool) (timeout : Option Number) : DeviceCall Bool := do
  let device ← get
  match device.waitFault isThere timeout with
  | some fault => throw fault
  | none => awaitItems isThere timeout (device.world.script.getD []).length

def hasItem (device : Device) : Bool := !device.queue.isEmpty

def awaitPeer (timeout : Option Number) : DeviceCall Unit := do
  if !(← await Device.announced timeout) then
    throw (.harness .timeout "No connection to mock device"
      [("port", .int (← get).address.2), ("timeout", Number.limitDatum timeout)] none)

def streamEnded (device : Device) : Fault :=
  match device.peer.text with
  | .ok peer => .harness .deviceClosed "Mock device stream ended" [("peer", .text peer)] none
  | .error fault => fault

/-- Takes the next chunk.  A limit below zero is refused even when a chunk is there.  A chunk that is
there is taken before a deadline, which is a floating-point number, so that an integer beyond these
leaves the chunk in the queue.  The mark of the end stays in the queue for whoever comes later. -/
def receive (timeout : Option Number) : DeviceCall Bytes := do
  if timeout.any Number.isNegative then
    throw (.invalidValue "'timeout' must be a non-negative number")
  if !(← await hasItem timeout) then
    throw (.harness .timeout "Nothing received from peer"
      [("timeout", Number.limitDatum timeout)] none)
  if timeout.any Number.isBeyondFloats then
    throw (.system .overflow [.text "int too large to convert to float"])
  let device ← get
  match device.queue with
  | some chunk :: rest =>
    set { device with queue := rest }
    pure chunk
  | none :: rest =>
    set { device with queue := rest ++ [none] }
    throw device.streamEnded
  | [] => throw device.streamEnded

/-- The bytes that a caller means, or the fault of meaning none. -/
def bytesOf (source : ByteSource) : DeviceCall Bytes :=
  match source.toBytes with
  | .ok bytes => pure bytes
  | .error fault => throw fault

def writeFault (device : Device) (fault : Fault) : Fault :=
  match device.peer.text with
  | .ok peer => .harness .notConnected "Write to peer failed" [("peer", .text peer)] (some fault)
  | .error fault => fault

def send (source : ByteSource) : DeviceCall Unit := do
  let payload ← bytesOf source
  let device ← get
  match device.link, device.closed with
  | some link, false =>
    match ← attempt (liftM (Net.onStream link (Stream.writeAll · payload)) : DeviceCall Unit) with
    | .ok () =>
      modify fun device => device.note (.data Logger.device "Mock device sent" (Text.hex payload))
    | .error fault =>
      if fault.isOs then throw (device.writeFault fault) else throw fault
  | _, _ =>
    throw (.harness .notConnected "Mock device has no connected peer"
      [("port", .int device.address.2)] none)

/-- The two sides of a comparison, as the context of a fault. -/
def mismatch (expected received : Bytes) : Context :=
  [("expected", .text (Text.hex expected)), ("received", .text (Text.hex received))]

def respondTo (expected reply : ByteSource) (timeout : Option Number) : DeviceCall Bytes := do
  let expected ← bytesOf expected
  let chunk ← receive timeout
  if chunk ≠ expected then
    throw (.harness .unexpectedData "Unexpected bytes from peer" (mismatch expected chunk) none)
  send reply
  pure chunk

/-- One action of a closing thread.  It stays where it is while the reader has not ended. -/
def advanceClosing : ClosingPhase → Device → ClosingPhase × Device
  | .marking, device =>
    if device.closed then (.ended none, device) else (.signalling, { device with closed := true })
  | .signalling, device => (.looking, { device with closing := true })
  | .looking, device =>
    (match device.link with | some link => .shutting link | none => .joining, device)
  | .shutting link, device =>
    match (liftM (Net.onStream link Stream.shutdown) : DeviceCall Unit) device with
    | .ok () device => (.closing link, device)
    | .error fault device =>
      (if fault.isOs then .closing link else .ended (some fault), device)
  | .closing link, device =>
    match (liftM (Net.onStream link Stream.close) : DeviceCall Unit) device with
    | .ok () device => (.joining, device)
    | .error fault device => (.ended (some fault), device)
  | .joining, device =>
    let entry := Entry.device Logger.device "Closed" device.addressText
    match device.reader with
    | none => (.ended none, (device.enqueue none).note entry)
    | some phase => if phase.isEnded then (.ended none, device.note entry) else (.joining, device)
  | .ended fault, device => (.ended fault, device)

def advanceClosingBy : (limit : Nat) → ClosingPhase → Device → ClosingPhase × Device
  | 0, phase, device => (phase, device)
  | limit + 1, phase, device =>
    let (phase, device) := advanceClosing phase device
    advanceClosingBy limit phase device

/-- Closes the device and waits for the end of the reader.  The closing thread has five actions
to do before it waits. -/
def close : DeviceCall Unit := fun device =>
  let (phase, device) := advanceClosingBy 5 .marking device
  let (phase, device) :=
    match phase with
    | .joining => advanceClosing .joining (awaitReader (device.world.workload + 2) device)
    | other => (other, device)
  match phase with
  | .ended (some fault) => .error fault device
  | _ => .ok () device

end Device
end RelayBench
