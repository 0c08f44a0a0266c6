import RelayBench.Settings
import RelayBench.World

/-! The device: an endpoint that accepts exactly one connection.  A background reader records what
the peer sends and hands it over in a queue; the foreground takes chunks from the queue and writes
to the peer. -/
namespace RelayBench

/-- Where the background reader of a device stands. -/
inductive ReaderPhase where
  /-- About to look whether the device is closing, before an accept. -/
  | testing
  | accepting
  /-- In an accept that nobody has answered yet. -/
  | awaiting
  | storing (link : Nat)
  /-- About to close the door, with or without a link, possibly because of a fault. -/
  | leaving (found : Bool) (fault : Option Fault)
  /-- About to look whether the device began to close during the accept. -/
  | rechecking
  /-- About to close a link that came too late. -/
  | discarding
  | announcing
  | reading
  /-- In a read that has found nothing yet. -/
  | stalled
  | handing (chunk : Bytes)
  /-- About to mark the end of the queue. -/
  | ending (fault : Option Fault)
  | ended (fault : Option Fault)

structure Device where
  host : Host := .named "127.0.0.1"
  port : Int := 8000
  chunkSize : Int := 4096
  world : World := {}
  /-- The address listened on, as far as it is known. -/
  address : Host × Int := (.named "127.0.0.1", 8000)
  peer : Address := []
  /-- Chunks to be taken; an empty entry marks the end. -/
  queue : List (Option Bytes) := []
  received : List Bytes := []
  /-- The door, while the reader waits for the peer. -/
  door : Option Nat := none
  link : Option Nat := none
  /-- Whether the reader has announced the peer. -/
  announced : Bool := false
  /-- Whether the reader is asked to end. -/
  closing : Bool := false
  closed : Bool := false
  /-- Where the reader stands, once the device is started. -/
  reader : Option ReaderPhase := none

instance : Inhabited Device := ⟨{}⟩

abbrev DeviceCall := EStateM Fault Device

/-- Actions in a world are actions of a device. -/
instance : MonadLift Bench DeviceCall :=
  ⟨onPart Device.world fun world device => { device with world }⟩

/-- Bytes as a caller may give them. -/
inductive ByteSource where
  | bytes (bytes : Bytes)
  | numbers (numbers : List Int)

namespace ByteSource

def ofNumbers : List Int → Except Fault Bytes
  | [] => .ok []
  | n :: rest =>
    if 0 ≤ n && n ≤ 255 then (ofNumbers rest).map (UInt8.ofNat n.toNat :: ·)
    else .error (.invalidValue "bytes must be in range(0, 256)")

def toBytes : ByteSource → Except Fault Bytes
  | .bytes given => .ok given
  | .numbers given => ofNumbers given

end ByteSource

namespace Device

/-- A device that listens on a host and a port and reads chunks of a size. -/
def make (host : Host) (port chunkSize : Int) (world : World) : Device :=
  { host, port, chunkSize, world, address := (host, port) }

def ofSettings (settings : DeviceSettings) (world : World) : Device :=
  make settings.host settings.port settings.chunkSize world

def isConnected (device : Device) : Bool := device.announced && !device.closed

def addressText (device : Device) : String :=
  device.address.1.text ++ ":" ++ toString device.address.2

def text (device : Device) : String :=
  "<MockDevice " ++ device.addressText ++
    (if device.closed then " closed>" else if device.isConnected then " connected>" else " waiting>")

def note (device : Device) (entry : Entry) : Device :=
  { device with world := device.world.write entry }

/-- The device after an entry that is left out while it is closing. -/
def noteUnlessClosing (device : Device) (entry : Entry) : Device :=
  if device.closing then device else device.note entry

def enqueue (device : Device) (item : Option Bytes) : Device :=
  { device with queue := device.queue ++ [item] }

end Device
end RelayBench
