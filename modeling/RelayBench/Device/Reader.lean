import RelayBench.Device.Basic
import RelayBench.World.Workload

/-! The background reader of a device, one action at a time.  It parks while it waits for the peer
and while there is nothing to read; the foreground or a closing thread may act wherever it stands
between two actions. -/
namespace RelayBench

namespace ReaderPhase

def isParked : ReaderPhase → Bool
  | .awaiting | .stalled | .ended _ => true
  | _ => false

def isEnded : ReaderPhase → Bool
  | .ended _ => true
  | _ => false

end ReaderPhase

namespace Device

def acceptWarning (fault : Fault) : Entry :=
  .plain .warning Logger.device ("Mock device accept failed: " ++ fault.message)

/-- Answers an accept.  Running out of time leads to another try, an operating system fault to the
end of the search. -/
def answer (device : Device) : ReaderPhase × Device :=
  match device.door with
  | none => (.leaving false none, device)
  | some door =>
    match (liftM (Net.accept .background door) : DeviceCall Nat) device with
    | .ok link device => (.storing link, device)
    | .error fault device =>
      if fault.kind.under (.system .timedOut) then (.testing, device)
      else if fault.isOs then
        (.leaving false none, device.noteUnlessClosing (acceptWarning fault))
      else (.leaving false (some fault), device)

def store (device : Device) (link : Nat) : Device :=
  let net := device.world.net.updateLink link fun l =>
    { l with stream := { l.stream with timeout := none } }
  { device with
    world := { device.world with net }
    link := some link
    peer := (net.link link).stream.address }

def leave (device : Device) (found : Bool) (fault : Option Fault) : ReaderPhase × Device :=
  let next : ReaderPhase :=
    match fault with
    | some fault => .ending (some fault)
    | none => if found then .rechecking else .ending none
  match device.door with
  | none => (next, device)
  | some door =>
    match (liftM (Net.closeDoor door) : DeviceCall Unit) device with
    | .ok () device => (next, { device with door := none })
    | .error fault device => (.ending (some fault), device)

/-- Closes the link of a peer that came while the device was closing. -/
def discard (device : Device) : ReaderPhase × Device :=
  match device.link with
  | none => (.ending none, device)
  | some link =>
    match (liftM (Net.onStream link Stream.close) : DeviceCall Unit) device with
    | .ok () device => (.ending none, device)
    | .error fault device => (.ending (some fault), device)

def announce (device : Device) : ReaderPhase × Device :=
  let device := { device with announced := true }
  match device.peer.text with
  | .ok peer => (.reading, device.note (.device Logger.device "Peer connected" peer))
  | .error fault => (.ending (some fault), device)

def readChunk (device : Device) : ReaderPhase × Device :=
  match device.link with
  | none => (.ending none, device)
  | some link =>
    match (liftM (Net.readLink link device.chunkSize) : DeviceCall Reading) device with
    | .error fault device => (.ending (some fault), device)
    | .ok .nothing device => (.stalled, device)
    | .ok (.fault fault) device =>
      if fault.isOs then
        (.ending none, device.noteUnlessClosing (.device Logger.device "Read ended" fault.message))
      else (.ending (some fault), device)
    | .ok (.bytes []) device =>
      (.ending none, device.noteUnlessClosing (.device Logger.device "Peer disconnected" ""))
    | .ok (.bytes chunk) device =>
      (.handing chunk, device.note (.data Logger.device "Mock device received" (Text.hex chunk)))

def advanceReader : ReaderPhase → Device → ReaderPhase × Device
  | .testing, device => (if device.closing then .leaving false none else .accepting, device)
  | .accepting, device =>
    match device.door with
    | some door => if device.world.net.hasCaller door then device.answer else (.awaiting, device)
    | none => device.answer
  | .awaiting, device => device.answer
  | .storing link, device => (.leaving true none, device.store link)
  | .leaving found fault, device => device.leave found fault
  | .rechecking, device => (if device.closing then .discarding else .announcing, device)
  | .discarding, device => device.discard
  | .announcing, device => device.announce
  | .reading, device => device.readChunk
  | .stalled, device => device.readChunk
  | .handing chunk, device =>
    (.reading, { device with received := device.received ++ [chunk] }.enqueue (some chunk))
  | .ending fault, device => (.ended fault, device.enqueue none)
  | .ended fault, device => (.ended fault, device)

/-- Actions of the reader until it parks, `limit` of them at most. -/
def advanceReaderToPark : (limit : Nat) → ReaderPhase → Device → ReaderPhase × Device
  | 0, phase, device => (phase, device)
  | limit + 1, phase, device =>
    if phase.isParked then (phase, device)
    else
      let (phase, device) := advanceReader phase device
      advanceReaderToPark limit phase device

/-- Runs the reader from where it stands until it parks.  Every chunk takes two actions and uses
up a byte, every accept that runs out of time uses up a queued fault. -/
def runReader (phase : ReaderPhase) (device : Device) : Device :=
  let limit := 4 * (device.world.workload + 4)
  let (phase, device) := advanceReader phase device
  let (phase, device) := advanceReaderToPark limit phase device
  { device with reader := some phase }

def resume (device : Device) : Device :=
  match device.reader with
  | some phase => runReader phase device
  | none => device

def readerEnded (device : Device) : Bool :=
  match device.reader with
  | some phase => phase.isEnded
  | none => true

def awaitReader : (limit : Nat) → Device → Device
  | 0, device => device
  | limit + 1, device => if device.readerEnded then device else awaitReader limit device.resume

end Device
end RelayBench
