import RelayBench.Device.Endpoint

/-! A device that is run on its own: it waits for its peer, logs every chunk and closes when the
peer leaves or on an interrupt. -/
namespace RelayBench.Device

def chunkEntry (chunk : Bytes) : Entry :=
  .plain .info Logger.command
    ("Received " ++ toString chunk.length ++ " bytes: " ++ Text.hex chunk)

/-- Takes and logs chunks until the stream ends, `limit` of them at most. -/
def follow : (limit : Nat) → DeviceCall Unit
  | 0 => pure ()
  | limit + 1 => do
    let chunk ← receive none
    World.emit (chunkEntry chunk)
    follow limit

/-- Waits for the peer and follows its stream.  There are never more chunks than bytes to come. -/
def attend : DeviceCall Unit := do
  awaitPeer none
  let device ← get
  follow (device.world.workload + device.queue.length + 1)

/-- What ends a device that is run on its own without being a failure. -/
def farewell (fault : Fault) : Option String :=
  if fault.kind.under (.harness .deviceClosed) then some "Peer disconnected"
  else if fault.kind.under (.system .keyboardInterrupt) then some "KeyboardInterrupt. Exiting"
  else none

def foreground : DeviceCall Unit := do
  connect
  match ← attempt attend with
  | .ok () => close
  | .error fault =>
    match farewell fault with
    | some message =>
      World.emit (.plain .info Logger.command message)
      close
    | none =>
      close
      throw fault

end RelayBench.Device
