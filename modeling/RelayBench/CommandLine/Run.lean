import RelayBench.CommandLine.Parse
import RelayBench.Device.Foreground
import RelayBench.Log.Setup
import RelayBench.Relay.Serve

/-! Running what a command line asks for, in a world. -/
namespace RelayBench.CommandLine

inductive Ending where
  | returned (status : Nat)
  | exited (halt : Halt)
  | failed (fault : Fault)

/-- A run: its end, the world after it, and how its log was set up, if it came so far. -/
structure Run where
  ending : Ending
  world : World
  setup : Option LogSetup := none

namespace Request

def level (request : Request) : Datum :=
  match request.logLevel with
  | .value name => .text name
  | .nothing => .list []

def listenHost (request : Request) : Option Host :=
  request.host.map fun
    | .value name => .named name
    | .nothing => .unnamed

/-- The fault of a comparison with nothing, by the types on its two sides. -/
def incomparable (left right : String) : Fault :=
  .system .type
    [.text ("'<=' not supported between instances of '" ++ left ++ "' and '" ++ right ++ "'")]

/-- The port and the size.  Nothing in the place of a port cannot be compared with the least port,
and nothing in the place of a size not with zero; the port is checked before. -/
def numbers (request : Request) (env : Environment) : Except Fault (Option Int × Option Int) := do
  let port ← match request.port with
    | none => pure none
    | some (.value port) => pure (some port)
    | some .nothing => throw (incomparable "int" "list")
  match request.size with
  | none => pure (port, none)
  | some (.value size) => pure (port, some size)
  | some .nothing =>
    let _ ← Settings.choosePort port env
    throw (incomparable "list" "int")

def relaySettings (request : Request) (env : Environment) : Except Fault RelaySettings := do
  let (port, recvSize) ← request.numbers env
  RelaySettings.make { host := request.listenHost, port, recvSize } env

def deviceSettings (request : Request) (env : Environment) : Except Fault DeviceSettings := do
  let (port, chunkSize) ← request.numbers env
  DeviceSettings.make { host := request.listenHost, port, chunkSize } env

end Request

def runRelay (request : Request) (env : Environment) (world : World) : Except Fault Unit × World :=
  match request.relaySettings env with
  | .error fault => (.error fault, world)
  | .ok settings =>
    match Relay.foreground (Relay.ofSettings settings world) with
    | .ok () relay => (.ok (), relay.world)
    | .error fault relay => (.error fault, relay.world)

def runDevice (request : Request) (env : Environment) (world : World) : Except Fault Unit × World :=
  match request.deviceSettings env with
  | .error fault => (.error fault, world)
  | .ok settings =>
    match Device.foreground (Device.ofSettings settings world) with
    | .ok () device => (.ok (), device.world)
    | .error fault device => (.error fault, device.world)

/-- The faults that a run reports itself: settings that are wrong and addresses in use. -/
def isReported (fault : Fault) : Bool :=
  fault.kind.under (.harness .bind) || fault.kind.under (.harness .configuration)

def run (arguments : List String) (env : Environment) (world : World) : Run :=
  match parse arguments with
  | .error halt => { ending := .exited halt, world }
  | .ok request =>
    match LogSetup.ofLevel request.level env with
    | .error fault => { ending := .failed fault, world }
    | .ok setup =>
      let world := { world with threshold := setup.threshold }
      let (result, world) :=
        match request.command with
        | .relay => runRelay request env world
        | .device => runDevice request env world
      match result with
      | .ok () => { ending := .returned 0, world, setup := some setup }
      | .error fault =>
        if isReported fault then
          let entry := Entry.plain .error Logger.command
            (request.command.word ++ " failed: " ++ fault.message)
          { ending := .returned 1, world := world.write entry, setup := some setup }
        else { ending := .failed fault, world, setup := some setup }

end RelayBench.CommandLine
