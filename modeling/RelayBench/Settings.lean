import RelayBench.Decimal.Numeral
import RelayBench.Net.Address

/-! Settings of the relay and of the device.  Every value comes from an explicit argument, else
from an environment text, else from a default; ports and sizes are checked, and a write limit that
is not above zero means no limit. -/
namespace RelayBench

/-- The texts of the environment that matter here. -/
structure Environment where
  host : Option String := none
  port : Option String := none
  recvSize : Option String := none
  writeTimeout : Option String := none
  logJson : Option String := none
  deriving Inhabited

namespace Settings

def defaultHost : String := "0.0.0.0"

def defaultPort : Int := 8000

def defaultRecvSize : Int := 4096

def defaultBacklog : Int := 128

def defaultWriteTimeout : Number := .float (.ofDecimal false 5 0)

def defaultPollInterval : Number := .float (.ofDecimal false 5 (-1))

def integerMessage (text : String) : Numeral.IntegerError → String
  | .malformed =>
    "invalid literal for int() with base 10: " ++ String.ofList ((Text.quote text).toList.take 200)
  | .tooLong digits =>
    "Exceeds the limit (" ++ toString Numeral.maxDigits ++
      " digits) for integer string conversion: value has " ++ toString digits ++
      " digits; use sys.set_int_max_str_digits() to increase the limit"

/-- An environment text that is missing or empty counts as not given. -/
def given : Option String → Option String
  | some text => if text.isEmpty then none else some text
  | none => none

def readInteger (name : String) (raw : Option String) (fallback : Int) : Except Fault Int :=
  match given raw with
  | none => .ok fallback
  | some text =>
    match Numeral.integer text with
    | .ok n => .ok n
    | .error e =>
      .error (.harness .configuration ("Invalid integer for " ++ name) [("value", .text text)]
        (some (.invalidValue (integerMessage text e))))

def readSeconds (name : String) (raw : Option String) (fallback : Number) : Except Fault Number :=
  match given raw with
  | none => .ok fallback
  | some text =>
    match Numeral.binary64? text with
    | some x => .ok (.float x)
    | none =>
      .error (.harness .configuration ("Invalid number for " ++ name) [("value", .text text)]
        (some (.invalidValue ("could not convert string to float: " ++ Text.quote text))))

def checkPort (port : Int) : Except Fault Int :=
  if 0 ≤ port && port ≤ 65535 then .ok port
  else .error (.harness .configuration "Port out of range" [("port", .int port)] none)

def checkPositive (name : String) (size : Int) : Except Fault Int :=
  if size ≤ 0 then
    .error (.harness .configuration (name ++ " must be positive") [(name, .int size)] none)
  else .ok size

def chooseHost (argument : Option Host) (env : Environment) : Host :=
  match argument with
  | some host => host
  | none => .named (env.host.getD defaultHost)

/-- The checked listen port from an argument, the environment or the default. -/
def choosePort (argument : Option Int) (env : Environment) : Except Fault Int :=
  match argument with
  | some port => checkPort port
  | none =>
    match readInteger "RELAYHARNESS_PORT" env.port defaultPort with
    | .ok port => checkPort port
    | .error fault => .error fault

/-- The checked read size from an argument, the environment or the default. -/
def chooseSize (name : String) (argument : Option Int) (env : Environment) : Except Fault Int :=
  match argument with
  | some size => checkPositive name size
  | none =>
    match readInteger "RELAYHARNESS_RECV_SIZE" env.recvSize defaultRecvSize with
    | .ok size => checkPositive name size
    | .error fault => .error fault

/-- A write limit at or below zero means that a write may wait for ever. -/
def limit (seconds : Number) : Option Number :=
  if seconds.isNegative || seconds.isZero then none else some seconds

def chooseWriteTimeout (argument : Option Number) (env : Environment) :
    Except Fault (Option Number) :=
  match argument with
  | some seconds => .ok (limit seconds)
  | none =>
    match readSeconds "RELAYHARNESS_WRITE_TIMEOUT" env.writeTimeout defaultWriteTimeout with
    | .ok seconds => .ok (limit seconds)
    | .error fault => .error fault

end Settings

/-- How a relay listens, reads and writes. -/
structure RelaySettings where
  host : Host
  port : Int
  recvSize : Int
  backlog : Option Int
  writeTimeout : Option Number
  pollInterval : Option Number
  deriving Inhabited

/-- What may be said explicitly about a relay. -/
structure RelayArguments where
  host : Option Host := none
  port : Option Int := none
  recvSize : Option Int := none
  backlog : Option Int := some Settings.defaultBacklog
  writeTimeout : Option Number := none
  pollInterval : Option Number := some Settings.defaultPollInterval

namespace RelaySettings

/-- The settings from explicit arguments and the environment, or the first thing wrong in the
order host, port, read size, write limit. -/
def make (arguments : RelayArguments) (env : Environment) : Except Fault RelaySettings := do
  let port ← Settings.choosePort arguments.port env
  let recvSize ← Settings.chooseSize "recv_size" arguments.recvSize env
  let writeTimeout ← Settings.chooseWriteTimeout arguments.writeTimeout env
  pure
    { host := Settings.chooseHost arguments.host env
      port, recvSize
      backlog := arguments.backlog
      writeTimeout
      pollInterval := arguments.pollInterval }

def text (settings : RelaySettings) : String :=
  "RelayConfig(host=" ++ settings.host.datum.literal ++ ", port=" ++ toString settings.port ++
    ", recv_size=" ++ toString settings.recvSize ++ ", write_timeout=" ++
    Number.limitText settings.writeTimeout ++ ")"

end RelaySettings

/-- How a device listens and reads. -/
structure DeviceSettings where
  host : Host
  port : Int
  chunkSize : Int
  deriving Inhabited

/-- What may be said explicitly about a device. -/
structure DeviceArguments where
  host : Option Host := none
  port : Option Int := none
  chunkSize : Option Int := none

namespace DeviceSettings

/-- The settings from explicit arguments and the environment, or the first thing wrong. -/
def make (arguments : DeviceArguments) (env : Environment) : Except Fault DeviceSettings := do
  let port ← Settings.choosePort arguments.port env
  let chunkSize ← Settings.chooseSize "chunk_size" arguments.chunkSize env
  pure { host := Settings.chooseHost arguments.host env, port, chunkSize }

def text (settings : DeviceSettings) : String :=
  "DeviceConfig(host=" ++ settings.host.datum.literal ++ ", port=" ++ toString settings.port ++
    ", chunk_size=" ++ toString settings.chunkSize ++ ")"

end DeviceSettings
end RelayBench
