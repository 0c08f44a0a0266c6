import RelayBench.Decimal.Numeral
import RelayBench.Text.Quoted

/-! The grammar of the command line: which options each command has, and the texts of its usage
and help.  A grammar is read with abbreviations: a long option may be cut as long as it stays
unambiguous. -/
namespace RelayBench.CommandLine

inductive Setting where
  | help
  | logLevel
  | host
  | port
  | size
  deriving DecidableEq, Repr

namespace Setting

def takesValue : Setting → Bool
  | .help => false
  | _ => true

end Setting

/-- An option with the flags it may be called by. -/
structure OptionRule where
  flags : List String
  setting : Setting
  deriving DecidableEq, Repr

namespace OptionRule

def name (rule : OptionRule) : String := "/".intercalate rule.flags

end OptionRule

/-- The options of one command and its texts. -/
structure Grammar where
  program : String
  usage : String
  details : String
  rules : List OptionRule

inductive CommandName where
  | relay
  | device
  deriving DecidableEq, Repr

namespace CommandName

def word : CommandName → String
  | .relay => "relay"
  | .device => "device"

def ofWord? (word : String) : Option CommandName :=
  if word = "relay" then some .relay else if word = "device" then some .device else none

end CommandName

namespace Grammar

def flags (grammar : Grammar) : List (String × OptionRule) :=
  grammar.rules.flatMap fun rule => rule.flags.map (·, rule)

def help (grammar : Grammar) : String := grammar.usage ++ grammar.details

def complaint (grammar : Grammar) (message : String) : String :=
  grammar.usage ++ grammar.program ++ ": error: " ++ message ++ "\n"

def helpRule : OptionRule := ⟨["-h", "--help"], .help⟩

def logLevelRule : OptionRule := ⟨["--log-level"], .logLevel⟩

def hostRule : OptionRule := ⟨["--host"], .host⟩

def portRule : OptionRule := ⟨["--port"], .port⟩

def top : Grammar where
  program := "relayharness"
  usage := "usage: relayharness [-h] [--log-level LOG_LEVEL] \x7brelay,device\x7d ...\n"
  details := "
relayharness - byte relay and mock device

positional arguments:
  \x7brelay,device\x7d
    relay               Start a relay on a port
    device              Start a mock device on a port

options:
  -h, --help            show this help message and exit
  --log-level LOG_LEVEL
                        Logging level (default INFO)
"
  rules := [helpRule, logLevelRule]

def relay : Grammar where
  program := "relayharness relay"
  usage := "usage: relayharness relay [-h] [--log-level LOG_LEVEL] [--host HOST]
                          [--port PORT] [--recv-size RECV_SIZE]
"
  details := "
options:
  -h, --help            show this help message and exit
  --log-level LOG_LEVEL
                        Logging level
  --host HOST           Listen address (default 0.0.0.0)
  --port PORT           Port (default 8000)
  --recv-size RECV_SIZE
                        Bytes per read (default 4096)
"
  rules := [helpRule, logLevelRule, hostRule, portRule, ⟨["--recv-size"], .size⟩]

def device : Grammar where
  program := "relayharness device"
  usage := "usage: relayharness device [-h] [--log-level LOG_LEVEL] [--host HOST]
                           [--port PORT] [--chunk-size CHUNK_SIZE]
"
  details := "
options:
  -h, --help            show this help message and exit
  --log-level LOG_LEVEL
                        Logging level
  --host HOST           Listen address (default 0.0.0.0)
  --port PORT           Port (default 8000)
  --chunk-size CHUNK_SIZE
                        Bytes per read (default 4096)
"
  rules := [helpRule, logLevelRule, hostRule, portRule, ⟨["--chunk-size"], .size⟩]

def ofCommand : CommandName → Grammar
  | .relay => relay
  | .device => device

end Grammar
end RelayBench.CommandLine
