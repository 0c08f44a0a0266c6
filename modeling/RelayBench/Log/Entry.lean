import RelayBench.Net.Address

/-! Log entries and the wording of each kind of event. -/
namespace RelayBench

/-- The weights of the named log levels. -/
inductive Level where
  | unset
  | debug
  | info
  | warning
  | error
  | critical
  deriving DecidableEq, Repr

namespace Level

/-- The weight of a level; entries below a threshold are not written. -/
def weight : Level → Int
  | .unset => 0
  | .debug => 10
  | .info => 20
  | .warning => 30
  | .error => 40
  | .critical => 50

def nameOf (weight : Int) : String :=
  if weight = 0 then "NOTSET"
  else if weight = 10 then "DEBUG"
  else if weight = 20 then "INFO"
  else if weight = 30 then "WARNING"
  else if weight = 40 then "ERROR"
  else if weight = 50 then "CRITICAL"
  else "Level " ++ toString weight

end Level

/-- What an entry on the peers of a relay says besides its message. -/
structure PeerNote where
  peer : String
  count : Option Int
  deriving DecidableEq, Repr

namespace PeerNote

def context (note : PeerNote) : Context :=
  [("peer", .text note.peer),
   ("peer_count", match note.count with | some n => .int n | none => .none)]

end PeerNote

structure Entry where
  weight : Int
  logger : String
  message : String
  note : Option PeerNote := none
  deriving DecidableEq, Repr

namespace Entry

def plain (level : Level) (logger message : String) : Entry :=
  { weight := level.weight, logger, message }

/-- The opening, closing or serving of an address; an unknown address is left out. -/
def connection (logger event : String) (host : Host) (port : Int) : Entry :=
  plain .info logger <|
    if host.isBlank || port == 0 then "[CONNECTION] " ++ event
    else "[CONNECTION] " ++ event ++ " - " ++ host.text ++ ":" ++ toString port

/-- A peer that came or went, with the number of peers then connected. -/
def peers (logger event : String) (peer : String) (count : Option Int) : Entry :=
  { weight := Level.info.weight
    logger
    message := "[RELAY] " ++ event ++ (if peer.isEmpty then "" else " " ++ peer) ++
      (match count with | some n => " (" ++ toString n ++ " connected)" | none => "")
    note := some { peer, count } }

def device (logger event : String) (details : String) : Entry :=
  plain .info logger
    ("[DEVICE] " ++ event ++ (if details.isEmpty then "" else ": " ++ details))

/-- A write to one peer that failed, and what becomes of the peer. -/
def writeFailure (logger peer : String) (fault : Fault) (dropped : Bool) : Entry :=
  plain .warning logger
    ("Write to " ++ peer ++ " failed (" ++ fault.message ++ "); " ++
      (if dropped then "dropping peer" else "skipping"))

def debugging (logger operation : String) (details : Datum) : Entry :=
  plain .debug logger <|
    match details with
    | .none => operation
    | value => operation ++ ": " ++ value.display

def data (logger operation : String) (info : String) : Entry :=
  plain .debug logger ("[DATA] " ++ operation ++ (if info.isEmpty then "" else " - " ++ info))

end Entry

/-! The names of the loggers. -/
namespace Logger

def command : String := "relayharness"

/-- Whether a logger is one of the library's own: the command line's, or one below it. -/
def isOwn (logger : String) : Bool :=
  logger == command || (command ++ ".").toList.isPrefixOf logger.toList

def connection : String := "relayharness.relay.connection"

def fanOut : String := "relayharness.relay.fanout"

def listener : String := "relayharness.relay.listener"

def readiness : String := "relayharness.relay.multiplexer"

def relay : String := "relayharness.relay.server"

def device : String := "relayharness.mock.device"

def exchange : String := "relayharness.mock.scenarios"

def polling : String := "relayharness.testing"

end Logger
end RelayBench
