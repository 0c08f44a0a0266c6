import RelayBench.Log.JsonLine
import RelayBench.Settings
import RelayBench.Text.Upper

/-! Setting up the log: the level by its name in any case, and the style of the lines. -/
namespace RelayBench

inductive LineStyle where
  | plain
  | json
  deriving DecidableEq, Repr

/-- A log that is set up. -/
structure LogSetup where
  threshold : Int
  style : LineStyle
  deriving DecidableEq, Repr

namespace LogSetup

def plainFormat : String := "%(asctime)s %(levelname)s %(name)s: %(message)s"

/-- The threshold of a level name in capitals.  One name is taken by a text that is no level. -/
def thresholdOf (name : String) : Except Fault Int :=
  match name with
  | "NOTSET" => .ok Level.unset.weight
  | "DEBUG" => .ok Level.debug.weight
  | "INFO" => .ok Level.info.weight
  | "WARNING" | "WARN" => .ok Level.warning.weight
  | "ERROR" => .ok Level.error.weight
  | "CRITICAL" | "FATAL" => .ok Level.critical.weight
  | "BASIC_FORMAT" =>
    .error (.invalidValue ("Unknown level: " ++ Text.quote "%(levelname)s:%(name)s:%(message)s"))
  | other =>
    .error (.system .attributeAbsent [.text ("module 'logging' has no attribute '" ++ other ++ "'")])

def wantsJson (env : Environment) : Bool :=
  match env.logJson with
  | some text => text.toList.map Numeral.lowerAscii == "true".toList
  | none => false

def make (levelName : String) (env : Environment) : Except Fault LogSetup :=
  match thresholdOf (Text.upper levelName) with
  | .ok threshold => .ok { threshold, style := if wantsJson env then .json else .plain }
  | .error fault => .error fault

/-- The log that a level and the environment ask for; only a text names a level. -/
def ofLevel (level : Datum) (env : Environment) : Except Fault LogSetup :=
  match level with
  | .text name => make name env
  | other =>
    .error (.system .attributeAbsent
      [.text ("'" ++ other.typeName ++ "' object has no attribute 'upper'")])

def plainLine (entry : Entry) : String :=
  Level.nameOf entry.weight ++ " " ++ entry.logger ++ ": " ++ entry.message

/-- The named values of a JSON line, without its time and place. -/
def jsonFields (entry : Entry) : Context := (Report.ofEntry default default entry).substance

/-- A line in the style that is set up, without its time and place. -/
def line (setup : LogSetup) (entry : Entry) : String :=
  match setup.style with
  | .plain => plainLine entry
  | .json => Json.value (.record (jsonFields entry))

end LogSetup
end RelayBench
