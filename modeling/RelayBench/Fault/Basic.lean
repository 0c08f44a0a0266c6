import RelayBench.Fault.Kind
import RelayBench.Number
import RelayBench.Text.Quoted

/-! Faults and the values that they carry.  A system fault has arguments; a fault of this library
has a message, an ordered context of named values and possibly a cause.  A context may itself hold
a fault, so values and faults are defined together. -/
namespace RelayBench

mutual

/-- A value in a context, in a log line or returned by a polled function. -/
inductive Datum where
  | none
  | bool (value : Bool)
  | int (value : Int)
  | float (value : Binary64)
  | text (value : String)
  | bytes (value : List UInt8)
  | list (items : List Datum)
  | record (fields : List (String × Datum))
  | fault (value : Fault)

inductive Fault where
  | system (kind : SystemFault) (arguments : List Datum)
  | harness (kind : HarnessFault) (message : String) (context : List (String × Datum))
      (cause : Option Fault)

end

instance : Inhabited Datum := ⟨.none⟩
instance : Inhabited Fault := ⟨.system .general []⟩

/-- Named values in the order in which their names first came. -/
abbrev Context := List (String × Datum)

namespace Context

def get? (context : Context) (key : String) : Option Datum := context.lookup key

/-- Gives a name its value, at its old place or at the end. -/
def insert : Context → String → Datum → Context
  | [], key, value => [(key, value)]
  | (k, v) :: rest, key, value =>
    if k = key then (k, value) :: rest else (k, v) :: insert rest key value

def ofPairs (pairs : List (String × Datum)) : Context :=
  pairs.foldl (fun context pair => Context.insert context pair.1 pair.2) []

end Context

namespace Number

def toDatum : Number → Datum
  | .int n => .int n
  | .float x => .float x

/-- A limit in seconds as a value; no limit is the empty value. -/
def limitDatum : Option Number → Datum
  | some n => n.toDatum
  | none => .none

def limitText : Option Number → String
  | some n => n.text
  | none => "None"

end Number

namespace Datum

/-- The emptiness test of a poll: nothing, zero and everything empty count as not there yet. -/
def isTruthy : Datum → Bool
  | .none => false
  | .bool b => b
  | .int n => n != 0
  | .float x => !x.isZero
  | .text s => !s.isEmpty
  | .bytes b => !b.isEmpty
  | .list items => !items.isEmpty
  | .record fields => !fields.isEmpty
  | .fault _ => true

def typeName : Datum → String
  | .none => "NoneType"
  | .bool _ => "bool"
  | .int _ => "int"
  | .float _ => "float"
  | .text _ => "str"
  | .bytes _ => "bytes"
  | .list _ => "list"
  | .record _ => "dict"
  | .fault (.system kind _) => kind.name
  | .fault (.harness kind _ _ _) => kind.name

end Datum

namespace Fault

def kind : Fault → FaultKind
  | .system kind _ => .system kind
  | .harness kind _ _ _ => .harness kind

/-- The faults of the operating system, which the relay and the device handle. -/
def isOs : Fault → Bool
  | .system kind _ => kind.isOs
  | .harness .. => false

/-- The faults below the general kind; an interrupt is not among them. -/
def isGeneral (fault : Fault) : Bool := fault.kind.under (.system .general)

/-- The faults by which the transport says that the other side is gone. -/
def isClosed : Fault → Bool
  | .system kind _ => kind == .brokenPipe || kind == .connectionReset || kind == .connectionAborted
  | .harness .. => false

/-- The kind that the first argument of a plain operating system fault stands for. -/
def kindOfNumber? : Datum → Option SystemFault
  | .int number => SystemFault.ofErrorNumber? number
  | .bool true => SystemFault.ofErrorNumber? 1
  | _ => none

/-- Whether the arguments begin with an error number and a text.  Behind them there may be the file
that the fault is about, an argument without meaning, and a second file. -/
def areReported (arguments : List Datum) : Bool :=
  decide (2 ≤ arguments.length) && decide (arguments.length ≤ 5)

/-- A system fault of the plain operating system kind takes the kind of its error number. -/
def ofSystem : SystemFault → List Datum → Fault
  | .os, number :: rest =>
    .system
      (if areReported (number :: rest) then (kindOfNumber? number).getD .os else .os)
      (number :: rest)
  | kind, arguments => .system kind arguments

/-- Whether the third argument of a fault of some kind is a count of bytes and no file. -/
def isCount : SystemFault → Datum → Bool
  | .wouldBlock, .int _ => true
  | .wouldBlock, .bool _ => true
  | _, _ => false

/-- The files among the arguments of an operating system fault of some kind. -/
def files (kind : SystemFault) : List Datum → List Datum
  | _ :: _ :: .none :: _ => []
  | _ :: _ :: file :: rest =>
    if isCount kind file then []
    else
      match rest with
      | [] => [file]
      | [_] => [file]
      | [_, .none] => [file]
      | [_, other] => [file, other]
      | _ => []
  | _ => []

/-- Whether a fault of some kind with some arguments is about a file. -/
def namesFile (kind : SystemFault) (arguments : List Datum) : Bool :=
  kind.isOs && !(files kind arguments).isEmpty

def osError (number : Int) (text : String) : Fault := ofSystem .os [.int number, .text text]

def badDescriptor : Fault := osError 9 "Bad file descriptor"

def unavailable : Fault := osError 11 "Resource temporarily unavailable"

def brokenPipe : Fault := osError 32 "Broken pipe"

def connectionReset : Fault := osError 104 "Connection reset by peer"

def notConnected : Fault := osError 107 "Transport endpoint is not connected"

def addressInUse : Fault := osError 98 "Address already in use"

def timedOut : Fault := .system .timedOut [.text "timed out"]

def keyboardInterrupt : Fault := .system .keyboardInterrupt []

def invalidValue (text : String) : Fault := .system .value [.text text]

/-- What a pause of negative length raises.  The length is counted in nanoseconds before its sign is
looked at, so a length that no clock can count is refused as such. -/
def negativePause (seconds : Number) : Fault :=
  if seconds.precedesClock then
    .system .overflow [.text "timestamp too large to convert to C _PyTime_t"]
  else invalidValue "sleep length must be non-negative"

/-- The text that the operating system gave along with its error number. -/
def systemText : Fault → Option Datum
  | .system kind (number :: text :: rest) =>
    if kind.isOs && areReported (number :: text :: rest) then some text else none
  | _ => none

def context : Fault → Context
  | .system .. => []
  | .harness _ _ context _ => context

def cause : Fault → Option Fault
  | .system .. => none
  | .harness _ _ _ cause => cause

/-- Adds a named value to the context of a fault of this library. -/
def addContext (fault : Fault) (key : String) (value : Datum) : Fault :=
  match fault with
  | .system .. => fault
  | .harness kind message context cause => .harness kind message (Context.insert context key value) cause

end Fault
end RelayBench
