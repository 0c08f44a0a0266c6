/-! The kinds of faults.  System faults come from the operating system, the runtime or a bug, and
stand in levels, where a kind covers all kinds below it.  Harness faults are this library's own
and all lie below one base kind. -/
namespace RelayBench

inductive SystemFault where
  | anything
  | keyboardInterrupt
  | exit
  | generatorExit
  | anyGroup
  | general
  | group
  | arithmetic
  | floatingPoint
  | overflow
  | divisionByZero
  | assertion
  | attributeAbsent
  | buffer
  | endOfFile
  | importing
  | moduleNotFound
  | lookup
  | index
  | missingKey
  | memory
  | unboundName
  | unboundLocal
  | os
  | wouldBlock
  | childProcess
  | connection
  | brokenPipe
  | connectionAborted
  | connectionRefused
  | connectionReset
  | fileExists
  | fileNotFound
  | interrupted
  | isDirectory
  | notDirectory
  | permission
  | processLookup
  | timedOut
  | reference
  | runtime
  | notImplemented
  | recursionDepth
  | stopIteration
  | stopAsyncIteration
  | malformedSource
  | indentation
  | mixedTabs
  | system
  | type
  | value
  | unicode
  | unicodeDecode
  | unicodeEncode
  | unicodeTranslate
  | warning
  | userWarning
  | deprecation
  | runtimeWarning
  | pendingDeprecation
  | sourceWarning
  | futureWarning
  | importWarning
  | unicodeWarning
  | bytesWarning
  | resourceWarning
  | encodingWarning
  deriving DecidableEq, Repr, Inhabited

namespace SystemFault

def name : SystemFault → String
  | .anything => "BaseException"
  | .keyboardInterrupt => "KeyboardInterrupt"
  | .exit => "SystemExit"
  | .generatorExit => "GeneratorExit"
  | .anyGroup => "BaseExceptionGroup"
  | .general => "Exception"
  | .group => "ExceptionGroup"
  | .arithmetic => "ArithmeticError"
  | .floatingPoint => "FloatingPointError"
  | .overflow => "OverflowError"
  | .divisionByZero => "ZeroDivisionError"
  | .assertion => "AssertionError"
  | .attributeAbsent => "AttributeError"
  | .buffer => "BufferError"
  | .endOfFile => "EOFError"
  | .importing => "ImportError"
  | .moduleNotFound => "ModuleNotFoundError"
  | .lookup => "LookupError"
  | .index => "IndexError"
  | .missingKey => "KeyError"
  | .memory => "MemoryError"
  | .unboundName => "NameError"
  | .unboundLocal => "UnboundLocalError"
  | .os => "OSError"
  | .wouldBlock => "BlockingIOError"
  | .childProcess => "ChildProcessError"
  | .connection => "ConnectionError"
  | .brokenPipe => "BrokenPipeError"
  | .connectionAborted => "ConnectionAbortedError"
  | .connectionRefused => "ConnectionRefusedError"
  | .connectionReset => "ConnectionResetError"
  | .fileExists => "FileExistsError"
  | .fileNotFound => "FileNotFoundError"
  | .interrupted => "InterruptedError"
  | .isDirectory => "IsADirectoryError"
  | .notDirectory => "NotADirectoryError"
  | .permission => "PermissionError"
  | .processLookup => "ProcessLookupError"
  | .timedOut => "TimeoutError"
  | .reference => "ReferenceError"
  | .runtime => "RuntimeError"
  | .notImplemented => "NotImplementedError"
  | .recursionDepth => "RecursionError"
  | .stopIteration => "StopIteration"
  | .stopAsyncIteration => "StopAsyncIteration"
  | .malformedSource => "SyntaxError"
  | .indentation => "IndentationError"
  | .mixedTabs => "TabError"
  | .system => "SystemError"
  | .type => "TypeError"
  | .value => "ValueError"
  | .unicode => "UnicodeError"
  | .unicodeDecode => "UnicodeDecodeError"
  | .unicodeEncode => "UnicodeEncodeError"
  | .unicodeTranslate => "UnicodeTranslateError"
  | .warning => "Warning"
  | .userWarning => "UserWarning"
  | .deprecation => "DeprecationWarning"
  | .runtimeWarning => "RuntimeWarning"
  | .pendingDeprecation => "PendingDeprecationWarning"
  | .sourceWarning => "SyntaxWarning"
  | .futureWarning => "FutureWarning"
  | .importWarning => "ImportWarning"
  | .unicodeWarning => "UnicodeWarning"
  | .bytesWarning => "BytesWarning"
  | .resourceWarning => "ResourceWarning"
  | .encodingWarning => "EncodingWarning"

/-- The kinds right above a kind. -/
def parents : SystemFault → List SystemFault
  | .anything => []
  | .keyboardInterrupt | .exit | .generatorExit | .anyGroup | .general => [.anything]
  | .group => [.anyGroup, .general]
  | .floatingPoint | .overflow | .divisionByZero => [.arithmetic]
  | .moduleNotFound => [.importing]
  | .index | .missingKey => [.lookup]
  | .unboundLocal => [.unboundName]
  | .wouldBlock | .childProcess | .connection | .fileExists | .fileNotFound
  | .interrupted | .isDirectory | .notDirectory | .permission | .processLookup | .timedOut => [.os]
  | .brokenPipe | .connectionAborted | .connectionRefused | .connectionReset => [.connection]
  | .notImplemented | .recursionDepth => [.runtime]
  | .indentation => [.malformedSource]
  | .mixedTabs => [.indentation]
  | .unicode => [.value]
  | .unicodeDecode | .unicodeEncode | .unicodeTranslate => [.unicode]
  | .userWarning | .deprecation | .runtimeWarning | .pendingDeprecation | .sourceWarning
  | .futureWarning | .importWarning | .unicodeWarning | .bytesWarning | .resourceWarning
  | .encodingWarning => [.warning]
  | _ => [.general]

def all : List SystemFault :=
  [.anything, .keyboardInterrupt, .exit, .generatorExit, .anyGroup, .general, .group, .arithmetic,
   .floatingPoint, .overflow, .divisionByZero, .assertion, .attributeAbsent, .buffer, .endOfFile,
   .importing, .moduleNotFound, .lookup, .index, .missingKey, .memory, .unboundName, .unboundLocal,
   .os, .wouldBlock, .childProcess, .connection, .brokenPipe, .connectionAborted,
   .connectionRefused, .connectionReset, .fileExists, .fileNotFound, .interrupted, .isDirectory,
   .notDirectory, .permission, .processLookup, .timedOut, .reference, .runtime, .notImplemented,
   .recursionDepth, .stopIteration, .stopAsyncIteration, .malformedSource, .indentation,
   .mixedTabs, .system, .type, .value, .unicode, .unicodeDecode, .unicodeEncode,
   .unicodeTranslate, .warning, .userWarning, .deprecation, .runtimeWarning, .pendingDeprecation,
   .sourceWarning, .futureWarning, .importWarning, .unicodeWarning, .bytesWarning,
   .resourceWarning, .encodingWarning]

/-- The kind of a name; the faults of the operating system have two more names. -/
def ofName? (name : String) : Option SystemFault :=
  if name = "IOError" || name = "EnvironmentError" then some .os
  else all.find? fun kind => kind.name == name

/-- Whether `above` is the kind itself or lies on a way from it to the top, which is at most `steps`
kinds away. -/
def isBelow (above : SystemFault) : Nat → SystemFault → Bool
  | 0, kind => kind == above
  | steps + 1, kind => kind == above || kind.parents.any (isBelow above steps)

/-- Whether a fault of kind `kind` also counts as one of kind `above`; there are five levels of kinds. -/
def under (kind above : SystemFault) : Bool := isBelow above 4 kind

def isOs (kind : SystemFault) : Bool := kind.under .os

def isSource (kind : SystemFault) : Bool := kind.under .malformedSource

/-- The kind that the operating system's error number stands for, where it has one of its own. -/
def ofErrorNumber? (number : Int) : Option SystemFault :=
  if number = 11 || number = 114 || number = 115 then some .wouldBlock
  else if number = 10 then some .childProcess
  else if number = 32 || number = 108 then some .brokenPipe
  else if number = 103 then some .connectionAborted
  else if number = 104 then some .connectionReset
  else if number = 111 then some .connectionRefused
  else if number = 17 then some .fileExists
  else if number = 2 then some .fileNotFound
  else if number = 21 then some .isDirectory
  else if number = 20 then some .notDirectory
  else if number = 4 then some .interrupted
  else if number = 1 || number = 13 then some .permission
  else if number = 3 then some .processLookup
  else if number = 110 then some .timedOut
  else none

end SystemFault

/-- The kinds of faults of this library. -/
inductive HarnessFault where
  | base
  | bind
  | disconnect
  | fanOutWrite
  | notConnected
  | deviceClosed
  | unexpectedData
  | timeout
  | retriesExceeded
  | configuration
  deriving DecidableEq, Repr, Inhabited

namespace HarnessFault

def name : HarnessFault → String
  | .base => "HarnessError"
  | .bind => "BindError"
  | .disconnect => "DisconnectError"
  | .fanOutWrite => "FanOutWriteError"
  | .notConnected => "NotConnectedError"
  | .deviceClosed => "DeviceClosedError"
  | .unexpectedData => "UnexpectedDataError"
  | .timeout => "TimeoutError"
  | .retriesExceeded => "RetriesExceededError"
  | .configuration => "ConfigurationError"

def all : List HarnessFault :=
  [.base, .bind, .disconnect, .fanOutWrite, .notConnected, .deviceClosed, .unexpectedData, .timeout,
   .retriesExceeded, .configuration]

def ofName? (name : String) : Option HarnessFault := all.find? fun kind => kind.name == name

/-- Whether a fault of kind `kind` also counts as one of kind `above`. -/
def under (kind above : HarnessFault) : Bool := kind == above || above == .base

end HarnessFault

inductive FaultKind where
  | system (kind : SystemFault)
  | harness (kind : HarnessFault)
  deriving DecidableEq, Repr, Inhabited

namespace FaultKind

/-- Whether a fault of kind `kind` also counts as one of kind `above`; every harness fault is also
a general one. -/
def under : FaultKind → FaultKind → Bool
  | .system kind, .system above => kind.under above
  | .harness kind, .harness above => kind.under above
  | .harness _, .system above => SystemFault.general.under above
  | .system _, .harness _ => false

end FaultKind
end RelayBench
