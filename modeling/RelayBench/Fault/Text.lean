import RelayBench.Fault.Basic

/-! The texts of values and faults.  `literal` is the unambiguous form, with texts quoted;
`display` shows a text as it is and a fault by its message.  The message of a fault of this
library ends with its context. -/
namespace RelayBench

def bracketed (items : List String) : String := "[" ++ ", ".intercalate items ++ "]"

def parenthesized (items : List String) : String := "(" ++ ", ".intercalate items ++ ")"

def braced (items : List String) : String := "\x7b" ++ ", ".intercalate items ++ "\x7d"

/-- A text in a context is cut when it is longer than fifty characters. -/
def shorten (text : String) : String :=
  if 50 < text.length then String.ofList (text.toList.take 47) ++ "..." else text

mutual

def Datum.literal : Datum → String
  | .none => "None"
  | .bool b => if b then "True" else "False"
  | .int n => toString n
  | .float x => x.text
  | .text s => Text.quote s
  | .bytes b => Text.quoteBytes b
  | .list items => bracketed (Datum.literals items)
  | .record fields => braced (Datum.fieldLiterals fields)
  | .fault f => f.literal

def Datum.literals : List Datum → List String
  | [] => []
  | item :: rest => item.literal :: Datum.literals rest

def Datum.fieldLiterals : List (String × Datum) → List String
  | [] => []
  | (key, value) :: rest => (Text.quote key ++ ": " ++ value.literal) :: Datum.fieldLiterals rest

/-- The unambiguous text of a fault.  Of an operating system fault that names files only the number
and the text are shown. -/
def Fault.literal : Fault → String
  | .system kind arguments =>
    kind.name ++ parenthesized
      (if Fault.namesFile kind arguments then (Datum.literals arguments).take 2
       else Datum.literals arguments)
  | .harness kind message [] _ => kind.name ++ "(" ++ Text.quote message ++ ")"
  | .harness kind message context _ =>
    kind.name ++ "(" ++ Text.quote message ++ ") (context=" ++
      braced (Datum.fieldLiterals context) ++ ")"

end

/-- The place in a text at which it could not be converted: one character, which is shown by its
code, or several. -/
def spotText (text : String) (start stop : Int) : String :=
  match text.toList[start.toNat]?, decide (stop = start + 1) with
  | some c, true =>
    "character '" ++ String.ofList (Text.escapeCode c.toNat) ++ "' in position " ++ toString start
  | _, _ => "characters in position " ++ toString start ++ "-" ++ toString (stop - 1)

/-- The message of a system fault, from its arguments and their displayed texts.  A fault of a
program text has its first argument as its message, an operating system fault its number, its text
and its files. -/
def SystemFault.message (kind : SystemFault) (arguments : List Datum) (shown : List String) :
    String :=
  match kind, arguments with
  | .unicodeEncode, [.text codec, .text text, .int start, .int stop, .text reason] =>
    "'" ++ codec ++ "' codec can't encode " ++ spotText text start stop ++ ": " ++ reason
  | .unicodeTranslate, [.text text, .int start, .int stop, .text reason] =>
    "can't translate " ++ spotText text start stop ++ ": " ++ reason
  | _, _ =>
    if kind.isSource then shown.headD "None"
    else if kind.isOs && Fault.areReported arguments then
      let place := match Fault.files kind arguments with
        | [] => ""
        | files => ": " ++ " -> ".intercalate (Datum.literals files)
      "[Errno " ++ shown.getD 0 "" ++ "] " ++ shown.getD 1 "" ++ place
    else
      match arguments with
      | [] => ""
      | [argument] => if kind = .missingKey then argument.literal else shown.headD ""
      | _ => parenthesized (Datum.literals arguments)

mutual

def Datum.display : Datum → String
  | .text s => s
  | .fault f => f.message
  | other => other.literal

def Datum.fieldTexts : List (String × Datum) → List String
  | [] => []
  | (key, .text s) :: rest => (key ++ "=" ++ shorten s) :: Datum.fieldTexts rest
  | (key, value) :: rest => (key ++ "=" ++ value.display) :: Datum.fieldTexts rest

def Datum.displays : List Datum → List String
  | [] => []
  | item :: rest => item.display :: Datum.displays rest

def Fault.message : Fault → String
  | .system kind arguments => kind.message arguments (Datum.displays arguments)
  | .harness _ message [] _ => message
  | .harness _ message context _ =>
    message ++ " (Context: " ++ ", ".intercalate (Datum.fieldTexts context) ++ ")"

end

namespace Fault

def kindName : Fault → String
  | .system kind _ => kind.name
  | .harness kind _ _ _ => kind.name

/-- The last line of a report on the fault: its full name and its message, if it has one.  A fault
of a program text is never reported without a message. -/
def report : Fault → String
  | .system kind arguments =>
    let message := (Fault.system kind arguments).message
    if kind.isSource then
      kind.name ++ ": " ++
        (if (arguments.headD .none).isTruthy then message else "<no detail available>")
    else if message.isEmpty then kind.name
    else kind.name ++ ": " ++ message
  | .harness kind text context cause =>
    let name := "relayharness.exceptions." ++ kind.name
    let message := (Fault.harness kind text context cause).message
    if message.isEmpty then name else name ++ ": " ++ message

end Fault
end RelayBench
