import RelayBench.Log.Entry

/-! Log lines as JSON objects on one line.  In strings the quotation mark, the backslash and the
characters below the space are escaped and all else stands as it is. -/
namespace RelayBench

namespace Json

def escapeChar (c : Char) : List Char :=
  if c = '"' then ['\\', '"']
  else if c = '\\' then ['\\', '\\']
  else if c = '\n' then ['\\', 'n']
  else if c = '\r' then ['\\', 'r']
  else if c = '\t' then ['\\', 't']
  else if c.toNat = 8 then ['\\', 'b']
  else if c.toNat = 12 then ['\\', 'f']
  else if c.toNat < 32 then '\\' :: 'u' :: Text.hexDigits 4 c.toNat
  else [c]

def string (text : String) : String :=
  String.ofList ('"' :: text.toList.flatMap escapeChar ++ ['"'])

/-- A floating-point number, with words for the numbers that have no digits. -/
def float : Binary64 → String
  | .nan => "NaN"
  | .infinite negative => if negative then "-Infinity" else "Infinity"
  | x => x.text

mutual

/-- A value; bytes and faults are written as strings. -/
def value : Datum → String
  | .none => "null"
  | .bool b => if b then "true" else "false"
  | .int n => toString n
  | .float x => float x
  | .text s => string s
  | .bytes b => string (Text.quoteBytes b)
  | .list items => "[" ++ ", ".intercalate (values items) ++ "]"
  | .record fields => "\x7b" ++ ", ".intercalate (members fields) ++ "\x7d"
  | .fault f => string f.message

def values : List Datum → List String
  | [] => []
  | item :: rest => value item :: values rest

def members : List (String × Datum) → List String
  | [] => []
  | (key, item) :: rest => (string key ++ ": " ++ value item) :: members rest

end

end Json

/-- A moment of a calendar day. -/
structure Moment where
  year : Nat
  month : Nat
  day : Nat
  hour : Nat
  minute : Nat
  second : Nat
  microsecond : Nat := 0
  deriving Inhabited

namespace Moment

def padded (width n : Nat) : String :=
  let digits := Nat.toDigits 10 n
  String.ofList (List.replicate (width - digits.length) '0' ++ digits)

/-- Date and time with a `T` between them; the fraction is left out when it is zero. -/
def text (moment : Moment) : String :=
  padded 4 moment.year ++ "-" ++ padded 2 moment.month ++ "-" ++ padded 2 moment.day ++ "T" ++
    padded 2 moment.hour ++ ":" ++ padded 2 moment.minute ++ ":" ++ padded 2 moment.second ++
    (if moment.microsecond = 0 then "" else "." ++ padded 6 moment.microsecond)

end Moment

/-- The place in a program that wrote an entry. -/
structure Site where
  path : String
  function : Option String
  line : Int
  deriving Inhabited

namespace Site

/-- A file name without its last extension; dots that lead the name do not start one. -/
def stem (name : List Char) : List Char :=
  let dots := name.takeWhile (· == '.')
  let rest := name.drop dots.length
  if rest.contains '.' then
    dots ++ (rest.reverse.dropWhile (· != '.')).tail.reverse
  else name

def moduleName (site : Site) : String :=
  String.ofList (stem ((site.path.toList.reverse.takeWhile (· != '/')).reverse))

end Site

/-- All that a JSON line tells. -/
structure Report where
  moment : Moment
  weight : Int
  site : Site
  message : String
  extra : Context := []
  fault : Option Fault := none

namespace Report

/-- Whether a line shows an extra value: the empty text and nothing at all are left out. -/
def isShown : Datum → Bool
  | .none => false
  | .text s => !s.isEmpty
  | _ => true

/-- The values that every line tells. -/
def basis (report : Report) : Context :=
  [("timestamp", .text report.moment.text), ("level", .text (Level.nameOf report.weight)),
   ("module", .text report.site.moduleName),
   ("function", match report.site.function with | some name => .text name | none => .none),
   ("line", .int report.site.line), ("message", .text report.message)]

/-- The values of a line on a report whose fault, if it has one, is told in the given words. -/
def fieldsWith (report : Report) (exception : Option String) : Context :=
  let body := (report.extra.filter fun field => isShown field.2).foldl
    (fun context field => Context.insert context field.1 field.2) report.basis
  match exception with
  | some words => Context.insert body "exception" (.text words)
  | none => body

def renderWith (report : Report) (exception : Option String) : String :=
  Json.value (.record (report.fieldsWith exception))

def fields (report : Report) : Context := report.fieldsWith (report.fault.map Fault.report)

def render (report : Report) : String := report.renderWith (report.fault.map Fault.report)

/-- The names of the values that tell when and where an entry was written. -/
def circumstances : List String := ["timestamp", "module", "function", "line"]

def substance (report : Report) : Context :=
  report.fields.filter fun field => !circumstances.contains field.1

def ofEntry (moment : Moment) (site : Site) (entry : Entry) : Report :=
  { moment, weight := entry.weight, site, message := entry.message
    extra := (entry.note.map PeerNote.context).getD [] }

end Report
end RelayBench
