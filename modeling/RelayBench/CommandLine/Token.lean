import RelayBench.CommandLine.Grammar

/-! The arguments of a command line, told apart into options, operands and the separator behind
which there are no options. -/
namespace RelayBench.CommandLine

inductive Token where
  | separator
  | operand
  /-- An option of the grammar, with what is written behind its flag in the same argument. -/
  | option (rule : OptionRule) (flag : String) (attached : Option (List Char))
  /-- Looks like an option and is none of the grammar. -/
  | stray
  deriving DecidableEq, Repr

namespace Token

/-- The parts of an argument before and after its first equals sign. -/
def splitEquals (argument : List Char) : List Char × Option (List Char) :=
  match argument.dropWhile (· != '=') with
  | [] => (argument, none)
  | _ :: value => (argument.takeWhile (· != '='), some value)

/-- The options that an argument may abbreviate.  A long one may be cut before its value; a short
one may have its value behind it. -/
def candidates (grammar : Grammar) (argument : List Char) : List Token :=
  match argument with
  | '-' :: '-' :: _ =>
    let (start, attached) := splitEquals argument
    (grammar.flags.filter fun entry => start.isPrefixOf entry.1.toList).map
      fun entry => .option entry.2 entry.1 attached
  | _ =>
    grammar.flags.filterMap fun entry =>
      if entry.1.toList = argument.take 2 then
        some (.option entry.2 entry.1 (some (argument.drop 2)))
      else if argument.isPrefixOf entry.1.toList then some (.option entry.2 entry.1 none)
      else none

def flagText : Token → String
  | .option _ flag _ => flag
  | _ => ""

def isAnyDigit (c : Char) : Bool := (Text.digitValue? c).isSome

/-- Whether an argument is a negative number, with or without a point; a line break may follow. -/
def isNegativeNumber (argument : List Char) : Bool :=
  match argument with
  | '-' :: body =>
    let body := if body.getLast? = some '\n' then body.dropLast else body
    let whole := body.takeWhile isAnyDigit
    match body.drop whole.length with
    | [] => !whole.isEmpty
    | '.' :: fraction => !fraction.isEmpty && fraction.all isAnyDigit
    | _ => false
  | _ => false

/-- What one argument before the separator is, or what is ambiguous about it. -/
def classify (grammar : Grammar) (argument : String) : Except String Token :=
  let chars := argument.toList
  let (start, attached) := splitEquals chars
  if chars.head? ≠ some '-' then .ok .operand
  else
    match grammar.flags.lookup argument with
    | some rule => .ok (.option rule argument none)
    | none =>
      if chars.length = 1 then .ok .operand
      else
        match attached, grammar.flags.lookup (String.ofList start) with
        | some attached, some rule => .ok (.option rule (String.ofList start) (some attached))
        | _, _ =>
          match candidates grammar chars with
          | [token] => .ok token
          | [] =>
            if isNegativeNumber chars || chars.contains ' ' then .ok .operand else .ok .stray
          | several =>
            .error ("ambiguous option: " ++ argument ++ " could match " ++
              ", ".intercalate (several.map flagText))

def classifyAll (grammar : Grammar) : List String → Except String (List (String × Token))
  | [] => .ok []
  | argument :: rest =>
    if argument = "--" then .ok ((argument, .separator) :: rest.map (·, .operand))
    else
      match classify grammar argument with
      | .error message => .error message
      | .ok token =>
        match classifyAll grammar rest with
        | .error message => .error message
        | .ok tokens => .ok ((argument, token) :: tokens)

end Token
end RelayBench.CommandLine
