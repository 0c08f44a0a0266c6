import RelayBench.CommandLine.Token

/-! Reading a command line: the options before the command, the command, and its own options.  The
outcome is a request, or a text to be written with the status to end with. -/
namespace RelayBench.CommandLine

/-- An end before anything is done: what to write where, and the status. -/
structure Halt where
  status : Nat
  output : String := ""
  complaint : String := ""
  deriving DecidableEq, Repr

/-- What an option was given: a value, or nothing where a separator stood in the place of one. -/
inductive Supplied (α : Type) where
  | value (value : α)
  | nothing
  deriving DecidableEq, Repr

/-- What the options were given, as far as they were used. -/
structure Choices where
  logLevel : Option (Supplied String) := none
  host : Option (Supplied String) := none
  port : Option (Supplied Int) := none
  size : Option (Supplied Int) := none
  deriving DecidableEq, Repr

/-- What the command line asks for. -/
structure Request where
  command : CommandName
  logLevel : Supplied String
  host : Option (Supplied String)
  port : Option (Supplied Int)
  size : Option (Supplied Int)
  deriving DecidableEq, Repr

namespace Grammar

def refuse (grammar : Grammar) (message : String) : Halt :=
  { status := 2, complaint := grammar.complaint message }

def refuseOption (grammar : Grammar) (rule : OptionRule) (message : String) : Halt :=
  grammar.refuse ("argument " ++ rule.name ++ ": " ++ message)

def showHelp (grammar : Grammar) : Halt := { status := 0, output := grammar.help }

/-- What is wrong with a value for an option that takes none. -/
def refuseValue (grammar : Grammar) (rule : OptionRule) (value : List Char) : Halt :=
  grammar.refuseOption rule ("ignored explicit argument " ++ Text.quote (String.ofList value))

/-- The end that a help flag leads to when something is written behind it.  Behind a short flag each
character is read as a further short flag, and what does not begin with one is refused; only with
nothing left over is the help text shown. -/
def helpHalt (grammar : Grammar) (rule : OptionRule) : List Char → Halt
  | [] => grammar.refuseValue rule []
  | c :: rest =>
    match grammar.flags.lookup (String.ofList ['-', c]), rest with
    | none, _ => grammar.refuseValue rule (c :: rest)
    | some _, [] => grammar.showHelp
    | some next, _ => helpHalt grammar next rest

end Grammar

namespace Choices

def set (choices : Choices) (grammar : Grammar) (rule : OptionRule) (value : String) :
    Except Halt Choices :=
  let integer : Except Halt (Supplied Int) :=
    match Numeral.integer value with
    | .ok n => .ok (.value n)
    | .error _ => .error (grammar.refuseOption rule ("invalid int value: " ++ Text.quote value))
  match rule.setting with
  | .help => .ok choices
  | .logLevel => .ok { choices with logLevel := some (.value value) }
  | .host => .ok { choices with host := some (.value value) }
  | .port => integer.map fun n => { choices with port := some n }
  | .size => integer.map fun n => { choices with size := some n }

def setNothing (choices : Choices) : Setting → Choices
  | .help => choices
  | .logLevel => { choices with logLevel := some .nothing }
  | .host => { choices with host := some .nothing }
  | .port => { choices with port := some .nothing }
  | .size => { choices with size := some .nothing }

/-- The choices after an option with a value in the same argument. -/
def setAttached (choices : Choices) (grammar : Grammar) (rule : OptionRule) (value : List Char) :
    Except Halt Choices :=
  if value = "--".toList then .ok (choices.setNothing rule.setting)
  else choices.set grammar rule (String.ofList value)

end Choices

/-- Options read so far, and what is left of the arguments. -/
structure Scan where
  choices : Choices := {}
  strays : List String := []
  rest : List (String × Token) := []

def scanOption (grammar : Grammar) (choices : Choices) (rule : OptionRule) (flag : String)
    (attached : Option (List Char)) (rest : List (String × Token)) :
    Except Halt (Choices × List (String × Token)) :=
  match rule.setting.takesValue, attached with
  | true, some value => (choices.setAttached grammar rule value).map (·, rest)
  | true, none =>
    match rest with
    | (value, .operand) :: rest => (choices.set grammar rule value).map (·, rest)
    | _ => .error (grammar.refuseOption rule "expected one argument")
  | false, none => .error grammar.showHelp
  | false, some value =>
    if "--".toList.isPrefixOf flag.toList then .error (grammar.refuseValue rule value)
    else .error (grammar.helpHalt rule value)

/-- Reads options up to the first operand or separator, or up to the end if `through` is set; then
operands are of no use.  `limit` bounds the number of arguments. -/
def scan (grammar : Grammar) (through : Bool) : (limit : Nat) → Scan → Except Halt Scan
  | 0, state => .ok state
  | limit + 1, state =>
    match state.rest with
    | [] => .ok state
    | (argument, token) :: rest =>
      match token with
      | .option rule flag attached =>
        match scanOption grammar state.choices rule flag attached rest with
        | .error halt => .error halt
        | .ok (choices, rest) => scan grammar through limit { state with choices, rest }
      | .stray => scan grammar through limit { state with strays := state.strays ++ [argument], rest }
      | _ =>
        if through then
          scan grammar through limit { state with strays := state.strays ++ [argument], rest }
        else .ok state

def scanAll (grammar : Grammar) (through : Bool) (arguments : List String) : Except Halt Scan :=
  match Token.classifyAll grammar arguments with
  | .error message => .error (grammar.refuse message)
  | .ok tokens => scan grammar through arguments.length { rest := tokens }

/-- The command and its arguments, if there is one: a separator may lead them, but is then taken
for the command. -/
def splitCommand? : List (String × Token) → Option (String × List String)
  | (word, .operand) :: rest => some (word, rest.map Prod.fst)
  | (word, .separator) :: (argument, .operand) :: rest =>
    some (word, argument :: rest.map Prod.fst)
  | _ => none

def parse (arguments : List String) : Except Halt Request := do
  let before ← scanAll Grammar.top false arguments
  match splitCommand? before.rest with
  | none => throw (Grammar.top.refuse "the following arguments are required: command")
  | some (word, arguments) =>
    match CommandName.ofWord? word with
    | none =>
      throw (Grammar.top.refuse
        ("argument command: invalid choice: " ++ Text.quote word ++
          " (choose from 'relay', 'device')"))
    | some command =>
      let after ← scanAll (Grammar.ofCommand command) true arguments
      let strays := before.strays ++ after.strays
      if strays ≠ [] then
        throw (Grammar.top.refuse ("unrecognized arguments: " ++ " ".intercalate strays))
      pure
        { command
          logLevel := (after.choices.logLevel <|> before.choices.logLevel).getD (.value "INFO")
          host := after.choices.host
          port := after.choices.port
          size := after.choices.size }

end RelayBench.CommandLine
