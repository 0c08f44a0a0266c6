import RelayBench.Device.Endpoint

/-! Scripted exchanges: lists of steps that are played against a device.  A step waits for exact
bytes, writes a reply or pauses; the first step that fails ends the exchange. -/
namespace RelayBench

inductive ExchangeStep where
  | expect (data : Bytes)
  | reply (data : Bytes)
  | pause (seconds : Number)
  | unknown (value : Datum)

namespace ExchangeStep

def kindName : ExchangeStep → String
  | .expect _ => "Expect"
  | .reply _ => "Reply"
  | .pause _ => "Pause"
  | .unknown value => value.typeName

def text : ExchangeStep → String
  | .expect data => "Expect(data=" ++ Text.quoteBytes data ++ ")"
  | .reply data => "Reply(data=" ++ Text.quoteBytes data ++ ")"
  | .pause seconds => "Pause(seconds=" ++ seconds.text ++ ")"
  | .unknown value => value.literal

end ExchangeStep

structure Exchange where
  name : String
  steps : List ExchangeStep := []

namespace Exchange

def text (exchange : Exchange) : String :=
  "Scenario(name=" ++ Text.quote exchange.name ++ ", steps=" ++
    bracketed (exchange.steps.map ExchangeStep.text) ++ ")"

def add (exchange : Exchange) (step : ExchangeStep) : Exchange :=
  { exchange with steps := exchange.steps ++ [step] }

def expect (exchange : Exchange) (data : ByteSource) : Except Fault Exchange :=
  data.toBytes.map fun data => exchange.add (.expect data)

def reply (exchange : Exchange) (data : ByteSource) : Except Fault Exchange :=
  data.toBytes.map fun data => exchange.add (.reply data)

def pause (exchange : Exchange) (seconds : Number) : Exchange := exchange.add (.pause seconds)

def echo (request : ByteSource) : Except Fault Exchange :=
  request.toBytes.map fun data => { name := "echo", steps := [.expect data, .reply data] }

/-- Answers each expected request with its reply, after the steps of `exchange`. -/
def answering : Exchange → List (ByteSource × ByteSource) → Except Fault Exchange
  | exchange, [] => .ok exchange
  | exchange, (request, response) :: rest =>
    match exchange.expect request with
    | .error fault => .error fault
    | .ok exchange =>
      match exchange.reply response with
      | .error fault => .error fault
      | .ok exchange => answering exchange rest

def ofPairs (pairs : List (ByteSource × ByteSource)) (name : String := "request-response") :
    Except Fault Exchange :=
  answering { name } pairs

/-- Plays one step; a step that expects gives the chunk it took. -/
def playStep (name : String) (timeout : Option Number) (index : Nat) :
    ExchangeStep → DeviceCall (Option Bytes)
  | .expect data => do
    let chunk ← Device.receive timeout
    if chunk ≠ data then
      throw (.harness .unexpectedData
        ("Scenario " ++ name ++ " step " ++ toString index ++ " mismatch")
        (Device.mismatch data chunk) none)
    pure (some chunk)
  | .reply data => do
    Device.send (.bytes data)
    pure none
  | .pause seconds => do
    World.pause seconds
    pure none
  | .unknown value => throw (.system .type [.text ("Unknown scenario step " ++ value.literal)])

def playSteps (name : String) (timeout : Option Number) :
    (index : Nat) → List ExchangeStep → DeviceCall (List Bytes)
  | _, [] => pure []
  | index, step :: rest => do
    let taken ← playStep name timeout index step
    let later ← playSteps name timeout (index + 1) rest
    pure (taken.toList ++ later)

def play (exchange : Exchange) (timeout : Option Number) : DeviceCall (List Bytes) := do
  World.emit (.device Logger.exchange ("Playing scenario " ++ exchange.name)
    (toString exchange.steps.length ++ " steps"))
  playSteps exchange.name timeout 0 exchange.steps

end Exchange
end RelayBench
