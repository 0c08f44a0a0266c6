import RelayBench.CommandLine.Run
import RelayBench.CommandLine.Script

/-! The program.  It runs what its arguments ask for on a simulated network, which does what the
script on the standard input says.  The log goes to the standard error, and at the end a line for
each client on the standard output shows what was written to it. -/
namespace RelayBench.CommandLine

def readEnvironment : IO Environment := do
  pure
    { host := ← IO.getEnv "RELAYHARNESS_HOST"
      port := ← IO.getEnv "RELAYHARNESS_PORT"
      recvSize := ← IO.getEnv "RELAYHARNESS_RECV_SIZE"
      writeTimeout := ← IO.getEnv "RELAYHARNESS_WRITE_TIMEOUT"
      logJson := ← IO.getEnv "RELAYHARNESS_LOG_JSON" }

/-- All lines up to the end of the input, as one text. -/
partial def readAll (input : IO.FS.Stream) (sofar : String) : IO String := do
  let line ← input.getLine
  if line.isEmpty then pure sofar else readAll input (sofar ++ line)

def present (run : Run) : IO UInt32 := do
  if let some setup := run.setup then
    for entry in run.world.log do
      IO.eprintln (setup.line entry)
  let net := run.world.net
  for index in net.linkIndices do
    let stream := (net.link index).stream
    IO.println (stream.client ++ ": " ++ Text.hex stream.outbox)
  match run.ending with
  | .returned status => pure status.toUInt32
  | .exited halt =>
    IO.print halt.output
    IO.eprint halt.complaint
    pure halt.status.toUInt32
  | .failed fault =>
    IO.eprintln fault.report
    pure 1

/-- Runs the program.  The script is read only when there is something to run. -/
def runProgram (arguments : List String) : IO UInt32 := do
  let env ← readEnvironment
  match parse arguments with
  | .error _ => present (run arguments env {})
  | .ok _ =>
    match Event.script (← readAll (← IO.getStdin) "") with
    | .error number =>
      IO.eprintln ("script line " ++ toString number ++ " is not understood")
      pure 2
    | .ok script => present (run arguments env { script := some script })

end RelayBench.CommandLine

def main (arguments : List String) : IO UInt32 := RelayBench.CommandLine.runProgram arguments
