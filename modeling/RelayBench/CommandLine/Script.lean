import RelayBench.Net.Event

/-! Scripts of a simulated network as text.  Each line tells what happens during one wait of the
program: events between semicolons, each a word with the client and what else it needs.  An empty
line is a wait in which nothing happens. -/
namespace RelayBench

namespace Event

def ofWords? : List String → Option Event
  | ["connect", client] => some (.connect client none none none none)
  | ["connect", client, port] => port.toInt?.map fun port => .connect client none none none (some port)
  | ["send", client, bytes] => (Text.unhex? bytes).map (.send client)
  | ["close", client] => some (.close client)
  | ["reset", client] => some (.reset client)
  | ["window", client, size] => size.toNat?.map fun size => .window client (some size)
  | ["window", client] => some (.window client none)
  | ["take", port] => port.toInt?.map .taken
  | ["interrupt"] => some .interrupt
  | ["shutdown"] => some .shutdown
  | _ => none

def words (text : String) : List String := (text.splitOn " ").filter (!·.isEmpty)

def ofLine? (line : String) : Option (List Event) :=
  (((line.splitOn ";").map words).filter (!·.isEmpty)).mapM ofWords?

/-- The items of the given lines, or the number of the first line that describes none. -/
def ofLines : (number : Nat) → List String → Except Nat (List (List Event))
  | _, [] => .ok []
  | number, line :: rest =>
    match ofLine? line with
    | none => .error number
    | some item => (ofLines (number + 1) rest).map (item :: ·)

/-- The script that a text describes; its lines are numbered from one. -/
def script (text : String) : Except Nat (List (List Event)) :=
  let lines := text.splitOn "\n"
  ofLines 1 (if lines.getLast? = some "" then lines.dropLast else lines)

end Event
end RelayBench
