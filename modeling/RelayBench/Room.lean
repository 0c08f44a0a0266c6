import RelayBench.Listener

/-! The room of a relay: its connected peers, in the order in which they came, in the world around
them. -/
namespace RelayBench

/-- The links that are connected, in order, and the world. -/
structure Room where
  members : List Nat := []
  world : World := {}

instance : Inhabited Room := ⟨{}⟩

abbrev RoomCall := EStateM Fault Room

/-- Actions in a world are actions in a room. -/
instance : MonadLift Bench RoomCall :=
  ⟨onPart Room.world fun world room => { room with world }⟩

namespace World

/-- Closes a link; an operating system fault of the closing only goes to the log. -/
def closeLink (index : Nat) : Bench Unit := do
  match ← attempt (liftM (Net.onLink index Link.close) : Bench Unit) with
  | .ok () => pure ()
  | .error fault =>
    if fault.isOs then
      let name := ((← get).net.link index).name
      emit (.debugging Logger.connection ("Error closing " ++ name) (.fault fault))
    else throw fault

end World

namespace Room

def link (room : Room) (index : Nat) : Link := room.world.net.link index

/-- Lets a link in at the end, once; a closed link is refused. -/
def add (index : Nat) : RoomCall Unit := do
  let room ← get
  if (room.link index).closed then
    throw (.invalidValue ("Cannot add closed connection " ++ (room.link index).text))
  else if room.members.contains index then pure ()
  else set { room with members := room.members ++ [index] }

/-- Takes a member out and closes it; tells whether the link was a member. -/
def remove (index : Nat) : RoomCall Bool := do
  let room ← get
  if room.members.contains index then
    set { room with members := room.members.erase index }
    World.closeLink index
    pure true
  else pure false

def others (room : Room) (source : Nat) : List Nat := room.members.filter (· != source)

/-- Closes all members and empties the room; tells how many there were. -/
def closeAll : RoomCall Nat := do
  let members := (← get).members
  members.forM fun index => do World.closeLink index
  modify fun room => { room with members := [] }
  pure members.length

end Room
end RelayBench
