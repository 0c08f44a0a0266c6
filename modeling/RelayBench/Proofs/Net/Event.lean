import Mathlib.Data.List.Nodup
import RelayBench.Net.Event
import RelayBench.Proofs.Net.Link

/-! What an event of the network does: the program's side of every link stays as it is, a link may
come to wait at the end of a door's queue, and what clients send is added to the inboxes. -/
namespace RelayBench
namespace Net

variable (net : Net)

theorem link_updateLink (index : Nat) (change : Link → Link) (other : Nat) :
    (net.updateLink index change).link other =
      if other = index then change (net.link index) else net.link other :=
  Table.get_update net.links index change other

theorem door_updateDoor (index : Nat) (change : Door → Door) (other : Nat) :
    (net.updateDoor index change).door other =
      if other = index then change (net.door index) else net.door other :=
  Table.get_update net.doors index change other

theorem updateLink_congr (index : Nat) (change other : Link → Link)
    (same : change (net.link index) = other (net.link index)) :
    net.updateLink index change = net.updateLink index other :=
  congrArg (fun links => { net with links }) (Table.update_congr net.links index change other same)

theorem updateLink_updateLink (index : Nat) (first second : Link → Link) :
    (net.updateLink index first).updateLink index second =
      net.updateLink index fun link => second (first link) :=
  congrArg (fun links => { net with links }) (Table.update_update net.links index first second)

@[simp] theorem link_updateDoor (index : Nat) (change : Door → Door) (other : Nat) :
    (net.updateDoor index change).link other = net.link other := rfl

@[simp] theorem door_updateLink (index : Nat) (change : Link → Link) (other : Nat) :
    (net.updateLink index change).door other = net.door other := rfl

@[simp] theorem door_addLink (link : Link) (door : Nat) :
    (net.addLink link).door door = net.door door := rfl

theorem link_addLink (link : Link) (index : Nat) :
    (net.addLink link).link index = if index = net.linkCount then link else net.link index :=
  Table.get_update net.links net.linkCount (fun _ => link) index

/-- Several links change in the same way, one after the other. -/
def updateLinks (indices : List Nat) (change : Link → Link) : Net :=
  { net with links := indices.foldl (fun links index => links.update index change) net.links }

/-- Each of several different links changes once, and no other link does. -/
theorem link_updateLinks (indices : List Nat) (distinct : indices.Nodup) (change : Link → Link)
    (index : Nat) :
    (net.updateLinks indices change).link index =
      if index ∈ indices then change (net.link index) else net.link index := by
  induction indices generalizing net with
  | nil => rfl
  | cons first rest ih =>
    have fresh := List.nodup_cons.mp distinct
    have step : (net.updateLinks (first :: rest) change).link index =
        ((net.updateLink first change).updateLinks rest change).link index := rfl
    rw [step, ih (net.updateLink first change) fresh.2, link_updateLink]
    by_cases same : index = first
    · subst same
      simp [fresh.1]
    · simp [same]

/-- All faults that the network has in store are the operating system's. -/
structure AllOs : Prop where
  calls : FaultQueue.AllOs net.faults
  links : ∀ index, (net.link index).stream.AllOs

/-- All faults in store for the listening side are of one kind, and all those for streams of another. -/
structure Stores (outer inner : Call → Fault → Prop) : Prop where
  calls : FaultQueue.Stores outer net.faults
  links : ∀ index, FaultQueue.Stores inner (net.link index).stream.faults

theorem linkOf?_lt {client : String} {index : Nat} (found : net.linkOf? client = some index) :
    index < net.linkCount := by
  have member := List.mem_of_find?_eq_some found
  simpa [linkIndices] using member

theorem doorFor?_some {port : Option Int} {door : Nat} (found : net.doorFor? port = some door) :
    door < net.doorCount ∧ (net.door door).isReachable = true := by
  have member := List.mem_of_find?_eq_some found
  have reached := List.find?_some found
  simp only [Bool.and_eq_true] at reached
  exact ⟨by simpa [doorIndices] using member, reached.1⟩

/-- A change to the stream of a client that leaves the program's side alone does so in the network. -/
theorem changeStream_side (client : String) (change : Stream → Stream)
    (keeps : ∀ stream, (change stream).side = stream.side) (index : Nat) :
    ((net.changeStream client change).link index).side = (net.link index).side := by
  unfold changeStream
  split
  · rw [link_updateLink]
    split
    next same =>
      subst same
      simp only [Link.side, keeps]
    · rfl
  · rfl

theorem changeStream_stores {outer inner : Call → Fault → Prop} (stores : net.Stores outer inner)
    (client : String) (change : Stream → Stream)
    (keeps : ∀ stream : Stream, FaultQueue.Stores inner stream.faults →
      FaultQueue.Stores inner (change stream).faults) :
    (net.changeStream client change).Stores outer inner := by
  unfold changeStream
  split
  · refine ⟨stores.calls, fun index => ?_⟩
    rw [link_updateLink]
    split
    next same =>
      subst same
      exact keeps _ (stores.links _)
    · exact stores.links index
  · exact stores

@[simp] theorem changeStream_door (client : String) (change : Stream → Stream) (door : Nat) :
    (net.changeStream client change).door door = net.door door := by
  unfold changeStream
  split <;> rfl

@[simp] theorem changeStream_platform (client : String) (change : Stream → Stream) :
    (net.changeStream client change).platform = net.platform := by
  unfold changeStream
  split <;> rfl

@[simp] theorem changeStream_doorCount (client : String) (change : Stream → Stream) :
    (net.changeStream client change).doorCount = net.doorCount := by
  unfold changeStream
  split <;> rfl

@[simp] theorem changeStream_linkCount (client : String) (change : Stream → Stream) :
    (net.changeStream client change).linkCount = net.linkCount := by
  unfold changeStream
  split <;> rfl

theorem apply_send (client : String) (bytes : Bytes) :
    (net.apply (.send client bytes)).2 =
      net.changeStream client fun stream => (stream.deliver bytes).2 := by
  simp only [apply, changeStream]
  cases net.linkOf? client with
  | none => rfl
  | some index =>
    have same := Table.update_congr net.links index
      (fun link => { link with stream := ((net.link index).stream.deliver bytes).2 })
      (fun link => { link with stream := (link.stream.deliver bytes).2 }) rfl
    simp only [updateLink, same]

end Net

namespace Stream

theorem deliver_side (stream : Stream) (bytes : Bytes) : (stream.deliver bytes).2.side = stream.side := by
  unfold deliver
  split <;> rfl

end Stream

namespace Event

/-- The faults that the event puts in store are the operating system's. -/
def AllOs : Event → Prop
  | .fail _ call faults => call ≠ .select → ∀ fault, some fault ∈ faults → fault.isOs = true
  | _ => True

/-- The faults that the event puts in store for the listening side are of one kind, and those for streams
of another. -/
def Stores (outer inner : Call → Fault → Prop) : Event → Prop
  | .fail none call faults => ∀ fault, some fault ∈ faults → outer call fault
  | .fail (some _) call faults => ∀ fault, some fault ∈ faults → inner call fault
  | _ => True

/-- A client that connects has a port besides its host, or no address at all. -/
def Addressed : Event → Prop
  | .connect _ (some address) _ _ _ => address.length ≠ 1
  | _ => True

end Event

namespace Net

/-- What a network may become without a call of the program, on the same platform.  Links that exist
keep the program's side; doors stay as they are but for new links at the end of their queues; and new
links are blank, and open only when they wait at a door. -/
structure Grown (before after : Net) : Prop where
  platform : after.platform = before.platform
  doorCount : after.doorCount = before.doorCount
  linkCount : before.linkCount ≤ after.linkCount
  side : ∀ index, index < before.linkCount → (after.link index).side = (before.link index).side
  waits : ∀ door, ∃ added, after.door door =
      { before.door door with pending := (before.door door).pending ++ added } ∧ added.Nodup ∧
    ∀ index ∈ added, before.linkCount ≤ index ∧ index < after.linkCount ∧
      (after.link index).stream.isOpen = true
  born : ∀ index, before.linkCount ≤ index → index < after.linkCount →
    (after.link index).closed = false ∧ (after.link index).broken = false ∧
      (after.link index).stream.outbox = [] ∧
      ((after.link index).stream.isOpen = true →
        ∃ door, door < after.doorCount ∧ index ∈ (after.door door).pending)

theorem Grown.of_side {before after : Net} (platform : after.platform = before.platform)
    (doorCount : after.doorCount = before.doorCount) (linkCount : after.linkCount = before.linkCount)
    (side : ∀ index, (after.link index).side = (before.link index).side)
    (doors : ∀ door, after.door door = before.door door) : Grown before after where
  platform := platform
  doorCount := doorCount
  linkCount := Nat.le_of_eq linkCount.symm
  side := fun index _ => side index
  waits := fun door => ⟨[], by rw [doors door, List.append_nil], List.nodup_nil, by simp⟩
  born := fun index lower upper => absurd upper (by omega)

theorem Grown.refl (net : Net) : Grown net net :=
  .of_side rfl rfl rfl (fun _ => rfl) (fun _ => rfl)

theorem Grown.trans {first second third : Net} (early : Grown first second)
    (late : Grown second third) : Grown first third where
  platform := late.platform.trans early.platform
  doorCount := late.doorCount.trans early.doorCount
  linkCount := Nat.le_trans early.linkCount late.linkCount
  side := fun index bound =>
    (late.side index (Nat.lt_of_lt_of_le bound early.linkCount)).trans (early.side index bound)
  waits := by
    intro door
    obtain ⟨old, oldDoor, oldDistinct, oldLinks⟩ := early.waits door
    obtain ⟨new, newDoor, newDistinct, newLinks⟩ := late.waits door
    refine ⟨old ++ new, ?_, ?_, ?_⟩
    · rw [newDoor, oldDoor, List.append_assoc]
    · refine List.nodup_append.mpr ⟨oldDistinct, newDistinct, ?_⟩
      intro a inOld b inNew
      have := (oldLinks a inOld).2.1
      have := (newLinks b inNew).1
      omega
    · intro index member
      rcases List.mem_append.mp member with inOld | inNew
      · obtain ⟨lower, upper, opened⟩ := oldLinks index inOld
        exact ⟨lower, Nat.lt_of_lt_of_le upper late.linkCount,
          (Link.side_isOpen (late.side index upper)).trans opened⟩
      · obtain ⟨lower, upper, opened⟩ := newLinks index inNew
        exact ⟨Nat.le_trans early.linkCount lower, upper, opened⟩
  born := by
    intro index lower upper
    by_cases old : index < second.linkCount
    · obtain ⟨closed, broken, outbox, waiting⟩ := early.born index lower old
      have same := late.side index old
      refine ⟨(Link.side_closed same).trans closed, (Link.side_broken same).trans broken,
        (Link.side_outbox same).trans outbox, fun opened => ?_⟩
      obtain ⟨door, bound, queued⟩ := waiting ((Link.side_isOpen same).symm.trans opened)
      obtain ⟨new, newDoor, _⟩ := late.waits door
      exact ⟨door, by rw [late.doorCount]; exact bound, by rw [newDoor]; simp [queued]⟩
    · exact late.born index (by omega) upper

variable (net : Net)

theorem addLink_grown (link : Link) (closed : link.closed = false) (broken : link.broken = false)
    (outbox : link.stream.outbox = []) (shut : link.stream.isOpen = false) :
    Grown net (net.addLink link) where
  platform := rfl
  doorCount := rfl
  linkCount := Nat.le_succ _
  side := fun index old => by rw [link_addLink, if_neg (Nat.ne_of_lt old)]
  waits := fun door => ⟨[], by simp, List.nodup_nil, by simp⟩
  born := by
    intro index lower upper
    have new : index = net.linkCount := Nat.le_antisymm (Nat.lt_succ_iff.mp upper) lower
    rw [link_addLink, if_pos new]
    exact ⟨closed, broken, outbox, fun opened => absurd opened (by simp [shut])⟩

theorem queue_grown (link : Link) (closed : link.closed = false) (broken : link.broken = false)
    (outbox : link.stream.outbox = []) (opened : link.stream.isOpen = true) {door : Nat}
    (bound : door < net.doorCount) :
    Grown net ((net.addLink link).updateDoor door fun d =>
      { d with pending := d.pending ++ [net.linkCount] }) where
  platform := rfl
  doorCount := rfl
  linkCount := Nat.le_succ _
  side := fun index old => by rw [link_updateDoor, link_addLink, if_neg (Nat.ne_of_lt old)]
  waits := by
    intro other
    rw [door_updateDoor]
    split
    next same =>
      subst same
      refine ⟨[net.linkCount], rfl, List.nodup_singleton _, fun index member => ?_⟩
      rw [List.mem_singleton.mp member]
      exact ⟨Nat.le_refl _, Nat.lt_succ_self _, by rw [link_updateDoor, link_addLink, if_pos rfl, opened]⟩
    · exact ⟨[], by simp, List.nodup_nil, by simp⟩
  born := by
    intro index lower upper
    have new : index = net.linkCount := Nat.le_antisymm (Nat.lt_succ_iff.mp upper) lower
    rw [link_updateDoor, link_addLink, if_pos new]
    refine ⟨closed, broken, outbox, fun _ => ⟨door, bound, ?_⟩⟩
    simp [door_updateDoor, new]

/-- A client that connects leaves a blank link, open at the end of a door's queue or shut. -/
theorem connect_grown (client : String) (address : Option Address) (window maxSend : Option Nat)
    (port : Option Int) : Grown net (net.connect client address window maxSend port).2 := by
  have dialled : Grown net { net with dialled := net.dialled + 1 } :=
    .of_side rfl rfl rfl (fun _ => rfl) (fun _ => rfl)
  unfold connect
  dsimp only
  split
  next door found => exact dialled.trans (queue_grown _ _ rfl rfl rfl rfl (doorFor?_some _ found).1)
  next refused => exact dialled.trans (addLink_grown _ _ rfl rfl rfl rfl)

/-- An event that leaves the program's side of all links, and all doors, alone. -/
structure Calm (before after : Net) : Prop where
  platform : after.platform = before.platform
  doorCount : after.doorCount = before.doorCount
  linkCount : after.linkCount = before.linkCount
  side : ∀ index, (after.link index).side = (before.link index).side
  doors : ∀ door, after.door door = before.door door

theorem changeStream_calm (client : String) (change : Stream → Stream)
    (keeps : ∀ stream, (change stream).side = stream.side) : Calm net (net.changeStream client change) where
  platform := changeStream_platform net client change
  doorCount := changeStream_doorCount net client change
  linkCount := changeStream_linkCount net client change
  side := changeStream_side net client change keeps
  doors := changeStream_door net client change

/-- A client connects, a client does something to its end of a stream, or the listening side is touched. -/
theorem apply_shape (event : Event) :
    (∃ client address window maxSend port, event = .connect client address window maxSend port) ∨
      (∃ client change, (∀ stream : Stream, (change stream).side = stream.side) ∧
        ∀ net : Net, (net.apply event).2 = net.changeStream client change) ∨
      ∃ faults taken, ∀ net : Net, (net.apply event).2 =
        { net with faults := net.faults ++ faults, taken := taken ++ net.taken } := by
  have untouched : ∀ net : Net, net = { net with faults := net.faults ++ [], taken := [] ++ net.taken } :=
    fun net => by simp
  cases event with
  | connect client address window maxSend port => exact .inl ⟨client, address, window, maxSend, port, rfl⟩
  | send client bytes =>
    exact .inr (.inl ⟨client, fun stream => (stream.deliver bytes).2,
      fun stream => Stream.deliver_side stream bytes, fun net => apply_send net client bytes⟩)
  | close client => exact .inr (.inl ⟨client, Stream.farClose, fun _ => rfl, fun _ => rfl⟩)
  | reset client => exact .inr (.inl ⟨client, Stream.farReset, fun _ => rfl, fun _ => rfl⟩)
  | window client size =>
    exact .inr (.inl ⟨client, fun stream => { stream with window := size }, fun _ => rfl, fun _ => rfl⟩)
  | maxSend client size =>
    exact .inr (.inl ⟨client, fun stream => { stream with maxSend := size }, fun _ => rfl, fun _ => rfl⟩)
  | grants client sizes =>
    exact .inr (.inl ⟨client, fun stream => { stream with grants := sizes }, fun _ => rfl, fun _ => rfl⟩)
  | fail client call faults =>
    cases client with
    | none => exact .inr (.inr ⟨faults.map (call, ·), [], fun _ => rfl⟩)
    | some client =>
      exact .inr (.inl ⟨client, fun stream => { stream with faults := FaultQueue.push stream.faults call faults },
        fun _ => rfl, fun _ => rfl⟩)
  | taken port => exact .inr (.inr ⟨[], [port], fun net => by simp [apply]⟩)
  | interrupt => exact .inr (.inr ⟨[], [], untouched⟩)
  | shutdown => exact .inr (.inr ⟨[], [], untouched⟩)

/-- A client connects, or the event leaves the program's side alone. -/
theorem apply_cases (event : Event) :
    (∃ client address window maxSend port, event = .connect client address window maxSend port) ∨
      Calm net (net.apply event).2 := by
  rcases apply_shape event with connects | ⟨client, change, keeps, applied⟩ | ⟨faults, taken, applied⟩
  · exact .inl connects
  · exact .inr (applied net ▸ changeStream_calm net client change keeps)
  · rw [applied]
    exact .inr ⟨rfl, rfl, rfl, fun _ => rfl, fun _ => rfl⟩

theorem apply_grown (event : Event) : Grown net (net.apply event).2 := by
  rcases net.apply_cases event with ⟨client, address, window, maxSend, port, rfl⟩ | calm
  · exact connect_grown net client address window maxSend port
  · exact .of_side calm.platform calm.doorCount calm.linkCount calm.side calm.doors

/-- Clients reach open doors only. -/
theorem apply_shut {door : Nat} (shut : (net.door door).isOpen = false) (event : Event) :
    (net.apply event).2.door door = net.door door := by
  rcases net.apply_cases event with ⟨client, address, window, maxSend, port, rfl⟩ | calm
  · unfold apply connect
    dsimp only
    split
    next reached found =>
      have other : door ≠ reached := by
        rintro rfl
        have reachable := (doorFor?_some _ found).2
        simp only [Door.isReachable, Bool.and_eq_true] at reachable
        exact absurd (shut.symm.trans reachable.1) (by decide)
      rw [door_updateDoor, if_neg other, door_addLink]
      rfl
    · rfl
  · exact calm.doors door

@[simp] theorem connect_linkCount (client : String) (address : Option Address) (window maxSend : Option Nat)
    (port : Option Int) :
    (net.connect client address window maxSend port).2.linkCount = net.linkCount + 1 := by
  unfold connect
  dsimp only
  split <;> rfl

/-- The one link that a connecting client adds. -/
def newcomer (client : String) (address : Option Address) (window maxSend : Option Nat)
    (port : Option Int) : Link where
  stream :=
    { client, window, maxSend
      address := address.getD (.pair "127.0.0.1" (50000 + (net.dialled + 1 : Nat)))
      isOpen := (net.doorFor? port).isSome
      far := if (net.doorFor? port).isSome then .opened else .closed }

theorem link_connect (client : String) (address : Option Address) (window maxSend : Option Nat)
    (port : Option Int) (index : Nat) :
    (net.connect client address window maxSend port).2.link index =
      if index = net.linkCount then net.newcomer client address window maxSend port
      else net.link index := by
  have same : ({ net with dialled := net.dialled + 1 } : Net).doorFor? port = net.doorFor? port := rfl
  unfold connect newcomer
  cases found : net.doorFor? port with
  | some door =>
    simp only [same, found, link_updateDoor, link_addLink]
    rfl
  | none =>
    simp only [same, found, link_addLink]
    rfl

/-- Nothing has come in yet over a new link, no faults are in store, and a client that does not say so
has an address of two parts. -/
theorem connect_link (client : String) (address : Option Address) (window maxSend : Option Nat)
    (port : Option Int) : ∃ born : Link, born.stream.faults = [] ∧ born.stream.inbox = [] ∧
      born.stream.address = address.getD (.pair "127.0.0.1" (50000 + (net.dialled + 1 : Nat))) ∧
      ∀ index, (net.connect client address window maxSend port).2.link index =
        if index = net.linkCount then born else net.link index :=
  ⟨_, rfl, rfl, rfl, net.link_connect client address window maxSend port⟩

theorem connect_stores {outer inner : Call → Fault → Prop} (stores : net.Stores outer inner)
    (client : String) (address : Option Address) (window maxSend : Option Nat) (port : Option Int) :
    (net.connect client address window maxSend port).2.Stores outer inner := by
  obtain ⟨born, faults, _, _, link⟩ := net.connect_link client address window maxSend port
  refine ⟨?_, fun index => ?_⟩
  · unfold connect
    dsimp only
    split <;> exact stores.calls
  · rw [link]
    split
    · rw [faults]
      exact FaultQueue.stores_nil
    · exact stores.links index

theorem apply_stores {outer inner : Call → Fault → Prop} (stores : net.Stores outer inner) {event : Event}
    (kind : event.Stores outer inner) : (net.apply event).2.Stores outer inner := by
  cases event with
  | connect client address window maxSend port =>
    exact connect_stores net stores client address window maxSend port
  | send client bytes =>
    rw [apply_send]
    refine changeStream_stores net stores client _ fun stream kept => ?_
    unfold Stream.deliver
    split <;> exact kept
  | close client => exact changeStream_stores net stores client Stream.farClose fun _ kept => kept
  | reset client => exact changeStream_stores net stores client Stream.farReset fun _ kept => kept
  | window client size =>
    exact changeStream_stores net stores client (fun stream => { stream with window := size }) fun _ kept => kept
  | maxSend client size =>
    exact changeStream_stores net stores client (fun stream => { stream with maxSend := size }) fun _ kept => kept
  | grants client sizes =>
    exact changeStream_stores net stores client (fun stream => { stream with grants := sizes }) fun _ kept => kept
  | fail client call faults =>
    cases client with
    | none => exact ⟨FaultQueue.stores_push stores.calls kind, stores.links⟩
    | some client =>
      exact changeStream_stores net stores client
        (fun stream => { stream with faults := FaultQueue.push stream.faults call faults })
        fun _ kept => FaultQueue.stores_push kept kind
  | taken port => exact ⟨stores.calls, stores.links⟩
  | interrupt => exact stores
  | shutdown => exact stores

/-- No event puts a stream under a limit. -/
theorem apply_ends {net : Net} (ends : ∀ index, (net.link index).stream.endless = false) (event : Event)
    (index : Nat) : ((net.apply event).2.link index).stream.endless = false := by
  rcases net.apply_cases event with ⟨client, address, window, maxSend, port, rfl⟩ | calm
  · rw [apply, link_connect]
    split
    · rfl
    · exact ends index
  · exact (Link.side_endless (calm.side index)).trans (ends index)

theorem apply_allOs (os : net.AllOs) {event : Event} (system : event.AllOs) :
    (net.apply event).2.AllOs := by
  have kind : event.Stores FaultQueue.IsOs FaultQueue.IsOs := by
    cases event with
    | fail client call faults =>
      cases client <;> exact fun fault member waitless => system waitless fault member
    | _ => trivial
  have start : net.Stores FaultQueue.IsOs FaultQueue.IsOs := ⟨os.calls, fun index => (os.links index).faults⟩
  have stores := apply_stores net start kind
  exact ⟨stores.calls, fun index => ⟨stores.links index, apply_ends (fun index => (os.links index).ends) event index⟩⟩

def applyAll (net : Net) (events : List Event) : Net :=
  events.foldl (fun net event => (net.apply event).2) net

theorem applyAll_grown (net : Net) (events : List Event) : Grown net (net.applyAll events) := by
  induction events generalizing net with
  | nil => exact .refl net
  | cons event rest ih => exact (apply_grown net event).trans (ih (net.apply event).2)

/-- Doors that are shut stay as they are. -/
def LeavesShut (before after : Net) : Prop :=
  ∀ door, (before.door door).isOpen = false → after.door door = before.door door

theorem LeavesShut.trans {first second third : Net} (early : LeavesShut first second)
    (late : LeavesShut second third) : LeavesShut first third := by
  intro door shut
  have same := early door shut
  exact (late door (same ▸ shut)).trans same

theorem applyAll_leavesShut (net : Net) (events : List Event) : LeavesShut net (net.applyAll events) := by
  induction events generalizing net with
  | nil => exact fun _ _ => rfl
  | cons event rest ih =>
    have first : LeavesShut net (net.apply event).2 := fun _ shut => net.apply_shut shut event
    exact first.trans (ih _)

/-- What every event of a kind keeps of a network, any number of them keeps. -/
theorem applyAll_kept {good : Net → Prop} {kind : Event → Prop}
    (keeps : ∀ net event, good net → kind event → good (net.apply event).2) {net : Net} (start : good net)
    (events : List Event) (kinds : ∀ event ∈ events, kind event) : good (net.applyAll events) := by
  induction events generalizing net with
  | nil => exact start
  | cons event rest ih =>
    obtain ⟨first, others⟩ := List.forall_mem_cons.mp kinds
    exact ih (keeps net event start first) others

theorem applyAll_allOs {net : Net} (os : net.AllOs) (events : List Event)
    (system : ∀ event ∈ events, event.AllOs) : (net.applyAll events).AllOs :=
  applyAll_kept (fun net _ kept system => apply_allOs net kept system) os events system

/-- Every link has a port besides its host, or no address at all. -/
def Addressed (net : Net) : Prop := ∀ index, (net.link index).stream.address.length ≠ 1

theorem apply_addressed {net : Net} (addressed : net.Addressed) {event : Event} (proper : event.Addressed) :
    (net.apply event).2.Addressed := by
  intro index
  rcases net.apply_cases event with ⟨client, address, window, maxSend, port, rfl⟩ | calm
  · obtain ⟨born, _, _, given, link⟩ := net.connect_link client address window maxSend port
    rw [apply, link]
    split
    · rw [given]
      cases address with
      | none => simp [Address.pair]
      | some address => exact proper
    · exact addressed index
  · rw [Link.side_address (calm.side index)]
    exact addressed index

theorem applyAll_addressed {net : Net} (addressed : net.Addressed) (events : List Event)
    (proper : ∀ event ∈ events, event.Addressed) : (net.applyAll events).Addressed :=
  @applyAll_kept Addressed Event.Addressed (fun _ _ kept proper => apply_addressed kept proper) net
    addressed events proper

end Net

end RelayBench
