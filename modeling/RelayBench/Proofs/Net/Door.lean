import RelayBench.Proofs.Action
import RelayBench.Proofs.Net.Event

/-! The calls on doors: what accepting, opening and closing do to a network, whatever faults of the
operating system they meet. -/
namespace RelayBench

/-- The door without the links that wait at it. -/
def Door.shell (door : Door) : Door := { door with pending := [] }

namespace Net

variable (net : Net)

/-- The network after a call of the listening side has taken its entry from the fault queue. -/
def called (call : Call) : Net := { net with faults := FaultQueue.drop net.faults call }

@[simp] theorem called_link (call : Call) (index : Nat) : (net.called call).link index = net.link index := rfl

@[simp] theorem called_door (call : Call) (door : Nat) : (net.called call).door door = net.door door := rfl

@[simp] theorem called_platform (call : Call) : (net.called call).platform = net.platform := rfl

@[simp] theorem called_linkCount (call : Call) : (net.called call).linkCount = net.linkCount := rfl

@[simp] theorem called_doorCount (call : Call) : (net.called call).doorCount = net.doorCount := rfl

theorem called_allOs {net : Net} (os : net.AllOs) (call : Call) : (net.called call).AllOs :=
  ⟨FaultQueue.allOs_drop os.calls call, os.links⟩

theorem queued_ok {net : Net} {call : Call} (quiet : FaultQueue.next net.faults call = none) :
    queued call net = .ok () (net.called call) := by
  simp only [queued, quiet, called]

theorem queued_error {net : Net} {call : Call} {fault : Fault}
    (raised : FaultQueue.next net.faults call = some fault) :
    queued call net = .error fault (net.called call) := by
  simp only [queued, raised, called]

theorem checked_ok {net : Net} {answer : Platform → Option Fault} (takes : answer net.platform = none) :
    checked answer net = .ok () net := by
  simp only [checked, takes]

theorem checked_error {net : Net} {answer : Platform → Option Fault} {fault : Fault}
    (refuses : answer net.platform = some fault) : checked answer net = .error fault net := by
  simp only [checked, refuses]

theorem checked_success {net : Net} {answer : Platform → Option Fault} {after : Net}
    (ran : checked answer net = .ok () after) : after = net := by
  cases refusal : answer net.platform with
  | some fault => cases (checked_error refusal).symm.trans ran
  | none =>
    cases (checked_ok refusal).symm.trans ran
    rfl

theorem checked_takes {net : Net} {answer : Platform → Option Fault} {after : Net}
    (ran : checked answer net = .ok () after) : answer net.platform = none := by
  cases refusal : answer net.platform with
  | some fault => cases (checked_error refusal).symm.trans ran
  | none => rfl

theorem updateDoor_allOs {net : Net} (os : net.AllOs) (door : Nat) (change : Door → Door) :
    (net.updateDoor door change).AllOs :=
  ⟨os.calls, os.links⟩

theorem accept_eq (caller : Caller) (door : Nat) :
    accept caller door net =
      if (net.door door).isOpen = true then
        match FaultQueue.next net.faults .accept, (net.door door).pending with
        | some fault, _ => .error fault (net.called .accept)
        | none, [] => .error (if caller = .background then .timedOut else .unavailable) (net.called .accept)
        | none, first :: rest =>
          .ok first ((net.called .accept).updateDoor door fun d => { d with pending := rest })
      else .error .badDescriptor net := by
  cases opened : (net.door door).isOpen with
  | false => simp [accept, opened]
  | true =>
    cases raised : FaultQueue.next net.faults .accept with
    | some fault => simp [accept, opened, queued_error raised]
    | none => cases waiting : (net.door door).pending <;> simp [accept, opened, queued_ok raised, waiting]

/-- An accept takes the oldest link that waits, or fails and leaves the queue of the door as it is. -/
theorem accept_split (caller : Caller) (door : Nat) :
    (∃ fault after, accept caller door net = .error fault after ∧
      (after = net ∨ after = net.called .accept)) ∨
    ∃ first rest, (net.door door).isOpen = true ∧ (net.door door).pending = first :: rest ∧
      accept caller door net =
        .ok first ((net.called .accept).updateDoor door fun d => { d with pending := rest }) := by
  rw [accept_eq]
  split
  next opened =>
    split
    next _ fault raised => exact .inl ⟨fault, net.called .accept, rfl, .inr rfl⟩
    next => exact .inl ⟨_, net.called .accept, rfl, .inr rfl⟩
    next first rest raised queue => exact .inr ⟨first, rest, opened, queue, rfl⟩
  next shut => exact .inl ⟨.badDescriptor, net, rfl, .inl rfl⟩

theorem accept_isOs (os : net.AllOs) {caller : Caller} {door : Nat} {fault : Fault} {after : Net}
    (failed : accept caller door net = .error fault after) : fault.isOs = true := by
  rw [accept_eq] at failed
  split at failed
  · split at failed
    next _ raised found =>
      cases failed
      exact FaultQueue.next_isOs os.calls found (by decide)
    next =>
      cases failed
      split <;> rfl
    next => cases failed
  · cases failed
    rfl

/-- An accept takes the oldest link that waits, or an operating system fault ends it and the queue of
the door stays as it is. -/
theorem accept_cases (os : net.AllOs) (caller : Caller) (door : Nat) :
    (∃ fault after, accept caller door net = .error fault after ∧ fault.isOs = true ∧
      (after = net ∨ after = net.called .accept)) ∨
    ∃ first rest, (net.door door).isOpen = true ∧ (net.door door).pending = first :: rest ∧
      accept caller door net =
        .ok first ((net.called .accept).updateDoor door fun d => { d with pending := rest }) := by
  rcases net.accept_split caller door with ⟨fault, after, failed, left⟩ | taken
  · exact .inl ⟨fault, after, failed, accept_isOs net os failed, left⟩
  · exact .inr taken

/-- The network after a door is closed: no link waits there any more, and those that waited are shut. -/
def shut (door : Nat) : Net :=
  (net.dropPending door).updateDoor door fun d => { d with isOpen := false }

theorem foldl_updateLink (indices : List Nat) (change : Link → Link) :
    indices.foldl (fun net index => net.updateLink index change) net = net.updateLinks indices change := by
  induction indices generalizing net with
  | nil => rfl
  | cons first rest ih => exact ih (net.updateLink first change)

theorem shut_door (door other : Nat) :
    (net.shut door).door other =
      if other = door then { net.door door with pending := [], isOpen := false } else net.door other := by
  have kept : (net.dropPending door).door other =
      (net.updateDoor door fun d => { d with pending := [] }).door other := by
    rw [dropPending, foldl_updateLink]
    rfl
  rw [shut, door_updateDoor]
  split
  next same =>
    subst same
    rw [kept, door_updateDoor, if_pos rfl]
  next different => rw [kept, door_updateDoor, if_neg different]

theorem shut_link (door : Nat) (distinct : (net.door door).pending.Nodup) (index : Nat) :
    (net.shut door).link index =
      if index ∈ (net.door door).pending then
        { net.link index with stream := { (net.link index).stream with isOpen := false } }
      else net.link index := by
  rw [shut, link_updateDoor, dropPending, foldl_updateLink, link_updateLinks _ _ distinct]
  simp only [link_updateDoor]

@[simp] theorem shut_platform (door : Nat) : (net.shut door).platform = net.platform := by
  simp only [shut, dropPending, foldl_updateLink]
  rfl

@[simp] theorem shut_doorCount (door : Nat) : (net.shut door).doorCount = net.doorCount := by
  simp only [shut, dropPending, foldl_updateLink]
  rfl

@[simp] theorem shut_linkCount (door : Nat) : (net.shut door).linkCount = net.linkCount := by
  simp only [shut, dropPending, foldl_updateLink]
  rfl

@[simp] theorem shut_faults (door : Nat) : (net.shut door).faults = net.faults := by
  simp only [shut, dropPending, foldl_updateLink]
  rfl

theorem shut_allOs (os : net.AllOs) (door : Nat) (distinct : (net.door door).pending.Nodup) :
    (net.shut door).AllOs := by
  refine ⟨?_, fun index => ?_⟩
  · rw [shut_faults]
    exact os.calls
  · rw [shut_link net door distinct]
    have kept := os.links index
    split
    · exact ⟨kept.faults, kept.ends⟩
    · exact kept

theorem closeDoor_eq (door : Nat) :
    closeDoor door net =
      if (net.door door).isOpen = true then
        match FaultQueue.next net.faults .close with
        | some fault => .error fault ((net.shut door).called .close)
        | none => .ok () ((net.shut door).called .close)
      else .ok () net := by
  cases opened : (net.door door).isOpen with
  | false => simp [closeDoor, opened]
  | true =>
    cases raised : FaultQueue.next net.faults .close with
    | some fault =>
      have call : queued .close (net.shut door) = _ := queued_error ((net.shut_faults door).symm ▸ raised)
      simpa [closeDoor, opened, shut] using call
    | none =>
      have call : queued .close (net.shut door) = _ := queued_ok ((net.shut_faults door).symm ▸ raised)
      simpa [closeDoor, opened, shut] using call

/-- A door is closed without a fault where none is in store. -/
theorem closeDoor_ok {net : Net} (quiet : FaultQueue.next net.faults .close = none) (door : Nat) :
    ∃ after, closeDoor door net = .ok () after := by
  rw [closeDoor_eq, quiet]
  split <;> exact ⟨_, rfl⟩

theorem closeDoor_open (os : net.AllOs) (door : Nat) (opened : (net.door door).isOpen = true) :
    closeDoor door net = .ok () ((net.shut door).called .close) ∨
      ∃ fault, fault.isOs = true ∧ closeDoor door net = .error fault ((net.shut door).called .close) := by
  rw [closeDoor_eq, if_pos opened]
  split
  next fault raised => exact .inr ⟨fault, FaultQueue.next_isOs os.calls raised (by decide), rfl⟩
  next quiet => exact .inl rfl

/-- What stays when one door changes: all links and all other doors. -/
structure Elsewhere (door : Nat) (before after : Net) : Prop where
  platform : after.platform = before.platform
  linkCount : after.linkCount = before.linkCount
  doorCount : after.doorCount = before.doorCount
  link : ∀ index, after.link index = before.link index
  others : ∀ other, other ≠ door → after.door other = before.door other
  pending : (after.door door).pending = (before.door door).pending
  isOpen : (after.door door).isOpen = (before.door door).isOpen
  allOs : after.AllOs

theorem Elsewhere.refl (os : net.AllOs) (door : Nat) : Elsewhere door net net :=
  ⟨rfl, rfl, rfl, fun _ => rfl, fun _ _ => rfl, rfl, rfl, os⟩

theorem Elsewhere.trans {door : Nat} {first second third : Net} (early : Elsewhere door first second)
    (late : Elsewhere door second third) : Elsewhere door first third where
  platform := late.platform.trans early.platform
  linkCount := late.linkCount.trans early.linkCount
  doorCount := late.doorCount.trans early.doorCount
  link := fun index => (late.link index).trans (early.link index)
  others := fun other apart => (late.others other apart).trans (early.others other apart)
  pending := late.pending.trans early.pending
  isOpen := late.isOpen.trans early.isOpen
  allOs := late.allOs

theorem called_elsewhere {net : Net} (os : net.AllOs) (call : Call) (door : Nat) :
    Elsewhere door net (net.called call) :=
  ⟨rfl, rfl, rfl, fun _ => rfl, fun _ _ => rfl, rfl, rfl, called_allOs os call⟩

theorem updateDoor_elsewhere {net : Net} (os : net.AllOs) (door : Nat) (change : Door → Door)
    (queue : ∀ d, (change d).pending = d.pending) (state : ∀ d, (change d).isOpen = d.isOpen) :
    Elsewhere door net (net.updateDoor door change) where
  platform := rfl
  linkCount := rfl
  doorCount := rfl
  link := fun _ => rfl
  others := fun other apart => by rw [door_updateDoor, if_neg apart]
  pending := by rw [door_updateDoor, if_pos rfl, queue]
  isOpen := by rw [door_updateDoor, if_pos rfl, state]
  allOs := updateDoor_allOs os door change

/-- How a call on a door goes: it changes nothing elsewhere, and its fault is the operating system's. -/
def KeepsElsewhere {α : Type} (door : Nat) (before : Net) : EStateM.Result Fault Net α → Prop
  | .ok _ after => Elsewhere door before after
  | .error fault after => fault.isOs = true ∧ Elsewhere door before after

theorem KeepsElsewhere.bind {α β : Type} {door : Nat} {net : Net} {first : NetCall α}
    {next : α → NetCall β} (kept : KeepsElsewhere door net (first net))
    (rest : ∀ a after, first net = .ok a after → Elsewhere door net after →
      KeepsElsewhere door after (next a after)) :
    KeepsElsewhere door net ((first >>= next) net) := by
  rw [Action.bind_apply]
  cases ran : first net with
  | error fault after => simpa [KeepsElsewhere, ran] using kept
  | ok a after =>
    have early : Elsewhere door net after := by simpa [KeepsElsewhere, ran] using kept
    have late := rest a after ran early
    simp only
    cases last : next a after with
    | error fault final =>
      simp only [last, KeepsElsewhere] at late
      exact ⟨late.1, early.trans late.2⟩
    | ok b final =>
      simp only [last, KeepsElsewhere] at late
      exact early.trans late

theorem queued_elsewhere (os : net.AllOs) (call : Call) (waitless : call ≠ .select) (door : Nat) :
    KeepsElsewhere door net (queued call net) := by
  cases raised : FaultQueue.next net.faults call with
  | some fault =>
    rw [queued_error raised]
    exact ⟨FaultQueue.next_isOs os.calls raised waitless, called_elsewhere os call door⟩
  | none =>
    rw [queued_ok raised]
    exact called_elsewhere os call door

theorem checked_elsewhere (os : net.AllOs) (door : Nat) {answer : Platform → Option Fault}
    (takes : Platform.OsOnly (answer net.platform)) : KeepsElsewhere door net (checked answer net) := by
  cases refusal : answer net.platform with
  | some fault =>
    rw [checked_error refusal]
    exact ⟨takes fault refusal, .refl net os door⟩
  | none =>
    rw [checked_ok refusal]
    exact .refl net os door

theorem bindDoor_elsewhere (os : net.AllOs) (door : Nat) {host : Host} {port : Int}
    (takes : Platform.OsOnly (net.platform.hostFault host)) (lower : 0 ≤ port) (upper : port ≤ 65535) :
    KeepsElsewhere door net (bindDoor door host port net) := by
  refine (checked_elsewhere net os door takes).bind fun _ before _ passed => ?_
  refine (queued_elsewhere before passed.allOs .bind (by decide) door).bind fun done after _ kept => ?_
  have inside : ¬(port < 0 ∨ 65535 < port) := by omega
  simp only [Action.bind_apply, Action.get_apply, Bool.or_eq_true, decide_eq_true_eq, inside, if_false]
  split
  · have searched (next : Nat) : Elsewhere door after { after with nextPort := next } :=
      ⟨rfl, rfl, rfl, fun _ => rfl, fun _ _ => rfl, rfl, rfl, kept.allOs.calls, kept.allOs.links⟩
    exact (searched _).trans
      (updateDoor_elsewhere (searched _).allOs door _ (fun _ => rfl) (fun _ => rfl))
  · split
    · exact ⟨rfl, .refl after kept.allOs door⟩
    · exact updateDoor_elsewhere kept.allOs door _ (fun _ => rfl) (fun _ => rfl)

theorem listenDoor_elsewhere (os : net.AllOs) (door : Nat) {backlog : Option Int}
    (takes : Platform.OsOnly (net.platform.backlogFault backlog)) :
    KeepsElsewhere door net (listenDoor door backlog net) :=
  (checked_elsewhere net os door takes).bind fun _ before _ passed =>
    (queued_elsewhere before passed.allOs .listen (by decide) door).bind fun _ _ _ kept =>
      updateDoor_elsewhere kept.allOs door _ (fun _ => rfl) (fun _ => rfl)

theorem listenDoor_isListening {door : Nat} {backlog : Option Int} {after : Net}
    (listening : listenDoor door backlog net = .ok () after) :
    (after.door door).isListening = true := by
  obtain ⟨_, _, _, called⟩ := Action.bind_success listening
  obtain ⟨_, _, _, rest⟩ := Action.bind_success called
  cases rest
  simp [door_updateDoor]

/-- What an opening does to the door that it has made. -/
def setUp (door : Nat) (host : Host) (port : Int) (backlog : Option Int) : NetCall Unit := do
  queued .setsockopt
  bindDoor door host port
  listenDoor door backlog

/-- The platform takes an address and a backlog, or refuses them as the operating system does. -/
structure Takes (host : Host) (backlog : Option Int) : Prop where
  host : Platform.OsOnly (net.platform.hostFault host)
  backlog : Platform.OsOnly (net.platform.backlogFault backlog)

theorem setUp_elsewhere (os : net.AllOs) (door : Nat) {host : Host} {port : Int} {backlog : Option Int}
    (takes : net.Takes host backlog) (lower : 0 ≤ port) (upper : port ≤ 65535) :
    KeepsElsewhere door net (setUp door host port backlog net) :=
  (queued_elsewhere net os .setsockopt (by decide) door).bind fun _ _ _ set =>
    (bindDoor_elsewhere _ set.allOs door (set.platform ▸ takes.host) lower upper).bind fun _ _ _ bound =>
      listenDoor_elsewhere _ bound.allOs door ((bound.platform.trans set.platform) ▸ takes.backlog)

theorem setUp_isListening {door : Nat} {host : Host} {port : Int} {backlog : Option Int} {after : Net}
    (ran : setUp door host port backlog net = .ok () after) : (after.door door).isListening = true := by
  obtain ⟨_, _, _, rest⟩ := Action.bind_success ran
  obtain ⟨_, _, _, listening⟩ := Action.bind_success rest
  exact listenDoor_isListening _ listening

/-- What stays when a door is added: all links, and the doors there were. -/
structure Added (before after : Net) : Prop where
  platform : after.platform = before.platform
  linkCount : after.linkCount = before.linkCount
  doorCount : before.doorCount ≤ after.doorCount
  link : ∀ index, after.link index = before.link index
  door : ∀ door, door < before.doorCount → after.door door = before.door door
  allOs : after.AllOs

/-- The network with a further door that is open and not yet bound to an address. -/
def addDoor : Net :=
  { net with
    doors := net.doors.update net.doorCount fun _ => { isOpen := true }
    doorCount := net.doorCount + 1 }

theorem addDoor_added (os : net.AllOs) : Added net net.addDoor where
  platform := rfl
  linkCount := rfl
  doorCount := Nat.le_succ _
  link := fun _ => rfl
  door := fun _ old => Table.get_update_of_ne _ _ (Nat.ne_of_lt old)
  allOs := ⟨os.calls, os.links⟩

theorem Added.elsewhere {before middle after : Net} (early : Added before middle)
    (late : Elsewhere before.doorCount middle after) : Added before after where
  platform := late.platform.trans early.platform
  linkCount := late.linkCount.trans early.linkCount
  doorCount := Nat.le_trans early.doorCount (Nat.le_of_eq late.doorCount.symm)
  link := fun index => (late.link index).trans (early.link index)
  door := fun door old => (late.others door (Nat.ne_of_lt old)).trans (early.door door old)
  allOs := late.allOs

/-- Every door from a number on is shut, with nobody waiting. -/
def Vacated (first : Nat) (net : Net) : Prop :=
  ∀ door, first ≤ door → door < net.doorCount →
    (net.door door).isOpen = false ∧ (net.door door).pending = []

/-- An attempt that fails leaves its door shut. -/
theorem Added.retired {before middle after : Net} (start : Added before middle)
    (count : middle.doorCount = before.doorCount + 1) (kept : Elsewhere before.doorCount middle after)
    (empty : (after.door before.doorCount).pending = []) :
    Added before ((after.shut before.doorCount).called .close) ∧
      Vacated before.doorCount ((after.shut before.doorCount).called .close) := by
  have nobody : (after.door before.doorCount).pending.Nodup := by
    rw [empty]
    exact List.nodup_nil
  have early := start.elsewhere kept
  refine ⟨⟨by simpa using early.platform, by simpa using early.linkCount, by simpa using early.doorCount, fun index => ?_,
    fun door old => ?_, called_allOs (shut_allOs after kept.allOs _ nobody) .close⟩, fun door old new => ?_⟩
  · rw [called_link, shut_link after _ nobody, empty, if_neg List.not_mem_nil, early.link]
  · rw [called_door, shut_door, if_neg (Nat.ne_of_lt old), early.door door old]
  · have more := kept.doorCount
    have same : door = before.doorCount := by
      simp only [called_doorCount, shut_doorCount] at new
      omega
    rw [called_door, shut_door, if_pos same]
    exact ⟨rfl, rfl⟩

theorem openDoor_made {host : Host} {port : Int} {backlog : Option Int} {door : Nat} {made : Net}
    (created : createDoor net = .ok door made) :
    openDoor host port backlog net = match setUp door host port backlog made with
      | .ok _ after => .ok door after
      | .error fault after =>
        if fault.isOs then (do closeDoor door; throw (bindFault host port fault) : NetCall Nat) after
        else .error fault after := by
  cases ran : setUp door host port backlog made with
  | ok done after =>
    unfold setUp at ran
    rw [openDoor, Action.bind_ok created, Action.bind_apply, Action.tryCatch_apply, ran]
    rfl
  | error fault after =>
    unfold setUp at ran
    rw [openDoor, Action.bind_ok created, Action.bind_apply, Action.tryCatch_apply, ran]
    by_cases system : fault.isOs = true
    · simp only [system, if_true, Action.bind_apply]
      cases closeDoor door after <;> rfl
    · simp only [system]
      rfl

/-- Opening a door either gives a new door that listens with nobody waiting, or fails and leaves no
door open that was not there before. -/
theorem openDoor_cases (os : net.AllOs) {host : Host} {port : Int} {backlog : Option Int}
    (takes : net.Takes host backlog) (lower : 0 ≤ port) (upper : port ≤ 65535) :
    (∃ after, openDoor host port backlog net = .ok net.doorCount after ∧ Added net after ∧
      after.doorCount = net.doorCount + 1 ∧ (after.door net.doorCount).isOpen = true ∧
      (after.door net.doorCount).isListening = true ∧ (after.door net.doorCount).pending = []) ∨
    ∃ fault after, openDoor host port backlog net = .error fault after ∧ Added net after ∧
      Vacated net.doorCount after := by
  cases raised : FaultQueue.next net.faults .socket with
  | some fault =>
    have created : createDoor net = .error fault (net.called .socket) := by
      simp [createDoor, queued_error raised]
    refine .inr ⟨fault, net.called .socket, by simp [openDoor, created], ?_, ?_⟩
    · exact ⟨rfl, rfl, Nat.le_refl _, fun _ => rfl, fun _ _ => rfl, called_allOs os .socket⟩
    · exact fun door old new => absurd new (Nat.not_lt_of_le old)
  | none =>
    have created : createDoor net = .ok net.doorCount (net.called .socket).addDoor := by
      simp [createDoor, queued_ok raised, addDoor]
    have start : Added net (net.called .socket).addDoor := by
      have more := addDoor_added (net.called .socket) (called_allOs os .socket)
      exact ⟨more.platform, more.linkCount, more.doorCount, more.link, more.door, more.allOs⟩
    have blank : (net.called .socket).addDoor.door net.doorCount = { isOpen := true } := by
      simp [addDoor, door, called]
    have taken : (net.called .socket).addDoor.Takes host backlog :=
      ⟨start.platform ▸ takes.host, start.platform ▸ takes.backlog⟩
    have course := setUp_elsewhere _ start.allOs net.doorCount taken lower upper
    rw [openDoor_made net created]
    cases ran : setUp net.doorCount host port backlog (net.called .socket).addDoor with
    | ok done after =>
      simp only [ran, KeepsElsewhere] at course
      refine .inl ⟨after, rfl, start.elsewhere course, course.doorCount, ?_, setUp_isListening _ ran, ?_⟩
      · rw [course.isOpen, blank]
      · rw [course.pending, blank]
    | error fault after =>
      simp only [ran, KeepsElsewhere] at course
      obtain ⟨system, kept⟩ := course
      have opened : (after.door net.doorCount).isOpen = true := by rw [kept.isOpen, blank]
      have empty : (after.door net.doorCount).pending = [] := by rw [kept.pending, blank]
      obtain ⟨added, shut⟩ := start.retired rfl kept empty
      simp only [system, if_true]
      rcases closeDoor_open after kept.allOs _ opened with closed | ⟨other, _, closed⟩
      · exact .inr ⟨_, _, Action.bind_ok closed _, added, shut⟩
      · exact .inr ⟨_, _, Action.bind_error closed _, added, shut⟩

theorem bindDoor_inRange {door : Nat} {host : Host} {port : Int} {after : Net}
    (bound : bindDoor door host port net = .ok () after) : 0 ≤ port ∧ port ≤ 65535 := by
  obtain ⟨_, _, _, called⟩ := Action.bind_success bound
  obtain ⟨_, _, _, rest⟩ := Action.bind_success called
  by_contra outside
  have outside : port < 0 ∨ 65535 < port := by omega
  simp [outside] at rest

/-- An opening that succeeds makes a door and sets it up. -/
theorem openDoor_split {host : Host} {port : Int} {backlog : Option Int} {index : Nat} {after : Net}
    (opened : openDoor host port backlog net = .ok index after) :
    ∃ made, createDoor net = .ok index made ∧ setUp index host port backlog made = .ok () after := by
  obtain ⟨door, made, created, _⟩ := Action.bind_success opened
  rw [openDoor_made net created] at opened
  split at opened
  next ran =>
    cases opened
    exact ⟨made, created, ran⟩
  next fault middle ran =>
    split at opened
    · obtain ⟨_, _, _, thrown⟩ := Action.bind_success opened
      cases thrown
    · cases opened

theorem openDoor_inRange {host : Host} {port : Int} {backlog : Option Int} {index : Nat} {after : Net}
    (opened : openDoor host port backlog net = .ok index after) : 0 ≤ port ∧ port ≤ 65535 := by
  obtain ⟨made, _, ran⟩ := openDoor_split net opened
  obtain ⟨_, _, _, binding⟩ := Action.bind_success ran
  obtain ⟨_, _, bound, _⟩ := Action.bind_success binding
  exact bindDoor_inRange _ bound

theorem queued_success {call : Call} {after : Net} (ran : queued call net = .ok () after) :
    after = net.called call := by
  cases raised : FaultQueue.next net.faults call with
  | some fault => cases (queued_error raised).symm.trans ran
  | none =>
    cases (queued_ok raised).symm.trans ran
    rfl

/-- What stays of a network when a door is set up: the links and who waits, and no new faults are in store. -/
structure Aside (door : Nat) (before after : Net) : Prop where
  platform : after.platform = before.platform
  links : after.links = before.links
  linkCount : after.linkCount = before.linkCount
  pending : (after.door door).pending = (before.door door).pending
  faults : ∀ {kind}, FaultQueue.Stores kind before.faults → FaultQueue.Stores kind after.faults

theorem Aside.trans {door : Nat} {first second third : Net} (early : Aside door first second)
    (late : Aside door second third) : Aside door first third where
  platform := late.platform.trans early.platform
  links := late.links.trans early.links
  linkCount := late.linkCount.trans early.linkCount
  pending := late.pending.trans early.pending
  faults := fun stores => late.faults (early.faults stores)

theorem queued_aside (door : Nat) {call : Call} {after : Net} (ran : queued call net = .ok () after) :
    Aside door net after := by
  rw [queued_success net ran]
  exact ⟨rfl, rfl, rfl, rfl, fun stores => FaultQueue.stores_drop stores call⟩

theorem updateDoor_aside (door : Nat) {change : Door → Door} (queue : ∀ d, (change d).pending = d.pending) :
    Aside door net (net.updateDoor door change) :=
  ⟨rfl, rfl, rfl, by rw [door_updateDoor, if_pos rfl, queue], id⟩

theorem bindDoor_aside {door : Nat} {host : Host} {port : Int} {after : Net}
    (bound : bindDoor door host port net = .ok () after) : Aside door net after := by
  obtain ⟨_, before, checked, calling⟩ := Action.bind_success bound
  obtain rfl := checked_success checked
  obtain ⟨_, middle, called, rest⟩ := Action.bind_success calling
  refine (queued_aside before door called).trans ?_
  simp only [Action.bind_apply, Action.get_apply] at rest
  split at rest
  · cases rest
  · split at rest
    · cases rest
      have searched (next : Nat) : Aside door middle { middle with nextPort := next } :=
        ⟨rfl, rfl, rfl, rfl, id⟩
      exact (searched _).trans (updateDoor_aside _ door fun _ => rfl)
    · split at rest
      · cases rest
      · cases rest
        exact updateDoor_aside middle door fun _ => rfl

theorem listenDoor_aside {door : Nat} {backlog : Option Int} {after : Net}
    (listening : listenDoor door backlog net = .ok () after) : Aside door net after := by
  obtain ⟨_, before, checked, calling⟩ := Action.bind_success listening
  obtain rfl := checked_success checked
  obtain ⟨_, middle, called, rest⟩ := Action.bind_success calling
  refine (queued_aside before door called).trans ?_
  cases rest
  exact updateDoor_aside middle door fun _ => rfl

theorem setUp_aside {door : Nat} {host : Host} {port : Int} {backlog : Option Int} {after : Net}
    (ran : setUp door host port backlog net = .ok () after) : Aside door net after := by
  obtain ⟨_, second, set, binding⟩ := Action.bind_success ran
  obtain ⟨_, third, bound, listening⟩ := Action.bind_success binding
  exact (queued_aside net door set).trans ((bindDoor_aside second bound).trans (listenDoor_aside third listening))

/-- A door that could be opened has nobody waiting, and opening it touches no link. -/
theorem openDoor_success {host : Host} {port : Int} {backlog : Option Int} {index : Nat} {after : Net}
    (opened : openDoor host port backlog net = .ok index after) :
    after.links = net.links ∧ after.linkCount = net.linkCount ∧ (after.door index).pending = [] ∧
      ∀ {kind}, FaultQueue.Stores kind net.faults → FaultQueue.Stores kind after.faults := by
  obtain ⟨made, created, ran⟩ := openDoor_split net opened
  obtain ⟨_, first, called, making⟩ := Action.bind_success created
  rw [queued_success net called] at making
  cases making
  have course := setUp_aside _ ran
  refine ⟨course.links, course.linkCount, course.pending.trans ?_, fun stores => course.faults ?_⟩
  · simp [door, Net.called]
  · exact FaultQueue.stores_drop stores .socket

/-- Where a door could be opened, the platform takes the address and the backlog. -/
theorem openDoor_takes {host : Host} {port : Int} {backlog : Option Int} {index : Nat} {after : Net}
    (opened : openDoor host port backlog net = .ok index after) : net.Takes host backlog := by
  obtain ⟨made, created, ran⟩ := openDoor_split net opened
  obtain ⟨_, first, called, making⟩ := Action.bind_success created
  rw [queued_success net called] at making
  cases making
  obtain ⟨_, second, set, binding⟩ := Action.bind_success ran
  obtain ⟨_, third, bound, listening⟩ := Action.bind_success binding
  obtain ⟨_, _, hosts, _⟩ := Action.bind_success bound
  obtain ⟨_, _, backlogs, _⟩ := Action.bind_success listening
  have early : second.platform = net.platform :=
    (congrArg Net.platform (queued_success _ set)).trans rfl
  have late : third.platform = net.platform := (bindDoor_aside second bound).platform.trans early
  constructor
  · rw [← early, checked_takes hosts]
    exact Platform.osOnly_none
  · rw [← late, checked_takes backlogs]
    exact Platform.osOnly_none

end Net
end RelayBench
