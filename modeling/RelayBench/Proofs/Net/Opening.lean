import Mathlib.Data.List.Nodup
import Mathlib.Data.List.Perm.Subperm
import RelayBench.Proofs.Net.Door

/-! Opening a door is all or nothing.  Either there is one open door more, which listens on a port that was
free, or the doors are those of before and the fault tells what stood in the way.  The one opening that leaves
an idle door behind is the one that a fault of another kind than the operating system's ends. -/
namespace RelayBench

/-- The calls by which a new door is set up. -/
def Call.setsUp (call : Call) : Prop := call = .setsockopt ∨ call = .bind ∨ call = .listen

/-- A door that was made and does not listen. -/
structure Door.Idle (door : Door) : Prop where
  opened : door.isOpen = true
  empty : door.pending = []
  silent : door.isListening = false

namespace Net

def openDoors (net : Net) : List Nat := net.doorIndices.filter fun door => (net.door door).isOpen

def reachableDoors (net : Net) : List Nat := net.doorIndices.filter fun door => (net.door door).isReachable

/-- The ports that cannot be given to a door. -/
def usedPorts (net : Net) : List Int := net.taken ++ net.reachableDoors.map fun door => (net.door door).port

section

variable (net : Net)

theorem isPortUsed_iff (port : Int) : net.isPortUsed port = true ↔ port ∈ net.usedPorts := by
  simp only [isPortUsed, usedPorts, reachableDoors, Bool.or_eq_true, List.contains_iff_mem, List.any_eq_true,
    Bool.and_eq_true, beq_iff_eq, List.mem_append, List.mem_map, List.mem_filter, and_assoc]

theorem isPortUsed_congr {net other : Net} (same : net.usedPorts = other.usedPorts) (port : Int) :
    net.isPortUsed port = other.isPortUsed port := by
  rw [Bool.eq_iff_iff, isPortUsed_iff, isPortUsed_iff, same]

theorem usedPorts_length : net.usedPorts.length ≤ net.taken.length + net.doorCount := by
  have fewer := (List.filter_sublist (l := net.doorIndices) (p := fun door => (net.door door).isReachable)).length_le
  simpa [usedPorts, reachableDoors, doorIndices] using fewer

/-- Where the search for a port ends at a used one, it has passed used ones only. -/
theorem freePort_used {limit port : Nat} (used : net.isPortUsed (net.freePort limit port) = true) :
    ∀ passed, port ≤ passed → passed < port + limit → net.isPortUsed passed = true := by
  induction limit generalizing port with
  | zero => omega
  | succ limit ih =>
    intro passed least most
    rw [freePort] at used
    split at used
    next taken =>
      by_cases first : passed = port
      · exact first ▸ taken
      · exact ih used passed (by omega) (by omega)
    next free => exact absurd used free

/-- There are more tries than ports in use, so that the port found is free. -/
theorem freePort_free (port : Nat) :
    net.isPortUsed (net.freePort (net.taken.length + net.doorCount + 1) port) = false := by
  by_contra taken
  have used := net.freePort_used (Bool.not_eq_false _ ▸ taken)
  let tried := (List.range' port (net.taken.length + net.doorCount + 1)).map Int.ofNat
  have distinct : tried.Nodup := List.Nodup.map (fun _ _ => Int.ofNat.inj) List.nodup_range'
  have within : tried ⊆ net.usedPorts := by
    intro number member
    obtain ⟨passed, between, rfl⟩ := List.mem_map.mp member
    have bounds := List.mem_range'_1.mp between
    exact (net.isPortUsed_iff _).mp (used passed bounds.1 bounds.2)
  have few := (List.subperm_of_subset distinct within).length_le
  have all := net.usedPorts_length
  simp only [tried, List.length_map, List.length_range'] at few
  omega

end

/-- What stays when a door is set up: the platform, the links, the other doors, and what is in store for
other calls. -/
structure Beside (door : Nat) (before after : Net) : Prop where
  platform : after.platform = before.platform
  links : after.links = before.links
  linkCount : after.linkCount = before.linkCount
  taken : after.taken = before.taken
  doorCount : after.doorCount = before.doorCount
  others : ∀ other, other ≠ door → after.door other = before.door other
  spared : ∀ call, ¬call.setsUp → FaultQueue.entries after.faults call = FaultQueue.entries before.faults call

theorem Beside.trans {door : Nat} {first second third : Net} (early : Beside door first second)
    (late : Beside door second third) : Beside door first third where
  platform := late.platform.trans early.platform
  links := late.links.trans early.links
  linkCount := late.linkCount.trans early.linkCount
  taken := late.taken.trans early.taken
  doorCount := late.doorCount.trans early.doorCount
  others := fun other apart => (late.others other apart).trans (early.others other apart)
  spared := fun call spare => (late.spared call spare).trans (early.spared call spare)

theorem Beside.refl (net : Net) (door : Nat) : Beside door net net :=
  ⟨rfl, rfl, rfl, rfl, rfl, fun _ _ => rfl, fun _ _ => rfl⟩

theorem called_beside (net : Net) (call : Call) (setsUp : call.setsUp) (door : Nat) :
    Beside door net (net.called call) :=
  ⟨rfl, rfl, rfl, rfl, rfl, fun _ _ => rfl, fun _ spare => FaultQueue.entries_drop_of_ne fun same => spare (same ▸ setsUp)⟩

theorem updateDoor_beside (net : Net) (door : Nat) (change : Door → Door) :
    Beside door net (net.updateDoor door change) :=
  ⟨rfl, rfl, rfl, rfl, rfl, fun other apart => by rw [door_updateDoor, if_neg apart], fun _ _ => rfl⟩

/-- The fault of a port that cannot be given to a door. -/
inductive Unfit (port : Int) (net : Net) : Fault → Prop
  | outside (outside : port < 0 ∨ 65535 < port) :
      Unfit port net (.system .overflow [.text "bind(): port must be 0-65535."])
  | used (asked : port ≠ 0) (used : net.isPortUsed port = true) : Unfit port net .addressInUse

/-- What stands in the way of a door that was made: a call on it fails, its port does not do, or the
platform does not take its host or its backlog. -/
inductive Obstacle (host : Host) (port : Int) (backlog : Option Int) (net : Net) (fault : Fault) : Prop
  | failed {call : Call} (setsUp : call.setsUp) (next : FaultQueue.next net.faults call = some fault)
  | unfit (unfit : Unfit port net fault)
  | noHost (refusal : net.platform.hostFault host = some fault)
  | noBacklog (refusal : net.platform.backlogFault backlog = some fault)

/-- A port that is given to a door when `port` is asked for: that one, or any free one for port zero. -/
structure Given (net : Net) (port given : Int) : Prop where
  asked : port ≠ 0 → given = port
  inside : 0 ≤ port ∧ port ≤ 65535
  free : net.isPortUsed given = false

section

variable {net : Net} (door : Nat) (host : Host) (port : Int)

/-- A binding to a host that the platform takes, if no fault in store ends it, gives the door an address,
unless the port does not do. -/
theorem bindDoor_quiet (takes : net.platform.hostFault host = none)
    (quiet : FaultQueue.next net.faults .bind = none) :
    (∃ given after, bindDoor door host port net = .ok () after ∧ Given net port given ∧ Beside door net after ∧
      after.door door = { net.door door with host, port := given } ∧ after.faults = (net.called .bind).faults) ∨
    ∃ fault, bindDoor door host port net = .error fault (net.called .bind) ∧ Unfit port net fault := by
  have called := called_beside net .bind (.inr (.inl rfl)) door
  have taken : checked (Platform.hostFault · host) net = .ok () net := checked_ok takes
  simp only [bindDoor, Action.bind_ok taken, Action.bind_ok (queued_ok quiet), Action.bind_apply,
    Action.get_apply, Bool.or_eq_true, decide_eq_true_eq]
  by_cases outside : port < 0 ∨ 65535 < port
  · exact .inr ⟨_, by rw [if_pos outside]; rfl, .outside outside⟩
  rw [if_neg outside]
  have inside : 0 ≤ port ∧ port ≤ 65535 := by omega
  by_cases any : port = 0
  · rw [if_pos any]
    have searched (next : Nat) : Beside door net { net.called .bind with nextPort := next } :=
      ⟨rfl, rfl, rfl, rfl, rfl, fun _ _ => rfl, called.spared⟩
    have free := (net.called .bind).freePort_free net.nextPort
    refine .inl ⟨_, _, rfl, ⟨fun asked => absurd any asked, inside, free⟩,
      (searched _).trans (updateDoor_beside _ door _), ?_, rfl⟩
    rw [door_updateDoor, if_pos rfl]
    rfl
  · rw [if_neg any]
    cases used : (net.called .bind).isPortUsed port with
    | true => exact .inr ⟨_, rfl, .used any used⟩
    | false =>
      refine .inl ⟨port, _, rfl, ⟨fun _ => rfl, inside, used⟩, called.trans (updateDoor_beside _ door _), ?_, rfl⟩
      rw [door_updateDoor, if_pos rfl, called_door]

/-- A door is bound to the port it is given, or something stands in the way and it does not listen. -/
theorem bindDoor_course (idle : (net.door door).Idle) :
    (∃ given after, bindDoor door host port net = .ok () after ∧ Given net port given ∧ Beside door net after ∧
      after.door door = { net.door door with host, port := given } ∧ after.faults = (net.called .bind).faults) ∨
    ∃ fault after, bindDoor door host port net = .error fault after ∧
      (FaultQueue.next net.faults .bind = some fault ∨ net.platform.hostFault host = some fault ∨
        Unfit port net fault) ∧ Beside door net after ∧ (after.door door).Idle := by
  have called := called_beside net .bind (.inr (.inl rfl)) door
  cases refusal : net.platform.hostFault host with
  | some fault =>
    exact .inr ⟨fault, net, Action.bind_error (checked_error refusal) _, .inr (.inl rfl), .refl net door, idle⟩
  | none =>
    have taken : checked (Platform.hostFault · host) net = .ok () net := checked_ok refusal
    cases unbound : FaultQueue.next net.faults .bind with
    | some fault =>
      have failed : bindDoor door host port net = .error fault (net.called .bind) := by
        rw [bindDoor, Action.bind_ok taken, Action.bind_error (queued_error unbound)]
      exact .inr ⟨fault, _, failed, .inl rfl, called, idle⟩
    | none =>
      rcases bindDoor_quiet door host port refusal unbound with bound | ⟨fault, failed, unfit⟩
      · exact .inl bound
      · exact .inr ⟨fault, _, failed, .inr (.inr unfit), called, idle⟩

/-- A bound door begins to listen, or something stands in the way. -/
theorem listenDoor_course (backlog : Option Int) (idle : (net.door door).Idle) :
    (∃ after, listenDoor door backlog net = .ok () after ∧ Beside door net after ∧
      after.door door = { net.door door with backlog, isListening := true }) ∨
    ∃ fault after, listenDoor door backlog net = .error fault after ∧
      (FaultQueue.next net.faults .listen = some fault ∨ net.platform.backlogFault backlog = some fault) ∧
      Beside door net after ∧ (after.door door).Idle := by
  have called := called_beside net .listen (.inr (.inr rfl)) door
  cases refusal : net.platform.backlogFault backlog with
  | some fault =>
    exact .inr ⟨fault, net, Action.bind_error (checked_error refusal) _, .inr rfl, .refl net door, idle⟩
  | none =>
    have taken : checked (Platform.backlogFault · backlog) net = .ok () net := checked_ok refusal
    cases unheard : FaultQueue.next net.faults .listen with
    | some fault =>
      have failed : listenDoor door backlog net = .error fault (net.called .listen) := by
        rw [listenDoor, Action.bind_ok taken, Action.bind_error (queued_error unheard)]
      exact .inr ⟨fault, _, failed, .inl rfl, called, idle⟩
    | none =>
      have ran : listenDoor door backlog net = .ok () ((net.called .listen).updateDoor door fun d =>
          { d with backlog, isListening := true }) := by
        rw [listenDoor, Action.bind_ok taken, Action.bind_ok (queued_ok unheard)]
        rfl
      refine .inl ⟨_, ran, called.trans (updateDoor_beside _ door _), ?_⟩
      rw [door_updateDoor, if_pos rfl, called_door]

/-- A door is set up on the port it is given, or something stands in the way and it does not listen. -/
theorem setUp_course (backlog : Option Int) (blank : net.door door = { isOpen := true }) :
    (∃ given after, setUp door host port backlog net = .ok () after ∧ Given net port given ∧ Beside door net after ∧
      after.door door = { host, port := given, backlog, isOpen := true, isListening := true }) ∨
    ∃ fault after, setUp door host port backlog net = .error fault after ∧ Obstacle host port backlog net fault ∧
      Beside door net after ∧ (after.door door).Idle := by
  have idle : (net.door door).Idle := by
    rw [blank]
    exact ⟨rfl, rfl, rfl⟩
  have set := called_beside net .setsockopt (.inl rfl) door
  cases unset : FaultQueue.next net.faults .setsockopt with
  | some fault => exact .inr ⟨fault, _, Action.bind_error (queued_error unset) _, .failed (.inl rfl) unset, set, idle⟩
  | none =>
    rw [setUp, Action.bind_ok (queued_ok unset)]
    have silent : ((net.called .setsockopt).door door).Idle := idle
    rcases bindDoor_course door host port silent with
      ⟨given, bound, ran, fits, beside, named, rest⟩ | ⟨fault, after, failed, stuck, beside, silent⟩
    · have settled := set.trans beside
      have silent : (bound.door door).Idle := by
        rw [named, called_door, blank]
        exact ⟨rfl, rfl, rfl⟩
      rw [Action.bind_ok ran]
      rcases listenDoor_course door backlog silent with
        ⟨after, listened, more, listens⟩ | ⟨fault, after, failed, stuck, more, still⟩
      · refine .inl ⟨given, after, listened, ⟨fits.asked, fits.inside, fits.free⟩, settled.trans more, ?_⟩
        rw [listens, named, called_door, blank]
      · refine .inr ⟨fault, after, failed, ?_, settled.trans more, still⟩
        rcases stuck with next | refusal
        · rw [rest, called, FaultQueue.next_drop (by decide), called, FaultQueue.next_drop (by decide)] at next
          exact .failed (.inr (.inr rfl)) next
        · exact .noBacklog (settled.platform ▸ refusal)
    · refine .inr ⟨fault, after, Action.bind_error failed _, ?_, set.trans beside, silent⟩
      rcases stuck with next | refusal | unfit
      · exact .failed (.inr (.inl rfl)) ((FaultQueue.next_drop (by decide)).symm.trans next)
      · exact .noHost refusal
      · cases unfit with
        | outside outside => exact .unfit (.outside outside)
        | used asked used => exact .unfit (.used asked used)

end

/-- What stays whether a door is added or not: the links, the ports in other hands and the doors there were. -/
structure Kept (before after : Net) : Prop where
  links : after.links = before.links
  linkCount : after.linkCount = before.linkCount
  taken : after.taken = before.taken
  door : ∀ door, door < before.doorCount → after.door door = before.door door

/-- There is one open door more, which listens at an address. -/
structure Opened (host : Host) (port : Int) (backlog : Option Int) (before after : Net) : Prop where
  kept : Kept before after
  openDoors : after.openDoors = before.openDoors ++ [before.doorCount]
  reachableDoors : after.reachableDoors = before.reachableDoors ++ [before.doorCount]
  listens : ∃ given, Given before port given ∧
    after.door before.doorCount = { host, port := given, backlog, isOpen := true, isListening := true }
  spared : ∀ call, call ≠ .socket → ¬call.setsUp →
    FaultQueue.entries after.faults call = FaultQueue.entries before.faults call

/-- No door is open that was not, and no port is in use that was not. -/
structure AsBefore (before after : Net) : Prop where
  kept : Kept before after
  openDoors : after.openDoors = before.openDoors
  reachableDoors : after.reachableDoors = before.reachableDoors
  usedPorts : after.usedPorts = before.usedPorts

/-- A door was left behind that is open but listens nowhere. -/
structure Leaked (before after : Net) : Prop where
  kept : Kept before after
  openDoors : after.openDoors = before.openDoors ++ [before.doorCount]
  reachableDoors : after.reachableDoors = before.reachableDoors
  usedPorts : after.usedPorts = before.usedPorts

section

variable {before after : Net} (kept : Kept before after)
include kept

/-- The doors of some kind are those of before and the new one, if it is of that kind. -/
theorem Kept.doors (count : after.doorCount = before.doorCount + 1) (kind : Door → Bool) :
    (after.doorIndices.filter fun door => kind (after.door door)) =
      (before.doorIndices.filter fun door => kind (before.door door)) ++
        if kind (after.door before.doorCount) then [before.doorCount] else [] := by
  have old : (before.doorIndices.filter fun door => kind (after.door door)) =
      before.doorIndices.filter fun door => kind (before.door door) :=
    List.filter_congr fun door member => by rw [kept.door door (List.mem_range.mp member)]
  rw [← old, doorIndices, count, List.range_succ, List.filter_append, List.filter_singleton, cond_eq_ite]
  rfl

/-- A new door at which nobody can call is not among those that can be reached. -/
theorem Kept.reachableDoors (count : after.doorCount = before.doorCount + 1)
    (hidden : (after.door before.doorCount).isReachable = false) : after.reachableDoors = before.reachableDoors := by
  have doors := kept.doors count Door.isReachable
  rwa [hidden, if_neg Bool.false_ne_true, List.append_nil] at doors

theorem Kept.usedPorts (same : after.reachableDoors = before.reachableDoors) : after.usedPorts = before.usedPorts := by
  have ports : (before.reachableDoors.map fun door => (after.door door).port) =
      before.reachableDoors.map fun door => (before.door door).port :=
    List.map_congr_left fun door member => by
      rw [kept.door door (List.mem_range.mp (List.mem_filter.mp member).1)]
  rw [Net.usedPorts, Net.usedPorts, kept.taken, same, ports]

/-- A new door that was shut again leaves no trace. -/
theorem Kept.asBefore (count : after.doorCount = before.doorCount + 1)
    (shut : (after.door before.doorCount).isOpen = false) : AsBefore before after := by
  have reachable := kept.reachableDoors count (by rw [Door.isReachable, shut, Bool.false_and])
  refine ⟨kept, ?_, reachable, kept.usedPorts reachable⟩
  have doors := kept.doors count Door.isOpen
  rwa [shut, if_neg Bool.false_ne_true, List.append_nil] at doors

theorem Kept.leaked (count : after.doorCount = before.doorCount + 1) (idle : (after.door before.doorCount).Idle) :
    Leaked before after := by
  have reachable := kept.reachableDoors count (by rw [Door.isReachable, idle.silent, Bool.and_false])
  refine ⟨kept, ?_, reachable, kept.usedPorts reachable⟩
  have doors := kept.doors count Door.isOpen
  rwa [idle.opened, if_pos rfl] at doors

end

/-- Closing a door at which nobody waits changes that door only. -/
theorem shut_eq {net : Net} {door : Nat} (empty : (net.door door).pending = []) :
    net.shut door = net.updateDoor door fun d => { d with pending := [], isOpen := false } := by
  rw [shut, dropPending, empty, List.foldl_nil, updateDoor, updateDoor, updateDoor, Table.update_update]

/-- What a fault says that reports an opening: the address, and the fault that stood in the way. -/
structure Reports (host : Host) (port : Int) (backlog : Option Int) (net : Net) (fault : Fault) : Prop where
  kind : fault.kind = .harness .bind
  context : fault.context = [("host", host.datum), ("port", .int port)]
  cause : ∃ original, Obstacle host port backlog net original ∧ original.isOs = true ∧ fault.cause = some original

/-- An opening that fails, by what ended it. -/
inductive Refused (host : Host) (port : Int) (backlog : Option Int) (before : Net) : Fault → Net → Prop
  /-- An operating system fault is told with the address; the door is closed. -/
  | reported {fault : Fault} {after : Net} (reports : Reports host port backlog before fault)
      (asBefore : AsBefore before after) : Refused host port backlog before fault after
  /-- No door could be made; the fault comes through as it is. -/
  | unmade {fault : Fault} {after : Net} (next : FaultQueue.next before.faults .socket = some fault)
      (asBefore : AsBefore before after) : Refused host port backlog before fault after
  /-- The closing of the door after an operating system fault fails itself; the door is closed. -/
  | misclosed {original fault : Fault} {after : Net} (obstacle : Obstacle host port backlog before original)
      (system : original.isOs = true) (next : FaultQueue.next before.faults .close = some fault)
      (asBefore : AsBefore before after) : Refused host port backlog before fault after
  /-- A fault of another kind comes through as it is, and the door stays open. -/
  | escaped {fault : Fault} {after : Net} (obstacle : Obstacle host port backlog before fault)
      (foreign : fault.isOs = false) (leaked : Leaked before after) : Refused host port backlog before fault after

/-- What stands in the way of a door stood in the way before the door was made. -/
theorem Obstacle.before {net made : Net} {host : Host} {port : Int} {backlog : Option Int} {fault : Fault}
    (stuck : Obstacle host port backlog made fault) (platform : made.platform = net.platform)
    (faults : made.faults = (net.called .socket).faults) (ports : made.usedPorts = net.usedPorts) :
    Obstacle host port backlog net fault := by
  cases stuck with
  | failed setsUp next =>
    rw [faults] at next
    refine .failed setsUp ((FaultQueue.next_drop ?_).symm.trans next)
    rintro rfl
    simp [Call.setsUp] at setsUp
  | unfit unfit =>
    cases unfit with
    | outside outside => exact .unfit (.outside outside)
    | used asked used => exact .unfit (.used asked ((isPortUsed_congr ports port).symm.trans used))
  | noHost refusal => exact .noHost (platform ▸ refusal)
  | noBacklog refusal => exact .noBacklog (platform ▸ refusal)

/-- After a fault of the operating system the new door is closed, and that fault or the one of the closing is told. -/
theorem abandon_refused {before after : Net} {host : Host} {port : Int} {backlog : Option Int} {fault : Fault}
    (kept : Kept before after) (count : after.doorCount = before.doorCount + 1)
    (idle : (after.door before.doorCount).Idle)
    (obstacle : Obstacle host port backlog before fault) (system : fault.isOs = true)
    (stored : FaultQueue.next after.faults .close = FaultQueue.next before.faults .close) :
    ∃ told final, (do closeDoor before.doorCount; throw (bindFault host port fault) : NetCall Nat) after =
      .error told final ∧ Refused host port backlog before told final := by
  have shut := shut_eq idle.empty
  have asBefore : AsBefore before ((after.shut before.doorCount).called .close) := by
    rw [shut]
    refine Kept.asBefore ⟨kept.links, kept.linkCount, kept.taken, fun door old => ?_⟩ count ?_
    · rw [called_door, door_updateDoor, if_neg (Nat.ne_of_lt old), kept.door door old]
    · rw [called_door, door_updateDoor, if_pos rfl]
  have close := after.closeDoor_eq before.doorCount
  rw [if_pos idle.opened, stored] at close
  cases closes : FaultQueue.next before.faults .close with
  | some other =>
    simp only [closes] at close
    exact ⟨other, _, Action.bind_error close _, .misclosed obstacle system closes asBefore⟩
  | none =>
    simp only [closes] at close
    exact ⟨_, _, Action.bind_ok close _, .reported ⟨rfl, rfl, fault, obstacle, system, rfl⟩ asBefore⟩

/-- How an opening goes. -/
theorem openDoor_course (net : Net) (host : Host) (port : Int) (backlog : Option Int) :
    (∃ after, openDoor host port backlog net = .ok net.doorCount after ∧ Opened host port backlog net after) ∨
    ∃ fault after, openDoor host port backlog net = .error fault after ∧ Refused host port backlog net fault after := by
  cases unmade : FaultQueue.next net.faults .socket with
  | some fault =>
    have created : createDoor net = .error fault (net.called .socket) := Action.bind_error (queued_error unmade) _
    have asBefore : AsBefore net (net.called .socket) := ⟨⟨rfl, rfl, rfl, fun _ _ => rfl⟩, rfl, rfl, rfl⟩
    exact .inr ⟨fault, _, Action.bind_error created _, .unmade unmade asBefore⟩
  | none =>
    let made := (net.called .socket).addDoor
    have created : createDoor net = .ok net.doorCount made := by
      simp [createDoor, queued_ok unmade, made, addDoor]
    have blank : made.door net.doorCount = { isOpen := true } := by
      simp [made, addDoor, door, called]
    have start : Kept net made :=
      ⟨rfl, rfl, rfl, fun _ old => Table.get_update_of_ne _ _ (Nat.ne_of_lt old)⟩
    have extend {after : Net} (beside : Beside net.doorCount made after) : Kept net after :=
      ⟨beside.links, beside.linkCount, beside.taken,
        fun door old => (beside.others door (Nat.ne_of_lt old)).trans (start.door door old)⟩
    have ports : made.usedPorts = net.usedPorts := (start.leaked rfl (blank ▸ ⟨rfl, rfl, rfl⟩)).usedPorts
    rw [openDoor_made net created]
    rcases setUp_course net.doorCount host port backlog blank with
      ⟨given, after, ran, fits, beside, listens⟩ | ⟨fault, after, ran, stuck, beside, idle⟩
    · have kept := extend beside
      have free : net.isPortUsed given = false := (isPortUsed_congr ports given).symm.trans fits.free
      have listening : Opened host port backlog net after := by
        have opened := kept.doors beside.doorCount Door.isOpen
        have reachable := kept.doors beside.doorCount Door.isReachable
        rw [listens] at opened reachable
        exact ⟨kept, opened, reachable, ⟨given, ⟨fits.asked, fits.inside, free⟩, listens⟩,
          fun call apart spare => (beside.spared call spare).trans (FaultQueue.entries_drop_of_ne apart.symm)⟩
      exact .inl ⟨after, by rw [ran], listening⟩
    · simp only [ran]
      have kept := extend beside
      have obstacle : Obstacle host port backlog net fault := stuck.before rfl rfl ports
      cases system : fault.isOs with
      | false => exact .inr ⟨fault, after, by simp, .escaped obstacle system (kept.leaked beside.doorCount idle)⟩
      | true =>
        have stored : FaultQueue.next after.faults .close = FaultQueue.next net.faults .close := by
          rw [FaultQueue.next_eq, beside.spared .close (by simp [Call.setsUp]), ← FaultQueue.next_eq]
          exact FaultQueue.next_drop (by decide)
        rw [if_pos rfl]
        exact .inr (abandon_refused kept beside.doorCount idle obstacle system stored)

/-- Nothing stands in the way of a door at an address. -/
structure Clear (host : Host) (port : Int) (backlog : Option Int) (net : Net) : Prop where
  host : net.platform.hostFault host = none
  backlog : net.platform.backlogFault backlog = none
  quiet : ∀ call, call = .socket ∨ call.setsUp → FaultQueue.next net.faults call = none
  inside : 0 ≤ port ∧ port ≤ 65535
  free : port ≠ 0 → net.isPortUsed port = false

theorem Clear.unhindered {host : Host} {port : Int} {backlog : Option Int} {net : Net} {fault : Fault}
    (clear : Clear host port backlog net) :
    ¬Obstacle host port backlog net fault := by
  rintro (⟨setsUp, next⟩ | unfit | refusal | refusal)
  · rw [clear.quiet _ (.inr setsUp)] at next
    cases next
  · cases unfit with
    | outside outside =>
      have := clear.inside
      omega
    | used asked used =>
      rw [clear.free asked] at used
      cases used
  · exact nomatch clear.host.symm.trans refusal
  · exact nomatch clear.backlog.symm.trans refusal

/-- A door is opened where nothing stands in the way. -/
theorem openDoor_clear {net : Net} {host : Host} {port : Int} {backlog : Option Int}
    (clear : Clear host port backlog net) :
    ∃ after, openDoor host port backlog net = .ok net.doorCount after ∧ Opened host port backlog net after := by
  rcases net.openDoor_course host port backlog with opened | ⟨fault, after, _, refused⟩
  · exact opened
  · cases refused with
    | unmade next => exact absurd ((clear.quiet .socket (.inl rfl)).symm.trans next) nofun
    | reported reports =>
      obtain ⟨original, obstacle, _⟩ := reports.cause
      exact absurd obstacle clear.unhindered
    | misclosed obstacle => exact absurd obstacle clear.unhindered
    | escaped obstacle => exact absurd obstacle clear.unhindered

/-- What may stand in the way is the operating system's, once a door is made that can be closed again. -/
structure Orderly (host : Host) (port : Int) (backlog : Option Int) (net : Net) : Prop where
  takes : net.Takes host backlog
  makes : FaultQueue.next net.faults .socket = none
  closes : FaultQueue.next net.faults .close = none
  inside : 0 ≤ port ∧ port ≤ 65535
  system : ∀ call fault, call.setsUp → FaultQueue.next net.faults call = some fault → fault.isOs = true

theorem Orderly.isOs {host : Host} {port : Int} {backlog : Option Int} {net : Net} {fault : Fault}
    (orderly : Orderly host port backlog net)
    (obstacle : Obstacle host port backlog net fault) : fault.isOs = true := by
  rcases obstacle with ⟨setsUp, next⟩ | unfit | refusal | refusal
  · exact orderly.system _ fault setsUp next
  · cases unfit with
    | outside outside =>
      have := orderly.inside
      omega
    | used => rfl
  · exact orderly.takes.host fault refusal
  · exact orderly.takes.backlog fault refusal

/-- Where all that can go wrong is the operating system's, a refusal is reported and leaves no door. -/
theorem Refused.orderly {host : Host} {port : Int} {backlog : Option Int} {before after : Net} {fault : Fault}
    (refused : Refused host port backlog before fault after) (orderly : Orderly host port backlog before) :
    Reports host port backlog before fault ∧ AsBefore before after := by
  cases refused with
  | reported reports asBefore => exact ⟨reports, asBefore⟩
  | unmade next => exact absurd (orderly.makes.symm.trans next) nofun
  | misclosed _ _ next => exact absurd (orderly.closes.symm.trans next) nofun
  | escaped obstacle foreign => exact absurd ((orderly.isOs obstacle).symm.trans foreign) nofun

end Net
end RelayBench
