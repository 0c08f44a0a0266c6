import RelayBench.Proofs.Relay.Wait

/-! The service of an iteration, case by case.  A sound relay has distinct members that are all alive,
and fresh links waiting at its door; on such a relay every fault of the operating system is handled,
and what an iteration does is one of eight things. -/
namespace RelayBench

/-- A link that the program may still read and write. -/
structure Net.Live (net : Net) (index : Nat) : Prop where
  known : index < net.linkCount
  closed : (net.link index).closed = false
  broken : (net.link index).broken = false
  isOpen : (net.link index).stream.isOpen = true

namespace Relay

/-- The links that wait at the door of a bound relay. -/
def waiting (relay : Relay) : List Nat :=
  match relay.listener.door with
  | some door => (relay.world.net.door door).pending
  | none => []

/-- What a relay needs of its platform: where it listens is refused as the operating system does it, if at
all, and every write comes to an end. -/
structure Grounded (relay : Relay) : Prop where
  listens : relay.world.net.Takes relay.listener.host relay.listener.backlog
  ends : relay.world.net.platform.isEndless relay.listener.writeTimeout = false

/-- The platform also takes how much a relay reads and its limit to writes. -/
structure Suited (relay : Relay) : Prop extends Grounded relay where
  size : relay.world.net.platform.sizeFault relay.settings.recvSize = none
  limit : relay.world.net.platform.limitFault relay.listener.writeTimeout = none

/-- What holds of a relay between any two of its actions. -/
structure Sound (relay : Relay) : Prop where
  grounded : relay.Grounded
  os : relay.world.net.AllOs
  distinct : relay.members.Nodup
  alive : ∀ index ∈ relay.members, relay.world.net.Live index
  queue : relay.waiting.Nodup
  fresh : ∀ index ∈ relay.waiting, relay.world.net.Live index ∧ index ∉ relay.members ∧
    (relay.world.net.link index).stream.outbox = []
  door : ∀ door, relay.listener.door = some door → door < relay.world.net.doorCount ∧
    (relay.world.net.door door).isReachable = true

theorem Grounded.of_same {before after : Relay} (grounded : before.Grounded)
    (platform : after.world.net.platform = before.world.net.platform)
    (listener : after.listener.unbind = before.listener.unbind) : after.Grounded := by
  have host : after.listener.host = before.listener.host := (congrArg Listener.host listener :)
  have backlog : after.listener.backlog = before.listener.backlog := (congrArg Listener.backlog listener :)
  have limit : after.listener.writeTimeout = before.listener.writeTimeout :=
    (congrArg Listener.writeTimeout listener :)
  obtain ⟨⟨hosts, backlogs⟩, ends⟩ := grounded
  constructor
  · constructor <;> rw [platform] <;> simpa only [host, backlog]
  · rw [platform, limit]
    exact ends

/-- What suits a relay suits it as long as it stays on its platform and keeps its settings and its listener. -/
theorem Suited.of_same {before after : Relay} (suited : before.Suited)
    (platform : after.world.net.platform = before.world.net.platform) (settings : after.settings = before.settings)
    (listener : after.listener.unbind = before.listener.unbind) : after.Suited where
  toGrounded := suited.toGrounded.of_same platform listener
  size := by
    rw [platform, settings]
    exact suited.size
  limit := by
    have limit : after.listener.writeTimeout = before.listener.writeTimeout :=
      (congrArg Listener.writeTimeout listener :)
    rw [platform, limit]
    exact suited.limit

/-- A relay is as sound as one that has the same network, listener and members. -/
theorem Sound.of_same {before after : Relay} (sound : before.Sound) (net : after.world.net = before.world.net)
    (listener : after.listener = before.listener) (members : after.members = before.members) : after.Sound := by
  have waiting : after.waiting = before.waiting := by rw [Relay.waiting, Relay.waiting, listener, net]
  constructor
  · exact sound.grounded.of_same (congrArg Net.platform net) (congrArg Listener.unbind listener)
  · exact net ▸ sound.os
  · exact members ▸ sound.distinct
  · simpa only [members, net] using sound.alive
  · exact waiting ▸ sound.queue
  · simpa only [waiting, members, net] using sound.fresh
  · simpa only [listener, net] using sound.door

theorem Sound.watches {relay : Relay} (sound : relay.Sound) {door : Nat}
    (bound : relay.listener.door = some door) : relay.Watches door where
  bound := bound
  opened := by
    have reachable := (sound.door door bound).2
    simp only [Door.isReachable, Bool.and_eq_true] at reachable
    exact reachable.1
  alive := fun index member => (sound.alive index member).isOpen

/-- What a wait reports of the members has something to read. -/
theorem await_readable {relay middle : Relay} {timeout : Option Number} {ready : List Watched} {link : Nat}
    (sound : relay.Sound) (waited : await timeout relay = .ok ready middle) (member : .link link ∈ ready) :
    link ∈ middle.members ∧ (middle.world.net.link link).stream.isReadable = true := by
  cases bound : relay.listener.door with
  | none =>
    rw [await, Action.bind_error (enter_unbound bound timeout)] at waited
    cases waited
  | some door =>
    obtain ⟨world, left, _, _, result⟩ := await_eq (sound.watches bound) timeout
    rw [waited, Action.state_ok] at left
    rw [waited, Action.result_ok] at result
    cases reports : Readiness.verdict timeout (.door door :: relay.members.map .link) relay.world world with
    | error fault => simp [reports, Except.map] at result
    | ok found =>
      rw [reports] at result
      obtain rfl : ready = Readiness.arrange relay.members found := Except.ok.inj result
      subst left
      rcases List.mem_append.mp member with door | link
      · have isDoor := List.find?_some (Option.mem_toList.mp door)
        simp [Watched.isDoor] at isDoor
      · obtain ⟨index, kept, same⟩ := List.mem_map.mp link
        cases same
        obtain ⟨inside, reported⟩ := List.mem_filter.mp kept
        have readable := Readiness.mem_of_ready
          (Readiness.verdict_ready reports ▸ List.contains_iff_mem.mp reported)
        exact ⟨inside, readable.2⟩

def put (relay : Relay) (members : List Nat) (net : Net) (log : List Entry) : Relay :=
  { relay with room := { members, world := { relay.world with net, log } } }

/-- The network after the oldest link that waits at a door was taken and a change made to it. -/
def taking (relay : Relay) (door : Nat) (first : Nat) (rest : List Nat) : Net :=
  (((relay.world.net.called .accept).updateDoor door fun d => { d with pending := rest }).updateLink
    first fun link => (link.adopt relay.world.net.platform relay.listener.writeTimeout).2)

def readNet (relay : Relay) (source : Nat) : Net :=
  relay.world.net.updateLink source fun link =>
    (link.read relay.world.net.platform relay.settings.recvSize).2

/-- What comes of taking a link over that was taken from the door. -/
def adoption (relay : Relay) (first : Nat) : Except Fault Unit :=
  ((relay.world.net.link first).adopt relay.world.net.platform relay.listener.writeTimeout).1

def reading (relay : Relay) (source : Nat) : Reading :=
  ((relay.world.net.link source).read relay.world.net.platform relay.settings.recvSize).1

/-- A read from a link does not fail, or fails by the operating system, with which the relay copes. -/
def Copes (relay : Relay) (source : Nat) : Prop :=
  ∀ fault, relay.reading source = .fault fault → fault.isOs = true

theorem not_copes (relay : Relay) {source : Nat} (fails : ¬ relay.Copes source) :
    ∃ fault, relay.reading source = .fault fault ∧ fault.isOs = false := by
  simpa [Copes] using fails

/-- The relay after a member from which nothing was read was let go. -/
def parting (relay : Relay) (source : Nat) (log : List Entry) : Relay :=
  { relay.put (relay.members.erase source)
      ((relay.readNet source).updateLink source fun link => link.close.2) log with
    disconnected := relay.disconnected + 1 }

/-- The relay after bytes were read from a member and handed to all others. -/
def handing (relay : Relay) (source : Nat) (payload : Bytes) (log : List Entry) : Relay :=
  let others := relay.room.others source
  let tally := FanOut.tally payload relay.room others
  { relay.put (FanOut.survivors payload source relay.room)
      ((relay.readNet source).updateLinks others (Link.served payload)) log with
    bytesRelayed := relay.bytesRelayed + payload.length * tally.delivered
    writeFailures := relay.writeFailures + tally.failures.length
    disconnected := relay.disconnected + tally.dropped.length
    lastFanOut := some tally }

/-- How the service of an iteration goes: the result and the relay afterwards. -/
inductive Served (relay : Relay) : Except Fault Outcome → Relay → Prop
  | nothing : Served relay (.ok .idle) relay
  | refused (net : Net) (log : List Entry)
      (same : net = relay.world.net ∨ net = relay.world.net.called .accept) :
      Served relay (.ok .idle) (relay.put relay.members net log)
  | welcomed (door first : Nat) (rest : List Nat) (log : List Entry)
      (bound : relay.listener.door = some door)
      (queue : (relay.world.net.door door).pending = first :: rest)
      (adopted : relay.adoption first = .ok ()) :
      Served relay (.ok (.accepted first))
        { relay.put (relay.members ++ [first]) (relay.taking door first rest) log with
          accepted := relay.accepted + 1 }
  | misfit (fault : Fault) (door first : Nat) (rest : List Nat) (bound : relay.listener.door = some door)
      (queue : (relay.world.net.door door).pending = first :: rest)
      (lost : relay.adoption first = .error fault) :
      Served relay (.error fault) (relay.put relay.members (relay.taking door first rest) relay.world.log)
  | forgone (fault : Fault) (door first : Nat) (rest : List Nat) (log : List Entry)
      (bound : relay.listener.door = some door)
      (queue : (relay.world.net.door door).pending = first :: rest)
      (lost : relay.adoption first = .error fault) (system : fault.isOs = true) :
      Served relay (.ok .idle) (relay.put relay.members (relay.taking door first rest) log)
  | left (source : Nat) (log : List Entry) (member : source ∈ relay.members)
      (none : (relay.reading source).taken = []) :
      Served relay (.ok (.disconnected source)) (relay.parting source log)
  | handedOn (source : Nat) (payload : Bytes) (log : List Entry) (member : source ∈ relay.members)
      (some : relay.reading source = .bytes payload) (full : payload ≠ []) :
      Served relay (.ok (.broadcast source payload)) (relay.handing source payload log)
  | unread (source : Nat) (fault : Fault) (member : source ∈ relay.members)
      (fails : relay.reading source = .fault fault) (foreign : fault.isOs = false) :
      Served relay (.error fault) (relay.put relay.members (relay.readNet source) relay.world.log)

def Serves (relay : Relay) (ran : EStateM.Result Fault Relay Outcome) : Prop :=
  Served relay (Action.result ran) (Action.state ran)

section

variable {relay : Relay} {caller : Caller} {door : Nat} (bound : relay.listener.door = some door)
include bound

theorem accept_refused {fault : Fault} {after : Net}
    (failed : Net.accept caller door relay.world.net = .error fault after) :
    relay.listener.accept caller relay.world = .error fault { relay.world with net := after } := by
  simp [Listener.accept, Listener.descriptor, bound, failed]

variable {first : Nat} {rest : List Nat} (taken : Net.accept caller door relay.world.net = .ok first
    ((relay.world.net.called .accept).updateDoor door fun d => { d with pending := rest }))
include taken

/-- A link that cannot be taken over is lost. -/
theorem accept_misfit {fault : Fault} (lost : relay.adoption first = .error fault) :
    relay.listener.accept caller relay.world =
      .error fault { relay.world with net := relay.taking door first rest } := by
  have adopts : Net.adoptLink first relay.listener.writeTimeout
      ((relay.world.net.called .accept).updateDoor door fun d => { d with pending := rest }) =
        .error fault (relay.taking door first rest) :=
    Net.adoptLink_error (by rw [Net.link_updateDoor, Net.called_link]; exact lost)
  simp [Listener.accept, Listener.descriptor, bound, taken, adopts]

/-- A link is accepted: it is taken from the door, and not let in yet. -/
theorem accept_taken (adopted : relay.adoption first = .ok ()) :
    relay.listener.accept caller relay.world =
      .ok first { relay.world with net := relay.taking door first rest } := by
  have adopts : Net.adoptLink first relay.listener.writeTimeout
      ((relay.world.net.called .accept).updateDoor door fun d => { d with pending := rest }) =
        .ok () (relay.taking door first rest) :=
    Net.adoptLink_ok (by rw [Net.link_updateDoor, Net.called_link]; exact adopted)
  simp [Listener.accept, Listener.descriptor, bound, taken, adopts]

end

section

variable {relay : Relay} {caller : Caller} {world : World}

theorem accepting_ok {first : Nat} (accepted : relay.listener.accept caller relay.world = .ok first world) :
    (liftM (relay.listener.accept caller) : RelayCall Nat) relay = .ok first (relay.inWorld world) :=
  (Action.liftBenchRelay_apply _ relay).trans (Action.onPart_ok (Action.onPart_ok accepted))

theorem accepting_error {fault : Fault} (failed : relay.listener.accept caller relay.world = .error fault world) :
    (liftM (relay.listener.accept caller) : RelayCall Nat) relay = .error fault (relay.inWorld world) :=
  (Action.liftBenchRelay_apply _ relay).trans (Action.onPart_error (Action.onPart_error failed))

theorem welcome_accepted {first : Nat} (accepted : relay.listener.accept caller relay.world = .ok first world) :
    welcome caller relay = letIn first (relay.inWorld world) := by
  rw [welcome, Action.bind_ok (Action.get_apply _), Action.bind_apply, Action.attempt_apply,
    accepting_ok accepted]

theorem welcome_failed {fault : Fault} (failed : relay.listener.accept caller relay.world = .error fault world) :
    welcome caller relay = turnAway fault (relay.inWorld world) := by
  rw [welcome, Action.bind_ok (Action.get_apply _), Action.bind_apply, Action.attempt_apply,
    accepting_error failed]

end

/-- An accept that failed by a fault of the operating system is told, and the loop goes on. -/
theorem turnAway_ok {fault : Fault} (system : fault.isOs = true) (relay : Relay) :
    ∃ log, turnAway fault relay = .ok .idle (relay.inWorld { relay.world with log }) := by
  have ran : turnAway fault relay = .ok .idle (relay.inWorld (relay.world.write
      (.plain .warning Logger.relay ("Accept failed: " ++ fault.message)))) := by
    simp [turnAway, system, inWorld, world]
  rw [World.write_eq] at ran
  exact ⟨_, ran⟩

/-- An accept that failed otherwise ends the iteration. -/
theorem turnAway_error {fault : Fault} (foreign : fault.isOs = false) (relay : Relay) :
    turnAway fault relay = .error fault relay := by
  simp [turnAway, foreign]

/-- A link can be taken over only under a limit that the platform takes. -/
theorem limit_of_adoption {relay : Relay} {first : Nat} (adopted : relay.adoption first = .ok ()) :
    relay.world.net.platform.limitFault relay.listener.writeTimeout = none := by
  cases answer : relay.world.net.platform.limitFault relay.listener.writeTimeout with
  | none => rfl
  | some fault => simp [adoption, Link.adopt, answer] at adopted

/-- A link that is lost has an address without a port, or the platform does not take the limit. -/
theorem cut_of_adoption {relay : Relay} {first : Nat}
    (takes : relay.world.net.platform.limitFault relay.listener.writeTimeout = none)
    (lost : relay.adoption first ≠ .ok ()) : (relay.world.net.link first).stream.address.length = 1 := by
  by_contra addressed
  obtain ⟨name, adopted⟩ := Link.adopt_ok _ takes addressed
  rw [adoption, adopted] at lost
  exact lost rfl

/-- Whether a link can be taken over depends on its address, the platform and the limit only. -/
theorem adoption_of_same {before after : Relay} {index : Nat}
    (platform : after.world.net.platform = before.world.net.platform)
    (listener : after.listener.unbind = before.listener.unbind)
    (address : (after.world.net.link index).stream.address = (before.world.net.link index).stream.address) :
    after.adoption index = before.adoption index := by
  have limit : after.listener.writeTimeout = before.listener.writeTimeout :=
    (congrArg Listener.writeTimeout listener :)
  rw [adoption, adoption, platform, limit, Link.adopt_congr address]

/-- A link that is no member yet and open is let in at the end. -/
theorem letIn_ok {relay : Relay} {first : Nat} (apart : first ∉ relay.members)
    (opened : (relay.world.net.link first).closed = false) :
    ∃ log, letIn first relay = .ok (.accepted first)
      { relay.put (relay.members ++ [first]) relay.world.net log with accepted := relay.accepted + 1 } := by
  have apart : first ∉ relay.room.members := apart
  have opened : (relay.room.world.net.link first).closed = false := opened
  have ran : letIn first relay = .ok (.accepted first)
      { relay with
        room :=
          { members := relay.members ++ [first]
            world := World.write relay.world
              (.peers Logger.relay "Peer connected" (relay.world.net.link first).name
                (some (relay.members ++ [first]).length)) }
        accepted := relay.accepted + 1 } := by
    simp [letIn, Room.add, Room.link, apart, opened, world, members]
  rw [World.write_eq] at ran
  exact ⟨_, ran⟩

section

variable {relay : Relay} {caller : Caller} {door : Nat} (bound : relay.listener.door = some door)
include bound

theorem welcome_refused {fault : Fault} {after : Net}
    (failed : Net.accept caller door relay.world.net = .error fault after) (system : fault.isOs = true) :
    ∃ log, welcome caller relay = .ok .idle (relay.put relay.members after log) := by
  rw [welcome_failed (accept_refused bound failed)]
  exact turnAway_ok system _

variable {first : Nat} {rest : List Nat} (taken : Net.accept caller door relay.world.net = .ok first
    ((relay.world.net.called .accept).updateDoor door fun d => { d with pending := rest }))
include taken

theorem welcome_misfit {fault : Fault} (lost : relay.adoption first = .error fault) (foreign : fault.isOs = false) :
    welcome caller relay = .error fault (relay.put relay.members (relay.taking door first rest) relay.world.log) := by
  rw [welcome_failed (accept_misfit bound taken lost), turnAway_error foreign]
  rfl

theorem welcome_forgone {fault : Fault} (lost : relay.adoption first = .error fault) (system : fault.isOs = true) :
    ∃ log, welcome caller relay = .ok .idle (relay.put relay.members (relay.taking door first rest) log) := by
  rw [welcome_failed (accept_misfit bound taken lost)]
  exact turnAway_ok system _

theorem welcome_joined (adopted : relay.adoption first = .ok ()) (apart : first ∉ relay.members)
    (unclosed : (relay.world.net.link first).closed = false) :
    ∃ log, welcome caller relay = .ok (.accepted first)
      { relay.put (relay.members ++ [first]) (relay.taking door first rest) log with
        accepted := relay.accepted + 1 } := by
  have opened : ((relay.taking door first rest).link first).closed = false := by
    rw [taking, Net.link_updateLink, if_pos rfl]
    exact Link.adopt_closed _ _ _ unclosed
  rw [welcome_accepted (accept_taken bound taken adopted)]
  exact @letIn_ok (relay.inWorld { relay.world with net := relay.taking door first rest }) first apart opened

end

theorem welcome_serves {relay : Relay} (sound : relay.Sound) {caller : Caller} {door : Nat}
    (bound : relay.listener.door = some door) : relay.Serves (welcome caller relay) := by
  rcases relay.world.net.accept_cases sound.os caller door with
    ⟨fault, after, failed, system, same⟩ | ⟨first, rest, opened, queue, taken⟩
  · obtain ⟨log, ran⟩ := welcome_refused bound failed system
    rw [ran]
    exact .refused after log same
  · cases adopted : relay.adoption first with
    | error fault =>
      cases system : fault.isOs with
      | false =>
        rw [welcome_misfit bound taken adopted system]
        exact .misfit fault door first rest bound queue adopted
      | true =>
        obtain ⟨log, ran⟩ := welcome_forgone bound taken adopted system
        rw [ran]
        exact .forgone fault door first rest log bound queue adopted system
    | ok done =>
      have waits : first ∈ relay.waiting := by simp [waiting, bound, queue]
      obtain ⟨live, apart, _⟩ := sound.fresh first waits
      obtain ⟨log, ran⟩ := welcome_joined bound taken adopted apart live.closed
      rw [ran]
      exact .welcomed door first rest log bound queue adopted

theorem disconnect_ok (relay : Relay) {source : Nat} (member : source ∈ relay.members)
    (os : (relay.world.net.link source).stream.AllOs) :
    ∃ log, disconnect source relay = .ok (.disconnected source)
      { relay.put (relay.members.erase source)
          (relay.world.net.updateLink source fun link => link.close.2) log with
        disconnected := relay.disconnected + 1 } := by
  obtain ⟨log, removed⟩ := Room.remove_member relay.room source member os
  have ran : disconnect source relay = .ok (.disconnected source)
      { relay with
        room :=
          { members := relay.members.erase source
            world := World.write
              { relay.world with net := relay.world.net.updateLink source fun link => link.close.2, log }
              (.peers Logger.relay "Peer disconnected" (relay.room.link source).name
                (some (relay.members.erase source).length)) }
        disconnected := relay.disconnected + 1 } := by
    simp [disconnect, removed, Room.link, Net.link_updateLink, world, members]
  rw [World.write_eq] at ran
  exact ⟨_, ran⟩

theorem reportDropped_forM (dropped : List Nat) (relay : Relay) :
    ∃ log, dropped.forM reportDropped relay =
      .ok () (relay.inWorld { relay.world with log }) := by
  induction dropped generalizing relay with
  | nil => exact ⟨relay.world.log, rfl⟩
  | cons index rest ih =>
    have first : reportDropped index relay = .ok () (relay.inWorld (World.write relay.world
        (.peers Logger.relay "Peer dropped" (relay.room.link index).name (some relay.members.length)))) := by
      simp [reportDropped, inWorld, world]
    rw [World.write_eq] at first
    obtain ⟨log, ran⟩ := ih _
    refine ⟨log, ?_⟩
    show (reportDropped index >>= fun _ => rest.forM reportDropped) relay = _
    rw [Action.bind_ok first, ran]
    rfl

def afterRead (relay : Relay) (source : Nat) (log : List Entry) : Relay :=
  relay.put relay.members (relay.readNet source) log

theorem readMember_ok (relay : Relay) (source : Nat) :
    readMember source relay =
      .ok (relay.reading source) (relay.afterRead source relay.world.log) := by
  simp [readMember, Net.readLink_apply, afterRead, put, readNet, reading, world, members]

theorem afterRead_link {relay : Relay} {source index : Nat} (other : index ≠ source) (log : List Entry) :
    (relay.afterRead source log).room.link index = relay.room.link index := by
  show (relay.readNet source).link index = _
  rw [readNet, Net.link_updateLink, if_neg other]
  rfl

theorem afterRead_allOs {relay : Relay} (os : relay.world.net.AllOs) (source : Nat) (log : List Entry)
    (index : Nat) : ((relay.afterRead source log).room.link index).stream.AllOs := by
  show ((relay.readNet source).link index).stream.AllOs
  rw [readNet, Net.link_updateLink]
  split
  · exact Link.read_allOs _ _ _ (os.links source)
  · exact os.links index

theorem afterRead_emit (relay : Relay) (source : Nat) (entry : Entry) (log : List Entry) :
    ∃ later, (liftM (World.emit entry) : RelayCall Unit) (relay.afterRead source log) =
      .ok () (relay.afterRead source later) := by
  have ran : (liftM (World.emit entry) : RelayCall Unit) (relay.afterRead source log) =
      .ok () ((relay.afterRead source log).inWorld ((relay.afterRead source log).world.write entry)) := rfl
  rw [World.write_eq] at ran
  exact ⟨_, ran⟩

/-- How the read of a member goes. -/
inductive Received (relay : Relay) (source : Nat) : EStateM.Result Fault Relay Outcome → Prop
  | left (log : List Entry) (none : (relay.reading source).taken = []) (copes : relay.Copes source) :
      Received relay source (.ok (.disconnected source) (relay.parting source log))
  | handedOn (payload : Bytes) (log : List Entry) (some : relay.reading source = .bytes payload)
      (full : payload ≠ []) :
      Received relay source (.ok (.broadcast source payload) (relay.handing source payload log))
  | unread (fault : Fault) (fails : relay.reading source = .fault fault) (foreign : fault.isOs = false) :
      Received relay source (.error fault (relay.afterRead source relay.world.log))

theorem broadcast_ok {relay : Relay} (sound : relay.Sound) (source : Nat) (payload : Bytes) :
    ∃ log, broadcast source payload (relay.afterRead source relay.world.log) =
      .ok () (relay.handing source payload log) := by
  have same (log : List Entry) (index : Nat) (member : index ∈ relay.room.others source) :
      (relay.afterRead source log).room.link index = relay.room.link index :=
    afterRead_link (by simpa using (List.mem_filter.mp member).2) log
  obtain ⟨log, logged⟩ := relay.afterRead_emit source
    (.data Logger.relay ("Read " ++ toString payload.length ++ " bytes")
      ((relay.afterRead source relay.world.log).room.link source).name) relay.world.log
  obtain ⟨later, ran⟩ := FanOut.run_ok payload source (relay.afterRead source log).room sound.distinct
    fun index _ => afterRead_allOs sound.os source log index
  have others : (relay.afterRead source log).room.others source = relay.room.others source := rfl
  have survivors : FanOut.survivors payload source (relay.afterRead source log).room =
      FanOut.survivors payload source relay.room :=
    FanOut.survivors_congr payload source rfl (same log)
  rw [others, FanOut.tally_congr payload _ (same log), survivors] at ran
  simp only [broadcast, Action.bind_apply, Action.get_apply, logged, Action.liftRoom_apply,
    Action.onPart_apply, ran, Action.modify_apply]
  obtain ⟨last, reported⟩ :=
    reportDropped_forM (FanOut.tally payload relay.room (relay.room.others source)).dropped _
  rw [reported]
  exact ⟨last, rfl⟩

section

variable {relay : Relay} (sound : relay.Sound) {source : Nat}
include sound

theorem disconnect_read (member : source ∈ relay.members) (log : List Entry) :
    ∃ later, disconnect source (relay.afterRead source log) =
      .ok (.disconnected source) (relay.parting source later) :=
  disconnect_ok (relay.afterRead source log) member (afterRead_allOs sound.os source log source)

/-- Where the platform takes the size, a read of a member fails by the operating system only. -/
theorem copes_of_size (size : relay.world.net.platform.sizeFault relay.settings.recvSize = none)
    (source : Nat) : relay.Copes source := by
  intro fault read
  rw [reading, Link.read_ok _ size] at read
  exact Stream.read_fault_isOs _ _ (sound.os.links source) read

/-- A member from which nothing can be read is let go. -/
theorem received_left (member : source ∈ relay.members) (none : (relay.reading source).taken = [])
    (copes : relay.Copes source) :
    ∃ log, (readMember source >>= received source) relay =
      .ok (.disconnected source) (relay.parting source log) := by
  rw [Action.bind_ok (relay.readMember_ok source)]
  cases read : relay.reading source with
  | bytes payload =>
    obtain rfl : payload = [] := by simpa [read, Reading.taken] using none
    exact disconnect_read sound member _
  | nothing =>
    obtain ⟨log, logged⟩ := relay.afterRead_emit source
      (readWarning ((relay.afterRead source relay.world.log).room.link source).name .unavailable)
      relay.world.log
    rw [received, Action.bind_ok (Action.get_apply _), Action.bind_ok logged]
    exact disconnect_read sound member log
  | fault fault =>
    have system : fault.isOs = true := copes fault read
    obtain ⟨log, logged⟩ := relay.afterRead_emit source
      (readWarning ((relay.afterRead source relay.world.log).room.link source).name fault)
      relay.world.log
    simp only [received, system, Bool.not_true, Bool.false_eq_true, if_false, Action.bind_apply,
      Action.get_apply, logged]
    exact disconnect_read sound member log

theorem received_handed {payload : Bytes} (some : relay.reading source = .bytes payload)
    (full : payload ≠ []) :
    ∃ log, (readMember source >>= received source) relay =
      .ok (.broadcast source payload) (relay.handing source payload log) := by
  obtain ⟨log, ran⟩ := broadcast_ok sound source payload
  obtain ⟨byte, rest, rfl⟩ := List.exists_cons_of_ne_nil full
  refine ⟨log, ?_⟩
  rw [Action.bind_ok (relay.readMember_ok source), some]
  show (do
    broadcast source (byte :: rest)
    pure (Outcome.broadcast source (byte :: rest))) (relay.afterRead source relay.world.log) = _
  rw [Action.bind_ok ran]
  rfl

/-- A read that fails otherwise than by the operating system is of a size that the platform does not take. -/
theorem size_of_unread {fault : Fault} (fails : relay.reading source = .fault fault)
    (foreign : fault.isOs = false) :
    relay.world.net.platform.sizeFault relay.settings.recvSize = some fault := by
  rcases Link.read_cases (relay.world.net.link source) relay.world.net.platform relay.settings.recvSize with
    ⟨other, size, ran⟩ | ⟨size, _⟩
  · rw [reading, ran] at fails
    cases fails
    exact size
  · have system := copes_of_size sound size source fault fails
    rw [foreign] at system
    cases system

/-- Such a read has not been made. -/
theorem unread_link {fault : Fault} (fails : relay.reading source = .fault fault) (foreign : fault.isOs = false)
    (index : Nat) : (relay.readNet source).link index = relay.world.net.link index := by
  have size := size_of_unread sound fails foreign
  rw [readNet, Net.link_updateLink]
  split
  next same => rw [Link.read, size, same]
  · rfl

omit sound in
/-- A read that fails otherwise than by the operating system ends the iteration. -/
theorem received_unread {fault : Fault} (fails : relay.reading source = .fault fault)
    (foreign : fault.isOs = false) :
    (readMember source >>= received source) relay =
      .error fault (relay.afterRead source relay.world.log) := by
  rw [Action.bind_ok (relay.readMember_ok source), fails]
  simp [received, foreign]

/-- A member that is read gets its bytes handed on, or is let go when there are none, unless the read is
refused. -/
theorem received_course (member : source ∈ relay.members) :
    Received relay source ((readMember source >>= received source) relay) := by
  by_cases copes : relay.Copes source
  · by_cases none : (relay.reading source).taken = []
    · obtain ⟨log, ran⟩ := received_left sound member none copes
      rw [ran]
      exact .left log none copes
    · cases some : relay.reading source with
      | bytes payload =>
        have full : payload ≠ [] := by simpa [some, Reading.taken] using none
        obtain ⟨log, ran⟩ := received_handed sound some full
        rw [ran]
        exact .handedOn payload log some full
      | nothing => simp [some, Reading.taken] at none
      | fault fault => simp [some, Reading.taken] at none
  · obtain ⟨fault, fails, foreign⟩ := relay.not_copes copes
    rw [received_unread fails foreign]
    exact .unread fault fails foreign

theorem received_serves (member : source ∈ relay.members) :
    relay.Serves ((readMember source >>= received source) relay) := by
  have course := received_course sound member
  generalize (readMember source >>= received source) relay = ran at course ⊢
  cases course with
  | left log none copes => exact .left source log member none
  | handedOn payload log some full => exact .handedOn source payload log member some full
  | unread fault fails foreign => exact .unread source fault member fails foreign

end

theorem service_serves {relay : Relay} (sound : relay.Sound) {door : Nat}
    (bound : relay.listener.door = some door) {ready : List Watched}
    (known : ∀ thing ∈ ready, thing = .door door ∨ ∃ index ∈ relay.members, thing = .link index) :
    relay.Serves (service ready relay) := by
  rcases ready with _ | ⟨_ | source, rest⟩
  · exact .nothing
  · exact welcome_serves sound bound
  · obtain unlike | ⟨index, member, same⟩ := known (.link source) (by simp)
    · cases unlike
    · cases same
      exact received_serves sound member

end Relay
end RelayBench
