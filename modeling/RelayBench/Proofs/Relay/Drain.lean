import Mathlib.Algebra.Order.Floor.Div
import RelayBench.Proofs.Relay.Counters
import RelayBench.Proofs.Relay.LastWords

/-! Draining.  On a relay that nothing disturbs any more, iterations hand on all that is unread and then
find nothing to do.  How many iterations that takes depends on the size of the reads; what every client
gets depends on neither that size, nor the size of single writes, nor the order of readiness. -/
namespace RelayBench

/-- One readiness wait: its limit, and the order in which it reports what is ready. -/
structure Wait where
  limit : Number
  order : Nat → List Nat

/-- A wait that reports everything that is ready, in any order. -/
def Wait.IsFair (wait : Wait) : Prop := ∀ count, (wait.order count).Perm (List.range count)

theorem Net.called_quiet {net : Net} (quiet : net.faults = []) (call : Call) : net.called call = net := by
  cases net
  cases quiet
  rfl

namespace Stream

variable {stream : Stream} (faults : stream.faults = []) (willing : stream.Willing)
include faults willing

theorem isReadable_willing : stream.isReadable = !stream.inbox.isEmpty := by
  simp [isReadable, faults, willing.far]

theorem read_willing (opened : stream.isOpen = true) (unread : stream.inbox ≠ []) (size : Nat) :
    stream.read size = (.bytes (stream.inbox.take size), { stream with inbox := stream.inbox.drop size }) := by
  obtain ⟨byte, rest, inbox⟩ := List.exists_cons_of_ne_nil unread
  have kept : stream.called .recv = stream := by
    rw [called, faults, FaultQueue.drop_nil, ← faults]
  simp [read, opened, faults, willing.far, inbox, kept]

end Stream

/-- The whole of a payload goes out to a client that lets everything in, in writes of whatever sizes. -/
theorem Link.served_willing {link : Link} (payload : Bytes) (opened : link.stream.isOpen = true)
    (sound : link.broken = false) (faults : link.stream.faults = []) (ends : link.stream.endless = false)
    (willing : link.stream.Willing) :
    link.drops payload = false ∧ (link.served payload).stream.Willing ∧
      (link.served payload).stream.outbox = link.stream.outbox ++ payload := by
  have taken := link.refusal?_willing payload opened faults willing
  have os : link.stream.AllOs := .of_nil faults ends
  let kind (stream : Stream) : Prop := stream.isOpen = true ∧ stream.faults = [] ∧ stream.Willing
  have keeps (stream : Stream) (data : Bytes) (held : kind stream) : kind (stream.write data).2 := by
    obtain ⟨count, after, wrote, still⟩ := stream.write_willing data held.1 held.2.1 held.2.2
    rw [wrote]
    exact still
  have kept : kind (link.send payload).2.stream :=
    Transfer.pump_kept keeps _ _ _ _ _ ⟨opened, faults, willing⟩
  rcases link.served_share payload os sound with
    ⟨_, stays, outbox, _⟩ | ⟨refused, _⟩ | ⟨_, refused, _⟩
  · have served : link.served payload = (link.send payload).2 := by simp [served, stays]
    exact ⟨stays, served ▸ kept.2.2, outbox⟩
  · exact absurd taken refused
  · exact absurd taken refused

/-- A bound relay at whose door nobody waits and which has only clients that are there and let everything
in; no call is going to fail. -/
structure Relay.Undisturbed (relay : Relay) : Prop where
  bound : relay.listener.isBound = true
  nobody : relay.waiting = []
  size : 0 < relay.settings.recvSize
  takes : relay.world.net.platform.sizeFault relay.settings.recvSize = none
  calls : relay.world.net.faults = []
  script : relay.world.script = none
  faults : ∀ index ∈ relay.members, (relay.world.net.link index).stream.faults = []
  willing : ∀ index ∈ relay.members, (relay.world.net.link index).stream.Willing

namespace Relay

def inbox (relay : Relay) (index : Nat) : Bytes := (relay.world.net.link index).stream.inbox

/-- What a member has still to get: what is unread of all others, in their order. -/
def share (relay : Relay) (index : Nat) : Bytes := (relay.room.others index).flatMap relay.inbox

/-- How many reads it takes to empty the inboxes of all members. -/
def owed (relay : Relay) : Nat :=
  World.total (relay.members.map fun index => (relay.inbox index).length ⌈/⌉ relay.settings.recvSize.toNat)

/-- The members that have something to read. -/
def readable (relay : Relay) : List Nat := relay.members.filter fun index => !(relay.inbox index).isEmpty

section

variable {relay : Relay} (sound : relay.Sound) (undisturbed : relay.Undisturbed)
include sound undisturbed

/-- The wait of an undisturbed relay reports the members that have something to read, in their order,
whatever order the network reports them in. -/
theorem await_undisturbed (fair : ∀ count, (relay.world.order count).Perm (List.range count))
    (limit : Number) :
    ∃ world : World, await (some limit) relay = .ok (relay.readable.map .link)
      (relay.inWorld { world with net := relay.world.net, script := none }) := by
  obtain ⟨door, bound⟩ := Option.isSome_iff_exists.mp undisturbed.bound
  obtain ⟨world, left, waited, order, result⟩ := await_eq (sound.watches bound) (some limit)
  have net : world.net = relay.world.net := by
    rw [waited.net, World.settled, Net.called_quiet undisturbed.calls]
    simp [World.upcoming, undisturbed.script, Net.applyAll]
  have script : world.script = none := by
    rw [waited.script]
    simp [World.remaining, undisturbed.script]
  let watched : List Watched := .door door :: relay.members.map .link
  have reports : Readiness.verdict (some limit) watched relay.world world =
      .ok (Readiness.ready world watched) := by
    simp [Readiness.verdict, undisturbed.calls, World.cutShort, World.advances, undisturbed.script]
  have complete : Readiness.Complete world.order := order ▸ fun count _ within =>
    (fair count).mem_iff.mpr (List.mem_range.mpr within)
  have mem (thing : Watched) : thing ∈ Readiness.ready world watched ↔
      thing ∈ watched ∧ thing.isReady relay.world.net = true :=
    net ▸ Readiness.mem_ready complete
  have closed : (Readiness.ready world watched).find? Watched.isDoor = none := by
    have pending : (relay.world.net.door door).pending = [] := by
      have nobody := undisturbed.nobody
      rwa [waiting, bound] at nobody
    refine List.find?_eq_none.mpr fun thing reported => ?_
    obtain ⟨inside, isReady⟩ := (mem thing).mp reported
    cases thing with
    | door index =>
      obtain rfl : index = door := by simpa [watched] using inside
      simp [Watched.isReady, Net.hasCaller, pending, undisturbed.calls] at isReady
    | link index => simp [Watched.isDoor]
  have links : (relay.members.filter fun index => (Readiness.ready world watched).contains (.link index)) =
      relay.readable := by
    refine List.filter_congr fun index member => ?_
    have shown := Stream.isReadable_willing (undisturbed.faults index member) (undisturbed.willing index member)
    rw [Bool.eq_iff_iff, List.contains_iff_mem, mem]
    simp [watched, member, Watched.isReady, shown, inbox]
  have same : { world with net := relay.world.net, script := none } = world := by
    rw [← net, ← script]
  refine ⟨world, ?_⟩
  rw [same]
  have found : Readiness.arrange relay.members (Readiness.ready world watched) = relay.readable.map .link := by
    rw [Readiness.arrange, closed, links]
    rfl
  rw [reports] at result
  cases ran : await (some limit) relay with
  | ok ready after =>
    rw [ran, Action.state_ok] at left
    rw [ran, Action.result_ok, Except.map, found] at result
    rw [left, Except.ok.inj result]
  | error fault after =>
    rw [ran, Action.result_error] at result
    cases result

end

/-- What every iteration of an undisturbed relay keeps: with what a member has been written it has still to
get the same bytes in all. -/
structure Drains (before after : Relay) : Prop where
  undisturbed : after.Undisturbed
  members : after.members = before.members
  settings : after.settings = before.settings
  account : ∀ index ∈ before.members,
    after.written index ++ after.share index = before.written index ++ before.share index

theorem readFewer {length size : Nat} (some : 0 < length) (positive : 0 < size) :
    length ⌈/⌉ size = (length - size) ⌈/⌉ size + 1 := by
  rw [Nat.ceilDiv_eq_add_pred_div, Nat.ceilDiv_eq_add_pred_div]
  have more : length + size - 1 = length - 1 + size := by omega
  rw [more, Nat.add_div_right _ positive]
  by_cases short : length < size
  · have last : length - size + size - 1 = size - 1 := by omega
    rw [last, Nat.div_eq_of_lt (by omega), Nat.div_eq_of_lt (by omega)]
  · have rest : length - size + size - 1 = length - 1 := by omega
    rw [rest]

theorem share_split {relay : Relay} {early late : List Nat} {source index : Nat}
    (split : relay.members = early ++ source :: late) (empty : ∀ index ∈ early, relay.inbox index = [])
    (apart : index ≠ source) :
    relay.share index = relay.inbox source ++ (late.filter (· != index)).flatMap relay.inbox := by
  have nothing : (early.filter (· != index)).flatMap relay.inbox = [] :=
    List.flatMap_eq_nil_iff.mpr fun other inside => empty other (List.mem_of_mem_filter inside)
  have others : relay.room.others index =
      early.filter (· != index) ++ source :: late.filter (· != index) := by
    have kept : (source != index) = true := by simpa using Ne.symm apart
    rw [Room.others, show relay.room.members = _ from split, List.filter_append, List.filter_cons,
      if_pos kept]
  rw [share, others, List.flatMap_append, nothing, List.nil_append, List.flatMap_cons]

section

variable {relay : Relay} (sound : relay.Sound) (undisturbed : relay.Undisturbed) {source : Nat}
  (unread : relay.inbox source ≠ []) (payload : Bytes) (log : List Entry)
include sound undisturbed

include unread in
/-- Every member after a fan-out: the source has less to read, all others have been written the payload. -/
theorem handing_member {index : Nat} (member : index ∈ relay.members) :
    let after := relay.handing source payload log
    after.inbox index = (if index = source then
        (relay.inbox source).drop relay.settings.recvSize.toNat else relay.inbox index) ∧
      after.written index = relay.written index ++ (if index = source then [] else payload) ∧
      (after.world.net.link index).stream.faults = [] ∧ (after.world.net.link index).stream.Willing := by
  intro after
  have live := sound.alive index member
  have faults := undisturbed.faults index member
  have willing := undisturbed.willing index member
  have link : after.world.net.link index = _ := handing_link sound payload log index
  by_cases own : index = source
  · subst own
    rw [if_pos rfl] at link
    have read := Stream.read_willing faults willing live.isOpen unread relay.settings.recvSize.toNat
    have stream : (after.world.net.link index).stream = { (relay.world.net.link index).stream with
        inbox := (relay.inbox index).drop relay.settings.recvSize.toNat } := by
      rw [link, Link.read_ok _ undisturbed.takes, read]
      rfl
    rw [inbox, written, stream, if_pos rfl, if_pos rfl]
    exact ⟨rfl, (List.append_nil _).symm, faults, willing.far, willing.window⟩
  · rw [if_neg own, if_pos member] at link
    obtain ⟨_, still, outbox⟩ := Link.served_willing payload live.isOpen live.broken faults
      (sound.os.links index).ends willing
    have taken := Link.served_taken payload _ (sound.os.links index)
    rw [inbox, written, link, if_neg own, if_neg own]
    exact ⟨taken.inbox.symm, outbox, Link.served_quiet _ payload faults, still⟩

theorem handing_members : (relay.handing source payload log).members = relay.members := by
  refine List.filter_eq_self.mpr fun index member => ?_
  have live := sound.alive index member
  have stays := (Link.served_willing payload live.isOpen live.broken (undisturbed.faults index member)
    (sound.os.links index).ends (undisturbed.willing index member)).1
  have kept : (relay.room.link index).drops payload = false := stays
  simp [kept]

include unread in
theorem handing_undisturbed (member : source ∈ relay.members) :
    (relay.handing source payload log).Undisturbed := by
  have members : (relay.handing source payload log).members = relay.members :=
    handing_members sound undisturbed payload log
  have turn := handing_turn sound member payload log
  refine
    { bound := undisturbed.bound
      nobody := ?_
      size := undisturbed.size
      takes := undisturbed.takes
      calls := undisturbed.calls
      script := undisturbed.script
      faults := fun index inside => ?_
      willing := fun index inside => ?_ }
  · exact List.sublist_nil.mp (undisturbed.nobody ▸ turn.queue)
  · exact (handing_member sound undisturbed unread payload log (members ▸ inside)).2.2.1
  · exact (handing_member sound undisturbed unread payload log (members ▸ inside)).2.2.2

section

variable {early late : List Nat} (split : relay.members = early ++ source :: late)
  (empty : ∀ index ∈ early, relay.inbox index = [])
include split unread

theorem handing_other {index : Nat} (inside : index ∈ early ∨ index ∈ late) :
    index ≠ source ∧ (relay.handing source payload log).inbox index = relay.inbox index := by
  have distinct := sound.distinct
  rw [split, List.nodup_append] at distinct
  obtain ⟨_, distinct, apart⟩ := distinct
  have other : index ≠ source := by
    rcases inside with before | behind
    · exact apart index before source (List.mem_cons_self ..)
    · exact fun same => (List.nodup_cons.mp distinct).1 (same ▸ behind)
  have member : index ∈ relay.members := by
    rw [split]
    rcases inside with before | behind
    · exact List.mem_append_left _ before
    · exact List.mem_append_right _ (List.mem_cons_of_mem _ behind)
  refine ⟨other, ?_⟩
  rw [(handing_member sound undisturbed unread payload log member).1, if_neg other]

theorem handing_owed : relay.owed = (relay.handing source payload log).owed + 1 := by
  have size : 0 < relay.settings.recvSize.toNat := Int.lt_toNat.mpr undisturbed.size
  have some : 0 < (relay.inbox source).length := List.length_pos_iff.mpr unread
  have member : source ∈ relay.members := by simp [split]
  have here := (handing_member sound undisturbed unread payload log member).1
  have others (index : Nat) (inside : index ∈ early ∨ index ∈ late) :=
    congrArg List.length (handing_other sound undisturbed unread payload log split inside).2
  have before := List.map_congr_left fun index inside => congrArg
    (· ⌈/⌉ relay.settings.recvSize.toNat) (others index (.inl inside))
  have behind := List.map_congr_left fun index inside => congrArg
    (· ⌈/⌉ relay.settings.recvSize.toNat) (others index (.inr inside))
  have same : (relay.handing source payload log).settings = relay.settings := rfl
  rw [owed, owed, handing_members sound undisturbed, split, same]
  simp only [List.map_append, List.map_cons, World.total_append, World.total_cons, before, behind, here,
    if_pos, List.length_drop]
  rw [readFewer some size]
  omega

include empty

/-- What a reading of the first member that has something unread takes from its inbox, it adds to what the
others have been written. -/
theorem handing_account {index : Nat} (member : index ∈ relay.members)
    (front : payload = (relay.inbox source).take relay.settings.recvSize.toNat) :
    (relay.handing source payload log).written index ++ (relay.handing source payload log).share index =
      relay.written index ++ relay.share index := by
  obtain ⟨_, wrote, _⟩ := handing_member sound undisturbed unread payload log member
  have other {index : Nat} (inside : index ∈ early ∨ index ∈ late) :=
    handing_other sound undisturbed unread payload log split inside
  have members : (relay.handing source payload log).members = relay.members :=
    handing_members sound undisturbed payload log
  by_cases own : index = source
  · subst own
    have rest : (relay.handing index payload log).share index = relay.share index := by
      have same : (relay.handing index payload log).room.others index = relay.room.others index :=
        congrArg (List.filter (· != index)) members
      rw [share, share, same]
      refine List.flatMap_congr fun other inside => ?_
      obtain ⟨present, apart⟩ := List.mem_filter.mp inside
      have apart : other ≠ index := by simpa using apart
      rw [(handing_member sound undisturbed unread payload log present).1, if_neg apart]
    rw [wrote, if_pos rfl, List.append_nil, rest]
  · have first : source ∈ relay.members := by simp [split]
    have left := (handing_member sound undisturbed unread payload log first).1
    have behind : (late.filter (· != index)).flatMap (relay.handing source payload log).inbox =
        (late.filter (· != index)).flatMap relay.inbox :=
      List.flatMap_congr fun _ inside => (other (.inr (List.mem_of_mem_filter inside))).2
    rw [wrote, if_neg own, share_split split empty own,
      share_split (members.trans split) (fun index inside => (other (.inl inside)).2.trans (empty index inside))
        own,
      left, if_pos rfl, behind, front]
    simp only [List.append_assoc]
    rw [← List.append_assoc (List.take _ _), List.take_append_drop]

end

end

/-- How an iteration of an undisturbed relay goes: it finds nothing unread and is idle, or hands on the
front of what is unread of the first member that has any. -/
inductive Handles (relay after : Relay) : Outcome → Prop
  | idle (done : relay.owed = 0) (still : after.owed = 0) : Handles relay after .idle
  | broadcast (source : Nat) (payload : Bytes) (member : source ∈ relay.members) (full : payload ≠ [])
      (fits : payload.length ≤ relay.settings.recvSize.toNat) (less : relay.owed = after.owed + 1) :
      Handles relay after (.broadcast source payload)

theorem service_readable {relay : Relay} (sound : relay.Sound) (undisturbed : relay.Undisturbed) :
    ∃ outcome after, service (relay.readable.map .link) relay = .ok outcome after ∧
      Drains relay after ∧ Handles relay after outcome := by
  rcases found : relay.readable with _ | ⟨source, rest⟩
  · have nothing : relay.owed = 0 := by
      have empty := List.filter_eq_nil_iff.mp found
      have none := List.map_congr_left (l := relay.members)
        (f := fun index => (relay.inbox index).length ⌈/⌉ relay.settings.recvSize.toNat) (g := fun _ => 0)
        fun index member => by simp [show relay.inbox index = [] by simpa using empty index member]
      rw [owed, none, World.total_map_const, Nat.zero_mul]
    exact ⟨.idle, relay, rfl, ⟨undisturbed, rfl, rfl, fun _ _ => rfl⟩, .idle nothing nothing⟩
  · obtain ⟨early, late, split, before, some, _⟩ := List.filter_eq_cons_iff.mp found
    have unread : relay.inbox source ≠ [] := by simpa using some
    have empty (index : Nat) (inside : index ∈ early) : relay.inbox index = [] := by
      simpa using before index inside
    have member : source ∈ relay.members := by simp [split]
    have size : 0 < relay.settings.recvSize.toNat := Int.lt_toNat.mpr undisturbed.size
    let payload := (relay.inbox source).take relay.settings.recvSize.toNat
    have full : payload ≠ [] := by simp [payload, unread, size.ne']
    have read : relay.reading source = .bytes payload := by
      rw [reading, Link.read_ok _ undisturbed.takes]
      exact congrArg Prod.fst (Stream.read_willing (undisturbed.faults source member)
        (undisturbed.willing source member) (sound.alive source member).isOpen unread _)
    obtain ⟨log, ran⟩ := received_handed sound read full
    refine ⟨.broadcast source payload, relay.handing source payload log, ran, ?_,
      .broadcast source payload member full (List.length_take_le ..)
        (handing_owed sound undisturbed unread payload log split)⟩
    exact ⟨handing_undisturbed sound undisturbed unread payload log member,
      handing_members sound undisturbed payload log, rfl, fun index inside =>
        handing_account sound undisturbed unread payload log split empty inside rfl⟩

/-- Only the network of a world matters for what is left to read. -/
theorem Handles.of_inWorld {relay after : Relay} {outcome : Outcome} (world : World)
    (drains : Drains (relay.inWorld { world with net := relay.world.net }) after)
    (handles : Handles (relay.inWorld { world with net := relay.world.net }) after outcome) :
    Drains relay after ∧ Handles relay after outcome := by
  refine ⟨⟨drains.undisturbed, drains.members, drains.settings, drains.account⟩, ?_⟩
  cases handles with
  | idle done still => exact .idle done still
  | broadcast source payload member full fits less => exact .broadcast source payload member full fits less

theorem step_undisturbed {relay : Relay} (steady : relay.Steady) (undisturbed : relay.Undisturbed)
    (fair : ∀ count, (relay.world.order count).Perm (List.range count)) (limit : Number) :
    ∃ outcome after, step (some limit) relay = .ok outcome after ∧
      Drains relay after ∧ Handles relay after outcome := by
  obtain ⟨world, waited⟩ := await_undisturbed steady.sound undisturbed fair limit
  have drift := await_drift steady.sound.os steady.script (some limit)
  rw [waited, Action.state_ok] at drift
  have calm : (relay.inWorld { world with net := relay.world.net, script := none }).Undisturbed :=
    ⟨undisturbed.bound, undisturbed.nobody, undisturbed.size, undisturbed.takes, undisturbed.calls, rfl,
      undisturbed.faults, undisturbed.willing⟩
  obtain ⟨outcome, after, ran, drains, handles⟩ := service_readable (drift.sound steady.sound) calm
  refine ⟨outcome, after, ?_, Handles.of_inWorld { world with script := none } drains handles⟩
  rw [step_eq, Action.bind_ok waited]
  exact ran

/-- One iteration with a wait of its own. -/
def turned (relay : Relay) (wait : Wait) : EStateM.Result Fault Relay Outcome :=
  step (some wait.limit) (relay.inWorld { relay.world with order := wait.order })

def outcomes (relay : Relay) : List Wait → List (Except Fault Outcome)
  | [] => []
  | wait :: rest => Action.result (relay.turned wait) :: (Action.state (relay.turned wait)).outcomes rest

def afterWaits (relay : Relay) : List Wait → Relay
  | [] => relay
  | wait :: rest => (Action.state (relay.turned wait)).afterWaits rest

theorem turned_undisturbed {relay : Relay} (steady : relay.Steady) (undisturbed : relay.Undisturbed)
    {wait : Wait} (fair : wait.IsFair) :
    ∃ outcome after, relay.turned wait = .ok outcome after ∧ after.Steady ∧
      Drains relay after ∧ Handles relay after outcome := by
  let ordered := relay.inWorld { relay.world with order := wait.order }
  have same : ordered.Steady :=
    ⟨steady.sound.of_same rfl rfl rfl, steady.script, steady.lower, steady.upper⟩
  have calm : ordered.Undisturbed :=
    ⟨undisturbed.bound, undisturbed.nobody, undisturbed.size, undisturbed.takes, undisturbed.calls,
      undisturbed.script, undisturbed.faults, undisturbed.willing⟩
  obtain ⟨outcome, after, ran, drains, handles⟩ := step_undisturbed same calm fair wait.limit
  have still : after.Steady := by
    have next : (ordered.frame (.step (some wait.limit))).after.Steady := same.frame trivial
    rwa [(ordered.frame_step (some wait.limit)).2, ran] at next
  exact ⟨outcome, after, ran, still, Handles.of_inWorld ordered.world drains handles⟩

theorem Drains.trans {first second third : Relay} (early : Drains first second)
    (late : Drains second third) : Drains first third where
  undisturbed := late.undisturbed
  members := late.members.trans early.members
  settings := late.settings.trans early.settings
  account := by
    intro index member
    rw [late.account index (early.members ▸ member), early.account index member]

/-- What waits one after the other keep of an undisturbed relay, and how their iterations go: reads as long
as something is unread, and idling from then on. -/
theorem afterWaits_undisturbed {relay : Relay} (steady : relay.Steady) (undisturbed : relay.Undisturbed)
    {waits : List Wait} (fair : ∀ wait ∈ waits, wait.IsFair) :
    Drains relay (relay.afterWaits waits) ∧ (relay.afterWaits waits).owed = relay.owed - waits.length ∧
      ∃ reads : List (Nat × Bytes), reads.length = min relay.owed waits.length ∧
        (∀ read ∈ reads, read.1 ∈ relay.members ∧ read.2 ≠ [] ∧
          read.2.length ≤ relay.settings.recvSize.toNat) ∧
        relay.outcomes waits = reads.map (fun read => .ok (.broadcast read.1 read.2)) ++
          List.replicate (waits.length - relay.owed) (.ok .idle) := by
  induction waits generalizing relay with
  | nil => exact ⟨⟨undisturbed, rfl, rfl, fun _ _ => rfl⟩, rfl, [], by simp, by simp, by simp [outcomes]⟩
  | cons wait rest ih =>
    obtain ⟨now, later⟩ := List.forall_mem_cons.mp fair
    obtain ⟨outcome, after, ran, still, drains, handles⟩ := turned_undisturbed steady undisturbed now
    obtain ⟨onward, owed, reads, count, each, outcomes⟩ := ih still drains.undisturbed later
    rw [afterWaits, Relay.outcomes, ran, Action.state_ok, Action.result_ok, outcomes, owed]
    rw [drains.members, drains.settings] at each
    refine ⟨drains.trans onward, ?_⟩
    cases handles with
    | idle done nothing =>
      rw [nothing, Nat.zero_min] at count
      obtain rfl := List.length_eq_zero_iff.mp count
      refine ⟨by omega, [], by simp [done], by simp, ?_⟩
      simp [done, nothing, List.replicate_succ]
    | broadcast source payload member full fits less =>
      refine ⟨by simp only [List.length_cons]; omega, (source, payload) :: reads, ?_, ?_, ?_⟩
      · simp only [List.length_cons]
        omega
      · exact List.forall_mem_cons.mpr ⟨⟨member, full, fits⟩, each⟩
      · have left : (wait :: rest).length - relay.owed = rest.length - after.owed := by
          simp only [List.length_cons]
          omega
        rw [left]
        rfl

/-- Nothing is owed to anybody once no read is. -/
theorem share_owed {relay : Relay} (size : 0 < relay.settings.recvSize) (done : relay.owed = 0)
    (index : Nat) : relay.share index = [] := by
  refine List.flatMap_eq_nil_iff.mpr fun other inside => ?_
  by_contra unread
  have reads := readFewer (List.length_pos_iff.mpr unread) (Int.lt_toNat.mpr size)
  have member : other ∈ relay.members := List.mem_of_mem_filter inside
  have within : (relay.inbox other).length ⌈/⌉ relay.settings.recvSize.toNat ≤ relay.owed :=
    World.le_total (List.mem_map.mpr ⟨other, member, rfl⟩)
  omega

/-- What every member has been written by the time when nothing is left to read. -/
theorem afterWaits_written {relay : Relay} (steady : relay.Steady) (undisturbed : relay.Undisturbed)
    {waits : List Wait} (fair : ∀ wait ∈ waits, wait.IsFair) (enough : relay.owed ≤ waits.length)
    {index : Nat} (member : index ∈ relay.members) :
    (relay.afterWaits waits).written index = relay.written index ++ relay.share index := by
  obtain ⟨drains, owed, _⟩ := afterWaits_undisturbed steady undisturbed fair
  have nothing := share_owed drains.undisturbed.size (by omega) index
  rw [← drains.account index member, nothing, List.append_nil]

/-- A relay that some run of a bound relay has come to, on a platform where every write comes to an end. -/
def Reached (relay : Relay) : Prop :=
  ∃ settings world start moves, world.net.platform.isEndless settings.writeTimeout = false ∧ World.AllOs world ∧
    bind (ofSettings settings world) = .ok () start ∧ (∀ move ∈ moves, move.Meets Event.AllOs) ∧
      start.afterAll moves = relay

theorem Reached.steady {relay : Relay} (reached : relay.Reached) : relay.Steady := by
  obtain ⟨settings, world, start, moves, ends, os, bound, system, rfl⟩ := reached
  exact (bound_steady ends os bound).afterAll system

/-- Draining does not depend on chunking.  Iterations of an undisturbed relay read as often as it takes to
empty every inbox by reads of at most `recvSize` bytes, and are idle from then on; and then every member
has been written what all others had sent, in the order of the members.  Any other undisturbed relay with
the same members and the same bytes unread writes them the same bytes, whatever the size of its reads, the
sizes of its single writes and the orders of readiness. -/
theorem draining_of_reached (relay : Relay) (waits : List Wait) (reached : relay.Reached)
    (undisturbed : relay.Undisturbed) (fair : ∀ wait ∈ waits, wait.IsFair) :
    (∃ reads : List (Nat × Bytes), reads.length = min relay.owed waits.length ∧
      (∀ read ∈ reads, read.1 ∈ relay.members ∧ read.2 ≠ [] ∧
        read.2.length ≤ relay.settings.recvSize.toNat) ∧
      relay.outcomes waits = reads.map (fun read => .ok (.broadcast read.1 read.2)) ++
        List.replicate (waits.length - relay.owed) (.ok .idle)) ∧
    (relay.owed ≤ waits.length → (relay.afterWaits waits).members = relay.members ∧
      ∀ index ∈ relay.members,
        (relay.afterWaits waits).written index = relay.written index ++ relay.share index) ∧
    ∀ (twin : Relay) (others : List Wait), twin.Reached → twin.Undisturbed →
      (∀ wait ∈ others, wait.IsFair) → twin.members = relay.members →
      (∀ index ∈ relay.members, twin.inbox index = relay.inbox index) →
      relay.owed ≤ waits.length → twin.owed ≤ others.length → ∀ index ∈ relay.members, ∃ bytes,
        (relay.afterWaits waits).written index = relay.written index ++ bytes ∧
          (twin.afterWaits others).written index = twin.written index ++ bytes := by
  have steady := reached.steady
  obtain ⟨drains, _, reads⟩ := afterWaits_undisturbed steady undisturbed fair
  refine ⟨reads, fun enough => ⟨drains.members, fun index member =>
    afterWaits_written steady undisturbed fair enough member⟩, ?_⟩
  intro twin others also calm fairly members unread enough plenty index member
  have same : twin.share index = relay.share index := by
    have apart : twin.room.others index = relay.room.others index :=
      congrArg (List.filter (· != index)) members
    rw [share, share, apart]
    exact List.flatMap_congr fun other inside => unread other (List.mem_of_mem_filter inside)
  refine ⟨relay.share index, afterWaits_written steady undisturbed fair enough member, ?_⟩
  rw [← same]
  exact afterWaits_written also.steady calm fairly plenty (members ▸ member)

/-- Three clients, of whom the second takes single bytes only, come in; the first and the last one send. -/
def threeSenders : List Move :=
  [.event (.connect "bob" none none none none), .event (.connect "ann" none none (some 1) none),
    .event (.connect "cy" none none none none), .step none, .step none, .step none,
    .event (.send "bob" [1, 2, 3, 4, 5]), .event (.send "cy" [6, 7])]

theorem draining_of_threeSenders :
    let relay := (Action.state (bind (ofSettings plainSettings {}))).afterAll threeSenders
    let twin := (Action.state (bind (ofSettings { plainSettings with recvSize := 1 } {}))).afterAll threeSenders
    let waits := List.replicate 4 (Wait.mk (.int 0) fun count => (List.range count).reverse)
    let others := List.replicate 8 (Wait.mk (.int 1) List.range)
    relay.owed = 3 ∧ twin.owed = 7 ∧ (relay.afterWaits waits).written 1 = [1, 2, 3, 4, 5, 6, 7] ∧
      (relay.afterWaits waits).written 1 = relay.written 1 ++ relay.share 1 ∧
      ∃ bytes, (relay.afterWaits waits).written 0 = relay.written 0 ++ bytes ∧
        (twin.afterWaits others).written 0 = twin.written 0 ++ bytes := by
  intro relay twin waits others
  have system : ∀ move ∈ threeSenders, move.Meets Event.AllOs := by
    simp [threeSenders, Move.Meets, Event.AllOs]
  have willing : (∀ index ∈ relay.members, (relay.world.net.link index).stream.far = .opened ∧
      (relay.world.net.link index).stream.window = none) ∧
      ∀ index ∈ twin.members, (twin.world.net.link index).stream.far = .opened ∧
        (twin.world.net.link index).stream.window = none := by decide +kernel
  have calm : relay.Undisturbed :=
    { bound := by decide +kernel
      nobody := by decide +kernel
      size := by decide +kernel
      takes := rfl
      calls := List.isEmpty_iff.mp (by decide +kernel)
      script := Option.isNone_iff_eq_none.mp (by decide +kernel)
      faults := fun index member => List.isEmpty_iff.mp
        ((by decide +kernel : ∀ index ∈ relay.members,
          (relay.world.net.link index).stream.faults.isEmpty = true) index member)
      willing := fun index member => ⟨(willing.1 index member).1, (willing.1 index member).2⟩ }
  have calmly : twin.Undisturbed :=
    { bound := by decide +kernel
      nobody := by decide +kernel
      size := by decide +kernel
      takes := rfl
      calls := List.isEmpty_iff.mp (by decide +kernel)
      script := Option.isNone_iff_eq_none.mp (by decide +kernel)
      faults := fun index member => List.isEmpty_iff.mp
        ((by decide +kernel : ∀ index ∈ twin.members,
          (twin.world.net.link index).stream.faults.isEmpty = true) index member)
      willing := fun index member => ⟨(willing.2 index member).1, (willing.2 index member).2⟩ }
  have fair : ∀ wait ∈ waits, wait.IsFair := fun wait inside count =>
    List.eq_of_mem_replicate inside ▸ List.reverse_perm _
  have fairly : ∀ wait ∈ others, wait.IsFair := fun wait inside count =>
    List.eq_of_mem_replicate inside ▸ List.Perm.refl _
  obtain ⟨_, written, alike⟩ := draining_of_reached relay waits
    ⟨plainSettings, {}, _, threeSenders, rfl, blank_allOs, rfl, system, rfl⟩ calm fair
  have same := alike twin others
    ⟨{ plainSettings with recvSize := 1 }, {}, _, threeSenders, rfl, blank_allOs, rfl, system, rfl⟩ calmly
    fairly (by decide +kernel) (by decide +kernel) (by decide +kernel) (by decide +kernel) 0 (by decide +kernel)
  exact ⟨by decide +kernel, by decide +kernel, by decide +kernel,
    (written (by decide +kernel)).2 1 (by decide +kernel), same⟩

end Relay
end RelayBench
