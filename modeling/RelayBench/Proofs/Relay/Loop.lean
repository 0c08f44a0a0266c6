import RelayBench.Proofs.Relay.Membership
import RelayBench.Relay.Serve

/-! The serving loop, one action at a time.  What an action of the loop does to the relay is what a wait,
the events in it and the service of an iteration may do, so the loop keeps what every move of a relay
keeps, wherever another thread has acted between two of its actions. -/
namespace RelayBench

/-- What a readiness call makes of a world.  In the background nothing else happens meanwhile. -/
structure World.Polled (before after : World) : Prop where
  net : after.net = before.settled ∨ after.net = before.net.called .select
  script : after.script = before.remaining ∨ after.script = before.script

namespace Readiness

theorem poll_polled (caller : Caller) (timeout : Option Number) (watched : List Watched) (world : World) :
    world.Polled (Action.state (poll caller timeout watched world)) := by
  cases caller with
  | foreground =>
    obtain ⟨stop, left, _⟩ := poll_eq timeout watched world
    rw [left]
    exact ⟨.inl rfl, .inl rfl⟩
  | background =>
    cases raised : FaultQueue.next world.net.faults .select with
    | some fault =>
      simp only [poll, Action.bind_apply, Action.liftNet_apply, Action.onPart_apply, Net.queued_error raised]
      exact ⟨.inr rfl, .inr rfl⟩
    | none =>
      simp only [poll, Action.bind_apply, Action.liftNet_apply, Action.onPart_apply, Net.queued_ok raised]
      exact ⟨.inr rfl, .inr rfl⟩

theorem finish_cases (caller : Caller) (timeout : Option Number) (watched : List Watched) (room : Room) :
    ∃ world, room.world.Polled world ∧
      ((∃ fault, finish caller timeout watched room = .error fault { room with world }) ∨
        ∃ found, finish caller timeout watched room =
          .ok (arrange room.members found) { room with world }) := by
  have left := poll_polled caller timeout watched room.world
  cases polled : poll caller timeout watched room.world with
  | error fault world =>
    rw [polled] at left
    exact ⟨world, left, .inl ⟨fault, finish_error room polled⟩⟩
  | ok found world =>
    rw [polled] at left
    obtain ⟨log, ran⟩ := finish_ok room polled
    exact ⟨{ world with log }, ⟨left.net, left.script⟩, .inr ⟨found, ran⟩⟩

end Readiness

namespace Relay

/-- A drift in which shut doors stay as they are and nothing new comes into the script. -/
structure Lull (before after : Relay) : Prop extends Drift before after where
  shut : Net.LeavesShut before.world.net after.world.net
  script : ∀ {kind}, before.world.Scripted kind → after.world.Scripted kind

theorem quiet_lull {relay : Relay} (os : relay.world.net.AllOs) {world : World}
    (net : world.net = relay.world.net) (script : world.script = relay.world.script) :
    Lull relay (relay.inWorld world) where
  world := rfl
  grown := by
    show Net.Grown relay.world.net world.net
    rw [net]
    exact .refl _
  os := net ▸ os
  shut := by
    intro door _
    exact congrArg (Net.door · door) net
  script := fun scripted items found => scripted items (script ▸ found)

theorem polled_lull {relay : Relay} (os : relay.world.net.AllOs) (script : relay.world.Scripted Event.AllOs)
    {world : World} (polled : relay.world.Polled world) : Lull relay (relay.inWorld world) := by
  have called : Net.Grown relay.world.net (relay.world.net.called .select) :=
    .of_side rfl rfl rfl (fun _ => rfl) (fun _ => rfl)
  have calls := Net.called_allOs os .select
  have settled := Net.applyAll_allOs calls _ fun _ comes => World.upcoming_kind script comes
  refine ⟨⟨rfl, ?_, ?_⟩, ?_, fun {kind} scripted => ?_⟩
  · show Net.Grown relay.world.net world.net
    rcases polled.net with net | net <;> rw [net]
    · exact called.trans (Net.applyAll_grown _ _)
    · exact called
  · show world.net.AllOs
    rcases polled.net with net | net <;> rw [net]
    · exact settled
    · exact calls
  · show Net.LeavesShut relay.world.net world.net
    rcases polled.net with net | net <;> rw [net]
    · exact fun door shut => Net.applyAll_leavesShut (relay.world.net.called .select) _ door shut
    · exact fun _ _ => rfl
  · rcases polled.script with same | same
    · exact World.remaining_scripted scripted same
    · exact fun items found => scripted items (same ▸ found)

theorem await_lull {relay : Relay} (os : relay.world.net.AllOs) (script : relay.world.Scripted Event.AllOs)
    (timeout : Option Number) : Lull relay (Action.state (await timeout relay)) := by
  rcases relay.await_cases timeout with ⟨_, fault, ran⟩ | ⟨door, world, _, _, waited, course⟩
  · rw [ran]
    exact quiet_lull os rfl rfl
  · have lull := polled_lull os script ⟨.inl waited.net, .inl waited.script⟩
    rcases course with ⟨fault, ran⟩ | ⟨ready, ran, _⟩ <;> rw [ran] <;> exact lull

theorem afterRead_lull {relay : Relay} (os : relay.world.net.AllOs) (source : Nat) (log : List Entry) :
    Lull relay (relay.afterRead source log) where
  world := rfl
  grown := by
    refine .of_side rfl rfl rfl (fun index => ?_) (fun _ => rfl)
    show ((relay.readNet source).link index).side = _
    rw [readNet_link]
    split
    next same => exact same ▸ (relay.world.net.link source).read_side ..
    · rfl
  os := ⟨os.calls, afterRead_allOs os source log⟩
  shut := fun _ _ => rfl
  script := id

/-- A relay that has let a link in. -/
def admitted (relay : Relay) (first : Nat) (log : List Entry) : Relay :=
  { relay.put (relay.members ++ [first]) relay.world.net log with accepted := relay.accepted + 1 }

/-- What an action of the loop, an event or an iteration may make of a relay.  The links of `hand` are let
in by it; those of `next` were taken from the door and are still to be let in. -/
inductive Sway (relay : Relay) : (hand next : List Nat) → Relay → Prop
  | lull {after : Relay} (lull : Lull relay after) : Sway relay [] [] after
  | served {middle after : Relay} {result : Except Fault Outcome} (lull : Lull relay middle)
      (served : Served middle result after) : Sway relay [] [] after
  | taken {middle : Relay} {door first : Nat} {rest : List Nat} (lull : Lull relay middle)
      (bound : middle.listener.door = some door)
      (queue : (middle.world.net.door door).pending = first :: rest) :
      Sway relay [] [first] (middle.put middle.members (middle.taking door first rest) middle.world.log)
  | joined (first : Nat) (log : List Entry) (held : relay.Held first) :
      Sway relay [first] [] (relay.admitted first log)

/-- What a relay knows of its background loop. -/
def flags (relay : Relay) : Bool × Bool × Option Phase := (relay.serving, relay.started, relay.loop)

def flagged (relay : Relay) (serving started : Bool) (loop : Option Phase) : Relay :=
  { relay with serving, started, loop }

theorem Sound.of_flagged {relay : Relay} {serving started : Bool} {loop : Option Phase}
    (sound : (relay.flagged serving started loop).Sound) : relay.Sound :=
  sound.of_same rfl rfl rfl

theorem Held.of_flagged {relay : Relay} {serving started : Bool} {loop : Option Phase} {index : Nat}
    (held : (relay.flagged serving started loop).Held index) : relay.Held index :=
  ⟨held.live, held.apart, held.unqueued⟩

theorem Drift.flags {before after : Relay} (drift : Drift before after) : after.flags = before.flags := by
  rw [drift.world]
  rfl

section

variable {relay : Relay} (sound : relay.Sound)
include sound

theorem taken_turn {door first : Nat} {rest : List Nat} (bound : relay.listener.door = some door)
    (queue : (relay.world.net.door door).pending = first :: rest) (log : List Entry) :
    Turn relay (relay.put relay.members (relay.taking door first rest) log) :=
  taking_turn sound bound queue relay.members relay.accepted log (.inl rfl)

/-- The link that was taken is in nobody's hand before, and may be let in afterwards. -/
theorem taken_held {door first : Nat} {rest : List Nat} (bound : relay.listener.door = some door)
    (queue : (relay.world.net.door door).pending = first :: rest) (log : List Entry) :
    ¬ relay.Held first ∧ (relay.put relay.members (relay.taking door first rest) log).Held first := by
  have waits : relay.waiting = first :: rest := by simp [waiting, bound, queue]
  have waiting : first ∈ relay.waiting := by simp [waits]
  obtain ⟨live, apart, _⟩ := sound.fresh first waiting
  refine ⟨fun held => held.unqueued waiting, taking_live live, apart, ?_⟩
  have later : Relay.waiting (relay.put relay.members (relay.taking door first rest) log) = rest := by
    simp [Relay.waiting, put, bound, world, taking_door]
  rw [later]
  exact (List.nodup_cons.mp (waits ▸ sound.queue)).1

theorem admitted_kept {first : Nat} (held : relay.Held first) (log : List Entry) :
    Kept relay (relay.admitted first log) where
  sound :=
    { grounded := sound.grounded.of_same rfl rfl
      os := sound.os
      distinct := sound.distinct.append (List.nodup_singleton first) (by simpa using held.apart)
      alive := by
        intro index member
        rcases List.mem_append.mp member with old | only
        · exact sound.alive index old
        · exact List.mem_singleton.mp only ▸ held.live
      queue := sound.queue
      fresh := by
        intro index waits
        obtain ⟨live, apart, blank⟩ := sound.fresh index waits
        refine ⟨live, fun member => ?_, blank⟩
        rcases List.mem_append.mp member with old | only
        · exact apart old
        · exact held.unqueued (List.mem_singleton.mp only ▸ waits)
      door := sound.door }
  suited := fun suited => suited.of_same rfl rfl rfl
  fate := fun index member => .inl (List.mem_append_left _ member)
  gone := by
    intro index gone
    refine ⟨⟨gone.known, fun member => ?_, gone.closed, gone.shut⟩, rfl⟩
    rcases List.mem_append.mp member with old | only
    · exact gone.apart old
    · exact absurd (List.mem_singleton.mp only ▸ gone.closed) (by simp [held.live.closed])

omit sound in
theorem admitted_held {first index : Nat} (log : List Entry) (other : index ≠ first) (held : relay.Held index) :
    (relay.admitted first log).Held index where
  live := held.live
  apart := by
    intro member
    rcases List.mem_append.mp member with old | only
    · exact held.apart old
    · exact other (List.mem_singleton.mp only)
  unqueued := held.unqueued

end

namespace Sway

variable {relay after : Relay} {hand next : List Nat}

theorem flags (sway : Sway relay hand next after) : after.flags = relay.flags := by
  cases sway with
  | lull lull => exact lull.toDrift.flags
  | served lull served =>
    rw [← lull.toDrift.flags]
    cases served <;> rfl
  | taken lull bound queue => exact lull.toDrift.flags
  | joined first log held => rfl

theorem listener (sway : Sway relay hand next after) (sound : relay.Sound) : after.listener = relay.listener := by
  cases sway with
  | lull lull => exact lull.toDrift.listener
  | served lull served =>
    exact (served.turn (lull.toDrift.sound sound)).listener.trans lull.toDrift.listener
  | taken lull bound queue => exact lull.toDrift.listener
  | joined first log held => rfl

theorem kept (sway : Sway relay hand next after) (sound : relay.Sound) : Kept relay after := by
  cases sway with
  | lull lull => exact lull.toDrift.kept sound
  | served lull served =>
    have calm := lull.toDrift.kept sound
    exact calm.trans ((served.turn calm.sound).kept calm.sound)
  | taken lull bound queue =>
    have calm := lull.toDrift.kept sound
    exact calm.trans ((taken_turn calm.sound bound queue _).kept calm.sound)
  | joined first log held => exact admitted_kept sound held log

/-- A link in another hand stays there. -/
theorem held (sway : Sway relay hand next after) (sound : relay.Sound) {index : Nat} (other : index ∉ hand)
    (held : relay.Held index) : after.Held index := by
  cases sway with
  | lull lull => exact lull.toDrift.held held
  | served lull served => exact (served.turn (lull.toDrift.sound sound)).held (lull.toDrift.held held)
  | taken lull bound queue => exact (taken_turn (lull.toDrift.sound sound) bound queue _).held (lull.toDrift.held held)
  | joined first log _ => exact admitted_held log (by simpa using other) held

/-- A link that is taken was in no hand before. -/
theorem takes (sway : Sway relay hand next after) (sound : relay.Sound) {index : Nat} (member : index ∈ next) :
    ¬ relay.Held index ∧ after.Held index ∧ relay.listener.isBound = true := by
  cases sway with
  | taken lull bound queue =>
    obtain rfl := List.mem_singleton.mp member
    obtain ⟨unheld, held⟩ := taken_held (lull.toDrift.sound sound) bound queue _
    refine ⟨fun held => unheld (lull.toDrift.held held), held, ?_⟩
    rw [← lull.toDrift.listener]
    simp [Listener.isBound, bound]
  | _ => exact absurd member List.not_mem_nil

end Sway

/-- Nobody waits at a shut door from a number on. -/
def Vacant (first : Nat) (relay : Relay) : Prop :=
  ∀ door, first ≤ door → door < relay.world.net.doorCount →
    (relay.world.net.door door).isOpen = false → (relay.world.net.door door).pending = []

theorem Vacant.of_shut {first : Nat} {relay after : Relay} (vacant : Vacant first relay)
    (doorCount : after.world.net.doorCount = relay.world.net.doorCount)
    (shell : ∀ door, (after.world.net.door door).shell = (relay.world.net.door door).shell)
    (shut : Net.LeavesShut relay.world.net after.world.net) : Vacant first after := by
  intro door lower upper closed
  have before : (relay.world.net.door door).isOpen = false :=
    (congrArg Door.isOpen (shell door)).symm.trans closed
  rw [shut door before]
  exact vacant door lower (doorCount ▸ upper) before

theorem taking_leavesShut {relay : Relay} (sound : relay.Sound) {own first : Nat} {rest : List Nat}
    (bound : relay.listener.door = some own) :
    Net.LeavesShut relay.world.net (relay.taking own first rest) := by
  intro door shut
  have other : door ≠ own := by
    rintro rfl
    exact absurd (sound.watches bound).opened (by simp [shut])
  rw [taking_door, if_neg other]

theorem Served.leavesShut {relay after : Relay} {result : Except Fault Outcome} (sound : relay.Sound)
    (served : Served relay result after) : Net.LeavesShut relay.world.net after.world.net := by
  cases served with
  | nothing => exact fun _ _ => rfl
  | refused net log same => rcases same with rfl | rfl <;> exact fun _ _ => rfl
  | welcomed door first rest log bound queue adopted => exact taking_leavesShut sound bound
  | misfit fault door first rest bound queue lost => exact taking_leavesShut sound bound
  | forgone fault door first rest log bound queue lost system => exact taking_leavesShut sound bound
  | left | handedOn | unread => exact fun _ _ => rfl

/-- A link that was taken from a door is in hand. -/
theorem Placed.taken {hands : List Nat} {link : Nat} {relay : Relay} (placed : Placed hands link relay)
    {door first : Nat} {rest : List Nat} (queue : (relay.world.net.door door).pending = first :: rest)
    (log : List Entry) :
    Placed (first :: hands) link (relay.put relay.members (relay.taking door first rest) log) := by
  intro index aside lower upper opened
  obtain ⟨other, aside⟩ : index ≠ first ∧ index ∉ hands := by simpa using aside
  have same : (relay.taking door first rest).link index = relay.world.net.link index := by
    rw [taking_link, if_neg other]
  have opened : ((relay.taking door first rest).link index).stream.isOpen = true := opened
  rcases placed index aside lower upper (same ▸ opened) with member | ⟨place, known, waits⟩ | lost
  · exact .inl member
  · exact .inr (.inl ⟨place, known, (taking_pending queue waits).resolve_right other⟩)
  · refine .inr (.inr (Eq.trans_ne ?_ lost))
    exact adoption_of_same rfl rfl (congrArg (fun link : Link => link.stream.address) same)

/-- A link that was let in is not in hand any more. -/
theorem Placed.admitted {hands : List Nat} {link first : Nat} {relay : Relay}
    (placed : Placed (first :: hands) link relay) (log : List Entry) :
    Placed hands link (relay.admitted first log) := by
  intro index aside lower upper opened
  by_cases same : index = first
  · exact .inl (List.mem_append_right _ (List.mem_singleton.mpr same))
  · rcases placed index (by simp [same, aside]) lower upper opened with member | waits | lost
    · exact .inl (List.mem_append_left _ member)
    · exact .inr (.inl waits)
    · exact .inr (.inr lost)

/-- What holds of a relay between any two actions of any of its threads: of the doors and links from some
numbers on, only those are open that it still has a use for.  The links of `hands` have been accepted and
are still to be let in. -/
structure Orderly (door link : Nat) (hands : List Nat) (relay : Relay) : Prop where
  steady : relay.Steady
  owns : Owns door relay
  placed : Placed hands link relay
  vacant : Vacant door relay

theorem Orderly.of_flagged {door link : Nat} {hands : List Nat} {relay : Relay} {serving started : Bool}
    {loop : Option Phase} (orderly : Orderly door link hands (relay.flagged serving started loop)) :
    Orderly door link hands relay where
  steady := by
    obtain ⟨sound, script, lower, upper⟩ := orderly.steady
    exact ⟨sound.of_flagged, script, lower, upper⟩
  owns := ⟨orderly.owns.known, orderly.owns.own, orderly.owns.only⟩
  placed := orderly.placed
  vacant := orderly.vacant

section

variable {door link : Nat} {hands : List Nat} {relay : Relay} (orderly : Orderly door link hands relay)
include orderly

theorem Orderly.lull {after : Relay} (lull : Lull relay after) : Orderly door link hands after where
  steady :=
    { sound := lull.toDrift.sound orderly.steady.sound
      script := lull.script orderly.steady.script
      lower := lull.toDrift.listener ▸ orderly.steady.lower
      upper := lull.toDrift.listener ▸ orderly.steady.upper }
  owns := orderly.owns.of_shell lull.toDrift.listener lull.grown.doorCount lull.toDrift.shell
  placed := lull.toDrift.placed orderly.placed
  vacant := orderly.vacant.of_shut lull.grown.doorCount lull.toDrift.shell lull.shut

theorem Orderly.turn {after : Relay} {others : List Nat} (turn : Turn relay after)
    (script : after.world.script = relay.world.script) (placed : Placed others link after)
    (shut : Net.LeavesShut relay.world.net after.world.net) : Orderly door link others after where
  steady :=
    { sound := turn.sound orderly.steady.sound
      script := fun items found => orderly.steady.script items (script.symm.trans found)
      lower := turn.listener ▸ orderly.steady.lower
      upper := turn.listener ▸ orderly.steady.upper }
  owns := orderly.owns.of_shell turn.listener turn.doorCount turn.shell
  placed := placed
  vacant := orderly.vacant.of_shut turn.doorCount turn.shell shut

end

theorem Orderly.sway {door link : Nat} {hand next hands : List Nat} {relay after : Relay}
    (orderly : Orderly door link (hand ++ hands) relay) (sway : Sway relay hand next after) :
    Orderly door link (next ++ hands) after := by
  cases sway with
  | lull lull => exact orderly.lull lull
  | served lull served =>
    have calm := orderly.lull lull
    have sound := calm.steady.sound
    exact calm.turn (served.turn sound) served.script (served.placed sound calm.placed) (served.leavesShut sound)
  | taken lull bound queue =>
    have calm := orderly.lull lull
    have sound := calm.steady.sound
    exact calm.turn (taken_turn sound bound queue _) rfl (calm.placed.taken queue _) (taking_leavesShut sound bound)
  | joined first log held =>
    exact
      { steady := { orderly.steady with sound := (admitted_kept orderly.steady.sound held log).sound }
        owns := orderly.owns.of_shell rfl rfl fun _ => rfl
        placed := orderly.placed.admitted log
        vacant := orderly.vacant }

/-! The moves of a run are sways, but for a binding and a closing. -/

theorem frame_sway {relay : Relay} (steady : relay.Steady) {move : Move} (system : move.Meets Event.AllOs)
    (other : move ≠ .bind ∧ move ≠ .close) : Sway relay [] [] (relay.frame move).after := by
  cases move with
  | event event =>
    obtain ⟨_, stop, after⟩ := relay.frame_event event
    rw [after]
    exact .lull
      { world := rfl
        grown := Net.apply_grown _ event
        os := Net.apply_allOs _ steady.sound.os system
        shut := fun _ shut => Net.apply_shut _ shut event
        script := id }
  | step timeout =>
    have lull := await_lull steady.sound.os steady.script timeout
    rcases step_course steady.sound steady.script timeout with ⟨after, _⟩ | ⟨result, served, _⟩
    · exact after ▸ .lull lull
    · exact .served lull served
  | shutdown =>
    rw [(relay.frame_quiet .shutdown shutdown rfl).2]
    exact .lull (quiet_lull steady.sound.os rfl rfl)
  | bind => exact absurd rfl other.1
  | close => exact absurd rfl other.2

theorem bind_flags (relay : Relay) : (Action.state (bind relay)).flags = relay.flags := by
  cases ran : relay.listener.bind relay.room.world <;> simp [bind, ran, flags]

theorem bind_held {relay : Relay} (steady : relay.Steady) {index : Nat} (held : relay.Held index) :
    (Action.state (bind relay)).Held index := by
  have left {net : Net} (added : Net.Added relay.world.net net) : net.Live index :=
    held.live.of_side (added.linkCount ▸ held.live.known) (congrArg Link.side (added.link index))
  rcases bind_cases steady.sound steady.lower steady.upper with
    ⟨_, ran⟩ | ⟨unbound, ⟨net, log, ran, added, _, _, empty⟩ | ⟨fault, net, ran, added, _⟩⟩ <;> rw [ran]
  · exact held
  · have nobody : waiting { relay.put relay.members net log with
        listener := { relay.listener with door := some relay.world.net.doorCount } } = [] := empty
    exact ⟨left added, held.apart, by simp [nobody]⟩
  · exact ⟨left added, held.apart, by simp [waiting, put, unbound]⟩

section

variable {relay : Relay} (sound : relay.Sound)
include sound

theorem emptied_held {index : Nat} (held : relay.Held index) (log : List Entry) :
    (relay.put [] relay.emptiedNet log).Held index where
  live := by
    have link : relay.emptiedNet.link index = relay.world.net.link index := by
      rw [emptiedNet_link sound, if_neg held.apart]
    exact held.live.of_side held.live.known (congrArg Link.side link)
  apart := List.not_mem_nil
  unqueued := held.unqueued

theorem unlisten_held {index : Nat} (held : relay.Held index) : (Action.state (unlisten relay)).Held index := by
  rw [unlisten_state sound]
  have link : relay.shutNet.link index = relay.world.net.link index := by
    rw [shutNet_link sound.queue, if_neg held.unqueued]
  exact
    { live := held.live.of_side (Nat.lt_of_lt_of_eq held.live.known (shutNet_linkCount relay).symm)
        (congrArg Link.side link)
      apart := held.apart
      unqueued := List.not_mem_nil }

end

theorem Orderly.bind {door link : Nat} {hands : List Nat} {relay : Relay}
    (orderly : Orderly door link hands relay) : Orderly door link hands (Action.state (bind relay)) := by
  have steady := orderly.steady
  have system : Move.Meets Event.AllOs .bind := trivial
  have after := (relay.frame_quiet .bind Relay.bind rfl).2
  refine
    { steady := after ▸ steady.frame system
      owns := orderly.owns.bind steady
      placed := after ▸ orderly.placed.frame steady system
      vacant := ?_ }
  rcases bind_cases steady.sound steady.lower steady.upper with
    ⟨_, ran⟩ | ⟨_, ⟨net, log, ran, added, count, _, empty⟩ | ⟨fault, net, ran, added, vacated⟩⟩ <;> rw [ran]
  · exact orderly.vacant
  · intro index lower upper closed
    by_cases old : index < relay.world.net.doorCount
    · have same := added.door index old
      exact same ▸ orderly.vacant index lower old (same ▸ closed)
    · have upper : index < net.doorCount := upper
      have new : index = relay.world.net.doorCount := by omega
      exact new ▸ empty
  · intro index lower upper closed
    by_cases old : index < relay.world.net.doorCount
    · have same := added.door index old
      exact same ▸ orderly.vacant index lower old (same ▸ closed)
    · exact (vacated index (Nat.le_of_not_lt old) upper).2

/-! The two actions of a closing. -/

section

variable {door link : Nat} {hands : List Nat} {relay : Relay} (orderly : Orderly door link hands relay)
include orderly

theorem Orderly.emptied (log : List Entry) : Orderly door link hands (relay.put [] relay.emptiedNet log) where
  steady := { orderly.steady with sound := emptied_sound orderly.steady.sound log }
  owns := orderly.owns.of_shell rfl rfl fun _ => rfl
  placed := orderly.placed.emptied orderly.steady.sound log
  vacant := orderly.vacant

theorem Orderly.unlisten : Orderly door link hands (Action.state (unlisten relay)) := by
  have steady := orderly.steady
  have kept := unlisten_kept steady.sound
  have after := unlisten_state steady.sound
  refine
    { steady := { sound := kept.sound, script := ?_, lower := ?_, upper := ?_ }
      owns := orderly.owns.unlisten steady.sound
      placed := orderly.placed.unlisten steady.sound
      vacant := ?_ } <;> rw [after]
  · exact steady.script
  · exact steady.lower
  · exact steady.upper
  · intro index lower upper shut
    have shut : (relay.shutNet.door index).isOpen = false := shut
    show (relay.shutNet.door index).pending = []
    rw [shutNet_door] at shut ⊢
    split at shut
    next own => rw [if_pos own]
    next other =>
      rw [if_neg other]
      exact orderly.vacant index lower (shutNet_doorCount relay ▸ upper) shut

end

/-! What the actions of the loop come down to. -/

section

variable {relay : Relay} {caller : Caller} {door : Nat} (bound : relay.listener.door = some door)
include bound

theorem advanceAccept_refused {fault : Fault} {after : Net}
    (failed : Net.accept caller door relay.world.net = .error fault after) (system : fault.isOs = true) :
    ∃ log, advanceAccept caller relay = (.testing, relay.put relay.members after log) := by
  obtain ⟨log, told⟩ := turnAway_ok system (relay.inWorld { relay.world with net := after })
  refine ⟨log, ?_⟩
  simp only [advanceAccept, accepting_error (accept_refused bound failed), advanceBy, told]
  rfl

variable {first : Nat} {rest : List Nat} (taken : Net.accept caller door relay.world.net = .ok first
    ((relay.world.net.called .accept).updateDoor door fun d => { d with pending := rest }))
include taken

theorem advanceAccept_misfit {fault : Fault} (lost : relay.adoption first = .error fault)
    (foreign : fault.isOs = false) : advanceAccept caller relay = (.stopping (some fault),
      relay.put relay.members (relay.taking door first rest) relay.world.log) := by
  simp only [advanceAccept, accepting_error (accept_misfit bound taken lost), advanceBy,
    turnAway_error foreign]
  rfl

theorem advanceAccept_forgone {fault : Fault} (lost : relay.adoption first = .error fault)
    (system : fault.isOs = true) :
    ∃ log, advanceAccept caller relay = (.testing, relay.put relay.members (relay.taking door first rest) log) := by
  obtain ⟨log, told⟩ := turnAway_ok system
    (relay.inWorld { relay.world with net := relay.taking door first rest })
  refine ⟨log, ?_⟩
  simp only [advanceAccept, accepting_error (accept_misfit bound taken lost), advanceBy, told]
  rfl

theorem advanceAccept_taken (adopted : relay.adoption first = .ok ()) :
    advanceAccept caller relay = (.admitting first,
      relay.put relay.members (relay.taking door first rest) relay.world.log) := by
  simp only [advanceAccept, accepting_ok (accept_taken bound taken adopted)]
  rfl

end

/-- How the acceptance of a waiting link goes: what the loop does next, and the relay afterwards. -/
inductive Accepting (relay : Relay) (caller : Caller) : Phase × Relay → Prop
  | unbound (fault : Fault) (unbound : relay.listener.door = none) :
      Accepting relay caller (.stopping (some fault), relay)
  | refused (door : Nat) (fault : Fault) (net : Net) (log : List Entry)
      (bound : relay.listener.door = some door)
      (failed : Net.accept caller door relay.world.net = .error fault net)
      (same : net = relay.world.net ∨ net = relay.world.net.called .accept) :
      Accepting relay caller (.testing, relay.put relay.members net log)
  | misfit (fault : Fault) (door first : Nat) (rest : List Nat) (bound : relay.listener.door = some door)
      (queue : (relay.world.net.door door).pending = first :: rest)
      (lost : relay.adoption first = .error fault) (foreign : fault.isOs = false) :
      Accepting relay caller (.stopping (some fault),
        relay.put relay.members (relay.taking door first rest) relay.world.log)
  | forgone (fault : Fault) (door first : Nat) (rest : List Nat) (log : List Entry)
      (bound : relay.listener.door = some door)
      (queue : (relay.world.net.door door).pending = first :: rest)
      (lost : relay.adoption first = .error fault) (system : fault.isOs = true) :
      Accepting relay caller (.testing, relay.put relay.members (relay.taking door first rest) log)
  | taken (door first : Nat) (rest : List Nat) (bound : relay.listener.door = some door)
      (queue : (relay.world.net.door door).pending = first :: rest)
      (adopted : relay.adoption first = .ok ()) :
      Accepting relay caller (.admitting first,
        relay.put relay.members (relay.taking door first rest) relay.world.log)

theorem advanceAccept_accepting {relay : Relay} (sound : relay.Sound) (caller : Caller) :
    Accepting relay caller (advanceAccept caller relay) := by
  cases bound : relay.listener.door with
  | none =>
    have refused : relay.listener.accept caller relay.world =
        .error relay.listener.unbound relay.world := by
      simp [Listener.accept, Listener.descriptor, bound]
    have ran : advanceAccept caller relay = (.stopping (some relay.listener.unbound), relay) := by
      simp only [advanceAccept, accepting_error refused]
      rfl
    rw [ran]
    exact .unbound relay.listener.unbound bound
  | some door =>
    rcases relay.world.net.accept_cases sound.os caller door with
      ⟨fault, after, failed, system, same⟩ | ⟨first, rest, opened, queue, taken⟩
    · obtain ⟨log, ran⟩ := advanceAccept_refused bound failed system
      rw [ran]
      exact .refused door fault after log bound failed same
    · cases adopted : relay.adoption first with
      | ok done =>
        rw [advanceAccept_taken bound taken adopted]
        exact .taken door first rest bound queue adopted
      | error fault =>
        cases system : fault.isOs with
        | false =>
          rw [advanceAccept_misfit bound taken adopted system]
          exact .misfit fault door first rest bound queue adopted system
        | true =>
          obtain ⟨log, ran⟩ := advanceAccept_forgone bound taken adopted system
          rw [ran]
          exact .forgone fault door first rest log bound queue adopted system

theorem advanceAdmit_ok {relay : Relay} {first : Nat} (held : relay.Held first) (caller : Caller)
    (interval : Option Number) :
    ∃ log, advance caller interval (.admitting first) relay = (.testing, relay.admitted first log) := by
  obtain ⟨log, ran⟩ := letIn_ok held.apart held.live.closed
  refine ⟨log, ?_⟩
  simp only [advance, advanceBy, ran]
  rfl

/-- A read from a link that is gone fails, and there is nobody to let go. -/
theorem received_gone {relay : Relay} {source : Nat} (gone : relay.Gone source) (copes : relay.Copes source) :
    ∃ log, (readMember source >>= received source) relay =
      .ok (.disconnected source) (relay.afterRead source log) := by
  obtain ⟨fault, read⟩ : ∃ fault, relay.reading source = .fault fault := by
    rcases Link.read_cases (relay.world.net.link source) relay.world.net.platform relay.settings.recvSize with
      ⟨fault, _, ran⟩ | ⟨_, ran⟩
    · exact ⟨fault, by rw [reading, ran]⟩
    · exact ⟨.badDescriptor, by simp [reading, ran, Stream.read, gone.shut]⟩
  have system : fault.isOs = true := copes fault read
  obtain ⟨log, logged⟩ := relay.afterRead_emit source
    (readWarning ((relay.afterRead source relay.world.log).room.link source).name fault) relay.world.log
  have apart : source ∉ (relay.afterRead source log).room.members := gone.apart
  refine ⟨log, ?_⟩
  rw [Action.bind_ok (relay.readMember_ok source), read]
  simp only [received, system, Bool.not_true, Bool.false_eq_true, if_false, Action.bind_apply,
    Action.get_apply, logged]
  simp [disconnect, Room.remove, apart]

/-- Whatever comes of a read from a link that is gone, nothing but the read itself has been done. -/
theorem received_gone_state {relay : Relay} {source : Nat} (gone : relay.Gone source) :
    ∃ log, Action.state ((readMember source >>= received source) relay) = relay.afterRead source log := by
  by_cases copes : relay.Copes source
  · obtain ⟨log, ran⟩ := received_gone gone copes
    exact ⟨log, by rw [ran, Action.state_ok]⟩
  · obtain ⟨fault, fails, foreign⟩ := relay.not_copes copes
    exact ⟨_, by rw [received_unread fails foreign, Action.state_error]⟩

/-- A read of a member, or of one that is gone in the meantime, lets nobody in. -/
theorem received_cases {relay : Relay} (sound : relay.Sound) {source : Nat}
    (known : source ∈ relay.members ∨ relay.Gone source) :
    (Action.state ((readMember source >>= received source) relay)).members ⊆ relay.members ∧
      (Lull relay (Action.state ((readMember source >>= received source) relay)) ∨
        ∃ result, Served relay result (Action.state ((readMember source >>= received source) relay))) := by
  rcases known with member | gone
  · have served := received_serves sound member
    refine ⟨?_, .inr ⟨_, served⟩⟩
    have course := received_course sound member
    generalize (readMember source >>= received source) relay = ran at course ⊢
    cases course with
    | left log none copes => exact List.erase_subset
    | handedOn payload log some full => exact fun index stays => ((mem_handing ..).mp stays).1
    | unread fault fails foreign => exact List.Subset.refl _
  · obtain ⟨log, ran⟩ := received_gone_state gone
    rw [ran]
    exact ⟨List.Subset.refl _, .inl (afterRead_lull sound.os source log)⟩

theorem advanceRead_cases (caller : Caller) (source : Nat) (relay : Relay) :
    caller = .background ∧
        advanceRead caller source relay = (.stalled source, relay.afterRead source relay.world.log) ∨
      advanceRead caller source relay =
        advanceBy (readMember source >>= received source) (fun _ => .testing) relay := by
  have resumed : advanceBy (received source (relay.reading source)) (fun _ => .testing)
      (relay.afterRead source relay.world.log) =
        advanceBy (readMember source >>= received source) (fun _ => .testing) relay := by
    simp only [advanceBy, Action.bind_apply, relay.readMember_ok source]
  simp only [advanceRead, relay.readMember_ok source, ← resumed]
  cases caller with
  | foreground => exact .inr rfl
  | background => cases relay.reading source <;> first | exact .inl ⟨rfl, rfl⟩ | exact .inr rfl

end Relay

namespace Phase

/-- Whether a loop has announced that it serves, and not yet that it has stopped. -/
def isServing : Phase → Bool
  | .testing | .entering | .waiting _ | .admitting _ | .reading _ | .stalled _ | .stopping _ => true
  | _ => false

/-- The link that a loop has accepted and not let in yet. -/
def hand : Phase → List Nat
  | .admitting link => [link]
  | _ => []

theorem hand_stopped {phase : Phase} (stopped : phase.isStopped = true) : phase.hand = [] := by
  cases phase with
  | stopped fault => rfl
  | _ => simp [isStopped] at stopped

theorem hand_nodup (phase : Phase) : phase.hand.Nodup := by
  cases phase with
  | admitting link => exact List.nodup_singleton link
  | _ => exact List.nodup_nil

/-- Where the loop of a relay may stand once it is past its binding: the link that it is about to read is
a member, or has been closed in the meantime; a link in hand is open, and no member. -/
def Fits (relay : Relay) : Phase → Prop
  | .binding => False
  | .admitting link => relay.Held link
  | .reading source => source ∈ relay.members ∨ relay.Gone source
  | .stalled source => source ∈ relay.members ∨ relay.Gone source
  | _ => True

theorem Fits.held {relay : Relay} {phase : Phase} (fits : phase.Fits relay) :
    ∀ index ∈ phase.hand, relay.Held index := by
  intro index member
  cases phase with
  | admitting link => exact List.mem_singleton.mp member ▸ fits
  | _ => exact absurd member List.not_mem_nil

/-- What others do leaves a loop where it may stand. -/
theorem Fits.kept {relay after : Relay} {phase : Phase} (fits : phase.Fits relay)
    (kept : Relay.Kept relay after) (held : ∀ index ∈ phase.hand, after.Held index) : phase.Fits after := by
  have known {index : Nat} (known : index ∈ relay.members ∨ relay.Gone index) :
      index ∈ after.members ∨ after.Gone index := by
    rcases known with member | gone
    · exact kept.fate index member
    · exact .inr (kept.gone index gone).1
  cases phase with
  | binding => exact fits
  | admitting link => exact held link (List.mem_singleton_self link)
  | reading source => exact known fits
  | stalled source => exact known fits
  | _ => trivial

end Phase

namespace Relay

/-- What an action of the loop does: a sway, up to the announcements, after which the loop stands where it
may.  Nobody comes in but the link in hand, and the relay is left announced as serving only if the loop
goes on to serve itself. -/
structure Stroke (relay : Relay) (phase : Phase) (next : Phase × Relay) : Prop where
  sway : Sway relay phase.hand next.1.hand (next.2.flagged relay.serving relay.started relay.loop)
  entry : ∀ index ∈ next.2.members, index ∈ relay.members ∨ index ∈ phase.hand
  fits : next.1.Fits next.2
  started : next.2.started = relay.started
  loop : next.2.loop = relay.loop
  serving : next.2.serving = true →
    next.1.isServing = true ∨ relay.serving = true ∧ phase.isServing = false

theorem Orderly.stroke {door link : Nat} {hands : List Nat} {relay : Relay} {phase : Phase}
    {next : Phase × Relay} (orderly : Orderly door link (phase.hand ++ hands) relay)
    (stroke : Stroke relay phase next) : Orderly door link (next.1.hand ++ hands) next.2 :=
  (orderly.sway stroke.sway).of_flagged

theorem Stroke.of_sway {relay after : Relay} {phase next : Phase} (sway : Sway relay phase.hand next.hand after)
    (entry : ∀ index ∈ after.members, index ∈ relay.members ∨ index ∈ phase.hand) (fits : next.Fits after)
    (serves : next.isServing = true ∨ phase.isServing = false) : Stroke relay phase (next, after) := by
  obtain ⟨serving, started, loop⟩ : after.serving = relay.serving ∧ after.started = relay.started ∧
      after.loop = relay.loop := by
    simpa [flags] using sway.flags
  have same : after.flagged relay.serving relay.started relay.loop = after := by
    rw [← serving, ← started, ← loop]
    rfl
  refine ⟨same.symm ▸ sway, entry, fits, started, loop, fun on => ?_⟩
  exact serves.imp id fun before => ⟨serving ▸ on, before⟩

/-- A lull leaves the members as they are. -/
theorem Stroke.of_lull {relay after : Relay} {phase next : Phase} (lull : Lull relay after)
    (hand : phase.hand = []) (still : next.hand = []) (fits : next.Fits after)
    (serves : next.isServing = true ∨ phase.isServing = false) : Stroke relay phase (next, after) :=
  .of_sway (by rw [hand, still]; exact .lull lull) (fun _ member => .inl (lull.toDrift.members ▸ member)) fits serves

theorem Stroke.of_action {α : Type} {before relay : Relay} {phase : Phase} {action : RelayCall α}
    {next : α → Phase} (hand : phase.hand = []) (sway : Sway before [] [] (Action.state (action relay)))
    (entry : (Action.state (action relay)).members ⊆ before.members)
    (goes : ∀ a after, (next a).Fits after ∧ (next a).isServing = true ∧ (next a).hand = []) :
    Stroke before phase (advanceBy action next relay) := by
  unfold advanceBy
  cases course : action relay with
  | ok a after =>
    rw [course] at sway entry
    obtain ⟨fits, serves, still⟩ := goes a after
    exact .of_sway (by rw [hand, still]; exact sway) (fun _ member => .inl (entry member)) fits (.inl serves)
  | error fault after =>
    rw [course] at sway entry
    exact .of_sway (by rw [hand]; exact sway) (fun _ member => .inl (entry member)) trivial (.inl rfl)

section

variable {relay : Relay} (steady : relay.Steady)
include steady

theorem advanceRead_stroke (caller : Caller) {source : Nat}
    (known : source ∈ relay.members ∨ relay.Gone source) {phase : Phase} (hand : phase.hand = []) :
    Stroke relay phase (advanceRead caller source relay) := by
  have os := steady.sound.os
  rcases advanceRead_cases caller source relay with ⟨_, ran⟩ | ran <;> rw [ran]
  · have lull := afterRead_lull os source relay.world.log
    have fits : (Phase.stalled source).Fits relay := known
    exact .of_lull lull hand rfl (fits.kept (lull.toDrift.kept steady.sound) fun _ member =>
      absurd member List.not_mem_nil) (.inl rfl)
  · obtain ⟨entry, course⟩ := received_cases steady.sound known
    refine .of_action hand ?_ entry fun _ _ => ⟨trivial, rfl, rfl⟩
    rcases course with lull | ⟨result, served⟩
    · exact .lull lull
    · exact .served (quiet_lull os rfl rfl) served

theorem advanceAccept_stroke (caller : Caller) {middle : Relay} (lull : Lull relay middle) (watched : List Watched) :
    Stroke relay (.waiting watched) (advanceAccept caller middle) := by
  have sound := lull.toDrift.sound steady.sound
  have entry {index : Nat} (member : index ∈ middle.members) : index ∈ relay.members ∨ index ∈ [] :=
    .inl (lull.toDrift.members ▸ member)
  have course := advanceAccept_accepting sound caller
  generalize advanceAccept caller middle = next at course ⊢
  cases course with
  | unbound fault unbound => exact .of_lull lull rfl rfl trivial (.inl rfl)
  | refused door fault net log bound failed same =>
    exact .of_sway (.served lull (.refused net log same)) (fun _ => entry) trivial (.inl rfl)
  | misfit fault door first rest bound queue lost foreign =>
    exact .of_sway (.served lull (.misfit fault door first rest bound queue lost)) (fun _ => entry) trivial
      (.inl rfl)
  | forgone fault door first rest log bound queue lost system =>
    exact .of_sway (.served lull (.forgone fault door first rest log bound queue lost system)) (fun _ => entry)
      trivial (.inl rfl)
  | taken door first rest bound queue adopted =>
    exact .of_sway (.taken lull bound queue) (fun _ => entry) (taken_held sound bound queue _).2 (.inl rfl)

theorem advanceWait_stroke (caller : Caller) (interval : Option Number) (watched : List Watched) :
    Stroke relay (.waiting watched) (advance caller interval (.waiting watched) relay) := by
  obtain ⟨world, polled, ⟨fault, ran⟩ | ⟨found, ran⟩⟩ :=
    Readiness.finish_cases caller interval watched relay.room <;>
  have lull := polled_lull steady.sound.os steady.script polled
  · simp only [advance, ran]
    exact .of_lull lull rfl rfl trivial (.inl rfl)
  · simp only [advance, ran]
    cases ready : Readiness.arrange relay.room.members found with
    | nil => exact .of_lull lull rfl rfl trivial (.inl rfl)
    | cons first rest =>
      cases first with
      | door index => exact advanceAccept_stroke steady caller lull watched
      | link source =>
        have known : Watched.link source ∈ Readiness.arrange relay.room.members found := by simp [ready]
        exact .of_lull lull rfl rfl (.inl (Readiness.link_mem_arrange known)) (.inl rfl)

/-- Every action of the loop past its binding is a stroke. -/
theorem advance_stroke (caller : Caller) (interval : Option Number) {phase : Phase}
    (fits : phase.Fits relay) : Stroke relay phase (advance caller interval phase relay) := by
  have os := steady.sound.os
  have noted (entry : Entry) : Sway relay [] [] (relay.inWorld (relay.world.write entry)) := by
    refine .lull (quiet_lull os ?_ ?_) <;> rw [World.write_eq]
  cases phase with
  | binding => exact fits.elim
  | clearing =>
    have lull : Lull relay (relay.inWorld { relay.world with stopRequested := false }) := quiet_lull os rfl rfl
    exact .of_lull lull rfl rfl trivial (.inr rfl)
  | announcing => exact ⟨noted _, fun _ => .inl, trivial, rfl, rfl, fun _ => .inl rfl⟩
  | testing =>
    have lull : Lull relay relay := quiet_lull os rfl rfl
    simp only [advance]
    split <;> exact .of_lull lull rfl rfl trivial (.inl rfl)
  | entering =>
    refine .of_action rfl (.lull ?_) ?_ fun _ _ => ⟨trivial, rfl, rfl⟩ <;>
    rcases relay.enter_cases interval with ⟨fault, ran⟩ | ⟨door, _, ran⟩ <;> rw [ran]
    · exact quiet_lull os rfl rfl
    · exact quiet_lull os rfl rfl
    · exact List.Subset.refl _
    · exact List.Subset.refl _
  | waiting watched => exact advanceWait_stroke steady caller interval watched
  | admitting link =>
    obtain ⟨log, ran⟩ := advanceAdmit_ok fits caller interval
    rw [ran]
    exact .of_sway (.joined link log fits) (fun _ => List.mem_append.mp) trivial (.inl rfl)
  | reading source => exact advanceRead_stroke steady caller fits rfl
  | stalled source => exact advanceRead_stroke steady caller fits rfl
  | stopping fault => exact ⟨noted _, fun _ => .inl, trivial, rfl, rfl, fun on => nomatch on⟩
  | stopped fault => exact .of_lull (quiet_lull os rfl rfl) rfl rfl trivial (.inr rfl)

end

end Relay
end RelayBench
