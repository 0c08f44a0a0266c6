import RelayBench.Proofs.Relay.Binding

/-! What befalls a relay between its own calls, and what all that befalls it keeps: a sound relay stays
sound, a member stays one or is closed for good, and a closed link is never written to again. -/
namespace RelayBench

namespace World

theorem upcoming_next (world : World) : world.upcoming = [] ∨ world.upcoming = world.next := by
  unfold upcoming next
  split
  next item rest _ script => exact .inr (by rw [script])
  · exact .inl rfl

theorem remaining_rest (world : World) : world.remaining = world.script ∨ world.remaining = world.rest := by
  unfold remaining rest
  split
  next first rest _ script => exact .inr (by rw [script])
  · exact .inl rfl

variable {kind : Event → Prop} {world : World} (scripted : world.Scripted kind)
include scripted

theorem upcoming_kind {event : Event} (comes : event ∈ world.upcoming) : kind event := by
  rcases world.upcoming_next with nothing | same
  · simp [nothing] at comes
  · exact next_kind scripted event (same ▸ comes)

theorem remaining_scripted {after : World} (script : after.script = world.remaining) :
    after.Scripted kind := by
  rcases world.remaining_rest with same | same
  · exact fun items found => scripted items (same ▸ script ▸ found)
  · exact rest_scripted scripted (script.trans same)

end World

namespace Relay

/-- What may happen to a relay without an action of its own. -/
structure Drift (before after : Relay) : Prop where
  world : after = before.inWorld after.world
  grown : Net.Grown before.world.net after.world.net
  os : after.world.net.AllOs

namespace Drift

variable {before after : Relay} (drift : Drift before after)
include drift

theorem settings : after.settings = before.settings := by
  rw [drift.world]
  rfl

theorem listener : after.listener = before.listener := by
  rw [drift.world]
  rfl

theorem members : after.members = before.members := by
  rw [drift.world]
  rfl

theorem live {index : Nat} (live : before.world.net.Live index) : after.world.net.Live index :=
  live.of_side (Nat.lt_of_lt_of_le live.known drift.grown.linkCount) (drift.grown.side index live.known)

theorem shell (door : Nat) :
    (after.world.net.door door).shell = (before.world.net.door door).shell := by
  obtain ⟨added, grown, _⟩ := drift.grown.waits door
  rw [grown]
  rfl

/-- New links come to wait behind those that wait already. -/
theorem waiting : ∃ added, after.waiting = before.waiting ++ added ∧ added.Nodup ∧
    ∀ index ∈ added, before.world.net.linkCount ≤ index ∧ after.world.net.Live index ∧
      (after.world.net.link index).stream.outbox = [] := by
  cases bound : before.listener.door with
  | none => exact ⟨[], by simp [Relay.waiting, drift.listener, bound], List.nodup_nil, by simp⟩
  | some door =>
    obtain ⟨added, grown, distinct, new⟩ := drift.grown.waits door
    refine ⟨added, by simp [Relay.waiting, drift.listener, bound, grown], distinct, fun index member => ?_⟩
    obtain ⟨lower, upper, opened⟩ := new index member
    obtain ⟨closed, broken, outbox, _⟩ := drift.grown.born index lower upper
    exact ⟨lower, ⟨upper, closed, broken, opened⟩, outbox⟩

theorem suited (suited : before.Suited) : after.Suited :=
  suited.of_same drift.grown.platform drift.settings (congrArg Listener.unbind drift.listener)

theorem sound (sound : before.Sound) : after.Sound := by
  obtain ⟨added, waits, distinct, new⟩ := drift.waiting
  refine
    { grounded := sound.grounded.of_same drift.grown.platform (congrArg Listener.unbind drift.listener)
      os := drift.os
      distinct := drift.members ▸ sound.distinct
      alive := fun index member => drift.live (sound.alive index (drift.members ▸ member))
      queue := ?_
      fresh := fun index waiting => ?_
      door := fun door bound => ?_ }
  · rw [waits]
    refine List.nodup_append.mpr ⟨sound.queue, distinct, fun old inOld fresh inNew same => ?_⟩
    have known := (sound.fresh old inOld).1.known
    have unknown := (new fresh inNew).1
    omega
  · rw [waits] at waiting
    rw [drift.members]
    rcases List.mem_append.mp waiting with old | added
    · obtain ⟨live, apart, blank⟩ := sound.fresh index old
      exact ⟨drift.live live, apart, (Link.side_outbox (drift.grown.side index live.known)).trans blank⟩
    · obtain ⟨unknown, live, blank⟩ := new index added
      refine ⟨live, fun member => ?_, blank⟩
      have known := (sound.alive index member).known
      omega
  · rw [drift.listener] at bound
    obtain ⟨known, reachable⟩ := sound.door door bound
    exact ⟨drift.grown.doorCount ▸ known, (congrArg Door.isReachable (drift.shell door)).trans reachable⟩

end Drift

/-- What every move of a relay keeps: soundness, and that links come to an end once. -/
structure Kept (before after : Relay) : Prop where
  sound : after.Sound
  suited : before.Suited → after.Suited
  fate : ∀ index ∈ before.members, index ∈ after.members ∨ after.Gone index
  gone : ∀ index, before.Gone index → after.Gone index ∧
    (after.world.net.link index).stream.outbox = (before.world.net.link index).stream.outbox

theorem Kept.trans {first second third : Relay} (early : Kept first second) (late : Kept second third) :
    Kept first third where
  sound := late.sound
  suited := fun suited => late.suited (early.suited suited)
  fate := by
    intro index member
    rcases early.fate index member with stays | gone
    · exact late.fate index stays
    · exact .inr (late.gone index gone).1
  gone := by
    intro index gone
    obtain ⟨still, same⟩ := early.gone index gone
    obtain ⟨ever, written⟩ := late.gone index still
    exact ⟨ever, written.trans same⟩

theorem Turn.kept {before after : Relay} (turn : Turn before after) (sound : before.Sound) :
    Kept before after :=
  ⟨turn.sound sound, turn.suited, turn.fate, fun _ gone => turn.gone sound gone⟩

theorem Drift.kept {before after : Relay} (drift : Drift before after) (sound : before.Sound) :
    Kept before after where
  sound := drift.sound sound
  suited := drift.suited
  fate := fun index member => .inl (drift.members ▸ member)
  gone := by
    intro index gone
    have side := drift.grown.side index gone.known
    exact ⟨⟨Nat.lt_of_lt_of_le gone.known drift.grown.linkCount, drift.members ▸ gone.apart,
      (Link.side_closed side).trans gone.closed, (Link.side_isOpen side).trans gone.shut⟩,
      Link.side_outbox side⟩

theorem Drift.held {before after : Relay} (drift : Drift before after) {index : Nat}
    (held : before.Held index) : after.Held index where
  live := drift.live held.live
  apart := drift.members ▸ held.apart
  unqueued := by
    obtain ⟨added, waits, _, new⟩ := drift.waiting
    rw [waits]
    intro queued
    rcases List.mem_append.mp queued with old | fresh
    · exact held.unqueued old
    · exact absurd held.live.known (Nat.not_lt_of_le (new index fresh).1)

theorem drift_refl {relay : Relay} (os : relay.world.net.AllOs) : Drift relay relay :=
  ⟨rfl, .refl _, os⟩

theorem await_drift {relay : Relay} (os : relay.world.net.AllOs)
    (script : relay.world.Scripted Event.AllOs) (timeout : Option Number) :
    Drift relay (Action.state (await timeout relay)) := by
  rcases relay.await_cases timeout with ⟨_, fault, ran⟩ | ⟨door, world, _, _, waited, course⟩
  · rw [ran]
    exact drift_refl os
  · have called : Net.Grown relay.world.net (relay.world.net.called .select) :=
      .of_side rfl rfl rfl (fun _ => rfl) (fun _ => rfl)
    have drift : Drift relay (relay.inWorld world) := by
      refine ⟨rfl, ?_, ?_⟩
      · show Net.Grown relay.world.net world.net
        rw [waited.net]
        exact called.trans (Net.applyAll_grown _ _)
      · show world.net.AllOs
        rw [waited.net]
        exact Net.applyAll_allOs (Net.called_allOs os .select) _ fun _ comes => World.upcoming_kind script comes
    rcases course with ⟨fault, ran⟩ | ⟨ready, ran, _⟩
    · rw [ran]
      exact drift
    · rw [ran]
      exact drift

/-- What a readiness call and every event of the script keep of a network, a wait keeps. -/
theorem await_kept (good : Net → Prop) {kind : Event → Prop}
    (called : ∀ net, good net → good (net.called .select))
    (keeps : ∀ net event, good net → kind event → good (net.apply event).2) {relay : Relay}
    (start : good relay.world.net) (script : relay.world.Scripted kind) (timeout : Option Number) :
    good (Action.state (await timeout relay)).world.net := by
  rcases relay.await_cases timeout with ⟨_, fault, ran⟩ | ⟨door, world, _, _, waited, course⟩
  · rw [ran]
    exact start
  · have settled : good world.net := by
      rw [waited.net]
      exact Net.applyAll_kept keeps (called _ start) _ fun event comes => World.upcoming_kind script comes
    rcases course with ⟨fault, ran⟩ | ⟨ready, ran, _⟩ <;> rw [ran] <;> exact settled

theorem await_scripted {kind : Event → Prop} {relay : Relay} (script : relay.world.Scripted kind)
    (timeout : Option Number) : (Action.state (await timeout relay)).world.Scripted kind := by
  rcases relay.await_cases timeout with ⟨_, fault, ran⟩ | ⟨door, world, _, _, waited, course⟩
  · rw [ran]
    exact script
  · have kept : (relay.inWorld world).world.Scripted kind := World.remaining_scripted script waited.script
    rcases course with ⟨fault, ran⟩ | ⟨ready, ran, _⟩
    · rw [ran]
      exact kept
    · rw [ran]
      exact kept

/-- A change that leaves all links alone, and after which nobody waits. -/
theorem idle_kept {relay after : Relay} (sound : relay.Sound)
    (platform : after.world.net.platform = relay.world.net.platform) (settings : after.settings = relay.settings)
    (listener : after.listener.unbind = relay.listener.unbind) (members : after.members = relay.members)
    (os : after.world.net.AllOs) (linkCount : after.world.net.linkCount = relay.world.net.linkCount)
    (links : ∀ index, after.world.net.link index = relay.world.net.link index)
    (nobody : after.waiting = [])
    (door : ∀ door, after.listener.door = some door → door < after.world.net.doorCount ∧
      (after.world.net.door door).isReachable = true) : Kept relay after where
  sound :=
    { os, door
      grounded := sound.grounded.of_same platform listener
      distinct := members ▸ sound.distinct
      alive := by
        intro index member
        have live := sound.alive index (members ▸ member)
        exact live.of_side (linkCount ▸ live.known) (congrArg Link.side (links index))
      queue := nobody ▸ List.nodup_nil
      fresh := by simp [nobody] }
  suited := fun suited => suited.of_same platform settings listener
  fate := fun index member => .inl (members ▸ member)
  gone := by
    intro index gone
    have same := links index
    exact ⟨⟨linkCount ▸ gone.known, members ▸ gone.apart, same ▸ gone.closed, same ▸ gone.shut⟩,
      congrArg (fun link : Link => link.stream.outbox) same⟩

theorem bind_kept {relay : Relay} (sound : relay.Sound) (lower : 0 ≤ relay.listener.port)
    (upper : relay.listener.port ≤ 65535) : Kept relay (Action.state (bind relay)) := by
  rcases bind_cases sound lower upper with
    ⟨_, ran⟩ | ⟨unbound, ⟨net, log, ran, added, count, reachable, empty⟩ | ⟨fault, net, ran, added, _⟩⟩
  · rw [ran]
    exact (drift_refl sound.os).kept sound
  · rw [ran]
    refine idle_kept sound added.platform rfl rfl rfl added.allOs added.linkCount
      added.link empty fun door bound => ?_
    obtain rfl : relay.world.net.doorCount = door := by simpa using bound
    exact ⟨Nat.lt_of_lt_of_eq (Nat.lt_succ_self _) count.symm, reachable⟩
  · rw [ran]
    refine idle_kept sound added.platform rfl rfl rfl added.allOs added.linkCount
      added.link ?_ fun door bound => ?_
    · simp [waiting, put, unbound]
    · simp [put, unbound] at bound

theorem emptied_kept {relay : Relay} (sound : relay.Sound) (log : List Entry) :
    Kept relay (relay.put [] relay.emptiedNet log) where
  sound := emptied_sound sound log
  suited := fun suited => suited.of_same rfl rfl rfl
  fate := by
    intro index member
    have live := sound.alive index member
    have link := emptiedNet_link sound index
    rw [if_pos member] at link
    exact .inr ⟨live.known, List.not_mem_nil, (congrArg Link.closed link).trans (Link.close_closed _),
      (congrArg (fun link : Link => link.stream.isOpen) link).trans (Link.close_isOpen _ live.closed)⟩
  gone := by
    intro index gone
    have link := emptiedNet_link sound index
    rw [if_neg gone.apart] at link
    exact ⟨⟨gone.known, List.not_mem_nil, (congrArg Link.closed link).trans gone.closed,
      (congrArg (fun link : Link => link.stream.isOpen) link).trans gone.shut⟩,
      congrArg (fun link : Link => link.stream.outbox) link⟩

theorem unlisten_kept {relay : Relay} (sound : relay.Sound) :
    Kept relay (Action.state (unlisten relay)) := by
  rw [unlisten_state sound]
  have link {index : Nat} (unqueued : index ∉ relay.waiting) :
      relay.shutNet.link index = relay.world.net.link index := by
    rw [shutNet_link sound.queue, if_neg unqueued]
  have known {index : Nat} (known : index < relay.world.net.linkCount) : index < relay.shutNet.linkCount :=
    Nat.lt_of_lt_of_eq known (shutNet_linkCount relay).symm
  refine
    { sound :=
        { grounded := sound.grounded.of_same (shutNet_platform relay) rfl
          os := shutNet_allOs sound
          distinct := sound.distinct
          alive := fun index member => ?_
          queue := List.nodup_nil
          fresh := fun index waits => absurd waits List.not_mem_nil
          door := fun door bound => by simp [Listener.unbind] at bound }
      suited := fun suited => suited.of_same (shutNet_platform relay) rfl rfl
      fate := fun index member => .inl member
      gone := fun index gone => ?_ }
  · have live := sound.alive index member
    exact live.of_side (known live.known) (congrArg Link.side (link fun waits =>
      (sound.fresh index waits).2.1 member))
  · have same := link fun waits => absurd (sound.fresh index waits).1.isOpen (by simp [gone.shut])
    exact ⟨⟨known gone.known, gone.apart, (congrArg Link.closed same).trans gone.closed,
      (congrArg (fun link : Link => link.stream.isOpen) same).trans gone.shut⟩,
      congrArg (fun link : Link => link.stream.outbox) same⟩

theorem close_kept {relay : Relay} (sound : relay.Sound) : Kept relay (Action.state (close relay)) := by
  obtain ⟨log, _, split⟩ := close_split sound
  exact split ▸ (emptied_kept sound log).trans (unlisten_kept (emptied_sound sound log))

end Relay
end RelayBench
