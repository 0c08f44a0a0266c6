import RelayBench.Proofs.Relay.Run

/-! Membership over whole runs: the members are those of the accepted links that are still open, in the
order of their acceptance, no link comes back, and the relay holds no other open door and no other
open link. -/
namespace RelayBench
namespace Relay

/-- How a relay follows from the links that it has accepted so far. -/
structure Follows (accepted : List Nat) (relay : Relay) : Prop where
  order : relay.members.Sublist accepted
  once : accepted.Nodup
  fate : ∀ index ∈ accepted, index ∈ relay.members ∨ relay.Gone index

theorem Served.order {relay after : Relay} {result : Except Fault Outcome} (sound : relay.Sound)
    (served : Served relay result after) :
    (after.members.Sublist relay.members ∧ ∀ first, result ≠ .ok (.accepted first)) ∨
      ∃ first, result = .ok (.accepted first) ∧ after.members = relay.members ++ [first] ∧
        first ∉ relay.members := by
  cases served with
  | nothing => exact .inl ⟨.refl _, by simp⟩
  | refused net log same => exact .inl ⟨.refl _, by simp⟩
  | welcomed door first rest log bound queue addressed =>
    refine .inr ⟨first, rfl, rfl, (sound.fresh first ?_).2.1⟩
    simp [waiting, bound, queue]
  | misfit | forgone | unread => exact .inl ⟨.refl _, by simp⟩
  | left source log member none => exact .inl ⟨List.erase_sublist, by simp⟩
  | handedOn source payload log member some full => exact .inl ⟨List.filter_sublist, by simp⟩

section

variable {relay : Relay} (steady : relay.Steady) {move : Move} (system : move.Meets Event.AllOs)
include steady system

theorem frame_order :
    ((relay.frame move).after.members.Sublist relay.members ∧ (relay.frame move).accepted? = none) ∨
      ∃ first, (relay.frame move).accepted? = some first ∧
        (relay.frame move).after.members = relay.members ++ [first] ∧ first ∉ relay.members := by
  cases frame_course steady system with
  | drift drift quiet => exact .inl ⟨drift.members ▸ .refl _, by simp [Frame.accepted?, quiet]⟩
  | served result drift served outcome =>
    rw [Frame.accepted?, outcome, ← drift.members]
    rcases served.order (drift.sound steady.sound) with ⟨members, other⟩ | ⟨first, rfl, joined⟩
    · refine .inl ⟨members, ?_⟩
      rcases result with fault | _ | link | _ | _ <;> first | rfl | exact absurd rfl (other link)
    · exact .inr ⟨first, rfl, joined⟩
  | bound after quiet =>
    obtain ⟨net, log, own, _, bound⟩ := bind_state steady.sound steady.lower steady.upper
    rw [after, bound]
    exact .inl ⟨.refl _, by simp [Frame.accepted?, quiet]⟩
  | closed after quiet =>
    obtain ⟨log, closed⟩ := close_state steady.sound
    rw [after, closed]
    exact .inl ⟨List.nil_sublist _, by simp [Frame.accepted?, quiet]⟩

theorem Follows.frame {accepted : List Nat} (follows : Follows accepted relay) :
    Follows (accepted ++ (relay.frame move).accepted?.toList) (relay.frame move).after := by
  have kept := frame_kept steady system
  have fate (index : Nat) (old : index ∈ accepted) :
      index ∈ (relay.frame move).after.members ∨ (relay.frame move).after.Gone index := by
    rcases follows.fate index old with member | gone
    · exact kept.fate index member
    · exact .inr (kept.gone index gone).1
  rcases frame_order steady system with ⟨members, none⟩ | ⟨first, some, members, new⟩
  · rw [none, Option.toList_none, List.append_nil]
    exact ⟨members.trans follows.order, follows.once, fate⟩
  · have joined : first ∈ (relay.frame move).after.members := by simp [members]
    have unknown : first ∉ accepted := by
      intro old
      rcases follows.fate first old with member | gone
      · exact new member
      · exact (kept.gone first gone).1.apart joined
    rw [some, Option.toList_some]
    refine ⟨?_, ?_, fun index inside => ?_⟩
    · rw [members]
      exact follows.order.append (.refl _)
    · exact follows.once.append (List.nodup_singleton first) (by simpa using unknown)
    · rcases List.mem_append.mp inside with old | only
      · exact fate index old
      · rw [List.mem_singleton.mp only]
        exact .inl joined

end

theorem Follows.afterAll {relay : Relay} (steady : relay.Steady) {moves : List Move}
    (system : ∀ move ∈ moves, move.Meets Event.AllOs) {accepted : List Nat}
    (follows : Follows accepted relay) :
    Follows (accepted ++ (relay.trace moves).filterMap Frame.accepted?) (relay.afterAll moves) := by
  induction moves generalizing relay accepted with
  | nil => simpa [trace, Relay.afterAll] using follows
  | cons move rest ih =>
    obtain ⟨first, others⟩ := List.forall_mem_cons.mp system
    have more := ih (steady.frame first) others (follows.frame steady first)
    rw [trace, List.filterMap_cons]
    cases here : (relay.frame move).accepted? with
    | none => simpa [here, Relay.afterAll] using more
    | some link => simpa [here, Relay.afterAll] using more

/-- The doors from a number on, which are the relay's own: none of them is open but the one on which
its listener listens. -/
structure Owns (first : Nat) (relay : Relay) : Prop where
  known : first ≤ relay.world.net.doorCount
  own : ∀ door, relay.listener.door = some door → first ≤ door
  only : ∀ door, first ≤ door → door < relay.world.net.doorCount →
    (relay.world.net.door door).isOpen = true → relay.listener.door = some door

theorem Owns.of_shell {first : Nat} {before after : Relay} (owns : Owns first before)
    (listener : after.listener = before.listener)
    (doorCount : after.world.net.doorCount = before.world.net.doorCount)
    (shell : ∀ door, (after.world.net.door door).shell = (before.world.net.door door).shell) :
    Owns first after where
  known := doorCount ▸ owns.known
  own := fun door bound => owns.own door (listener ▸ bound)
  only := by
    intro door lower upper opened
    have same := congrArg Door.isOpen (shell door)
    have old : (before.world.net.door door).isOpen = true := Eq.trans same.symm opened
    exact listener ▸ owns.only door lower (doorCount ▸ upper) old

/-- An open link from a number on is a member or waits at a door, unless it was taken from there and
is in hand or could not be taken over. -/
def Placed (hands : List Nat) (first : Nat) (relay : Relay) : Prop :=
  ∀ index, index ∉ hands → first ≤ index → index < relay.world.net.linkCount →
    (relay.world.net.link index).stream.isOpen = true →
    index ∈ relay.members ∨
      (∃ door, door < relay.world.net.doorCount ∧ index ∈ (relay.world.net.door door).pending) ∨
      relay.adoption index ≠ .ok ()

theorem Drift.placed {hands : List Nat} {first : Nat} {before after : Relay} (drift : Drift before after)
    (placed : Placed hands first before) : Placed hands first after := by
  intro index aside lower upper opened
  by_cases old : index < before.world.net.linkCount
  · have side := drift.grown.side index old
    rcases placed index aside lower old ((Link.side_isOpen side).symm.trans opened) with
      member | ⟨door, known, waits⟩ | lost
    · exact .inl (drift.members ▸ member)
    · obtain ⟨added, grown, _⟩ := drift.grown.waits door
      exact .inr (.inl ⟨door, drift.grown.doorCount ▸ known, by rw [grown]; simp [waits]⟩)
    · have same := adoption_of_same drift.grown.platform (congrArg Listener.unbind drift.listener)
        (Link.side_address side)
      exact .inr (.inr (same.trans_ne lost))
  · obtain ⟨_, _, _, waits⟩ := drift.grown.born index (Nat.le_of_not_lt old) upper
    exact .inr (.inl (waits opened))

/-- A link that waits at a door goes on to wait, or is let in, or cannot be taken over. -/
theorem Served.pending {relay after : Relay} {result : Except Fault Outcome} (served : Served relay result after)
    {door index : Nat} (waits : index ∈ (relay.world.net.door door).pending) :
    index ∈ (after.world.net.door door).pending ∨ index ∈ after.members ∨ relay.adoption index ≠ .ok () := by
  cases served with
  | nothing => exact .inl waits
  | refused net log same => rcases same with rfl | rfl <;> exact .inl waits
  | welcomed own first rest log bound queue addressed =>
    rcases taking_pending queue waits with still | rfl
    · exact .inl still
    · exact .inr (.inl (List.mem_append_right _ (List.mem_singleton_self _)))
  | misfit fault own first rest bound queue lost | forgone fault own first rest log bound queue lost =>
    rcases taking_pending queue waits with still | rfl
    · exact .inl still
    · exact .inr (.inr (by simp [lost]))
  | left | handedOn | unread => exact .inl waits

theorem Served.placed {hands : List Nat} {first : Nat} {relay after : Relay} {result : Except Fault Outcome}
    (sound : relay.Sound) (served : Served relay result after)
    (placed : Placed hands first relay) : Placed hands first after := by
  intro index aside lower upper opened
  have turn := served.turn sound
  have same : after.adoption index = relay.adoption index :=
    adoption_of_same turn.platform (congrArg Listener.unbind turn.listener) (served.taken sound index).address
  have moved (door : Nat) (known : door < relay.world.net.doorCount)
      (waits : index ∈ (relay.world.net.door door).pending) :
      index ∈ after.members ∨
        (∃ door, door < after.world.net.doorCount ∧ index ∈ (after.world.net.door door).pending) ∨
        after.adoption index ≠ .ok () := by
    rcases served.pending waits with still | joined | lost
    · exact .inr (.inl ⟨door, turn.doorCount ▸ known, still⟩)
    · exact .inl joined
    · exact .inr (.inr (same.trans_ne lost))
  by_cases member : index ∈ relay.members
  · rcases turn.fate index member with stays | gone
    · exact .inl stays
    · exact absurd opened (by simp [gone.shut])
  · have before : (relay.world.net.link index).stream.isOpen = true := by
      by_cases waits : index ∈ relay.waiting
      · exact (sound.fresh index waits).1.isOpen
      · exact (Link.side_isOpen (turn.still index member waits)).symm.trans opened
    rcases placed index aside lower (turn.linkCount ▸ upper) before with inside | ⟨door, known, waits⟩ | lost
    · exact absurd inside member
    · exact moved door known waits
    · exact .inr (.inr (same.trans_ne lost))

theorem Placed.of_added {hands : List Nat} {first : Nat} {relay after : Relay}
    (placed : Placed hands first relay) (members : after.members = relay.members)
    (listener : after.listener.unbind = relay.listener.unbind) (added : Net.Added relay.world.net after.world.net) : Placed hands first after := by
  intro index aside lower upper opened
  have link := added.link index
  rcases placed index aside lower (added.linkCount ▸ upper) (link ▸ opened) with
    member | ⟨door, known, waits⟩ | lost
  · exact .inl (members ▸ member)
  · exact .inr (.inl ⟨door, Nat.lt_of_lt_of_le known added.doorCount, (added.door door known) ▸ waits⟩)
  · exact .inr (.inr ((adoption_of_same added.platform listener (by rw [link])).trans_ne lost))

/-- A door that a binding opens becomes the listener's; one that it could not use is shut again. -/
theorem Owns.bind {first : Nat} {relay : Relay} (steady : relay.Steady) (owns : Owns first relay) :
    Owns first (Action.state (bind relay)) := by
  rcases bind_cases steady.sound steady.lower steady.upper with
    ⟨_, ran⟩ | ⟨unbound, ⟨net, log, ran, added, count, _, _⟩ | ⟨fault, net, ran, added, shut⟩⟩
  · rw [ran]
    exact owns
  · rw [ran]
    refine ⟨Nat.le_trans owns.known added.doorCount, fun door bound => ?_, fun door lower upper opened => ?_⟩
    · obtain rfl : relay.world.net.doorCount = door := by simpa using bound
      exact owns.known
    · by_cases old : door < relay.world.net.doorCount
      · have same := congrArg Door.isOpen (added.door door old)
        have kept := owns.only door lower old (same.symm.trans opened)
        simp [unbound] at kept
      · have upper : door < net.doorCount := upper
        have new : relay.world.net.doorCount = door := by omega
        exact congrArg some new
  · rw [ran]
    refine ⟨Nat.le_trans owns.known added.doorCount, owns.own, fun door lower upper opened => ?_⟩
    by_cases old : door < relay.world.net.doorCount
    · have same := congrArg Door.isOpen (added.door door old)
      exact owns.only door lower old (same.symm.trans opened)
    · have closed := (shut door (Nat.le_of_not_lt old) upper).1
      exact absurd opened (by simp [put, world, closed])

theorem Owns.unlisten {first : Nat} {relay : Relay} (sound : relay.Sound) (owns : Owns first relay) :
    Owns first (Action.state (unlisten relay)) := by
  rw [unlisten_state sound]
  refine ⟨Nat.le_trans owns.known (Nat.le_of_eq (shutNet_doorCount relay).symm), fun door bound => ?_,
    fun door lower upper opened => ?_⟩
  · simp [Listener.unbind] at bound
  · have opened : (relay.shutNet.door door).isOpen = true := opened
    rw [shutNet_door] at opened
    split at opened
    · simp at opened
    next other => exact absurd (owns.only door lower (shutNet_doorCount relay ▸ upper) opened) other

theorem Owns.close {first : Nat} {relay : Relay} (sound : relay.Sound) (owns : Owns first relay) :
    Owns first (Action.state (close relay)) := by
  obtain ⟨log, _, split⟩ := close_split sound
  have emptied : Owns first (relay.put [] relay.emptiedNet log) := owns.of_shell rfl rfl fun _ => rfl
  exact split ▸ emptied.unlisten (emptied_sound sound log)

theorem Placed.emptied {hands : List Nat} {first : Nat} {relay : Relay} (sound : relay.Sound)
    (placed : Placed hands first relay) (log : List Entry) :
    Placed hands first (relay.put [] relay.emptiedNet log) := by
  intro index aside lower upper opened
  have link := emptiedNet_link sound index
  have opened : (relay.emptiedNet.link index).stream.isOpen = true := opened
  by_cases member : index ∈ relay.members
  · rw [link, if_pos member, Link.close_isOpen _ (sound.alive index member).closed] at opened
    simp at opened
  · rw [if_neg member] at link
    rw [link] at opened
    rcases placed index aside lower upper opened with inside | waits | lost
    · exact absurd inside member
    · exact .inr (.inl waits)
    · have same : (relay.put [] relay.emptiedNet log).adoption index = relay.adoption index :=
        adoption_of_same rfl rfl (congrArg (fun link : Link => link.stream.address) link)
      exact .inr (.inr (same.trans_ne lost))

/-- The links that wait at the relay's own door are shut with it; all others stay where they are. -/
theorem Placed.unlisten {hands : List Nat} {first : Nat} {relay : Relay} (sound : relay.Sound)
    (placed : Placed hands first relay) : Placed hands first (Action.state (unlisten relay)) := by
  rw [unlisten_state sound]
  intro index aside lower upper opened
  have link := shutNet_link sound.queue index
  have opened : (relay.shutNet.link index).stream.isOpen = true := opened
  by_cases waits : index ∈ relay.waiting
  · rw [link, if_pos waits] at opened
    simp at opened
  · rw [if_neg waits] at link
    rw [link] at opened
    rcases placed index aside lower (shutNet_linkCount relay ▸ upper) opened with
      member | ⟨door, known, queued⟩ | lost
    · exact .inl member
    · -- Links at the relay's own door have been shut, so this one waits at another.
      have other : relay.listener.door ≠ some door := fun own =>
        waits (by simpa only [waiting, own] using queued)
      refine .inr (.inl ⟨door, Nat.lt_of_lt_of_eq known (shutNet_doorCount relay).symm, ?_⟩)
      show index ∈ (relay.shutNet.door door).pending
      rw [shutNet_door, if_neg other]
      exact queued
    · refine .inr (.inr (Eq.trans_ne ?_ lost))
      exact adoption_of_same (shutNet_platform relay) rfl (congrArg (fun link : Link => link.stream.address) link)

theorem Placed.close {hands : List Nat} {first : Nat} {relay : Relay} (sound : relay.Sound)
    (placed : Placed hands first relay) : Placed hands first (Action.state (close relay)) := by
  obtain ⟨log, _, split⟩ := close_split sound
  exact split ▸ (placed.emptied sound log).unlisten (emptied_sound sound log)

section

variable {relay : Relay} (steady : relay.Steady) {move : Move} (system : move.Meets Event.AllOs)
include steady system

theorem Owns.frame {first : Nat} (owns : Owns first relay) : Owns first (relay.frame move).after := by
  cases frame_course steady system with
  | drift drift quiet => exact owns.of_shell drift.listener drift.grown.doorCount drift.shell
  | served result drift served outcome =>
    have turn := served.turn (drift.sound steady.sound)
    exact (owns.of_shell drift.listener drift.grown.doorCount drift.shell).of_shell turn.listener
      turn.doorCount turn.shell
  | bound after quiet => exact after ▸ owns.bind steady
  | closed after quiet => exact after ▸ owns.close steady.sound

theorem Placed.frame {hands : List Nat} {first : Nat}
    (placed : Placed hands first relay) : Placed hands first (relay.frame move).after := by
  cases frame_course steady system with
  | drift drift quiet => exact drift.placed placed
  | served result drift served outcome =>
    exact served.placed (drift.sound steady.sound) (drift.placed placed)
  | bound after quiet =>
    obtain ⟨net, log, own, added, bound⟩ := bind_state steady.sound steady.lower steady.upper
    rw [after, bound]
    exact placed.of_added rfl rfl added
  | closed after quiet => exact after ▸ placed.close steady.sound

end

theorem afterAll_tidy {relay : Relay} (steady : relay.Steady) {moves : List Move}
    (system : ∀ move ∈ moves, move.Meets Event.AllOs) {door link : Nat} (owns : Owns door relay)
    (placed : Placed [] link relay) :
    Owns door (relay.afterAll moves) ∧ Placed [] link (relay.afterAll moves) := by
  induction moves generalizing relay with
  | nil => exact ⟨owns, placed⟩
  | cons move rest ih =>
    obtain ⟨first, others⟩ := List.forall_mem_cons.mp system
    exact ih (steady.frame first) others (owns.frame steady first) (placed.frame steady first)

/-- In every state that a fresh relay comes to, by any calls and events and with any faults of the
operating system: the members are distinct, open and in the order of their acceptance; every accepted
link is a member or closed; a link that has left never comes back; the listener is bound exactly when
one of the relay's own doors is open, which is then the listener's; and every link that came in
during the run and is open is a member or still waits at a door, if its address has two parts. -/
theorem membership_of_run (settings : RelaySettings) (world : World) (moves : List Move)
    (lower : 0 ≤ settings.port) (upper : settings.port ≤ 65535)
    (suited : (ofSettings settings world).Suited) (os : world.AllOs)
    (system : ∀ move ∈ moves, move.Meets Event.AllOs) :
    let start := ofSettings settings world
    let relay := start.afterAll moves
    let accepted := (start.trace moves).filterMap Frame.accepted?
    relay.members.Nodup ∧
    (∀ index ∈ relay.members, (relay.world.net.link index).closed = false ∧
      (relay.world.net.link index).hasDescriptor = true) ∧
    relay.members.Sublist accepted ∧ accepted.Nodup ∧
    (∀ index ∈ accepted, index ∈ relay.members ∨
      ((relay.world.net.link index).closed = true ∧
        (relay.world.net.link index).hasDescriptor = false)) ∧
    (∀ earlier frame later index, start.trace moves = earlier ++ frame :: later →
      index ∈ frame.before.members → index ∉ frame.after.members →
      ∀ next ∈ later, index ∉ next.after.members) ∧
    (relay.listener.isBound = true ↔ ∃ door, world.net.doorCount ≤ door ∧
      door < relay.world.net.doorCount ∧ (relay.world.net.door door).isOpen = true) ∧
    (∀ door, world.net.doorCount ≤ door → door < relay.world.net.doorCount →
      (relay.world.net.door door).isOpen = true →
      relay.listener.door = some door ∧ (relay.world.net.door door).isListening = true) ∧
    (∀ index, world.net.linkCount ≤ index → index < relay.world.net.linkCount →
      (relay.world.net.link index).hasDescriptor = true →
      index ∈ relay.members ∨
        (∃ door, door < relay.world.net.doorCount ∧ index ∈ (relay.world.net.door door).pending) ∨
        (relay.world.net.link index).stream.address.length = 1) := by
  intro start relay accepted
  have steady : start.Steady := ofSettings_steady settings suited.toGrounded os lower upper
  have sound : relay.Sound := (steady.afterAll system).sound
  have follows : Follows accepted relay := by
    have blank : Follows [] start := ⟨.refl _, List.nodup_nil, by simp⟩
    have more := blank.afterAll steady system
    rwa [List.nil_append] at more
  have owned : Owns world.net.doorCount start :=
    ⟨Nat.le_refl _, fun _ bound => (nomatch bound), fun _ low high => absurd high (Nat.not_lt_of_le low)⟩
  have settled : Placed [] world.net.linkCount start :=
    fun _ _ low high => absurd high (Nat.not_lt_of_le low)
  obtain ⟨owns, placed⟩ := afterAll_tidy steady system owned settled
  have listens (door : Nat) (bound : relay.listener.door = some door) :
      (relay.world.net.door door).isOpen = true ∧ (relay.world.net.door door).isListening = true := by
    simpa [Door.isReachable] using (sound.door door bound).2
  refine ⟨sound.distinct, fun index member => ?_, follows.order, follows.once, fun index inside => ?_, ?_,
    ⟨fun bound => ?_, ?_⟩, fun door low high opened => ?_, fun index low high opened => ?_⟩
  · have live := sound.alive index member
    exact ⟨live.closed, live.isOpen⟩
  · rcases follows.fate index inside with member | gone
    · exact .inl member
    · exact .inr ⟨gone.closed, gone.shut⟩
  · intro earlier frame later index split member left next after
    obtain ⟨before, move, rest, equal, rfl, rfl, rfl⟩ := trace_split split
    obtain ⟨prior, rest⟩ := List.forall_mem_append.mp (equal ▸ system)
    obtain ⟨here, rest⟩ := List.forall_mem_cons.mp rest
    have before := steady.afterAll prior
    have gone := ((frame_kept before here).fate index member).resolve_left left
    exact (gone_trace (before.frame here) gone rest next after).1.apart
  · obtain ⟨door, bound⟩ := Option.isSome_iff_exists.mp bound
    exact ⟨door, owns.own door bound, (sound.door door bound).1, (listens door bound).1⟩
  · rintro ⟨door, low, high, opened⟩
    exact Option.isSome_iff_exists.mpr ⟨door, owns.only door low high opened⟩
  · have bound := owns.only door low high opened
    exact ⟨bound, (listens door bound).2⟩
  · have takes := (steady.afterAll_suited suited system).limit
    exact (placed index List.not_mem_nil low high opened).imp_right (.imp_right (cut_of_adoption takes))

/-- Two links come in, and then the read of the first one fails. -/
def failedRead : List Move :=
  [.bind, .event (.connect "ann" none none none none), .event (.connect "bob" none none none none),
    .step none, .step none, .event (.fail (some "ann") .recv [some .connectionReset]), .step none]

theorem membership_of_failedRead :
    let start := ofSettings plainSettings {}
    let relay := start.afterAll failedRead
    (start.trace failedRead).filterMap Frame.accepted? = [0, 1] ∧ relay.members = [1] ∧
      (relay.world.net.link 0).hasDescriptor = false := by
  obtain ⟨_, _, _, _, fate, _⟩ := membership_of_run plainSettings {} failedRead (by decide) (by decide)
    (suited_of_blank rfl) blank_allOs (by simp [failedRead, Move.Meets, Event.AllOs]; decide)
  have accepted : ((ofSettings plainSettings {}).trace failedRead).filterMap Frame.accepted? = [0, 1] := rfl
  have members : ((ofSettings plainSettings {}).afterAll failedRead).members = [1] := rfl
  refine ⟨accepted, members, ?_⟩
  rcases fate 0 (by simp [accepted]) with member | gone
  · simp [members] at member
  · exact gone.2

end Relay
end RelayBench
