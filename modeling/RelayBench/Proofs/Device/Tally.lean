import RelayBench.Proofs.Device.Reader

/-! How queue, chunks and streams of a device tally, wherever its reader stands: what was taken and what
is queued is what was received, the end is marked behind it, and what was received is what the reader
drew from the one link. -/
namespace RelayBench
namespace Device

/-- What the reader has drawn from a link. -/
def drawn (phase : ReaderPhase) (device : Device) (index : Nat) : Bytes :=
  if device.link = some index then (device.chunks phase).flatten else []

/-- The invariant of a device in a network whose links below `start` are older than its door. -/
structure Tallies (start : Nat) (sent : Nat → Bytes) (returned : List Bytes) (phase : ReaderPhase)
    (device : Device) : Prop where
  order : ∃ queued, device.queue = queued.map some ++ phase.mark ∧ returned ++ queued = device.received
  sizes : ∀ chunk ∈ device.chunks phase, chunk ≠ [] ∧ chunk.length ≤ device.chunkSize.toNat
  search : phase.isSearching = true → device.link = none
  unlinked : device.link = none → device.chunks phase = []
  distinct : (device.holding phase).Nodup
  older : start ≤ device.world.net.linkCount
  born : ∀ index ∈ device.holding phase, start ≤ index ∧ index < device.world.net.linkCount
  ledger : Net.Ledger sent (device.drawn phase) device.world.net
  named : device.peer.length ≠ 1
  addressed : device.world.net.Addressed

/-- What becomes of a device when events happen around it. -/
structure Hears (events : List Event) (before after : Device) : Prop where
  rest : after = { before with world := after.world }
  net : after.world.net = before.world.net.applyAll events

namespace Hears

variable {events : List Event} {before after : Device} (hears : before.Hears events after)
include hears

theorem chunkSize : after.chunkSize = before.chunkSize := by rw [hears.rest]

theorem peer : after.peer = before.peer := by rw [hears.rest]

theorem queue : after.queue = before.queue := by rw [hears.rest]

theorem received : after.received = before.received := by rw [hears.rest]

theorem link : after.link = before.link := by rw [hears.rest]

theorem door : after.door = before.door := by rw [hears.rest]

theorem reader : after.reader = before.reader := by rw [hears.rest]

theorem closing : after.closing = before.closing := by rw [hears.rest]

theorem grown : Net.Grown before.world.net after.world.net := by
  rw [hears.net]
  exact Net.applyAll_grown before.world.net events

/-- New links may come to wait at the door. -/
theorem holding (phase : ReaderPhase) :
    ∃ added, after.holding phase = before.holding phase ++ added ∧ added.Nodup ∧
      ∀ index ∈ added, before.world.net.linkCount ≤ index ∧ index < after.world.net.linkCount ∧
        (after.world.net.link index).stream.isOpen = true := by
  rw [Device.holding, Device.holding, pending, pending, hears.link, hears.door]
  cases before.door with
  | none => exact ⟨[], (List.append_nil _).symm, List.nodup_nil, List.forall_mem_nil _⟩
  | some door =>
    obtain ⟨added, waits, distinct, new⟩ := hears.grown.waits door
    refine ⟨added, ?_, distinct, new⟩
    simp only [waits, List.append_assoc]

end Hears

theorem mem_holding {phase : ReaderPhase} {device : Device} {link : Nat} (linked : device.link = some link) :
    link ∈ device.holding phase := by
  rw [holding, linked]
  exact List.mem_append_left _ (List.mem_singleton_self link)

namespace Tallies

variable {start : Nat} {sent : Nat → Bytes} {returned : List Bytes} {phase next : ReaderPhase}
  {device after : Device} (tallies : Tallies start sent returned phase device)
include tallies

/-- An action that draws nothing new keeps the tally. -/
theorem keeps (keeps : Keeps (fun _ => []) device after)
    (holding : (after.holding next).Sublist (device.holding phase))
    (search : next.isSearching = true → phase.isSearching = true)
    (carried : next.carried = phase.carried) (ended : next.isEnded = phase.isEnded) :
    Tallies start sent returned next after := by
  have chunks : after.chunks next = device.chunks phase := by
    rw [Device.chunks, Device.chunks, keeps.received, carried]
  have drawn : after.drawn next = fun index => device.drawn phase index ++ [] := by
    funext index
    rw [Device.drawn, Device.drawn, keeps.link, chunks, List.append_nil]
  exact
    { order := by
        obtain ⟨queued, queue, all⟩ := tallies.order
        refine ⟨queued, ?_, all.trans keeps.received.symm⟩
        rw [keeps.queue, queue, ReaderPhase.mark, ReaderPhase.mark, ended]
      sizes := by
        rw [chunks, keeps.chunkSize]
        exact tallies.sizes
      search := fun searching => keeps.link.trans (tallies.search (search searching))
      unlinked := fun none => chunks.trans (tallies.unlinked (keeps.link.symm.trans none))
      distinct := holding.nodup tallies.distinct
      older := keeps.net.linkCount ▸ tallies.older
      born := by
        intro index held
        rw [keeps.net.linkCount]
        exact tallies.born index (holding.subset held)
      ledger := drawn ▸ tallies.ledger.drawn keeps.net fun _ _ => rfl
      named := keeps.peer ▸ tallies.named
      addressed := keeps.net.addressed tallies.addressed }

theorem note (entry : Entry) : Tallies start sent returned phase (device.note entry) := by
  have holding : ((device.note entry).holding phase).Sublist (device.holding phase) := by
    rw [Device.holding, Device.holding, note_pending]
    exact .refl _
  exact tallies.keeps (.note (.refl device) entry) holding id rfl rfl

theorem stored {link : Nat} (storing : phase = .storing link) :
    Tallies start sent returned (.leaving true none) (device.store link) := by
  subst storing
  -- A reader that still searches has received nothing, so the account of the new link begins blank.
  have unlinked := tallies.search rfl
  have none : device.received = [] := by simpa [Device.chunks, ReaderPhase.carried] using tallies.unlinked unlinked
  have draws : Net.Drawn (fun _ => []) device.world.net (device.store link).world.net :=
    .updateQuietly device.world.net link ⟨rfl, rfl, rfl⟩
  have holding : (device.store link).holding (.leaving true Option.none) = device.holding (.storing link) := by
    simp [Device.holding, Device.store, Device.pending, ReaderPhase.caught, unlinked]
  have drawn : (device.store link).drawn (.leaving true Option.none) =
      fun index => device.drawn (.storing link) index ++ [] := by
    funext index
    simp [Device.drawn, unlinked, Device.store, Device.chunks, none, ReaderPhase.carried]
  exact
    { order := tallies.order
      sizes := by simp [Device.chunks, Device.store, none, ReaderPhase.carried]
      search := fun searching => absurd searching Bool.false_ne_true
      unlinked := fun lost => absurd lost (Option.some_ne_none link)
      distinct := holding ▸ tallies.distinct
      older := draws.linkCount ▸ tallies.older
      born := by
        rw [holding, draws.linkCount]
        exact tallies.born
      ledger := drawn ▸ tallies.ledger.drawn draws fun _ _ => rfl
      named := draws.addressed tallies.addressed link
      addressed := draws.addressed tallies.addressed }

/-- The reader draws a chunk from the link of the device. -/
theorem drew {link : Nat} {chunk : Bytes} (awake : phase = .reading ∨ phase = .stalled)
    (linked : device.link = some link) (some : chunk ≠ []) (size : chunk.length ≤ device.chunkSize.toNat)
    (keeps : Keeps (fun index => if index = link then chunk else []) device after)
    (pending : after.pending = device.pending) :
    Tallies start sent returned (.handing chunk) after := by
  have plain : phase.carried = [] ∧ phase.caught = [] ∧ phase.isEnded = false := by
    rcases awake with rfl | rfl <;> exact ⟨rfl, rfl, rfl⟩
  obtain ⟨idle, free, going⟩ := plain
  have before : device.chunks phase = device.received := by rw [Device.chunks, idle, List.append_nil]
  have chunks : after.chunks (.handing chunk) = device.received ++ [chunk] := by
    rw [Device.chunks, keeps.received]
    rfl
  have holding : after.holding (.handing chunk) = device.holding phase := by
    rw [Device.holding, Device.holding, keeps.link, pending, free]
    rfl
  have drawn : after.drawn (.handing chunk) =
      fun index => device.drawn phase index ++ if index = link then chunk else [] := by
    funext index
    rw [Device.drawn, Device.drawn, keeps.link, linked, chunks, before]
    by_cases same : index = link
    · simp [same]
    · simp [same, Ne.symm same]
  exact
    { order := by
        obtain ⟨queued, queue, all⟩ := tallies.order
        refine ⟨queued, ?_, all.trans keeps.received.symm⟩
        rw [keeps.queue, queue, ReaderPhase.mark, ReaderPhase.mark, going]
        rfl
      sizes := by
        rw [chunks, keeps.chunkSize]
        intro other member
        rcases List.mem_append.mp member with old | new
        · exact tallies.sizes other (before ▸ old)
        · rw [List.mem_singleton.mp new]
          exact ⟨some, size⟩
      search := fun searching => absurd searching Bool.false_ne_true
      unlinked := fun none => absurd (keeps.link.symm.trans none) (by simp [linked])
      distinct := holding ▸ tallies.distinct
      older := keeps.net.linkCount ▸ tallies.older
      born := by
        rw [holding, keeps.net.linkCount]
        exact tallies.born
      ledger := by
        -- The link of the device is there, so nothing is drawn from one that is not.
        refine drawn ▸ tallies.ledger.drawn keeps.net fun index unknown => ?_
        have known := (tallies.born link (mem_holding linked)).2
        exact if_neg (by omega)
      named := keeps.peer ▸ tallies.named
      addressed := keeps.net.addressed tallies.addressed }

theorem handed {chunk : Bytes} (handing : phase = .handing chunk) :
    Tallies start sent returned .reading
      ({ device with received := device.received ++ [chunk] }.enqueue (some chunk)) := by
  subst handing
  have chunks : ({ device with received := device.received ++ [chunk] }.enqueue (some chunk)).chunks .reading =
      device.chunks (.handing chunk) := List.append_nil _
  exact
    { order := by
        obtain ⟨queued, queue, all⟩ := tallies.order
        refine ⟨queued ++ [chunk], ?_, ?_⟩
        · show device.queue ++ [some chunk] = _
          rw [queue]
          simp [ReaderPhase.mark, ReaderPhase.isEnded]
        · rw [← List.append_assoc, all]
          rfl
      sizes := chunks ▸ tallies.sizes
      search := nofun
      unlinked := chunks ▸ tallies.unlinked
      distinct := tallies.distinct
      older := tallies.older
      born := tallies.born
      ledger := by
        have same : ({ device with received := device.received ++ [chunk] }.enqueue (some chunk)).drawn .reading =
            device.drawn (.handing chunk) := by
          funext index
          rw [Device.drawn, Device.drawn, chunks]
          rfl
        exact same ▸ tallies.ledger
      named := tallies.named
      addressed := tallies.addressed }

theorem ended {fault : Option Fault} (ending : phase = .ending fault) :
    Tallies start sent returned (.ended fault) (device.enqueue none) := by
  subst ending
  exact
    { order := by
        obtain ⟨queued, queue, all⟩ := tallies.order
        refine ⟨queued, ?_, all⟩
        show device.queue ++ [none] = _
        rw [queue]
        simp [ReaderPhase.mark, ReaderPhase.isEnded]
      sizes := tallies.sizes
      search := nofun
      unlinked := tallies.unlinked
      distinct := tallies.distinct
      older := tallies.older
      born := tallies.born
      ledger := tallies.ledger
      named := tallies.named
      addressed := tallies.addressed }

theorem advance {after : ReaderPhase × Device} (step : Advance device phase after) :
    Tallies start sent returned after.1 after.2 := by
  cases step with
  | quietly keeps holding search carried ended => exact tallies.keeps keeps holding search carried ended
  | stored => exact tallies.stored rfl
  | drew awake linked some size keeps pending => exact tallies.drew awake linked some size keeps pending
  | handed => exact tallies.handed rfl
  | ended => exact tallies.ended rfl

/-- Events keep the tally: what clients send is added to what they have sent. -/
theorem hears (events : List Event) (proper : ∀ event ∈ events, event.Addressed)
    (hears : device.Hears events after) :
    Tallies start (fun index => sent index ++ device.world.net.arrivals index events) returned phase after := by
  obtain ⟨added, holding, distinct, new⟩ := hears.holding phase
  have drawn : after.drawn phase = device.drawn phase := by
    funext index
    rw [Device.drawn, Device.drawn, Device.chunks, Device.chunks, hears.link, hears.received]
  exact
    { order := by
        rw [hears.queue, hears.received]
        exact tallies.order
      sizes := by
        rw [Device.chunks, hears.received, hears.chunkSize]
        exact tallies.sizes
      search := by
        rw [hears.link]
        exact tallies.search
      unlinked := by
        rw [Device.chunks, hears.received, hears.link]
        exact tallies.unlinked
      distinct := by
        rw [holding]
        refine List.nodup_append.mpr ⟨tallies.distinct, distinct, fun index old other fresh => ?_⟩
        have := (tallies.born index old).2
        have := (new other fresh).1
        omega
      older := Nat.le_trans tallies.older hears.grown.linkCount
      born := by
        rw [holding]
        intro index member
        rcases List.mem_append.mp member with old | fresh
        · obtain ⟨lower, upper⟩ := tallies.born index old
          exact ⟨lower, Nat.lt_of_lt_of_le upper hears.grown.linkCount⟩
        · obtain ⟨lower, upper, _⟩ := new index fresh
          exact ⟨Nat.le_trans tallies.older lower, upper⟩
      ledger := by
        rw [drawn, hears.net]
        exact tallies.ledger.applyAll events
      named := by
        rw [hears.peer]
        exact tallies.named
      addressed := by
        rw [hears.net]
        exact Net.applyAll_addressed tallies.addressed events proper }

end Tallies
end Device
end RelayBench
