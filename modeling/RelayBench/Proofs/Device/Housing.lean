import RelayBench.Proofs.Device.Attendance
import RelayBench.Proofs.Net.Holdings

/-! What a device leaves behind that is run on its own, on a network where nothing fails but the listening.  If
it cannot begin to listen, it says so; else its program comes to its end without a fault, and by then the reader
has closed the door, and one of reader and program the link. -/
namespace RelayBench
namespace Device

/-- The links that the device has, or that its reader is about to give it. -/
def held (phase : ReaderPhase) (device : Device) : List Nat := device.link.toList ++ phase.caught

/-- An action deals with the network on behalf of the device. -/
def Deals (device : Device) (phase next : ReaderPhase) (after : Device) : Prop :=
  Net.Deals device.door (device.held phase) device.world.net after.door (after.held next) after.world.net

section

variable {device after : Device} {phase next : ReaderPhase}

theorem Deals.quietly (uses : Net.Uses device.world.net after.world.net) (door : after.door = device.door)
    (link : after.link = device.link) (caught : next.caught = phase.caught) : Deals device phase next after := by
  rw [Deals, held, held, door, link, caught]
  exact .uses uses

theorem Deals.noted (deals : Deals device phase next after) (entry : Entry) :
    Deals device phase next (after.note entry) := by
  rw [Deals, note_net]
  exact deals

theorem Deals.notedUnlessClosing (deals : Deals device phase next after) (entry : Entry) :
    Deals device phase next (after.noteUnlessClosing entry) := by
  unfold noteUnlessClosing
  split
  · exact deals
  · exact deals.noted entry

variable (device)

theorem answer_deals (free : phase.caught = []) : Deals device phase (answer device).1 (answer device).2 := by
  unfold answer
  split
  next => exact .quietly (.refl _) rfl rfl free.symm
  next door known =>
    rcases device.world.net.accept_split .background door with
      ⟨fault, net, failed, left⟩ | ⟨first, rest, opened, queue, taken⟩
    · have uses : Net.Uses device.world.net net := by
        rcases left with rfl | rfl
        · exact .refl _
        · exact .called _ .accept
      have quietly {next : ReaderPhase} (caught : next.caught = []) : Deals device phase next (device.inNet net) :=
        .quietly uses rfl rfl (caught.trans free.symm)
      rw [liftNet_error failed]
      dsimp only
      split
      · exact quietly rfl
      · split
        · exact (quietly rfl).notedUnlessClosing _
        · exact quietly rfl
    · rw [liftNet_ok taken]
      rw [Deals, held, free, List.append_nil, known]
      show Net.Deals _ _ _ device.door _ _
      rw [known]
      exact .accepts queue

theorem readChunk_deals (free : phase.caught = []) : Deals device phase (readChunk device).1 (readChunk device).2 := by
  unfold readChunk
  split
  next => exact .quietly (.refl _) rfl rfl free.symm
  next link linked =>
    have uses : Net.Uses device.world.net
        (device.world.net.updateLink link fun link => (link.read device.world.net.platform device.chunkSize).2) :=
      .updateLink _ link (Link.read_subset ..) (Link.side_endless (Link.read_side ..)) (Link.read_shuts ..).isOpen
    have quietly {next : ReaderPhase} (caught : next.caught = []) : Deals device phase next
        (device.inNet (device.world.net.updateLink link fun link =>
          (link.read device.world.net.platform device.chunkSize).2)) :=
      .quietly uses rfl rfl (caught.trans free.symm)
    rw [liftNet_ok (Net.readLink_apply link device.chunkSize device.world.net)]
    rcases ((device.world.net.link link).read device.world.net.platform device.chunkSize).1 with
      (_ | ⟨first, rest⟩) | fault | _
    · exact (quietly rfl).notedUnlessClosing _
    · exact (quietly rfl).noted _
    · dsimp only
      split
      · exact (quietly rfl).notedUnlessClosing _
      · exact quietly rfl
    · exact quietly rfl

/-- An action of the reader deals with the network on behalf of the device, if nothing keeps a door from closing. -/
theorem advanceReader_deals (search : phase.isSearching = true → device.link = none)
    (distinct : device.pending.Nodup) (quiet : FaultQueue.next device.world.net.faults .close = none) :
    Deals device phase (advanceReader phase device).1 (advanceReader phase device).2 := by
  have still {next : ReaderPhase} (caught : next.caught = phase.caught) : Deals device phase next device :=
    .quietly (.refl _) rfl rfl caught
  cases phase with
  | testing =>
    rw [advanceReader]
    split <;> exact still rfl
  | accepting =>
    rw [advanceReader]
    split
    · split
      · exact answer_deals device rfl
      · exact still rfl
    · exact answer_deals device rfl
  | awaiting => exact answer_deals device rfl
  | storing link =>
    have held : device.held (.storing link) = (device.store link).held (.leaving true none) := by
      simp [held, search rfl, store, ReaderPhase.caught]
    rw [Deals, held]
    exact .uses (.updateLink _ link (List.Subset.refl _) rfl id)
  | leaving found fault =>
    have caught : (afterLeaving found fault).caught = [] := by cases fault <;> cases found <;> rfl
    rw [advanceReader, leave_eq]
    cases known : device.door with
    | none => exact still caught
    | some door =>
      obtain ⟨net, closed⟩ := Net.closeDoor_ok quiet door
      have nodup : (device.world.net.door door).pending.Nodup := by
        rw [pending, known] at distinct
        exact distinct
      simp only [liftNet_ok closed]
      rw [Deals, held, held, caught, known]
      exact .leaves nodup closed
  | rechecking =>
    rw [advanceReader]
    split <;> exact still rfl
  | discarding =>
    obtain ⟨_, left⟩ | ⟨link, fault, _, left⟩ := device.discard_cases
    · rw [advanceReader, left]
      exact still rfl
    · rw [advanceReader, left]
      exact .quietly (.updateLink _ link (Stream.close_subset _) (Stream.close_endless _) (Stream.close_shuts _).isOpen)
        rfl rfl rfl
  | announcing =>
    have announced : Deals device .announcing .reading { device with announced := true } :=
      .quietly (.refl _) rfl rfl rfl
    rw [advanceReader, announce]
    dsimp only
    split
    · exact announced.noted _
    · exact announced
  | reading => exact readChunk_deals device rfl
  | stalled => exact readChunk_deals device rfl
  | handing chunk => exact .quietly (.refl _) rfl rfl rfl
  | ending fault => exact .quietly (.refl _) rfl rfl rfl
  | ended fault => exact still rfl

theorem searching_outside (search : phase.isSearching = true) : (advanceReader phase device).1.isOutside = true := by
  have stride := advanceReader_stride device phase
  generalize (advanceReader phase device).1 = next, (advanceReader phase device).2 = after at stride ⊢
  cases stride with
  | seeks _ _ outside => exact outside
  | stores => rfl
  | leaves | looks | discards => cases search
  | serves inside => cases phase <;> simp [ReaderPhase.isInside, ReaderPhase.isSearching] at inside search

/-- Where the reader has left the search for a peer, the door of the device is closed. -/
theorem inside_advance (search : phase.isSearching = true → device.link = none) (distinct : device.pending.Nodup)
    (quiet : FaultQueue.next device.world.net.faults .close = none)
    (inside : phase.isOutside = false → device.door = none)
    (left : (advanceReader phase device).1.isOutside = false) : (advanceReader phase device).2.door = none := by
  have deals := advanceReader_deals device search distinct quiet
  cases phase with
  | leaving found fault =>
    rw [advanceReader, leave_eq]
    cases known : device.door with
    | none => exact known
    | some door =>
      obtain ⟨net, closed⟩ := Net.closeDoor_ok quiet door
      simp only [liftNet_ok closed]
  | testing | accepting | awaiting | storing =>
    exact absurd ((searching_outside device rfl).symm.trans left) (by decide)
  | _ =>
    rcases deals.same with same | none
    · exact same.trans (inside rfl)
    · exact none

theorem advanceClosing_uses (closer : ClosingPhase) :
    Net.Uses device.world.net (advanceClosing closer device).2.world.net := by
  have retreat := device.advanceClosing_retreat closer
  generalize advanceClosing closer device = ran at retreat ⊢
  cases retreat with
  | shut link | refused link =>
    exact .updateLink _ link (Stream.shutdown_subset _) (Stream.shutdown_endless _) (Stream.shutdown_shuts _).isOpen
  | closes link | fails link =>
    exact .updateLink _ link (Stream.close_subset _) (Stream.close_endless _) (Stream.close_shuts _).isOpen
  | unread | joined =>
    rw [note_net]
    exact .refl _
  | marked | signalled | closed | found | alone | waits | past => exact .refl _

/-- Where all calls go through, a closing ends without a fault, and not before the reader. -/
theorem advanceClosing_finished {lost : Prop} {closer : ClosingPhase} {raised : Option Fault}
    (asked : Asked lost phase device closer) (reader : device.reader = some phase)
    (reliable : device.world.net.Reliable)
    (before : ∀ raised, closer = .ended raised → raised = none ∧ phase.isEnded = true)
    (finished : (advanceClosing closer device).1 = .ended raised) : raised = none ∧ phase.isEnded = true := by
  have retreat := device.advanceClosing_retreat closer
  generalize advanceClosing closer device = ran at retreat finished
  cases retreat with
  | closed closed => simp [Asked, closed] at asked
  | refused link foreign failed =>
    have system := Stream.shutdown_error_isOs (reliable.allOs.links link) failed
    simp [foreign] at system
  | fails link failed => cases (reliable.stream_close link).symm.trans failed
  | unread none => simp [reader] at none
  | joined place ended =>
    cases finished
    obtain rfl := Option.some.inj (reader.symm.trans place)
    exact ⟨rfl, ended⟩
  | past fault => exact before raised finished
  | marked | signalled | found | alone | shut | closes | waits => cases finished

end

/-- A device on a network where nothing fails but the listening, its reader and a thread that closes it.  What is
open it has a use for, and the closing ends without a fault, but not before the reader does. -/
structure Housed (door link : Nat) (phase : ReaderPhase) (scene : Scene) : Prop where
  reader : scene.device.reader = some phase
  reliable : scene.device.world.Reliable
  inside : phase.isOutside = false → scene.device.door = none
  holds : Net.Holds door link scene.device.door (scene.device.held phase) scene.device.world.net
  asked : Asked False phase scene.device scene.closer
  finished : ∀ raised, scene.closer = .ended raised → raised = none ∧ phase.isEnded = true

namespace Housed

variable {door link : Nat} {phase : ReaderPhase} {scene : Scene} (housed : Housed door link phase scene)
include housed

/-- What has to do neither with network nor with flags is of no concern. -/
theorem aside {after : Device} (reader : after.reader = scene.device.reader) (own : after.door = scene.device.door)
    (lasting : Lasting scene.device after) (net : after.world.net = scene.device.world.net)
    (script : after.world.script = scene.device.world.script) :
    Housed door link phase { scene with device := after } where
  reader := reader.trans housed.reader
  reliable := ⟨net ▸ housed.reliable.net, fun items found => housed.reliable.script items (script ▸ found)⟩
  inside := fun left => own.trans (housed.inside left)
  holds := by
    show Net.Holds door link after.door (after.held phase) after.world.net
    rw [own, net, held, lasting.link]
    exact housed.holds
  asked := housed.asked.kept lasting.link lasting.closing lasting.closed fun _ _ closes =>
    closes.lasting lasting .inl id
  finished := housed.finished

theorem note (entry : Entry) : Housed door link phase { scene with device := scene.device.note entry } :=
  housed.aside rfl rfl ((Lasting.refl _).note entry) (note_net _ _) (note_script _ _)

/-- A program that is done has closed all that came to be. -/
theorem tidy {raised : Option Fault} (finished : scene.closer = .ended raised) :
    raised = none ∧ Net.Tidy door link scene.device.world.net := by
  obtain ⟨quiet, ended⟩ := housed.finished raised finished
  have past : phase.isOutside = false ∧ phase.turnsBack = false ∧ phase.caught = [] := by
    cases phase <;> first | exact ⟨rfl, rfl, rfl⟩ | simp [ReaderPhase.isEnded] at ended
  obtain ⟨left, settled, nothing⟩ := past
  have asked := housed.asked
  rw [finished] at asked
  have holds := housed.holds
  rw [housed.inside left, held, nothing, List.append_nil] at holds
  refine ⟨quiet, holds.tidy fun index member => ?_⟩
  exact asked.2.shut settled id (Option.mem_toList.mp member)

section

variable {start : Nat} {sent : Nat → Bytes} {taken : List Bytes}
  (tallies : Tallies start sent taken phase scene.device)
include tallies

theorem reads : Housed door link (advanceReader phase scene.device).1 (scene.frame .read).after := by
  have distinct : scene.device.pending.Nodup :=
    (((List.sublist_append_right _ _).trans (List.sublist_append_right _ _)).nodup tallies.distinct)
  have quiet : FaultQueue.next scene.device.world.net.faults .close = none := housed.reliable.net.quiet (by decide)
  have deals := advanceReader_deals scene.device tallies.search distinct quiet
  have advance := advanceReader_advance scene.device phase
  have ends (index : Nat) := (Net.Deals.endless deals index).trans (housed.reliable.net.ends index)
  rw [frame_read housed.reader]
  exact
    { reader := rfl
      reliable := ⟨housed.reliable.net.spends deals.spends (tallies.advance advance).addressed ends,
        fun items found => housed.reliable.script items (advance.aside.2.1 ▸ found)⟩
      inside := inside_advance scene.device tallies.search distinct quiet housed.inside
      holds := housed.holds.deals deals
      asked := housed.asked.reads tallies.search id
        (fun _ _ _ own fault net _ failed => by
          obtain ⟨after, closed⟩ := Net.closeDoor_ok quiet own
          cases closed.symm.trans failed) _
      finished := fun raised ended => by
        obtain ⟨none, ended⟩ := housed.finished raised ended
        refine ⟨none, ?_⟩
        cases phase <;> first | exact ended | cases ended }

theorem closes : Housed door link phase (scene.frame .close).after := by
  have keeps := (advanceClosing_keeps scene.device housed.reader scene.closer).1
  have uses := scene.device.advanceClosing_uses scene.closer
  have own := scene.device.advanceClosing_door scene.closer
  have advance := advanceClosing_advance scene.device housed.reader scene.closer
  exact
    { reader := keeps.reader.trans housed.reader
      reliable := ⟨housed.reliable.net.spends uses.toSpends (tallies.advance advance).addressed
          fun index => (uses.endless index).trans (housed.reliable.net.ends index),
        fun items found => housed.reliable.script items (keeps.script ▸ found)⟩
      inside := fun left => own.trans (housed.inside left)
      holds := by
        show Net.Holds door link (advanceClosing scene.closer scene.device).2.door
          ((advanceClosing scene.closer scene.device).2.held phase) _
        rw [own, held, keeps.link]
        exact housed.holds.deals (.uses uses)
      asked := by
        rcases housed.asked.closes housed.reader with asked | ⟨index, fault, foreign, failed, _⟩
        · exact asked
        · have system := Stream.shutdown_error_isOs (housed.reliable.net.allOs.links index) failed
          simp [foreign] at system
      finished := fun raised finished =>
        scene.device.advanceClosing_finished housed.asked housed.reader housed.reliable.net housed.finished finished }

theorem heard : Housed door link phase { scene with device := scene.device.heard } := by
  have hears := scene.device.heard_hears
  exact
    { reader := hears.reader.trans housed.reader
      reliable := ⟨hears.net ▸ housed.reliable.net.applyAll (World.next_kind housed.reliable.script),
        heard_scripted housed.reliable.script⟩
      inside := fun left => hears.door.trans (housed.inside left)
      holds := by
        show Net.Holds door link scene.device.heard.door (scene.device.heard.held phase) scene.device.heard.world.net
        rw [hears.door, held, hears.link, hears.net]
        exact housed.holds.happens _
      asked := housed.asked.hears hears fun index linked => (tallies.born index (mem_holding linked)).2
      finished := housed.finished }

end

end Housed

section

variable {start : Nat} {old : World} {cut lost botched : Prop} {logged : List Bytes} {phase : ReaderPhase}
  {watch : Watch} {door link : Nat} (housed : Housed door link phase watch.scene)

theorem interrupted_scene (watch : Watch) (fault : Fault) : (watch.interrupted fault).scene = watch.scene := by
  unfold Watch.interrupted
  split <;> rfl

include housed

theorem Housed.tends {sent : Nat → Bytes} {taken : List Bytes}
    (tallies : Tallies start sent taken phase watch.scene.device) :
    Housed door link phase (watch.after .tend).scene := by
  obtain ⟨scene, post⟩ := watch
  have queue (queue : List (Option Bytes)) :
      Housed door link phase { scene with device := { scene.device with queue } } :=
    housed.aside rfl rfl ⟨rfl, rfl, rfl, .refl _⟩ rfl rfl
  cases post with
  | awaiting =>
    simp only [Watch.after, Watch.tend]
    split <;> exact housed
  | taking =>
    simp only [Watch.after, Watch.tend]
    rcases waiting : scene.device.queue with _ | ⟨_ | chunk, rest⟩
    · exact housed
    · simp only [receive_queued waiting, List.isEmpty_cons, Bool.false_eq_true, if_false]
      exact queue _
    · simp only [receive_queued waiting, List.isEmpty_cons, Bool.false_eq_true, if_false]
      exact queue _
  | logging chunk => exact housed.note _
  | parting fault =>
    simp only [Watch.after, Watch.tend]
    split
    · exact housed.note _
    · exact housed
  | closing fault =>
    have closes := housed.closes tallies
    simp only [Watch.after, Watch.tend]
    split <;> exact closes
  | done fault raised => exact housed

/-- Every move of a run leaves the device so. -/
theorem Housed.after (manned : Manned start old cut lost botched logged phase watch) (move : Move) :
    ∃ next, Housed door link next (watch.after move).scene := by
  obtain ⟨sent, tallies⟩ := manned.tallies
  cases move with
  | item =>
    have heard := housed.heard tallies
    refine ⟨phase, ?_⟩
    rw [Watch.after, Action.liftBenchDevice_apply, Action.onPart_apply]
    rw [Device.heard] at heard
    cases ran : World.advanceScript watch.scene.device.world with
    | ok went world =>
      rw [ran] at heard
      exact heard
    | error fault world =>
      rw [ran] at heard
      dsimp only
      rw [interrupted_scene]
      exact heard
  | interrupt =>
    refine ⟨phase, ?_⟩
    rw [Watch.after, interrupted_scene]
    exact housed
  | read => exact ⟨_, housed.reads tallies⟩
  | tend => exact ⟨phase, housed.tends tallies⟩

end

end Device
end RelayBench
