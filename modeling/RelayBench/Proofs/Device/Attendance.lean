import RelayBench.Proofs.Device.Foreground

/-! The program that runs a device on its own comes to its end.  It logs every chunk once and in order, and
the mark of the end lets it go wherever it takes chunks; only where it waits for a peer that is never
announced does nothing wake it. -/
namespace RelayBench
namespace Device

/-- The chunk that the program has taken and not logged yet. -/
def Post.inHand : Post → List Bytes
  | .logging chunk => [chunk]
  | _ => []

/-- What the program has said when it has logged some chunks. -/
def Post.words (post : Post) (logged : List Bytes) : List Entry :=
  logged.map chunkEntry ++ match post with
    | .closing fault | .done fault _ => (farewell fault).toList.map (.plain .info Logger.command)
    | _ => []

/-- A scene in which nobody has begun to close the device. -/
structure Idle (scene : Scene) : Prop where
  closer : scene.closer = .marking
  closed : scene.device.closed = false
  closing : scene.device.closing = false

/-- Why the program leaves: the reader has ended and all chunks are logged, or it was interrupted. -/
def Reason (cut : Prop) (logged : List Bytes) (phase : ReaderPhase) (device : Device) (fault : Fault) : Prop :=
  fault.kind = .harness .deviceClosed ∧ phase.isEnded = true ∧ logged = device.received ∨
    fault = .keyboardInterrupt ∧ cut

/-- How far the closing of a device has come, if its link is known not to change any more. -/
def Shutting (settled : Prop) (device : Device) : ClosingPhase → Prop
  | .marking => device.closed = false
  | .signalling | .looking => device.closed = true
  | .shutting link | .closing link => device.closed = true ∧ (settled → device.link = some link)
  | .joining | .ended none => device.closed = true ∧ (settled → ∀ link, device.link = some link →
      (device.world.net.link link).stream.isOpen = false)
  | .ended (some _) => device.closed = true

/-- What holds where the program stands. -/
def Stage (cut lost botched : Prop) (logged : List Bytes) (phase : ReaderPhase) (scene : Scene) : Post → Prop
  | .awaiting =>
    Idle scene ∧ (scene.device.announced = true ∨ phase.approaches = true ∨ lost)
  | .taking | .logging _ => Idle scene
  | .parting fault => Idle scene ∧ Reason cut logged phase scene.device fault
  | .closing fault => Reason cut logged phase scene.device fault ∧ scene.closer.isOver = false ∧
      Shutting (fault.kind = .harness .deviceClosed) scene.device scene.closer
  | .done fault raised => Reason cut logged phase scene.device fault ∧ scene.closer = .ended raised ∧
      Shutting (fault.kind = .harness .deviceClosed) scene.device scene.closer ∧ (raised = none ∨ botched)

/-- A device that is run on its own, between any two moves. -/
structure Manned (start : Nat) (old : World) (cut lost botched : Prop) (logged : List Bytes)
    (phase : ReaderPhase) (watch : Watch) : Prop where
  reader : watch.scene.device.reader = some phase
  scripted : watch.scene.device.world.Scripted Event.Addressed
  tallies : ∃ sent, Tallies start sent (logged ++ watch.post.inHand) phase watch.scene.device
  door : phase.isOutside = true → ∃ door, watch.scene.device.door = some door
  threshold : watch.scene.device.world.threshold = old.threshold
  log : watch.scene.device.world.commandLog = old.commandLog ++ (watch.post.words logged).filter old.keeps
  stage : Stage cut lost botched logged phase watch.scene watch.post

theorem Shutting.kept {settled : Prop} {device after : Device} {closer : ClosingPhase}
    (shutting : Shutting settled device closer) (closed : after.closed = device.closed)
    (link : settled → after.link = device.link)
    (shut : settled → ∀ link, device.link = some link → (device.world.net.link link).stream.isOpen = false →
      (after.world.net.link link).stream.isOpen = false) : Shutting settled after closer := by
  have closes (closes : settled → ∀ link, device.link = some link →
      (device.world.net.link link).stream.isOpen = false) (settled : settled) (index : Nat)
      (linked : after.link = some index) : (after.world.net.link index).stream.isOpen = false := by
    have linked : device.link = some index := (link settled).symm.trans linked
    exact shut settled index linked (closes settled index linked)
  cases closer with
  | marking => exact closed.trans shutting
  | signalling => exact closed.trans shutting
  | looking => exact closed.trans shutting
  | shutting other => exact ⟨closed.trans shutting.1, fun settled => (link settled).trans (shutting.2 settled)⟩
  | closing other => exact ⟨closed.trans shutting.1, fun settled => (link settled).trans (shutting.2 settled)⟩
  | joining => exact ⟨closed.trans shutting.1, closes shutting.2⟩
  | ended raised =>
    cases raised with
    | none => exact ⟨closed.trans shutting.1, closes shutting.2⟩
    | some fault => exact closed.trans shutting

/-- One closing action goes on with the closing, or fails at the link. -/
theorem Shutting.closes {settled : Prop} {device : Device} {closer : ClosingPhase} {phase : ReaderPhase}
    (shutting : Shutting settled device closer) (reader : device.reader = some phase)
    (going : closer.isOver = false) :
    Shutting settled (advanceClosing closer device).2 (advanceClosing closer device).1 ∧
      ∀ fault, (advanceClosing closer device).1 = .ended (some fault) → device.FailsToClose closer := by
  have retreat := device.advanceClosing_retreat closer
  generalize advanceClosing closer device = ran at retreat ⊢
  cases retreat with
  | closed closed => simp [Shutting, closed] at shutting
  | marked => exact ⟨rfl, by simp⟩
  | signalled => exact ⟨shutting, by simp⟩
  | found linked => exact ⟨⟨shutting, fun _ => linked⟩, by simp⟩
  | alone unlinked =>
    refine ⟨⟨shutting, fun _ link linked => ?_⟩, by simp⟩
    simp [unlinked] at linked
  | shut link => exact ⟨shutting, by simp⟩
  | refused link foreign failed => exact ⟨shutting.1, fun _ _ => ⟨link, _, .inl ⟨rfl, foreign, failed⟩⟩⟩
  | closes link =>
    exact ⟨⟨shutting.1, fun settled _ linked => calls_close_shut (shutting.2 settled) linked⟩, by simp⟩
  | fails link failed => exact ⟨shutting.1, fun _ _ => ⟨link, _, .inr ⟨rfl, failed⟩⟩⟩
  | unread none => simp [reader] at none
  | joined =>
    refine ⟨⟨shutting.1, fun settled link linked => ?_⟩, by simp⟩
    rw [note_net]
    exact shutting.2 settled link linked
  | waits => exact ⟨shutting, by simp⟩
  | past fault => cases going

section

variable {start : Nat} {old : World} {cut lost botched : Prop} {logged : List Bytes} {phase : ReaderPhase}
  {watch : Watch} (manned : Manned start old cut lost botched logged phase watch)
include manned

theorem Manned.mono {cut' lost' botched' : Prop} (cuts : cut → cut') (loses : lost → lost')
    (botches : botched → botched') : Manned start old cut' lost' botched' logged phase watch := by
  refine { manned with stage := ?_ }
  have stage := manned.stage
  have reason {fault : Fault} (reason : Reason cut logged phase watch.scene.device fault) :
      Reason cut' logged phase watch.scene.device fault := reason.imp id (And.imp id cuts)
  cases post : watch.post <;> rw [post] at stage
  case awaiting => exact ⟨stage.1, stage.2.imp id (Or.imp id loses)⟩
  case taking => exact stage
  case logging chunk => exact stage
  case parting fault => exact ⟨stage.1, reason stage.2⟩
  case closing fault => exact ⟨reason stage.1, stage.2⟩
  case done fault raised => exact ⟨reason stage.1, stage.2.1, stage.2.2.1, stage.2.2.2.imp id botches⟩

/-- An interrupt makes the program leave, if it waits. -/
theorem Manned.interrupted : Manned start old True lost botched logged phase
    (watch.interrupted .keyboardInterrupt) := by
  have later : Manned start old True lost botched logged phase watch := manned.mono (fun _ => trivial) id id
  obtain ⟨scene, post⟩ := watch
  cases post with
  | awaiting => exact { manned with stage := ⟨manned.stage.1, .inr ⟨rfl, trivial⟩⟩ }
  | taking => exact { manned with stage := ⟨manned.stage, .inr ⟨rfl, trivial⟩⟩ }
  | logging chunk => exact later
  | parting fault => exact later
  | closing fault => exact later
  | done fault raised => exact later

theorem Manned.heard : Manned start old cut lost botched logged phase
    { watch with scene := { watch.scene with device := watch.scene.device.heard } } := by
  have hears := watch.scene.device.heard_hears
  have hushed := watch.scene.device.heard_hushed
  obtain ⟨sent, tallies⟩ := manned.tallies
  have born (link : Nat) (linked : watch.scene.device.link = some link) :
      link < watch.scene.device.world.net.linkCount := (tallies.born link (mem_holding linked)).2
  have shutting {settled : Prop} {closer : ClosingPhase}
      (shutting : Shutting settled watch.scene.device closer) : Shutting settled watch.scene.device.heard closer :=
    shutting.kept rfl (fun _ => rfl) fun _ link linked closed =>
      (Link.side_isOpen (hears.grown.side link (born link linked))).trans closed
  have stage := manned.stage
  refine
    { reader := hears.reader.trans manned.reader
      scripted := heard_scripted manned.scripted
      tallies := ⟨_, tallies.hears _ (World.next_kind manned.scripted) hears⟩
      door := fun outside => manned.door outside
      threshold := hushed.threshold.trans manned.threshold
      log := hushed.log.trans manned.log
      stage := ?_ }
  cases post : watch.post <;> rw [post] at stage
  case awaiting => exact ⟨⟨stage.1.closer, stage.1.closed, stage.1.closing⟩, stage.2⟩
  case taking => exact ⟨stage.closer, stage.closed, stage.closing⟩
  case logging chunk => exact ⟨stage.closer, stage.closed, stage.closing⟩
  case parting fault => exact ⟨⟨stage.1.closer, stage.1.closed, stage.1.closing⟩, stage.2⟩
  case closing fault => exact ⟨stage.1, stage.2.1, shutting stage.2.2⟩
  case done fault raised => exact ⟨stage.1, stage.2.1, shutting stage.2.2.1, stage.2.2.2⟩

theorem Manned.item : Manned start old (cut ∨ watch.Cuts .item) lost botched logged phase (watch.after .item) := by
  have heard := manned.heard
  rw [Watch.after, Action.liftBenchDevice_apply, Action.onPart_apply]
  rw [Device.heard] at heard
  cases ran : World.advanceScript watch.scene.device.world with
  | ok went world =>
    rw [ran] at heard
    exact heard.mono .inl id id
  | error fault world =>
    rw [ran] at heard
    obtain rfl := World.advanceScript_failed ran
    exact heard.interrupted.mono (fun _ => .inr (.inr ⟨rfl, _, _, ran⟩)) id id

theorem Manned.reads : ∃ next, Manned start old cut (lost ∨ watch.Misses .read) botched logged next
    (watch.after .read) := by
  have reader := manned.reader
  have read : watch.after .read =
      { watch with scene := { watch.scene with device := watch.scene.device.readOnce } } := rfl
  rw [read]
  by_cases ended : phase.isEnded = true
  · rw [readOnce_ended reader ended]
    exact ⟨phase, manned.mono id .inl id⟩
  rw [readOnce_eq reader]
  have advance := advanceReader_advance watch.scene.device phase
  have hushed := advanceReader_hushed watch.scene.device phase
  obtain ⟨closing, closed⟩ := flags_advance watch.scene.device phase
  obtain ⟨sent, tallies⟩ := manned.tallies
  have idle (idle : Idle watch.scene) (reader : Option ReaderPhase) :
      Idle { watch.scene with device := { (advanceReader phase watch.scene.device).2 with reader } } :=
    ⟨idle.closer, closed.trans idle.closed, closing.trans idle.closing⟩
  have reason {fault : Fault} (reason : Reason cut logged phase watch.scene.device fault) :
      fault = .keyboardInterrupt ∧ cut := reason.resolve_left fun finished => ended finished.2.1
  have shutting {fault : Fault} {closer : ClosingPhase} (interrupt : fault = .keyboardInterrupt)
      (shutting : Shutting (fault.kind = .harness .deviceClosed) watch.scene.device closer)
      (reader : Option ReaderPhase) : Shutting (fault.kind = .harness .deviceClosed)
        { (advanceReader phase watch.scene.device).2 with reader } closer := by
    have moving : fault.kind ≠ .harness .deviceClosed := by
      rw [interrupt]
      decide
    exact shutting.kept closed (absurd · moving) (absurd · moving)
  have stage := manned.stage
  refine ⟨(advanceReader phase watch.scene.device).1,
    { reader := rfl
      scripted := fun items found => manned.scripted items (advance.aside.2.1 ▸ found)
      tallies := ⟨sent, (tallies.advance advance).aside⟩
      door := fun outside => ?_
      threshold := hushed.threshold.trans manned.threshold
      log := hushed.log.trans manned.log
      stage := ?_ }⟩
  · obtain ⟨out, same⟩ := outside_advance watch.scene.device outside
    obtain ⟨door, known⟩ := manned.door out
    exact ⟨door, same.trans known⟩
  cases post : watch.post <;> rw [post] at stage
  case awaiting =>
    refine ⟨idle stage.1 _, ?_⟩
    rcases stage.2 with announced | approaches | lost
    · exact .inl (hushed.announced announced)
    · rcases approaches_advance stage.1.closing manned.door approaches with on | announced | fails
      · exact .inr (.inl on)
      · exact .inl announced
      · exact .inr (.inr (.inr ⟨rfl, phase, reader, fails⟩))
    · exact .inr (.inr (.inl lost))
  case taking => exact idle stage _
  case logging chunk => exact idle stage _
  case parting fault => exact ⟨idle stage.1 _, .inr (reason stage.2)⟩
  case closing fault =>
    obtain ⟨interrupt, cut⟩ := reason stage.1
    exact ⟨.inr ⟨interrupt, cut⟩, stage.2.1, shutting interrupt stage.2.2 _⟩
  case done fault raised =>
    obtain ⟨interrupt, cut⟩ := reason stage.1
    exact ⟨.inr ⟨interrupt, cut⟩, stage.2.1, shutting interrupt stage.2.2.1 _, stage.2.2.2⟩

theorem Manned.note (post : Post) {entry : Entry} {more : List Bytes}
    (command : entry.logger = Logger.command) (taken : more ++ post.inHand = logged ++ watch.post.inHand)
    (words : post.words more = watch.post.words logged ++ [entry])
    (stage : Stage cut lost botched more phase { watch.scene with device := watch.scene.device.note entry } post) :
    Manned start old cut lost botched more phase
      { scene := { watch.scene with device := watch.scene.device.note entry }, post } where
  reader := manned.reader
  scripted := fun items found => manned.scripted items ((note_script _ _).symm.trans found)
  tallies := by
    obtain ⟨sent, tallies⟩ := manned.tallies
    exact ⟨sent, taken ▸ tallies.note entry⟩
  door := manned.door
  threshold := (World.write_threshold _ _).trans manned.threshold
  log := by
    have kept := World.keeps_congr manned.threshold
    have written : (watch.scene.device.note entry).world.commandLog = _ :=
      World.write_commandLog watch.scene.device.world command
    rw [written, manned.log, words, List.filter_append, kept, List.append_assoc]
  stage := stage

/-- One action of the program, which takes, logs or says something, or goes on closing the device. -/
theorem Manned.tends : ∃ more, Manned start old cut lost (botched ∨ watch.Botches .tend) more phase
    (watch.after .tend) := by
  have still : ∃ more, Manned start old cut lost (botched ∨ watch.Botches .tend) more phase watch :=
    ⟨logged, manned.mono id id .inl⟩
  have stage := manned.stage
  obtain ⟨scene, post⟩ := watch
  cases post with
  | awaiting =>
    simp only [Watch.after, Watch.tend]
    split
    · exact ⟨logged, { manned with stage := stage.1 }⟩
    · exact still
  | taking =>
    obtain ⟨sent, tallies⟩ := manned.tallies
    have idle (queue : List (Option Bytes)) : Idle { scene with device := { scene.device with queue } } :=
      ⟨stage.closer, stage.closed, stage.closing⟩
    have tallies : Tallies start sent logged phase scene.device := by simpa [Post.inHand] using tallies
    simp only [Watch.after, Watch.tend]
    rcases queue : scene.device.queue with _ | ⟨_ | chunk, rest⟩
    · exact still
    · obtain ⟨rfl, ended, all⟩ := tallies.finished queue
      simp only [receive_queued queue, List.isEmpty_cons, Bool.false_eq_true, if_false]
      have told : scene.device.streamEnded.kind = .harness .deviceClosed := streamEnded_kind tallies.named
      have tallies : Tallies start sent logged phase { scene.device with queue := [none] } :=
        tallies.queue (queue ▸ tallies.order)
      refine ⟨logged, { manned with
        tallies := ⟨sent, ?_⟩
        stage := ⟨idle _, .inl ⟨told, ended, all⟩⟩ }⟩
      simpa [Post.inHand] using tallies
    · simp only [receive_queued queue, List.isEmpty_cons, Bool.false_eq_true, if_false]
      exact ⟨logged, { manned with tallies := ⟨sent, tallies.takes queue⟩, stage := idle rest }⟩
  | logging chunk =>
    refine ⟨logged ++ [chunk], (manned.note .taking rfl ?_ ?_ ?_).mono id id .inl⟩
    · simp [Post.inHand]
    · simp [Post.words]
    · exact ⟨stage.closer, stage.closed, stage.closing⟩
  | parting fault =>
    have known : ∃ message, farewell fault = some message := by
      rcases stage.2 with ⟨finished, _⟩ | ⟨rfl, _⟩
      · exact ⟨_, by rw [farewell, finished]; rfl⟩
      · exact ⟨_, rfl⟩
    obtain ⟨message, known⟩ := known
    simp only [Watch.after, Watch.tend, known]
    refine ⟨logged, (manned.note (.closing fault) rfl rfl ?_ ?_).mono id id .inl⟩
    · simp [Post.words, known]
    · refine ⟨stage.2, ?_⟩
      show scene.closer.isOver = false ∧ Shutting _ _ scene.closer
      rw [stage.1.closer]
      exact ⟨rfl, stage.1.closed⟩
  | closing fault =>
    obtain ⟨reason, going, shutting⟩ := stage
    obtain ⟨sent, tallies⟩ := manned.tallies
    have advance := advanceClosing_advance scene.device manned.reader scene.closer
    have hushed := advanceClosing_hushed scene.device scene.closer
    have keeps := (advanceClosing_keeps scene.device manned.reader scene.closer).1
    obtain ⟨shutting, fails⟩ := shutting.closes manned.reader going
    have reason : Reason cut logged phase (advanceClosing scene.closer scene.device).2 fault := by
      rw [Reason, keeps.received]
      exact reason
    have base (post : Post) (empty : post.inHand = []) (words : post.words logged = (Post.closing fault).words logged)
        (stage : Stage cut lost (botched ∨ Watch.Botches ⟨scene, .closing fault⟩ .tend) logged phase
          (scene.frame .close).after post) :
        Manned start old cut lost (botched ∨ Watch.Botches ⟨scene, .closing fault⟩ .tend) logged phase
          ⟨(scene.frame .close).after, post⟩ :=
      { reader := keeps.reader.trans manned.reader
        scripted := fun items found => manned.scripted items (keeps.script ▸ found)
        tallies := ⟨sent, empty ▸ tallies.advance advance⟩
        door := fun outside => by
          obtain ⟨door, known⟩ := manned.door outside
          exact ⟨door, (advanceClosing_door scene.device scene.closer).trans known⟩
        threshold := hushed.threshold.trans manned.threshold
        log := words ▸ hushed.log.trans manned.log
        stage := stage }
    have known : (farewell fault).isSome = true := by
      rcases reason with ⟨finished, _⟩ | ⟨rfl, _⟩
      · rw [farewell, finished]
        rfl
      · rfl
    simp only [Watch.after, Watch.tend]
    split
    next raised ended =>
      have ended : (advanceClosing scene.closer scene.device).1 = .ended raised := ended
      have outcome : Watch.outcome fault raised = raised := by
        cases raised with
        | none => simp [Watch.outcome, known]
        | some other => rfl
      rw [outcome]
      refine ⟨logged, base (.done fault raised) rfl rfl ⟨reason, ended, shutting, ?_⟩⟩
      cases raised with
      | none => exact .inl rfl
      | some other => exact .inr (.inr ⟨rfl, fails other ended⟩)
    next other =>
      refine ⟨logged, base (.closing fault) rfl rfl ⟨reason, ?_, shutting⟩⟩
      generalize (scene.frame .close).after.closer = closer at other
      cases closer with
      | ended raised => exact absurd rfl (other raised)
      | _ => rfl
  | done fault raised => exact still

theorem Manned.after (move : Move) : ∃ more next, (phase.isEnded = true → next = phase) ∧
    Manned start old (cut ∨ watch.Cuts move) (lost ∨ watch.Misses move) (botched ∨ watch.Botches move) more next
      (watch.after move) := by
  cases move with
  | item => exact ⟨logged, phase, fun _ => rfl, manned.item.mono id .inl .inl⟩
  | interrupt =>
    exact ⟨logged, phase, fun _ => rfl, manned.interrupted.mono (fun _ => .inr (.inl rfl)) .inl .inl⟩
  | read =>
    obtain ⟨next, reads⟩ := manned.reads
    refine ⟨logged, next, fun ended => ?_, reads.mono .inl id .inl⟩
    have still : (watch.after .read).scene.device = watch.scene.device := readOnce_ended manned.reader ended
    have reader := reads.reader
    rw [still] at reader
    exact Option.some.inj (reader.symm.trans manned.reader)
  | tend =>
    obtain ⟨more, tends⟩ := manned.tends
    exact ⟨more, phase, fun _ => rfl, tends.mono .inl .inl id⟩

end

theorem Watch.meets_append {kind : Watch → Move → Prop} (watch : Watch) (first rest : List Move) :
    watch.Meets kind (first ++ rest) ↔ watch.Meets kind first ∨ (watch.afterAll first).Meets kind rest := by
  induction first generalizing watch with
  | nil => exact (false_or _).symm.to_iff
  | cons move first ih =>
    rw [List.cons_append, Watch.Meets, Watch.Meets, ih, or_assoc]
    rfl

theorem manned_run {start : Nat} {old : World} {cut lost botched : Prop} {logged : List Bytes}
    {phase : ReaderPhase} {watch : Watch} (manned : Manned start old cut lost botched logged phase watch)
    (moves : List Move) : ∃ more next, (phase.isEnded = true → next = phase) ∧
      Manned start old (cut ∨ watch.Meets Watch.Cuts moves) (lost ∨ watch.Meets Watch.Misses moves)
        (botched ∨ watch.Meets Watch.Botches moves) more next (watch.afterAll moves) := by
  induction moves generalizing watch logged phase cut lost botched with
  | nil => exact ⟨logged, phase, fun _ => rfl, manned.mono .inl .inl .inl⟩
  | cons move rest ih =>
    obtain ⟨more, next, same, here⟩ := manned.after move
    obtain ⟨most, last, stays, final⟩ := ih here
    refine ⟨most, last, fun ended => ?_, final.mono or_assoc.mp or_assoc.mp or_assoc.mp⟩
    obtain rfl := same ended
    exact stays ended

theorem advanceClosing_effort (device : Device) (closer : ClosingPhase) :
    advanceClosing closer device = (closer, device) ∨ (advanceClosing closer device).1.effort < closer.effort := by
  have retreat := device.advanceClosing_retreat closer
  generalize advanceClosing closer device = ran at retreat ⊢
  cases retreat with
  | waits | past => exact .inl rfl
  | _ => exact .inr (by simp [ClosingPhase.effort])

/-- An action of the program changes nothing or leaves less to do. -/
theorem tend_effort (watch : Watch) : watch.tend = watch ∨ watch.tend.effort < watch.effort := by
  obtain ⟨scene, post⟩ := watch
  cases post with
  | awaiting =>
    simp only [Watch.tend]
    split
    · exact .inr (by simp [Watch.effort])
    · exact .inl rfl
  | taking =>
    simp only [Watch.tend]
    rcases queue : scene.device.queue with _ | ⟨_ | chunk, rest⟩
    · exact .inl rfl
    · refine .inr ?_
      simp only [receive_queued queue, List.isEmpty_cons, Bool.false_eq_true, if_false, Watch.effort, queue,
        List.length_cons]
      omega
    · refine .inr ?_
      simp only [receive_queued queue, List.isEmpty_cons, Bool.false_eq_true, if_false, Watch.effort, queue,
        List.length_cons]
      omega
  | logging chunk =>
    have same : (scene.device.note (chunkEntry chunk)).queue = scene.device.queue := rfl
    exact .inr (by simp [Watch.tend, Watch.effort, same])
  | parting fault =>
    have bound (scene : Scene) : scene.closer.effort + 1 < 8 := by
      cases scene.closer <;> simp [ClosingPhase.effort]
    simp only [Watch.tend]
    split <;> exact .inr (bound _)
  | closing fault =>
    have progress := advanceClosing_effort scene.device scene.closer
    simp only [Watch.tend]
    split
    · exact .inr (by simp [Watch.effort])
    · rcases progress with same | less
      · have still : (scene.frame .close).after = scene := by
          show Scene.mk (advanceClosing scene.closer scene.device).2 (advanceClosing scene.closer scene.device).1 = _
          rw [same]
        exact .inl (by rw [still])
      · exact .inr (Nat.succ_lt_succ less)
  | done fault raised => exact .inl rfl

/-- Closing goes on until the end of the reader, and then to its own end. -/
theorem advanceClosing_moves {device : Device} (finished : device.readerEnded = true) {closer : ClosingPhase}
    (going : closer.isOver = false) : (advanceClosing closer device).1 ≠ closer := by
  have retreat := device.advanceClosing_retreat closer
  generalize advanceClosing closer device = ran at retreat ⊢
  cases retreat with
  | waits reader unended =>
    rw [readerEnded, reader] at finished
    simp [unended] at finished
  | past fault => cases going
  | _ => simp

section

variable {start : Nat} {old : World} {cut lost botched : Prop} {logged : List Bytes} {phase : ReaderPhase}
  {watch : Watch} (manned : Manned start old cut lost botched logged phase watch) (ended : phase.isEnded = true)
include manned ended

/-- Once the reader has ended, the program is stuck just where it waits for a peer that was not announced. -/
theorem Manned.waits_iff :
    watch.Waits ↔ watch.post = .awaiting ∧ watch.scene.device.announced = false := by
  have stage := manned.stage
  obtain ⟨sent, tallies⟩ := manned.tallies
  have finished : watch.scene.device.readerEnded = true := (readerEnded_eq manned.reader).trans ended
  obtain ⟨scene, post⟩ := watch
  refine ⟨fun waits => ?_, ?_⟩
  · obtain ⟨going, still⟩ := waits
    have posts := congrArg Watch.post still
    have closers := congrArg (fun watch : Watch => watch.scene.closer) still
    cases post with
    | awaiting =>
      refine ⟨rfl, ?_⟩
      by_contra announced
      have announced : scene.device.announced = true := by simpa using announced
      simp [Watch.tend, announced] at posts
    | taking =>
      obtain ⟨queued, order, _⟩ := tallies.order
      rw [ReaderPhase.mark, if_pos ended] at order
      simp only [Watch.tend] at posts
      rcases queue : scene.device.queue with _ | ⟨_ | chunk, rest⟩
      · simp [queue] at order
      · simp [receive_queued queue, queue] at posts
      · simp [receive_queued queue, queue] at posts
    | logging chunk => cases posts
    | parting fault =>
      simp only [Watch.tend] at posts
      split at posts <;> cases posts
    | closing fault =>
      simp only [Watch.tend] at posts closers
      split at posts
      · cases posts
      next other =>
        refine absurd ?_ (advanceClosing_moves finished stage.2.1)
        split at closers
        next raised found => exact absurd found (other raised)
        · exact closers
    | done fault raised => exact absurd rfl (going fault raised)
  · rintro ⟨rfl, unannounced⟩
    exact ⟨by simp, by simp [Watch.tend, show scene.device.announced = false from unannounced]⟩

/-- Only an interrupt helps a program that is stuck, and a program that is not stuck does not get so. -/
theorem Manned.waits_after (move : Move) (stuck : (watch.after move).post = .awaiting)
    (unannounced : (watch.after move).scene.device.announced = false) :
    watch.post = .awaiting ∧ watch.scene.device.announced = false := by
  have spoken (watch : Watch) (fault : Fault) : (watch.interrupted fault).post ≠ .awaiting := by
    obtain ⟨scene, post⟩ := watch
    cases post <;> nofun
  cases move with
  | item =>
    rw [Watch.after, Action.liftBenchDevice_apply, Action.onPart_apply] at stuck unannounced
    cases ran : World.advanceScript watch.scene.device.world with
    | ok went world =>
      rw [ran] at stuck unannounced
      exact ⟨stuck, unannounced⟩
    | error fault world =>
      rw [ran] at stuck
      exact absurd stuck (spoken _ fault)
  | interrupt => exact absurd stuck (spoken watch _)
  | read =>
    have still : (watch.after .read).scene.device = watch.scene.device := readOnce_ended manned.reader ended
    rw [still] at unannounced
    exact ⟨stuck, unannounced⟩
  | tend =>
    obtain ⟨scene, post⟩ := watch
    cases post with
    | awaiting =>
      refine ⟨rfl, ?_⟩
      by_contra announced
      have announced : scene.device.announced = true := by simpa using announced
      simp [Watch.after, Watch.tend, announced] at stuck
    | taking =>
      simp only [Watch.after, Watch.tend] at stuck
      rcases queue : scene.device.queue with _ | ⟨_ | chunk, rest⟩
      · simp [queue] at stuck
      · simp [receive_queued queue, queue] at stuck
      · simp [receive_queued queue, queue] at stuck
    | logging chunk => cases stuck
    | parting fault =>
      simp only [Watch.after, Watch.tend] at stuck
      split at stuck <;> cases stuck
    | closing fault =>
      simp only [Watch.after, Watch.tend] at stuck
      split at stuck <;> cases stuck
    | done fault raised => cases stuck

theorem Manned.stuck_after (waits : watch.Waits) {move : Move} (uncut : ¬ watch.Cuts move) :
    (watch.after move).post = .awaiting ∧ (watch.after move).scene.device.announced = false := by
  obtain ⟨post, unannounced⟩ := (manned.waits_iff ended).mp waits
  cases move with
  | item =>
    rw [Watch.after, Action.liftBenchDevice_apply, Action.onPart_apply]
    cases ran : World.advanceScript watch.scene.device.world with
    | ok went world => exact ⟨post, unannounced⟩
    | error fault world => exact absurd (.inr ⟨rfl, fault, world, ran⟩) uncut
  | interrupt => exact absurd (.inl rfl) uncut
  | read =>
    have still : (watch.after .read).scene.device = watch.scene.device := readOnce_ended manned.reader ended
    exact ⟨post, still ▸ unannounced⟩
  | tend =>
    have still : watch.after .tend = watch := waits.2
    rw [still]
    exact ⟨post, unannounced⟩

/-- The work that is left does not grow any more. -/
theorem Manned.effort_after (move : Move) : (watch.after move).effort ≤ watch.effort := by
  have interrupted (watch : Watch) (fault : Fault) : (watch.interrupted fault).effort ≤ watch.effort := by
    obtain ⟨scene, post⟩ := watch
    cases post <;> simp [Watch.interrupted, Watch.effort]
  cases move with
  | item =>
    rw [Watch.after, Action.liftBenchDevice_apply, Action.onPart_apply]
    cases ran : World.advanceScript watch.scene.device.world with
    | ok went world => exact Nat.le_refl _
    | error fault world => exact interrupted _ fault
  | interrupt => exact interrupted watch _
  | read =>
    have still : watch.after .read = watch := by
      show { watch with scene := { watch.scene with device := watch.scene.device.readOnce } } = watch
      rw [readOnce_ended manned.reader ended]
    exact Nat.le_of_eq (congrArg Watch.effort still)
  | tend =>
    rcases tend_effort watch with still | less
    · exact Nat.le_of_eq (congrArg Watch.effort still)
    · exact Nat.le_of_lt less

/-- A program that is stuck stays so until it is interrupted. -/
theorem Manned.stuck_forever (waits : watch.Waits) {later : List Move} (uncut : ¬ watch.Meets Watch.Cuts later) :
    (watch.afterAll later).Waits := by
  induction later generalizing watch logged phase cut lost botched with
  | nil => exact waits
  | cons move rest ih =>
    obtain ⟨here, others⟩ := not_or.mp uncut
    obtain ⟨_, next, same, after⟩ := manned.after move
    obtain rfl := same ended
    exact ih after ended ((after.waits_iff ended).mpr (manned.stuck_after ended waits here)) others

/-- A program that is not stuck has done all when it has done so many actions. -/
theorem Manned.goes_home (free : ¬ watch.Waits) {later : List Move} (enough : watch.effort ≤ later.count .tend) :
    ∃ fault raised, (watch.afterAll later).post = .done fault raised := by
  induction later generalizing watch logged phase cut lost botched with
  | nil =>
    have none : watch.effort = 0 := Nat.le_zero.mp enough
    cases post : watch.post <;> simp [Watch.effort, post] at none
    exact ⟨_, _, post⟩
  | cons move rest ih =>
    obtain ⟨_, next, same, after⟩ := manned.after move
    obtain rfl := same ended
    have onward : ¬ (watch.after move).Waits := fun waits => by
      obtain ⟨post, unannounced⟩ := (after.waits_iff ended).mp waits
      exact free ((manned.waits_iff ended).mpr (manned.waits_after ended move post unannounced))
    refine ih after ended onward ?_
    have fewer := manned.effort_after ended move
    by_cases tends : move = .tend
    · subst tends
      rw [List.count_cons_self] at enough
      rcases tend_effort watch with still | less
      · -- A program that is not stuck and does nothing is done.
        have finished : ∃ fault raised, watch.post = .done fault raised := by
          by_contra going
          exact free ⟨fun fault raised post => going ⟨fault, raised, post⟩, still⟩
        obtain ⟨fault, raised, post⟩ := finished
        have nothing : watch.effort = 0 := by rw [Watch.effort, post]
        omega
      · have less : (watch.after .tend).effort < watch.effort := less
        omega
    · rw [List.count_cons_of_ne tends] at enough
      omega

end

/-- A program that is done has closed its device, or has failed at the link. -/
theorem Manned.home {start : Nat} {old : World} {cut lost botched : Prop} {logged : List Bytes}
    {phase : ReaderPhase} {watch : Watch} (manned : Manned start old cut lost botched logged phase watch)
    {fault : Fault} {raised : Option Fault} (post : watch.post = .done fault raised) :
    watch.scene.device.closed = true ∧ (raised = none ∨ botched) ∧
      Reason cut logged phase watch.scene.device fault ∧
      (fault.kind = .harness .deviceClosed → raised = none → ∀ link, watch.scene.device.link = some link →
        (watch.scene.device.world.net.link link).stream.isOpen = false) := by
  have stage := manned.stage
  rw [post] at stage
  obtain ⟨reason, closer, shutting, botches⟩ := stage
  rw [closer] at shutting
  refine ⟨?_, botches, reason, fun told closed => ?_⟩
  · cases raised with
    | none => exact shutting.1
    | some other => exact shutting
  · subst closed
    exact shutting.2 told

theorem launch_hushed {device after : Device} (launched : launch device = .ok () after) :
    after.world.commandLog = device.world.commandLog ∧ after.world.threshold = device.world.threshold := by
  obtain ⟨_, door, net, entry, opened, logger, rfl⟩ := launch_split launched
  have other : entry.logger ≠ Logger.command := logger ▸ device_other
  have hushed := (Hushed.refl (device.behind door net)).note other
  exact ⟨hushed.log, hushed.threshold⟩

theorem launch_manned {settings : DeviceSettings} {world : World} {device : Device}
    (addressed : world.net.Addressed) (scripted : world.Scripted Event.Addressed)
    (launched : launch (ofSettings settings world) = .ok () device) :
    Manned world.net.linkCount world False False False [] .testing { scene := { device } } := by
  obtain ⟨reader, script, _, closing, _, tallies⟩ := launch_fresh launched
  obtain ⟨log, threshold⟩ := launch_hushed launched
  obtain ⟨_, door, net, entry, _, _, rfl⟩ := launch_split launched
  exact
    { reader := reader
      scripted := fun items found => scripted items (script ▸ found)
      tallies := ⟨_, tallies addressed⟩
      door := fun _ => ⟨door, rfl⟩
      threshold := threshold
      log := log.trans (List.append_nil _).symm
      stage := ⟨⟨rfl, rfl, closing⟩, .inr (.inl rfl)⟩ }

/-- A call of the program comes to an end.  It has then logged a first part of what was received, each chunk
once and in order, and has marked its device as closed.  Where it was told that the stream has ended, the
reader has ended, every chunk is logged, and the link is closed, unless closing it has failed; where it was
not told, it was interrupted. -/
theorem foreground_ends (settings : DeviceSettings) (world : World) (device : Device)
    (addressed : world.net.Addressed) (scripted : world.Scripted Event.Addressed)
    (launched : launch (ofSettings settings world) = .ok () device) :
    let final := Action.state (foreground (ofSettings settings world))
    final.closed = true ∧ ∃ logged fault raised,
      Action.result (foreground (ofSettings settings world)) = raising raised ∧
      logged <+: final.received ∧
      final.world.commandLog = world.commandLog ++ ((Post.done fault raised).words logged).filter world.keeps ∧
      (fault.kind = .harness .deviceClosed ∧ final.readerEnded = true ∧ logged = final.received ∧
          (raised = none → ∀ link, final.link = some link → (final.world.net.link link).stream.isOpen = false) ∨
        fault = .keyboardInterrupt) := by
  intro final
  obtain ⟨moves, fault, raised, result, post, state⟩ := foreground_run settings world device addressed scripted launched
  obtain ⟨logged, phase, _, manned⟩ := manned_run (launch_manned addressed scripted launched) moves
  have log := manned.log
  obtain ⟨sent, tallies⟩ := manned.tallies
  obtain ⟨queued, _, all⟩ := tallies.order
  obtain ⟨closed, _, reason, shut⟩ := manned.home post
  have reader := readerEnded_eq manned.reader
  rw [post] at log all
  rw [state] at log all closed reason shut reader
  rw [List.append_assoc] at all
  refine ⟨closed, logged, fault, raised, result, ⟨_, all⟩, log, ?_⟩
  rcases reason with ⟨told, ended, whole⟩ | ⟨interrupt, _⟩
  · exact .inl ⟨told, reader.trans ended, whole, shut told⟩
  · exact .inr interrupt

/-- What a program says when the stream has ended. -/
def disconnected : Entry := .plain .info Logger.command "Peer disconnected"

/-- A device that is run on its own.  A call of its program makes one of its runs, to the end.  In every run,
what the program has logged is, each chunk once and in order, a first part of what was received.  Once the
reader has ended, the program is stuck just where it waits for a peer that was never announced, which the
reader does only if an accept has failed or the door has failed to close behind the peer; and then only an
interrupt helps.  A program that is not stuck has a bounded number of actions to do, whatever else happens:
it has then logged every chunk and said that the stream has ended, or was interrupted, and it has closed the
device, or has failed at its link. -/
theorem attendance_of_run (settings : DeviceSettings) (world : World) (device : Device) (moves : List Move)
    (addressed : world.net.Addressed) (scripted : world.Scripted Event.Addressed)
    (launched : launch (ofSettings settings world) = .ok () device) :
    let start : Watch := { scene := { device } }
    let final := start.afterAll moves
    let call := foreground (ofSettings settings world)
    (∃ called fault raised, Action.result call = raising raised ∧
      (start.afterAll called).post = .done fault raised ∧
      (start.afterAll called).scene.device = Action.state call) ∧
    (∃ logged, logged <+: final.scene.device.received ∧ final.scene.device.world.commandLog =
      world.commandLog ++ (final.post.words logged).filter world.keeps) ∧
    (final.scene.device.readerEnded = true →
      (final.Waits ↔ final.post = .awaiting ∧ final.scene.device.announced = false) ∧
      (final.Waits → start.Meets Watch.Misses moves ∧
        ∀ later, ¬ final.Meets Watch.Cuts later → (final.afterAll later).Waits) ∧
      (¬ final.Waits → ∀ later, final.effort ≤ later.count .tend →
        let home := final.afterAll later
        ∃ fault raised, home.post = .done fault raised ∧ home.scene.device.closed = true ∧
          (raised = none ∨ start.Meets Watch.Botches (moves ++ later)) ∧
          (fault.kind = .harness .deviceClosed ∧
              (raised = none → ∀ link, home.scene.device.link = some link →
                (home.scene.device.world.net.link link).stream.isOpen = false) ∧
              home.scene.device.world.commandLog = world.commandLog ++
                (home.scene.device.received.map chunkEntry ++ [disconnected]).filter world.keeps ∨
            fault = .keyboardInterrupt ∧ start.Meets Watch.Cuts (moves ++ later)))) := by
  intro start final call
  obtain ⟨logged, phase, _, manned⟩ := manned_run (launch_manned addressed scripted launched) moves
  refine ⟨foreground_run settings world device addressed scripted launched, ⟨logged, ?_, manned.log⟩,
    fun finished => ?_⟩
  · obtain ⟨sent, tallies⟩ := manned.tallies
    obtain ⟨queued, _, all⟩ := tallies.order
    rw [List.append_assoc] at all
    exact ⟨_, all⟩
  have ended : phase.isEnded = true := (readerEnded_eq manned.reader).symm.trans finished
  refine ⟨manned.waits_iff ended, fun waits => ⟨?_, fun later => manned.stuck_forever ended waits⟩, ?_⟩
  · obtain ⟨post, unannounced⟩ := (manned.waits_iff ended).mp waits
    have stage := manned.stage
    rw [show (start.afterAll moves).post = .awaiting from post] at stage
    rcases stage.2 with announced | approaches | impossible | misses
    · exact absurd (unannounced.symm.trans announced) Bool.false_ne_true
    · cases phase <;> simp [ReaderPhase.isEnded, ReaderPhase.approaches] at ended approaches
    · exact impossible.elim
    · exact misses
  · intro free later enough home
    obtain ⟨more, next, same, after⟩ := manned_run manned later
    obtain rfl := same ended
    obtain ⟨fault, raised, post⟩ := manned.goes_home ended free enough
    have log := after.log
    rw [post] at log
    obtain ⟨closed, botches, reason, shut⟩ := after.home post
    refine ⟨fault, raised, post, closed, ?_, ?_⟩
    · rw [Watch.meets_append]
      exact botches.imp id fun botched => botched.imp (Or.resolve_left · id) id
    · rw [Watch.meets_append]
      rcases reason with ⟨told, _, all⟩ | ⟨interrupt, cut⟩
      · refine .inl ⟨told, shut told, ?_⟩
        have message : farewell fault = some "Peer disconnected" := by
          rw [farewell, told]
          rfl
        rw [log, Post.words, message, all]
        rfl
      · exact .inr ⟨interrupt, cut.imp (Or.resolve_left · id) id⟩

/-- A peer comes in, and later it sends and closes. -/
def visit : World :=
  { script := some [[.connect "ann" none none none none], [.send "ann" [1, 2, 3], .close "ann"]] }

def visited : List Move :=
  .item :: List.replicate 8 .read ++ .tend :: .item :: List.replicate 8 .read

theorem attendance_of_visit :
    let device := Action.state (launch (ofSettings pairSettings visit))
    let final := ({ scene := { device } } : Watch).afterAll visited
    let home := final.afterAll (List.replicate 14 .tend)
    final.scene.device.readerEnded = true ∧ final.effort = 14 ∧ ¬ final.Waits ∧
      home.scene.device.received = [[1, 2], [3]] ∧
      ∃ fault raised, home.post = .done fault raised ∧ home.scene.device.closed = true := by
  intro device final home
  have launched : launch (ofSettings pairSettings visit) = .ok () device := by rfl
  have ended : final.scene.device.readerEnded = true := by decide +kernel
  have announced : final.scene.device.announced = true := by decide +kernel
  have effort : final.effort = 14 := by decide +kernel
  have received : home.scene.device.received = [[1, 2], [3]] := by decide +kernel
  have scripted : visit.Scripted Event.Addressed := by
    intro items found
    cases found
    simp [Event.Addressed]
  clear_value device
  obtain ⟨_, _, finished⟩ := attendance_of_run pairSettings visit device visited blank_addressed scripted launched
  obtain ⟨stuck, _, goes⟩ := finished ended
  have free : ¬ final.Waits := fun waits => absurd (announced.symm.trans (stuck.mp waits).2) (by simp)
  have enough : final.effort ≤ (List.replicate 14 Move.tend).count .tend := Nat.le_trans (Nat.le_of_eq effort) (by decide)
  obtain ⟨fault, raised, post, closed, _⟩ := goes free (List.replicate 14 .tend) enough
  exact ⟨ended, effort, free, received, fault, raised, post, closed⟩

/-- The accept of the device fails. -/
def deafDoor : World :=
  { script := some [[.fail none .accept [some (Fault.osError 103 "Software caused connection abort")]]] }

/-- When the accept has failed, the reader has ended and has marked the end, and the program waits for ever
for its peer. -/
theorem attendance_stuck :
    let start : Watch := { scene := { device := Action.state (launch (ofSettings pairSettings deafDoor)) } }
    let final := start.afterAll (.item :: List.replicate 5 .read)
    final.scene.device.readerEnded = true ∧ final.scene.device.queue = [none] ∧ final.Waits ∧
      ∀ later, ¬ final.Meets Watch.Cuts later → (final.afterAll later).Waits := by
  intro start final
  have launched : launch (ofSettings pairSettings deafDoor) = .ok () start.scene.device := by rfl
  have finished : final.scene.device.readerEnded = true := by decide +kernel
  have scripted : deafDoor.Scripted Event.Addressed := by
    intro items found
    cases found
    simp [Event.Addressed]
  obtain ⟨_, phase, _, manned⟩ := manned_run (launch_manned blank_addressed scripted launched)
    (.item :: List.replicate 5 .read)
  have ended : phase.isEnded = true := (readerEnded_eq manned.reader).symm.trans finished
  have waits : final.Waits := (manned.waits_iff ended).mpr ⟨rfl, by decide +kernel⟩
  exact ⟨finished, by decide +kernel, waits, fun later => manned.stuck_forever ended waits⟩

end Device
end RelayBench
