import RelayBench.Proofs.Device.Parking

/-! The program that runs a device, as it is called.  The call lets the reader go on from park to park and all
else happen in the order of the script, so it makes one of the runs that single moves make up; and its limits
are never met before the program is done. -/
namespace RelayBench
namespace Device

/-- One state of a program comes after another. -/
def Watch.Leads (watch after : Watch) : Prop := ∃ moves, watch.afterAll moves = after

/-- The same program around another state of its device. -/
def Watch.around (watch : Watch) (device : Device) : Watch :=
  { watch with scene := { watch.scene with device } }

theorem Watch.afterAll_append (watch : Watch) (first rest : List Move) :
    watch.afterAll (first ++ rest) = (watch.afterAll first).afterAll rest := by
  induction first generalizing watch with
  | nil => rfl
  | cons move first ih => exact ih (watch.after move)

namespace Watch.Leads

theorem refl (watch : Watch) : watch.Leads watch := ⟨[], rfl⟩

theorem trans {first second third : Watch} (early : first.Leads second) (late : second.Leads third) :
    first.Leads third := by
  obtain ⟨moves, rfl⟩ := early
  obtain ⟨rest, rfl⟩ := late
  exact ⟨moves ++ rest, afterAll_append first moves rest⟩

theorem move (watch : Watch) (move : Move) : watch.Leads (watch.after move) := ⟨[move], rfl⟩

theorem reads (watch : Watch) (count : Nat) :
    watch.Leads { watch with scene := watch.scene.afterAll (List.replicate count .read) } := by
  refine ⟨List.replicate count .read, ?_⟩
  induction count generalizing watch with
  | zero => rfl
  | succ count ih => exact ih (watch.after .read)

theorem resume (watch : Watch) : watch.Leads (watch.around watch.scene.device.resume) := by
  obtain ⟨count, resumed⟩ := watch.scene.resume_reads
  have read := reads watch count
  rw [resumed] at read
  exact read

end Watch.Leads

/-! Waits.  While the program waits, the next item of the script happens and the reader is resumed. -/

theorem pass_cases (device : Device) :
    (∃ went, (liftM World.advanceScript : DeviceCall Bool) device = .ok went device.heard ∧
      pass device = .ok () device.heard.resume) ∨
    (liftM World.advanceScript : DeviceCall Bool) device = .error .keyboardInterrupt device.heard ∧
      pass device = .error .keyboardInterrupt device.heard := by
  simp only [pass, Action.bind_apply, Action.liftBenchDevice_apply, Action.onPart_apply, heard]
  cases ran : World.advanceScript device.world with
  | ok went world => exact .inl ⟨went, rfl, rfl⟩
  | error fault world =>
    obtain rfl := World.advanceScript_failed ran
    exact .inr ⟨rfl, rfl⟩

/-- A wait without a limit ends with what it waits for, or with an interrupt. -/
theorem awaitItems_leads {start : Nat} {taken : List Bytes} (isThere : Device → Bool) (items : Nat) (watch : Watch)
    (rests : Rests start taken watch.scene.device) (waits : watch.post = .awaiting ∨ watch.post = .taking) :
    ∃ after, Rests start taken after ∧ after.due ≤ watch.scene.device.due ∧
      (awaitItems isThere none items watch.scene.device = .ok true after ∧ watch.Leads (watch.around after) ∨
        awaitItems isThere none items watch.scene.device = .error .keyboardInterrupt after ∧
          watch.Leads ⟨{ watch.scene with device := after }, .parting .keyboardInterrupt⟩) := by
  have interrupted (watch : Watch) (waits : watch.post = .awaiting ∨ watch.post = .taking) :
      watch.interrupted .keyboardInterrupt = { watch with post := .parting .keyboardInterrupt } := by
    rcases waits with post | post <;> simp [Watch.interrupted, post]
  induction items generalizing watch with
  | zero =>
    refine ⟨watch.scene.device, rests, Nat.le_refl _, ?_⟩
    cases there : isThere watch.scene.device with
    | true => exact .inl ⟨awaitItems_there there 0, .refl watch⟩
    | false =>
      refine .inr ⟨by simp [awaitItems, there], ?_⟩
      exact interrupted watch waits ▸ Watch.Leads.move watch .interrupt
  | succ items ih =>
    cases there : isThere watch.scene.device with
    | true => exact ⟨watch.scene.device, rests, Nat.le_refl _, .inl ⟨awaitItems_there there _, .refl watch⟩⟩
    | false =>
      have patient : Device.waits none = true := rfl
      rw [awaitItems_succ, there, patient, if_neg Bool.false_ne_true, if_pos rfl]
      rcases pass_cases watch.scene.device with ⟨went, hears, passed⟩ | ⟨hears, passed⟩
      · have happens : watch.Leads (watch.around watch.scene.device.heard) := by
          have item : watch.after .item = watch.around watch.scene.device.heard := by
            simp only [Watch.after, hears, Watch.around]
          exact item ▸ Watch.Leads.move watch .item
        have here := happens.trans (Watch.Leads.resume _)
        obtain ⟨parked, resumed⟩ := rests.heard.resume
        obtain ⟨after, still, later, ended⟩ := ih (watch.around watch.scene.device.heard.resume) parked waits
        refine ⟨after, still, later.trans (resumed.trans (heard_due _)), ?_⟩
        rw [Action.bind_ok passed]
        exact ended.imp (fun found => ⟨found.1, here.trans found.2⟩) fun cut => ⟨cut.1, here.trans cut.2⟩
      · refine ⟨watch.scene.device.heard, rests.heard, heard_due _, .inr ⟨Action.bind_error passed _, ?_⟩⟩
        have item : watch.after .item = ⟨{ watch.scene with device := watch.scene.device.heard },
            .parting .keyboardInterrupt⟩ := by
          simp only [Watch.after, hears]
          exact interrupted (watch.around watch.scene.device.heard) waits
        exact item ▸ Watch.Leads.move watch .item

/-! Taking chunks. -/

section

variable {device after : Device}

theorem awaitPeer_apply (device : Device) : awaitPeer none device =
    match await announced none device with
    | .ok true after => .ok () after
    | .ok false after => .error (.harness .timeout "No connection to mock device"
        [("port", .int after.address.2), ("timeout", Number.limitDatum none)] none) after
    | .error fault after => .error fault after := by
  simp only [awaitPeer, Action.bind_apply]
  rcases await announced none device with ⟨_ | _, after⟩ | ⟨fault, after⟩ <;> rfl

/-- A call that has waited for a chunk goes on as one that has found it there. -/
theorem receive_awaited (waited : await hasItem none device = .ok true after) :
    receive none device = receive none after := by
  have again : await hasItem none after = .ok true after := await_there (await_found waited)
  simp [receive, waited, again]

theorem receive_interrupted {fault : Fault} (cut : await hasItem none device = .error fault after) :
    receive none device = .error fault after := by
  simp [receive, cut]

theorem follow_succ (limit : Nat) (device : Device) : follow (limit + 1) device =
    match receive none device with
    | .ok chunk after => follow limit (after.note (chunkEntry chunk))
    | .error fault after => .error fault after := by
  simp only [follow, Action.bind_apply]
  cases receive none device <;> rfl

theorem tend_taking {scene : Scene} {item : Option Bytes} {rest : List (Option Bytes)}
    (queue : scene.device.queue = item :: rest) : (Watch.mk scene .taking).tend =
      match item with
      | some chunk => ⟨{ scene with device := { scene.device with queue := rest } }, .logging chunk⟩
      | none => ⟨{ scene with device := { scene.device with queue := rest ++ [none] } },
          .parting scene.device.streamEnded⟩ := by
  cases item <;> simp only [Watch.tend, receive_queued queue, queue, List.isEmpty_cons, Bool.false_eq_true, if_false]

/-- The stream is followed up to a fault, which comes before the limit of chunks is met. -/
theorem follow_leads {start : Nat} {taken : List Bytes} (limit : Nat) (scene : Scene)
    (rests : Rests start taken scene.device) (enough : scene.device.due < limit) :
    ∃ fault after more, Rests start more after ∧ follow limit scene.device = .error fault after ∧
      (Watch.mk scene .taking).Leads ⟨{ scene with device := after }, .parting fault⟩ := by
  induction limit generalizing scene taken with
  | zero => exact absurd enough (Nat.not_lt_zero _)
  | succ limit ih =>
    rw [follow_succ]
    obtain ⟨after, rests, due, ⟨waited, here⟩ | ⟨cut, here⟩⟩ :=
      awaitItems_leads hasItem (scene.device.world.script.getD []).length ⟨scene, .taking⟩ rests (.inr rfl)
    · rw [receive_awaited ((await_unlimited _ _).trans waited)]
      rcases queue : after.queue with _ | ⟨_ | chunk, rest⟩
      · have there : hasItem after = true := awaitItems_found waited
        simp [hasItem, queue] at there
      · have leaves := Watch.Leads.move ⟨{ scene with device := after }, .taking⟩ .tend
        rw [Watch.after, tend_taking queue] at leaves
        rw [receive_queued queue]
        exact ⟨_, _, taken, rests.finished queue, rfl, here.trans leaves⟩
      · have takes := Watch.Leads.move ⟨{ scene with device := after }, .taking⟩ .tend
        rw [Watch.after, tend_taking queue] at takes
        have logs := takes.trans (.move _ .tend)
        have less : ({ after with queue := rest }.note (chunkEntry chunk)).due < limit := by
          rw [note_due]
          simp only [Device.due, queue, List.filterMap_cons, id, List.length_cons] at due enough ⊢
          omega
        obtain ⟨fault, last, more, still, followed, later⟩ :=
          ih { scene with device := { after with queue := rest }.note (chunkEntry chunk) }
            ((rests.takes queue).note _) less
        rw [receive_queued queue]
        exact ⟨fault, last, more, still, followed, here.trans (logs.trans later)⟩
    · rw [receive_interrupted ((await_unlimited _ _).trans cut)]
      exact ⟨_, after, taken, rests, rfl, here⟩

/-- The program waits for its peer and follows its stream until it has a reason to leave. -/
theorem attend_leads {start : Nat} {taken : List Bytes} (rests : Rests start taken device) :
    ∃ fault after more, Rests start more after ∧ attend device = .error fault after ∧
      (Watch.mk { device } .awaiting).Leads ⟨{ device := after }, .parting fault⟩ := by
  obtain ⟨after, rests, _, ⟨waited, here⟩ | ⟨cut, here⟩⟩ :=
    awaitItems_leads announced (device.world.script.getD []).length ⟨{ device }, .awaiting⟩ rests (.inl rfl)
  · have found : announced after = true := awaitItems_found waited
    have waited : await announced none device = .ok true after := (await_unlimited _ _).trans waited
    have begins := Watch.Leads.move ⟨{ device := after }, .awaiting⟩ .tend
    rw [Watch.after, Watch.tend, if_pos found] at begins
    have enough : after.due < after.world.workload + after.queue.length + 1 := by
      have chunks := List.length_filterMap_le id after.queue
      rw [due]
      omega
    obtain ⟨fault, last, more, still, followed, later⟩ := follow_leads _ { device := after } rests enough
    refine ⟨fault, last, more, still, ?_, here.trans (begins.trans later)⟩
    simp only [attend, Action.bind_apply, awaitPeer_apply, waited, Action.get_apply]
    exact followed
  · have cut : await announced none device = .error .keyboardInterrupt after := (await_unlimited _ _).trans cut
    refine ⟨_, after, taken, rests, ?_, here⟩
    simp only [attend, Action.bind_apply, awaitPeer_apply, cut]

end

/-! Closing.  A call that closes a device asks the reader to end and sees it ended. -/

/-- The program that leaves because of a fault, when the closing of its device has come to some scene. -/
def Watch.leaving (fault : Fault) (scene : Scene) : Watch :=
  match scene.closer with
  | .ended raised => ⟨scene, .done fault (outcome fault raised)⟩
  | _ => ⟨scene, .closing fault⟩

theorem leaving_leads (fault : Fault) (scene : Scene) {turns : List Turn}
    (closing : ∀ turn ∈ turns, turn = .close ∨ turn = .read) :
    (Watch.leaving fault scene).Leads (Watch.leaving fault (scene.afterAll turns)) := by
  induction turns generalizing scene with
  | nil => exact .refl _
  | cons turn rest ih =>
    obtain ⟨here, others⟩ := List.forall_mem_cons.mp closing
    refine Watch.Leads.trans ?_ (ih _ others)
    rcases here with rfl | rfl
    · have tends : (Watch.leaving fault scene).after .tend = Watch.leaving fault (scene.frame .close).after := by
        obtain ⟨device, closer⟩ := scene
        cases closer <;> rfl
      exact tends ▸ .move _ .tend
    · have reads : (Watch.leaving fault scene).after .read = Watch.leaving fault (scene.frame .read).after := by
        obtain ⟨device, closer⟩ := scene
        cases closer <;> rfl
      exact reads ▸ .move _ .read

theorem advanceClosingBy_effort (limit : Nat) (closer : ClosingPhase) (device : Device) :
    (advanceClosingBy limit closer device).1.effort ≤ max 1 (closer.effort - limit) := by
  induction limit generalizing closer device with
  | zero => exact Nat.le_max_right _ _
  | succ limit ih =>
    have later := ih (advanceClosing closer device).1 (advanceClosing closer device).2
    have first : (advanceClosing closer device).1.effort ≤ max 1 (closer.effort - 1) := by
      have retreat := device.advanceClosing_retreat closer
      generalize advanceClosing closer device = ran at retreat
      cases retreat <;> simp [ClosingPhase.effort]
    show (advanceClosingBy limit (advanceClosing closer device).1 (advanceClosing closer device).2).1.effort ≤ _
    omega

/-- What a closing thread knows after some actions, unless it has failed at a shutdown. -/
theorem advanceClosingBy_asked {start : Nat} {taken : List Bytes} (limit : Nat) {closer : ClosingPhase}
    {phase : ReaderPhase} {device : Device} (rests : Rests start taken device) (reader : device.reader = some phase)
    (asked : Asked False phase device closer ∨ ∃ fault, closer = .ended fault) :
    let after := advanceClosingBy limit closer device
    Rests start taken after.2 ∧ after.2.reader = some phase ∧
      (Asked False phase after.2 after.1 ∨ ∃ fault, after.1 = .ended fault) := by
  induction limit generalizing closer device with
  | zero => exact ⟨rests, reader, asked⟩
  | succ limit ih =>
    refine ih (rests.closes closer) ((advanceClosing_keeps device reader closer).1.reader.trans reader) ?_
    rcases asked with asked | ⟨fault, rfl⟩
    · rcases asked.closes reader with asked | ⟨_, fault, _, _, failed⟩
      · exact .inl asked
      · exact .inr ⟨some fault, failed⟩
    · exact .inr ⟨fault, rfl⟩

theorem advanceClosing_joining {device : Device} (ended : device.readerEnded = true) :
    (advanceClosing .joining device).1 = .ended none := by
  have retreat := device.advanceClosing_retreat .joining
  generalize advanceClosing .joining device = ran at retreat
  cases retreat with
  | unread none => rfl
  | joined => rfl
  | waits reader going => simp [readerEnded_eq reader, going] at ended

/-- A call that closes a device is not left waiting for the reader. -/
theorem closeScene_ended {start : Nat} {taken : List Bytes} {device : Device} (rests : Rests start taken device) :
    ∃ raised, device.closeScene.closer = .ended raised := by
  by_cases closed : device.closed = true
  · have again : advanceClosingBy 5 .marking device = (.ended none, device) := by
      simp [advanceClosingBy, advanceClosing, closed]
    exact ⟨none, by rw [closeScene, again]⟩
  obtain ⟨phase, reader, parked⟩ := rests.parked
  have unclosed : Asked False phase device .marking := by simpa [Asked] using closed
  have effort := advanceClosingBy_effort 5 .marking device
  obtain ⟨rests, reader, course⟩ := advanceClosingBy_asked 5 rests reader (.inl unclosed)
  unfold closeScene
  generalize advanceClosingBy 5 .marking device = asked at effort rests reader course ⊢
  obtain ⟨closer, after⟩ := asked
  cases closer with
  | ended raised => exact ⟨raised, rfl⟩
  | joining =>
    obtain ⟨flagged, closes⟩ : Asked False phase after .joining := by simpa using course
    have settled : phase.turnsBack = false := by cases phase <;> first | rfl | cases parked
    have shut (link : Nat) (linked : after.link = some link) : (after.world.net.link link).stream.isOpen = false :=
      closes.shut settled id linked
    exact ⟨none, advanceClosing_joining (awaitReader_ends rests flagged shut _)⟩
  | _ => simp [ClosingPhase.effort] at effort

/-- What a fault at the end makes of a result. -/
def raising : Option Fault → Except Fault Unit
  | none => .ok ()
  | some fault => .error fault

/-- The program that is about to close its device does so, and is done. -/
theorem close_leads {start : Nat} {taken : List Bytes} {device : Device} (rests : Rests start taken device)
    (fault : Fault) : ∃ raised, Action.result (close device) = raising raised ∧
      (Watch.mk { device } (.closing fault)).Leads
        ⟨{ device := Action.state (close device), closer := .ended raised }, .done fault (Watch.outcome fault raised)⟩ := by
  obtain ⟨raised, ended⟩ := closeScene_ended rests
  obtain ⟨turns, closing, closes⟩ := Scene.close_run device
  have leads := leaving_leads fault { device } closing
  rw [closes] at leads
  have applied := close_apply device
  generalize device.closeScene = scene at ended leads applied
  obtain ⟨after, closer⟩ := scene
  subst ended
  refine ⟨raised, ?_, ?_⟩ <;> cases raised <;> rw [applied]
  · rfl
  · rfl
  · exact leads
  · exact leads

/-! The program. -/

/-- A device whose program has said why it leaves, if that is worth a word. -/
def parted (fault : Fault) (device : Device) : Device :=
  match farewell fault with
  | some message => device.note (.plain .info Logger.command message)
  | none => device

theorem tend_parting (scene : Scene) (fault : Fault) : (Watch.mk scene (.parting fault)).tend =
    ⟨{ scene with device := scene.device.parted fault }, .closing fault⟩ := by
  simp only [Watch.tend, parted]
  cases farewell fault <;> rfl

theorem Rests.parted {start : Nat} {taken : List Bytes} {device : Device} (rests : Rests start taken device)
    (fault : Fault) : Rests start taken (device.parted fault) := by
  unfold Device.parted
  split
  · exact rests.note _
  · exact rests

/-- What the program returns with, and what it leaves, when it has a reason to leave. -/
theorem foreground_apply {device parked after : Device} {fault : Fault} {raised : Option Fault}
    (connected : connect device = .ok () parked) (attended : attend parked = .error fault after)
    (closed : Action.result (close (after.parted fault)) = raising raised) :
    Action.result (foreground device) = raising (Watch.outcome fault raised) ∧
      Action.state (foreground device) = Action.state (close (after.parted fault)) := by
  simp only [foreground, Action.bind_apply, connected, Action.attempt_apply, attended]
  unfold parted at closed ⊢
  cases said : farewell fault with
  | some message =>
    rw [said] at closed
    refine ⟨closed.trans ?_, rfl⟩
    cases raised <;> simp [Watch.outcome, said, raising]
  | none =>
    rw [said] at closed
    simp only [Action.bind_apply]
    cases ran : close after <;> cases raised <;>
      simp_all [Watch.outcome, raising, Action.result, Action.state]

/-- The program, once its device was launched, makes a run of single moves to its end. -/
theorem foreground_run (settings : DeviceSettings) (world : World) (device : Device)
    (addressed : world.net.Addressed) (scripted : world.Scripted Event.Addressed)
    (launched : launch (ofSettings settings world) = .ok () device) :
    let ran := foreground (ofSettings settings world)
    ∃ moves fault raised, Action.result ran = raising raised ∧
      let final := ({ scene := { device } } : Watch).afterAll moves
      final.post = .done fault raised ∧ final.scene.device = Action.state ran := by
  intro ran
  obtain ⟨reader, script, _, _, _, tallies⟩ := launch_fresh launched
  have still : device.world.Scripted Event.Addressed := fun items found => scripted items (script ▸ found)
  have connected : connect (ofSettings settings world) = .ok () device.resume := by
    rw [connect_eq, Action.bind_ok launched, Action.modify_apply]
  obtain ⟨fault, after, more, rests, attended, leaves⟩ := attend_leads (resume_rests still reader (tallies addressed)).1
  have parts := Watch.Leads.move ⟨{ device := after }, .parting fault⟩ .tend
  rw [Watch.after, tend_parting] at parts
  obtain ⟨raised, closed, closes⟩ := close_leads (rests.parted fault) fault
  obtain ⟨result, state⟩ := foreground_apply connected attended closed
  obtain ⟨moves, final⟩ := (Watch.Leads.resume ⟨{ device }, .awaiting⟩).trans (leaves.trans (parts.trans closes))
  exact ⟨moves, fault, _, result, by rw [final], by rw [final, state]⟩

end Device
end RelayBench
