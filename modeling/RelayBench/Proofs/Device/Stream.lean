import RelayBench.Proofs.Device.Calls
import RelayBench.Proofs.Device.Hearing

/-! The stream of a device: its caller is given what the reader has read, chunk by chunk and in order,
which is what the peer has sent; and once told that the stream has ended, it is told so ever after. -/
namespace RelayBench
namespace Device

/-- A device whose reader has ended and whose chunks were all taken. -/
structure Drained (all : List Bytes) (phase : ReaderPhase) (device : Device) : Prop where
  ended : phase.isEnded = true
  queue : device.queue = [none]
  received : device.received = all
  named : device.peer.length ≠ 1

section

variable {all taken : List Bytes} {phase : ReaderPhase} {device : Device}

theorem Drained.reads (drained : Drained all phase device) :
    Drained all (advanceReader phase device).1 (advanceReader phase device).2 := by
  have ended := drained.ended
  cases phase <;> first | exact drained | simp [ReaderPhase.isEnded] at ended

theorem Drained.closes (drained : Drained all phase device) (started : device.reader = some phase)
    (closer : ClosingPhase) : Drained all phase (advanceClosing closer device).2 := by
  obtain ⟨keeps, _⟩ := advanceClosing_keeps device started closer
  exact ⟨drained.ended, keeps.queue.trans drained.queue, keeps.received.trans drained.received,
    keeps.peer ▸ drained.named⟩

theorem drained_serving (all : List Bytes) : Serving (fun _ => True) fun _ _ => Drained all where
  keeping := fun _ =>
    { hears := fun drained _ hears => ⟨drained.ended, hears.queue.trans drained.queue,
        hears.received.trans drained.received, hears.peer ▸ drained.named⟩
      reads := fun drained => drained.reads
      aside := fun drained => ⟨drained.ended, drained.queue, drained.received, drained.named⟩ }
  takes := fun drained next => absurd (drained.queue.symm.trans next) (by simp)
  finished := by
    intro _ _ phase device rest drained next
    obtain rfl : rest = [] := by simpa using (drained.queue.symm.trans next).symm
    exact ⟨drained.ended, rfl, drained.received, drained.named⟩

/-- A drained device receives nothing more, and tells every call that the stream has ended. -/
theorem drained_trace {sent : Nat → Bytes} {scene : Scene}
    (stands : Standing (fun _ => True) (fun _ => Drained all) sent scene.device) (turns : List Turn) :
    ∀ frame ∈ scene.trace turns, frame.after.device.received = all ∧
      ∀ timeout, frame.turn = .receive timeout → isMeasurable timeout = true → frame.isOver = true := by
  induction turns generalizing scene sent with
  | nil => exact List.forall_mem_nil _
  | cons turn rest ih =>
    have next := @Serving.frame _ _ (drained_serving all) [] sent scene turn stands turn.meets_any
      fun _ phase reader drained => drained.closes reader scene.closer
    refine List.forall_mem_cons.mpr ⟨⟨?_, fun timeout wants measurable => ?_⟩, ih next⟩
    · obtain ⟨_, _, _, drained⟩ := next
      exact drained.received
    · obtain ⟨_, _, _, drained⟩ := stands
      obtain rfl : turn = .receive timeout := wants
      rw [Frame.isOver, (scene.frame_receive timeout).1, receive_over measurable drained.queue]
      simp [Except.map, streamEnded_kind drained.named]

/-- A call that is told of the end has been given all that there is, and leaves the device drained. -/
theorem Tallies.drained {start : Nat} {sent : Nat → Bytes} {scene : Scene} {turn : Turn}
    (stands : Standing Event.Addressed (Tallies start · taken) sent scene.device)
    (finished : (scene.frame turn).isOver = true) :
    taken = (scene.frame turn).after.device.received ∧
      Standing (fun _ => True) (fun _ => Drained taken) (fun _ => []) (scene.frame turn).after.device := by
  cases turn with
  | event event => simp [(scene.frame_event event).2.1] at finished
  | read => cases finished
  | close => cases finished
  | receive timeout =>
    obtain ⟨_, phase, reader, tallies⟩ := ((tallies_serving start).keeping taken).waited timeout stands
    obtain ⟨result, after⟩ := scene.frame_receive timeout
    have course := receive_received timeout scene.device
    rw [Frame.isOver, result] at finished
    rw [after]
    generalize receive timeout scene.device = ran at course finished
    cases course with
    | chunk queue => simp [Except.map] at finished
    | finished queue =>
      obtain ⟨rfl, ended, all⟩ := tallies.finished queue
      exact ⟨all, fun _ _ _ _ _ _ => trivial, phase, reader, ended, rfl, all.symm, tallies.named⟩
    | failed other => simp [Except.map, other] at finished

end

theorem launch_fresh {settings : DeviceSettings} {world : World} {device : Device}
    (launched : launch (ofSettings settings world) = .ok () device) :
    device.reader = some .testing ∧ device.world.script = world.script ∧ device.chunkSize = settings.chunkSize ∧
      device.closing = false ∧ device.holding .testing = [] ∧
      (world.net.Addressed → Tallies world.net.linkCount world.net.unread [] .testing device) := by
  obtain ⟨_, door, net, entry, opened, _, rfl⟩ := launch_split launched
  obtain ⟨links, count, nobody, _⟩ := Net.openDoor_success _ opened
  have draws : Net.Drawn (fun _ => []) world.net (((ofSettings settings world).behind door net).note entry).world.net := by
    rw [note_net]
    exact .of_links links count
  have nothing : Device.holding .testing
      { ((ofSettings settings world).behind door net).note entry with reader := some .testing } = [] := by
    show (((ofSettings settings world).behind door net).note entry).pending = []
    rw [note_pending]
    exact nobody
  refine ⟨rfl, note_script _ _, rfl, rfl, nothing, fun addressed => ?_⟩
  exact
    { order := ⟨[], rfl, rfl⟩
      sizes := nofun
      search := fun _ => rfl
      unlinked := fun _ => rfl
      distinct := nothing ▸ List.nodup_nil
      older := Nat.le_of_eq draws.linkCount.symm
      born := by
        rw [nothing]
        nofun
      ledger := world.net.unread_ledger.drawn draws fun _ _ => rfl
      named := nofun
      addressed := draws.addressed addressed }

/-- The stream of a device that was started once.  At any time the chunks that calls were given and those
still queued are all that was received, each once and in order, none of them empty or too long, and the
mark of the end is behind them just when the reader has ended.  What was received is a first part of what
the peer has sent, and all of it when a peer has closed that nothing has disturbed.  A call that is told of
the end has been given all chunks; from then on no more are received, and every call is told the same that
could have waited for a chunk. -/
theorem stream_of_run (settings : DeviceSettings) (world : World) (start : Scene) (turns : List Turn)
    (size : 1 ≤ settings.chunkSize) (addressed : world.net.Addressed)
    (script : world.Scripted Event.Addressed)
    (launched : launch (ofSettings settings world) = .ok () start.device)
    (proper : ∀ turn ∈ turns, turn.Meets Event.Addressed) :
    let final := (start.afterAll turns).device
    (∃ queued, final.queue = queued.map some ++ (if final.readerEnded then [none] else []) ∧
      returned (start.trace turns) ++ queued = final.received) ∧
    (∀ chunk ∈ final.received, 1 ≤ chunk.length ∧ (chunk.length : Int) ≤ settings.chunkSize) ∧
    (final.link = none → final.received = []) ∧
    (∀ link, final.link = some link →
      final.received.flatten <+: sentIn (start.trace turns) link ∧
      (start.Undisturbed turns → final.readerEnded = true →
        (final.world.net.link link).stream.far = .closed →
        final.received.flatten = sentIn (start.trace turns) link)) ∧
    ∀ earlier turn later, turns = earlier ++ turn :: later →
      let told := (start.afterAll earlier).frame turn
      told.isOver = true → returned (start.trace earlier) = told.after.device.received ∧
        ∀ frame ∈ told.after.trace later, frame.after.device.received = told.after.device.received ∧
          ∀ timeout, frame.turn = .receive timeout → isMeasurable timeout = true → frame.isOver = true := by
  intro final
  obtain ⟨reader, same, sized, calm, nothing, tallies⟩ := launch_fresh launched
  have stands : Standing Event.Addressed (Tallies world.net.linkCount · []) world.net.unread start.device :=
    ⟨fun items found => script items (same ▸ found), .testing, reader, tallies addressed⟩
  obtain ⟨_, phase, ending, fits⟩ := tallies_run stands proper
  have ended : final.readerEnded = phase.isEnded := readerEnded_eq ending
  have chunkSize : final.chunkSize = settings.chunkSize := (chunkSize_run reader turns).trans sized
  -- The link of the device is younger than its door, so nothing was sent there before the run.
  have unborn (link : Nat) (linked : final.link = some link) : world.net.unread link = [] :=
    if_neg (Nat.not_lt_of_le (fits.born link (mem_holding linked)).1)
  refine ⟨?_, fun chunk member => ?_, fun none => ?_, fun link linked => ⟨?_, fun undisturbed finished closed => ?_⟩, ?_⟩
  · rw [ended]
    exact fits.order
  · obtain ⟨some, short⟩ := fits.sizes chunk (List.mem_append_left _ member)
    have short : chunk.length ≤ final.chunkSize.toNat := short
    have long := List.length_pos_of_ne_nil some
    omega
  · exact (List.append_eq_nil_iff.mp (fits.unlinked none)).1
  · have front := fits.ledger.front link
    rw [drawn, if_pos linked, unborn link linked, List.nil_append, chunks, List.flatten_append] at front
    exact (List.prefix_append _ _).trans front
  · have attends : Attends world.net.unread .testing start.device :=
      ⟨sized ▸ size, undisturbed.reads, calm, undisturbed.unfailing, by simp [nothing], trivial⟩
    obtain ⟨_, last, ending, listens⟩ :=
      listens_run reader ⟨tallies addressed, .inl attends⟩ stands.1 proper undisturbed
    have heard := listens.heardOut ((readerEnded_eq ending).symm.trans finished) link linked
    have all : final.received.flatten = world.net.unread link ++ sentIn (start.trace turns) link := heard.2 closed
    rwa [unborn link linked, List.nil_append] at all
  · intro earlier turn later split told finished
    subst split
    -- The tally leads up to the turn that was told of the end; behind it the device is drained.
    have before := tallies_run stands fun turn member => proper turn (List.mem_append_left _ member)
    obtain ⟨all, drained⟩ := Tallies.drained before finished
    exact ⟨all, fun frame member => all ▸ drained_trace drained later frame member⟩

/-- Settings with a port that is found free, and chunks of two bytes at most. -/
def pairSettings : DeviceSettings where
  host := .named "127.0.0.1"
  port := 0
  chunkSize := 2

theorem blank_addressed : Net.Addressed {} := fun _ => nofun

/-- The peer comes in and sends, one chunk is taken, and the peer sends again and closes. -/
def chat : List Turn :=
  .event (.connect "ann" none none none none) :: List.replicate 8 .read ++
    .event (.send "ann" [1, 2, 3]) :: List.replicate 4 .read ++
    .receive none :: .event (.send "ann" [4]) :: .event (.close "ann") :: List.replicate 5 .read ++
    [.receive none, .receive none]

theorem stream_of_chat :
    let start : Scene := { device := Action.state (launch (ofSettings pairSettings {})) }
    let turns := chat ++ [.receive none, .receive (some (.int 0))]
    let final := (start.afterAll turns).device
    returned (start.trace turns) = [[1, 2], [3], [4]] ∧
      returned (start.trace turns) = final.received ∧
      final.received.flatten = sentIn (start.trace turns) 0 ∧
      ((start.afterAll chat).frame (.receive none)).isOver = true ∧
      ∀ frame ∈ ((start.afterAll chat).frame (.receive none)).after.trace [.receive (some (.int 0))],
        frame.isOver = true := by
  intro start turns final
  obtain ⟨_, _, _, stream, told⟩ := stream_of_run pairSettings {} start turns (by decide)
    blank_addressed (fun _ found => absurd found (Option.some_ne_none _).symm) (by rfl)
    (by simp [turns, chat, Turn.Meets, Event.Addressed])
  have unclosed : .close ∉ turns := by simp [turns, chat]
  have undisturbed : start.Undisturbed turns :=
    { reads := by rfl
      unfailing := ⟨FaultQueue.stores_nil, fun _ => FaultQueue.stores_nil⟩
      script := fun _ found => absurd found (Option.some_ne_none _).symm
      events := by simp [turns, chat, Turn.Meets, Event.Unfailing, Event.Stores]
      closes := fun earlier later split => absurd (by simp [split]) unclosed }
  have finished : ((start.afterAll chat).frame (.receive none)).isOver = true := by decide +kernel
  refine ⟨by decide +kernel, by decide +kernel, ?_, finished, fun frame member => ?_⟩
  · exact (stream 0 (by decide +kernel)).2 undisturbed (by decide +kernel) (by decide +kernel)
  · have later := (told chat (.receive none) [.receive (some (.int 0))] rfl finished).2 frame member
    have turn : frame.turn = .receive (some (.int 0)) := congrArg Frame.turn (List.mem_singleton.mp member)
    have measurable : isMeasurable (some (.int 0)) = true := by decide +kernel
    exact later.2 (some (.int 0)) turn measurable

/-- After the end a limit below zero is still refused for itself. -/
theorem stream_refused :
    let start : Scene := { device := Action.state (launch (ofSettings pairSettings {})) }
    let told := (start.afterAll chat).frame (.receive none)
    let refused := told.after.frame (.receive (some (.int (-1))))
    told.isOver = true ∧ refused.isOver = false ∧
      refused.result = .error (.invalidValue "'timeout' must be a non-negative number") := by
  intro start told refused
  exact ⟨by decide +kernel, by decide +kernel, by rfl⟩

end Device
end RelayBench
