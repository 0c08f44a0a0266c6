import RelayBench.Proofs.Relay.Delivery

/-! Last words.  In a run in which nothing fails and clients only send and close, a member that leaves by
its own read has had all that it sent handed on before; only a member that a write could not reach leaves
with something unread. -/
namespace RelayBench

/-- A stream on which no call is made to fail and which has not been reset. -/
structure Stream.Peaceful (stream : Stream) : Prop where
  faults : stream.faults = []
  far : stream.far ≠ .reset

/-- A client that is there and lets everything in. -/
structure Stream.Willing (stream : Stream) : Prop where
  far : stream.far = .opened
  window : stream.window = none

namespace Stream

variable (stream : Stream)

theorem write_quiet (data : Bytes) (faults : stream.faults = []) : (stream.write data).2.faults = [] := by
  have dropped : FaultQueue.drop stream.faults .send = [] := by rw [faults]; rfl
  have course := stream.write_course data
  generalize stream.write data = wrote at course ⊢
  cases course with
  | closed => exact faults
  | _ => exact dropped

theorem write_willing (data : Bytes) (opened : stream.isOpen = true) (faults : stream.faults = [])
    (willing : stream.Willing) :
    ∃ count after, stream.write data = (.ok count, after) ∧
      after.isOpen = true ∧ after.faults = [] ∧ after.Willing := by
  refine ⟨stream.quota data.length,
    (stream.called .send).taking (data.take (stream.quota data.length)), ?_, ?_, ?_, ?_⟩
  · simp [write, opened, faults, willing.far, willing.window]
  · exact opened
  · show FaultQueue.drop stream.faults .send = []
    rw [faults]
    rfl
  · exact ⟨willing.far, by simp [taking, called, willing.window]⟩

theorem read_quiet (size : Nat) (faults : stream.faults = []) : (stream.read size).2.faults = [] := by
  have dropped : FaultQueue.drop stream.faults .recv = [] := by rw [faults]; rfl
  unfold read
  split
  · exact faults
  · dsimp only
    split
    · exact dropped
    · split <;> exact dropped

theorem close_quiet (faults : stream.faults = []) : stream.close.2.faults = [] := by
  have dropped : FaultQueue.drop stream.faults .close = [] := by rw [faults]; rfl
  unfold close
  split
  · exact faults
  · dsimp only
    split <;> exact dropped

/-- A read of a peaceful open stream gives what there is of the inbox, as far as it goes. -/
theorem read_taken (size : Nat) (opened : stream.isOpen = true) (peaceful : stream.Peaceful) :
    (stream.read size).1.taken = stream.inbox.take size := by
  have far := peaceful.far
  unfold read
  simp only [opened, peaceful.faults, FaultQueue.next_nil, Bool.not_true, Bool.false_eq_true, if_false]
  split <;> simp_all [Reading.taken]

end Stream

namespace Link

variable (link : Link) (payload : Bytes)

theorem send_quiet (faults : link.stream.faults = []) : (link.send payload).2.stream.faults = [] :=
  Transfer.pump_kept (fun stream data quiet => Stream.write_quiet stream data quiet) _ _ _ _ _ faults

theorem close_quiet (faults : link.stream.faults = []) : link.close.2.stream.faults = [] := by
  unfold close
  split
  · exact faults
  · exact Stream.close_quiet link.stream faults

theorem read_quiet (platform : Platform) (size : Int) (faults : link.stream.faults = []) :
    (link.read platform size).2.stream.faults = [] := by
  rcases link.read_cases platform size with ⟨_, _, ran⟩ | ⟨_, ran⟩ <;> rw [ran]
  · exact faults
  · exact Stream.read_quiet _ _ faults

theorem served_quiet (faults : link.stream.faults = []) : (link.served payload).stream.faults = [] := by
  have written := link.send_quiet payload faults
  unfold served
  split
  · exact close_quiet _ written
  · exact written

/-- A client that lets everything in is refused nothing. -/
theorem refusal?_willing (opened : link.stream.isOpen = true) (faults : link.stream.faults = [])
    (willing : link.stream.Willing) : link.refusal? payload = none := by
  have sent : (link.send payload).1 = .ok () :=
    Transfer.pump_ok (fun stream => stream.isOpen = true ∧ stream.faults = [] ∧ stream.Willing)
      (fun stream data kind => stream.write_willing data kind.1 kind.2.1 kind.2.2) _ _ _ _ _
      ⟨opened, faults, willing⟩
  simp [refusal?, sent]

end Link

/-- A client connects, sends or closes, or the listening side is touched. -/
def Event.Peaceful : Event → Prop
  | .reset _ => False
  | .fail (some _) _ _ => False
  | _ => True

/-- No client's stream has a fault in store or has been reset. -/
def Net.Peaceful (net : Net) : Prop := ∀ index, (net.link index).stream.Peaceful

namespace Net

variable {net : Net}

theorem changeStream_peaceful (peaceful : net.Peaceful) (client : String) (change : Stream → Stream)
    (keeps : ∀ stream : Stream, stream.Peaceful → (change stream).Peaceful) :
    (net.changeStream client change).Peaceful := by
  intro index
  unfold changeStream
  split
  · rw [link_updateLink]
    split
    next same => exact keeps _ (same ▸ peaceful index)
    · exact peaceful index
  · exact peaceful index

theorem apply_peaceful (peaceful : net.Peaceful) {event : Event} (calm : event.Peaceful) :
    (net.apply event).2.Peaceful := by
  cases event with
  | connect client address window maxSend port =>
    intro index
    rw [apply, link_connect]
    split
    · refine ⟨rfl, ?_⟩
      unfold newcomer
      dsimp only
      split <;> decide
    · exact peaceful index
  | send client bytes =>
    rw [apply_send]
    refine changeStream_peaceful peaceful client _ fun stream kept => ?_
    unfold Stream.deliver
    split <;> exact ⟨kept.faults, kept.far⟩
  | close client =>
    refine changeStream_peaceful peaceful client Stream.farClose fun stream kept => ⟨kept.faults, ?_⟩
    simp [Stream.farClose, kept.far]
  | reset client => exact calm.elim
  | window client size =>
    exact changeStream_peaceful peaceful client (fun stream => { stream with window := size })
      fun _ kept => ⟨kept.faults, kept.far⟩
  | maxSend client size =>
    exact changeStream_peaceful peaceful client (fun stream => { stream with maxSend := size })
      fun _ kept => ⟨kept.faults, kept.far⟩
  | grants client sizes =>
    exact changeStream_peaceful peaceful client (fun stream => { stream with grants := sizes })
      fun _ kept => ⟨kept.faults, kept.far⟩
  | fail client call faults =>
    cases client with
    | none => exact peaceful
    | some client => exact calm.elim
  | taken port => exact peaceful
  | interrupt => exact peaceful
  | shutdown => exact peaceful

end Net

/-- A world in which no stream fails, now or by its script. -/
structure World.Peaceful (world : World) : Prop where
  net : world.net.Peaceful
  script : world.Scripted Event.Peaceful

namespace Relay

theorem await_peaceful {relay : Relay} (peaceful : relay.world.Peaceful) (timeout : Option Number) :
    (Action.state (await timeout relay)).world.Peaceful := by
  have net := await_kept Net.Peaceful (fun _ kept => kept) (fun _ _ kept calm => Net.apply_peaceful kept calm)
    peaceful.net peaceful.script timeout
  exact ⟨net, await_scripted peaceful.script timeout⟩

theorem taking_quiet {relay : Relay} (quiet : ∀ index, (relay.world.net.link index).stream.faults = [])
    (door first : Nat) (rest : List Nat) (index : Nat) :
    ((relay.taking door first rest).link index).stream.faults = [] := by
  rw [taking_link]
  split
  · rw [Link.adopt_faults]
    exact quiet first
  · exact quiet index

/-- The service of an iteration brings no fault in. -/
theorem Served.quiet {relay after : Relay} {result : Except Fault Outcome} (sound : relay.Sound)
    (served : Served relay result after) (quiet : ∀ index, (relay.world.net.link index).stream.faults = [])
    (index : Nat) : (after.world.net.link index).stream.faults = [] := by
  cases served with
  | nothing => exact quiet index
  | refused net log same => rcases same with rfl | rfl <;> exact quiet index
  | welcomed | misfit | forgone => exact taking_quiet quiet _ _ _ index
  | left source log member none =>
    rw [parting_link]
    split
    · exact Link.close_quiet _ (Link.read_quiet _ _ _ (quiet source))
    · exact quiet index
  | handedOn source payload log member some full =>
    rw [handing_link sound]
    split
    · exact Link.read_quiet _ _ _ (quiet source)
    · split
      · exact Link.served_quiet _ _ (quiet index)
      · exact quiet index
  | unread source fault member fails foreign =>
    show ((relay.readNet source).link index).stream.faults = []
    rw [unread_link sound fails foreign]
    exact quiet index

theorem Served.peaceful {relay after : Relay} {result : Except Fault Outcome} (sound : relay.Sound)
    (served : Served relay result after) (peaceful : relay.world.net.Peaceful) :
    after.world.net.Peaceful := fun index =>
  ⟨served.quiet sound (fun index => (peaceful index).faults) index,
    (served.taken sound index).far ▸ (peaceful index).far⟩

section

variable {relay : Relay} (steady : relay.Steady)
include steady

theorem frame_peaceful (peaceful : relay.world.Peaceful) {move : Move} (stepping : move.isStepping = true)
    (calm : move.Meets Event.Peaceful) : (relay.frame move).after.world.Peaceful := by
  refine ⟨?_, frame_scripted steady peaceful.script move⟩
  cases move with
  | event event =>
    obtain ⟨_, stop, after⟩ := relay.frame_event event
    rw [after]
    exact Net.apply_peaceful peaceful.net calm
  | step timeout =>
    have waited := (await_peaceful peaceful timeout).net
    have drift := await_drift steady.sound.os steady.script timeout
    rcases step_course steady.sound steady.script timeout with ⟨after, _⟩ | ⟨result, served, _⟩
    · rw [after]
      exact waited
    · exact served.peaceful (drift.sound steady.sound) waited
  | bind => simp [Move.isStepping] at stepping
  | shutdown => simp [Move.isStepping] at stepping
  | close => simp [Move.isStepping] at stepping

theorem afterAll_peaceful (peaceful : relay.world.Peaceful) {moves : List Move}
    (stepping : ∀ move ∈ moves, move.isStepping = true) (system : ∀ move ∈ moves, move.Meets Event.AllOs)
    (calm : ∀ move ∈ moves, move.Meets Event.Peaceful) : (relay.afterAll moves).world.Peaceful := by
  induction moves generalizing relay with
  | nil => exact peaceful
  | cons move rest ih =>
    obtain ⟨goes, steps⟩ := List.forall_mem_cons.mp stepping
    obtain ⟨here, others⟩ := List.forall_mem_cons.mp system
    obtain ⟨first, later⟩ := List.forall_mem_cons.mp calm
    exact ih (steady.frame here) (frame_peaceful steady peaceful goes first) steps others later

end

theorem welcome_outcome {relay : Relay} (sound : relay.Sound) {door : Nat}
    (bound : relay.listener.door = some door) (source : Nat) :
    Action.result (welcome .foreground relay) ≠ .ok (.disconnected source) := by
  rcases relay.world.net.accept_cases sound.os .foreground door with
    ⟨fault, after, failed, system, _⟩ | ⟨first, rest, _, queue, taken⟩
  · obtain ⟨log, ran⟩ := welcome_refused bound failed system
    simp [ran]
  · cases adopted : relay.adoption first with
    | error fault =>
      cases system : fault.isOs with
      | false => simp [welcome_misfit bound taken adopted system]
      | true =>
        obtain ⟨log, ran⟩ := welcome_forgone bound taken adopted system
        simp [ran]
    | ok done =>
      obtain ⟨live, apart, _⟩ := sound.fresh first (by simp [waiting, bound, queue])
      obtain ⟨log, ran⟩ := welcome_joined bound taken adopted apart live.closed
      simp [ran]

theorem received_outcome {relay : Relay} (sound : relay.Sound) {first source : Nat}
    (member : first ∈ relay.members)
    (outcome : Action.result ((readMember first >>= received first) relay) = .ok (.disconnected source)) :
    first = source := by
  have course := received_course sound member
  generalize (readMember first >>= received first) relay = ran at course outcome
  cases course with
  | left log none copes => simpa using outcome
  | handedOn payload log some full => simp at outcome
  | unread fault fails foreign => cases outcome

/-- A member that is let go has shown itself readable to the wait before. -/
theorem step_disconnected {relay : Relay} (steady : relay.Steady) {timeout : Option Number} {source : Nat}
    (outcome : Action.result (step timeout relay) = .ok (.disconnected source)) :
    ((Action.state (await timeout relay)).world.net.link source).stream.isReadable = true := by
  have drift := await_drift steady.sound.os steady.script timeout
  cases waited : await timeout relay with
  | error fault middle =>
    rw [step_eq, Action.bind_error waited] at outcome
    cases outcome
  | ok ready middle =>
    rw [waited, Action.state_ok] at drift
    rw [step_eq, Action.bind_ok waited] at outcome
    have sound := drift.sound steady.sound
    rcases ready with _ | ⟨_ | first, rest⟩
    · cases outcome
    · obtain ⟨door, bound⟩ := await_bound waited
      exact absurd outcome (welcome_outcome sound bound source)
    · obtain ⟨member, readable⟩ := await_readable steady.sound waited (List.mem_cons_self ..)
      exact received_outcome sound member outcome ▸ readable

/-- How a member leaves in an iteration: by its own read, which gives nothing although it was ready to be
read, or because a write to it of what another member sent has failed. -/
inductive Leaves (relay : Relay) (outcome : Option Outcome) (index : Nat) : Prop
  | own (outcome : outcome = some (.disconnected index)) (none : (relay.reading index).taken = [])
      (readable : (relay.world.net.link index).stream.isReadable = true)
  | dropped (source : Nat) (payload : Bytes) (outcome : outcome = some (.broadcast source payload))
      (apart : source ≠ index) (refused : (relay.world.net.link index).refusal? payload ≠ none)

theorem Leaves.unread {relay : Relay} {outcome : Option Outcome} {index : Nat}
    (leaves : Leaves relay outcome index) : takenFrom outcome index = [] := by
  cases leaves with
  | own outcome none readable =>
    rw [outcome]
    rfl
  | dropped source payload outcome apart refused =>
    rw [outcome]
    exact if_neg apart

theorem Served.leaves {relay after : Relay} {result : Except Fault Outcome} (sound : relay.Sound)
    (served : Served relay result after)
    (readable : ∀ source, result = .ok (.disconnected source) →
      (relay.world.net.link source).stream.isReadable = true)
    {index : Nat} (member : index ∈ relay.members) (leaves : index ∉ after.members) :
    Leaves relay result.toOption index := by
  cases served with
  | nothing => exact absurd member leaves
  | refused net log same => exact absurd member leaves
  | welcomed door first rest log bound queue addressed =>
    exact absurd (List.mem_append_left [first] member) leaves
  | misfit | forgone | unread => exact absurd member leaves
  | left source log inside none =>
    have same : source = index := by
      by_contra apart
      exact leaves ((sound.distinct.mem_erase_iff).mpr ⟨Ne.symm apart, member⟩)
    subst same
    exact .own rfl none (readable source rfl)
  | handedOn source payload log inside some full =>
    rw [mem_handing] at leaves
    have apart : source ≠ index := fun same => leaves ⟨member, .inl same.symm⟩
    refine .dropped source payload rfl apart fun took => leaves ⟨member, .inr ?_⟩
    simp [Link.drops, took]

section

variable {relay : Relay} (steady : relay.Steady) {move : Move} (stepping : move.isStepping = true)
  {index : Nat} (member : index ∈ relay.members)
include steady stepping member

theorem frame_leaves (leaves : index ∉ (relay.frame move).after.members) :
    Leaves (relay.frame move).awaited (relay.frame move).outcome? index ∧
      Stream.Taken [] ((relay.frame move).awaited.world.net.link index).stream
        ((relay.frame move).after.world.net.link index).stream := by
  cases move with
  | event event =>
    obtain ⟨_, stop, after⟩ := relay.frame_event event
    rw [after] at leaves
    exact absurd member leaves
  | step timeout =>
    have drift := await_drift steady.sound.os steady.script timeout
    have inside := drift.members.symm ▸ member
    have sound := drift.sound steady.sound
    rcases step_course steady.sound steady.script timeout with ⟨after, _⟩ | ⟨result, served, outcome⟩
    · exact absurd (after ▸ inside) leaves
    · have readable (source : Nat) (left : result = .ok (.disconnected source)) :
          ((Action.state (await timeout relay)).world.net.link source).stream.isReadable = true := by
        have same := outcome.symm.trans (relay.frame_step timeout).1
        refine step_disconnected steady ?_
        cases ran : Action.result (step timeout relay) with
        | ok found =>
          rw [ran, left] at same
          exact congrArg Except.ok (Option.some.inj same).symm
        | error fault =>
          rw [ran, left] at same
          cases same
      have course := served.leaves sound readable inside leaves
      exact ⟨outcome ▸ course, course.unread ▸ served.taken sound index⟩
  | bind => simp [Move.isStepping] at stepping
  | shutdown => simp [Move.isStepping] at stepping
  | close => simp [Move.isStepping] at stepping

end

/-- A member that leaves by its own read has nothing in its inbox. -/
theorem own_inbox {relay : Relay} (sound : relay.Sound) (suited : relay.Suited)
    (peaceful : relay.world.net.Peaceful) (size : 0 < relay.settings.recvSize) {index : Nat} (member : index ∈ relay.members)
    (none : (relay.reading index).taken = []) : (relay.world.net.link index).stream.inbox = [] := by
  have opened := (sound.alive index member).isOpen
  have taken : (relay.reading index).taken =
      (relay.world.net.link index).stream.inbox.take relay.settings.recvSize.toNat := by
    rw [reading, Link.read_ok _ suited.size]
    exact Stream.read_taken _ _ opened (peaceful index)
  rw [none] at taken
  rcases List.take_eq_nil_iff.mp taken.symm with zero | empty
  · omega
  · exact empty

/-- A client that is there and lets everything in does not leave. -/
theorem Leaves.unwilling {relay : Relay} {outcome : Option Outcome} {index : Nat}
    (leaves : Leaves relay outcome index) (sound : relay.Sound) (suited : relay.Suited)
    (peaceful : relay.world.net.Peaceful) (size : 0 < relay.settings.recvSize) (member : index ∈ relay.members) :
    ¬(relay.world.net.link index).stream.Willing := by
  intro willing
  cases leaves with
  | own outcome none readable =>
    have empty := own_inbox sound suited peaceful size member none
    simp [Stream.isReadable, empty, willing.far, (peaceful index).faults] at readable
  | dropped source payload outcome apart refused =>
    exact refused (Link.refusal?_willing _ payload (sound.alive index member).isOpen (peaceful index).faults willing)

theorem Served.settings {relay after : Relay} {result : Except Fault Outcome}
    (served : Served relay result after) : after.settings = relay.settings := by
  cases served <;> rfl

/-- A run of iterations and peaceful events on a platform that suits the relay, with reads of at least
one byte. -/
structure PeacefulRun (relay : Relay) (moves : List Move) : Prop where
  steady : relay.Steady
  suited : relay.Suited
  peaceful : relay.world.Peaceful
  size : 0 < relay.settings.recvSize
  stepping : ∀ move ∈ moves, move.isStepping = true
  system : ∀ move ∈ moves, move.Meets Event.AllOs
  calm : ∀ move ∈ moves, move.Meets Event.Peaceful

namespace PeacefulRun

variable {relay : Relay} {move : Move} {rest : List Move}

theorem tail (run : PeacefulRun relay (move :: rest)) : PeacefulRun (relay.frame move).after rest := by
  obtain ⟨goes, steps⟩ := List.forall_mem_cons.mp run.stepping
  obtain ⟨here, others⟩ := List.forall_mem_cons.mp run.system
  obtain ⟨first, later⟩ := List.forall_mem_cons.mp run.calm
  have settings : (relay.frame move).after.settings = relay.settings := by
    rcases stepping_cases run.steady.sound run.steady.script goes here with
      ⟨drift, _⟩ | ⟨result, drift, served, _⟩
    · exact drift.settings
    · exact served.settings.trans drift.settings
  exact ⟨run.steady.frame here, (frame_kept run.steady here).suited run.suited,
    frame_peaceful run.steady run.peaceful goes first, settings ▸ run.size, steps, others, later⟩

theorem drop {before : List Move} (run : PeacefulRun relay (before ++ rest)) :
    PeacefulRun (relay.afterAll before) rest := by
  induction before generalizing relay with
  | nil => exact run
  | cons move moves ih => exact ih run.tail

theorem front {before : List Move} (run : PeacefulRun relay (before ++ rest)) : PeacefulRun relay before :=
  ⟨run.steady, run.suited, run.peaceful, run.size, (List.forall_mem_append.mp run.stepping).1,
    (List.forall_mem_append.mp run.system).1, (List.forall_mem_append.mp run.calm).1⟩

/-- All that a client has sent by the end of a run was read or is still in the inbox. -/
theorem account {moves : List Move} (run : PeacefulRun relay moves) {index : Nat}
    (known : index < (relay.afterAll moves).world.net.linkCount) :
    relay.unread index ++ (relay.trace moves).flatMap (Frame.sentBy · index) =
      (relay.trace moves).flatMap (Frame.readFrom · index) ++
        ((relay.afterAll moves).world.net.link index).stream.inbox := by
  obtain ⟨lost, balance, why⟩ :=
    (run_ledger run.steady run.stepping run.system relay.unread_ledger).balance index known
  have last := afterAll_peaceful run.steady run.peaceful run.stepping run.system run.calm
  have none : lost = [] := by
    by_contra some
    exact (last.net index).far (why some).1
  rw [balance, none, List.append_nil, List.nil_append]

theorem stepped (run : PeacefulRun relay (move :: rest)) : move.isStepping = true :=
  run.stepping move (List.mem_cons_self ..)

/-- What the next frame of a run meets after its wait. -/
theorem awaited (run : PeacefulRun relay (move :: rest)) :
    (relay.frame move).awaited.Sound ∧ (relay.frame move).awaited.Suited ∧
      (relay.frame move).awaited.world.net.Peaceful ∧ 0 < (relay.frame move).awaited.settings.recvSize := by
  have drift := awaited_drift run.steady move
  have sound := run.steady.sound
  refine ⟨drift.sound sound, (drift.kept sound).suited run.suited, ?_, drift.settings ▸ run.size⟩
  cases move with
  | step timeout => exact (await_peaceful run.peaceful timeout).net
  | _ => exact run.peaceful.net

/-- A member that leaves does not let everything in; and if it leaves by its own read, nothing that it
sent is left. -/
theorem leaves (run : PeacefulRun relay (move :: rest)) {index : Nat} (member : index ∈ relay.members)
    (leaves : index ∉ (relay.frame move).after.members) :
    ¬((relay.frame move).awaited.world.net.link index).stream.Willing ∧
      (relay.frame move).readFrom index = [] ∧
      ((relay.frame move).outcome? = some (.disconnected index) ∧
          ((relay.frame move).after.world.net.link index).stream.inbox = [] ∨
        ∃ source payload, (relay.frame move).outcome? = some (.broadcast source payload) ∧ source ≠ index) := by
  obtain ⟨sound, suited, peaceful, size⟩ := run.awaited
  have inside := (awaited_drift run.steady move).members.symm ▸ member
  obtain ⟨course, taken⟩ := frame_leaves run.steady run.stepped member leaves
  refine ⟨course.unwilling sound suited peaceful size inside, course.unread, ?_⟩
  cases course with
  | own outcome none readable =>
    have empty := own_inbox sound suited peaceful size inside none
    rw [taken.inbox, List.nil_append] at empty
    exact .inl ⟨outcome, empty⟩
  | dropped source payload outcome apart refused => exact .inr ⟨source, payload, outcome, apart⟩

/-- A member whose client is there and lets everything in stays, and takes all that it is handed. -/
theorem willing {moves : List Move} (run : PeacefulRun relay moves) {index : Nat}
    (member : index ∈ relay.members)
    (willing : ∀ frame ∈ relay.trace moves, (frame.awaited.world.net.link index).stream.Willing) :
    index ∈ (relay.afterAll moves).members ∧ stint index (relay.trace moves) = relay.trace moves ∧
      ∀ frame ∈ relay.trace moves, frame.takesAll index = true := by
  induction moves generalizing relay with
  | nil => exact ⟨member, rfl, fun frame inside => absurd inside List.not_mem_nil⟩
  | cons move rest ih =>
    obtain ⟨now, later⟩ := List.forall_mem_cons.mp willing
    have stays : index ∈ (relay.frame move).after.members := by
      by_contra leaves
      exact (run.leaves member leaves).1 now
    obtain ⟨final, whole, takes⟩ := ih run.tail stays later
    refine ⟨final, ?_, List.forall_mem_cons.mpr ⟨?_, takes⟩⟩
    · have first : stint index (relay.trace (move :: rest)) =
          relay.frame move :: stint index ((relay.frame move).after.trace rest) :=
        List.takeWhile_cons_of_pos (decide_eq_true member)
      rw [first, whole]
      rfl
    · obtain ⟨sound, _, peaceful, _⟩ := run.awaited
      have inside := (awaited_drift run.steady move).members.symm ▸ member
      unfold Frame.takesAll
      split
      next payload meant =>
        rw [Link.refusal?_willing _ payload (sound.alive index inside).isOpen (peaceful index).faults now]
        simp
      · rfl

end PeacefulRun

theorem bind_peaceful {relay after : Relay} (sound : relay.Sound) (lower : 0 ≤ relay.listener.port)
    (upper : relay.listener.port ≤ 65535) (peaceful : relay.world.Peaceful)
    (bound : bind relay = .ok () after) :
    after.world.Peaceful ∧ after.settings = relay.settings := by
  obtain ⟨net, log, own, added, state⟩ := bind_state sound lower upper
  rw [bound, Action.state_ok] at state
  subst state
  exact ⟨⟨fun index => added.link index ▸ peaceful.net index, peaceful.script⟩, rfl⟩

/-- Last words.  No stream is made to fail, and clients only connect, send and close.  Then of all that a
member's client has sent until the member leaves, a link that came in before, and whose client stays and
lets everything in, has been handed what was not read before it came, but for what the member leaves
unread.  That is nothing if the member leaves by its own read; and it leaves in no other way than by a
fan-out from another member, when it has closed or does not let everything in. -/
theorem lastWords_of_run (settings : RelaySettings) (world : World) (relay : Relay) (moves : List Move)
    (size : 0 < settings.recvSize) (suited : (ofSettings settings world).Suited) (os : world.AllOs)
    (peaceful : world.Peaceful) (bound : bind (ofSettings settings world) = .ok () relay)
    (stepping : ∀ move ∈ moves, move.isStepping = true)
    (system : ∀ move ∈ moves, move.Meets Event.AllOs)
    (calm : ∀ move ∈ moves, move.Meets Event.Peaceful) (earlier between later : List Frame)
    (join leave : Frame) (index other : Nat)
    (split : relay.trace moves = earlier ++ join :: (between ++ leave :: later))
    (accepted : join.accepted? = some index)
    (stays : ∀ frame ∈ between, (frame.awaited.world.net.link index).stream.Willing)
    (leaves : other ∈ leave.before.members ∧ other ∉ leave.after.members) (apart : other ≠ index) :
    let unread := (leave.after.world.net.link other).stream.inbox
    index ∈ leave.before.members ∧
    leave.before.written index = joined (deliveries index between) ∧
    relay.unread other ++ (earlier ++ join :: (between ++ [leave])).flatMap (Frame.sentBy · other) =
      earlier.flatMap (Frame.readFrom · other) ++
        (joined ((deliveries index between).filter (·.1 == other)) ++ unread) ∧
    (leave.outcome? = some (.disconnected other) ∧ unread = [] ∨
      ∃ source payload, leave.outcome? = some (.broadcast source payload) ∧ source ≠ other ∧
        ¬(leave.awaited.world.net.link other).stream.Willing) := by
  intro unread
  obtain ⟨start, after⟩ := bound_frame suited.ends os bound
  have binds : Move.bind.Meets Event.AllOs := trivial
  obtain ⟨world, same⟩ := bind_peaceful start.sound start.lower start.upper peaceful bound
  have run : PeacefulRun relay moves :=
    ⟨after ▸ start.frame binds, after ▸ (frame_kept start binds).suited suited, world, same ▸ size, stepping,
      system, calm⟩
  obtain ⟨before, move, rest, rfl, rfl, rfl, tail⟩ := trace_split split
  obtain ⟨mid, last, final, rfl, rfl, rfl, rfl⟩ := trace_split tail.symm
  have middle := run.drop
  have inner := middle.tail
  obtain ⟨member, blank⟩ :=
    frame_joined middle.steady middle.stepped (middle.system move (List.mem_cons_self ..)) accepted
  -- The link that came in stays up to the frame in which the other one leaves.
  obtain ⟨remains, whole, takes⟩ := inner.front.willing member stays
  have written := delivered_run inner.steady inner.front.stepping inner.front.system member takes
  rw [whole, blank, List.nil_append] at written
  have silent : ((relay.afterAll before).frame move).readFrom other = [] := accepted_reads accepted other
  obtain ⟨unwilling, nothing, course⟩ := inner.drop.leaves leaves.1 leaves.2
  refine ⟨remains, written, ?_, ?_⟩
  · have upTo : before ++ move :: (mid ++ last :: final) = (before ++ move :: (mid ++ [last])) ++ final := by
      simp
    have part : PeacefulRun relay (before ++ move :: (mid ++ [last])) := (upTo ▸ run).front
    have frames : relay.trace (before ++ move :: (mid ++ [last])) = relay.trace before ++
        (relay.afterAll before).frame move :: (((relay.afterAll before).frame move).after.trace mid ++
          [(((relay.afterAll before).frame move).after.afterAll mid).frame last]) := by
      rw [trace_append, trace, trace_append]
      rfl
    have final : relay.afterAll (before ++ move :: (mid ++ [last])) =
        ((((relay.afterAll before).frame move).after.afterAll mid).frame last).after := by
      rw [afterAll_append, Relay.afterAll, afterAll_append]
      rfl
    have gone := (frame_kept inner.drop.steady (inner.drop.system last (List.mem_cons_self ..))).fate
      other leaves.1
    have account := part.account (final ▸ (gone.resolve_left leaves.2).known)
    rw [frames, final] at account
    rw [account, joined_from apart]
    simp only [List.flatMap_append, List.flatMap_cons, nothing, silent, List.flatMap_nil, List.append_nil,
      List.nil_append, List.append_assoc]
    rfl
  · rcases course with own | ⟨source, payload, outcome, apart⟩
    · exact .inl own
    · exact .inr ⟨source, payload, outcome, apart, unwilling⟩

theorem blank_peaceful : World.Peaceful {} where
  net := fun _ => ⟨rfl, FarEnd.noConfusion⟩
  script := fun _ found => nomatch found

/-- Three clients connect, and two of them come in. -/
def twoComers : List Move :=
  [.event (.connect "bob" none none none none), .event (.connect "ann" none none none none),
    .event (.connect "cy" none none none none), .step none, .step none]

/-- The second client sends and is read, sends again and closes, and is read once more. -/
def farewell : List Move :=
  [.event (.send "ann" [1]), .step none, .event (.send "ann" [2, 3]), .event (.close "ann"), .step none]

theorem lastWords_of_farewell :
    let relay := Action.state (bind (ofSettings plainSettings {}))
    let join := (relay.afterAll twoComers).frame (.step none)
    let between := join.after.trace farewell
    let leave := (join.after.afterAll farewell).frame (.step none)
    join.accepted? = some 2 ∧ leave.outcome? = some (.disconnected 1) ∧
      leave.before.written 2 = [1, 2, 3] ∧
      relay.unread 1 ++ (relay.trace twoComers ++ join :: (between ++ [leave])).flatMap (Frame.sentBy · 1) =
        (relay.trace twoComers).flatMap (Frame.readFrom · 1) ++
          (joined ((deliveries 2 between).filter (·.1 == 1)) ++
            (leave.after.world.net.link 1).stream.inbox) := by
  intro relay join between leave
  let moves := twoComers ++ .step none :: (farewell ++ [.step none])
  have accepted : join.accepted? = some 2 := by decide +kernel
  have there : ∀ frame ∈ between, (frame.awaited.world.net.link 2).stream.far = .opened ∧
      (frame.awaited.world.net.link 2).stream.window = none := by decide +kernel
  have split : relay.trace moves = relay.trace twoComers ++ join :: (between ++ [leave]) := by
    rw [trace_append, trace, trace_append]
    rfl
  obtain ⟨_, _, account, _⟩ := lastWords_of_run plainSettings {} relay moves (by decide)
    (suited_of_blank rfl) blank_allOs blank_peaceful (by rfl) (by decide)
    (by simp [moves, twoComers, farewell, Move.Meets, Event.AllOs])
    (by simp [moves, twoComers, farewell, Move.Meets, Event.Peaceful])
    (relay.trace twoComers) between [] join leave 2 1 split accepted
    (fun frame member => ⟨(there frame member).1, (there frame member).2⟩)
    (by decide +kernel) (by decide)
  exact ⟨accepted, by decide +kernel, by decide +kernel, account⟩

/-- The second client sends before the third one comes in, sends again and closes; then the first one
sends, and is the first to be read. -/
def lateWords : List Move :=
  [.event (.send "ann" [1]), .step none, .event (.connect "cy" none none none none), .step none,
    .event (.send "ann" [2]), .event (.close "ann"), .event (.send "bob" [9]), .step none]

/-- What a client sent before another one came in does not reach that one; and what it sent before it
closed reaches nobody when a write to it comes before the read. -/
theorem lastWords_lost :
    let relay := (Action.state (bind (ofSettings plainSettings {}))).afterAll
      [.event (.connect "bob" none none none none), .event (.connect "ann" none none none none),
        .step none, .step none]
    (∀ move ∈ lateWords, move.isStepping = true ∧ move.Meets Event.Peaceful) ∧
      (relay.afterAll (lateWords.take 6)).members = [0, 1, 2] ∧
      (relay.trace lateWords).flatMap (Frame.sentBy · 1) = [1, 2] ∧
      (relay.afterAll lateWords).members = [0, 2] ∧
      (∀ index ∈ [0, 2], ((relay.afterAll lateWords).world.net.link index).stream.far = .opened ∧
        ((relay.afterAll lateWords).world.net.link index).stream.window = none) ∧
      (relay.afterAll lateWords).written 0 = [1] ∧ (relay.afterAll lateWords).written 2 = [9] := by
  intro relay
  refine ⟨?_, by decide +kernel, by decide +kernel, by decide +kernel, by decide +kernel, by decide +kernel,
    by decide +kernel⟩
  simp [lateWords, Move.isStepping, Move.Meets, Event.Peaceful]

end Relay
end RelayBench
