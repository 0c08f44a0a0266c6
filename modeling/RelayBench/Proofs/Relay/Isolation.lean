import Mathlib.Data.List.Forall2
import RelayBench.Proofs.Net.Twin
import RelayBench.Proofs.Relay.Integrity

/-! What one recipient does to the writes of a relay shows at no other link.  Two runs are compared that
differ only in how one link, which never becomes readable, takes what is written to it: it may stall in
one of them and be dropped in the other. -/
namespace RelayBench
namespace Net

theorem Twin.applyAll {index : Nat} {net other : Net} (twin : Twin index net other) (events : List Event) :
    Twin index (net.applyAll events) (other.applyAll events) := by
  induction events generalizing net other with
  | nil => exact twin
  | cons event rest ih => exact ih (twin.apply event)

end Net

/-- Two worlds whose networks differ in one link at most, and in which the same is to come. -/
structure World.Twin (index : Nat) (world other : World) : Prop where
  net : Net.Twin index world.net other.net
  script : other.script = world.script
  order : other.order = world.order

namespace World.Twin

variable {index : Nat} {world other : World} (twin : World.Twin index world other)
include twin

theorem upcoming : other.upcoming = world.upcoming := by
  simp only [World.upcoming, twin.net.faults, twin.script]

theorem remaining : other.remaining = world.remaining := by
  simp only [World.remaining, twin.net.faults, twin.script]

theorem advances : other.advances = world.advances := by
  simp only [World.advances, twin.net.faults, twin.script]

theorem cutShort : other.cutShort = world.cutShort := by
  simp only [World.cutShort, twin.net.faults, twin.script]

theorem settled : Net.Twin index world.settled other.settled := by
  rw [World.settled, World.settled, twin.upcoming]
  exact (twin.net.called .select).applyAll world.upcoming

end World.Twin

namespace Readiness

/-- The links of a watch set, one left out. -/
def sift (index : Nat) (watched : List Watched) : List Watched :=
  watched.filter fun thing => thing != .link index

variable {index : Nat} {world other : World} {watched others : List Watched}

theorem filter_ready_sift {net : Net} (deaf : .link index ∈ watched → (net.link index).stream.isReadable = false) :
    watched.filter (Watched.isReady net) = (sift index watched).filter (Watched.isReady net) := by
  rw [sift, List.filter_filter]
  refine List.filter_congr fun thing member => ?_
  by_cases own : thing = .link index
  · subst own
    simp [Watched.isReady, deaf member]
  · simp [own]

theorem ready_twin (twin : World.Twin index world other) (same : sift index others = sift index watched)
    (deaf : .link index ∈ watched → (world.net.link index).stream.isReadable = false)
    (deaf' : .link index ∈ others → (other.net.link index).stream.isReadable = false) :
    ready other others = ready world watched := by
  have found : others.filter (Watched.isReady other.net) = watched.filter (Watched.isReady world.net) := by
    rw [filter_ready_sift deaf, filter_ready_sift deaf', same]
    refine List.filter_congr fun thing member => ?_
    cases thing with
    | door door => simp [Watched.isReady, Net.hasCaller, twin.net.door, twin.net.faults]
    | link link =>
      have apart : link ≠ index := by simpa [sift] using (List.mem_filter.mp member).2
      simp [Watched.isReady, twin.net.links link apart]
  simp only [ready, found, twin.order]

theorem verdict_twin (timeout : Option Number) {after last : World} (twin : World.Twin index world other)
    (later : World.Twin index after last) (same : sift index others = sift index watched)
    (deaf : .link index ∈ watched → (after.net.link index).stream.isReadable = false)
    (deaf' : .link index ∈ others → (last.net.link index).stream.isReadable = false) :
    verdict timeout others other last = verdict timeout watched world after := by
  simp only [verdict, ready_twin later same deaf deaf', twin.net.faults, twin.cutShort, twin.advances,
    twin.script]

theorem arrange_sift {members : List Nat} {reported : List Watched} (apart : .link index ∉ reported) :
    arrange members reported = arrange (members.filter (· != index)) reported := by
  rw [arrange, arrange, List.filter_filter]
  congr 2
  refine List.filter_congr fun link _ => ?_
  by_cases own : link = index
  · subst own
    simpa using apart
  · simp [own]

end Readiness

namespace Relay

open Readiness (sift verdict arrange)

/-- Two relays that differ in one link at most: in whether it is a member, and in what it has taken. -/
structure Twin (index : Nat) (relay other : Relay) : Prop where
  settings : other.settings = relay.settings
  listener : other.listener = relay.listener
  members : other.room.others index = relay.room.others index
  world : World.Twin index relay.world other.world

namespace Twin

variable {index : Nat} {relay other third : Relay}

theorem refl (index : Nat) (relay : Relay) : Twin index relay relay :=
  ⟨rfl, rfl, rfl, ⟨.refl index _, rfl, rfl⟩⟩

theorem symm (twin : Twin index relay other) : Twin index other relay :=
  ⟨twin.settings.symm, twin.listener.symm, twin.members.symm,
    ⟨twin.world.net.symm, twin.world.script.symm, twin.world.order.symm⟩⟩

theorem trans (early : Twin index relay other) (late : Twin index other third) : Twin index relay third :=
  ⟨late.settings.trans early.settings, late.listener.trans early.listener,
    late.members.trans early.members,
    ⟨early.world.net.trans late.world.net, late.world.script.trans early.world.script,
      late.world.order.trans early.world.order⟩⟩

end Twin

/-- A link that, where it is a member, has nothing to read. -/
def Deaf (index : Nat) (relay : Relay) : Prop :=
  index ∈ relay.members → (relay.world.net.link index).stream.isReadable = false

/-- Two runs of an action that come to the same and leave relays that differ in one link at most. -/
structure Agree {α : Type} (index : Nat) (ran other : EStateM.Result Fault Relay α) : Prop where
  result : Action.result other = Action.result ran
  state : Twin index (Action.state ran) (Action.state other)

theorem Agree.bind {α β : Type} {index : Nat} {relay other : Relay} {first : RelayCall α}
    {next : α → RelayCall β} (agree : Agree index (first relay) (first other))
    (rest : ∀ a middle final, first relay = .ok a middle → first other = .ok a final →
      Twin index middle final → Agree index (next a middle) (next a final)) :
    Agree index ((first >>= next) relay) ((first >>= next) other) := by
  obtain ⟨result, state⟩ := agree
  cases ran : first relay with
  | ok a middle =>
    cases ran' : first other with
    | ok b final =>
      rw [ran, ran'] at result state
      cases result
      rw [Action.bind_ok ran, Action.bind_ok ran']
      exact rest a middle final ran ran' state
    | error fault final => simp [ran, ran'] at result
  | error fault middle =>
    cases ran' : first other with
    | ok b final => simp [ran, ran'] at result
    | error raised final =>
      rw [ran, ran'] at result state
      cases result
      rw [Action.bind_error ran, Action.bind_error ran']
      exact ⟨rfl, state⟩

theorem sift_watch {index : Nat} {relay other : Relay}
    (members : other.room.others index = relay.room.others index) (door : Nat) :
    sift index (.door door :: other.members.map .link) =
      sift index (.door door :: relay.members.map .link) := by
  have sifted (members : List Nat) : sift index (.door door :: members.map .link) =
      .door door :: (members.filter (· != index)).map .link := by
    rw [sift, List.filter_cons_of_pos (by simp), List.filter_map]
    congr 2
    exact List.filter_congr fun link _ => by rw [Bool.eq_iff_iff]; simp
  rw [sifted, sifted]
  exact congrArg (fun members => Watched.door door :: members.map Watched.link) members

/-- The two waits of an iteration come to the same, as long as the one link has nothing to read where it
is a member. -/
theorem await_twin {index : Nat} {relay other : Relay} (twin : Twin index relay other)
    (sound : relay.Sound) (sound' : other.Sound) (timeout : Option Number)
    (deaf : (Action.state (await timeout relay)).Deaf index)
    (deaf' : (Action.state (await timeout other)).Deaf index) :
    Agree index (await timeout relay) (await timeout other) := by
  cases bound : relay.listener.door with
  | none =>
    have failed := enter_unbound bound timeout
    have failed' := enter_unbound (twin.listener ▸ bound : other.listener.door = none) timeout
    rw [await, Action.bind_error failed, Action.bind_error failed', twin.settings]
    exact ⟨rfl, twin⟩
  | some door =>
    have bound' : other.listener.door = some door := twin.listener ▸ bound
    obtain ⟨world, left, waited, order, result⟩ := await_eq (sound.watches bound) timeout
    obtain ⟨last, left', waited', order', result'⟩ := await_eq (sound'.watches bound') timeout
    have later : World.Twin index world last := by
      refine ⟨?_, ?_, ?_⟩
      · rw [waited.net, waited'.net]
        exact twin.world.settled
      · rw [waited.script, waited'.script, twin.world.remaining]
      · rw [order, order', twin.world.order]
    rw [left] at deaf
    rw [left'] at deaf'
    have quiet : index ∈ relay.members → (world.net.link index).stream.isReadable = false := deaf
    have quiet' : index ∈ other.members → (last.net.link index).stream.isReadable = false := deaf'
    have same := Readiness.verdict_twin timeout twin.world later (sift_watch twin.members door)
      (fun member => quiet (by simpa using member)) (fun member => quiet' (by simpa using member))
    refine ⟨?_, ?_⟩
    · rw [result, result', same]
      cases reports : verdict timeout (.door door :: relay.members.map .link) relay.world world with
      | error fault => rfl
      | ok found =>
        have apart : .link index ∉ found := by
          intro member
          obtain ⟨watched, readable⟩ := Readiness.mem_of_ready (Readiness.verdict_ready reports ▸ member)
          have unreadable := quiet (by simpa using watched)
          exact absurd readable (by simpa [Watched.isReady] using unreadable)
        have members := twin.members
        simp only [Room.others] at members
        show Except.ok (arrange other.room.members found) = Except.ok (arrange relay.room.members found)
        rw [Readiness.arrange_sift apart, members, ← Readiness.arrange_sift apart]
    · rw [left, left']
      exact ⟨twin.settings, twin.listener, twin.members, later⟩

theorem taking_twin {index : Nat} {relay other : Relay} (twin : Twin index relay other) (door first : Nat)
    (rest : List Nat) :
    Net.Twin index (relay.taking door first rest) (other.taking door first rest) := by
  rw [taking, taking, twin.listener, twin.world.net.platform]
  exact ((twin.world.net.called .accept).updateDoor door _).updateLink first _
    (fun link => link.adopt_client ..) (fun link => (link.adopt_taken ..).address)

theorem put_twin {index : Nat} {relay other : Relay} (twin : Twin index relay other)
    {members members' : List Nat} (same : members'.filter (· != index) = members.filter (· != index))
    {net net' : Net} (nets : Net.Twin index net net') (log log' : List Entry) :
    Twin index (relay.put members net log) (other.put members' net' log') :=
  ⟨twin.settings, twin.listener, same, nets, twin.world.script, twin.world.order⟩

theorem welcome_twin {index : Nat} {relay other : Relay} (twin : Twin index relay other)
    (sound : relay.Sound) (sound' : other.Sound) {door : Nat} (bound : relay.listener.door = some door) :
    Agree index (welcome .foreground relay) (welcome .foreground other) := by
  have bound' : other.listener.door = some door := twin.listener ▸ bound
  have moved := relay.world.net.accept_links other.world.net.links .foreground door
  rw [← twin.world.net.eq_links] at moved
  rcases relay.world.net.accept_cases sound.os .foreground door with
    ⟨fault, after, failed, system, same⟩ | ⟨first, rest, opened, queue, taken⟩
  · rw [failed] at moved
    obtain ⟨log, ran⟩ := welcome_refused bound failed system
    obtain ⟨log', ran'⟩ := welcome_refused bound' moved system
    rw [ran, ran']
    refine ⟨rfl, put_twin twin twin.members ?_ log log'⟩
    rcases same with rfl | rfl
    · exact twin.world.net.eq_links ▸ twin.world.net
    · exact twin.world.net.eq_links ▸ twin.world.net.called .accept
  · rw [taken] at moved
    have taken' : Net.accept .foreground door other.world.net = .ok first
        ((other.world.net.called .accept).updateDoor door fun d => { d with pending := rest }) := by
      rw [moved, twin.world.net.eq_links]
      rfl
    have nets := taking_twin twin door first rest
    have address := twin.world.net.addresses first
    have same : other.adoption first = relay.adoption first := by
      rw [adoption, adoption, twin.listener, twin.world.net.platform]
      exact Link.adopt_congr address
    cases adopted : relay.adoption first with
    | error fault =>
      cases system : fault.isOs with
      | false =>
        rw [welcome_misfit bound taken adopted system, welcome_misfit bound' taken' (same.trans adopted) system]
        exact ⟨rfl, put_twin twin twin.members nets _ _⟩
      | true =>
        obtain ⟨log, ran⟩ := welcome_forgone bound taken adopted system
        obtain ⟨log', ran'⟩ := welcome_forgone bound' taken' (same.trans adopted) system
        rw [ran, ran']
        exact ⟨rfl, put_twin twin twin.members nets _ _⟩
    | ok done =>
      have queue' : (other.world.net.door door).pending = first :: rest :=
        (congrArg Door.pending (twin.world.net.door door)).trans queue
      obtain ⟨live, outside, _⟩ := sound.fresh first (by simp [waiting, bound, queue])
      obtain ⟨live', outside', _⟩ := sound'.fresh first (by simp [waiting, bound', queue'])
      obtain ⟨log, ran⟩ := welcome_joined bound taken adopted outside live.closed
      obtain ⟨log', ran'⟩ := welcome_joined bound' taken' (same.trans adopted) outside' live'.closed
      have members := twin.members
      simp only [Room.others] at members
      have joined : (other.members ++ [first]).filter (· != index) =
          (relay.members ++ [first]).filter (· != index) := by
        rw [List.filter_append, List.filter_append]
        exact congrArg (· ++ _) members
      obtain ⟨settings, listener, others, world⟩ := put_twin twin joined nets log log'
      rw [ran, ran']
      exact ⟨rfl, settings, listener, others, world⟩

section

variable {index source : Nat} {relay : Relay} (sound : relay.Sound) (apart : source ≠ index)
include sound apart

theorem handing_client (payload : Bytes) (log : List Entry) :
    ((relay.handing source payload log).world.net.link index).stream.client =
      (relay.world.net.link index).stream.client := by
  rw [handing_link sound, if_neg (Ne.symm apart)]
  split
  · exact Link.served_client _ _ (sound.os.links index)
  · rfl

theorem handing_address (payload : Bytes) (log : List Entry) :
    ((relay.handing source payload log).world.net.link index).stream.address =
      (relay.world.net.link index).stream.address := by
  rw [handing_link sound, if_neg (Ne.symm apart)]
  split
  · exact (Link.served_taken _ _ (sound.os.links index)).address
  · rfl

end

section

variable {index : Nat} {relay other : Relay} (twin : Twin index relay other) {source : Nat}
  (apart : source ≠ index)
include twin

theorem mem_twin {link : Nat} (apart : link ≠ index) : link ∈ other.members ↔ link ∈ relay.members := by
  have same : link ∈ other.room.others index ↔ link ∈ relay.room.others index := by rw [twin.members]
  simpa [Room.others, apart, members] using same

theorem readNet_twin (source : Nat) : Net.Twin index (relay.readNet source) (other.readNet source) := by
  rw [readNet, readNet, twin.settings, twin.world.net.platform]
  exact twin.world.net.updateLink source _ (fun link => Link.side_client (link.read_side ..))
    (fun link => Link.side_address (link.read_side ..))

theorem survivors_twin (source : Nat) (payload : Bytes) :
    (FanOut.survivors payload source other.room).filter (· != index) =
      (FanOut.survivors payload source relay.room).filter (· != index) := by
  have members := twin.members
  simp only [Room.others] at members
  rw [FanOut.survivors, FanOut.survivors, List.filter_comm, List.filter_comm (· != index), members]
  refine List.filter_congr fun link member => ?_
  have apart : link ≠ index := by simpa using (List.mem_filter.mp member).2
  have same : other.room.link link = relay.room.link link := twin.world.net.links link apart
  rw [same]

theorem parting_twin (sound : relay.Sound) (sound' : other.Sound) (log log' : List Entry) :
    Twin index (relay.parting source log) (other.parting source log') := by
  have members := twin.members
  simp only [Room.others] at members
  have left : (other.members.erase source).filter (· != index) =
      (relay.members.erase source).filter (· != index) := by
    rw [sound.distinct.erase_eq_filter, sound'.distinct.erase_eq_filter, List.filter_comm,
      List.filter_comm (· != index)]
    exact congrArg (List.filter (· != source)) members
  have nets := (readNet_twin twin source).updateLink source (fun link => link.close.2)
    Link.close_client (fun link => link.close_taken.address)
  obtain ⟨settings, listener, others, world⟩ := put_twin twin left nets log log'
  exact ⟨settings, listener, others, world⟩

include apart

theorem reading_twin : other.reading source = relay.reading source := by
  rw [reading, reading, twin.settings, twin.world.net.platform, twin.world.net.links source apart]

theorem handing_twin (sound : relay.Sound) (sound' : other.Sound) (payload : Bytes) (log log' : List Entry) :
    Twin index (relay.handing source payload log) (other.handing source payload log') := by
  refine ⟨twin.settings, twin.listener, survivors_twin twin source payload, ⟨?_, fun link differs => ?_, ?_, ?_⟩,
    twin.world.script, twin.world.order⟩
  · exact twin.world.net.besides
  · rw [handing_link sound, handing_link sound', twin.settings, twin.world.net.platform,
      twin.world.net.links link differs, twin.world.net.links source apart]
    simp only [mem_twin twin differs]
  · rw [handing_client sound apart, handing_client sound' apart, twin.world.net.client]
  · rw [handing_address sound apart, handing_address sound' apart, twin.world.net.address]

theorem received_twin (sound : relay.Sound) (sound' : other.Sound) (member : source ∈ relay.members) :
    Agree index ((readMember source >>= received source) relay)
      ((readMember source >>= received source) other) := by
  have member' : source ∈ other.members := (mem_twin twin apart).mpr member
  have reading := reading_twin twin apart
  by_cases copes : relay.Copes source
  · have copes' : other.Copes source := fun fault fails => copes fault (reading.symm.trans fails)
    by_cases none : (relay.reading source).taken = []
    · obtain ⟨log, ran⟩ := received_left sound member none copes
      obtain ⟨log', ran'⟩ := received_left sound' member' (reading ▸ none) copes'
      rw [ran, ran']
      exact ⟨rfl, parting_twin twin sound sound' log log'⟩
    · cases some : relay.reading source with
      | bytes payload =>
        have full : payload ≠ [] := by simpa [some, Reading.taken] using none
        obtain ⟨log, ran⟩ := received_handed sound some full
        obtain ⟨log', ran'⟩ := received_handed sound' (reading.trans some) full
        rw [ran, ran']
        exact ⟨rfl, handing_twin twin apart sound sound' payload log log'⟩
      | nothing => simp [some, Reading.taken] at none
      | fault fault => simp [some, Reading.taken] at none
  · obtain ⟨fault, fails, foreign⟩ := relay.not_copes copes
    rw [received_unread fails foreign, received_unread (reading.trans fails) foreign]
    exact ⟨rfl, put_twin twin twin.members (readNet_twin twin source) _ _⟩

end

/-- Two iterations come to the same, as long as the one link has nothing to read where it is a member. -/
theorem step_twin {index : Nat} {relay other : Relay} (twin : Twin index relay other)
    (steady : relay.Steady) (steady' : other.Steady) (timeout : Option Number)
    (deaf : (Action.state (await timeout relay)).Deaf index)
    (deaf' : (Action.state (await timeout other)).Deaf index) :
    Agree index (step timeout relay) (step timeout other) := by
  rw [step_eq]
  refine (await_twin twin steady.sound steady'.sound timeout deaf deaf').bind
    fun ready middle final waited waited' later => ?_
  have drift := await_drift steady.sound.os steady.script timeout
  have drift' := await_drift steady'.sound.os steady'.script timeout
  rw [waited, Action.state_ok] at deaf drift
  rw [waited', Action.state_ok] at drift'
  have sound := drift.sound steady.sound
  have sound' := drift'.sound steady'.sound
  rcases ready with _ | ⟨_ | source, rest⟩
  · exact ⟨rfl, later⟩
  · obtain ⟨door, bound⟩ := await_bound waited
    exact welcome_twin later sound sound' bound
  · obtain ⟨member, readable⟩ := await_readable steady.sound waited (List.mem_cons_self ..)
    have apart : source ≠ index := by
      rintro rfl
      exact absurd readable (by simp [deaf member])
    exact received_twin later apart sound sound' member

end Relay

namespace Frame

/-- Whether the frame is an event that only writes to a link, and its closing, can tell. -/
def tunes (frame : Frame) (index : Nat) : Bool :=
  match frame.move with
  | .event event => frame.before.world.net.tunes index event
  | _ => false

/-- Two frames that show the same to all but one link: the same move and the same result, the same
bytes to every other link, and the same other members in the same order. -/
structure Alike (index : Nat) (frame other : Frame) : Prop where
  move : other.move = frame.move
  result : other.result = frame.result
  written : ∀ link, link ≠ index → other.before.written link = frame.before.written link ∧
    other.after.written link = frame.after.written link
  members : other.after.members.filter (· != index) = frame.after.members.filter (· != index)

end Frame

namespace Relay

theorem Twin.written {index : Nat} {relay other : Relay} (twin : Twin index relay other) {link : Nat}
    (apart : link ≠ index) : other.written link = relay.written link := by
  rw [Relay.written, Relay.written, twin.world.net.links link apart]

theorem perform_twin {index : Nat} {relay other : Relay} (twin : Twin index relay other)
    (steady : relay.Steady) (steady' : other.Steady) {move : Move} (stepping : move.isStepping = true)
    (deaf : (relay.frame move).awaited.Deaf index) (deaf' : (other.frame move).awaited.Deaf index) :
    Agree index (perform move relay) (perform move other) := by
  cases move with
  | event event =>
    cases loud : event.interrupts with
    | true =>
      rw [perform_interrupt relay loud, perform_interrupt other loud]
      exact ⟨rfl, twin⟩
    | false =>
      rw [perform_event relay loud, perform_event other loud]
      exact ⟨rfl, twin.settings, twin.listener, twin.members,
        ⟨twin.world.net.apply event, twin.world.script, twin.world.order⟩⟩
  | step timeout =>
    exact (step_twin twin steady steady' timeout deaf deaf').bind fun _ _ _ _ _ later => ⟨rfl, later⟩
  | bind => simp [Move.isStepping] at stepping
  | shutdown => simp [Move.isStepping] at stepping
  | close => simp [Move.isStepping] at stepping

theorem frame_alike {index : Nat} {relay other : Relay} (twin : Twin index relay other) {move : Move}
    (agree : Agree index (perform move relay) (perform move other)) :
    Frame.Alike index (relay.frame move) (other.frame move) :=
  ⟨rfl, agree.result, fun _ apart => ⟨twin.written apart, agree.state.written apart⟩, agree.state.members⟩

theorem tuned_twin {index : Nat} {relay : Relay} {move : Move} (tunes : (relay.frame move).tunes index = true) :
    Twin index relay (relay.frame move).after := by
  cases move with
  | event event =>
    obtain ⟨_, stop, after⟩ := relay.frame_event event
    rw [after]
    exact ⟨rfl, rfl, rfl, ⟨Net.tunes_twin tunes, rfl, rfl⟩⟩
  | _ => simp [Frame.tunes, frame] at tunes

/-- The frames of a run that are not for one link alone. -/
def visible (index : Nat) (frames : List Frame) : List Frame :=
  frames.filter fun frame => !frame.tunes index

/-- A run of iterations and events in which one link has nothing to read while it is a member. -/
structure DeafRun (index : Nat) (relay : Relay) (moves : List Move) : Prop where
  steady : relay.Steady
  stepping : ∀ move ∈ moves, move.isStepping = true
  system : ∀ move ∈ moves, move.Meets Event.AllOs
  deaf : ∀ frame ∈ relay.trace moves, frame.awaited.Deaf index

theorem DeafRun.tail {index : Nat} {relay : Relay} {move : Move} {rest : List Move}
    (run : DeafRun index relay (move :: rest)) : DeafRun index (relay.frame move).after rest where
  steady := run.steady.frame (run.system move (List.mem_cons_self ..))
  stepping := fun next member => run.stepping next (List.mem_cons_of_mem _ member)
  system := fun next member => run.system next (List.mem_cons_of_mem _ member)
  deaf := fun next member => run.deaf next (List.mem_cons_of_mem _ member)

/-- Up to the first frame that others see, a run changes one link only. -/
theorem visible_split {index : Nat} {relay : Relay} {moves : List Move} (run : DeafRun index relay moves)
    {move : Move} {seen : List Move}
    (shows : (visible index (relay.trace moves)).map Frame.move = move :: seen) :
    ∃ middle rest, Twin index relay middle ∧ DeafRun index middle (move :: rest) ∧
      visible index (relay.trace moves) =
        middle.frame move :: visible index ((middle.frame move).after.trace rest) := by
  induction moves generalizing relay with
  | nil => simp [visible, trace] at shows
  | cons first rest ih =>
    by_cases tunes : (relay.frame first).tunes index = true
    · have hidden : visible index (relay.trace (first :: rest)) =
          visible index ((relay.frame first).after.trace rest) :=
        List.filter_cons_of_neg (by simp [tunes])
      rw [hidden] at shows
      obtain ⟨middle, later, twin, runs, split⟩ := ih run.tail shows
      exact ⟨middle, later, (tuned_twin tunes).trans twin, runs, hidden.trans split⟩
    · have shown : visible index (relay.trace (first :: rest)) =
          relay.frame first :: visible index ((relay.frame first).after.trace rest) :=
        List.filter_cons_of_pos (by simpa using tunes)
      rw [shown] at shows
      obtain rfl : first = move := (List.cons.inj shows).1
      exact ⟨relay, rest, .refl index relay, run, shown⟩

theorem visible_alike {index : Nat} {relay other : Relay} (twin : Twin index relay other)
    {moves moves' : List Move} (run : DeafRun index relay moves) (run' : DeafRun index other moves')
    (same : (visible index (other.trace moves')).map Frame.move =
      (visible index (relay.trace moves)).map Frame.move) :
    List.Forall₂ (Frame.Alike index) (visible index (relay.trace moves))
      (visible index (other.trace moves')) := by
  generalize shows : (visible index (relay.trace moves)).map Frame.move = seen at same
  induction seen generalizing relay other moves moves' with
  | nil =>
    rw [List.map_eq_nil_iff.mp shows, List.map_eq_nil_iff.mp same]
    exact .nil
  | cons move seen ih =>
    obtain ⟨middle, rest, near, runs, split⟩ := visible_split run shows
    obtain ⟨middle', rest', near', runs', split'⟩ := visible_split run' same
    have twins := (near.symm.trans twin).trans near'
    have head (middle : Relay) (rest : List Move) : middle.frame move ∈ middle.trace (move :: rest) :=
      List.mem_cons_self ..
    have agree := perform_twin twins runs.steady runs'.steady (runs.stepping move (List.mem_cons_self ..))
      (runs.deaf _ (head middle rest)) (runs'.deaf _ (head middle' rest'))
    rw [split] at shows ⊢
    rw [split'] at same ⊢
    exact .cons (frame_alike twins agree)
      (ih agree.state runs.tail runs'.tail (List.cons.inj shows).2 (List.cons.inj same).2)

/-- One recipient's writes cannot reach the others.  Two runs go on from the same relay with the same
iterations, events and faults, but for what only the writes to one link and its closing can tell; that
link has nothing to read while it is a member.  Then the runs show the same, frame by frame, to all
others: every iteration comes to the same result, with the same payload read from the same source, every
other link is written the same bytes, and the other members are the same in the same order. -/
theorem isolation_of_run (settings : RelaySettings) (world : World) (relay : Relay)
    (past moves moves' : List Move) (index : Nat)
    (ends : world.net.platform.isEndless settings.writeTimeout = false) (os : world.AllOs)
    (bound : bind (ofSettings settings world) = .ok () relay)
    (stepping : ∀ move ∈ moves ++ moves', move.isStepping = true)
    (system : ∀ move ∈ past ++ (moves ++ moves'), move.Meets Event.AllOs) :
    let reached := relay.afterAll past
    (∀ frame ∈ reached.trace moves ++ reached.trace moves', frame.awaited.Deaf index) →
    (visible index (reached.trace moves')).map Frame.move =
      (visible index (reached.trace moves)).map Frame.move →
    List.Forall₂ (Frame.Alike index) (visible index (reached.trace moves))
      (visible index (reached.trace moves')) := by
  intro reached deaf same
  obtain ⟨steps, steps'⟩ := List.forall_mem_append.mp stepping
  obtain ⟨prior, rest⟩ := List.forall_mem_append.mp system
  obtain ⟨first, second⟩ := List.forall_mem_append.mp rest
  obtain ⟨quiet, quiet'⟩ := List.forall_mem_append.mp deaf
  have steady : reached.Steady := (bound_steady ends os bound).afterAll prior
  exact visible_alike (.refl index reached) ⟨steady, steps, first, quiet⟩ ⟨steady, steps', second, quiet'⟩ same

theorem trace_moves (relay : Relay) (moves : List Move) : (relay.trace moves).map Frame.move = moves := by
  induction moves generalizing relay with
  | nil => rfl
  | cons move rest ih => exact congrArg (move :: ·) (ih _)

/-- Behind a first frame that is for one link alone, a run shows all of its moves. -/
theorem visible_behind {index : Nat} {relay : Relay} {move : Move} {rest : List Move}
    (tunes : (relay.frame move).tunes index = true)
    (others : ∀ frame ∈ (relay.frame move).after.trace rest, frame.tunes index = false) :
    (visible index (relay.trace (move :: rest))).map Frame.move = rest := by
  have shown : visible index (relay.trace (move :: rest)) = (relay.frame move).after.trace rest := by
    rw [visible, trace, List.filter_cons_of_neg (by simp [tunes]), List.filter_eq_self]
    exact fun frame member => by simp [others frame member]
  rw [shown, trace_moves]

/-- Three clients connect, and their links come in. -/
def threeComers : List Move :=
  [.event (.connect "ann" none none none none), .event (.connect "bob" none none none none),
    .event (.connect "cy" none none none none), .step none, .step none, .step none]

/-- The first two clients send in turn, after an event that concerns the third. -/
def turnsAfter (event : Event) : List Move :=
  [.event event, .event (.send "ann" [1, 2]), .step none, .event (.send "bob" [3]), .step none]

/-- The third link lets nothing in, or the first write to it fails. -/
theorem isolation_of_stalledWrites :
    let reached := (Action.state (bind (ofSettings plainSettings {}))).afterAll threeComers
    let stalled := turnsAfter (.window "cy" (some 0))
    let broken := turnsAfter (.fail (some "cy") .send [some .connectionReset])
    (reached.afterAll stalled).members = [0, 1, 2] ∧ (reached.afterAll broken).members = [0, 1] ∧
      List.Forall₂ (Frame.Alike 2) (visible 2 (reached.trace stalled)) (visible 2 (reached.trace broken)) := by
  intro reached stalled broken
  refine ⟨by decide +kernel, by decide +kernel, ?_⟩
  refine isolation_of_run plainSettings {} _ threeComers stalled broken 2 rfl blank_allOs
    (by rfl) (by decide) ?_ ?_ ?_
  · simp [threeComers, stalled, broken, turnsAfter, Move.Meets, Event.AllOs]
    decide
  · simp only [Deaf]
    decide +kernel
  · exact (visible_behind (by decide +kernel) (by decide +kernel)).trans
      (visible_behind (by decide +kernel) (by decide +kernel)).symm

end Relay

end RelayBench
