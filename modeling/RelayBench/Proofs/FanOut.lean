import Mathlib.Data.List.Nodup
import RelayBench.FanOut
import RelayBench.Proofs.Net.Door

/-! Fan-out in closed form: which recipients take a payload, which writes fail, who is dropped, and
what every link and the room look like afterwards. -/
namespace RelayBench
namespace Action

variable {α : Type}

@[simp] theorem liftBench_apply (action : Bench α) (room : Room) :
    (liftM action : RoomCall α) room =
      onPart Room.world (fun world room => { room with world }) action room := rfl

@[simp] theorem liftNetRoom_apply (call : NetCall α) (room : Room) :
    (liftM call : RoomCall α) room =
      onPart Room.world (fun world room => { room with world })
        (onPart World.net (fun net world => { world with net }) call) room := rfl

end Action

namespace World

/-- Closing a link never fails for the relay; a fault of the closing goes to the log. -/
theorem closeLink_ok (world : World) (index : Nat)
    (os : (world.net.link index).stream.AllOs) :
    ∃ log, closeLink index world =
      .ok () { world with net := world.net.updateLink index fun link => link.close.2, log } := by
  rcases closed : (world.net.link index).close with ⟨fault | done, link⟩
  · have system : fault.isOs = true := Link.close_error_isOs _ os (by rw [closed])
    have ran : closeLink index world = .ok () (write
        { world with net := world.net.updateLink index fun link => link.close.2 }
        (.debugging Logger.connection ("Error closing " ++ link.name) (.fault fault))) := by
      simp [closeLink, Net.onLink_apply, closed, system, Net.link_updateLink]
    rw [write_eq] at ran
    exact ⟨_, ran⟩
  · exact ⟨world.log, by simp [closeLink, Net.onLink_apply, closed]⟩

end World

namespace Room

theorem remove_member (room : Room) (index : Nat) (member : index ∈ room.members)
    (os : (room.link index).stream.AllOs) :
    ∃ log, remove index room = .ok true
      { members := room.members.erase index
        world :=
          { room.world with
            net := room.world.net.updateLink index fun link => link.close.2
            log } } := by
  obtain ⟨log, closed⟩ := World.closeLink_ok room.world index os
  exact ⟨log, by simp [remove, member, closed]⟩

end Room

namespace Link

variable (payload : Bytes) (link : Link)

/-- The fault that keeps the link from taking a whole payload. -/
def refusal? : Option Fault :=
  match (link.send payload).1 with
  | .ok () => none
  | .error fault => some fault

/-- Whether a recipient is dropped: it is gone, or it holds a part of the payload only. -/
def drops : Bool :=
  match link.refusal? payload with
  | some fault => fault.isClosed || (link.send payload).2.broken
  | none => false

/-- The link after its share of a fan-out: written to, and closed if it is dropped. -/
def served : Link :=
  if link.drops payload then (link.send payload).2.close.2 else (link.send payload).2

theorem served_kept (os : link.stream.AllOs) :
    (link.served payload).stream.unwritten.unclosed = link.stream.unwritten.unclosed := by
  have written := congrArg Stream.unclosed (link.send_unwritten payload os)
  unfold served
  split
  · have closed := congrArg Stream.unwritten (link.send payload).2.close_unclosed
    exact Eq.trans closed written
  · exact written

theorem served_taken (os : link.stream.AllOs) :
    Stream.Taken [] link.stream (link.served payload).stream := by
  have same := link.served_kept payload os
  have inbox := congrArg Stream.inbox same
  have far := congrArg Stream.far same
  have address := congrArg Stream.address same
  exact ⟨inbox.symm, far, address⟩

theorem served_client (os : link.stream.AllOs) :
    (link.served payload).stream.client = link.stream.client := by
  have same := congrArg Stream.client (link.served_kept payload os)
  exact same

theorem served_allOs (os : link.stream.AllOs) :
    (link.served payload).stream.AllOs := by
  have written := link.send_allOs payload os
  unfold served
  split
  · exact close_allOs _ written
  · exact written

theorem served_stays (os : link.stream.AllOs) (stays : link.drops payload = false) :
    (link.served payload).closed = link.closed ∧
      (link.served payload).stream.isOpen = link.stream.isOpen := by
  have served : link.served payload = (link.send payload).2 := by simp [served, stays]
  rw [served]
  have kept := link.send_unwritten payload os
  exact ⟨rfl, show (link.send payload).2.stream.unwritten.isOpen = _ by rw [kept]; rfl⟩

theorem served_leaves (opened : link.closed = false) (leaves : link.drops payload = true) :
    (link.served payload).closed = true ∧ (link.served payload).stream.isOpen = false := by
  have served : link.served payload = (link.send payload).2.close.2 := by simp [served, leaves]
  rw [served]
  exact ⟨close_closed _, close_isOpen _ opened⟩

/-- The share of an unbroken recipient.  It takes the whole payload and stays; or it takes nothing and
stays; or it takes less than the whole payload and is dropped and closed. -/
inductive Share : Prop
  | whole (accepted : link.refusal? payload = none) (stays : link.drops payload = false)
      (outbox : (link.served payload).stream.outbox = link.stream.outbox ++ payload)
      (sound : (link.served payload).broken = false)
  | none (refused : link.refusal? payload ≠ none) (stays : link.drops payload = false)
      (outbox : (link.served payload).stream.outbox = link.stream.outbox)
      (sound : (link.served payload).broken = false)
  | part (count : Nat) (refused : link.refusal? payload ≠ none) (leaves : link.drops payload = true)
      (short : count < payload.length)
      (outbox : (link.served payload).stream.outbox = link.stream.outbox ++ payload.take count)

theorem served_share (os : link.stream.AllOs) (sound : link.broken = false) :
    Share payload link := by
  obtain ⟨count, out, course⟩ := link.send_outbox payload os
  cases sent : (link.send payload).1 with
  | ok done =>
    simp only [sent] at course
    have accepted : link.refusal? payload = none := by simp [refusal?, sent]
    have stays : link.drops payload = false := by simp [drops, accepted]
    have served : link.served payload = (link.send payload).2 := by simp [served, stays]
    refine .whole accepted stays ?_ ?_
    · rw [served, out, course.1, List.take_length]
    · rw [served, course.2, sound]
  | error fault =>
    simp only [sent] at course
    obtain ⟨_, short, broken⟩ := course
    have refused : link.refusal? payload = some fault := by simp [refusal?, sent]
    by_cases leaves : link.drops payload = true
    · refine .part count (by simp [refused]) leaves short ?_
      simp [served, leaves, out]
    · simp only [Bool.not_eq_true] at leaves
      have served : link.served payload = (link.send payload).2 := by simp [served, leaves]
      have unbroken : (link.send payload).2.broken = false := by
        simp only [drops, refused, Bool.or_eq_false_iff] at leaves
        exact leaves.2
      have nothing : count = 0 := by simpa [broken, sound] using unbroken
      refine .none (by simp [refused]) leaves ?_ ?_
      · rw [served, out, nothing, List.take_zero, List.append_nil]
      · rw [served, unbroken]

theorem served_broken (os : link.stream.AllOs) (sound : link.broken = false)
    (stays : link.drops payload = false) : (link.served payload).broken = false := by
  rcases link.served_share payload os sound with
    ⟨_, _, _, unbroken⟩ | ⟨_, _, _, unbroken⟩ | ⟨_, _, leaves, _, _⟩
  · exact unbroken
  · exact unbroken
  · exact absurd leaves (by simp [stays])

end Link

namespace FanOut

def record (payload : Bytes) (sofar : FanOut) (recipient : Nat) (link : Link) : FanOut :=
  match link.refusal? payload with
  | none => { sofar with delivered := sofar.delivered + 1 }
  | some fault =>
    { sofar with
      failures := sofar.failures ++ [failure link.name payload fault]
      dropped := if link.drops payload then sofar.dropped ++ [recipient] else sofar.dropped }

section

variable (payload : Bytes) (sofar : FanOut) {recipient : Nat} {room : Room} {link : Link} {fault : Fault}

theorem deliver_taken (sent : (room.link recipient).send payload = (.ok (), link)) :
    deliver payload sofar recipient room =
      .ok (record payload sofar recipient (room.link recipient))
        { room with
          world :=
            { room.world with net := room.world.net.updateLink recipient (Link.served payload) } } := by
  simp only [Room.link] at sent ⊢
  have took : (room.world.net.link recipient).refusal? payload = none := by simp [Link.refusal?, sent]
  have stays : (room.world.net.link recipient).drops payload = false := by simp [Link.drops, took]
  have same := room.world.net.updateLink_congr recipient (fun link => (link.send payload).2)
    (Link.served payload) (by simp [Link.served, stays])
  simp [deliver, Net.onLink_apply, sent, record, took, same]

variable (os : (room.link recipient).stream.AllOs)
  (sent : (room.link recipient).send payload = (.error fault, link))
include os sent

/-- A recipient that has taken nothing, and is not gone, gets by with an entry in the log. -/
theorem deliver_refused (stays : (room.link recipient).drops payload = false) :
    ∃ log, deliver payload sofar recipient room =
      .ok (record payload sofar recipient (room.link recipient))
        { room with
          world :=
            { room.world with
              net := room.world.net.updateLink recipient (Link.served payload)
              log } } := by
  simp only [Room.link] at os sent stays ⊢
  have system : fault.isOs = true := Link.send_error_isOs _ payload os (by rw [sent])
  have refused : (room.world.net.link recipient).refusal? payload = some fault := by
    simp [Link.refusal?, sent]
  have after : ((room.world.net.link recipient).send payload).2 = link := by rw [sent]
  have name : link.name = (room.world.net.link recipient).name := by rw [← after, Link.send_name]
  have sound : ¬(fault.isClosed = true ∨ link.broken = true) := by
    simpa [Link.drops, refused, after] using stays
  have same := room.world.net.updateLink_congr recipient
    (fun link => (link.send payload).2) (Link.served payload) (by simp [Link.served, stays])
  have ran : deliver payload sofar recipient room =
      .ok (record payload sofar recipient (room.world.net.link recipient))
        { room with
          world := World.write
            { room.world with
              net := room.world.net.updateLink recipient fun link => (link.send payload).2 }
            (.writeFailure Logger.fanOut link.name fault (fault.isClosed || link.broken)) } := by
    simp [deliver, Net.onLink_apply, sent, record, refused, stays, system, Room.link,
      Net.link_updateLink, sound, name]
  rw [World.write_eq, same] at ran
  exact ⟨_, ran⟩

/-- A recipient that is gone, or holds a part of the payload, is taken out and closed. -/
theorem deliver_dropped (member : recipient ∈ room.members)
    (drops : (room.link recipient).drops payload = true) :
    ∃ log, deliver payload sofar recipient room =
      .ok (record payload sofar recipient (room.link recipient))
        { members := room.members.erase recipient
          world :=
            { room.world with
              net := room.world.net.updateLink recipient (Link.served payload)
              log } } := by
  simp only [Room.link] at os sent drops ⊢
  have system : fault.isOs = true := Link.send_error_isOs _ payload os (by rw [sent])
  have refused : (room.world.net.link recipient).refusal? payload = some fault := by
    simp [Link.refusal?, sent]
  have after : ((room.world.net.link recipient).send payload).2 = link := by rw [sent]
  have name : link.name = (room.world.net.link recipient).name := by rw [← after, Link.send_name]
  have kept : link.stream.AllOs := after ▸ Link.send_allOs _ payload os
  have gone : fault.isClosed = true ∨ link.broken = true := by
    simpa [Link.drops, refused, after] using drops
  have same := room.world.net.updateLink_congr recipient
    (fun link => (link.send payload).2.close.2) (Link.served payload) (by simp [Link.served, drops])
  obtain ⟨log, removed⟩ := Room.remove_member
    { room with
      world :=
        { room.world with
          net := room.world.net.updateLink recipient fun link => (link.send payload).2 } }
    recipient member (by simpa [Room.link, Net.link_updateLink, after] using kept)
  simp only [Net.updateLink_updateLink, same] at removed
  have ran : deliver payload sofar recipient room =
      .ok (record payload sofar recipient (room.world.net.link recipient))
        { members := room.members.erase recipient
          world := World.write
            { room.world with
              net := room.world.net.updateLink recipient (Link.served payload)
              log } (.writeFailure Logger.fanOut link.name fault (fault.isClosed || link.broken)) } := by
    simp [deliver, Net.onLink_apply, sent, record, refused, drops, system, Room.link,
      Net.link_updateLink, gone, removed, name]
  rw [World.write_eq] at ran
  exact ⟨_, ran⟩

end

theorem deliver_ok (payload : Bytes) (sofar : FanOut) (recipient : Nat) (room : Room)
    (member : recipient ∈ room.members)
    (os : (room.link recipient).stream.AllOs) :
    ∃ log, deliver payload sofar recipient room =
      .ok (record payload sofar recipient (room.link recipient))
        { members :=
            if (room.link recipient).drops payload then room.members.erase recipient else room.members
          world :=
            { room.world with
              net := room.world.net.updateLink recipient (Link.served payload)
              log } } := by
  rcases sent : (room.link recipient).send payload with ⟨fault | done, link⟩
  · cases drops : (room.link recipient).drops payload with
    | true =>
      rw [if_pos rfl]
      exact deliver_dropped payload sofar os sent member drops
    | false =>
      rw [if_neg Bool.false_ne_true]
      exact deliver_refused payload sofar os sent drops
  · have stays : (room.link recipient).drops payload = false := by simp [Link.drops, Link.refusal?, sent]
    rw [stays, if_neg Bool.false_ne_true]
    exact ⟨room.world.log, deliver_taken payload sofar sent⟩

def tally (payload : Bytes) (room : Room) (recipients : List Nat) : FanOut where
  delivered := recipients.countP fun index => ((room.link index).refusal? payload).isNone
  failures := recipients.filterMap fun index =>
    ((room.link index).refusal? payload).map (failure (room.link index).name payload)
  dropped := recipients.filter fun index => (room.link index).drops payload

theorem foldl_record (payload : Bytes) (room : Room) (recipients : List Nat) (sofar : FanOut) :
    recipients.foldl (fun sofar index => record payload sofar index (room.link index)) sofar =
      { delivered := sofar.delivered + (tally payload room recipients).delivered
        failures := sofar.failures ++ (tally payload room recipients).failures
        dropped := sofar.dropped ++ (tally payload room recipients).dropped } := by
  induction recipients generalizing sofar with
  | nil => simp [tally]
  | cons index rest ih =>
    rw [List.foldl_cons, ih]
    cases here : (room.link index).refusal? payload with
    | none =>
      have stays : (room.link index).drops payload = false := by simp [Link.drops, here]
      simp [tally, record, here, stays]
      omega
    | some fault =>
      by_cases drops : (room.link index).drops payload = true <;> simp [tally, record, here, drops]

/-- The members that a fan-out leaves: its source and all recipients that are not dropped. -/
def survivors (payload : Bytes) (source : Nat) (room : Room) : List Nat :=
  room.members.filter fun index => index == source || !(room.link index).drops payload

theorem tally_congr (payload : Bytes) {room other : Room} (recipients : List Nat)
    (same : ∀ index ∈ recipients, other.link index = room.link index) :
    tally payload other recipients = tally payload room recipients := by
  induction recipients with
  | nil => rfl
  | cons first rest ih =>
    have more := ih fun index member => same index (by simp [member])
    simp only [tally, FanOut.mk.injEq] at more
    simp only [tally, List.countP_cons, List.filterMap_cons, List.filter_cons, more,
      same first (by simp)]

theorem survivors_congr (payload : Bytes) (source : Nat) {room other : Room}
    (members : other.members = room.members)
    (same : ∀ index ∈ room.others source, other.link index = room.link index) :
    survivors payload source other = survivors payload source room := by
  rw [survivors, members]
  refine List.filter_congr fun index member => ?_
  by_cases own : index = source
  · simp [own]
  · rw [same index (by simp [Room.others, member, own])]

def handed (payload : Bytes) (recipients : List Nat) (log : List Entry) (room : Room) : Room where
  members := room.members.filter fun index =>
    !(recipients.contains index && (room.link index).drops payload)
  world :=
    { room.world with net := room.world.net.updateLinks recipients (Link.served payload), log }

theorem foldlM_deliver (payload : Bytes) (recipients : List Nat) (sofar : FanOut) (room : Room)
    (distinct : recipients.Nodup) (once : room.members.Nodup)
    (inside : ∀ index ∈ recipients, index ∈ room.members)
    (os : ∀ index ∈ recipients, (room.link index).stream.AllOs) :
    ∃ log, recipients.foldlM (deliver payload) sofar room =
      .ok (recipients.foldl (fun sofar index => record payload sofar index (room.link index)) sofar)
        (handed payload recipients log room) := by
  induction recipients generalizing sofar room with
  | nil =>
    refine ⟨room.world.log, ?_⟩
    simp [handed, Net.updateLinks]
  | cons first rest ih =>
    obtain ⟨new, distinct⟩ := List.nodup_cons.mp distinct
    obtain ⟨log, delivered⟩ :=
      deliver_ok payload sofar first room (inside first (by simp)) (os first (by simp))
    generalize next : (Room.mk _ _) = middle at delivered
    -- The recipients differ, so those still to come are as they were before the first delivery.
    have elsewhere (index : Nat) (other : index ≠ first) : middle.link index = room.link index := by
      subst next
      simp [Room.link, Net.link_updateLink, other]
    have members : middle.members =
        room.members.filter fun index => !(index == first && (room.link first).drops payload) := by
      subst next
      by_cases drops : (room.link first).drops payload = true
      · simp [drops, once.erase_eq_filter, bne]
      · simp [drops]
    have apart (index : Nat) (member : index ∈ rest) : index ≠ first := fun same => new (same ▸ member)
    obtain ⟨last, ran⟩ := ih (record payload sofar first (room.link first)) middle distinct
      (members ▸ once.filter _)
      (fun index member => by simp [members, inside index (by simp [member]), apart index member])
      (fun index member => by rw [elsewhere index (apart index member)]; exact os index (by simp [member]))
    refine ⟨last, ?_⟩
    have account : rest.foldl (fun sofar index => record payload sofar index (middle.link index))
        (record payload sofar first (room.link first)) =
        rest.foldl (fun sofar index => record payload sofar index (room.link index))
          (record payload sofar first (room.link first)) :=
      List.foldl_ext _ _ _ fun sofar index member => by rw [elsewhere index (apart index member)]
    have final : handed payload rest last middle = handed payload (first :: rest) last room := by
      have same : (handed payload rest last middle).members =
          (handed payload (first :: rest) last room).members := by
        simp only [handed, members, List.filter_filter]
        refine List.filter_congr fun index _ => ?_
        by_cases here : index = first
        · subst here
          simp [new]
        · simp [here, elsewhere index here]
      have world : (handed payload rest last middle).world =
          (handed payload (first :: rest) last room).world := by
        subst next
        rfl
      exact congrArg₂ Room.mk same world
    rw [List.foldlM_cons, Action.bind_ok delivered, ran, account, final]
    rfl

/-- A fan-out never fails: it leaves the survivors in the room and has served every other link once. -/
theorem run_ok (payload : Bytes) (source : Nat) (room : Room) (once : room.members.Nodup)
    (os : ∀ index ∈ room.members, (room.link index).stream.AllOs) :
    ∃ log, run payload source room = .ok (tally payload room (room.others source))
      { members := survivors payload source room
        world :=
          { room.world with
            net := room.world.net.updateLinks (room.others source) (Link.served payload)
            log } } := by
  have member (index : Nat) (other : index ∈ room.others source) : index ∈ room.members :=
    List.mem_of_mem_filter other
  obtain ⟨log, ran⟩ := foldlM_deliver payload (room.others source) {} room (once.filter _) once member
    fun index other => os index (member index other)
  rw [foldl_record] at ran
  simp only [Nat.zero_add, List.nil_append] at ran
  have left : (handed payload (room.others source) log room).members = survivors payload source room := by
    refine List.filter_congr fun index present => ?_
    by_cases same : index = source <;> simp [Room.others, same, present]
  have done : run payload source room = .ok (tally payload room (room.others source))
      { members := (handed payload (room.others source) log room).members
        world := World.write (handed payload (room.others source) log room).world
          (.data Logger.fanOut
            ("Relayed " ++ toString payload.length ++ " bytes from " ++ (room.link source).name)
            (toString (tally payload room (room.others source)).delivered ++ " recipients")) } := by
    simp [run, ran]
  rw [World.write_eq, left] at done
  exact ⟨_, done⟩

end FanOut
end RelayBench
