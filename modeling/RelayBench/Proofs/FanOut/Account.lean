import RelayBench.Proofs.FanOut

/-! The account of a fan-out.  Every recipient is written to once, in its turn; the writes that fail are
listed with their faults, recipients that are gone or hold a part of the payload only are dropped, and all
else stays as it is. -/
namespace RelayBench

namespace Link

variable (payload : Bytes) (link : Link)

/-- How a write to a link goes: it completes, or a fault of the operating system ends it before its end. -/
inductive Course : Prop
  | whole (completes : link.refusal? payload = none)
      (outbox : (link.send payload).2.stream.outbox = link.stream.outbox ++ payload)
  | part (fault : Fault) (count : Nat) (fails : link.refusal? payload = some fault)
      (system : fault.isOs = true) (short : count < payload.length)
      (outbox : (link.send payload).2.stream.outbox = link.stream.outbox ++ payload.take count)
      (broken : (link.send payload).2.broken = (link.broken || decide (0 < count)))

theorem send_course (os : link.stream.AllOs) : Course payload link := by
  obtain ⟨count, out, course⟩ := link.send_outbox payload os
  cases sent : (link.send payload).1 with
  | ok done =>
    simp only [sent] at course
    refine .whole (by simp [refusal?, sent]) ?_
    rw [out, course.1, List.take_length]
  | error fault =>
    simp only [sent] at course
    obtain ⟨system, short, broken⟩ := course
    exact .part fault count (by simp [refusal?, sent]) system short out broken

/-- Whether a write puts out any bytes. -/
def putsOut : Bool := decide (link.stream.outbox.length < (link.send payload).2.stream.outbox.length)

/-- A recipient that was sound is dropped when its fault tells that it is gone, or when it was cut off. -/
theorem drops_eq (os : link.stream.AllOs) (sound : link.broken = false) :
    link.drops payload = (link.refusal? payload).any fun fault => fault.isClosed || link.putsOut payload := by
  cases link.send_course payload os with
  | whole completes outbox => simp [drops, completes]
  | part fault count fails system short outbox broken =>
    have cut : link.putsOut payload = decide (0 < count) := by
      have some : min count payload.length = count := Nat.min_eq_left (Nat.le_of_lt short)
      simp [putsOut, outbox, some]
    simp [drops, fails, broken, sound, cut]

/-- No write behaviour is left out: some link cuts a write off after any number of bytes by any fault of the
operating system, and closes as one likes. -/
theorem send_possible (count : Nat) (fault : Fault) (closing : Option Fault) (short : count < payload.length)
    (system : fault.isOs = true) (closes : ∀ fault ∈ closing, fault.isOs = true) :
    ∃ link : Link, link.closed = false ∧ link.hasDescriptor = true ∧ link.broken = false ∧
      link.stream.AllOs ∧ link.refusal? payload = some fault ∧
      (link.send payload).2.stream.outbox = link.stream.outbox ++ payload.take count ∧
      (link.send payload).2.close.1 = match closing with
        | some fault => .error fault
        | none => .ok () := by
  have queued (queue : FaultQueue) (front : ∀ entry ∈ queue, entry = (.send, none)) :
      FaultQueue.AllOs (queue ++ [(.send, some fault), (.close, closing)]) := by
    intro call raised member _
    rcases List.mem_append.mp member with early | late
    · cases front _ early
    · simp only [List.mem_cons, List.not_mem_nil, or_false, Prod.mk.injEq, Option.some.injEq] at late
      rcases late with ⟨_, rfl⟩ | ⟨_, held⟩
      · exact system
      · exact closes raised held.symm
  rcases Nat.eq_zero_or_pos count with rfl | started
  · let stream : Stream := { isOpen := true, faults := [(.send, some fault), (.close, closing)] }
    have refused : stream.write payload = (.error fault, stream.called .send) := rfl
    have sent := Transfer.run_refused short refused
    refine ⟨{ stream }, rfl, rfl, rfl, ⟨queued [] (List.forall_mem_nil _), rfl⟩, ?_, ?_, ?_⟩
    · simp [refusal?, send, outlet, Outlet.send, sent]
    · simp [send, outlet, Outlet.send, sent]
    · cases closing <;> simp [send, outlet, Outlet.send, sent, close] <;> rfl
  · let stream : Stream :=
      { isOpen := true, grants := [count]
        faults := [(.send, none), (.send, some fault), (.close, closing)] }
    have first : stream.write payload = (.ok count, (stream.called .send).taking (payload.take count)) := by
      have quota : stream.quota payload.length = count := by
        simp [stream, Stream.quota, Stream.grant]
        omega
      calc stream.write payload = (.ok (stream.quota payload.length),
            (stream.called .send).taking (payload.take (stream.quota payload.length))) := rfl
        _ = _ := by rw [quota]
    have refused : ((stream.called .send).taking (payload.take count)).write (payload.drop count) =
        (.error fault, ((stream.called .send).taking (payload.take count)).called .send) := rfl
    have sent := Transfer.run_cutOff short started first refused
    refine ⟨{ stream }, rfl, rfl, rfl, ⟨queued [(.send, none)] (by simp), rfl⟩, ?_, ?_, ?_⟩
    · simp [refusal?, send, outlet, Outlet.send, sent]
    · simp [send, outlet, Outlet.send, sent]
    · cases closing <;> simp [send, outlet, Outlet.send, sent, close] <;> rfl

end Link

namespace FanOut

section

variable (payload : Bytes) (source : Nat) (room : Room)

theorem tally_length (recipients : List Nat) :
    (tally payload room recipients).delivered + (tally payload room recipients).failures.length =
      recipients.length := by
  have parts := List.length_eq_countP_add_countP (fun index => ((room.link index).refusal? payload).isNone)
    (l := recipients)
  have failed : (tally payload room recipients).failures.length =
      recipients.countP fun index => ¬((room.link index).refusal? payload).isNone := by
    rw [tally, List.length_filterMap_eq_countP]
    refine List.countP_congr fun index _ => ?_
    cases (room.link index).refusal? payload <;> simp
  rw [failed, parts]
  rfl

/-- Every failure is caused by the fault of its own write. -/
theorem tally_causes (recipients : List Nat) :
    (tally payload room recipients).failures.map Fault.cause =
      (recipients.filterMap fun index => (room.link index).refusal? payload).map some := by
  rw [tally, List.map_filterMap, List.map_filterMap]
  refine List.filterMap_congr fun index _ => ?_
  cases (room.link index).refusal? payload <;> rfl

theorem mem_dropped {recipients : List Nat} {index : Nat} :
    index ∈ (tally payload room recipients).dropped ↔
      index ∈ recipients ∧ (room.link index).drops payload = true := List.mem_filter

/-- The survivors are the members that the tally does not drop. -/
theorem survivors_eq :
    survivors payload source room = room.members.filter fun index =>
      !(tally payload room (room.others source)).dropped.contains index := by
  refine List.filter_congr fun index member => ?_
  by_cases own : index = source
  · subst own
    simp [tally, Room.others]
  · simp [tally, Room.others, member, own]

/-- The account of a fan-out, from the room before it, its result and the room after it. -/
structure Account (result : FanOut) (after : Room) : Prop where
  /-- Every recipient's write completes, or some fault of the operating system ends it early. -/
  courses : ∀ index ∈ room.others source, Link.Course payload (room.link index)
  delivered : result.delivered =
    (room.others source).countP fun index => ((room.link index).refusal? payload).isNone
  failures : result.failures = (room.others source).filterMap fun index =>
    ((room.link index).refusal? payload).map (failure (room.link index).name payload)
  causes : result.failures.map Fault.cause =
    ((room.others source).filterMap fun index => (room.link index).refusal? payload).map some
  complete : result.delivered + result.failures.length = (room.others source).length
  dropped : result.dropped = (room.others source).filter fun index =>
    ((room.link index).refusal? payload).any fun fault =>
      fault.isClosed || (room.link index).putsOut payload
  members : after.members = room.members.filter fun index => !result.dropped.contains index
  /-- Each recipient's link is the one that a single write of the payload leaves, closed if it is dropped. -/
  written : ∀ index ∈ room.others source, after.link index =
    if result.dropped.contains index then ((room.link index).send payload).2.close.2
    else ((room.link index).send payload).2
  untouched : ∀ index, index ∉ room.others source → after.link index = room.link index
  closed : ∀ index ∈ room.members, (after.link index).closed = result.dropped.contains index
  released : ∀ index ∈ result.dropped, (after.link index).hasDescriptor = false

/-- The recipients are served one after the other: when the first of them have had their turn, each of these
has been served once, and all other links are as they were. -/
def InTurn (recipients : List Nat) : Prop :=
  ∀ early late, recipients = early ++ late →
    ∃ sofar before, early.foldlM (deliver payload) {} room = .ok sofar before ∧
      sofar.delivered + sofar.failures.length = early.length ∧
      ∀ index, before.link index =
        if index ∈ early then (room.link index).served payload else room.link index

variable (distinct : room.members.Nodup)
  (os : ∀ index ∈ room.members, (room.link index).stream.AllOs)
include distinct os

theorem others_inTurn : InTurn payload room (room.others source) := by
  intro early late split
  have inside (index : Nat) (member : index ∈ early) : index ∈ room.members :=
    List.mem_of_mem_filter (p := (· != source)) (show index ∈ room.others source by simp [split, member])
  have once : early.Nodup := by
    have all : (early ++ late).Nodup := split ▸ distinct.filter _
    exact (List.nodup_append.mp all).1
  obtain ⟨log, ran⟩ := foldlM_deliver payload early {} room once distinct inside
    fun index member => os index (inside index member)
  refine ⟨_, _, ran, ?_, fun index => Net.link_updateLinks room.world.net early once _ index⟩
  rw [foldl_record, Nat.zero_add, List.nil_append]
  exact tally_length payload room early

/-- A fan-out goes through: it writes to every member but its source, once and in order, and its result, the
room and the links all tell which of the writes failed, and how. -/
theorem account_of_run
    (opened : ∀ index ∈ room.members, (room.link index).closed = false)
    (unbroken : ∀ index ∈ room.members, (room.link index).broken = false) :
    InTurn payload room (room.others source) ∧
      ∃ result after, run payload source room = .ok result after ∧
        Account payload source room result after := by
  refine ⟨others_inTurn payload source room distinct os, ?_⟩
  obtain ⟨log, ran⟩ := run_ok payload source room distinct os
  have inside (index : Nat) (member : index ∈ room.others source) : index ∈ room.members :=
    List.mem_of_mem_filter member
  have link (index : Nat) := Net.link_updateLinks room.world.net (room.others source) (distinct.filter _)
    (Link.served payload) index
  have drops (index : Nat) (member : index ∈ room.others source) :
      (room.link index).drops payload = (tally payload room (room.others source)).dropped.contains index := by
    rw [Bool.eq_iff_iff, List.contains_iff_mem, mem_dropped]
    exact ⟨fun gone => ⟨member, gone⟩, And.right⟩
  have untouched (index : Nat) (other : index ∉ room.others source) := (link index).trans (if_neg other)
  refine ⟨_, _, ran, ?_⟩
  refine ⟨fun index member => (room.link index).send_course payload (os index (inside index member)),
    rfl, rfl, tally_causes payload room _, tally_length payload room _, ?_, survivors_eq payload source room,
    ?_, untouched, ?_, ?_⟩
  · refine List.filter_congr fun index member => ?_
    exact Link.drops_eq payload _ (os index (inside index member)) (unbroken index (inside index member))
  · intro index member
    rw [← drops index member]
    exact (link index).trans (if_pos member)
  · intro index member
    by_cases other : index ∈ room.others source
    · rw [← drops index other]
      have served := (link index).trans (if_pos other)
      have sound := opened index member
      cases gone : (room.link index).drops payload with
      | true => exact (congrArg Link.closed served).trans (Link.served_leaves payload _ sound gone).1
      | false =>
        have stays := (Link.served_stays payload _ (os index member) gone).1
        exact (congrArg Link.closed served).trans (stays.trans sound)
    · have kept := mt (mem_dropped payload room).mp fun both => other both.1
      rw [List.contains_eq_mem, decide_eq_false kept]
      exact (congrArg Link.closed (untouched index other)).trans (opened index member)
  · intro index member
    obtain ⟨other, gone⟩ := (mem_dropped payload room).mp member
    have served := (link index).trans (if_pos other)
    exact (congrArg Link.hasDescriptor served).trans
      (Link.served_leaves payload _ (opened index (inside index other)) gone).2

end

/-- A room with a source and five others: the first and the last take what comes, the second takes nothing,
the third has left, and the fourth takes two bytes and cannot even be closed. -/
def mixedRoom : Room where
  members := [0, 1, 2, 3, 4, 5]
  world :=
    { net :=
        { links :=
            { rows :=
                [{ stream := { isOpen := true } }, { stream := { isOpen := true } },
                  { stream := { isOpen := true, window := some 0 } },
                  { stream := { isOpen := true, far := .closed } },
                  { stream := { isOpen := true, window := some 2, faults := [(.close, some .notConnected)] } },
                  { stream := { isOpen := true } }] } } }

theorem account_of_mixedRoom :
    ∃ result after, run [1, 2, 3] 0 mixedRoom = .ok result after ∧ result.delivered = 2 ∧
      result.failures.map Fault.cause = [some .timedOut, some .brokenPipe, some .timedOut] ∧
      result.dropped = [3, 4] ∧ after.members = [0, 1, 2, 5] ∧
      after.members.map (fun index => (after.link index).stream.outbox) = [[], [1, 2, 3], [], [1, 2, 3]] ∧
      (after.link 4).stream.outbox = [1, 2] ∧ (after.link 4).closed = true := by
  have system : ∀ index ∈ mixedRoom.members, (mixedRoom.link index).stream.AllOs := by
    intro index member
    simp only [mixedRoom, List.mem_cons, List.not_mem_nil, or_false] at member
    have unable : (mixedRoom.link 4).stream.AllOs := by
      refine ⟨fun call fault stored _ => ?_, rfl⟩
      simp [mixedRoom, Room.link, Net.link, Table.get] at stored
      rw [stored.2]
      rfl
    rcases member with rfl | rfl | rfl | rfl | rfl | rfl <;> first | exact unable | exact .of_nil rfl rfl
  obtain ⟨_, result, after, ran, account⟩ := account_of_run [1, 2, 3] 0 mixedRoom (by decide) system
    (by decide) (by decide)
  have dropped : result.dropped = [3, 4] := account.dropped.trans (by decide +kernel)
  have members : after.members = [0, 1, 2, 5] := by
    rw [account.members, dropped]
    rfl
  have written (index : Nat) (other : index ∈ mixedRoom.others 0) := account.written index other
  rw [dropped] at written
  refine ⟨result, after, ran, account.delivered.trans (by decide +kernel),
    account.causes.trans (by rfl), dropped, members, ?_, ?_, ?_⟩
  · rw [members]
    simp only [List.map_cons, List.map_nil, account.untouched 0 (by decide), written 1 (by decide),
      written 2 (by decide), written 5 (by decide)]
    rfl
  · rw [written 4 (by decide)]
    rfl
  · rw [written 4 (by decide)]
    rfl

end FanOut
end RelayBench
