import RelayBench.Proofs.Relay.Turn

/-! One iteration, one event.  What the service of an iteration does is told by the first thing that is
ready: it accepts a link and reads nobody, or it reads that one member and nobody else, and all that it
has no part in stays as it is. -/
namespace RelayBench

namespace Readiness

/-- Reported things come into the order of the watch set, whatever the order of the report. -/
theorem arrange_eq {door : Nat} {members : List Nat} {reported : List Watched}
    (watched : ∀ thing ∈ reported, thing ∈ Watched.door door :: members.map .link) :
    arrange members reported =
      (Watched.door door :: members.map .link).filter fun thing => reported.contains thing := by
  have links : (members.filter fun index => reported.contains (.link index)).map Watched.link =
      (members.map .link).filter fun thing => reported.contains thing := by
    rw [List.filter_map]
    rfl
  rw [arrange, links, List.filter_cons]
  by_cases listed : Watched.door door ∈ reported
  · have found : reported.find? Watched.isDoor = some (.door door) := by
      cases first : reported.find? Watched.isDoor with
      | none => simpa [Watched.isDoor] using List.find?_eq_none.mp first _ listed
      | some thing =>
        have isDoor := List.find?_some first
        have known := watched thing (List.mem_of_find?_eq_some first)
        cases thing with
        | door index => simpa using known
        | link index => simp [Watched.isDoor] at isDoor
    simp [found, listed]
  · have found : reported.find? Watched.isDoor = none := by
      refine List.find?_eq_none.mpr fun thing member isDoor => ?_
      have known := watched thing member
      cases thing with
      | door index =>
        obtain rfl : index = door := by simpa using known
        exact listed member
      | link index => simp [Watched.isDoor] at isDoor
    simp [found, listed]

end Readiness

namespace Relay

/-- A link came in: it is the one that had waited longest, and it stands behind the members of before. -/
structure Joined (relay : Relay) (door first : Nat) (after : Relay) : Prop where
  rest : ∃ net log, after =
    { relay.put (relay.members ++ [first]) net log with accepted := relay.accepted + 1 }
  new : first ∉ relay.members
  queue : (relay.world.net.door door).pending = first :: (after.world.net.door door).pending
  links : ∀ index, index ≠ first → after.world.net.link index = relay.world.net.link index
  fresh : (after.world.net.link first).stream =
    { (relay.world.net.link first).stream with timeout := relay.listener.writeTimeout }

/-- Nobody came in, and no member was touched. -/
structure Missed (relay after : Relay) : Prop where
  rest : ∃ net log, after = relay.put relay.members net log
  links : ∀ index ∈ relay.members, after.world.net.link index = relay.world.net.link index

/-- A member went and is closed; nothing was written, and no other link was touched. -/
structure Parted (relay : Relay) (source : Nat) (after : Relay) : Prop where
  rest : ∃ net log, after =
    { relay.put (relay.members.erase source) net log with disconnected := relay.disconnected + 1 }
  member : source ∈ relay.members
  gone : after.Gone source
  links : ∀ index, index ≠ source → after.world.net.link index = relay.world.net.link index
  silent : ∀ index, (after.world.net.link index).stream.outbox = (relay.world.net.link index).stream.outbox
  doors : ∀ door, after.world.net.door door = relay.world.net.door door

/-- Bytes were read from a member, which stays, and are what the fan-out is given; the fan-out makes the
room and the counters of afterwards. -/
structure Relayed (relay : Relay) (source : Nat) (payload : Bytes) (after : Relay) : Prop where
  member : source ∈ relay.members
  stays : source ∈ after.members
  full : payload ≠ []
  size : payload.length ≤ relay.settings.recvSize.toNat
  inbox : (relay.world.net.link source).stream.inbox =
    payload ++ (after.world.net.link source).stream.inbox
  fanOut : ∃ log result room, FanOut.run payload source (relay.afterRead source log).room = .ok result room ∧
    (∀ index, after.world.net.link index = room.link index) ∧ ∃ net log, after =
      { relay.put room.members net log with
        bytesRelayed := relay.bytesRelayed + payload.length * result.delivered
        writeFailures := relay.writeFailures + result.failures.length
        disconnected := relay.disconnected + result.dropped.length
        lastFanOut := some result }
  doors : ∀ door, after.world.net.door door = relay.world.net.door door

/-- What the service of an iteration does, by what is ready first. -/
inductive Dispatched (relay : Relay) : List Watched → Except Fault Outcome → Relay → Prop
  | nothing : Dispatched relay [] (.ok .idle) relay
  | joined {door first : Nat} {others : List Watched} {after : Relay}
      (accepts : Action.result (relay.listener.accept .foreground relay.world) = .ok first)
      (joined : Joined relay door first after) :
      Dispatched relay (.door door :: others) (.ok (.accepted first)) after
  | missed {door : Nat} {fault : Fault} {others : List Watched} {after : Relay}
      (fails : Action.result (relay.listener.accept .foreground relay.world) = .error fault)
      (missed : Missed relay after) :
      Dispatched relay (.door door :: others) (if fault.isOs then .ok .idle else .error fault) after
  | parted {source : Nat} {others : List Watched} {after : Relay}
      (none : (relay.reading source).taken = []) (copes : relay.Copes source)
      (parted : Parted relay source after) :
      Dispatched relay (.link source :: others) (.ok (.disconnected source)) after
  | relayed {source : Nat} {payload : Bytes} {others : List Watched} {after : Relay}
      (some : relay.reading source = .bytes payload) (relayed : Relayed relay source payload after) :
      Dispatched relay (.link source :: others) (.ok (.broadcast source payload)) after
  | unread {source : Nat} {fault : Fault} {others : List Watched} {after : Relay}
      (fails : relay.reading source = .fault fault) (foreign : fault.isOs = false)
      (missed : Missed relay after) :
      Dispatched relay (.link source :: others) (.error fault) after

section

variable {relay : Relay} (sound : relay.Sound)
include sound

theorem taking_joined {door first : Nat} {rest : List Nat} (bound : relay.listener.door = some door)
    (queue : (relay.world.net.door door).pending = first :: rest) (adopted : relay.adoption first = .ok ())
    (log : List Entry) :
    Joined relay door first
      { relay.put (relay.members ++ [first]) (relay.taking door first rest) log with
        accepted := relay.accepted + 1 } where
  rest := ⟨_, log, rfl⟩
  new := (sound.fresh first (by simp [waiting, bound, queue])).2.1
  queue := by
    show _ = first :: ((relay.taking door first rest).door door).pending
    rw [taking_door, if_pos rfl, queue]
  links := fun index other => (taking_link index).trans (if_neg other)
  fresh := by
    show ((relay.taking door first rest).link first).stream = _
    rw [taking_link, if_pos rfl,
      Link.adopt_timeout _ (limit_of_adoption adopted) sound.grounded.ends (sound.os.links first).ends]

/-- A ready listener: one link is accepted, or none, and no member is read or written to. -/
theorem welcome_dispatched {door : Nat} (bound : relay.listener.door = some door) (others : List Watched) :
    Dispatched relay (.door door :: others) (Action.result (welcome .foreground relay))
      (Action.state (welcome .foreground relay)) := by
  rcases relay.world.net.accept_cases sound.os .foreground door with
    ⟨fault, net, failed, system, same⟩ | ⟨first, rest, opened, queue, taken⟩
  · obtain ⟨log, ran⟩ := welcome_refused bound failed system
    have fails : Action.result (relay.listener.accept .foreground relay.world) = .error fault := by
      rw [accept_refused bound failed]
      rfl
    have missed : Missed relay (relay.put relay.members net log) :=
      ⟨⟨net, log, rfl⟩, fun index _ => by rcases same with rfl | rfl <;> rfl⟩
    have dispatched : Dispatched relay (.door door :: others) _ _ := .missed fails missed
    rw [if_pos system] at dispatched
    rw [ran]
    exact dispatched
  · have waits : first ∈ relay.waiting := by simp [waiting, bound, queue]
    obtain ⟨live, outside, _⟩ := sound.fresh first waits
    cases adopted : relay.adoption first with
    | error fault =>
      have fails : Action.result (relay.listener.accept .foreground relay.world) = .error fault := by
        rw [accept_misfit bound taken adopted]
        rfl
      have missed (log : List Entry) : Missed relay (relay.put relay.members (relay.taking door first rest) log) :=
        ⟨⟨_, log, rfl⟩, fun index member => (taking_link index).trans
          (if_neg (fun (same : index = first) => outside (same ▸ member)))⟩
      have course (log : List Entry) : Dispatched relay (.door door :: others)
          (if fault.isOs then .ok .idle else .error fault)
          (relay.put relay.members (relay.taking door first rest) log) := .missed fails (missed log)
      cases system : fault.isOs with
      | false =>
        rw [system] at course
        rw [welcome_misfit bound taken adopted system]
        exact course _
      | true =>
        obtain ⟨log, ran⟩ := welcome_forgone bound taken adopted system
        rw [system] at course
        rw [ran]
        exact course log
    | ok done =>
      have accepts : Action.result (relay.listener.accept .foreground relay.world) = .ok first := by
        rw [accept_taken bound taken adopted]
        rfl
      obtain ⟨log, ran⟩ := welcome_joined bound taken adopted outside live.closed
      rw [ran]
      exact .joined accepts (taking_joined sound bound queue adopted log)

variable {source : Nat}

theorem parting_parted (member : source ∈ relay.members) (log : List Entry) :
    Parted relay source (relay.parting source log) where
  rest := ⟨_, log, rfl⟩
  member := member
  gone := by
    have live := sound.alive source member
    have link := (relay.parting_link source log source).trans (if_pos rfl)
    refine ⟨live.known, fun stays => ((sound.distinct.mem_erase_iff).mp stays).1 rfl, ?_, ?_⟩
    · exact (congrArg Link.closed link).trans (Link.close_closed _)
    · exact (congrArg Link.hasDescriptor link).trans (Link.close_isOpen _ ((Link.read_closed ..).trans live.closed))
  links := fun index other => (parting_link source log index).trans (if_neg other)
  silent := by
    intro index
    rw [parting_link]
    split
    next same =>
      rw [Link.close_outbox, same]
      exact Link.side_outbox (Link.read_side ..)
    · rfl
  doors := fun _ => rfl

theorem handing_relayed {payload : Bytes} (member : source ∈ relay.members)
    (some : relay.reading source = .bytes payload) (full : payload ≠ []) (log : List Entry) :
    Relayed relay source payload (relay.handing source payload log) where
  member := member
  stays := (mem_handing ..).mpr ⟨member, .inl rfl⟩
  full := full
  size := Link.read_length _ _ _ some
  inbox := by
    have read := Link.read_taken (relay.world.net.link source) relay.world.net.platform relay.settings.recvSize
    rw [show ((relay.world.net.link source).read _ _).1 = .bytes payload from some] at read
    rw [handing_link sound, if_pos rfl]
    exact read.inbox
  fanOut := by
    have same (index : Nat) (other : index ∈ relay.room.others source) :
        (relay.afterRead source log).room.link index = relay.room.link index :=
      afterRead_link (by simpa using (List.mem_filter.mp other).2) log
    obtain ⟨later, ran⟩ := FanOut.run_ok payload source (relay.afterRead source log).room sound.distinct
      fun index _ => afterRead_allOs sound.os source log index
    have others : (relay.afterRead source log).room.others source = relay.room.others source := rfl
    have survivors : FanOut.survivors payload source (relay.afterRead source log).room =
        FanOut.survivors payload source relay.room := FanOut.survivors_congr payload source rfl same
    rw [others, FanOut.tally_congr payload _ same, survivors] at ran
    exact ⟨log, _, _, ran, fun _ => rfl, _, log, rfl⟩
  doors := fun _ => rfl

/-- A ready member: that one is read, and nobody else. -/
theorem received_dispatched (member : source ∈ relay.members) (others : List Watched) :
    Dispatched relay (.link source :: others)
      (Action.result ((readMember source >>= received source) relay))
      (Action.state ((readMember source >>= received source) relay)) := by
  have course := received_course sound member
  generalize (readMember source >>= received source) relay = ran at course ⊢
  cases course with
  | left log none copes => exact .parted none copes (parting_parted sound member log)
  | handedOn payload log some full => exact .relayed some (handing_relayed sound member some full log)
  | unread fault fails foreign =>
    exact .unread fails foreign ⟨⟨_, _, rfl⟩, fun index _ => unread_link sound fails foreign index⟩

/-- Whatever is ready, the service of an iteration does one thing only, and for the first of them. -/
theorem service_dispatched {door : Nat} (bound : relay.listener.door = some door) {ready : List Watched}
    (watched : ∀ thing ∈ ready, thing ∈ Watched.door door :: relay.members.map .link) :
    Dispatched relay ready (Action.result (service ready relay)) (Action.state (service ready relay)) := by
  rcases ready with _ | ⟨entrance | source, others⟩
  · exact .nothing
  · obtain rfl : entrance = door := by simpa using watched (.door entrance) (by simp)
    exact welcome_dispatched sound bound others
  · have member : source ∈ relay.members := by simpa using watched (.link source) (by simp)
    exact received_dispatched sound member others

end

end Relay
end RelayBench
