import RelayBench.Proofs.Net.Door

/-! Networks that differ in one link at most.  Whatever happens to both of them leaves them so, and so
does what only the client of that link can make happen to one of them. -/
namespace RelayBench
namespace Net

/-- The network without its links. -/
def besides (net : Net) : Net := { net with links := {} }

/-- Two networks that differ in one link at most, whose client and address are the same in both. -/
structure Twin (index : Nat) (net other : Net) : Prop where
  besides : other.besides = net.besides
  links : ∀ link, link ≠ index → other.link link = net.link link
  client : (other.link index).stream.client = (net.link index).stream.client
  address : (other.link index).stream.address = (net.link index).stream.address

theorem connect_besides (net : Net) (client : String) (address : Option Address)
    (window maxSend : Option Nat) (port : Option Int) :
    (net.connect client address window maxSend port).2.besides =
      (net.besides.connect client address window maxSend port).2.besides := by
  have same : ({ net.besides with dialled := net.besides.dialled + 1 } : Net).doorFor? port =
      ({ net with dialled := net.dialled + 1 } : Net).doorFor? port := rfl
  unfold Net.connect
  simp only [same]
  split <;> rfl

namespace Twin

variable {index : Nat} {net other third : Net}

theorem refl (index : Nat) (net : Net) : Twin index net net :=
  ⟨rfl, fun _ _ => rfl, rfl, rfl⟩

theorem symm (twin : Twin index net other) : Twin index other net where
  besides := twin.besides.symm
  links := fun link apart => (twin.links link apart).symm
  client := twin.client.symm
  address := twin.address.symm

theorem trans (early : Twin index net other) (late : Twin index other third) : Twin index net third where
  besides := late.besides.trans early.besides
  links := fun link apart => (late.links link apart).trans (early.links link apart)
  client := late.client.trans early.client
  address := late.address.trans early.address

variable (twin : Twin index net other)
include twin

theorem eq_links : other = { net with links := other.links } :=
  congrArg (fun net : Net => { net with links := other.links }) twin.besides

theorem door (door : Nat) : other.door door = net.door door :=
  (congrArg (Net.door · door) twin.besides : other.besides.door door = net.besides.door door)

theorem faults : other.faults = net.faults :=
  (congrArg Net.faults twin.besides : other.besides.faults = net.besides.faults)

theorem platform : other.platform = net.platform :=
  (congrArg Net.platform twin.besides : other.besides.platform = net.besides.platform)

theorem linkCount : other.linkCount = net.linkCount :=
  (congrArg Net.linkCount twin.besides : other.besides.linkCount = net.besides.linkCount)

theorem clients (link : Nat) : (other.link link).stream.client = (net.link link).stream.client := by
  by_cases same : link = index
  · rw [same, twin.client]
  · rw [twin.links link same]

theorem addresses (link : Nat) : (other.link link).stream.address = (net.link link).stream.address := by
  by_cases same : link = index
  · rw [same, twin.address]
  · rw [twin.links link same]

theorem linkOf? (client : String) : other.linkOf? client = net.linkOf? client := by
  simp only [Net.linkOf?, linkIndices, twin.linkCount, twin.clients]

/-- The same change on both sides, which leaves a link's client and address alone. -/
theorem updateLink (link : Nat) (change : Link → Link)
    (client : ∀ link, (change link).stream.client = link.stream.client)
    (address : ∀ link, (change link).stream.address = link.stream.address) :
    Twin index (net.updateLink link change) (other.updateLink link change) where
  besides := twin.besides
  links := by
    intro third apart
    simp only [link_updateLink, twin.links third apart]
    split
    next same => rw [← same, twin.links third apart]
    · rfl
  client := by
    simp only [link_updateLink]
    split
    next same => rw [client, client, ← same, twin.client]
    · exact twin.client
  address := by
    simp only [link_updateLink]
    split
    next same => rw [address, address, ← same, twin.address]
    · exact twin.address

theorem updateDoor (door : Nat) (change : Door → Door) :
    Twin index (net.updateDoor door change) (other.updateDoor door change) where
  besides := congrArg (fun net : Net => net.updateDoor door change) twin.besides
  links := twin.links
  client := twin.client
  address := twin.address

theorem called (call : Call) : Twin index (net.called call) (other.called call) where
  besides := congrArg (fun net : Net => net.called call) twin.besides
  links := twin.links
  client := twin.client
  address := twin.address

theorem changeStream (client : String) {change : Stream → Stream}
    (keeps : ∀ stream, (change stream).side = stream.side) :
    Twin index (net.changeStream client change) (other.changeStream client change) := by
  unfold Net.changeStream
  rw [twin.linkOf?]
  split
  next link found =>
    refine twin.updateLink link _ (fun link => ?_) (fun link => ?_)
    · exact Link.side_client (congrArg (fun stream => { link with stream }) (keeps link.stream))
    · exact Link.side_address (congrArg (fun stream => { link with stream }) (keeps link.stream))
  next none => exact twin

theorem connect (client : String) (address : Option Address) (window maxSend : Option Nat)
    (port : Option Int) :
    Twin index (net.connect client address window maxSend port).2
      (other.connect client address window maxSend port).2 := by
  have newcomer : other.newcomer client address window maxSend port =
      net.newcomer client address window maxSend port :=
    (congrArg (Net.newcomer · client address window maxSend port) twin.besides :
      other.besides.newcomer .. = net.besides.newcomer ..)
  have link (link : Nat) : (other.connect client address window maxSend port).2.link link =
      if link = net.linkCount then (net.connect client address window maxSend port).2.link link
      else other.link link := by
    rw [link_connect, link_connect, twin.linkCount, newcomer]
    split <;> rfl
  refine ⟨?_, fun third apart => ?_, ?_, ?_⟩
  · calc (other.connect client address window maxSend port).2.besides
      _ = (other.besides.connect client address window maxSend port).2.besides := connect_besides ..
      _ = (net.besides.connect client address window maxSend port).2.besides := by rw [twin.besides]
      _ = (net.connect client address window maxSend port).2.besides := (connect_besides ..).symm
  · rw [link, link_connect, twin.links third apart]
    split <;> rfl
  · rw [link, link_connect]
    split
    · rfl
    · exact twin.client
  · rw [link, link_connect]
    split
    · rfl
    · exact twin.address

/-- The same event on both sides. -/
theorem apply (event : Event) : Twin index (net.apply event).2 (other.apply event).2 := by
  rcases apply_shape event with
    ⟨client, address, window, maxSend, port, rfl⟩ | ⟨client, change, keeps, applied⟩ |
    ⟨faults, taken, applied⟩
  · exact twin.connect client address window maxSend port
  · rw [applied, applied]
    exact twin.changeStream client keeps
  · rw [applied, applied]
    exact ⟨congrArg (fun net : Net => { net with faults := net.faults ++ faults, taken := taken ++ net.taken })
      twin.besides, twin.links, twin.client, twin.address⟩

end Twin

section

variable {index : Nat} {net : Net}

/-- A change to the stream of the one link, which leaves the program's side of it alone. -/
theorem changeStream_twin {client : String} (own : net.linkOf? client = some index)
    (change : Stream → Stream) (keeps : ∀ stream, (change stream).side = stream.side) :
    Twin index net (net.changeStream client change) := by
  have side := net.changeStream_side client change keeps index
  refine ⟨?_, fun link apart => ?_, Link.side_client side, Link.side_address side⟩
  · simp only [changeStream, own]
    rfl
  · simp only [changeStream, own, link_updateLink, if_neg apart]

/-- An event that only the program's writes to a link, and its closing, can tell: the client lets in
more or less, or faults are in store for calls other than reads. -/
def tunes (net : Net) (index : Nat) : Event → Bool
  | .window client _ | .maxSend client _ | .grants client _ => net.linkOf? client == some index
  | .fail (some client) call _ => call != .recv && net.linkOf? client == some index
  | _ => false

theorem tunes_twin {event : Event} (tunes : net.tunes index event = true) :
    Twin index net (net.apply event).2 := by
  cases event with
  | window client size =>
    have own : net.linkOf? client = some index := by simpa [Net.tunes] using tunes
    exact changeStream_twin own (fun stream => { stream with window := size }) fun _ => rfl
  | maxSend client size =>
    have own : net.linkOf? client = some index := by simpa [Net.tunes] using tunes
    exact changeStream_twin own (fun stream => { stream with maxSend := size }) fun _ => rfl
  | grants client sizes =>
    have own : net.linkOf? client = some index := by simpa [Net.tunes] using tunes
    exact changeStream_twin own (fun stream => { stream with grants := sizes }) fun _ => rfl
  | fail client call faults =>
    cases client with
    | none => simp [Net.tunes] at tunes
    | some client =>
      have own : net.linkOf? client = some index := by
        simp only [Net.tunes, Bool.and_eq_true, beq_iff_eq] at tunes
        exact tunes.2
      exact changeStream_twin own
        (fun stream => { stream with faults := FaultQueue.push stream.faults call faults }) fun _ => rfl
  | _ => simp [Net.tunes] at tunes

/-- What comes of an accept shows in no link and in nothing but the doors and the fault queue. -/
theorem accept_links (net : Net) (links : Table Link) (caller : Caller) (door : Nat) :
    accept caller door { net with links } = match accept caller door net with
      | .ok first after => .ok first { after with links }
      | .error fault after => .error fault { after with links } := by
  have doors : ({ net with links } : Net).door door = net.door door := rfl
  have faults : ({ net with links } : Net).faults = net.faults := rfl
  rw [accept_eq, accept_eq, doors, faults]
  by_cases opened : (net.door door).isOpen = true
  · rw [if_pos opened, if_pos opened]
    cases FaultQueue.next net.faults .accept <;> cases (net.door door).pending <;> rfl
  · rw [if_neg opened, if_neg opened]

end

end Net
end RelayBench
