import RelayBench.Proofs.Net.Event

/-! What each client has sent, kept account of through all events: it was read, or can be read, or was
lost by a reset. -/
namespace RelayBench
namespace Net

variable (net : Net)

/-- The bytes that an event adds to what the client of a link has sent: all that a send of that client
carries, if the stream takes it. -/
def arrival (index : Nat) : Event → Bytes
  | .send client bytes =>
    if net.linkOf? client = some index ∧ ((net.link index).stream.deliver bytes).1 = true then bytes
    else []
  | _ => []

def arrivals (net : Net) (index : Nat) : List Event → Bytes
  | [] => []
  | event :: rest => net.arrival index event ++ (net.apply event).2.arrivals index rest

end Net

/-- How a stream fares in an event: its inbox grows by what arrives, which nothing does once its client
is gone, or it is reset and its inbox dropped. -/
inductive Stream.Fed (arrived : Bytes) (before after : Stream) : Prop
  | grown (inbox : after.inbox = before.inbox ++ arrived)
      (far : before.far ≠ .opened → arrived = [] ∧ after.far = before.far)
  | reset (nothing : arrived = []) (inbox : after.inbox = []) (far : after.far = .reset)

/-- The account of a client: what it sent was read, or can be read, or was lost by a reset. -/
def Stream.Account (sent read : Bytes) (stream : Stream) : Prop :=
  ∃ lost, sent = read ++ (stream.inbox ++ lost) ∧ (lost ≠ [] → stream.far = .reset ∧ stream.inbox = [])

theorem Stream.Account.fed {sent read arrived : Bytes} {before after : Stream}
    (account : before.Account sent read) (fed : Fed arrived before after) :
    after.Account (sent ++ arrived) read := by
  obtain ⟨lost, balance, why⟩ := account
  cases fed with
  | grown inbox far =>
    by_cases none : lost = []
    · refine ⟨[], ?_, fun some => absurd rfl some⟩
      rw [balance, none, inbox]
      simp
    · obtain ⟨reset, empty⟩ := why none
      obtain ⟨nothing, still⟩ := far (by rw [reset]; decide)
      refine ⟨lost, ?_, fun _ => ⟨still.trans reset, ?_⟩⟩
      · rw [balance, nothing, inbox, nothing]
        simp
      · rw [inbox, empty, nothing]
        rfl
  | reset nothing inbox far =>
    refine ⟨before.inbox ++ lost, ?_, fun _ => ⟨far, inbox⟩⟩
    rw [balance, nothing, inbox]
    simp

theorem Stream.Account.taken {sent read taken : Bytes} {before after : Stream}
    (account : before.Account sent read) (takes : Taken taken before after) :
    after.Account sent (read ++ taken) := by
  obtain ⟨lost, balance, why⟩ := account
  refine ⟨lost, ?_, fun some => ?_⟩
  · rw [balance, takes.inbox]
    simp
  · obtain ⟨reset, empty⟩ := why some
    have inbox := takes.inbox
    rw [empty] at inbox
    exact ⟨takes.far.trans reset, (List.append_eq_nil_iff.mp inbox.symm).2⟩

theorem Stream.Fed.same {before after : Stream} (inbox : after.inbox = before.inbox)
    (far : after.far = before.far) : Fed [] before after :=
  .grown (by rw [inbox, List.append_nil]) fun _ => ⟨rfl, far⟩

theorem Stream.deliver_fed (stream : Stream) (bytes : Bytes) :
    Fed (if (stream.deliver bytes).1 = true then bytes else []) stream (stream.deliver bytes).2 := by
  unfold deliver
  split
  next taken =>
    simp only [Bool.and_eq_true, beq_iff_eq] at taken
    exact .grown rfl fun gone => absurd taken.2 gone
  next refused => exact .same rfl rfl

namespace Net

variable (net : Net)

theorem changeStream_fed (client : String) (change : Stream → Stream)
    (fed : ∀ stream, Stream.Fed [] stream (change stream)) (index : Nat) :
    Stream.Fed [] (net.link index).stream ((net.changeStream client change).link index).stream := by
  unfold changeStream
  split
  next other found =>
    rw [link_updateLink]
    split
    next same => exact same ▸ fed _
    next different => exact .same rfl rfl
  next none => exact .same rfl rfl

theorem apply_fed (event : Event) {index : Nat} (known : index < net.linkCount) :
    Stream.Fed (net.arrival index event) (net.link index).stream
      ((net.apply event).2.link index).stream := by
  have old : index ≠ net.linkCount := Nat.ne_of_lt known
  cases event with
  | connect client address window maxSend port =>
    obtain ⟨born, _, _, _, link⟩ := net.connect_link client address window maxSend port
    have same : (net.connect client address window maxSend port).2.link index = net.link index :=
      (link index).trans (if_neg old)
    exact .same (by rw [apply, same]) (by rw [apply, same])
  | send client bytes =>
    rw [apply_send, changeStream, arrival]
    cases found : net.linkOf? client with
    | none => exact .same rfl rfl
    | some other =>
      simp only [Option.some.injEq, link_updateLink]
      by_cases same : other = index
      · subst same
        simpa using Stream.deliver_fed (net.link other).stream bytes
      · rw [if_neg fun both => same both.1, if_neg (Ne.symm same)]
        exact .same rfl rfl
  | close client =>
    refine changeStream_fed net client Stream.farClose (fun stream => ?_) index
    refine .grown (by simp [Stream.farClose]) fun gone => ⟨rfl, ?_⟩
    cases far : stream.far <;> simp_all [Stream.farClose]
  | reset client =>
    exact changeStream_fed net client Stream.farReset (fun stream => .reset rfl rfl rfl) index
  | window client size =>
    exact changeStream_fed net client (fun stream => { stream with window := size })
      (fun stream => .same rfl rfl) index
  | maxSend client size =>
    exact changeStream_fed net client (fun stream => { stream with maxSend := size })
      (fun stream => .same rfl rfl) index
  | grants client sizes =>
    exact changeStream_fed net client (fun stream => { stream with grants := sizes })
      (fun stream => .same rfl rfl) index
  | fail client call faults =>
    cases client with
    | none => exact .same rfl rfl
    | some client =>
      exact changeStream_fed net client
        (fun stream => { stream with faults := FaultQueue.push stream.faults call faults })
        (fun stream => .same rfl rfl) index
  | taken port => exact .same rfl rfl
  | interrupt => exact .same rfl rfl
  | shutdown => exact .same rfl rfl

/-- A client that is gone sends nothing more, and does not come to have closed what it had reset. -/
theorem applyAll_gone {net : Net} {index : Nat} (known : index < net.linkCount)
    (gone : (net.link index).stream.far ≠ .opened) (events : List Event) :
    net.arrivals index events = [] ∧ ((net.applyAll events).link index).stream.far ≠ .opened ∧
      (((net.applyAll events).link index).stream.far = .closed → (net.link index).stream.far = .closed) := by
  induction events generalizing net with
  | nil => exact ⟨rfl, gone, id⟩
  | cons event rest ih =>
    have known' : index < (net.apply event).2.linkCount :=
      Nat.lt_of_lt_of_le known (apply_grown net event).linkCount
    rw [arrivals]
    cases apply_fed net event known with
    | grown inbox far =>
      obtain ⟨nothing, same⟩ := far gone
      obtain ⟨more, still, closed⟩ := ih known' (same ▸ gone)
      exact ⟨by rw [nothing, more]; rfl, still, fun final => same ▸ closed final⟩
    | reset nothing inbox far =>
      obtain ⟨more, still, closed⟩ := ih known' (by rw [far]; decide)
      exact ⟨by rw [nothing, more]; rfl, still, fun final => absurd ((closed final).symm.trans far) (by decide)⟩

theorem arrival_unborn (event : Event) {index : Nat} (unknown : net.linkCount ≤ index) :
    net.arrival index event = [] := by
  cases event with
  | send client bytes =>
    refine if_neg fun both => ?_
    have known := net.linkOf?_lt both.1
    omega
  | _ => rfl

theorem apply_inbox (event : Event) {index : Nat} (unknown : net.linkCount ≤ index)
    (known : index < (net.apply event).2.linkCount) :
    ((net.apply event).2.link index).stream.inbox = [] := by
  rcases net.apply_cases event with ⟨client, address, window, maxSend, port, rfl⟩ | calm
  · obtain ⟨born, _, inbox, _, link⟩ := net.connect_link client address window maxSend port
    have count := net.connect_linkCount client address window maxSend port
    have upper : index < (net.connect client address window maxSend port).2.linkCount := known
    have new : index = net.linkCount := by omega
    rw [apply, link, if_pos new]
    exact inbox
  · have same := calm.linkCount
    omega

/-- Where the accounts of all clients stand: they hold of every link, and are blank for links that are
not there yet. -/
structure Ledger (sent read : Nat → Bytes) (net : Net) : Prop where
  balance : ∀ index, index < net.linkCount → (net.link index).stream.Account (sent index) (read index)
  unborn : ∀ index, net.linkCount ≤ index → sent index = [] ∧ read index = []

variable {net} {sent read : Nat → Bytes}

/-- What the client of a link has sent and nobody has read yet. -/
def unread (net : Net) (index : Nat) : Bytes :=
  if index < net.linkCount then (net.link index).stream.inbox else []

theorem unread_ledger (net : Net) : Ledger net.unread (fun _ => []) net where
  balance := fun index known => ⟨[], by simp [unread, known], fun some => absurd rfl some⟩
  unborn := fun index unknown => ⟨if_neg (Nat.not_lt_of_le unknown), rfl⟩

theorem Ledger.front (ledger : Ledger sent read net) (index : Nat) : read index <+: sent index := by
  by_cases known : index < net.linkCount
  · obtain ⟨lost, balance, _⟩ := ledger.balance index known
    exact ⟨_, balance.symm⟩
  · have noneRead := (ledger.unborn index (Nat.le_of_not_lt known)).2
    rw [noneRead]
    exact List.nil_prefix

theorem Ledger.apply (ledger : Ledger sent read net) (event : Event) :
    Ledger (fun index => sent index ++ net.arrival index event) read (net.apply event).2 where
  balance := by
    intro index known
    by_cases old : index < net.linkCount
    · exact (ledger.balance index old).fed (apply_fed net event old)
    · have unknown := Nat.le_of_not_lt old
      obtain ⟨noneSent, noneRead⟩ := ledger.unborn index unknown
      refine ⟨[], ?_, fun some => absurd rfl some⟩
      rw [noneSent, noneRead, arrival_unborn net event unknown, apply_inbox net event unknown known]
      rfl
  unborn := by
    intro index unknown
    have before := Nat.le_trans (apply_grown net event).linkCount unknown
    obtain ⟨noneSent, noneRead⟩ := ledger.unborn index before
    rw [noneSent, noneRead, arrival_unborn net event before]
    exact ⟨rfl, rfl⟩

theorem Ledger.applyAll (ledger : Ledger sent read net) (events : List Event) :
    Ledger (fun index => sent index ++ net.arrivals index events) read (net.applyAll events) := by
  induction events generalizing net sent with
  | nil => simpa [arrivals, Net.applyAll] using ledger
  | cons event rest ih =>
    have more := ih (ledger.apply event)
    simpa [arrivals, Net.applyAll, List.append_assoc] using more

theorem Ledger.settled (ledger : Ledger sent read net) {index : Nat} (known : index < net.linkCount)
    (empty : (net.link index).stream.inbox = []) (far : (net.link index).stream.far ≠ .reset) :
    sent index = read index := by
  obtain ⟨lost, balance, why⟩ := ledger.balance index known
  have none : lost = [] := by
    by_contra some
    exact far (why some).1
  rw [balance, empty, none, List.append_nil, List.append_nil]

/-- What a program may do to a network on which clients send: take front parts of inboxes. -/
structure Drawn (drawn : Nat → Bytes) (before after : Net) : Prop where
  linkCount : after.linkCount = before.linkCount
  taken : ∀ index, Stream.Taken (drawn index) (before.link index).stream (after.link index).stream

theorem Drawn.addressed {drawn : Nat → Bytes} {after : Net} (draws : Drawn drawn net after)
    (addressed : net.Addressed) : after.Addressed := by
  intro index
  rw [(draws.taken index).address]
  exact addressed index

theorem Ledger.drawn (ledger : Ledger sent read net) {drawn : Nat → Bytes} {after : Net}
    (draws : Drawn drawn net after) (known : ∀ index, net.linkCount ≤ index → drawn index = []) :
    Ledger sent (fun index => read index ++ drawn index) after where
  balance := by
    intro index old
    rw [draws.linkCount] at old
    exact (ledger.balance index old).taken (draws.taken index)
  unborn := by
    intro index unknown
    rw [draws.linkCount] at unknown
    obtain ⟨noneSent, noneRead⟩ := ledger.unborn index unknown
    rw [noneSent, noneRead, known index unknown]
    exact ⟨rfl, rfl⟩

end Net
end RelayBench
