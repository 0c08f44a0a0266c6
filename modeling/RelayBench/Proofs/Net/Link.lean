import RelayBench.Net.Link
import RelayBench.Proofs.Net.FaultQueue
import RelayBench.Proofs.Transfer

/-! What the program's calls do to a link: a write puts out a prefix and breaks the link exactly when
it was cut off, a read takes from the inbox alone, and a closed link stays closed. -/
namespace RelayBench

/-- An address has a text unless it stops after the host. -/
theorem Address.text_ok {address : Address} (named : address.length ≠ 1) : ∃ name, text address = .ok name := by
  rcases address with _ | ⟨host, _ | ⟨port, rest⟩⟩
  · exact ⟨_, rfl⟩
  · simp at named
  · exact ⟨_, rfl⟩

/-- A refusal of a value, if it is one, that is the operating system's. -/
def Platform.OsOnly (refusal : Option Fault) : Prop := ∀ fault, refusal = some fault → fault.isOs = true

theorem Platform.osOnly_none : OsOnly none := nofun

namespace Stream

/-- The stream without what writes change. -/
def unwritten (stream : Stream) : Stream :=
  { stream with outbox := [], window := none, grants := [], faults := [] }

/-- The stream without what closing changes. -/
def unclosed (stream : Stream) : Stream := { stream with isOpen := false, faults := [] }

/-- The stream without what only its client changes and sees. -/
def side (stream : Stream) : Stream :=
  { stream with
    inbox := [], window := none, grants := [], maxSend := none, far := .opened, faults := [] }

/-- Whatever ends a call on the stream is the operating system's: every fault in store, and the stall of
a write. -/
structure AllOs (stream : Stream) : Prop where
  faults : FaultQueue.AllOs stream.faults
  ends : stream.endless = false

theorem AllOs.of_nil {stream : Stream} (nothing : stream.faults = []) (ends : stream.endless = false) :
    stream.AllOs :=
  ⟨nothing ▸ FaultQueue.allOs_nil, ends⟩

theorem called_allOs {stream : Stream} (os : stream.AllOs) (call : Call) : (stream.called call).AllOs :=
  ⟨FaultQueue.allOs_drop os.faults call, os.ends⟩

theorem stall_isOs {stream : Stream} (os : stream.AllOs) : stream.stall.isOs = true := by
  rw [stall, os.ends]
  rfl

/-- The ways in which one write goes: the end of the program is closed; a fault in store, the absence of the
client or the window it has closed ends the call; or it takes some bytes. -/
inductive Writes (stream : Stream) (data : Bytes) : Except Fault Nat × Stream → Prop
  | closed (shut : stream.isOpen = false) : Writes stream data (.error .badDescriptor, stream)
  | failed {fault : Fault} (found : FaultQueue.next stream.faults .send = some fault) :
      Writes stream data (.error fault, stream.called .send)
  | gone (left : stream.far ≠ .opened) : Writes stream data (.error .brokenPipe, stream.called .send)
  | stalled (blocked : stream.window = some 0) : Writes stream data (.error stream.stall, stream.called .send)
  | took (unblocked : stream.window ≠ some 0) :
      Writes stream data (.ok (stream.quota data.length),
        (stream.called .send).taking (data.take (stream.quota data.length)))

theorem write_course (stream : Stream) (data : Bytes) : Writes stream data (stream.write data) := by
  unfold write
  split
  next shut => exact .closed (by simpa using shut)
  · dsimp only
    split
    next found => exact .failed found
    · split
      next left => exact .gone left
      · split
        next blocked => exact .stalled blocked
        next unblocked => exact .took unblocked

/-- Writes to a stream are honest, and only writing shows afterwards. -/
theorem write_honest (stream : Stream) :
    Transfer.Honest (fun s => s.AllOs ∧ s.unwritten = stream.unwritten) Stream.outbox Stream.write where
  keeps := by
    intro sink data ⟨os, same⟩
    have dropped := called_allOs os .send
    have course := write_course sink data
    generalize sink.write data = wrote at course ⊢
    cases course with
    | closed => exact ⟨os, same⟩
    | took => exact ⟨⟨dropped.faults, dropped.ends⟩, same⟩
    | _ => exact ⟨dropped, same⟩
  takes := by
    intro sink data count after _ nonempty wrote
    have long : 0 < data.length := List.length_pos_iff.mpr nonempty
    have course := write_course sink data
    rw [wrote] at course
    cases course with
    | took unblocked => exact ⟨quota_pos _ long unblocked, quota_le _ _, rfl⟩
  refuses := by
    intro sink data fault after ⟨os, _⟩ _ wrote
    have course := write_course sink data
    rw [wrote] at course
    cases course with
    | failed found => exact ⟨FaultQueue.next_isOs os.faults found (by decide), rfl⟩
    | stalled => exact ⟨stall_isOs os, rfl⟩
    | _ => exact ⟨rfl, rfl⟩

theorem close_unclosed (stream : Stream) : stream.close.2.unclosed = stream.unclosed := by
  unfold close
  split
  · rfl
  · dsimp only
    split <;> rfl

theorem close_endless (stream : Stream) : stream.close.2.endless = stream.endless := by
  have same := congrArg Stream.endless stream.close_unclosed
  exact same

theorem shutdown_endless (stream : Stream) : stream.shutdown.2.endless = stream.endless := by
  unfold shutdown
  split
  · rfl
  · dsimp only
    split
    · rfl
    · split <;> rfl

theorem close_allOs (stream : Stream) (os : stream.AllOs) : stream.close.2.AllOs := by
  have called := called_allOs os .close
  unfold close
  split
  · exact os
  · dsimp only
    split <;> exact ⟨called.faults, called.ends⟩

theorem close_error_isOs (stream : Stream) (os : stream.AllOs) {fault : Fault}
    (failed : stream.close.1 = .error fault) : fault.isOs = true := by
  unfold close at failed
  split at failed
  · simp at failed
  · dsimp only at failed
    split at failed
    next raised found =>
      cases failed
      exact FaultQueue.next_isOs os.faults found (by decide)
    · simp at failed

/-- The ways in which one read goes: the end of the program is closed; a fault in store or the reset of the
client ends the call; nothing is there, or nothing more will be; or it takes the front of what is there. -/
inductive Reads (stream : Stream) (size : Nat) : Reading × Stream → Prop
  | closed (shut : stream.isOpen = false) : Reads stream size (.fault .badDescriptor, stream)
  | failed {fault : Fault} (found : FaultQueue.next stream.faults .recv = some fault) :
      Reads stream size (.fault fault, stream.called .recv)
  | reset (far : stream.far = .reset) : Reads stream size (.fault .connectionReset, stream.called .recv)
  | ended (far : stream.far = .closed) (empty : stream.inbox = []) :
      Reads stream size (.bytes [], stream.called .recv)
  | waiting (far : stream.far = .opened) (empty : stream.inbox = []) :
      Reads stream size (.nothing, stream.called .recv)
  | took (opened : stream.isOpen = true) (far : stream.far ≠ .reset) (unread : stream.inbox ≠ []) :
      Reads stream size
        (.bytes (stream.inbox.take size), { stream.called .recv with inbox := stream.inbox.drop size })

theorem read_course (stream : Stream) (size : Nat) : Reads stream size (stream.read size) := by
  unfold read
  split
  next shut => exact .closed (by simpa using shut)
  next opened =>
    dsimp only
    split
    next found => exact .failed found
    · split
      next far => exact .reset far
      next far empty => exact .ended far empty
      next far empty => exact .waiting far empty
      next stays ending waiting =>
        have unread : stream.inbox ≠ [] := by
          intro empty
          cases far : stream.far with
          | opened => exact waiting far empty
          | closed => exact ending far empty
          | reset => exact stays far
        exact .took (by simpa using opened) stays unread

theorem read_stores {kind : Call → Fault → Prop} (stream : Stream) (size : Nat)
    (stores : FaultQueue.Stores kind stream.faults) : FaultQueue.Stores kind (stream.read size).2.faults := by
  have dropped := FaultQueue.stores_drop stores .recv
  have course := stream.read_course size
  generalize stream.read size = ran at course ⊢
  cases course with
  | closed => exact stores
  | _ => exact dropped

@[simp] theorem read_endless (stream : Stream) (size : Nat) :
    (stream.read size).2.endless = stream.endless := by
  have course := stream.read_course size
  generalize stream.read size = ran at course ⊢
  cases course <;> rfl

theorem read_allOs (stream : Stream) (size : Nat) (os : stream.AllOs) : (stream.read size).2.AllOs where
  faults := read_stores stream size (show FaultQueue.Stores FaultQueue.IsOs stream.faults from os.faults)
  ends := (stream.read_endless size).trans os.ends

theorem read_fault_isOs (stream : Stream) (size : Nat) (os : stream.AllOs)
    {fault : Fault} (failed : (stream.read size).1 = .fault fault) : fault.isOs = true := by
  have course := stream.read_course size
  generalize stream.read size = ran at course failed
  cases course with
  | failed found =>
    cases failed
    exact FaultQueue.next_isOs os.faults found (by decide)
  | closed | reset =>
    cases failed
    rfl
  | _ => cases failed

theorem read_length (stream : Stream) (size : Nat) {bytes : Bytes}
    (read : (stream.read size).1 = .bytes bytes) : bytes.length ≤ size := by
  have course := stream.read_course size
  generalize stream.read size = ran at course read
  cases course <;> cases read
  · exact Nat.zero_le _
  · exact List.length_take_le _ _

end Stream

/-- What a program may do to a stream on which a client sends: take a front part of the inbox, and
leave the client's doings and address alone. -/
structure Stream.Taken (taken : Bytes) (before after : Stream) : Prop where
  inbox : before.inbox = taken ++ after.inbox
  far : after.far = before.far
  address : after.address = before.address

theorem Stream.Taken.trans {first second third : Stream} {early late : Bytes}
    (before : Taken early first second) (after : Taken late second third) :
    Taken (early ++ late) first third where
  inbox := by rw [before.inbox, after.inbox, List.append_assoc]
  far := after.far.trans before.far
  address := after.address.trans before.address

def Reading.taken : Reading → Bytes
  | .bytes payload => payload
  | .fault _ => []
  | .nothing => []

namespace Stream

theorem read_inbox (stream : Stream) (size : Nat) :
    stream.inbox = (stream.read size).1.taken ++ (stream.read size).2.inbox := by
  have course := stream.read_course size
  generalize stream.read size = ran at course ⊢
  cases course with
  | took => exact (List.take_append_drop size stream.inbox).symm
  | _ => rfl

@[simp] theorem read_far (stream : Stream) (size : Nat) :
    (stream.read size).2.far = stream.far := by
  have course := stream.read_course size
  generalize stream.read size = ran at course ⊢
  cases course <;> rfl

end Stream

namespace Link

/-- The link without what only its client changes and sees. -/
def side (link : Link) : Link := { link with stream := link.stream.side }

section

variable {link other : Link} (same : link.side = other.side)
include same

theorem side_closed : link.closed = other.closed :=
  (congrArg Link.closed same : link.side.closed = other.side.closed)

theorem side_broken : link.broken = other.broken :=
  (congrArg Link.broken same : link.side.broken = other.side.broken)

theorem side_isOpen : link.stream.isOpen = other.stream.isOpen :=
  (congrArg (fun link : Link => link.stream.isOpen) same : link.side.stream.isOpen = other.side.stream.isOpen)

theorem side_outbox : link.stream.outbox = other.stream.outbox :=
  (congrArg (fun link : Link => link.stream.outbox) same : link.side.stream.outbox = other.side.stream.outbox)

theorem side_endless : link.stream.endless = other.stream.endless :=
  (congrArg (fun link : Link => link.stream.endless) same : link.side.stream.endless = other.side.stream.endless)

theorem side_client : link.stream.client = other.stream.client :=
  (congrArg (fun link : Link => link.stream.client) same : link.side.stream.client = other.side.stream.client)

theorem side_address : link.stream.address = other.stream.address :=
  (congrArg (fun link : Link => link.stream.address) same : link.side.stream.address = other.side.stream.address)

end

variable (link : Link) (payload : Bytes)

theorem send_putsOut (os : link.stream.AllOs) :
    Transfer.PutsOut (fun s => s.AllOs ∧ s.unwritten = link.stream.unwritten)
      Stream.outbox link.stream payload (Transfer.run Stream.write link.stream payload).sent
      (Transfer.run Stream.write link.stream payload) :=
  (Transfer.run_putsOut (Stream.write_honest link.stream) link.stream payload ⟨os, rfl⟩).2

@[simp] theorem send_closed : (link.send payload).2.closed = link.closed := rfl

@[simp] theorem send_name : (link.send payload).2.name = link.name := rfl

theorem send_allOs (os : link.stream.AllOs) : (link.send payload).2.stream.AllOs :=
  (send_putsOut link payload os).kept.1

theorem send_unwritten (os : link.stream.AllOs) :
    (link.send payload).2.stream.unwritten = link.stream.unwritten :=
  (send_putsOut link payload os).kept.2

/-- A write puts out a prefix of its payload.  It puts out all of it and leaves the link as sound as
before when it succeeds; else a system fault cut it off, and the link is broken if it was before or
if some bytes had gone out. -/
theorem send_outbox (os : link.stream.AllOs) :
    ∃ count, (link.send payload).2.stream.outbox = link.stream.outbox ++ payload.take count ∧
      match (link.send payload).1 with
      | .ok () => count = payload.length ∧ (link.send payload).2.broken = link.broken
      | .error fault => fault.isOs = true ∧ count < payload.length ∧
          (link.send payload).2.broken = (link.broken || decide (0 < count)) := by
  have course := send_putsOut link payload os
  refine ⟨_, course.out, ?_⟩
  show match (Transfer.run Stream.write link.stream payload).result with
    | .ok () => _ ∧ (link.broken || (Transfer.run Stream.write link.stream payload).isCutOff) = _
    | .error fault => _ ∧ _ ∧
        (link.broken || (Transfer.run Stream.write link.stream payload).isCutOff) = _
  cases result : (Transfer.run Stream.write link.stream payload).result with
  | ok done => exact ⟨course.whole result, by rw [Transfer.isCutOff_of_ok result, Bool.or_false]⟩
  | error fault =>
    obtain ⟨system, short⟩ := course.part fault result
    exact ⟨system, short, by rw [Transfer.isCutOff_of_error result system]⟩

theorem send_error_isOs (os : link.stream.AllOs) {fault : Fault}
    (failed : (link.send payload).1 = .error fault) : fault.isOs = true :=
  ((send_putsOut link payload os).part fault failed).1

@[simp] theorem close_closed : link.close.2.closed = true := by
  unfold close
  split
  · assumption
  · rfl

@[simp] theorem close_name : link.close.2.name = link.name := by
  unfold close
  split <;> rfl

@[simp] theorem close_broken : link.close.2.broken = link.broken := by
  unfold close
  split <;> rfl

theorem close_isOpen (opened : link.closed = false) : link.close.2.stream.isOpen = false := by
  simp only [close, opened, Bool.false_eq_true, if_false]
  exact Stream.close_isOpen link.stream

theorem close_unclosed : link.close.2.stream.unclosed = link.stream.unclosed := by
  unfold close
  split
  · rfl
  · exact Stream.close_unclosed link.stream

@[simp] theorem close_outbox : link.close.2.stream.outbox = link.stream.outbox := by
  have same := congrArg Stream.outbox link.close_unclosed
  exact same

@[simp] theorem close_client : link.close.2.stream.client = link.stream.client := by
  have same := congrArg Stream.client link.close_unclosed
  exact same

theorem close_allOs (os : link.stream.AllOs) :
    link.close.2.stream.AllOs := by
  unfold close
  split
  · exact os
  · exact Stream.close_allOs link.stream os

theorem close_error_isOs (os : link.stream.AllOs) {fault : Fault}
    (failed : link.close.1 = .error fault) : fault.isOs = true := by
  unfold close at failed
  split at failed
  · simp at failed
  · exact Stream.close_error_isOs link.stream os failed

/-- What a read comes to: the fault of its size, or what the stream gives. -/
theorem read_cases (platform : Platform) (size : Int) :
    (∃ fault, platform.sizeFault size = some fault ∧ link.read platform size = (.fault fault, link)) ∨
      platform.sizeFault size = none ∧ link.read platform size =
        ((link.stream.read size.toNat).1, { link with stream := (link.stream.read size.toNat).2 }) := by
  cases answer : platform.sizeFault size with
  | some fault => exact .inl ⟨fault, rfl, by simp only [read, answer]⟩
  | none => exact .inr ⟨rfl, by simp only [read, answer]⟩

/-- A read shows nowhere but in the inbox and the fault queue. -/
theorem read_side (platform : Platform) (size : Int) : (link.read platform size).2.side = link.side := by
  rcases link.read_cases platform size with ⟨fault, _, ran⟩ | ⟨_, ran⟩ <;> rw [ran]
  have course := link.stream.read_course size.toNat
  generalize link.stream.read size.toNat = read at course ⊢
  cases course <;> rfl

@[simp] theorem read_closed (platform : Platform) (size : Int) :
    (link.read platform size).2.closed = link.closed :=
  side_closed (link.read_side platform size)

@[simp] theorem read_outbox (platform : Platform) (size : Int) :
    (link.read platform size).2.stream.outbox = link.stream.outbox :=
  side_outbox (link.read_side platform size)

theorem read_allOs (platform : Platform) (size : Int) (os : link.stream.AllOs) :
    (link.read platform size).2.stream.AllOs := by
  rcases link.read_cases platform size with ⟨fault, _, ran⟩ | ⟨_, ran⟩ <;> rw [ran]
  · exact os
  · exact Stream.read_allOs _ _ os

theorem read_stores {kind : Call → Fault → Prop} (platform : Platform) (size : Int)
    (stores : FaultQueue.Stores kind link.stream.faults) :
    FaultQueue.Stores kind (link.read platform size).2.stream.faults := by
  rcases link.read_cases platform size with ⟨_, _, ran⟩ | ⟨_, ran⟩ <;> rw [ran]
  · exact stores
  · exact Stream.read_stores _ _ stores

/-- A read of a size that the platform takes is a read of the stream. -/
theorem read_ok {platform : Platform} {size : Int} (taken : platform.sizeFault size = none) :
    link.read platform size =
      ((link.stream.read size.toNat).1, { link with stream := (link.stream.read size.toNat).2 }) := by
  simp only [read, taken]

/-- A read of a closed link fails. -/
theorem read_shut (platform : Platform) (size : Int) (shut : link.stream.isOpen = false) :
    ∃ fault, (link.read platform size).1 = .fault fault := by
  rcases link.read_cases platform size with ⟨fault, _, ran⟩ | ⟨_, ran⟩
  · exact ⟨fault, by rw [ran]⟩
  · exact ⟨.badDescriptor, by simp [ran, Stream.read, shut]⟩

theorem read_length (platform : Platform) (size : Int) {bytes : Bytes}
    (read : (link.read platform size).1 = .bytes bytes) : bytes.length ≤ size.toNat := by
  rcases link.read_cases platform size with ⟨fault, _, ran⟩ | ⟨_, ran⟩
  · rw [ran] at read
    cases read
  · rw [ran] at read
    exact Stream.read_length _ _ read

section

variable (platform : Platform) (limit : Option Number)

/-- The stream of a link that was adopted: it is under the limit, if the platform takes it. -/
theorem adopt_stream : (link.adopt platform limit).2.stream = link.stream ∨
    (link.adopt platform limit).2.stream = link.stream.limited platform limit := by
  unfold adopt
  split
  · exact .inl rfl
  · dsimp only
    split <;> exact .inr rfl

@[simp] theorem adopt_isOpen : (link.adopt platform limit).2.stream.isOpen = link.stream.isOpen := by
  rcases link.adopt_stream platform limit with same | same <;> rw [same]
  rfl

@[simp] theorem adopt_outbox : (link.adopt platform limit).2.stream.outbox = link.stream.outbox := by
  rcases link.adopt_stream platform limit with same | same <;> rw [same]
  rfl

@[simp] theorem adopt_client : (link.adopt platform limit).2.stream.client = link.stream.client := by
  rcases link.adopt_stream platform limit with same | same <;> rw [same]
  rfl

@[simp] theorem adopt_faults : (link.adopt platform limit).2.stream.faults = link.stream.faults := by
  rcases link.adopt_stream platform limit with same | same <;> rw [same]
  rfl

theorem adopt_closed (opened : link.closed = false) : (link.adopt platform limit).2.closed = false := by
  unfold adopt
  split
  · exact opened
  · dsimp only
    split
    · rfl
    · exact opened

theorem adopt_broken (sound : link.broken = false) : (link.adopt platform limit).2.broken = false := by
  unfold adopt
  split
  · exact sound
  · dsimp only
    split
    · rfl
    · exact sound

theorem adopt_taken : Stream.Taken [] link.stream (link.adopt platform limit).2.stream := by
  rcases link.adopt_stream platform limit with same | same <;> rw [same] <;> exact ⟨rfl, rfl, rfl⟩

theorem adopt_allOs (os : link.stream.AllOs) (ends : platform.isEndless limit = false) :
    (link.adopt platform limit).2.stream.AllOs := by
  rcases link.adopt_stream platform limit with same | same <;> rw [same]
  · exact os
  · exact ⟨os.faults, ends⟩

variable {platform limit}

/-- Whether a link can be adopted depends on its address only. -/
theorem adopt_congr {link other : Link} (address : other.stream.address = link.stream.address) :
    (other.adopt platform limit).1 = (link.adopt platform limit).1 := by
  unfold adopt
  split
  · rfl
  · simp only [Stream.limited, address]
    split <;> rfl

variable (taken : platform.limitFault limit = none)
include taken

theorem adopt_limited : (link.adopt platform limit).2.stream = link.stream.limited platform limit := by
  simp only [adopt, taken]
  split <;> rfl

/-- Under a limit that brings writes to an end, a link whose writes ended before is left alone but for the limit. -/
theorem adopt_timeout (ends : platform.isEndless limit = false) (before : link.stream.endless = false) :
    (link.adopt platform limit).2.stream = { link.stream with timeout := limit } := by
  rw [adopt_limited link taken, Stream.limited, ends, ← before]

/-- A link can be adopted under a limit that the platform takes, unless its address stops after the host. -/
theorem adopt_ok (addressed : link.stream.address.length ≠ 1) :
    ∃ name, link.adopt platform limit = (.ok (),
      { stream := link.stream.limited platform limit, name, closed := false, broken := false }) := by
  obtain ⟨name, named⟩ := Address.text_ok addressed
  exact ⟨name, by simp [adopt, taken, Stream.limited, named]⟩

end

theorem read_taken (platform : Platform) (size : Int) :
    Stream.Taken (link.read platform size).1.taken link.stream (link.read platform size).2.stream := by
  rcases link.read_cases platform size with ⟨fault, _, ran⟩ | ⟨_, ran⟩
  · rw [ran]
    exact ⟨rfl, rfl, rfl⟩
  · have address := side_address (link.read_side platform size)
    rw [ran] at address ⊢
    exact ⟨Stream.read_inbox _ _, Stream.read_far _ _, address⟩

theorem close_taken : Stream.Taken [] link.stream link.close.2.stream := by
  have same := link.close_unclosed
  have inbox := congrArg Stream.inbox same
  have far := congrArg Stream.far same
  have address := congrArg Stream.address same
  exact ⟨inbox.symm, far, address⟩

end Link
end RelayBench
