import RelayBench.Proofs.FanOut
import RelayBench.Proofs.Net.Door

/-! Networks that can be relied on.  Readiness calls work, every link has a full address, and no fault queue
holds a read back by an empty entry; so what is reported readable is there to be read, and events do not
change that. -/
namespace RelayBench

namespace FaultQueue

theorem drop_subset (queue : FaultQueue) (call : Call) : FaultQueue.drop queue call ⊆ queue :=
  fun _ member => List.mem_of_mem_eraseP member

/-- A call for which there is an entry, and no empty one, fails. -/
theorem next_of_holds {queue : FaultQueue} {call : Call} (full : (call, none) ∉ queue)
    (holds : FaultQueue.holds queue call = true) : ∃ fault, FaultQueue.next queue call = some fault := by
  obtain ⟨entry, member, named⟩ := List.any_eq_true.mp holds
  cases first : queue.find? fun entry => entry.1 == call with
  | none => exact absurd named (by simpa using List.find?_eq_none.mp first entry member)
  | some found =>
    have own : found.1 = call := by simpa using List.find?_some first
    rcases found with ⟨other, _ | fault⟩
    · subst own
      exact absurd (List.mem_of_find?_eq_some first) full
    · exact ⟨fault, by simp [FaultQueue.next, first]⟩

end FaultQueue

namespace Stream

theorem read_subset (stream : Stream) (size : Nat) : (stream.read size).2.faults ⊆ stream.faults := by
  have fewer := FaultQueue.drop_subset stream.faults .recv
  have course := stream.read_course size
  generalize stream.read size = ran at course ⊢
  cases course with
  | closed => exact List.Subset.refl _
  | _ => exact fewer

theorem write_subset (stream : Stream) (data : Bytes) : (stream.write data).2.faults ⊆ stream.faults := by
  have fewer := FaultQueue.drop_subset stream.faults .send
  have course := stream.write_course data
  generalize stream.write data = wrote at course ⊢
  cases course with
  | closed => exact List.Subset.refl _
  | _ => exact fewer

theorem close_subset (stream : Stream) : stream.close.2.faults ⊆ stream.faults := by
  have fewer := FaultQueue.drop_subset stream.faults .close
  unfold close
  split
  · exact List.Subset.refl _
  · dsimp only
    split <;> exact fewer

theorem shutdown_subset (stream : Stream) : stream.shutdown.2.faults ⊆ stream.faults := by
  have fewer := FaultQueue.drop_subset stream.faults .shutdown
  unfold shutdown
  split
  · exact List.Subset.refl _
  · dsimp only
    split
    · exact fewer
    · split <;> exact fewer

/-- What is readable is read: bytes, the end of the stream, or a fault. -/
theorem read_readable (stream : Stream) (size : Nat) (full : (Call.recv, none) ∉ stream.faults)
    (readable : stream.isReadable = true) : (stream.read size).1 ≠ .nothing := by
  intro nothing
  unfold read at nothing
  split at nothing
  · cases nothing
  · dsimp only at nothing
    split at nothing
    · cases nothing
    next quiet =>
      split at nothing <;> cases nothing
      next far empty =>
        have holds : FaultQueue.holds stream.faults .recv = true := by
          simpa [isReadable, far, empty] using readable
        obtain ⟨fault, raises⟩ := FaultQueue.next_of_holds full holds
        cases quiet.symm.trans raises

end Stream

namespace Link

theorem read_subset (link : Link) (platform : Platform) (size : Int) :
    (link.read platform size).2.stream.faults ⊆ link.stream.faults := by
  rcases link.read_cases platform size with ⟨_, _, ran⟩ | ⟨_, ran⟩ <;> rw [ran]
  · exact List.Subset.refl _
  · exact Stream.read_subset _ _

theorem send_subset (link : Link) (payload : Bytes) :
    (link.send payload).2.stream.faults ⊆ link.stream.faults := by
  have keeps (sink : Stream) (data : Bytes) (fewer : sink.faults ⊆ link.stream.faults) :
      (sink.write data).2.faults ⊆ link.stream.faults :=
    List.Subset.trans (sink.write_subset data) fewer
  exact Transfer.pump_kept keeps payload.length link.stream payload 0 0 (List.Subset.refl _)

theorem close_subset (link : Link) : link.close.2.stream.faults ⊆ link.stream.faults := by
  unfold close
  split
  · exact List.Subset.refl _
  · exact link.stream.close_subset

theorem served_subset (link : Link) (payload : Bytes) :
    (link.served payload).stream.faults ⊆ link.stream.faults := by
  have written := link.send_subset payload
  unfold served
  split
  · exact List.Subset.trans (link.send payload).2.close_subset written
  · exact written

end Link

namespace Event

/-- What an event makes of the stream that it is about. -/
def change : Event → Stream → Stream
  | .send _ bytes, stream => (stream.deliver bytes).2
  | .close _, stream => stream.farClose
  | .reset _, stream => stream.farReset
  | .window _ size, stream => { stream with window := size }
  | .maxSend _ size, stream => { stream with maxSend := size }
  | .grants _ sizes, stream => { stream with grants := sizes }
  | .fail (some _) call faults, stream => { stream with faults := FaultQueue.push stream.faults call faults }
  | _, stream => stream

/-- Nothing stops being readable by what a client does. -/
theorem change_readable (event : Event) {stream : Stream} (readable : stream.isReadable = true) :
    (event.change stream).isReadable = true := by
  cases event with
  | send client bytes =>
    simp only [change, Stream.deliver]
    split
    · simp only [Stream.isReadable, Bool.or_eq_true, Bool.not_eq_true', List.isEmpty_eq_false_iff,
        List.append_eq_nil_iff, ne_eq, not_and_or] at readable ⊢
      exact readable.imp (Or.imp .inl id) id
    · exact readable
  | close client => by_cases far : stream.far = .reset <;> simp [change, Stream.farClose, Stream.isReadable, far]
  | reset client => rfl
  | fail client call faults =>
    cases client with
    | none => exact readable
    | some client =>
      simp only [change, Stream.isReadable, FaultQueue.push, FaultQueue.holds, List.any_append,
        Bool.or_eq_true] at readable ⊢
      exact readable.imp id .inl
  | _ => exact readable

/-- The event breaks no readiness call, brings in no link without a full address, and holds no read back. -/
structure Candid (event : Event) : Prop where
  addressed : event.Addressed
  waits : event.Stores (fun call _ => call ≠ .select) fun _ _ => True
  reads : ∀ client faults, event = .fail (some client) .recv faults → none ∉ faults

theorem Candid.change {event : Event} (candid : event.Candid) {stream : Stream}
    (full : (Call.recv, none) ∉ stream.faults) : (Call.recv, none) ∉ (event.change stream).faults := by
  cases event with
  | send client bytes =>
    simp only [Event.change, Stream.deliver]
    split <;> exact full
  | fail client call faults =>
    cases client with
    | none => exact full
    | some client =>
      intro member
      rcases List.mem_append.mp member with old | new
      · exact full old
      · obtain ⟨fault, inside, same⟩ := List.mem_map.mp new
        cases same
        exact candid.reads client faults rfl inside
  | _ => exact full

end Event

namespace Net

theorem changeStream_kept {kind : Stream → Prop} (net : Net) (client : String) {change : Stream → Stream}
    (keeps : ∀ stream, kind stream → kind (change stream)) {index : Nat}
    (before : kind (net.link index).stream) : kind ((net.changeStream client change).link index).stream := by
  unfold changeStream
  split
  · rw [link_updateLink]
    split
    next same => exact keeps _ (same ▸ before)
    · exact before
  · exact before

/-- What the change of an event keeps of a stream, and holds of a new one, the event keeps of every link. -/
theorem apply_link {kind : Stream → Prop} (net : Net) {event : Event}
    (keeps : ∀ stream, kind stream → kind (event.change stream)) {index : Nat}
    (born : index = net.linkCount → ∀ client address window maxSend port,
      kind (net.newcomer client address window maxSend port).stream)
    (before : kind (net.link index).stream) : kind ((net.apply event).2.link index).stream := by
  cases event with
  | connect client address window maxSend port =>
    rw [apply, link_connect]
    split
    next new => exact born new client address window maxSend port
    · exact before
  | send client bytes =>
    rw [apply_send]
    exact changeStream_kept net client keeps before
  | close client => exact changeStream_kept net client keeps before
  | reset client => exact changeStream_kept net client keeps before
  | window client size => exact changeStream_kept net client keeps before
  | maxSend client size => exact changeStream_kept net client keeps before
  | grants client sizes => exact changeStream_kept net client keeps before
  | fail client call faults =>
    cases client with
    | none => exact before
    | some client => exact changeStream_kept net client keeps before
  | taken port => exact before
  | interrupt => exact before
  | shutdown => exact before

/-- Readiness calls work, every link has a full address, and no read is held back by an empty entry. -/
structure Candid (net : Net) : Prop where
  addressed : net.Addressed
  waits : FaultQueue.Stores (fun call _ => call ≠ .select) net.faults
  reads : ∀ index, (Call.recv, none) ∉ (net.link index).stream.faults

theorem Candid.quiet {net : Net} (candid : net.Candid) : FaultQueue.next net.faults .select = none := by
  by_contra raised
  obtain ⟨fault, found⟩ := Option.ne_none_iff_exists'.mp raised
  exact FaultQueue.next_stored candid.waits found rfl

theorem Candid.called {net : Net} (candid : net.Candid) (call : Call) : (net.called call).Candid where
  addressed := candid.addressed
  waits := FaultQueue.stores_drop candid.waits call
  reads := candid.reads

theorem Candid.apply {net : Net} (candid : net.Candid) {event : Event} (fair : event.Candid) :
    (net.apply event).2.Candid where
  addressed := apply_addressed candid.addressed fair.addressed
  waits := by
    have stores : net.Stores (fun call _ => call ≠ .select) fun _ _ => True :=
      ⟨candid.waits, fun _ _ _ _ => trivial⟩
    exact (apply_stores net stores fair.waits).calls
  reads := fun index =>
    @apply_link (fun stream => (Call.recv, none) ∉ stream.faults) net event (fun _ full => fair.change full)
      index (fun _ _ _ _ _ _ => List.not_mem_nil) (candid.reads index)

end Net
end RelayBench
