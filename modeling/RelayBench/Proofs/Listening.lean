import RelayBench.Listener
import RelayBench.Proofs.Device.Calls
import RelayBench.Proofs.Net.Opening

/-! Beginning to listen: a listener that is bound and a device that connects open one door, or they stay as
they were and can try again. -/
namespace RelayBench

open Net (Opened Refused Orderly Reports AsBefore Clear Obstacle)

/-- To bind a listener opens one door, which is then the listener's. -/
def Listener.Binds (listener : Listener) (world : World) : Prop :=
  ∃ net entry, Opened listener.host listener.port listener.backlog world.net net ∧
    listener.bind world =
      .ok { listener with door := some world.net.doorCount } (World.write { world with net } entry)

theorem Listener.bind_course {listener : Listener} {world : World} (unbound : listener.door = none) :
    listener.Binds world ∨ ∃ fault net, listener.bind world = .error fault { world with net } ∧
      Refused listener.host listener.port listener.backlog world.net fault net := by
  rcases world.net.openDoor_course listener.host listener.port listener.backlog with
    ⟨net, ran, opened⟩ | ⟨fault, net, failed, refused⟩
  · exact .inl ⟨net, _, opened, by simp [bind, unbound, ran, address]; rfl⟩
  · exact .inr ⟨fault, net, by simp [bind, unbound, failed], refused⟩

theorem Listener.bind_clear {listener : Listener} {world : World} (unbound : listener.door = none)
    (clear : Clear listener.host listener.port listener.backlog world.net) : listener.Binds world := by
  obtain ⟨net, ran, opened⟩ := Net.openDoor_clear clear
  exact ⟨net, _, opened, by simp [bind, unbound, ran, address]; rfl⟩

namespace Device

/-- A device whose door is open and whose reader has not begun. -/
def launched (device : Device) (door : Nat) (net : Net) : Device :=
  { (device.behind door net).note (.device Logger.device "Listening" (device.behind door net).addressText) with
    reader := some .testing }

/-- To connect a device opens one door, at which its reader begins.  The door is there when the call returns, unless
a fault is in store for the reader or the device is closing already. -/
structure Starts (device : Device) (net : Net) : Prop where
  opened : Opened device.host device.port (some 1) device.world.net net
  starts : connect device = .ok () (resume (device.launched device.world.net.doorCount net))
  stays : device.closing = false → FaultQueue.holds device.world.net.faults .accept = false →
    resume (device.launched device.world.net.doorCount net) =
      { device.launched device.world.net.doorCount net with reader := some .awaiting }

theorem connect_opened {device : Device} {door : Nat} {net : Net} (unstarted : device.reader = none)
    (opened : Net.openDoor device.host device.port (some 1) device.world.net = .ok door net) :
    connect device = .ok () (resume (device.launched door net)) := by
  have ran : launch device = .ok () (device.launched door net) := by
    simp [launch, unstarted, opened, launched, behind, inNet]
  rw [connect_eq, Action.bind_ok ran, Action.modify_apply]

/-- A reader that nobody calls waits at its door. -/
theorem resume_launched {device : Device} {door : Nat} {net : Net} (asked : device.closing = false)
    (nobody : (net.door door).pending = []) (quiet : FaultQueue.holds net.faults .accept = false) :
    resume (device.launched door net) = { device.launched door net with reader := some .awaiting } := by
  have tested : advanceReader .testing (device.launched door net) = (.accepting, device.launched door net) := by
    show (if device.closing = true then _ else _, _) = _
    rw [asked]
    rfl
  have unanswered : (device.launched door net).world.net.hasCaller door = false := by
    simp [launched, behind, note, inNet, Net.hasCaller, nobody, quiet]
  have waits : advanceReader .accepting (device.launched door net) = (.awaiting, device.launched door net) := by
    show (if (device.launched door net).world.net.hasCaller door = true then _ else _) = _
    rw [unanswered]
    rfl
  have limit : 4 * ((device.launched door net).world.workload + 4) =
      4 * (device.launched door net).world.workload + 14 + 1 + 1 := by omega
  show runReader .testing _ = _
  simp only [runReader, tested, limit, advanceReaderToPark, ReaderPhase.isParked, waits, Bool.false_eq_true, if_false,
    if_true]

theorem starts_of_opened {device : Device} {net : Net} (unstarted : device.reader = none)
    (ran : Net.openDoor device.host device.port (some 1) device.world.net = .ok device.world.net.doorCount net)
    (opened : Opened device.host device.port (some 1) device.world.net net) : device.Starts net where
  opened := opened
  starts := connect_opened unstarted ran
  stays := fun asked quiet => by
    obtain ⟨given, _, listens⟩ := opened.listens
    refine resume_launched asked (by rw [listens]) ?_
    rw [Bool.eq_false_iff, Ne, FaultQueue.holds_iff, opened.spared .accept (by decide) (by simp [Call.setsUp]),
      ← FaultQueue.holds_iff, quiet]
    exact Bool.false_ne_true

theorem connect_course {device : Device} (unstarted : device.reader = none) :
    (∃ net, device.Starts net) ∨ ∃ fault net, connect device = .error fault (device.inNet net) ∧
      Refused device.host device.port (some 1) device.world.net fault net := by
  rcases device.world.net.openDoor_course device.host device.port (some 1) with
    ⟨net, ran, opened⟩ | ⟨fault, net, failed, refused⟩
  · exact .inl ⟨net, starts_of_opened unstarted ran opened⟩
  · exact .inr ⟨fault, net, by simp [connect, unstarted, failed, inNet], refused⟩

theorem connect_clear {device : Device} (unstarted : device.reader = none)
    (clear : Clear device.host device.port (some 1) device.world.net) : ∃ net, device.Starts net := by
  obtain ⟨net, ran, opened⟩ := Net.openDoor_clear clear
  exact ⟨net, starts_of_opened unstarted ran opened⟩

end Device

/-- A listener that is bound, or a device that connects, gets one new open door, or it stays as it was with a fault
and succeeds as soon as nothing stands in the way.  Where the operating system is all that can be in the way of
a door that was made, the fault tells the address and what went wrong, and no door is left open.  A fault that
comes before, or that comes from the closing of the door, comes through as it is, and so does one of another
kind, which alone leaves an idle door open. -/
theorem listening_of_call (listener : Listener) (world : World) (device : Device)
    (unbound : listener.door = none) (unstarted : device.reader = none) :
    (listener.Binds world ∨
      ∃ fault net, listener.bind world = .error fault { world with net } ∧
        Refused listener.host listener.port listener.backlog world.net fault net ∧
        (Orderly listener.host listener.port listener.backlog world.net →
          Reports listener.host listener.port listener.backlog world.net fault ∧ AsBefore world.net net) ∧
        ∀ later : World, Clear listener.host listener.port listener.backlog later.net → listener.Binds later) ∧
    ((∃ net, device.Starts net) ∨
      ∃ fault net, Device.connect device = .error fault (device.inNet net) ∧
        Refused device.host device.port (some 1) device.world.net fault net ∧
        (Orderly device.host device.port (some 1) device.world.net →
          Reports device.host device.port (some 1) device.world.net fault ∧ AsBefore device.world.net net) ∧
        ∀ later : World, Clear device.host device.port (some 1) later.net →
          ∃ net, { device with world := later }.Starts net) := by
  constructor
  · rcases listener.bind_course unbound with binds | ⟨fault, net, failed, refused⟩
    · exact .inl binds
    · exact .inr ⟨fault, net, failed, refused, refused.orderly, fun _ clear => Listener.bind_clear unbound clear⟩
  · rcases device.connect_course unstarted with starts | ⟨fault, net, failed, refused⟩
    · exact .inl starts
    · exact .inr ⟨fault, net, failed, refused, refused.orderly, fun later clear =>
        show ∃ net, Device.Starts { device with world := later } net from Device.connect_clear unstarted clear⟩

/-- The port is in other hands. -/
theorem listening_of_takenPort :
    let world : World := { net := { taken := [8000] } }
    let listener : Listener := { host := .named "127.0.0.1", port := 8000 }
    let device := Device.make (.named "127.0.0.1") 8000 4096 world
    (∃ fault net, listener.bind world = .error fault { world with net } ∧
      Reports listener.host 8000 listener.backlog world.net fault ∧ AsBefore world.net net) ∧
    ∃ fault net, Device.connect device = .error fault (device.inNet net) ∧
      Reports device.host 8000 (some 1) world.net fault ∧ AsBefore world.net net := by
  intro world listener device
  have orderly (host : Host) (backlog : Option Int) : Orderly host 8000 backlog world.net :=
    ⟨⟨nofun, nofun⟩, rfl, rfl, by decide, nofun⟩
  have occupied {host : Host} {backlog : Option Int} {net : Net} : ¬Opened host 8000 backlog world.net net := by
    intro opened
    obtain ⟨given, fits, _⟩ := opened.listens
    have free := fits.free
    rw [fits.asked (by decide)] at free
    cases free
  have course := listening_of_call listener world device rfl rfl
  constructor
  · rcases course.1 with ⟨net, _, opened, _⟩ | ⟨fault, net, failed, _, told, _⟩
    · exact absurd opened occupied
    · exact ⟨fault, net, failed, told (orderly _ _)⟩
  · rcases course.2 with ⟨net, starts⟩ | ⟨fault, net, failed, _, told, _⟩
    · exact absurd starts.opened occupied
    · exact ⟨fault, net, failed, told (orderly _ _)⟩

/-- A port that is none is told by a fault of another kind, and the door that was made stays open. -/
theorem listening_fails :
    let world : World := {}
    let listener : Listener := { host := .named "127.0.0.1", port := 65536 }
    let device := Device.make (.named "127.0.0.1") 65536 4096 world
    ∃ fault net, fault.kind ≠ .harness .bind ∧ listener.bind world = .error fault { world with net } ∧
      Device.connect device = .error fault (device.inNet net) ∧
      world.net.openDoors = [] ∧ net.openDoors = [0] := by
  refine ⟨.system .overflow [.text "bind(): port must be 0-65535."], (Net.called {} .socket).addDoor, by decide,
    rfl, rfl, rfl, rfl⟩

end RelayBench
