import RelayBench.Proofs.Listening
import RelayBench.Proofs.Relay.Run
import RelayBench.Proofs.Settings

/-! A relay from settings whose host and port are overridden.  All that is not overridden comes from the
settings; but an overriding port is not checked as the port of new settings is, and a relay whose port is out of
range is refused only when it is bound. -/
namespace RelayBench

namespace Settings

/-- A port that settings may have; zero stands for any free one. -/
def InRange (port : Int) : Prop := 0 ≤ port ∧ port ≤ 65535

instance (port : Int) : Decidable (InRange port) := inferInstanceAs (Decidable (_ ∧ _))

/-- How a port out of range is refused. -/
def outOfRange (port : Int) : Fault := .harness .configuration "Port out of range" [("port", .int port)] none

theorem checkPort_outside {port : Int} (outside : ¬ InRange port) : checkPort port = .error (outOfRange port) :=
  if_neg (by simpa [InRange] using outside)

end Settings

open Settings (InRange outOfRange)

namespace RelaySettings

theorem make_outside {port : Int} (outside : ¬ InRange port) (host : Option Host) (env : Environment) :
    make { host, port := some port } env = .error (outOfRange port) := by
  have refused : Settings.choosePort (some port) env = .error (outOfRange port) := Settings.checkPort_outside outside
  rw [make, refused]
  rfl

theorem make_host {arguments : RelayArguments} {env : Environment} {settings : RelaySettings}
    (made : make arguments env = .ok settings) : settings.host = Settings.chooseHost arguments.host env := by
  rw [make] at made
  cases port : Settings.choosePort arguments.port env with
  | error fault => rw [port] at made; cases made
  | ok number =>
    cases size : Settings.chooseSize "recv_size" arguments.recvSize env with
    | error fault => rw [port, size] at made; cases made
    | ok bytes =>
      cases limit : Settings.chooseWriteTimeout arguments.writeTimeout env with
      | error fault => rw [port, size, limit] at made; cases made
      | ok seconds =>
        rw [port, size, limit] at made
        cases made
        rfl

/-- Settings that are made have the host and the port that are asked for. -/
theorem make_asked {host : Option Host} {port : Option Int} {env : Environment} {settings : RelaySettings}
    (made : make { host, port } env = .ok settings) : (∀ name ∈ host, settings.host = name) ∧
      (∀ number ∈ port, settings.port = number) ∧ InRange settings.port := by
  refine ⟨fun name known => ?_, ?_⟩
  · cases known
    exact make_host made
  · rcases make_cases { host, port } env with ⟨_, taken, asked, lower, upper, _⟩ | ⟨fault, failed, _⟩
    · obtain rfl := Except.ok.inj (made.symm.trans taken)
      refine ⟨fun number known => ?_, lower, upper⟩
      cases known
      exact (Except.ok.inj asked).symm
    · cases made.symm.trans failed

end RelaySettings

/-- A listener whose port is out of range can never be bound. -/
theorem Listener.bind_outside {listener : Listener} (unbound : listener.door = none)
    (outside : ¬ InRange listener.port) (world : World) :
    ∃ fault net, listener.bind world = .error fault { world with net } := by
  rcases listener.bind_course unbound with ⟨net, entry, opened, _⟩ | ⟨fault, net, failed, _⟩
  · obtain ⟨given, fits, _⟩ := opened.listens
    exact absurd fits.inside outside
  · exact ⟨fault, net, failed⟩

namespace Relay

/-- A relay from given settings has them, but for a host and a port that override theirs, and its listener has
the host, the port, the backlog and the write limit that come of it; the given settings are a value, and no relay
changes them.  New settings that are asked for the same host and port have these too, so the two ways agree as
long as the port is in range.  They do not where an overriding port is out of range: new settings are refused and
so is a relay without given settings, but from given settings there is a relay, which can then never be bound.
The port of a relay is in range but for this case. -/
theorem overrides_of_make (given : RelaySettings) (host : Option Host) (port : Option Int) (env : Environment)
    (world : World) (ranged : InRange given.port) :
    let asked := { given with host := host.getD given.host, port := port.getD given.port }
    let relay := ofSettings asked world
    make (some given) host port env world = .ok relay ∧ relay.settings = asked ∧
    relay.listener =
      { host := asked.host, port := asked.port, backlog := given.backlog, writeTimeout := given.writeTimeout } ∧
    (∀ fresh, RelaySettings.make { host, port } env = .ok fresh →
      (∀ name ∈ host, asked.host = fresh.host) ∧ (∀ number ∈ port, asked.port = fresh.port) ∧
      InRange relay.listener.port) ∧
    (∀ number ∈ port, ¬ InRange number →
      RelaySettings.make { host, port } env = .error (outOfRange number) ∧
      make none host port env world = .error (outOfRange number) ∧
      ∀ later : World, ∃ fault net, relay.listener.bind later = .error fault { later with net }) ∧
    (InRange relay.listener.port ↔ ∀ number ∈ port, InRange number) ∧
    ∀ other, make none host port env world = .ok other → InRange other.listener.port := by
  intro asked relay
  have inside : InRange relay.listener.port ↔ ∀ number ∈ port, InRange number := by
    cases port with
    | none => exact ⟨fun _ _ known => (nomatch known), fun _ => ranged⟩
    | some number => exact ⟨fun inside _ known => Option.some.inj known ▸ inside, fun inside => inside number rfl⟩
  refine ⟨rfl, rfl, rfl, fun fresh made => ?_, fun number known outside => ?_, inside, fun other made => ?_⟩
  · obtain ⟨named, numbered, fits⟩ := RelaySettings.make_asked made
    refine ⟨fun name known => ?_, fun number known => ?_, inside.mpr fun number known => numbered number known ▸ fits⟩
    · rw [named name known]
      exact congrArg (Option.getD · given.host) known
    · rw [numbered number known]
      exact congrArg (Option.getD · given.port) known
  · obtain rfl : port = some number := known
    have refused := RelaySettings.make_outside outside host env
    refine ⟨refused, ?_, Listener.bind_outside rfl outside⟩
    simp only [make, refused]
  · simp only [make] at made
    cases fresh : RelaySettings.make { host, port } env with
    | error fault =>
      rw [fresh] at made
      cases made
    | ok settings =>
      rw [fresh] at made
      cases made
      exact (RelaySettings.make_asked fresh).2.2

/-- Another host, and the same port as before. -/
theorem overrides_of_plainSettings :
    ∃ relay, make (some plainSettings) (some (.named "localhost")) none {} {} = .ok relay ∧
      relay.settings = { plainSettings with host := .named "localhost" } ∧ InRange relay.listener.port := by
  have ranged : InRange plainSettings.port := by decide
  obtain ⟨made, kept, _, _, _, inside, _⟩ :=
    overrides_of_make plainSettings (some (.named "localhost")) none {} {} ranged
  exact ⟨_, made, kept, inside.mpr nofun⟩

/-- A port that new settings refuse is taken when it overrides, and what refuses it in the end is the binding, by
a fault of another kind. -/
theorem overrides_fail : ∃ relay, make (some plainSettings) none (some 70000) {} {} = .ok relay ∧
    relay.listener.port = 70000 ∧
    RelaySettings.make { port := some 70000 } {} = .error (outOfRange 70000) ∧
    ∃ fault after, bind relay = .error fault after ∧ fault.kind = .system .overflow :=
  ⟨_, rfl, rfl, RelaySettings.make_outside (by decide) none {}, _, _, rfl, rfl⟩

end Relay
end RelayBench
