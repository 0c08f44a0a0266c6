import RelayBench.CommandLine.Run
import RelayBench.Proofs.Device.Housing
import RelayBench.Proofs.Relay.Foreground
import RelayBench.Proofs.Settings

/-! How a run of the command line ends, where an address may be unavailable and all else can be relied on.  It
ends with help or a complaint, or it returns a status, and then it has told of every failure and left nothing
open.  Some mistakes in the arguments get past all this: a log level that has no name, a separator that stands in
the place of a number, and a value that the settings accept and the platform does not take. -/
namespace RelayBench

namespace LogSetup

/-- The names of levels, in capitals. -/
def names : List String := ["NOTSET", "DEBUG", "INFO", "WARNING", "WARN", "ERROR", "CRITICAL", "FATAL"]

end LogSetup

namespace CommandLine

/-- What a command line ends with that is not run: the help of a command, or a complaint and how it is used. -/
inductive Halts : Halt → Prop
  | helps (grammar : Grammar) : Halts grammar.showHelp
  | refuses (grammar : Grammar) (message : String) : Halts (grammar.refuse message)

theorem Halts.status {halt : Halt} (halts : Halts halt) : halt.status = 0 ∨ halt.status = 2 := by
  cases halts with
  | helps grammar => exact .inl rfl
  | refuses grammar message => exact .inr rfl

theorem bind_error {α β ε : Type} {given : Except ε α} {next : α → Except ε β} {e : ε}
    (failed : given >>= next = .error e) : given = .error e ∨ ∃ a, given = .ok a ∧ next a = .error e := by
  cases given with
  | error other => cases failed; exact .inl rfl
  | ok a => exact .inr ⟨a, rfl, failed⟩

section

variable {grammar : Grammar} {rule : OptionRule} {choices : Choices} {halt : Halt}

end

namespace Request

/-- A separator stands in the place of a number. -/
def Blank (request : Request) : Prop := request.port = some .nothing ∨ request.size = some .nothing

/-- Where a request is to listen: the host, the port and the backlog. -/
def place (request : Request) (env : Environment) : Except Fault (Host × Int × Option Int) :=
  match request.command with
  | .relay => (request.relaySettings env).map fun settings => (settings.host, settings.port, settings.backlog)
  | .device => (request.deviceSettings env).map fun settings => (settings.host, settings.port, some 1)

/-- The platform of a world takes what the settings of a request hand to its calls. -/
def Suited (request : Request) (env : Environment) (world : World) : Prop :=
  match request.command with
  | .relay => ∀ settings, request.relaySettings env = .ok settings → (Relay.ofSettings settings world).Suited
  | .device => ∀ settings, request.deviceSettings env = .ok settings → world.net.Takes settings.host (some 1)

/-- What the platform takes does not depend on what is wanted of the log. -/
theorem Suited.loud {request : Request} {env : Environment} {world : World} (suited : request.Suited env world)
    (threshold : Int) : request.Suited env { world with threshold } := by
  unfold Suited at suited ⊢
  split at suited
  · exact fun settings made => (suited settings made).of_same rfl rfl rfl
  · exact suited

theorem suited_of_blank (request : Request) (env : Environment) {world : World}
    (blank : world.net.platform = {}) : request.Suited env world := by
  unfold Suited
  split
  · exact fun settings _ => Relay.suited_of_blank blank
  · intro settings _
    constructor <;> rw [blank] <;> exact Platform.osOnly_none

/-- Why there are no settings: they are refused, or a separator that stands for a number gets in their way. -/
inductive Spoils (request : Request) : Fault → Prop
  | refused {fault : Fault} (refusal : Settings.Refusal fault) : Spoils request fault
  | blank {fault : Fault} (blank : request.Blank) (kind : fault.kind = .system .type) : Spoils request fault

end Request

/-- The outcome of a request, and the world afterwards. -/
def Request.serve (request : Request) (env : Environment) (world : World) : Except Fault Unit × World :=
  match request.command with
  | .relay => runRelay request env world
  | .device => runDevice request env world

/-- What comes of running a request in a world, and the world afterwards. -/
inductive Course (request : Request) (env : Environment) (world : World) : Except Fault Unit × World → Prop
  | served {host : Host} {port : Int} {backlog : Option Int} {index : Nat} {net : Net} {after : World}
      (place : request.place env = .ok (host, port, backlog))
      (opened : Net.openDoor host port backlog world.net = .ok index net)
      (tidy : Net.Tidy world.net.doorCount world.net.linkCount after.net) : Course request env world (.ok (), after)
  | unheard {host : Host} {port : Int} {backlog : Option Int} {fault : Fault} {net : Net}
      (place : request.place env = .ok (host, port, backlog))
      (failed : Net.openDoor host port backlog world.net = .error fault net)
      (kind : fault.kind = .harness .bind) (tidy : Net.Tidy world.net.doorCount world.net.linkCount net) :
      Course request env world (.error fault, { world with net })
  | spoilt {fault : Fault} (failed : request.place env = .error fault) (spoils : request.Spoils fault) :
      Course request env world (.error fault, world)

section

variable {request : Request} {env : Environment} {world : World} (reliable : world.Reliable)
include reliable

end

/-- What a run says of a fault that it reports itself. -/
def failure (request : Request) (fault : Fault) : Entry :=
  .plain .error Logger.command (request.command.word ++ " failed: " ++ fault.message)

/-- How a run ends when the outcome of its request is known. -/
def conclude (request : Request) (setup : LogSetup) : Except Fault Unit × World → Run
  | (.ok (), world) => { ending := .returned 0, world, setup := some setup }
  | (.error fault, world) =>
    if isReported fault then
      { ending := .returned 1, world := world.write (failure request fault), setup := some setup }
    else { ending := .failed fault, world, setup := some setup }

/-- A run has told of a fault, if entries of that weight are wanted, and returns the status one. -/
structure Run.Tells (ran : Run) (request : Request) (world : World) (fault : Fault) : Prop where
  ending : ran.ending = .returned 1
  log : ∃ setup, ran.setup = some setup ∧
    ran.world.log = world.log ++ if setup.threshold ≤ Level.error.weight then [failure request fault] else []

/-- How a run ends whose log could be set up. -/
inductive Ends (request : Request) (env : Environment) (world : World) (ran : Run) : Prop
  | served {host : Host} {port : Int} {backlog : Option Int} {index : Nat} {net : Net}
      (place : request.place env = .ok (host, port, backlog))
      (opened : Net.openDoor host port backlog world.net = .ok index net) (ending : ran.ending = .returned 0)
  | unheard {host : Host} {port : Int} {backlog : Option Int} {fault : Fault} {net : Net}
      (place : request.place env = .ok (host, port, backlog))
      (failed : Net.openDoor host port backlog world.net = .error fault net)
      (kind : fault.kind = .harness .bind) (tells : ran.Tells request world fault)
  | refused {fault : Fault} (failed : request.place env = .error fault) (refusal : Settings.Refusal fault)
      (tells : ran.Tells request world fault)
  | spoilt {fault : Fault} (failed : request.place env = .error fault) (blank : request.Blank)
      (kind : fault.kind = .system .type) (ending : ran.ending = .failed fault)

theorem conclude_tells {request : Request} {setup : LogSetup} {world after : World} {fault : Fault}
    (log : after.log = world.log) (threshold : after.threshold = setup.threshold)
    (reported : isReported fault = true) :
    (conclude request setup (.error fault, after)).Tells request world fault ∧
      (conclude request setup (.error fault, after)).world.net = after.net := by
  have told : conclude request setup (.error fault, after) =
      { ending := .returned 1, world := after.write (failure request fault), setup := some setup } := if_pos reported
  rw [told]
  refine ⟨⟨rfl, setup, rfl, ?_⟩, World.write_net _ _⟩
  have keeps : after.keeps (failure request fault) = decide (setup.threshold ≤ Level.error.weight) := by
    rw [World.keeps, threshold]
    rfl
  by_cases wanted : setup.threshold ≤ Level.error.weight
  · rw [if_pos wanted, World.write, if_pos (keeps.trans (decide_eq_true wanted)), ← log]
  · rw [if_neg wanted, World.write, if_neg (by simp [keeps, wanted]), List.append_nil, log]

theorem Course.ends {request : Request} {env : Environment} {world : World} {setup : LogSetup}
    {outcome : Except Fault Unit × World}
    (course : Course request env { world with threshold := setup.threshold } outcome) :
    Net.Tidy world.net.doorCount world.net.linkCount (conclude request setup outcome).world.net ∧
      Ends request env world (conclude request setup outcome) := by
  have tells (after : World) {fault : Fault} (log : after.log = world.log)
      (threshold : after.threshold = setup.threshold) (reported : isReported fault = true) :
      (conclude request setup (.error fault, after)).Tells request world fault ∧
        (conclude request setup (.error fault, after)).world.net = after.net := conclude_tells log threshold reported
  cases course with
  | served place opened tidy => exact ⟨tidy, .served place opened rfl⟩
  | @unheard _ _ _ fault left place failed kind tidy =>
    have reported : isReported fault = true := by
      rw [isReported, kind]
      rfl
    obtain ⟨tells, net⟩ := tells { world with threshold := setup.threshold, net := left } rfl rfl reported
    exact ⟨net ▸ tidy, .unheard place failed kind tells⟩
  | @spoilt fault failed spoils =>
    cases spoils with
    | refused refusal =>
      have reported : isReported fault = true := by
        rw [isReported, refusal.kind]
        rfl
      obtain ⟨tells, net⟩ := tells { world with threshold := setup.threshold } rfl rfl reported
      refine ⟨?_, .refused failed refusal tells⟩
      rw [net]
      exact .refl world.net
    | blank blank kind =>
      have escapes : ¬ isReported fault = true := by
        rw [isReported, kind]
        nofun
      rw [conclude, if_neg escapes]
      exact ⟨.refl world.net, .spoilt failed blank kind rfl⟩

/-- The fault that gets out of a run, if one does. -/
def Ending.fault? : Ending → Option Fault
  | .failed fault => some fault
  | _ => none

end CommandLine
end RelayBench
