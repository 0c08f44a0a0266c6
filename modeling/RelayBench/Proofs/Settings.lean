import RelayBench.Settings

/-! What becomes of arguments and environment texts.  Whoever asks for settings is refused with a fault that
shows the value in question, or has a port that can be listened on, a size that can be read and, unless no
order holds of the seconds that were given, a write limit that can be waited for. -/
namespace RelayBench
namespace Settings

/-- An argument, or else what is read in its place. -/
def firstOf {α : Type} (argument : Option α) (read : Except Fault α) : Except Fault α :=
  match argument with
  | some value => .ok value
  | none => read

/-- The port that is asked for, before it is checked. -/
def portAsked (argument : Option Int) (env : Environment) : Except Fault Int :=
  firstOf argument (readInteger "RELAYHARNESS_PORT" env.port defaultPort)

def sizeAsked (argument : Option Int) (env : Environment) : Except Fault Int :=
  firstOf argument (readInteger "RELAYHARNESS_RECV_SIZE" env.recvSize defaultRecvSize)

/-- The seconds that are asked for as a write limit, before it is said what they mean. -/
def secondsAsked (argument : Option Number) (env : Environment) : Except Fault Number :=
  firstOf argument (readSeconds "RELAYHARNESS_WRITE_TIMEOUT" env.writeTimeout defaultWriteTimeout)

/-- How settings are refused: a text is no number, or a value does not do.  Either is shown in the fault,
under the name of the variable or of what the value is for. -/
inductive Refusal : Fault → Prop
  | unreadable (complaint name text reason : String) : Refusal
      (.harness .configuration (complaint ++ name) [("value", .text text)] (some (.invalidValue reason)))
  | port {port : Int} (outside : port < 0 ∨ 65535 < port) : Refusal
      (.harness .configuration "Port out of range" [("port", .int port)] none)
  | size {name : String} {size : Int} (small : size ≤ 0) : Refusal
      (.harness .configuration (name ++ " must be positive") [(name, .int size)] none)

theorem Refusal.kind {fault : Fault} (refusal : Refusal fault) : fault.kind = .harness .configuration := by
  cases refusal <;> rfl

/-- A write limit that can be waited for: there is none, or it is above zero. -/
def Waitable (limit : Option Number) : Prop := limit.all Number.isPositive = true

section

variable {α : Type} {fault : Fault}

theorem firstOf_refused {argument : Option α} {read : Except Fault α}
    (refused : ∀ fault, read = .error fault → Refusal fault) (failed : firstOf argument read = .error fault) :
    Refusal fault := by
  cases argument with
  | some value => cases failed
  | none => exact refused fault failed

theorem readInteger_refused {name : String} {raw : Option String} {fallback : Int}
    (failed : readInteger name raw fallback = .error fault) : Refusal fault := by
  unfold readInteger at failed
  split at failed
  · cases failed
  next text given =>
    split at failed
    · cases failed
    next reason malformed =>
      cases failed
      exact .unreadable "Invalid integer for " name text (integerMessage text reason)

theorem readSeconds_refused {name : String} {raw : Option String} {fallback : Number}
    (failed : readSeconds name raw fallback = .error fault) : Refusal fault := by
  unfold readSeconds at failed
  split at failed
  · cases failed
  next text given =>
    split at failed
    · cases failed
    next malformed =>
      cases failed
      exact .unreadable "Invalid number for " name text _

end

theorem checkPort_cases (port : Int) :
    (checkPort port = .ok port ∧ 0 ≤ port ∧ port ≤ 65535) ∨ ∃ fault, checkPort port = .error fault ∧ Refusal fault := by
  by_cases inside : 0 ≤ port ∧ port ≤ 65535
  · exact .inl ⟨by simp [checkPort, inside], inside⟩
  · have outside : port < 0 ∨ 65535 < port := by omega
    exact .inr ⟨_, if_neg (by simpa using inside), .port outside⟩

theorem checkPositive_cases (name : String) (size : Int) :
    (checkPositive name size = .ok size ∧ 1 ≤ size) ∨
      ∃ fault, checkPositive name size = .error fault ∧ Refusal fault := by
  by_cases small : size ≤ 0
  · exact .inr ⟨_, if_pos small, .size small⟩
  · exact .inl ⟨if_neg small, by omega⟩

theorem choosePort_cases (argument : Option Int) (env : Environment) :
    (∃ port, portAsked argument env = .ok port ∧ choosePort argument env = .ok port ∧ 0 ≤ port ∧ port ≤ 65535) ∨
      ∃ fault, choosePort argument env = .error fault ∧ Refusal fault := by
  have checked : choosePort argument env = portAsked argument env >>= checkPort := by
    cases argument with
    | some port => rfl
    | none =>
      simp only [choosePort, portAsked, firstOf]
      cases readInteger "RELAYHARNESS_PORT" env.port defaultPort <;> rfl
  rw [checked]
  cases asked : portAsked argument env with
  | error fault => exact .inr ⟨fault, rfl, firstOf_refused (fun _ failed => readInteger_refused failed) asked⟩
  | ok port =>
    rcases checkPort_cases port with ⟨passed, inside⟩ | refused
    · exact .inl ⟨port, rfl, passed, inside⟩
    · exact .inr refused

theorem chooseSize_cases (name : String) (argument : Option Int) (env : Environment) :
    (∃ size, sizeAsked argument env = .ok size ∧ chooseSize name argument env = .ok size ∧ 1 ≤ size) ∨
      ∃ fault, chooseSize name argument env = .error fault ∧ Refusal fault := by
  have checked : chooseSize name argument env = sizeAsked argument env >>= checkPositive name := by
    cases argument with
    | some size => rfl
    | none =>
      simp only [chooseSize, sizeAsked, firstOf]
      cases readInteger "RELAYHARNESS_RECV_SIZE" env.recvSize defaultRecvSize <;> rfl
  rw [checked]
  cases asked : sizeAsked argument env with
  | error fault => exact .inr ⟨fault, rfl, firstOf_refused (fun _ failed => readInteger_refused failed) asked⟩
  | ok size =>
    rcases checkPositive_cases name size with ⟨passed, positive⟩ | refused
    · exact .inl ⟨size, rfl, passed, positive⟩
    · exact .inr refused

/-- Seconds are above zero, or they are at or below it and mean no limit; only of what is no number neither
holds. -/
theorem limit_waitable (seconds : Number) : Waitable (limit seconds) ↔ seconds ≠ .float .nan := by
  unfold Waitable limit
  rcases seconds with n | (⟨negative, significand, exponent⟩ | negative | _)
  · rcases Int.lt_trichotomy n 0 with below | rfl | above
    · simp [Number.isNegative, below]
    · decide
    · have unbounded : ¬ n < 0 ∧ n ≠ 0 := by omega
      simp [Number.isNegative, Number.isZero, Number.isPositive, unbounded, above]
  · cases negative <;> by_cases zero : significand = 0 <;>
      simp [Number.isNegative, Number.isZero, Number.isPositive, Binary64.isNegative, Binary64.isZero,
        Binary64.isPositive, zero]
  · cases negative <;> decide
  · decide

theorem chooseWriteTimeout_cases (argument : Option Number) (env : Environment) :
    (∃ seconds, secondsAsked argument env = .ok seconds ∧
      chooseWriteTimeout argument env = .ok (limit seconds)) ∨
      ∃ fault, chooseWriteTimeout argument env = .error fault ∧ Refusal fault := by
  have asks : chooseWriteTimeout argument env = (secondsAsked argument env).map limit := by
    cases argument with
    | some seconds => rfl
    | none =>
      simp only [chooseWriteTimeout, secondsAsked, firstOf]
      cases readSeconds "RELAYHARNESS_WRITE_TIMEOUT" env.writeTimeout defaultWriteTimeout <;> rfl
  rw [asks]
  cases asked : secondsAsked argument env with
  | error fault => exact .inr ⟨fault, rfl, firstOf_refused (fun _ failed => readSeconds_refused failed) asked⟩
  | ok seconds => exact .inl ⟨seconds, rfl, rfl⟩

end Settings

namespace RelaySettings

open Settings

/-- Relay settings are what was asked for, or the first value that does not do is refused. -/
theorem make_cases (arguments : RelayArguments) (env : Environment) :
    (∃ settings, make arguments env = .ok settings ∧
      portAsked arguments.port env = .ok settings.port ∧ 0 ≤ settings.port ∧ settings.port ≤ 65535 ∧
      sizeAsked arguments.recvSize env = .ok settings.recvSize ∧ 1 ≤ settings.recvSize ∧
      ∃ seconds, secondsAsked arguments.writeTimeout env = .ok seconds ∧
        settings.writeTimeout = limit seconds) ∨
      ∃ fault, make arguments env = .error fault ∧ Refusal fault := by
  rcases choosePort_cases arguments.port env with ⟨port, askedPort, tookPort, lower, upper⟩ | ⟨fault, failed, refusal⟩
  · rcases chooseSize_cases "recv_size" arguments.recvSize env with
      ⟨size, askedSize, tookSize, positive⟩ | ⟨fault, failed, refusal⟩
    · rcases chooseWriteTimeout_cases arguments.writeTimeout env with
        ⟨seconds, askedSeconds, tookSeconds⟩ | ⟨fault, failed, refusal⟩
      · have made : make arguments env = .ok
            { host := chooseHost arguments.host env, port, recvSize := size, backlog := arguments.backlog
              writeTimeout := limit seconds, pollInterval := arguments.pollInterval } := by
          rw [make, tookPort, tookSize, tookSeconds]
          rfl
        refine .inl ⟨_, made, ?_⟩
        exact ⟨askedPort, lower, upper, askedSize, positive, seconds, askedSeconds, rfl⟩
      · exact .inr ⟨fault, by rw [make, tookPort, tookSize, failed]; rfl, refusal⟩
    · exact .inr ⟨fault, by rw [make, tookPort, failed]; rfl, refusal⟩
  · exact .inr ⟨fault, by rw [make, failed]; rfl, refusal⟩

end RelaySettings

namespace DeviceSettings

open Settings

theorem make_cases (arguments : DeviceArguments) (env : Environment) :
    (∃ settings, make arguments env = .ok settings ∧
      portAsked arguments.port env = .ok settings.port ∧ 0 ≤ settings.port ∧ settings.port ≤ 65535 ∧
      sizeAsked arguments.chunkSize env = .ok settings.chunkSize ∧ 1 ≤ settings.chunkSize) ∨
      ∃ fault, make arguments env = .error fault ∧ Refusal fault := by
  rcases choosePort_cases arguments.port env with ⟨port, askedPort, tookPort, lower, upper⟩ | ⟨fault, failed, refusal⟩
  · rcases chooseSize_cases "chunk_size" arguments.chunkSize env with
      ⟨size, askedSize, tookSize, positive⟩ | ⟨fault, failed, refusal⟩
    · have made : make arguments env = .ok
          { host := chooseHost arguments.host env, port, chunkSize := size } := by
        rw [make, tookPort, tookSize]
        rfl
      refine .inl ⟨_, made, ?_⟩
      exact ⟨askedPort, lower, upper, askedSize, positive⟩
    · exact .inr ⟨fault, by rw [make, tookPort, failed]; rfl, refusal⟩
  · exact .inr ⟨fault, by rw [make, failed]; rfl, refusal⟩

end DeviceSettings

namespace Settings

/-- Whatever is said explicitly and whatever stands in the environment, asking for settings ends in one of two
ways.  It is refused, by a configuration fault that shows what is wrong; or there are settings, with just the
port and the size that were asked for, and these are in range.  The write limit of a relay can then be waited
for, if only the seconds asked for are a number: not a number is the one thing that passes and is no limit. -/
theorem refused_or_usable (relay : RelayArguments) (device : DeviceArguments) (env : Environment) :
    ((∃ fault, RelaySettings.make relay env = .error fault ∧ Refusal fault ∧
        fault.kind = .harness .configuration) ∨
      ∃ settings seconds, RelaySettings.make relay env = .ok settings ∧
        portAsked relay.port env = .ok settings.port ∧ 0 ≤ settings.port ∧ settings.port ≤ 65535 ∧
        sizeAsked relay.recvSize env = .ok settings.recvSize ∧ 1 ≤ settings.recvSize ∧
        secondsAsked relay.writeTimeout env = .ok seconds ∧
        (Waitable settings.writeTimeout ↔ seconds ≠ .float .nan)) ∧
    ((∃ fault, DeviceSettings.make device env = .error fault ∧ Refusal fault ∧
        fault.kind = .harness .configuration) ∨
      ∃ settings, DeviceSettings.make device env = .ok settings ∧
        portAsked device.port env = .ok settings.port ∧ 0 ≤ settings.port ∧ settings.port ≤ 65535 ∧
        sizeAsked device.chunkSize env = .ok settings.chunkSize ∧ 1 ≤ settings.chunkSize) := by
  constructor
  · rcases RelaySettings.make_cases relay env with
      ⟨settings, made, port, lower, upper, size, positive, seconds, asked, means⟩ | ⟨fault, failed, refusal⟩
    · have usable := means ▸ limit_waitable seconds
      exact .inr ⟨settings, seconds, made, port, lower, upper, size, positive, asked, usable⟩
    · exact .inl ⟨fault, failed, refusal, refusal.kind⟩
  · rcases DeviceSettings.make_cases device env with usable | ⟨fault, failed, refusal⟩
    · exact .inr usable
    · exact .inl ⟨fault, failed, refusal, refusal.kind⟩

/-- An environment whose write limit is written as not a number. -/
def unordered : Environment := { writeTimeout := some "nan" }

/-- Seconds that are not a number are taken, and they are no limit that can be waited for. -/
theorem usable_fails : ∃ settings, RelaySettings.make {} unordered = .ok settings ∧
    settings.writeTimeout = some (.float .nan) ∧ ¬ Waitable settings.writeTimeout := by
  have reads : Numeral.binary64? "nan" = some .nan := by decide +kernel
  have takes : RelaySettings.make {} unordered = .ok
      { host := .named defaultHost, port := defaultPort, recvSize := defaultRecvSize, backlog := some defaultBacklog
        writeTimeout := some (.float .nan), pollInterval := some defaultPollInterval } := by
    have given : given unordered.writeTimeout = some "nan" := by decide +kernel
    have seconds : chooseWriteTimeout none unordered = .ok (some (.float .nan)) := by
      simp only [chooseWriteTimeout, readSeconds, given, reads]
      rfl
    simp only [RelaySettings.make, seconds]
    rfl
  exact ⟨_, takes, rfl, by unfold Waitable; decide⟩

end Settings
end RelayBench
