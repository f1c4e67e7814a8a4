import ArmControl.Event

/-!
# Mode supervision

A `Supervisor` watches the controller mode that a session relies on. It expects a mode once one
was requested or, if it is to latch, once the first state was seen. The first state that reports
another mode makes it faulted, and from then on it repeats that fault.
-/

namespace ArmControl

/-- What is known about the mode that a session relies on. -/
inductive Supervisor
  | idle (latchFirst : Bool)
  | requested (expected : ReportedMode)
  | confirmed (expected : ReportedMode)
  | faulted (fault : ModeMismatch)
deriving DecidableEq

/-- What a supervisor makes of one state: itself afterwards, the events, and the verdict. -/
structure Observation where
  supervisor : Supervisor
  events : List Event
  verdict : Except ModeMismatch Unit

namespace Supervisor

/-- Expects nothing, ever. -/
def unenforced : Supervisor := idle false

/-- Expects the mode of the first state. -/
def implied : Supervisor := idle true

/-- Expects the mode that was requested. -/
def forMode (mode : ControllerMode) : Supervisor := requested mode.reported

/-- Expects another mode from now on. -/
def request (_ : Supervisor) (mode : ControllerMode) : Supervisor := forMode mode

/-- The events of expecting a mode that was requested. -/
def requestEvents (mode : ControllerMode) : List Event := [.modeRequested mode]

/-- The mode that is expected. -/
def expected? : Supervisor → Option ReportedMode
  | idle _ => none
  | requested expected => some expected
  | confirmed expected => some expected
  | faulted fault => some fault.expected

/-- The name of the state that the supervisor is in. -/
def stateName : Supervisor → String
  | idle _ => "Idle"
  | requested _ => "ModeRequested"
  | confirmed _ => "ModeConfirmed"
  | faulted _ => "Faulted"

/-- The end of supervision: the reported mode is not the expected one. -/
def fail (expected reported : ReportedMode) (cycle : Nat) : Observation :=
  let fault : ModeMismatch := ⟨expected, reported, cycle⟩
  ⟨faulted fault, [.modeMismatched fault], .error fault⟩

/-- Judges the mode that the state of a cycle reports. -/
def observe (s : Supervisor) (mode : ReportedMode) (cycle : Nat) : Observation :=
  match s with
  | idle false => ⟨idle false, [], .ok ()⟩
  | idle true => ⟨confirmed mode, [.modeImplied mode], .ok ()⟩
  | requested expected =>
      if expected = mode then ⟨confirmed expected, [.modeConfirmed cycle mode], .ok ()⟩
      else fail expected mode cycle
  | confirmed expected =>
      if expected = mode then ⟨confirmed expected, [], .ok ()⟩ else fail expected mode cycle
  | faulted fault => ⟨faulted fault, [], .error fault⟩

end Supervisor

end ArmControl
