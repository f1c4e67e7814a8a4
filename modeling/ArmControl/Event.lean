import ArmControl.Error.Robot
import ArmControl.Injection
import ArmControl.Session.Kind

/-!
# Events

Everything that is worth a line in a log is an `Event`. Its level, the part of the system that
reports it and its wording are functions of the event, so that a run can be judged by its events
without looking at text.
-/

namespace ArmControl

/-- How severe an event is. -/
inductive Level
  | warn
  | info
  | debug
  | trace
deriving DecidableEq, Inhabited

namespace Level

/-- Every level, the most severe one first. -/
def all : List Level := [warn, info, debug, trace]

/-- The rank of a level; a smaller one is more severe. -/
def rank : Level → Nat
  | warn => 0
  | info => 1
  | debug => 2
  | trace => 3

/-- The name of a level. -/
def name : Level → String
  | warn => "WARN"
  | info => "INFO"
  | debug => "DEBUG"
  | trace => "TRACE"

/-- Whether a log that shows the level `threshold` shows this level. -/
def isShownAt (level threshold : Level) : Bool := level.rank ≤ threshold.rank

end Level

/-- The part of the system that reports an event. -/
inductive Part
  | link
  | driver
  | robot
  | logging
deriving DecidableEq

namespace Part

/-- The name of the part in a log. -/
def name : Part → String
  | link => "fci_transport"
  | driver => "fci_driver"
  | robot => "fci_client"
  | logging => "fci_sdk"

end Part

/-- Something that a log shows. -/
inductive Event
  | injected (injection : Injection)
  | stateProduced (messageId : UInt64)
  | requestAnswered (request : String) (response : Response)
  | driverConnected (version : UInt16) (period : Duration)
  | stateReceived (messageId : UInt64)
  | commandSent (messageId : UInt64)
  | requestStarted (request : String)
  | requestSucceeded (request : String)
  | requestRejected (request : String) (reason : Refusal)
  | linkFailed (error : LinkError)
  | priorityRaised
  | priorityMissing (reason : String)
  | robotConnected (version : UInt16)
  | sessionAcquired (kind : SessionKind)
  | sessionReleased (kind : SessionKind)
  | sessionRefused (kind : SessionKind)
  | sessionStarted (kind : SessionKind)
  | sessionFinished (kind : SessionKind) (cycles : Nat)
  | sessionAborted (kind : SessionKind) (error : RobotError)
  | modeRequested (mode : ControllerMode)
  | modeImplied (mode : ReportedMode)
  | modeConfirmed (cycle : Nat) (mode : ReportedMode)
  | modeMismatched (fault : ModeMismatch)
  | cycleStarted (cycle : Nat) (messageId : UInt64) (period : Duration)
  | callbacksFinished (cycles : Nat) (elapsed : Duration)
  | readingStopped (cycle : Nat)
  | loggingUnavailable (reason : String)

namespace Event

/-- How severe the event is. -/
def level : Event → Level
  | linkFailed _ | requestRejected _ _ | priorityMissing _ | sessionRefused _
  | sessionAborted _ _ | modeMismatched _ => .warn
  | driverConnected _ _ | priorityRaised | robotConnected _ | sessionStarted _
  | sessionFinished _ _ => .info
  | injected _ | requestAnswered _ _ | requestStarted _ | requestSucceeded _
  | sessionAcquired _ | sessionReleased _ | modeRequested _ | modeImplied _
  | modeConfirmed _ _ | callbacksFinished _ _ | loggingUnavailable _ => .debug
  | stateProduced _ | stateReceived _ | commandSent _ | cycleStarted _ _ _
  | readingStopped _ => .trace

/-- The part of the system that reports the event. -/
def part : Event → Part
  | injected _ | stateProduced _ | requestAnswered _ _ => .link
  | driverConnected _ _ | stateReceived _ | commandSent _ | requestStarted _
  | requestSucceeded _ | requestRejected _ _ | linkFailed _ | priorityRaised
  | priorityMissing _ => .driver
  | robotConnected _ | sessionAcquired _ | sessionReleased _ | sessionRefused _
  | sessionStarted _ | sessionFinished _ _ | sessionAborted _ _ | modeRequested _
  | modeImplied _ | modeConfirmed _ _ | modeMismatched _ | cycleStarted _ _ _
  | callbacksFinished _ _ | readingStopped _ => .robot
  | loggingUnavailable _ => .logging

/-- The event in words. -/
def message : Event → String
  | injected injection => s!"Loopback injection: {injection.structured}"
  | stateProduced messageId => s!"Loopback produced state #{messageId}"
  | requestAnswered request response => s!"Loopback request {request} -> {response.structured}"
  | driverConnected version period =>
      s!"Driver connected (server version {version}, control period {period.text})"
  | stateReceived messageId => s!"Received state #{messageId}"
  | commandSent messageId => s!"Sent command #{messageId}"
  | requestStarted request => s!"Executing {request}"
  | requestSucceeded request => s!"{request} succeeded"
  | requestRejected request reason => s!"{request} rejected by controller: {reason.message}"
  | linkFailed error => s!"Transport error: {error.message}"
  | priorityRaised => "Control thread priority set to MAX (realtime)"
  | priorityMissing reason => s!"Running without real-time priority: {reason}"
  | robotConnected version => s!"Robot connected (server version {version})"
  | sessionAcquired kind => s!"{kind.label} session acquired"
  | sessionReleased kind => s!"{kind.label} session released"
  | sessionRefused kind => s!"Rejected {kind.label} session: another operation is running"
  | sessionStarted kind => s!"Starting {kind.label} session"
  | sessionFinished kind cycles => s!"{kind.label} session finished after {cycles} cycles"
  | sessionAborted kind error => s!"{kind.label} session aborted: {error.message}"
  | modeRequested mode => s!"Controller mode requested: {mode.label}"
  | modeImplied mode => s!"Implied controller mode: {mode.name}"
  | modeConfirmed cycle mode => s!"Controller mode confirmed at cycle {cycle}: {mode.name}"
  | modeMismatched fault => fault.message
  | cycleStarted cycle messageId period =>
      s!"Cycle {cycle}: state #{messageId}, period {period.text}"
  | callbacksFinished cycles elapsed =>
      s!"All callbacks finished after {cycles} cycles ({elapsed.text}), sending terminal command"
  | readingStopped cycle => s!"Read predicate stopped at cycle {cycle}"
  | loggingUnavailable reason => s!"Logging not initialized: {reason}"

/-- The line that a log shows for the event. -/
def line (event : Event) : String :=
  s!"{event.level.name} {event.part.name}: {event.message}"

end Event

end ArmControl
