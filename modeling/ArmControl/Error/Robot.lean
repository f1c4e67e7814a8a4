import ArmControl.Error.Driver

/-!
# Errors of a robot

Every way in which a call on a robot ends without its result. `RobotError.isFatal` marks the ends
of a running session, and `RobotError.isRetryable` the ones after which the caller may simply try
again.
-/

namespace ArmControl

/-- The controller left the mode that the session relies on. -/
structure ModeMismatch where
  expected : ReportedMode
  reported : ReportedMode
  cycle : Nat
deriving DecidableEq

namespace ModeMismatch

/-- The fault in words. -/
def message (f : ModeMismatch) : String :=
  s!"controller mode mismatch at cycle {f.cycle}: expected {f.expected.name}, robot reported " ++
    f.reported.name

end ModeMismatch

/-- Which callback of a control session is meant. -/
inductive CallbackKind
  | torque
  | motion
deriving DecidableEq

namespace CallbackKind

/-- The callback in running text. -/
def label : CallbackKind → String
  | torque => "torque"
  | motion => "motion generator"

end CallbackKind

/-- A callback gave an output that may not be sent. -/
structure NumericFault where
  cycle : Nat
  callback : CallbackKind
  error : ValueError

namespace NumericFault

/-- The fault in words. -/
def message (f : NumericFault) : String :=
  s!"{f.callback.label} callback produced invalid output at cycle {f.cycle}: {f.error.message}"

end NumericFault

/-- Why a call on a robot failed. -/
inductive RobotError
  | sessionBusy
  | invalidArgument (parameter reason : String)
  | control (fault : ModeMismatch)
  | communication (error : DriverError)
  | numeric (fault : NumericFault)
  | callback (reason : String)
  | configRejected (command : String) (reason : Refusal)
  | realtime (reason : String)

namespace RobotError

/-- The kind of an error. -/
def kindName : RobotError → String
  | sessionBusy => "SessionBusy"
  | invalidArgument _ _ => "InvalidArgument"
  | control _ => "Control"
  | communication _ => "Communication"
  | numeric _ => "Numeric"
  | callback _ => "Callback"
  | configRejected _ _ => "Configuration"
  | realtime _ => "Realtime"

/-- Whether the error ends a running session. -/
def isFatal : RobotError → Bool
  | control _ | communication _ | numeric _ | callback _ => true
  | sessionBusy | invalidArgument _ _ | configRejected _ _ | realtime _ => false

/-- Whether the same call may succeed when it is made again. -/
def isRetryable : RobotError → Bool
  | sessionBusy => true
  | communication error => error.isTimeout
  | configRejected _ reason => reason == .preempted
  | invalidArgument _ _ | control _ | numeric _ | callback _ | realtime _ => false

/-- The error in words. -/
def message : RobotError → String
  | sessionBusy => "Control or read operation already running"
  | invalidArgument parameter reason => s!"Invalid argument '{parameter}': {reason}"
  | control fault => s!"Control fault: {fault.message}"
  | communication error => s!"Communication fault: {error.message}"
  | numeric fault => s!"Numeric fault: {fault.message}"
  | callback reason => s!"Callback failed: {reason}"
  | configRejected command reason => s!"{command} rejected by controller: {reason.message}"
  | realtime reason => s!"Real-time setup failed: {reason}"

/-- The causes beneath the error, nearest first. -/
def causes : RobotError → List String
  | control fault => [fault.message]
  | communication error => error.message :: error.causes
  | numeric fault => [fault.message, fault.error.message]
  | callback reason => [reason]
  | sessionBusy | invalidArgument _ _ | configRejected _ _ | realtime _ => []

/-- A value that may not be sent is an invalid argument of the call. -/
def ofValue (error : ValueError) : RobotError := invalidArgument error.field error.message

/-- What an error of the driver means for a call on the robot. -/
def ofDriver : DriverError → RobotError
  | .value error => ofValue error
  | .invalidConfig fault => invalidArgument "config" fault.message
  | .rejected command reason => configRejected command reason
  | .realtime reason => realtime reason
  | error@(.link _) | error@(.clockStalled _ _) | error@(.unexpectedReply _) =>
      communication error

end RobotError

end ArmControl
