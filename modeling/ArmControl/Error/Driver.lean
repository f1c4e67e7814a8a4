import ArmControl.Error.Link
import ArmControl.Error.Value
import ArmControl.Request

/-!
# Errors of a driver

What can go wrong between a client and its link: the link fails, a value may not be sent, the
controller refuses, its clock stands still, or the configuration cannot be used.
-/

namespace ArmControl

/-- Why a timing configuration cannot be used. -/
inductive TimingFault
  | zeroPeriod
  | longPeriod (micros limit : UInt64)
  | longJitter (micros limit : UInt64)
  | zeroRequestTimeout
  | stated (reason : String)
deriving DecidableEq

namespace TimingFault

/-- The fault in words. -/
def message : TimingFault → String
  | zeroPeriod => "control_period_us must be > 0"
  | longPeriod micros limit => s!"control_period_us must be <= {limit}, got {micros}"
  | longJitter micros limit => s!"jitter_tolerance_us must be <= {limit}, got {micros}"
  | zeroRequestTimeout => "request_timeout_ms must be > 0"
  | stated reason => reason

end TimingFault

/-- Why a driver could not do as asked. -/
inductive DriverError
  | link (error : LinkError)
  | value (error : ValueError)
  | rejected (command : String) (reason : Refusal)
  | clockStalled (previous current : Duration)
  | realtime (reason : String)
  | invalidConfig (fault : TimingFault)
  | unexpectedReply (command : String)

namespace DriverError

/-- The kind of an error. -/
def kindName : DriverError → String
  | link _ => "Transport"
  | value _ => "Protocol"
  | rejected _ _ => "Rejected"
  | clockStalled _ _ => "NonMonotonicTime"
  | realtime _ => "Realtime"
  | invalidConfig _ => "InvalidConfig"
  | unexpectedReply _ => "UnexpectedReply"

/-- Whether the controller stayed silent for too long. -/
def isTimeout : DriverError → Bool
  | link error => error.isTimeout
  | value _ | rejected _ _ | clockStalled _ _ | realtime _ | invalidConfig _
  | unexpectedReply _ => false

/-- The error in words. -/
def message : DriverError → String
  | link error => s!"Transport error: {error.message}"
  | value error => s!"Protocol error: {error.message}"
  | rejected command reason => s!"{command} rejected: {reason.message}"
  | clockStalled previous current =>
      s!"Robot clock did not advance ({previous.text} -> {current.text})"
  | realtime reason => s!"Real-time setup failed: {reason}"
  | invalidConfig fault => s!"Invalid config: {fault.message}"
  | unexpectedReply command => s!"Unexpected reply to {command}"

/-- The causes beneath the error, nearest first. -/
def causes : DriverError → List String
  | link error => error.message :: error.causes
  | value error => [error.message]
  | rejected _ _ | clockStalled _ _ | realtime _ | invalidConfig _ | unexpectedReply _ => []

end DriverError

end ArmControl
