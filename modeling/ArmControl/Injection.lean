import ArmControl.Text.Structured

/-!
# Injections

What the world outside can do to a link: change the modes that the controller reports, make one
exchange fail, or close the link.
-/

namespace ArmControl

/-- A disturbance of a link from outside. -/
inductive Injection
  | controllerMode (mode : ReportedMode)
  | robotMode (mode : RobotMode)
  | receiveTimeout
  | malformedState
  | sendFailure
  | reject (reason : Refusal)
  | close
deriving DecidableEq

namespace Injection

/-- An injection as a variant. -/
def structured : Injection → String
  | controllerMode mode => variantText "ControllerModeChange" mode.name
  | robotMode mode => variantText "RobotMode" mode.name
  | receiveTimeout => "ReceiveTimeout"
  | malformedState => "MalformedState"
  | sendFailure => "SendFailure"
  | reject reason => variantText "Reject" reason.structured
  | close => "Close"

end Injection

end ArmControl
