import ArmControl.Duration.Text

/-!
# Errors of a link

What can go wrong when a message is exchanged with a controller.
-/

namespace ArmControl

/-- Why an exchange with the controller failed. -/
inductive LinkError
  | timeout (after : Duration)
  | malformed (reason : String)
  | sendFailed (reason : String)
  | closed
  | device (reason : String)
deriving DecidableEq

namespace LinkError

/-- The kind of an error. -/
def kindName : LinkError → String
  | timeout _ => "Timeout"
  | malformed _ => "Malformed"
  | sendFailed _ => "Send"
  | closed => "Closed"
  | device _ => "Io"

/-- Whether the controller stayed silent for too long. -/
def isTimeout : LinkError → Bool
  | timeout _ => true
  | malformed _ | sendFailed _ | closed | device _ => false

/-- The error in words. -/
def message : LinkError → String
  | timeout after => s!"Receive timeout after {after.text}"
  | malformed reason => s!"Malformed message: {reason}"
  | sendFailed reason => s!"Send failed: {reason}"
  | closed => "Channel closed"
  | device reason => s!"IO Error: {reason}"

/-- The causes beneath the error, nearest first. -/
def causes : LinkError → List String
  | device reason => [reason]
  | timeout _ | malformed _ | sendFailed _ | closed => []

end LinkError

end ArmControl
