/-!
# Kinds of sessions

What an exclusive session is held for.
-/

namespace ArmControl

/-- What a session is held for. -/
inductive SessionKind
  | control
  | motion
  | read
  | readOnce
  | command
deriving DecidableEq, Inhabited

namespace SessionKind

/-- Every kind of session. -/
def all : List SessionKind := [control, motion, read, readOnce, command]

/-- The kind in running text. -/
def label : SessionKind → String
  | control => "control"
  | motion => "motion"
  | read => "read"
  | readOnce => "read-once"
  | command => "command"

/-- The name of the kind. -/
def name : SessionKind → String
  | control => "Control"
  | motion => "Motion"
  | read => "Read"
  | readOnce => "ReadOnce"
  | command => "Command"

end SessionKind

end ArmControl
