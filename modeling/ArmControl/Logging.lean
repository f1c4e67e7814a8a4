import ArmControl.Event

/-!
# Installing a log

One log can be installed for a whole process. A second one is refused; `Logging.installQuietly`
makes do with the log that is there.
-/

namespace ArmControl

/-- Which events a log shows when nothing else is asked for. -/
def defaultFilter : String :=
  "fci_client=info,fci_driver=info,fci_transport=warn,fci_sdk=info"

/-- Why a log cannot be installed. -/
inductive LoggingError
  | subscriber
deriving DecidableEq

namespace LoggingError

/-- The error in words. -/
def message : LoggingError → String
  | subscriber =>
      "Global subscriber already set: a global default trace dispatcher has already been set"

end LoggingError

/-- Whether the process has a log. -/
structure Logging where
  installed : Bool

namespace Logging

/-- Installs a log, unless there is one. -/
def install (l : Logging) : Except LoggingError Logging :=
  if l.installed then .error .subscriber else .ok ⟨true⟩

/-- Installs a log, or mentions in the one that is there why that was not possible. -/
def installQuietly (l : Logging) : Logging × List Event :=
  match l.install with
  | .ok l => (l, [])
  | .error error => (l, [.loggingUnavailable error.message])

end Logging

end ArmControl
