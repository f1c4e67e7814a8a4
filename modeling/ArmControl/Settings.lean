import ArmControl.Driver
import ArmControl.Error.Robot
import ArmControl.Supervisor

/-!
# Settings of a robot

The times of its driver, the choice about real-time priority, and whether sessions whose mode is
only implied are supervised.
-/

namespace ArmControl

/-- How a robot is to be used. With `enforceImpliedMode`, a session with torques expects the mode
of its first state in all later ones. -/
structure Settings where
  timing : Timing := {}
  realtime : Realtime := .enforce
  enforceImpliedMode : Bool := true
deriving DecidableEq

namespace Settings

instance : Inhabited Settings := ⟨{}⟩

/-- Accepts settings that a driver can work with. -/
def validate (s : Settings) : Except RobotError Unit := s.timing.validate.mapError .ofDriver

/-- The supervision of a session whose mode is implied. -/
def impliedSupervisor (s : Settings) : Supervisor :=
  if s.enforceImpliedMode then .implied else .unenforced

end Settings

end ArmControl
