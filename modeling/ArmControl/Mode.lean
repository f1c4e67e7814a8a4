import ArmControl.Error.Value

/-!
# Modes

The modes of a controller and of the robot, with their names and their one-byte tags. A mode that
can be requested is a `ControllerMode`; what a controller reports is a `ReportedMode`, which also
covers external control. `ControllerMode.ofTag` refuses a tag that names no requestable mode; the
reported kinds map an unknown tag to their default.
-/

namespace ArmControl

/-- A controller mode as the controller reports it. -/
inductive ReportedMode
  | jointImpedance
  | cartesianImpedance
  | externalController
  | other
deriving DecidableEq, Inhabited

namespace ReportedMode

/-- Every reported mode, in the order of the tags. -/
def all : List ReportedMode := [jointImpedance, cartesianImpedance, externalController, other]

/-- The name of the mode. -/
def name : ReportedMode → String
  | jointImpedance => "JointImpedance"
  | cartesianImpedance => "CartesianImpedance"
  | externalController => "ExternalController"
  | other => "Other"

/-- The tag of the mode. -/
def tag : ReportedMode → UInt8
  | jointImpedance => 0
  | cartesianImpedance => 1
  | externalController => 2
  | other => 3

/-- The mode with that tag, `other` if there is none. -/
def ofTag (tag : UInt8) : ReportedMode :=
  (all.find? fun mode => mode.tag == tag).getD other

end ReportedMode

/-- A controller mode that can be requested. -/
inductive ControllerMode
  | jointImpedance
  | cartesianImpedance
deriving DecidableEq, Inhabited

namespace ControllerMode

/-- Every controller mode, in the order of the tags. -/
def all : List ControllerMode := [jointImpedance, cartesianImpedance]

/-- The name of the mode. -/
def name : ControllerMode → String
  | jointImpedance => "JointImpedance"
  | cartesianImpedance => "CartesianImpedance"

/-- The mode in running text. -/
def label : ControllerMode → String
  | jointImpedance => "joint impedance"
  | cartesianImpedance => "cartesian impedance"

/-- The tag of the mode. -/
def tag : ControllerMode → UInt8
  | jointImpedance => 0
  | cartesianImpedance => 1

/-- The mode with that tag. -/
def ofTag (tag : UInt8) : Except ValueError ControllerMode :=
  match all.find? fun mode => mode.tag == tag with
  | some mode => .ok mode
  | none => .error (.invalidTag "controller_mode" tag)

/-- What a controller reports once it is in the mode. -/
def reported : ControllerMode → ReportedMode
  | jointImpedance => .jointImpedance
  | cartesianImpedance => .cartesianImpedance

end ControllerMode

/-- What the robot as a whole is doing. -/
inductive RobotMode
  | other
  | idle
  | move
  | guiding
  | reflex
  | userStopped
  | automaticErrorRecovery
deriving DecidableEq, Inhabited

namespace RobotMode

/-- Every robot mode, in the order of the tags. -/
def all : List RobotMode :=
  [other, idle, move, guiding, reflex, userStopped, automaticErrorRecovery]

/-- The name of the mode. -/
def name : RobotMode → String
  | other => "Other"
  | idle => "Idle"
  | move => "Move"
  | guiding => "Guiding"
  | reflex => "Reflex"
  | userStopped => "UserStopped"
  | automaticErrorRecovery => "AutomaticErrorRecovery"

/-- The tag of the mode. -/
def tag : RobotMode → UInt8
  | other => 0
  | idle => 1
  | move => 2
  | guiding => 3
  | reflex => 4
  | userStopped => 5
  | automaticErrorRecovery => 6

/-- The mode with that tag, `other` if there is none. -/
def ofTag (tag : UInt8) : RobotMode :=
  (all.find? fun mode => mode.tag == tag).getD other

/-- Whether the robot has to be recovered before it moves again. -/
def requiresRecovery (mode : RobotMode) : Bool := mode == reflex || mode == userStopped

end RobotMode

/-- The kind of motion that a controller is following. -/
inductive GeneratorMode
  | idle
  | jointPosition
  | jointVelocity
  | cartesianPosition
  | cartesianVelocity
deriving DecidableEq, Inhabited

namespace GeneratorMode

/-- Every kind of motion, in the order of the tags. -/
def all : List GeneratorMode :=
  [idle, jointPosition, jointVelocity, cartesianPosition, cartesianVelocity]

/-- The name of the mode. -/
def name : GeneratorMode → String
  | idle => "Idle"
  | jointPosition => "JointPosition"
  | jointVelocity => "JointVelocity"
  | cartesianPosition => "CartesianPosition"
  | cartesianVelocity => "CartesianVelocity"

/-- The tag of the mode. -/
def tag : GeneratorMode → UInt8
  | idle => 0
  | jointPosition => 1
  | jointVelocity => 2
  | cartesianPosition => 3
  | cartesianVelocity => 4

/-- The mode with that tag, `idle` if there is none. -/
def ofTag (tag : UInt8) : GeneratorMode :=
  (all.find? fun mode => mode.tag == tag).getD idle

end GeneratorMode

end ArmControl
