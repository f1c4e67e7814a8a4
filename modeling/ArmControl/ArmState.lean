import ArmControl.Duration.Basic
import ArmControl.Frame
import ArmControl.Mode

/-!
# States of the arm

An `ArmState` is what the controller reports once in every control cycle.
-/

namespace ArmControl

/-- What the controller reports in one cycle. A name that ends in `Desired` is what the controller
aims at; its counterpart is what was measured. -/
structure ArmState where
  messageId : UInt64 := 0
  time : Duration := .zero
  endEffector : Frame := .identity
  endEffectorDesired : Frame := .identity
  flangeToEndEffector : Frame := .identity
  endEffectorToStiffness : Frame := .identity
  elbow : Elbow := .replicate _ 0
  elbowDesired : Elbow := .replicate _ 0
  position : Joints := .replicate _ 0
  positionDesired : Joints := .replicate _ 0
  velocity : Joints := .replicate _ 0
  velocityDesired : Joints := .replicate _ 0
  torque : Joints := .replicate _ 0
  torqueDesired : Joints := .replicate _ 0
  torqueRate : Joints := .replicate _ 0
  externalTorque : Joints := .replicate _ 0
  externalWrench : Twist := .replicate _ 0
  controllerMode : ReportedMode := .other
  robotMode : RobotMode := .idle
  generatorMode : GeneratorMode := .idle
  successRate : Float := 0

namespace ArmState

instance : Inhabited ArmState := ⟨{}⟩

/-- Where the end effector is. -/
def endEffectorPosition (state : ArmState) : Point := state.endEffector.translation

/-- Whether the robot has to be recovered before it moves again. -/
def requiresRecovery (state : ArmState) : Bool := state.robotMode.requiresRecovery

end ArmState

end ArmControl
