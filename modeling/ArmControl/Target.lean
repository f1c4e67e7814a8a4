import ArmControl.Command

/-!
# Motion targets

What a motion callback gives in one cycle, in one of four representations. `Target.merge` writes a
target into the motion part of a command and `Target.validate` checks it beforehand.
-/

namespace ArmControl

/-- A pose of the end effector, with an elbow if the elbow is not left to the controller. -/
structure CartesianPose where
  frame : Frame := .identity
  elbow : Option Elbow := none

/-- A velocity of the end effector, with an elbow if the elbow is not left to the controller. -/
structure CartesianVelocity where
  twist : Twist := .replicate _ 0
  elbow : Option Elbow := none

/-- What a motion callback aims at. -/
inductive Target
  | jointPositions (position : Joints)
  | jointVelocities (velocity : Joints)
  | cartesianPose (pose : CartesianPose)
  | cartesianVelocities (velocity : CartesianVelocity)

namespace Target

/-- The kind of motion of a target. -/
def mode : Target → GeneratorMode
  | jointPositions _ => .jointPosition
  | jointVelocities _ => .jointVelocity
  | cartesianPose _ => .cartesianPosition
  | cartesianVelocities _ => .cartesianVelocity

/-- The elbow that a target asks for. -/
def elbow? : Target → Option Elbow
  | jointPositions _ => none
  | jointVelocities _ => none
  | cartesianPose pose => pose.elbow
  | cartesianVelocities velocity => velocity.elbow

/-- Accepts an elbow whose numbers are finite, and no elbow. -/
def validateElbow : Option Elbow → Except ValueError Unit
  | some elbow => checkFinite "elbow_c" elbow.toList
  | none => .ok ()

/-- Accepts a target that can be used. -/
def validate : Target → Except ValueError Unit
  | jointPositions position => checkFinite "q_c" position.toList
  | jointVelocities velocity => checkFinite "dq_c" velocity.toList
  | cartesianPose pose => do
      checkFrame "o_t_ee_c" pose.frame
      validateElbow pose.elbow
  | cartesianVelocities velocity => do
      checkFinite "o_dp_ee_c" velocity.twist.toList
      validateElbow velocity.elbow

/-- Writes an elbow into a motion; without one, the elbow of the motion no longer counts. -/
def mergeElbow (elbow : Option Elbow) (m : Motion) : Motion :=
  match elbow with
  | some elbow => { m with elbow, elbowValid := true }
  | none => { m with elbowValid := false }

/-- Writes a target into a motion. Joint targets leave the elbow as it is. -/
def merge (target : Target) (m : Motion) : Motion :=
  match target with
  | jointPositions position => { m with mode := .jointPosition, position }
  | jointVelocities velocity => { m with mode := .jointVelocity, velocity }
  | cartesianPose pose =>
      mergeElbow pose.elbow { m with mode := .cartesianPosition, frame := pose.frame }
  | cartesianVelocities velocity =>
      mergeElbow velocity.elbow { m with mode := .cartesianVelocity, twist := velocity.twist }

end Target

end ArmControl
