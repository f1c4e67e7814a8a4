import ArmControl.Frame
import ArmControl.Mode

/-!
# Configuration requests

What a client may ask of a controller outside the cycle, and how a controller may answer.
`Request.validate` says which requests may be sent at all; it reports the first violation in a
fixed order and clamps nothing.
-/

namespace ArmControl

/-- Contact and collision thresholds: torques and forces, while accelerating and at constant
velocity. Above the lower threshold there is a contact, above the upper one a collision. -/
structure CollisionThresholds where
  lowerTorqueAcceleration : Joints
  upperTorqueAcceleration : Joints
  lowerTorqueNominal : Joints
  upperTorqueNominal : Joints
  lowerForceAcceleration : Twist
  upperForceAcceleration : Twist
  lowerForceNominal : Twist
  upperForceNominal : Twist

namespace CollisionThresholds

/-- The same thresholds while accelerating and at constant velocity. -/
def uniform (lowerTorque upperTorque : Joints) (lowerForce upperForce : Twist) :
    CollisionThresholds where
  lowerTorqueAcceleration := lowerTorque
  upperTorqueAcceleration := upperTorque
  lowerTorqueNominal := lowerTorque
  upperTorqueNominal := upperTorque
  lowerForceAcceleration := lowerForce
  upperForceAcceleration := upperForce
  lowerForceNominal := lowerForce
  upperForceNominal := upperForce

/-- Accepts thresholds of which each lower one is at most its upper one. -/
def validate (t : CollisionThresholds) : Except ValueError Unit := do
  checkRange "lower_torque_acceleration" t.lowerTorqueAcceleration.toList
    "upper_torque_acceleration" t.upperTorqueAcceleration.toList
  checkRange "lower_torque_nominal" t.lowerTorqueNominal.toList
    "upper_torque_nominal" t.upperTorqueNominal.toList
  checkRange "lower_force_acceleration" t.lowerForceAcceleration.toList
    "upper_force_acceleration" t.upperForceAcceleration.toList
  checkRange "lower_force_nominal" t.lowerForceNominal.toList
    "upper_force_nominal" t.upperForceNominal.toList

end CollisionThresholds

/-- What hangs at the flange. -/
structure Load where
  mass : Float
  center : Point
  inertia : Tensor

namespace Load

/-- Nothing at all. -/
def empty : Load := ⟨0, .replicate _ 0, .replicate _ 0⟩

/-- Accepts a load with a mass not below zero and a symmetric inertia. -/
def validate (l : Load) : Except ValueError Unit := do
  checkNonNegative "mass" [l.mass]
  checkFinite "f_x_cload" l.center.toList
  checkFinite "inertia" l.inertia.toList
  if l.inertia.isSymmetric then .ok ()
  else .error (.invalidParameter "inertia" .notSymmetric)

end Load

/-- What can be asked of a controller. -/
inductive Request
  | setControllerMode (mode : ControllerMode)
  | setCollisionBehavior (thresholds : CollisionThresholds)
  | setJointImpedance (stiffness : Joints)
  | setCartesianImpedance (stiffness : Twist)
  | setGuidingMode (axes : Vector Bool 6) (elbow : Bool)
  | setStiffnessFrame (frame : Frame)
  | setEndEffectorFrame (frame : Frame)
  | setLoad (load : Load)
  | getCartesianLimit (id : Int32)
  | automaticErrorRecovery

namespace Request

/-- The name of a request. -/
def name : Request → String
  | setControllerMode _ => "SetControllerMode"
  | setCollisionBehavior _ => "SetCollisionBehavior"
  | setJointImpedance _ => "SetJointImpedance"
  | setCartesianImpedance _ => "SetCartesianImpedance"
  | setGuidingMode _ _ => "SetGuidingMode"
  | setStiffnessFrame _ => "SetEeToK"
  | setEndEffectorFrame _ => "SetFToEe"
  | setLoad _ => "SetLoad"
  | getCartesianLimit _ => "GetCartesianLimit"
  | automaticErrorRecovery => "AutomaticErrorRecovery"

/-- Accepts a request that may be sent. -/
def validate : Request → Except ValueError Unit
  | setCollisionBehavior thresholds => thresholds.validate
  | setJointImpedance stiffness => checkNonNegative "k_theta" stiffness.toList
  | setCartesianImpedance stiffness => checkNonNegative "k_x" stiffness.toList
  | setStiffnessFrame frame => checkFrame "ee_t_k" frame
  | setEndEffectorFrame frame => checkFrame "f_t_ee" frame
  | setLoad load => load.validate
  | getCartesianLimit id =>
      if id < 0 then .error (.invalidParameter "id" (.negativeWall id)) else .ok ()
  | setControllerMode _ | setGuidingMode _ _ | automaticErrorRecovery => .ok ()

end Request

/-- A box that the end effector may not leave. -/
structure Wall where
  id : Int32
  active : Bool
  size : Point
  frame : Frame

namespace Wall

/-- The answer for an id without a wall. -/
def absent (id : Int32) : Wall := ⟨id, false, .replicate _ 0, .identity⟩

end Wall

/-- What a controller returns when it has done as asked. -/
inductive Reply
  | done
  | wall (wall : Wall)

/-- Why a controller refuses a request. -/
inductive Refusal
  | invalidArgument (text : String)
  | commandNotPossible (text : String)
  | aborted (text : String)
  | preempted
deriving DecidableEq

namespace Refusal

/-- The refusal in words. -/
def message : Refusal → String
  | invalidArgument text => s!"invalid argument: {text}"
  | commandNotPossible text => s!"command not possible: {text}"
  | aborted text => s!"aborted: {text}"
  | preempted => "preempted by another command"

end Refusal

/-- How a controller answers a request. -/
inductive Response
  | success (reply : Reply)
  | rejected (reason : Refusal)

end ArmControl
