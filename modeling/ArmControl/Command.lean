import ArmControl.Frame
import ArmControl.Mode

/-!
# Commands

One `Command` answers one state. `Command.validate` checks the torques and, of a motion, only what
its mode makes the controller read: the field of that mode and an elbow that is marked valid.
-/

namespace ArmControl

/-- Joint torques, without gravity. -/
structure Torques where
  torque : Joints := .replicate _ 0

namespace Torques

/-- Accepts finite torques, as a callback gives them. -/
def validate (t : Torques) : Except ValueError Unit := checkFinite "tau_j" t.torque.toList

end Torques

/-- The motion part of a command. Only the field that belongs to `mode` has a meaning. -/
structure Motion where
  mode : GeneratorMode := .idle
  position : Joints := .replicate _ 0
  velocity : Joints := .replicate _ 0
  frame : Frame := .identity
  twist : Twist := .replicate _ 0
  elbow : Elbow := .replicate _ 0
  elbowValid : Bool := false

namespace Motion

/-- Accepts a motion of which the field of its mode can be used. -/
def validateField (m : Motion) : Except ValueError Unit :=
  match m.mode with
  | .jointPosition => checkFinite "q_c" m.position.toList
  | .jointVelocity => checkFinite "dq_c" m.velocity.toList
  | .cartesianPosition => checkFrame "o_t_ee_c" m.frame
  | .cartesianVelocity => checkFinite "o_dp_ee_c" m.twist.toList
  | .idle => .ok ()

/-- Accepts a motion of which everything that the controller reads can be used. -/
def validate (m : Motion) : Except ValueError Unit := do
  m.validateField
  if m.elbowValid then checkFinite "elbow_c" m.elbow.toList else .ok ()

end Motion

/-- What the controller is told in one cycle. `messageId` is the id of the state that it answers,
`motionFinished` says that every callback has ended, and `lastCycle` ends the session. -/
structure Command where
  messageId : UInt64 := 0
  motion : Option Motion := none
  control : Option Torques := none
  motionFinished : Bool := false
  lastCycle : Bool := false

namespace Command

/-- The command that ends a session: the outputs of the command before it, for another state. -/
def terminal (previous : Command) (messageId : UInt64) : Command :=
  { previous with messageId, motionFinished := true, lastCycle := true }

/-- Accepts a command whose torques and motion can be used. -/
def validate (c : Command) : Except ValueError Unit := do
  match c.control with
  | some t => checkFinite "tau_j_d" t.torque.toList
  | none => pure ()
  match c.motion with
  | some m => m.validate
  | none => pure ()

end Command

end ArmControl
