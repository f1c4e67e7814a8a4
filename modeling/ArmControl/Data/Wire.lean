import ArmControl.ArmState
import ArmControl.Data.Codec
import ArmControl.Request
import ArmControl.Settings
import ArmControl.Target

/-!
# The written form of the data model

One codec for each type that is exchanged or configured. The names of fields and variants are those
of the written form.
-/

namespace ArmControl

open Fields

/-- Lists of exactly `n` floats. -/
def floats (n : Nat) : Codec (Vector Float n) := .vector n .float

/-! ## Modes -/

/-- Reported controller modes. -/
def ReportedMode.codec : Codec ReportedMode := .named ReportedMode.all ReportedMode.name

/-- Controller modes. -/
def ControllerMode.codec : Codec ControllerMode := .named ControllerMode.all ControllerMode.name

/-- Robot modes. -/
def RobotMode.codec : Codec RobotMode := .named RobotMode.all RobotMode.name

/-- Kinds of motion. -/
def GeneratorMode.codec : Codec GeneratorMode := .named GeneratorMode.all GeneratorMode.name

/-! ## States -/

/-- The fields of a state. -/
def ArmState.fields :=
  field "message_id" .word64 <|
  field "time" Duration.codec <|
  field "o_t_ee" (floats 16) <|
  field "o_t_ee_d" (floats 16) <|
  field "f_t_ee" (floats 16) <|
  field "ee_t_k" (floats 16) <|
  field "elbow" (floats 2) <|
  field "elbow_d" (floats 2) <|
  field "q" (floats 7) <|
  field "q_d" (floats 7) <|
  field "dq" (floats 7) <|
  field "dq_d" (floats 7) <|
  field "tau_j" (floats 7) <|
  field "tau_j_d" (floats 7) <|
  field "dtau_j" (floats 7) <|
  field "tau_ext_hat_filtered" (floats 7) <|
  field "o_f_ext_hat_k" (floats 6) <|
  field "controller_mode" ReportedMode.codec <|
  field "robot_mode" RobotMode.codec <|
  field "motion_generator_mode" GeneratorMode.codec <|
  field "control_command_success_rate" .float nil

/-- States. -/
def ArmState.codec : Codec ArmState :=
  ArmState.fields.codec.map
    (fun (messageId, time, endEffector, endEffectorDesired, flangeToEndEffector,
        endEffectorToStiffness, elbow, elbowDesired, position, positionDesired, velocity,
        velocityDesired, torque, torqueDesired, torqueRate, externalTorque, externalWrench,
        controllerMode, robotMode, generatorMode, successRate, ()) =>
      { messageId, time, endEffector, endEffectorDesired, flangeToEndEffector,
        endEffectorToStiffness, elbow, elbowDesired, position, positionDesired, velocity,
        velocityDesired, torque, torqueDesired, torqueRate, externalTorque, externalWrench,
        controllerMode, robotMode, generatorMode, successRate })
    (fun s =>
      (s.messageId, s.time, s.endEffector, s.endEffectorDesired, s.flangeToEndEffector,
        s.endEffectorToStiffness, s.elbow, s.elbowDesired, s.position, s.positionDesired,
        s.velocity, s.velocityDesired, s.torque, s.torqueDesired, s.torqueRate,
        s.externalTorque, s.externalWrench, s.controllerMode, s.robotMode, s.generatorMode,
        s.successRate, ()))

/-! ## Commands -/

/-- The motion part of a command. -/
def Motion.codec : Codec Motion :=
  (field "mode" GeneratorMode.codec <|
    field "q_c" (floats 7) <|
    field "dq_c" (floats 7) <|
    field "o_t_ee_c" (floats 16) <|
    field "o_dp_ee_c" (floats 6) <|
    field "elbow_c" (floats 2) <|
    field "valid_elbow" .bool nil).codec.map
    (fun (mode, position, velocity, frame, twist, elbow, elbowValid, ()) =>
      { mode, position, velocity, frame, twist, elbow, elbowValid })
    (fun m =>
      (m.mode, m.position, m.velocity, m.frame, m.twist, m.elbow, m.elbowValid, ()))

/-- The torque part of a command. -/
def Torques.commandCodec : Codec Torques :=
  (field "tau_j_d" (floats 7) nil).codec.map (fun (torque, ()) => ⟨torque⟩)
    (fun t => (t.torque, ()))

/-- Commands. -/
def Command.codec : Codec Command :=
  (field "message_id" .word64 <|
    optionalField "motion" Motion.codec <|
    optionalField "control" Torques.commandCodec <|
    field "motion_finished" .bool <|
    field "last_cycle" .bool nil).codec.map
    (fun (messageId, motion, control, motionFinished, lastCycle, ()) =>
      { messageId, motion, control, motionFinished, lastCycle })
    (fun c => (c.messageId, c.motion, c.control, c.motionFinished, c.lastCycle, ()))

/-! ## Torques and targets -/

/-- Torques, as a callback gives them. -/
def Torques.codec : Codec Torques :=
  (field "tau_j" (floats 7) nil).codec.map (fun (torque, ()) => ⟨torque⟩)
    (fun t => (t.torque, ()))

/-- Joint positions. -/
def jointPositionsCodec : Codec Joints :=
  (field "q" (floats 7) nil).codec.map (fun (position, ()) => position)
    (fun position => (position, ()))

/-- Joint velocities. -/
def jointVelocitiesCodec : Codec Joints :=
  (field "dq" (floats 7) nil).codec.map (fun (velocity, ()) => velocity)
    (fun velocity => (velocity, ()))

/-- Poses. -/
def CartesianPose.codec : Codec CartesianPose :=
  (field "o_t_ee" (floats 16) <| optionalField "elbow" (floats 2) nil).codec.map
    (fun (frame, elbow, ()) => { frame, elbow }) (fun p => (p.frame, p.elbow, ()))

/-- Velocities of the end effector. -/
def CartesianVelocity.codec : Codec CartesianVelocity :=
  (field "o_dp_ee" (floats 6) <| optionalField "elbow" (floats 2) nil).codec.map
    (fun (twist, elbow, ()) => { twist, elbow }) (fun v => (v.twist, v.elbow, ()))

/-! ## Requests -/

/-- Collision thresholds. -/
def CollisionThresholds.codec : Codec CollisionThresholds :=
  (field "lower_torque_acceleration" (floats 7) <|
    field "upper_torque_acceleration" (floats 7) <|
    field "lower_torque_nominal" (floats 7) <|
    field "upper_torque_nominal" (floats 7) <|
    field "lower_force_acceleration" (floats 6) <|
    field "upper_force_acceleration" (floats 6) <|
    field "lower_force_nominal" (floats 6) <|
    field "upper_force_nominal" (floats 6) nil).codec.map
    (fun (lowerTorqueAcceleration, upperTorqueAcceleration, lowerTorqueNominal,
        upperTorqueNominal, lowerForceAcceleration, upperForceAcceleration, lowerForceNominal,
        upperForceNominal, ()) =>
      { lowerTorqueAcceleration, upperTorqueAcceleration, lowerTorqueNominal,
        upperTorqueNominal, lowerForceAcceleration, upperForceAcceleration, lowerForceNominal,
        upperForceNominal })
    (fun t =>
      (t.lowerTorqueAcceleration, t.upperTorqueAcceleration, t.lowerTorqueNominal,
        t.upperTorqueNominal, t.lowerForceAcceleration, t.upperForceAcceleration,
        t.lowerForceNominal, t.upperForceNominal, ()))

/-- Loads. -/
def Load.codec : Codec Load :=
  (field "mass" .float <| field "f_x_cload" (floats 3) <|
    field "inertia" (floats 9) nil).codec.map
    (fun (mass, center, inertia, ()) => { mass, center, inertia })
    (fun l => (l.mass, l.center, l.inertia, ()))

/-- The axes and the elbow that may be moved by hand. They belong to a variant, so the list of
their values is not read. -/
def guidingCodec : Codec (Vector Bool 6 × Bool) :=
  (field "axes" (.vector 6 .bool) <| field "elbow" .bool nil).recordCodec.map
    (fun (axes, elbow, ()) => (axes, elbow)) (fun (axes, elbow) => (axes, elbow, ()))

namespace Request

/-- The name of a request and its payload. -/
def write (q : Request) : String × Option Tree :=
  (q.name,
    match q with
    | setControllerMode mode => some (ControllerMode.codec.encode mode)
    | setCollisionBehavior thresholds => some (CollisionThresholds.codec.encode thresholds)
    | setJointImpedance stiffness => some ((floats 7).encode stiffness)
    | setCartesianImpedance stiffness => some ((floats 6).encode stiffness)
    | setGuidingMode axes elbow => some (guidingCodec.encode (axes, elbow))
    | setStiffnessFrame frame => some ((floats 16).encode frame)
    | setEndEffectorFrame frame => some ((floats 16).encode frame)
    | setLoad load => some (Load.codec.encode load)
    | getCartesianLimit id => some (Codec.int32.encode id)
    | automaticErrorRecovery => none)

/-- The request of a name with a payload. -/
def read : String → Option Tree → Option Request
  | "SetControllerMode", some t => (ControllerMode.codec.decode t).map setControllerMode
  | "SetCollisionBehavior", some t =>
      (CollisionThresholds.codec.decode t).map setCollisionBehavior
  | "SetJointImpedance", some t => ((floats 7).decode t).map setJointImpedance
  | "SetCartesianImpedance", some t => ((floats 6).decode t).map setCartesianImpedance
  | "SetGuidingMode", some t =>
      (guidingCodec.decode t).map fun (axes, elbow) => setGuidingMode axes elbow
  | "SetEeToK", some t => ((floats 16).decode t).map setStiffnessFrame
  | "SetFToEe", some t => ((floats 16).decode t).map setEndEffectorFrame
  | "SetLoad", some t => (Load.codec.decode t).map setLoad
  | "GetCartesianLimit", some t => (Codec.int32.decode t).map getCartesianLimit
  | "AutomaticErrorRecovery", none => some automaticErrorRecovery
  | _, _ => none

/-- Requests. -/
def codec : Codec Request := .tagged write read

end Request

/-! ## Responses -/

/-- Walls. -/
def Wall.codec : Codec Wall :=
  (field "id" .int32 <| field "active" .bool <| field "object_world_size" (floats 3) <|
    field "p_frame" (floats 16) nil).codec.map
    (fun (id, active, size, frame, ()) => { id, active, size, frame })
    (fun w => (w.id, w.active, w.size, w.frame, ()))

namespace Reply

/-- The name of a reply and its payload. -/
def write : Reply → String × Option Tree
  | done => ("Done", none)
  | wall w => ("VirtualWall", some (Wall.codec.encode w))

/-- The reply of a name with a payload. -/
def read : String → Option Tree → Option Reply
  | "Done", none => some done
  | "VirtualWall", some t => (Wall.codec.decode t).map wall
  | _, _ => none

/-- Replies. -/
def codec : Codec Reply := .tagged write read

end Reply

namespace Refusal

/-- The name of a refusal and its payload. -/
def write : Refusal → String × Option Tree
  | invalidArgument text => ("InvalidArgument", some (.text text))
  | commandNotPossible text => ("CommandNotPossible", some (.text text))
  | aborted text => ("Aborted", some (.text text))
  | preempted => ("Preempted", none)

/-- The refusal of a name with a payload. -/
def read : String → Option Tree → Option Refusal
  | "InvalidArgument", some t => (Codec.text.decode t).map invalidArgument
  | "CommandNotPossible", some t => (Codec.text.decode t).map commandNotPossible
  | "Aborted", some t => (Codec.text.decode t).map aborted
  | "Preempted", none => some preempted
  | _, _ => none

/-- Refusals. -/
def codec : Codec Refusal := .tagged write read

end Refusal

namespace Response

/-- The name of a response and its payload. -/
def write : Response → String × Option Tree
  | success reply => ("Success", some (Reply.codec.encode reply))
  | rejected reason => ("Rejected", some (Refusal.codec.encode reason))

/-- The response of a name with a payload. -/
def read : String → Option Tree → Option Response
  | "Success", some t => (Reply.codec.decode t).map success
  | "Rejected", some t => (Refusal.codec.decode t).map rejected
  | _, _ => none

/-- Responses. -/
def codec : Codec Response := .tagged write read

end Response

/-! ## Configuration -/

/-- The choice about real-time priority. -/
def Realtime.codec : Codec Realtime := .named [.enforce, .ignore] Realtime.key

/-- Times; each of them may be left out. -/
def Timing.codec : Codec Timing :=
  (defaultedField "control_period_us" .word64 1000 <|
    defaultedField "jitter_tolerance_us" .word64 1000 <|
    defaultedField "request_timeout_ms" .word64 5000 nil).codec.map
    (fun (controlPeriodUs, jitterToleranceUs, requestTimeoutMs, ()) =>
      { controlPeriodUs, jitterToleranceUs, requestTimeoutMs })
    (fun t => (t.controlPeriodUs, t.jitterToleranceUs, t.requestTimeoutMs, ()))

/-- Settings; each of them may be left out. -/
def Settings.codec : Codec Settings :=
  (defaultedField "driver" Timing.codec {} <|
    defaultedField "realtime" Realtime.codec .enforce <|
    defaultedField "enforce_implied_mode" .bool true nil).codec.map
    (fun (timing, realtime, enforceImpliedMode, ()) =>
      { timing, realtime, enforceImpliedMode })
    (fun s => (s.timing, s.realtime, s.enforceImpliedMode, ()))

end ArmControl
