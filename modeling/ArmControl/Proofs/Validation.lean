import ArmControl.Control.Loop

/-!
# Two layers of validation

A control session checks the outputs of its callbacks, and the driver checks the whole command.
The two checks are written over different structures, and here they are shown to agree: by
`build_command_validate_iff` a command passes exactly when the outputs that it carries pass, and by
`terminal_validate` the command that ends a session passes exactly when the one before it does.
-/

namespace ArmControl

/-- One check after another passes exactly when both do. -/
theorem and_then_ok_iff {ε : Type} {first second : Except ε Unit} :
    (first >>= fun _ => second) = .ok () ↔ first = .ok () ∧ second = .ok () := by
  cases first with
  | error error => simp [bind, Except.bind]
  | ok => simp [bind, Except.bind]

/-- A search comes to nothing exactly when no element satisfies the predicate. -/
theorem first_index_eq_none_iff {α : Type} {p : α → Bool} {values : List α} :
    firstIndex? p values = none ↔ ∀ x ∈ values, p x = false := by
  induction values with
  | nil => simp [firstIndex?]
  | cons x rest ih =>
      cases hx : p x with
      | true => simp [firstIndex?, hx]
      | false => simp [firstIndex?, hx, ih]

/-- Values pass exactly when all are finite, under whatever name they are checked. -/
theorem check_finite_ok_iff {field : String} {values : List Float} :
    checkFinite field values = .ok () ↔ ∀ x ∈ values, x.isFinite = true := by
  have hnone : checkFinite field values = .ok () ↔
      firstIndex? (fun x => !Float.isFinite x) values = none := by
    unfold checkFinite
    split <;> simp_all
  simp [hnone, first_index_eq_none_iff]

/-- Frames pass exactly when they are rigid, under whatever name they are checked. -/
theorem check_frame_ok_iff {field : String} {t : Frame} :
    checkFrame field t = .ok () ↔ t.isRigid = true := by
  unfold checkFrame
  rw [and_then_ok_iff, check_finite_ok_iff]
  cases hrigid : t.isRigid with
  | false => simp
  | true =>
      -- A rigid frame is finite to begin with.
      simp only [Frame.isRigid, Bool.and_eq_true] at hrigid
      exact iff_of_true ⟨List.all_eq_true.mp hrigid.1.1.1, rfl⟩ rfl

namespace Motion

/-- A motion passes exactly when the field of its mode does, and its elbow if that counts. -/
theorem validate_ok_iff {m : Motion} :
    m.validate = .ok () ↔ m.validateField = .ok () ∧
      (m.elbowValid = true → checkFinite "elbow_c" m.elbow.toList = .ok ()) := by
  unfold validate
  rw [and_then_ok_iff]
  cases m.elbowValid <;> simp

end Motion

namespace Target

/-- A target that is written into an empty motion is judged as it was judged alone. -/
theorem merge_validate (target : Target) : (target.merge {}).validate = target.validate := by
  cases target with
  | jointPositions position => exact bind_pure_unit
  | jointVelocities velocity => exact bind_pure_unit
  | cartesianPose pose =>
      cases h : pose.elbow <;> simp only [merge, mergeElbow, validate, h] <;> rfl
  | cartesianVelocities velocity =>
      cases h : velocity.elbow <;> simp only [merge, mergeElbow, validate, h] <;> rfl

end Target

namespace Command

/-- A command passes exactly when its torques and its motion do. -/
theorem validate_ok_iff {c : Command} :
    c.validate = .ok () ↔ (∀ t ∈ c.control, t.validate = .ok ()) ∧
      ∀ m ∈ c.motion, m.validate = .ok () := by
  have htorque (t : Torques) : checkFinite "tau_j_d" t.torque.toList = .ok () ↔
      t.validate = .ok () := by
    unfold Torques.validate
    rw [check_finite_ok_iff, check_finite_ok_iff]
  unfold validate
  cases hcontrol : c.control <;> cases hmotion : c.motion <;>
    simp [htorque, and_then_ok_iff, pure, Except.pure]

/-- Ending a session with the outputs of the last command leaves their check as it was. -/
theorem terminal_validate (c : Command) (messageId : UInt64) :
    (c.terminal messageId).validate = c.validate := rfl

end Command

/-- The command made of outputs passes exactly when each output that it carries passes. -/
theorem build_command_validate_iff {messageId : UInt64} {torque : Option Torques}
    {target : Option Target} {finished : Bool} :
    (Control.buildCommand messageId torque target finished).validate = .ok () ↔
      (∀ t ∈ torque, t.validate = .ok ()) ∧ ∀ m ∈ target, m.validate = .ok () := by
  rw [Command.validate_ok_iff]
  cases torque <;> cases target <;> simp [Control.buildCommand, Target.merge_validate]

end ArmControl
