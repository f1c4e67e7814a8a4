import ArmControl.Proofs.Validation
import Mathlib.Data.List.Induction

/-!
# Targets merged one after another

A motion into which several targets were merged has the kind and the field of the last of them. It
does not always have its elbow: a target in space decides about the elbow, also when it has none,
and a joint target leaves the elbow that an earlier one has set. `merging_over_targets` is the main
theorem. It says for every series of targets which elbow counts in the end, when a command with the
motion passes, and when nothing of the earlier targets is left.
-/

namespace ArmControl

/-- The elbow that counts in a motion. -/
def Motion.elbow? (m : Motion) : Option Elbow := if m.elbowValid then some m.elbow else none

/-- A motion passes exactly when the field of its mode and the elbow that counts do. -/
theorem Motion.validate_elbow_iff {m : Motion} :
    m.validate = .ok () ↔ m.validateField = .ok () ∧ Target.validateElbow m.elbow? = .ok () := by
  rw [Motion.validate_ok_iff, Motion.elbow?]
  cases m.elbowValid <;> simp [Target.validateElbow]

namespace Target

/-- Whether the target is one in space, and not one of the joints. -/
def isCartesian : Target → Bool
  | jointPositions _ | jointVelocities _ => false
  | cartesianPose _ | cartesianVelocities _ => true

/-- The motion has the numbers of the target in the field that belongs to it. -/
def IsIn (m : Motion) : Target → Prop
  | jointPositions position => m.position = position
  | jointVelocities velocity => m.velocity = velocity
  | cartesianPose pose => m.frame = pose.frame
  | cartesianVelocities velocity => m.twist = velocity.twist

/-! ## What one merge changes, and what it leaves -/

section Merge

variable (target : Target) (m : Motion)

theorem merge_elbow_mode (elbow : Option Elbow) : (mergeElbow elbow m).mode = m.mode := by
  cases elbow <;> rfl

theorem merge_elbow_counts (elbow : Option Elbow) : (mergeElbow elbow m).elbow? = elbow := by
  cases elbow <;> rfl

theorem merge_elbow_field (elbow : Option Elbow) :
    (mergeElbow elbow m).validateField = m.validateField := by
  cases elbow <;> rfl

theorem merge_mode : (target.merge m).mode = target.mode := by
  cases target with
  | jointPositions | jointVelocities => rfl
  | cartesianPose pose => exact merge_elbow_mode _ pose.elbow
  | cartesianVelocities velocity => exact merge_elbow_mode _ velocity.elbow

theorem merge_is_in : target.IsIn (target.merge m) := by
  cases target with
  | jointPositions | jointVelocities => rfl
  | cartesianPose pose => cases helbow : pose.elbow <;> simp [IsIn, merge, mergeElbow, helbow]
  | cartesianVelocities velocity =>
      cases helbow : velocity.elbow <;> simp [IsIn, merge, mergeElbow, helbow]

/-- A target in space decides about the elbow, and a joint target leaves it. -/
theorem merge_elbow? :
    (target.merge m).elbow? = if target.isCartesian then target.elbow? else m.elbow? := by
  cases target with
  | jointPositions | jointVelocities => rfl
  | cartesianPose pose => exact merge_elbow_counts _ pose.elbow
  | cartesianVelocities velocity => exact merge_elbow_counts _ velocity.elbow

/-- A target is judged by its numbers, as they stand in the motion, and by its elbow. -/
theorem validate_merge_iff :
    target.validate = .ok () ↔
      (target.merge m).validateField = .ok () ∧ validateElbow target.elbow? = .ok () := by
  cases target with
  | jointPositions | jointVelocities => exact (and_iff_left rfl).symm
  | cartesianPose pose =>
      unfold validate merge
      rw [and_then_ok_iff, merge_elbow_field]
      rfl
  | cartesianVelocities velocity =>
      unfold validate merge
      rw [and_then_ok_iff, merge_elbow_field]
      rfl

end Merge

/-! ## Series of targets -/

/-- The motion of these targets, merged in their order into an empty one. -/
def mergeAll (targets : List Target) : Motion := targets.foldl (fun m target => target.merge m) {}

/-- The elbow that counts after these targets: that of the last one in space, if there is one and it
has an elbow. -/
def elbowAfter (targets : List Target) : Option Elbow :=
  (targets.filter isCartesian).getLast?.bind elbow?

theorem merge_all_snoc (targets : List Target) (target : Target) :
    mergeAll (targets ++ [target]) = target.merge (mergeAll targets) := by
  unfold mergeAll
  rw [List.foldl_append]
  rfl

theorem elbow_after_snoc (targets : List Target) (target : Target) :
    elbowAfter (targets ++ [target]) =
      if target.isCartesian then target.elbow? else elbowAfter targets := by
  cases hcartesian : target.isCartesian <;> simp [elbowAfter, List.filter_append, hcartesian]

/-- The elbow of a motion is that of the last target that had a say in it. -/
theorem merge_all_elbow (targets : List Target) :
    (mergeAll targets).elbow? = elbowAfter targets := by
  induction targets using List.reverseRecOn with
  | nil => rfl
  | append_singleton targets target ih =>
      rw [merge_all_snoc, merge_elbow?, elbow_after_snoc, ih]

/-- Nothing is left of earlier targets when the last one has a say in the elbow, or no elbow counted
before it. -/
def Supersedes (earlier : List Target) (last : Target) : Prop :=
  last.isCartesian = true ∨ elbowAfter earlier = none

theorem elbow_after_eq_last_iff {earlier : List Target} {last : Target} :
    elbowAfter (earlier ++ [last]) = last.elbow? ↔ Supersedes earlier last := by
  rw [elbow_after_snoc]
  cases last with
  | jointPositions | jointVelocities => simp [Supersedes, isCartesian, elbow?]
  | cartesianPose | cartesianVelocities => simp [Supersedes, isCartesian]

/-- A motion into which a target was merged last, after others. -/
structure MergedLast (earlier : List Target) (last : Target) (m : Motion) : Prop where
  mode : m.mode = last.mode
  field : last.IsIn m
  elbow : m.elbow? = elbowAfter (earlier ++ [last])
  passes : ∀ c : Command, c.motion = some m →
    (c.validate = .ok () ↔ (∀ t ∈ c.control, t.validate = .ok ()) ∧ last.validate = .ok () ∧
      validateElbow (elbowAfter (earlier ++ [last])) = .ok ())

/-- A target that passes has an elbow that passes. -/
theorem validate_elbow_of_validate {target : Target} (h : target.validate = .ok ()) :
    validateElbow target.elbow? = .ok () :=
  ((validate_merge_iff target {}).mp h).2

theorem merge_all_validate (earlier : List Target) (last : Target) :
    (mergeAll (earlier ++ [last])).validate = .ok () ↔ last.validate = .ok () ∧
      validateElbow (elbowAfter (earlier ++ [last])) = .ok () := by
  rw [Motion.validate_elbow_iff, merge_all_elbow, validate_merge_iff last (mergeAll earlier),
    merge_all_snoc, and_assoc]
  refine and_congr_right fun _ => ?_
  -- Without an elbow of its own, the last target passes whichever elbow counts.
  constructor
  · intro helbow
    refine ⟨?_, helbow⟩
    rw [elbow_after_snoc] at helbow
    cases last with
    | jointPositions | jointVelocities => rfl
    | cartesianPose | cartesianVelocities => exact helbow
  · exact And.right

/-- What is left of targets that were merged one after another: the motion has the kind and the
field of the last target. The elbow is the one that the last target in space decided about, and a
command with the motion passes exactly when its torques, the last target and that elbow do. So the
motion is as if only the last target had been merged, as far as the elbow and the check go, exactly
when that target supersedes the others. -/
theorem merging_over_targets (earlier : List Target) (last : Target) :
    MergedLast earlier last (mergeAll (earlier ++ [last])) ∧
      ((mergeAll (earlier ++ [last])).elbow? = last.elbow? ↔ Supersedes earlier last) ∧
      (Supersedes earlier last → ∀ c : Command, c.motion = some (mergeAll (earlier ++ [last])) →
        (c.validate = .ok () ↔
          (∀ t ∈ c.control, t.validate = .ok ()) ∧ last.validate = .ok ())) := by
  have hpasses (c : Command) (hc : c.motion = some (mergeAll (earlier ++ [last]))) :
      c.validate = .ok () ↔ (∀ t ∈ c.control, t.validate = .ok ()) ∧ last.validate = .ok () ∧
        validateElbow (elbowAfter (earlier ++ [last])) = .ok () := by
    rw [Command.validate_ok_iff, hc, ← merge_all_validate]
    simp
  refine ⟨⟨?_, ?_, merge_all_elbow _, hpasses⟩, ?_, fun hsupersedes c hc => ?_⟩
  · rw [merge_all_snoc, merge_mode]
  · rw [merge_all_snoc]
    exact merge_is_in last _
  · rw [merge_all_elbow, elbow_after_eq_last_iff]
  · rw [hpasses c hc, elbow_after_eq_last_iff.mpr hsupersedes]
    exact and_congr_right fun _ => and_iff_left_of_imp validate_elbow_of_validate

/-- A joint target that comes after a pose with an elbow has no elbow, but the motion does; and when
the numbers of that elbow are not finite, no command with the motion passes, though the joint target
would. -/
theorem joint_target_inherits_elbow :
    ((mergeAll [.cartesianPose { elbow := some #v[0.5, -1.0] },
        .jointPositions (.replicate _ 0.1)]).elbowValid = true ∧
      elbow? (.jointPositions (.replicate _ 0.1)) = none) ∧
    Target.validate (.jointPositions (.replicate _ 0)) = .ok () ∧
      Command.validate { motion := some (mergeAll
        [.cartesianPose { elbow := some #v[0 / 0, 0] }, .jointPositions (.replicate _ 0)]) } ≠
          .ok () := by
  have hlast : Target.validate (.jointPositions (.replicate _ 0)) = .ok () := by
    unfold validate
    exact check_finite_ok_iff.mpr (by decide +kernel)
  refine ⟨⟨rfl, rfl⟩, hlast, fun hpasses => ?_⟩
  have hmotion := (Command.validate_ok_iff.mp hpasses).2 _ rfl
  obtain ⟨-, helbow⟩ := (merge_all_validate [.cartesianPose { elbow := some #v[0 / 0, 0] }]
    (.jointPositions (.replicate _ 0))).mp hmotion
  have helbow : checkFinite "elbow_c" (#v[0 / 0, 0] : Elbow).toList = .ok () := helbow
  have hnan : (0 / 0 : Float).isFinite = true := check_finite_ok_iff.mp helbow _ (by simp)
  exact absurd hnan (by decide +kernel)

end Target

end ArmControl
