import ArmControl.Proofs.Comparison
import ArmControl.Proofs.Validation
import ArmControl.Request

/-!
# What a request has to satisfy

`Request.conditions` lists, in their order, the conditions that the arguments of a request have to
meet, each in terms of the arguments alone. `request_verdict` is the main theorem: a request is
accepted exactly when it meets them all, and otherwise the error is about the first one that it does
not meet. What an error says of its condition is in `Breach`.
-/

namespace ArmControl

/-! ## Conditions -/

/-- What is required of some numbers in a request, with the names of the fields that they are in. -/
inductive Condition
  | finite (field : String) (values : List Float)
  | nonNegative (field : String) (values : List Float)
  | atMost {n : Nat} (field : String) (lower : Vector Float n) (upperField : String)
      (upper : Vector Float n)
  | rigid (field : String) (frame : Frame)
  | symmetric (field : String) (tensor : Tensor)
  | wallId (field : String) (id : Int32)

namespace Condition

/-- The field that is at fault when the condition is not met. -/
def field : Condition → String
  | finite field _ | nonNegative field _ | atMost field _ _ _ | rigid field _ => field
  | symmetric field _ | wallId field _ => field

/-- The numbers that have to be finite to begin with. -/
def values : Condition → List Float
  | finite _ values | nonNegative _ values => values
  | rigid _ frame => frame.toList
  | atMost _ _ _ _ | symmetric _ _ | wallId _ _ => []

/-- Whether the condition is met. -/
def Met : Condition → Prop
  | finite _ values => ∀ x ∈ values, x.isFinite = true
  | nonNegative _ values => ∀ x ∈ values, x.isFinite = true ∧ 0 ≤ x
  | @atMost n _ lower _ upper => ∀ (i : Nat) (h : i < n), lower[i] ≤ upper[i]
  | rigid _ frame => frame.isRigid = true
  | symmetric _ tensor => tensor.isSymmetric = true
  | wallId _ id => 0 ≤ id

/-- The conditions of a lower and an upper limit. -/
def range {n : Nat} (lowerField : String) (lower : Vector Float n) (upperField : String)
    (upper : Vector Float n) : List Condition :=
  [.nonNegative lowerField lower.toList, .nonNegative upperField upper.toList,
    .atMost lowerField lower upperField upper]

end Condition

/-- The value is the first one, and has this index, that satisfies the predicate. -/
structure FirstAt {α : Type} (p : α → Prop) (values : List α) (i : Nat) (value : α) : Prop where
  at_index : values[i]? = some value
  holds : p value
  earlier : ∀ j < i, ∀ other, values[j]? = some other → ¬ p other

/-- What an error says of a condition that is not met. -/
inductive Breach : Condition → ValueError → Prop
  | nonFinite {c : Condition} (i : Nat) (x : Float) :
      FirstAt (fun x => x.isFinite = false) c.values i x → Breach c (.nonFinite c.field i x)
  | negative {field : String} {values : List Float} (i : Nat) (x : Float) :
      (∀ x ∈ values, x.isFinite = true) → FirstAt (fun x => ¬ 0 ≤ x) values i x →
      Breach (.nonNegative field values) (.invalidParameter field (.negative i x))
  | exceeds {n : Nat} {field upperField : String} {lower upper : Vector Float n} (i : Nat)
      (h : i < n) :
      ¬ lower[i] ≤ upper[i] → (∀ j (hj : j < i), lower[j] ≤ upper[j]) →
      Breach (.atMost field lower upperField upper)
        (.invalidParameter field (.exceeds i upperField lower[i] upper[i]))
  | notRigid {field : String} {frame : Frame} :
      (∀ x ∈ frame.toList, x.isFinite = true) → frame.isRigid = false →
      Breach (.rigid field frame) (.invalidTransform field)
  | notSymmetric {field : String} {tensor : Tensor} :
      tensor.isSymmetric = false →
      Breach (.symmetric field tensor) (.invalidParameter field .notSymmetric)
  | negativeWall {field : String} {id : Int32} :
      id < 0 → Breach (.wallId field id) (.invalidParameter field (.negativeWall id))

namespace FirstAt

variable {α : Type} {p q : α → Prop} {values : List α} {i : Nat} {value : α}

theorem mem (h : FirstAt p values i value) : value ∈ values := by
  obtain ⟨hlt, rfl⟩ := List.getElem?_eq_some_iff.mp h.at_index
  exact List.getElem_mem hlt

/-- Predicates that agree on the values have the same first one. -/
theorem of_iff (h : FirstAt p values i value) (hiff : ∀ x ∈ values, p x ↔ q x) :
    FirstAt q values i value where
  at_index := h.at_index
  holds := (hiff value h.mem).mp h.holds
  earlier := fun j hj other hother hq =>
    h.earlier j hj other hother ((hiff other (List.mem_of_getElem? hother)).mpr hq)

/-- One more value in front, which does not satisfy the predicate, moves the first one on. -/
theorem cons (h : FirstAt p values i value) {x : α} (hx : ¬ p x) :
    FirstAt p (x :: values) (i + 1) value where
  at_index := h.at_index
  holds := h.holds
  earlier := fun j hj other hother => by
    cases j with
    | zero => cases hother; exact hx
    | succ j => exact h.earlier j (by omega) other hother

end FirstAt

/-- A search finds the first value that satisfies its predicate. -/
theorem first_index_eq_some {α : Type} {p : α → Bool} {values : List α} {i : Nat} {value : α}
    (h : firstIndex? p values = some (i, value)) :
    FirstAt (fun x => p x = true) values i value := by
  induction values generalizing i with
  | nil => cases h
  | cons x rest ih =>
      unfold firstIndex? at h
      cases hx : p x with
      | true =>
          rw [hx] at h
          cases h
          exact ⟨rfl, hx, fun _ hlt => absurd hlt (Nat.not_lt_zero _)⟩
      | false =>
          rw [hx] at h
          obtain ⟨⟨j, y⟩, hfound, hmoved⟩ := Option.map_eq_some_iff.mp h
          cases hmoved
          exact (ih hfound).cons (Bool.eq_false_iff.mp hx)

/-- The numbers of a condition that is met are finite. -/
theorem Condition.Met.finite {c : Condition} (h : c.Met) : ∀ x ∈ c.values, x.isFinite = true := by
  intro x hmem
  cases c with
  | finite field values => exact h x hmem
  | nonNegative field values => exact (h x hmem).1
  | rigid field frame =>
      have hrigid : frame.isRigid = true := h
      simp only [Frame.isRigid, Bool.and_eq_true] at hrigid
      exact List.all_eq_true.mp hrigid.1.1.1 x hmem
  | atMost | symmetric | wallId => cases hmem

namespace Breach

variable {c : Condition} {e : ValueError}

/-- An error names the field of its condition. -/
theorem field_eq (h : Breach c e) : e.field = c.field := by
  cases h <;> rfl

/-- What an error says of a condition is at odds with the condition. -/
theorem not_met (h : Breach c e) : ¬ c.Met := by
  intro hmet
  cases h with
  | nonFinite i x hfirst =>
      exact Bool.eq_false_iff.mp hfirst.holds (hmet.finite x hfirst.mem)
  | negative i x _ hfirst => exact hfirst.holds (hmet x hfirst.mem).2
  | exceeds i hi hnot _ => exact hnot (hmet i hi)
  | notRigid _ hrigid => exact Bool.eq_false_iff.mp hrigid hmet
  | notSymmetric hsymmetric => exact Bool.eq_false_iff.mp hsymmetric hmet
  | negativeWall hid => exact Int32.not_le.mpr hid hmet

end Breach

/-! ## Verdicts -/

/-- The outcome of checking some conditions in their order: all are met, or the error is about the
first one that is not. -/
inductive Verdict (conditions : List Condition) : Except ValueError Unit → Prop
  | passed : (∀ c ∈ conditions, c.Met) → Verdict conditions (.ok ())
  | refused (earlier : List Condition) (c : Condition) (later : List Condition) {e : ValueError} :
      conditions = earlier ++ c :: later → (∀ c ∈ earlier, c.Met) → Breach c e →
      Verdict conditions (.error e)

namespace Verdict

variable {conditions more : List Condition} {check next : Except ValueError Unit} {c : Condition}
  {e : ValueError}

theorem met (h : c.Met) : Verdict [c] (.ok ()) :=
  .passed (by simpa using h)

theorem unmet (h : Breach c e) : Verdict [c] (.error e) :=
  .refused [] c [] rfl (by simp) h

/-- Conditions that are checked after others may take for granted that those are met. -/
theorem bind (h : Verdict conditions check)
    (hnext : (∀ c ∈ conditions, c.Met) → Verdict more next) :
    Verdict (conditions ++ more) (check >>= fun _ => next) := by
  cases h with
  | passed hmet =>
      show Verdict _ next
      cases hnext hmet with
      | passed hmore =>
          refine .passed fun c hmem => ?_
          rcases List.mem_append.mp hmem with hmem | hmem
          · exact hmet c hmem
          · exact hmore c hmem
      | refused earlier c later hsplit hearlier hbreach =>
          refine .refused (conditions ++ earlier) c later ?_ (fun c hmem => ?_) hbreach
          · rw [hsplit, List.append_assoc]
          · rcases List.mem_append.mp hmem with hmem | hmem
            · exact hmet c hmem
            · exact hearlier c hmem
  | refused earlier c later hsplit hearlier hbreach =>
      refine .refused earlier c (later ++ more) ?_ hearlier hbreach
      rw [hsplit, List.append_assoc]
      rfl

/-- A check passes exactly when all conditions are met. -/
theorem ok_iff (h : Verdict conditions check) : check = .ok () ↔ ∀ c ∈ conditions, c.Met := by
  cases h with
  | passed hmet => exact iff_of_true rfl hmet
  | refused earlier c later hsplit _ hbreach =>
      refine iff_of_false nofun fun hmet => ?_
      subst hsplit
      exact hbreach.not_met (hmet c (by simp))

end Verdict

/-! ## The checks -/

section Checks

variable {field : String} {values : List Float}

/-- The error of a check for finite numbers is about the first one that is not. -/
theorem check_finite_breach {c : Condition} {e : ValueError}
    (h : checkFinite c.field c.values = .error e) : Breach c e := by
  unfold checkFinite at h
  split at h
  · rename_i i x hfound
    cases h
    exact .nonFinite i x ((first_index_eq_some hfound).of_iff fun y _ => by simp)
  · cases h

theorem check_finite_verdict : Verdict [.finite field values] (checkFinite field values) := by
  cases hcheck : checkFinite field values with
  | ok => exact .met (check_finite_ok_iff.mp hcheck)
  | error e => exact .unmet (check_finite_breach hcheck)

theorem check_non_negative_verdict :
    Verdict [.nonNegative field values] (checkNonNegative field values) := by
  unfold checkNonNegative
  cases hcheck : checkFinite field values with
  | error e => exact .unmet (check_finite_breach hcheck)
  | ok =>
      have hfinite : ∀ x ∈ values, x.isFinite = true := check_finite_ok_iff.mp hcheck
      have hsign : ∀ x ∈ values, 0 ≤ x ↔ ¬ x < 0 := fun x hmem =>
        nonneg_iff_not_negative (hfinite x hmem)
      dsimp only [bind, Except.bind]
      split
      · rename_i i x hfound
        refine .unmet (.negative i x hfinite ((first_index_eq_some hfound).of_iff fun y hmem => ?_))
        rw [hsign y hmem, decide_eq_true_iff, Classical.not_not]
      · rename_i hnone
        refine .met fun x hmem => ⟨hfinite x hmem, (hsign x hmem).mpr ?_⟩
        exact of_decide_eq_false (first_index_eq_none_iff.mp hnone x hmem)

-- Negative zero is not below zero, and that a number is none is reported before that one is.
example : checkNonNegative field [1, -0.0] = .ok () := rfl
example : checkNonNegative field [-1, 0 / 0] = .error (.nonFinite field 1 (0 / 0)) := rfl

theorem check_frame_verdict {frame : Frame} :
    Verdict [.rigid field frame] (checkFrame field frame) := by
  unfold checkFrame
  cases hcheck : checkFinite field frame.toList with
  | error e => exact .unmet (check_finite_breach hcheck)
  | ok =>
      show Verdict _ (if frame.isRigid then .ok () else .error (.invalidTransform field))
      cases hrigid : frame.isRigid with
      | true => exact .met hrigid
      | false => exact .unmet (.notRigid (check_finite_ok_iff.mp hcheck) hrigid)

variable {n : Nat} {upperField : String} {lower upper : Vector Float n}

/-- Where both limits are finite, the check of a range compares them as the condition does. -/
theorem compare_limits_verdict (hlower : ∀ x ∈ lower.toList, x.isFinite = true)
    (hupper : ∀ x ∈ upper.toList, x.isFinite = true) :
    Verdict [.atMost field lower upperField upper]
      (match firstIndex? (fun (low, high) => decide (low > high))
          (lower.toList.zip upper.toList) with
      | some (index, low, high) =>
          .error (.invalidParameter field (.exceeds index upperField low high))
      | none => .ok ()) := by
  have horder (i : Nat) (hi : i < n) : lower[i] ≤ upper[i] ↔ ¬ upper[i] < lower[i] :=
    le_iff_not_lt (hlower _ (by simp)) (hupper _ (by simp))
  have hpair (i : Nat) (hi : i < n) :
      (lower.toList.zip upper.toList)[i]? = some (lower[i], upper[i]) := by
    simp [hi]
  split
  · rename_i i low high hfound
    have hfirst := first_index_eq_some hfound
    have hi : i < n := by
      obtain ⟨hlt, -⟩ := List.getElem?_eq_some_iff.mp hfirst.at_index
      simpa using hlt
    obtain ⟨rfl, rfl⟩ : low = lower[i] ∧ high = upper[i] := by
      have hsame := (hpair i hi).symm.trans hfirst.at_index
      simpa [eq_comm] using hsame
    refine .unmet (.exceeds i hi ?_ fun j hj => ?_)
    · rw [horder i hi, Classical.not_not]
      exact of_decide_eq_true hfirst.holds
    · rw [horder j (by omega)]
      intro hlt
      exact hfirst.earlier j hj _ (hpair j (by omega)) (decide_eq_true hlt)
  · rename_i hnone
    refine .met fun i hi => (horder i hi).mpr ?_
    have hmiss := first_index_eq_none_iff.mp hnone _ (List.mem_of_getElem? (hpair i hi))
    simpa only [gt_iff_lt, decide_eq_false_iff_not] using hmiss

theorem check_range_verdict :
    Verdict (Condition.range field lower upperField upper)
      (checkRange field lower.toList upperField upper.toList) := by
  refine check_non_negative_verdict.bind fun hlower => ?_
  refine check_non_negative_verdict.bind fun hupper => ?_
  exact compare_limits_verdict (hlower _ List.mem_cons_self).finite
    (hupper _ List.mem_cons_self).finite

end Checks

/-! ## Requests -/

/-- What thresholds have to satisfy: four pairs of a lower and an upper limit. -/
def CollisionThresholds.conditions (t : CollisionThresholds) : List Condition :=
  Condition.range "lower_torque_acceleration" t.lowerTorqueAcceleration
      "upper_torque_acceleration" t.upperTorqueAcceleration ++
    (Condition.range "lower_torque_nominal" t.lowerTorqueNominal
        "upper_torque_nominal" t.upperTorqueNominal ++
      (Condition.range "lower_force_acceleration" t.lowerForceAcceleration
          "upper_force_acceleration" t.upperForceAcceleration ++
        Condition.range "lower_force_nominal" t.lowerForceNominal
          "upper_force_nominal" t.upperForceNominal))

/-- What a load has to satisfy. -/
def Load.conditions (l : Load) : List Condition :=
  [.nonNegative "mass" [l.mass], .finite "f_x_cload" l.center.toList,
    .finite "inertia" l.inertia.toList, .symmetric "inertia" l.inertia]

/-- What a request has to satisfy, in the order in which it is looked at. -/
def Request.conditions : Request → List Condition
  | setCollisionBehavior thresholds => thresholds.conditions
  | setJointImpedance stiffness => [.nonNegative "k_theta" stiffness.toList]
  | setCartesianImpedance stiffness => [.nonNegative "k_x" stiffness.toList]
  | setStiffnessFrame frame => [.rigid "ee_t_k" frame]
  | setEndEffectorFrame frame => [.rigid "f_t_ee" frame]
  | setLoad load => load.conditions
  | getCartesianLimit id => [.wallId "id" id]
  | setControllerMode _ | setGuidingMode _ _ | automaticErrorRecovery => []

theorem CollisionThresholds.verdict (t : CollisionThresholds) : Verdict t.conditions t.validate :=
  check_range_verdict.bind fun _ => check_range_verdict.bind fun _ =>
    check_range_verdict.bind fun _ => check_range_verdict

theorem Load.verdict (l : Load) : Verdict l.conditions l.validate := by
  refine check_non_negative_verdict.bind fun _ => ?_
  refine check_finite_verdict.bind fun _ => check_finite_verdict.bind fun _ => ?_
  cases hsymmetric : l.inertia.isSymmetric with
  | true => exact .met hsymmetric
  | false => exact .unmet (.notSymmetric hsymmetric)

theorem Request.verdict (q : Request) : Verdict q.conditions q.validate := by
  cases q with
  | setCollisionBehavior thresholds => exact thresholds.verdict
  | setJointImpedance | setCartesianImpedance => exact check_non_negative_verdict
  | setStiffnessFrame | setEndEffectorFrame => exact check_frame_verdict
  | setLoad load => exact load.verdict
  | getCartesianLimit id =>
      by_cases hid : id < 0
      · simp only [validate, if_pos hid]
        exact .unmet (.negativeWall hid)
      · simp only [validate, if_neg hid]
        exact .met (Int32.not_lt.mp hid)
  | setControllerMode | setGuidingMode | automaticErrorRecovery =>
      exact .passed (by simp [conditions])

/-- A request is accepted exactly when it meets all its conditions. Otherwise the error names the
field of the first one that it does not meet, and says of it what is not as it should be; of
numbers that are not finite it gives the first. -/
theorem request_verdict (q : Request) :
    (q.validate = .ok () ↔ ∀ c ∈ q.conditions, c.Met) ∧
      ∀ e, q.validate = .error e → ∃ earlier c later, q.conditions = earlier ++ c :: later ∧
        (∀ c ∈ earlier, c.Met) ∧ ¬ c.Met ∧ e.field = c.field ∧ Breach c e := by
  have hverdict := q.verdict
  refine ⟨hverdict.ok_iff, fun e herror => ?_⟩
  rw [herror] at hverdict
  cases hverdict with
  | refused earlier c later hsplit hearlier hbreach =>
      exact ⟨earlier, c, later, hsplit, hearlier, hbreach.not_met, hbreach.field_eq, hbreach⟩

end ArmControl
