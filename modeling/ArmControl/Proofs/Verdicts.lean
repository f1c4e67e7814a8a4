import ArmControl.Proofs.Conditions

/-!
# Conditions leave no choice to a check

A list has at most one first value that is at fault, so that a condition that is not met has one
`Breach`, and by `Verdict.unique` its conditions alone decide the outcome of a check. The main
theorem, `number_checks_exact`, draws on that for the two checks that look through numbers: it says
which lists they accept, and which error they report of any other.
-/

namespace ArmControl

/-! ## The first value -/

namespace FirstAt

variable {α : Type} {p : α → Prop} {values : List α} {i j : Nat} {x y : α}

theorem index_le (h : FirstAt p values i x) (h' : FirstAt p values j y) : i ≤ j :=
  Nat.le_of_not_lt fun hlt => h.earlier j hlt y h'.at_index h'.holds

/-- A list has at most one first value that satisfies a predicate. -/
theorem unique (h : FirstAt p values i x) (h' : FirstAt p values j y) : i = j ∧ x = y := by
  have hindex : i = j := Nat.le_antisymm (h.index_le h') (h'.index_le h)
  subst hindex
  exact ⟨rfl, Option.some.inj (h.at_index.symm.trans h'.at_index)⟩

/-- A value that satisfies the predicate, after others that do not, is the first one. -/
theorem of_split {earlier later : List α} (hearlier : ∀ y ∈ earlier, ¬ p y) (hx : p x) :
    FirstAt p (earlier ++ x :: later) earlier.length x := by
  induction earlier with
  | nil => exact ⟨rfl, hx, fun _ hlt => absurd hlt (Nat.not_lt_zero _)⟩
  | cons y rest ih =>
      obtain ⟨hy, hrest⟩ := List.forall_mem_cons.mp hearlier
      exact (ih hrest).cons hy

end FirstAt

/-! ## One error, one outcome -/

namespace Breach

variable {c : Condition} {e e' : ValueError} {field : String} {values : List Float}

/-- A number that is not finite is reported in place of anything else that is at fault. -/
theorem of_not_finite {i : Nat} {x : Float} (h : Breach c e)
    (hfirst : FirstAt (fun x => x.isFinite = false) c.values i x) :
    e = .nonFinite c.field i x := by
  cases h with
  | nonFinite j y hfirst' =>
      obtain ⟨rfl, rfl⟩ := hfirst.unique hfirst'
      rfl
  | negative _ _ hfinite _ | notRigid hfinite _ =>
      exact absurd (hfinite x hfirst.mem) (Bool.eq_false_iff.mp hfirst.holds)
  | exceeds | notSymmetric | negativeWall => exact absurd hfirst.mem List.not_mem_nil

/-- A condition that is not met leaves one error to report. -/
theorem unique (h : Breach c e) (h' : Breach c e') : e = e' := by
  cases h' with
  | nonFinite i x hfirst => exact h.of_not_finite hfirst
  | negative i x hfinite hfirst =>
      cases h with
      | nonFinite _ _ hfirst' => exact ((negative i x hfinite hfirst).of_not_finite hfirst').symm
      | negative j y _ hfirst' =>
          obtain ⟨rfl, rfl⟩ := hfirst.unique hfirst'
          rfl
  | exceeds i hi hnot hearlier =>
      cases h with
      | nonFinite _ _ hfirst' => exact absurd hfirst'.mem List.not_mem_nil
      | exceeds j hj hnot' hearlier' =>
          have hle : i ≤ j := Nat.le_of_not_lt fun hlt => hnot' (hearlier j hlt)
          have hge : j ≤ i := Nat.le_of_not_lt fun hlt => hnot (hearlier' i hlt)
          obtain rfl : i = j := Nat.le_antisymm hle hge
          rfl
  | notRigid hfinite hrigid =>
      cases h with
      | nonFinite _ _ hfirst' => exact ((notRigid hfinite hrigid).of_not_finite hfirst').symm
      | notRigid => rfl
  | notSymmetric =>
      cases h with
      | nonFinite _ _ hfirst' => exact absurd hfirst'.mem List.not_mem_nil
      | notSymmetric => rfl
  | negativeWall =>
      cases h with
      | nonFinite _ _ hfirst' => exact absurd hfirst'.mem List.not_mem_nil
      | negativeWall => rfl

theorem finite_iff : Breach (.finite field values) e ↔
    ∃ i x, FirstAt (fun x => x.isFinite = false) values i x ∧ e = .nonFinite field i x := by
  constructor
  · intro h
    cases h with
    | nonFinite i x hfirst => exact ⟨i, x, hfirst, rfl⟩
  · rintro ⟨i, x, hfirst, rfl⟩
    exact .nonFinite i x hfirst

theorem non_negative_iff : Breach (.nonNegative field values) e ↔
    (∃ i x, FirstAt (fun x => x.isFinite = false) values i x ∧ e = .nonFinite field i x) ∨
      ∃ i x, (∀ y ∈ values, y.isFinite = true) ∧ FirstAt (fun x => ¬ 0 ≤ x) values i x ∧
        e = .invalidParameter field (.negative i x) := by
  constructor
  · intro h
    cases h with
    | nonFinite i x hfirst => exact .inl ⟨i, x, hfirst, rfl⟩
    | negative i x hfinite hfirst => exact .inr ⟨i, x, hfinite, hfirst, rfl⟩
  · rintro (⟨i, x, hfirst, rfl⟩ | ⟨i, x, hfinite, hfirst, rfl⟩)
    · exact .nonFinite i x hfirst
    · exact .negative i x hfinite hfirst

end Breach

namespace Verdict

variable {conditions : List Condition} {check check' : Except ValueError Unit} {c : Condition}
  {e : ValueError}

/-- The conditions alone decide the outcome. -/
theorem unique (h : Verdict conditions check) (h' : Verdict conditions check') :
    check = check' := by
  cases h with
  | passed hmet => exact (h'.ok_iff.mpr hmet).symm
  | refused earlier c later hsplit hearlier hbreach =>
      cases h' with
      | passed hmet =>
          subst hsplit
          exact absurd (hmet c (by simp)) hbreach.not_met
      | refused earlier' c' later' hsplit' hearlier' hbreach' =>
          -- Both errors are about the first condition that is not met.
          have hfirst : FirstAt (fun c => ¬ c.Met) conditions earlier.length c :=
            hsplit ▸ .of_split (fun c hmem => not_not.mpr (hearlier c hmem)) hbreach.not_met
          have hfirst' : FirstAt (fun c => ¬ c.Met) conditions earlier'.length c' :=
            hsplit' ▸ .of_split (fun c hmem => not_not.mpr (hearlier' c hmem)) hbreach'.not_met
          obtain ⟨-, rfl⟩ := hfirst.unique hfirst'
          exact congrArg _ (hbreach.unique hbreach')

/-- A check reports an error exactly when that is about the first condition that is not met. -/
theorem error_iff (h : Verdict conditions check) : check = .error e ↔
    ∃ earlier c later, conditions = earlier ++ c :: later ∧ (∀ c ∈ earlier, c.Met) ∧
      Breach c e := by
  constructor
  · rintro rfl
    cases h with
    | refused earlier c later hsplit hearlier hbreach =>
        exact ⟨earlier, c, later, hsplit, hearlier, hbreach⟩
  · rintro ⟨earlier, c, later, hsplit, hearlier, hbreach⟩
    exact h.unique (.refused earlier c later hsplit hearlier hbreach)

theorem single_error_iff (h : Verdict [c] check) : check = .error e ↔ Breach c e := by
  rw [h.error_iff]
  constructor
  · rintro ⟨earlier, c', later, hsplit, -, hbreach⟩
    cases earlier with
    | nil =>
        cases hsplit
        exact hbreach
    | cons first rest => simp at hsplit
  · exact fun hbreach => ⟨[], c, [], rfl, by simp, hbreach⟩

end Verdict

/-! ## The checks of numbers -/

section Numbers

variable {field : String} {values : List Float}

theorem negative_zero_passes : (-0.0 : Float).isFinite = true ∧ ¬ (-0.0 : Float) < 0 := by
  decide +kernel

/-- Values pass exactly when all are finite and none is below zero. -/
theorem check_non_negative_ok_iff : checkNonNegative field values = .ok () ↔
    ∀ x ∈ values, x.isFinite = true ∧ ¬ x < 0 := by
  rw [check_non_negative_verdict.ok_iff, List.forall_mem_singleton]
  show (∀ x ∈ values, x.isFinite = true ∧ 0 ≤ x) ↔ _
  exact forall₂_congr fun x _ => and_congr_right nonneg_iff_not_negative

/-- Of values that do not pass, the first one that is not finite is reported, and if there is none
the first one below zero. -/
theorem check_non_negative_error_iff {e : ValueError} : checkNonNegative field values = .error e ↔
    (∃ i x, FirstAt (fun x => x.isFinite = false) values i x ∧ e = .nonFinite field i x) ∨
      ∃ i x, (∀ y ∈ values, y.isFinite = true) ∧ FirstAt (fun x => x < 0) values i x ∧
        e = .invalidParameter field (.negative i x) := by
  rw [check_non_negative_verdict.single_error_iff, Breach.non_negative_iff]
  refine or_congr_right (exists₂_congr fun i x => and_congr_right fun hfinite => ?_)
  have hsign : ∀ y ∈ values, ¬ 0 ≤ y ↔ y < 0 := fun y hmem => by
    rw [nonneg_iff_not_negative (hfinite y hmem), Classical.not_not]
  refine and_congr_left fun _ => ⟨fun hfirst => hfirst.of_iff hsign, fun hfirst => ?_⟩
  exact hfirst.of_iff fun y hmem => (hsign y hmem).symm

theorem negative_message (i : Nat) (x : Float) :
    (ValueError.invalidParameter field (.negative i x)).message =
      s!"Invalid parameter '{field}': element {i} is negative ({plainText x})" := by
  have hreason : (ParameterFault.negative i x).message =
      s!"element {i} is negative ({plainText x})" := rfl
  show s!"Invalid parameter '{field}': {(ParameterFault.negative i x).message}" = _
  rw [hreason]
  simp only [toString]
  generalize plainText x = text
  simp only [String.append_assoc]
  rfl

end Numbers

/-- The check for finite numbers passes exactly the lists that hold no other, and reports the first
number that is not finite. The check for numbers not below zero passes exactly the lists whose
numbers are all finite and not below zero. It reports the first number that is not finite, also
when one below zero comes before it, and only if there is none the first one below zero. So a list
passes it only if each of its sublists does, under any name, two lists pass it joined exactly when
each passes, and a negative zero is accepted wherever it stands. -/
theorem number_checks_exact (field : String) (values : List Float) :
    (checkFinite field values = .ok () ↔ ∀ x ∈ values, x.isFinite = true) ∧
    (∀ e, checkFinite field values = .error e ↔
      ∃ i x, FirstAt (fun x => x.isFinite = false) values i x ∧ e = .nonFinite field i x) ∧
    (checkNonNegative field values = .ok () ↔ ∀ x ∈ values, x.isFinite = true ∧ ¬ x < 0) ∧
    (∀ e, checkNonNegative field values = .error e ↔
      (∃ i x, FirstAt (fun x => x.isFinite = false) values i x ∧ e = .nonFinite field i x) ∨
        ∃ i x, (∀ y ∈ values, y.isFinite = true) ∧ FirstAt (fun x => x < 0) values i x ∧
          e = .invalidParameter field (.negative i x) ∧
          e.message = s!"Invalid parameter '{field}': element {i} is negative ({plainText x})") ∧
    (checkNonNegative field values = .ok () →
      ∀ name part, part.Sublist values → checkNonNegative name part = .ok ()) ∧
    (∀ more, checkNonNegative field (values ++ more) = .ok () ↔
      checkNonNegative field values = .ok () ∧ checkNonNegative field more = .ok ()) ∧
    ∀ more, checkNonNegative field (values ++ -0.0 :: more) = .ok () ↔
      checkNonNegative field (values ++ more) = .ok () := by
  refine ⟨check_finite_ok_iff, fun e => ?_, check_non_negative_ok_iff, fun e => ?_, ?_, ?_, ?_⟩
  · rw [check_finite_verdict.single_error_iff, Breach.finite_iff]
  · rw [check_non_negative_error_iff]
    refine or_congr_right (exists₂_congr fun i x => ?_)
    refine and_congr_right fun _ => and_congr_right fun _ => (and_iff_left_of_imp ?_).symm
    rintro rfl
    exact negative_message i x
  · intro hpassed name part hpart
    rw [check_non_negative_ok_iff] at hpassed ⊢
    exact fun x hmem => hpassed x (hpart.subset hmem)
  · intro more
    simp only [check_non_negative_ok_iff, List.forall_mem_append]
  · intro more
    simp only [check_non_negative_ok_iff, List.forall_mem_append, List.forall_mem_cons,
      negative_zero_passes.1, negative_zero_passes.2, not_false_eq_true, and_self, true_and]

/-- Without its greatest value a list with a negative zero passes as it did with it. -/
theorem shortened_list_passes :
    checkNonNegative "k_theta" [-0.0, 2.5, 0] = .ok () ∧
      checkNonNegative "mass" [-0.0, 0] = .ok () := by
  have hpassed : checkNonNegative "k_theta" [-0.0, 2.5, 0] = .ok () := rfl
  obtain ⟨-, -, -, -, hparts, -⟩ := number_checks_exact "k_theta" [-0.0, 2.5, 0]
  exact ⟨hpassed, hparts hpassed "mass" [-0.0, 0] (.cons_cons _ (.cons _ (.refl _)))⟩

end ArmControl
