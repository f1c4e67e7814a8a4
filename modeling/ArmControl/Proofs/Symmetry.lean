import Mathlib.Data.List.Induction
import ArmControl.Proofs.Conditions

/-!
# What the symmetry of a tensor amounts to

A tensor is compared with its transpose by the `peak` of their differences, which keeps what it has
as long as that is at least what comes next. A comparison with a NaN fails, so that a NaN takes the
place of what came before it, and is itself replaced by what comes after it. `symmetry_verdict` is
the main theorem: only the positions after some such loss count, or all nine of them. Before a load
is accepted its numbers have been found finite, and then all nine count.
-/

namespace ArmControl

/-! ## The peak of a list -/

section Peak

variable {α : Type} {f : α → Float} {items : List α} {y : α} {a b bound : Float}

theorem peak_snoc (h : items ≠ []) :
    peak ((items ++ [y]).map f) =
      if peak (items.map f) ≥ (f y).abs then peak (items.map f) else (f y).abs := by
  cases items with
  | nil => exact absurd rfl h
  | cons x rest =>
      rw [List.map_append]
      show List.foldl _ (f x).abs (rest.map f ++ [f y]) = _
      rw [List.foldl_append]
      rfl

/-- Of what is kept and what comes next, the one that stays is below a bound when the next one is,
and the one kept so far is as well or is a NaN. -/
theorem kept_below_iff : (if a ≥ b then a else b) < bound ↔
    b < bound ∧ (a < bound ∨ a.isNaN = true) := by
  by_cases hkeep : a ≥ b
  · rw [if_pos hkeep]
    have ha : a.isNaN = false := (le_iff_standing.mp hkeep).2.1
    constructor
    · intro h
      exact ⟨below_of_le hkeep h, .inl h⟩
    · rintro ⟨-, h | h⟩
      · exact h
      · rw [ha] at h
        cases h
  · rw [if_neg hkeep]
    constructor
    · intro h
      refine ⟨h, ?_⟩
      cases ha : a.isNaN with
      | true => exact .inr rfl
      | false =>
          have hb : b.isNaN = false := (lt_iff_standing.mp h).1
          have hbelow : a < b := by
            rwa [ge_iff_le, le_iff_not_below hb ha, Classical.not_not] at hkeep
          exact .inl (below_of_le (le_of_below hbelow) h)
    · exact fun h => h.1

/-- What stays is a NaN exactly when the next one is. -/
theorem isNaN_kept : (if a ≥ b then a else b).isNaN = b.isNaN := by
  by_cases hkeep : a ≥ b
  · obtain ⟨hb, ha, -⟩ := le_iff_standing.mp hkeep
    rw [if_pos hkeep, ha, hb]
  · rw [if_neg hkeep]

/-- The peak is a NaN exactly when the last value is. -/
theorem isNaN_peak (h : items ≠ []) :
    (peak (items.map f)).isNaN = true ↔ ∀ x ∈ items.getLast?, (f x).isNaN = true := by
  obtain rfl | ⟨items, y, rfl⟩ := items.eq_nil_or_concat
  · exact absurd rfl h
  rw [List.concat_eq_append]
  have hy : (peak ((items ++ [y]).map f)).isNaN = (f y).isNaN := by
    by_cases hitems : items = []
    · subst hitems
      exact isNaN_abs (f y)
    · rw [peak_snoc hitems, isNaN_kept, isNaN_abs]
  rw [hy]
  simp

/-- What of the items is read stays below a bound in magnitude: all of them, or what comes after
some item whose value is a NaN. -/
def ReadBelow (f : α → Float) (bound : Float) (items : List α) : Prop :=
  ∃ passed read, items = passed ++ read ∧ read ≠ [] ∧
    (∀ x ∈ passed.getLast?, (f x).isNaN = true) ∧ ∀ x ∈ read, (f x).abs < bound

theorem read_below_snoc : ReadBelow f bound (items ++ [y]) ↔
    (f y).abs < bound ∧ (ReadBelow f bound items ∨ ∀ x ∈ items.getLast?, (f x).isNaN = true) := by
  constructor
  · rintro ⟨passed, read, hsplit, hread, hlast, hbelow⟩
    obtain rfl | ⟨read, last, rfl⟩ := read.eq_nil_or_concat
    · exact absurd rfl hread
    rw [List.concat_eq_append] at hsplit hbelow
    rw [← List.append_assoc] at hsplit
    obtain ⟨rfl, hy⟩ := List.append_inj' hsplit rfl
    obtain rfl : y = last := by simpa using hy
    refine ⟨hbelow y (by simp), ?_⟩
    cases read with
    | nil => exact .inr (by simpa using hlast)
    | cons first rest =>
        exact .inl ⟨passed, first :: rest, rfl, by simp, hlast,
          fun x hx => hbelow x (List.mem_append_left _ hx)⟩
  · rintro ⟨hy, ⟨passed, read, rfl, hread, hlast, hbelow⟩ | hlast⟩
    · refine ⟨passed, read ++ [y], by simp, by simp, hlast, fun x hx => ?_⟩
      rcases List.mem_append.mp hx with hx | hx
      · exact hbelow x hx
      · rwa [List.mem_singleton.mp hx]
    · exact ⟨items, [y], rfl, by simp, hlast, by simpa using hy⟩

/-- The peak is below a bound exactly when what is read of the items is. -/
theorem peak_below_iff (h : items ≠ []) : peak (items.map f) < bound ↔ ReadBelow f bound items := by
  induction items using List.reverseRecOn with
  | nil => exact absurd rfl h
  | append_singleton items y ih =>
      rw [read_below_snoc]
      by_cases hitems : items = []
      · subst hitems
        show (f y).abs < bound ↔ _
        simp
      · rw [peak_snoc hitems, kept_below_iff, ih hitems, isNaN_peak hitems]

/-- Where no value is a NaN, all of them are read. -/
theorem read_below_of_numbers (h : items ≠ []) (hnumbers : ∀ x ∈ items, (f x).isNaN = false) :
    ReadBelow f bound items ↔ ∀ x ∈ items, (f x).abs < bound := by
  constructor
  · rintro ⟨passed, read, rfl, -, hlast, hbelow⟩
    obtain rfl : passed = [] := by
      cases hpassed : passed.getLast? with
      | none => exact List.getLast?_eq_none_iff.mp hpassed
      | some x =>
          have hx := hnumbers x (List.mem_append_left _ (List.mem_of_getLast? hpassed))
          rw [hlast x hpassed] at hx
          cases hx
    exact hbelow
  · exact fun hbelow => ⟨[], items, rfl, h, by simp, hbelow⟩

end Peak

/-! ## Tensors -/

namespace Tensor

/-- How far the entry at a position is from the one across from it, with its sign. -/
def difference (m : Tensor) (p : Fin 3 × Fin 3) : Float := m.entry p.1 p.2 - m.entry p.2 p.1

theorem symmetric_iff_read (m : Tensor) :
    m.isSymmetric = true ↔ ReadBelow m.difference tolerance positions := by
  show decide (peak (positions.map m.difference) < tolerance) = true ↔ _
  rw [decide_eq_true_iff, peak_below_iff (by decide)]

theorem difference_is_number {m : Tensor} (hfinite : ∀ x ∈ m.toList, x.isFinite = true)
    (p : Fin 3 × Fin 3) : (m.difference p).isNaN = false :=
  isNaN_sub (hfinite _ (by simp [entry])) (hfinite _ (by simp [entry]))

end Tensor

/-- A load is accepted exactly when its numbers are finite, its mass is not below zero, and at all
nine positions the entry is within the tolerance of the one across from it. -/
theorem Load.accepted_iff (l : Load) : l.validate = .ok () ↔
    (l.mass.isFinite = true ∧ 0 ≤ l.mass) ∧ (∀ x ∈ l.center.toList, x.isFinite = true) ∧
      (∀ x ∈ l.inertia.toList, x.isFinite = true) ∧
      ∀ p ∈ Tensor.positions, (l.inertia.difference p).abs < tolerance := by
  have hconditions : (∀ c ∈ l.conditions, c.Met) ↔
      (l.mass.isFinite = true ∧ 0 ≤ l.mass) ∧ (∀ x ∈ l.center.toList, x.isFinite = true) ∧
        (∀ x ∈ l.inertia.toList, x.isFinite = true) ∧ l.inertia.isSymmetric = true := by
    simp [conditions, Condition.Met]
  rw [l.verdict.ok_iff, hconditions, l.inertia.symmetric_iff_read]
  refine and_congr_right fun _ => and_congr_right fun _ => and_congr_right fun hfinite => ?_
  exact read_below_of_numbers (by decide) fun p _ => Tensor.difference_is_number hfinite p

/-- A tensor counts as symmetric exactly when its differences are below the tolerance at the
positions that are read: all of them, or those that come after one whose difference is a NaN. So
a tensor whose nine differences are all below the tolerance counts as symmetric, one that counts
as symmetric has the last of them below it, and when none is a NaN all of them have to be. For a
load that is accepted, all of them are. -/
theorem symmetry_verdict (m : Tensor) (l : Load) :
    (m.isSymmetric = true ↔ ∃ passed read, Tensor.positions = passed ++ read ∧ read ≠ [] ∧
      (∀ p ∈ passed.getLast?, (m.difference p).isNaN = true) ∧
      ∀ p ∈ read, (m.difference p).abs < tolerance) ∧
    ((∀ p ∈ Tensor.positions, (m.difference p).abs < tolerance) → m.isSymmetric = true) ∧
    (m.isSymmetric = true → (m.difference (2, 2)).abs < tolerance) ∧
    ((∀ p ∈ Tensor.positions, (m.difference p).isNaN = false) →
      (m.isSymmetric = true ↔ ∀ p ∈ Tensor.positions, (m.difference p).abs < tolerance)) ∧
    (l.validate = .ok () → ∀ p ∈ Tensor.positions, (l.inertia.difference p).abs < tolerance) := by
  have hread := m.symmetric_iff_read
  refine ⟨hread, fun hall => ?_, fun hsymmetric => ?_, fun hnumbers => ?_, fun haccepted => ?_⟩
  · exact hread.mpr ⟨[], Tensor.positions, rfl, by decide, by simp, hall⟩
  · have hlast := hread.mp hsymmetric
    rw [show Tensor.positions = Tensor.positions.dropLast ++ [(2, 2)] by decide,
      read_below_snoc] at hlast
    exact hlast.1
  · exact hread.trans (read_below_of_numbers (by decide) hnumbers)
  · exact (l.accepted_iff.mp haccepted).2.2.2

/-- Across the diagonal from a 5 stands a -3, and there is a NaN in the middle. -/
def Tensor.torn : Tensor := #v[1, 5, 0, -3, 0 / 0, 0, 0, 0, 1]

/-- The NaN hides that the entries across the diagonal differ, and is itself passed over. -/
theorem torn_tensor_counts_as_symmetric : Tensor.torn.isSymmetric = true ∧
    ¬ ((Tensor.torn.difference (1, 0)).abs < tolerance) ∧
    ¬ ((Tensor.torn.difference (1, 1)).abs < tolerance) ∧
    (Tensor.torn.difference (1, 1)).isNaN = true := by
  decide +kernel

/-- A bracket at the flange. The entries of its inertia across the diagonal differ by a rounding. -/
def Load.bracket : Load :=
  ⟨1.5, #v[0, 0.02, 0.1], #v[0.1, 0.012, 0, 0.012001, 0.2, -0.005, 0, -0.005, 0.3]⟩

/-- The load is accepted, although its tensor is not the same as its transpose. -/
theorem rounded_tensor_is_symmetric :
    (∀ p ∈ Tensor.positions, (Load.bracket.inertia.difference p).abs < tolerance) ∧
      Load.bracket.validate = .ok () ∧ Load.bracket.inertia.isSymmetric = true ∧
      Load.bracket.inertia.difference (0, 1) ≠ 0 := by
  have haccepted : Load.bracket.validate = .ok () := by
    rw [Load.accepted_iff]
    decide +kernel
  obtain ⟨-, hsymmetric, -, -, hbelow⟩ := symmetry_verdict Load.bracket.inertia Load.bracket
  exact ⟨hbelow haccepted, haccepted, hsymmetric (hbelow haccepted), by decide +kernel⟩

end ArmControl
