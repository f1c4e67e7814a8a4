import Mathlib
import ArmControl.Frame

/-!
# Comparing numbers

Two numbers compare by their `standing`, a place in a linear order, unless one of them is a NaN;
`lt_iff_standing` and `le_iff_standing` say so. For finite numbers, being at most another one is the
same as the other one not being below, which is `le_iff_not_lt`. Which operations give a NaN is in
the second part.
-/

namespace ArmControl

open Float.Model UnpackedFloat

/-! ## The order -/

/-- Where a number stands among all numbers: its side of zero, then its exponent and its mantissa,
which count the other way below zero. A NaN stands nowhere. -/
def standing : UnpackedFloat → Int ×ₗ Int ×ₗ Int
  | .infinity .negative => toLex (-2, toLex (0, 0))
  | .finite .negative m e _ => toLex (-1, toLex (-e, -(m : Int)))
  | .zero _ | .notANumber => toLex (0, toLex (0, 0))
  | .finite .positive m e _ => toLex (1, toLex (e, (m : Int)))
  | .infinity .positive => toLex (2, toLex (0, 0))

theorem compare_natCast (m n : Nat) : compare (m : Int) (n : Int) = compare m n := by
  have hmono : StrictMono fun n : Nat => (n : Int) := fun _ _ => Int.ofNat_lt.mpr
  calc compare (m : Int) (n : Int) = cmp (m : Int) n := (cmp_eq_compare _ _).symm
    _ = cmp m n := hmono.cmp_map_eq m n
    _ = compare m n := cmp_eq_compare m n

theorem compare_neg (a b : Int) : compare (-a) (-b) = (compare a b).swap := by
  have hanti : StrictAnti fun x : Int => -x := fun _ _ => Int.neg_lt_neg
  calc compare (-a) (-b) = cmp (-a) (-b) := (cmp_eq_compare _ _).symm
    _ = cmp b a := hanti.cmp_map_eq a b
    _ = compare b a := cmp_eq_compare b a
    _ = (compare a b).swap := Std.OrientedCmp.eq_swap

/-- Numbers other than a NaN compare as their standings do. -/
theorem compare_standing {a b : UnpackedFloat} (ha : a.isNaN = false) (hb : b.isNaN = false) :
    a.compare b = some (compare (standing a) (standing b)) := by
  cases a with
  | notANumber => cases ha
  | infinity s =>
      cases b with
      | notANumber => cases hb
      | infinity s' | finite s' m' e' h' => cases s <;> cases s' <;> rfl
      | zero s' => cases s <;> rfl
  | zero s =>
      cases b with
      | notANumber => cases hb
      | infinity s' | finite s' m' e' h' => cases s' <;> rfl
      | zero s' => rfl
  | finite s m e h =>
      cases b with
      | notANumber => cases hb
      | infinity s' => cases s <;> cases s' <;> rfl
      | zero s' => cases s <;> rfl
      | finite s' m' e' h' =>
          cases s with
          | positive =>
              cases s' with
              | negative => rfl
              | positive =>
                  show some ((compare e e').then (compare m m')) =
                    some ((compare e e').then (compare (m : Int) m'))
                  rw [compare_natCast]
          | negative =>
              cases s' with
              | positive => rfl
              | negative =>
                  -- Below zero the greater magnitude is the lesser number.
                  show some ((compare e e').then (compare m m')).swap =
                    some ((compare (-e) (-e')).then (compare (-m : Int) (-m')))
                  rw [compare_neg, compare_neg, compare_natCast, Ordering.swap_then]

theorem not_nan_of_compare {a b : UnpackedFloat} {order : Ordering}
    (h : a.compare b = some order) : a.isNaN = false ∧ b.isNaN = false := by
  cases a with
  | notANumber => cases h
  | infinity | zero | finite =>
      cases b with
      | notANumber => cases h
      | infinity | zero | finite => exact ⟨rfl, rfl⟩

theorem lt_unpacked {x y : Float} :
    x < y ↔ x.toModel.unpack.compare y.toModel.unpack = some .lt := by
  show decide _ = true ↔ _
  rw [decide_eq_true_iff]
  show (_ == _) = true ↔ _
  rw [beq_iff_eq]

theorem le_unpacked {x y : Float} :
    x ≤ y ↔
      ∃ order, x.toModel.unpack.compare y.toModel.unpack = some order ∧ order.isLE = true := by
  show decide _ = true ↔ _
  rw [decide_eq_true_iff]
  show Option.any _ _ = true ↔ _
  rw [Option.any_eq_true]

/-- A number is below another one when neither is a NaN and it stands below it. -/
theorem lt_iff_standing {x y : Float} :
    x < y ↔ x.isNaN = false ∧ y.isNaN = false ∧
      standing x.toModel.unpack < standing y.toModel.unpack := by
  rw [lt_unpacked]
  constructor
  · intro h
    obtain ⟨hx, hy⟩ := not_nan_of_compare h
    rw [compare_standing hx hy, Option.some.injEq, compare_lt_iff_lt] at h
    exact ⟨hx, hy, h⟩
  · rintro ⟨hx, hy, h⟩
    rw [compare_standing hx hy, Option.some.injEq, compare_lt_iff_lt]
    exact h

theorem le_iff_standing {x y : Float} :
    x ≤ y ↔ x.isNaN = false ∧ y.isNaN = false ∧
      standing x.toModel.unpack ≤ standing y.toModel.unpack := by
  rw [le_unpacked]
  constructor
  · rintro ⟨order, h, hle⟩
    obtain ⟨hx, hy⟩ := not_nan_of_compare h
    rw [compare_standing hx hy, Option.some.injEq] at h
    subst h
    exact ⟨hx, hy, compare_le_iff_le.mp (Ordering.isLE_iff_ne_gt.mp hle)⟩
  · rintro ⟨hx, hy, h⟩
    exact ⟨_, compare_standing hx hy, Ordering.isLE_iff_ne_gt.mpr (compare_le_iff_le.mpr h)⟩

/-- Of two numbers other than a NaN, the first is at most the second unless the second is below
it. -/
theorem le_iff_not_below {x y : Float} (hx : x.isNaN = false) (hy : y.isNaN = false) :
    x ≤ y ↔ ¬ y < x := by
  rw [le_iff_standing, lt_iff_standing]
  simp only [hx, hy, true_and, not_lt]

theorem le_of_below {x y : Float} (h : x < y) : x ≤ y := by
  obtain ⟨hx, hy, hlt⟩ := lt_iff_standing.mp h
  exact le_iff_standing.mpr ⟨hx, hy, hlt.le⟩

theorem below_of_le {x y z : Float} (hxy : x ≤ y) (hyz : y < z) : x < z := by
  obtain ⟨hx, -, hxy⟩ := le_iff_standing.mp hxy
  obtain ⟨-, hz, hyz⟩ := lt_iff_standing.mp hyz
  exact lt_iff_standing.mpr ⟨hx, hz, lt_of_le_of_lt hxy hyz⟩

/-! ## Numbers that are a NaN -/

/-- What is stored is a number unless its exponent field is full and its mantissa field is not
empty. -/
theorem isNaN_packComponents (spec : Format) (sign : Sign) (exponent : BitVec spec.exponentBits)
    (mantissa : BitVec spec.mantissaBitsWithoutImplicit) (h : exponent = -1#_ → mantissa = 0#_) :
    (UnpackedFloat.unpack spec (packComponents spec sign exponent mantissa)).isNaN = false := by
  simp only [UnpackedFloat.unpack, unpackExponent_packComponents, unpackMantissa_packComponents]
  split_ifs with hfull hempty <;> try rfl
  exact absurd (h hfull) hempty

/-- Storing a number neither makes it a NaN nor mends one. -/
theorem isNaN_pack (f : UnpackedFloat) : (pack f).unpack.isNaN = f.isNaN := by
  cases f with
  | notANumber => rfl
  | infinity s | zero s => cases s <;> rfl
  | finite s m e h =>
      show (UnpackedFloat.unpack Format.binary64
        (UnpackedFloat.pack Format.binary64 (.finite s m e h))).isNaN = false
      rw [UnpackedFloat.pack]
      split_ifs with hoverflow hnormal
      · exact isNaN_packComponents _ _ _ _ fun _ => rfl
      · refine isNaN_packComponents _ _ _ _ fun hfull => ?_
        -- Such an exponent counts as an overflow.
        have hfield := congrArg BitVec.toNat hfull
        rw [BitVec.toNat_ofNat, Nat.mod_eq_of_lt (by omega)] at hfield
        have hgreatest : (-1#_ : BitVec Format.binary64.exponentBits).toNat + 1 =
            2 ^ Format.binary64.exponentBits := by decide
        omega
      · exact isNaN_packComponents _ _ _ _ fun hfull => absurd hfull (by decide)

theorem not_nan_of_finite {x : Float} (h : x.isFinite = true) : x.isNaN = false := by
  replace h : x.toModel.unpack.isFinite = true := h
  show x.toModel.unpack.isNaN = false
  cases hx : x.toModel.unpack with
  | notANumber => rw [hx] at h; cases h
  | infinity | zero | finite => rfl

theorem le_iff_not_lt {x y : Float} (hx : x.isFinite = true) (hy : y.isFinite = true) :
    x ≤ y ↔ ¬ y < x :=
  le_iff_not_below (not_nan_of_finite hx) (not_nan_of_finite hy)

theorem nonneg_iff_not_negative {x : Float} (h : x.isFinite = true) : 0 ≤ x ↔ ¬ x < 0 :=
  le_iff_not_lt (by decide +kernel) h

theorem isNaN_abs (x : Float) : x.abs.isNaN = x.isNaN := by
  show (pack x.toModel.unpack.abs).unpack.isNaN = x.toModel.unpack.isNaN
  rw [isNaN_pack]
  cases x.toModel.unpack <;> rfl

/-- Rounding gives a number. -/
theorem isNaN_roundWithAccuracy (spec : Format) (sign : Sign) (mantissa : Nat) (exponent : Int)
    (accuracy : Accuracy) :
    (roundWithAccuracy spec sign mantissa exponent accuracy).isNaN = false := by
  rw [roundWithAccuracy]
  dsimp only
  split_ifs <;> rfl

theorem isNaN_normalize (spec : Format) (mantissa exponent : Int) (sign : Sign) :
    (UnpackedFloat.normalize spec mantissa exponent sign).isNaN = false := by
  rw [UnpackedFloat.normalize]
  cases compare mantissa 0 with
  | eq => rfl
  | lt | gt => exact isNaN_roundWithAccuracy _ _ _ _ _

theorem isNaN_sub {x y : Float} (hx : x.isFinite = true) (hy : y.isFinite = true) :
    (x - y).isNaN = false := by
  show (pack (sub Format.binary64 x.toModel.unpack y.toModel.unpack)).unpack.isNaN = false
  rw [isNaN_pack]
  replace hx : x.toModel.unpack.isFinite = true := hx
  replace hy : y.toModel.unpack.isFinite = true := hy
  cases hx' : x.toModel.unpack with
  | infinity | notANumber => rw [hx'] at hx; cases hx
  | zero s =>
      cases hy' : y.toModel.unpack with
      | infinity | notANumber => rw [hy'] at hy; cases hy
      | zero s' => cases s <;> cases s' <;> rfl
      | finite s' m' e' h' => rfl
  | finite s m e h =>
      cases hy' : y.toModel.unpack with
      | infinity | notANumber => rw [hy'] at hy; cases hy
      | zero s' => rfl
      | finite s' m' e' h' => exact isNaN_normalize _ _ _ _

end ArmControl
