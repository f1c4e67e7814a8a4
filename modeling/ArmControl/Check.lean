import ArmControl.Error.Value

/-!
# Checks of numbers

`checkFinite` and `checkNonNegative` look through the values of a field and report the first one
that may not be used. Nothing is ever clamped.
-/

namespace ArmControl

/-- The position and the value of the first element that satisfies `p`. -/
def firstIndex? {α : Type} (p : α → Bool) (values : List α) : Option (Nat × α) :=
  match values with
  | [] => none
  | x :: rest => if p x then some (0, x) else (firstIndex? p rest).map fun (i, y) => (i + 1, y)

/-- Accepts values that are all finite. -/
def checkFinite (field : String) (values : List Float) : Except ValueError Unit :=
  match firstIndex? (fun x => !x.isFinite) values with
  | some (index, value) => .error (.nonFinite field index value)
  | none => .ok ()

/-- Accepts values that are all finite and not below zero; negative zero is not below zero. -/
def checkNonNegative (field : String) (values : List Float) : Except ValueError Unit := do
  checkFinite field values
  match firstIndex? (fun x => decide (x < 0)) values with
  | some (index, value) => .error (.invalidParameter field (.negative index value))
  | none => .ok ()

/-- Accepts two lists of finite numbers not below zero, the first nowhere above the second. -/
def checkRange (lowerName : String) (lower : List Float) (upperName : String)
    (upper : List Float) : Except ValueError Unit := do
  checkNonNegative lowerName lower
  checkNonNegative upperName upper
  match firstIndex? (fun (low, high) => decide (low > high)) (lower.zip upper) with
  | some (index, low, high) =>
      .error (.invalidParameter lowerName (.exceeds index upperName low high))
  | none => .ok ()

end ArmControl
