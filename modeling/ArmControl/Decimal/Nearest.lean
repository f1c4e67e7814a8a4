import ArmControl.Decimal.Shortest

/-!
# The float nearest to a decimal
-/

namespace ArmControl.Decimal

/-- The float nearest to a decimal, if that is finite. -/
def nearest? (d : Decimal) : Option Float :=
  let size := d.exponent + digitCount d.digits
  if d.digits = 0 ∨ size < -400 then some 0
  else if 400 < size then none
  else
    let x := Float.ofScientific d.digits (d.exponent < 0) d.exponent.natAbs
    if x.isFinite then some x else none

end ArmControl.Decimal
