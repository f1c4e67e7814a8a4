/-!
# Shortest decimal form of a binary float

A finite positive float is `m * 2 ^ q`. Every real in its rounding interval reads back as the
same float, the ends included exactly when `m` is even. `Decimal.shortest` gives the decimal of
fewest digits in that interval, and of two such decimals the one nearer to the float; an exact
tie goes to the larger.
-/

namespace ArmControl

/-- A decimal `digits * 10 ^ exponent`. -/
structure Decimal where
  digits : Nat
  exponent : Int
deriving DecidableEq, Repr

namespace Decimal

/-- The number of decimal digits of `n`, with one digit for zero. -/
def digitCount (n : Nat) : Nat :=
  if n < 10 then 1 else digitCount (n / 10) + 1

/-- The power of ten with exponent `x`, as a numerator and a denominator. -/
def scale (x : Int) : Nat × Nat :=
  (Nat.pow 10 x.toNat, Nat.pow 10 (-x).toNat)

/-- The least `k` with `num / den < 10 ^ k`, for positive `num` and `den`. -/
def magnitude (num den : Nat) : Int :=
  if den ≤ num then digitCount (num / den)
  else
    let k : Int := 1 - digitCount (den / num)
    let (up, down) := scale k
    if num * down < den * up then k else k + 1

/-- A value between two bounds over one denominator; the bounds belong to the interval when
`closed` holds. -/
structure Interval where
  low : Nat
  value : Nat
  high : Nat
  den : Nat
  closed : Bool
deriving DecidableEq, Repr

namespace Interval

/-- Whether the decimal `digits * 10 ^ x` lies in the interval. -/
def holds (i : Interval) (digits : Nat) (x : Int) : Bool :=
  let (up, down) := scale x
  let point := digits * up * i.den
  if i.closed then i.low * down ≤ point && point ≤ i.high * down
  else i.low * down < point && point < i.high * down

/-- The neighbour of the value on the grid of multiples of `10 ^ x` that lies in the interval,
the nearer one when both do. -/
def neighbour? (i : Interval) (x : Int) : Option Decimal :=
  let (up, down) := scale x
  let unit := i.den * up
  let below := i.value * down / unit
  let rest := i.value * down % unit
  match i.holds below x, i.holds (below + 1) x with
  | true, true => some ⟨if 2 * rest < unit then below else below + 1, x⟩
  | true, false => some ⟨below, x⟩
  | false, true => some ⟨below + 1, x⟩
  | false, false => none

/-- The first hit among the grids with `places`, `places + 1`, … digits, trying `tries` grids. -/
def search (i : Interval) (top : Int) : Nat → Nat → Option Decimal
  | 0, _ => none
  | tries + 1, places =>
      match i.neighbour? (top - places) with
      | some d => some d
      | none => search i top tries (places + 1)

end Interval

/-- The rounding interval of `m * 2 ^ q`; `narrow` says that the float below is only half as far
away as the float above. -/
def roundingInterval (m : Nat) (q : Int) (narrow : Bool) : Interval :=
  let up := Nat.pow 2 (q - 2).toNat
  { low := (4 * m - if narrow then 1 else 2) * up
    value := 4 * m * up
    high := (4 * m + 2) * up
    den := Nat.pow 2 (2 - q).toNat
    closed := m % 2 == 0 }

/-- The shortest decimal that reads back as `m * 2 ^ q`, for `0 < m < 2 ^ 53`. Seventeen digits
always suffice. -/
def shortest (m : Nat) (q : Int) (narrow : Bool) : Decimal :=
  let i := roundingInterval m q narrow
  (i.search (magnitude i.value i.den) 17 1).getD ⟨0, 0⟩

/-- Drops trailing zeros from the digits, at most `fuel` of them. -/
def trimAux : Nat → Decimal → Decimal
  | 0, d => d
  | fuel + 1, d =>
      if d.digits ≠ 0 ∧ d.digits % 10 = 0 then trimAux fuel ⟨d.digits / 10, d.exponent + 1⟩ else d

/-- The same decimal without trailing zeros. -/
def trim (d : Decimal) : Decimal := trimAux (digitCount d.digits) d

end Decimal

/-- A float taken apart: what it is, its sign, and its magnitude. -/
inductive FloatForm
  | nan
  | infinite (negative : Bool)
  | zero (negative : Bool)
  | finite (negative : Bool) (magnitude : Decimal)
deriving DecidableEq, Repr

/-- The bit above the fraction bits; a float that is not tiny has it, although it is not stored. -/
def hiddenBit : Nat := 0x10000000000000

/-- Takes a float apart by its bits: one sign bit, eleven exponent bits, fifty-two fraction
bits. -/
def FloatForm.ofFloat (x : Float) : FloatForm :=
  let bits : Nat := x.toBits.toNat
  let negative := bits / 0x8000000000000000 == 1
  let exponent : Nat := bits / hiddenBit % 0x800
  let fraction : Nat := bits % hiddenBit
  if exponent = 2047 then
    if fraction = 0 then .infinite negative else .nan
  else if exponent = 0 then
    if fraction = 0 then .zero negative
    else .finite negative (Decimal.shortest fraction (-1074) false).trim
  else
    let narrow := fraction == 0 && exponent != 1
    .finite negative (Decimal.shortest (fraction + hiddenBit) ((exponent : Int) - 1075) narrow).trim

end ArmControl
