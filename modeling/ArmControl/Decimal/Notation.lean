import ArmControl.Decimal.Shortest

/-!
# Written floats

A `FloatStyle` fixes how a float is written. `FloatStyle.plain` is always positional and leaves
out a fraction that is zero; `FloatStyle.marked` always shows that a number is a float, with a
fraction or an exponent.
-/

namespace ArmControl

/-- The decisions of a written form: how many places it has at least, and for which positions of
the decimal point it is positional. -/
structure FloatStyle where
  leastPlaces : Nat
  positional : Int → Bool

namespace FloatStyle

/-- Positional at every magnitude, without a fraction when it is zero. -/
def plain : FloatStyle := ⟨0, fun _ => true⟩

/-- Positional from `1e-4` to below `1e16`, with at least one place; an exponent elsewhere. -/
def marked : FloatStyle := ⟨1, fun point => -3 ≤ point && point ≤ 16⟩

/-- The digits with a decimal point, which stands after the first `point` digits. -/
def positionalText (leastPlaces : Nat) (digits : String) (point : Int) : String :=
  let count : Int := digits.length
  if count ≤ point then
    let whole := digits ++ "".pushn '0' (point - count).toNat
    if leastPlaces = 0 then whole else whole ++ "." ++ "".pushn '0' leastPlaces
  else if point ≤ 0 then "0." ++ "".pushn '0' (-point).toNat ++ digits
  else (digits.take point.toNat).toString ++ "." ++ (digits.drop point.toNat).toString

/-- The digits with an exponent, the decimal point standing after the first digit. -/
def exponentText (digits : String) (point : Int) : String :=
  let fraction := (digits.drop 1).toString
  (digits.take 1).toString ++ (if fraction.isEmpty then "" else "." ++ fraction) ++
    "e" ++ toString (point - 1)

/-- A decimal without trailing zeros, as text. -/
def decimalText (s : FloatStyle) (d : Decimal) : String :=
  let digits := toString d.digits
  let point := digits.length + d.exponent
  if s.positional point then positionalText s.leastPlaces digits point
  else exponentText digits point

/-- The written form of a float. -/
def text (s : FloatStyle) (x : Float) : String :=
  match FloatForm.ofFloat x with
  | .nan => "NaN"
  | .infinite negative => if negative then "-inf" else "inf"
  | .zero negative =>
      let zero := positionalText s.leastPlaces "0" 1
      if negative then "-" ++ zero else zero
  | .finite negative d => if negative then "-" ++ s.decimalText d else s.decimalText d

end FloatStyle

/-- A float in the plain form, the form of messages. -/
def plainText (x : Float) : String := FloatStyle.plain.text x

/-- A float in the marked form, the form of structured text. -/
def markedText (x : Float) : String := FloatStyle.marked.text x

end ArmControl
