import ArmControl.Duration.Basic

/-!
# Written durations

A duration is written in the biggest of the units `s`, `ms`, `µs` and `ns` in which its whole part
is not zero, with the fraction in full and without trailing zeros.
-/

namespace ArmControl.Duration

/-- `part` as the fraction digits of a unit of `10 ^ places` parts, without trailing zeros. -/
def fractionDigits (places part : Nat) : String :=
  let digits := (toString part).toList
  let padded := List.replicate (places - digits.length) '0' ++ digits
  String.ofList (padded.reverse.dropWhile (· == '0')).reverse

/-- So many whole units and `part` of the `10 ^ places` parts of one more. -/
def inUnit (whole places part : Nat) (unit : String) : String :=
  let fraction := fractionDigits places part
  toString whole ++ (if fraction.isEmpty then "" else "." ++ fraction) ++ unit

/-- The written form of a duration. -/
def text (d : Duration) : String :=
  if d.nanos ≥ 1000000000 then inUnit d.secs 9 d.subsecNanos "s"
  else if d.nanos ≥ 1000000 then inUnit d.millis 6 (d.nanos % 1000000) "ms"
  else if d.nanos ≥ 1000 then inUnit d.micros 3 (d.nanos % 1000) "µs"
  else inUnit d.nanos 0 0 "ns"

end ArmControl.Duration
