import ArmControl.Decimal.Nearest
import ArmControl.Text.Digits
import ArmControl.Toml.Value

/-!
# Numbers, dates and truth values of a configuration text

`Value.ofWord?` reads a word without quotes. A word is one of `true` and `false`, a whole number in
base ten, sixteen, eight or two, a float, or a date or time.
-/

namespace ArmControl.Toml

/-- The digits of a word in which single underscores may stand between digits. -/
def spacedDigits (isDigit : Char → Bool) : List Char → Option (List Char)
  | [] => none
  | [c] => if isDigit c then some [c] else none
  | c :: '_' :: rest => if isDigit c then (spacedDigits isDigit rest).map (c :: ·) else none
  | c :: rest => if isDigit c then (spacedDigits isDigit rest).map (c :: ·) else none

/-- Digits of base ten, without a zero in front of another digit. -/
def plainDigits (word : List Char) : Option (List Char) := do
  let digits ← spacedDigits Char.isDigit word
  if digits.length > 1 && digits.head? == some '0' then none else some digits

/-- A whole number in base ten. -/
def decimalInt? (word : List Char) : Option Int := do
  let (negative, rest) := splitSign word
  let n := ofDigits 10 (← plainDigits rest)
  some (if negative then -n else n)

/-- The least whole number that has a value, of 128 bits with a sign. -/
def leastInt : Int := -0x80000000000000000000000000000000

/-- The greatest whole number that has a value, of 128 bits without a sign. -/
def greatestInt : Int := 0xffffffffffffffffffffffffffffffff

/-- A whole number; a base other than ten is announced in front and allows no sign. -/
def int? (word : List Char) : Option Int := do
  let i : Int ← match word with
    | '0' :: 'x' :: digits => (spacedDigits isHexDigit digits).map (ofDigits 16 ·)
    | '0' :: 'o' :: digits =>
        (spacedDigits (fun c => '0' ≤ c && c ≤ '7') digits).map (ofDigits 8 ·)
    | '0' :: 'b' :: digits =>
        (spacedDigits (fun c => c == '0' || c == '1') digits).map (ofDigits 2 ·)
    | _ => decimalInt? word
  if leastInt ≤ i ∧ i ≤ greatestInt then some i else none

/-- Whether digits with a power of ten stay below the greatest float. -/
def fitsFloat (digits : List Char) (power : Int) : Bool :=
  (Decimal.nearest? ⟨ofDigits 10 digits, power⟩).isSome

/-- The power of ten that follows the letter of an exponent, zero if there is none. -/
def exponent? : List Char → Option Int
  | [] => some 0
  | c :: word =>
      if c == 'e' || c == 'E' then do
        let (negative, rest) := splitSign word
        let n := ofDigits 10 (← spacedDigits Char.isDigit rest)
        some (if negative then -n else n)
      else none

/-- Whether a word without its sign is a float that stays below the greatest one. -/
def isUnsignedFloat (word : List Char) : Bool :=
  let isExponentMark c := c == 'e' || c == 'E'
  let whole := word.takeWhile fun c => c != '.' && !isExponentMark c
  let rest := word.drop whole.length
  let read : Option Bool := do
    let digits ← plainDigits whole
    match rest with
    | [] => none
    | '.' :: rest => do
        let fraction := rest.takeWhile (!isExponentMark ·)
        let places ← spacedDigits Char.isDigit fraction
        let power ← exponent? (rest.drop fraction.length)
        some (fitsFloat (digits ++ places) (power - places.length))
    | _ => do
        let power ← exponent? rest
        some (fitsFloat digits power)
  read.getD false

/-- Whether a word is a float. -/
def isFloat (word : List Char) : Bool :=
  let (_, rest) := splitSign word
  rest == ['i', 'n', 'f'] || rest == ['n', 'a', 'n'] || isUnsignedFloat rest

/-- The number that two digits make, if it is at most `limit`. -/
def twoDigits? (limit : Nat) (a b : Char) : Option Nat :=
  let n := ofDigits 10 [a, b]
  if a.isDigit && b.isDigit && n ≤ limit then some n else none

/-- The number of days in a month. -/
def daysIn (year month : Nat) : Nat :=
  if month = 2 then
    if year % 4 = 0 ∧ (year % 100 ≠ 0 ∨ year % 400 = 0) then 29 else 28
  else if month = 4 ∨ month = 6 ∨ month = 9 ∨ month = 11 then 30
  else 31

/-- Reads a day at the start of a word. -/
def day? : List Char → Option (List Char)
  | a :: b :: c :: d :: '-' :: m :: n :: '-' :: x :: y :: rest => do
      let high ← twoDigits? 99 a b
      let low ← twoDigits? 99 c d
      let month ← twoDigits? 12 m n
      let day ← twoDigits? 31 x y
      if 1 ≤ month ∧ 1 ≤ day ∧ day ≤ daysIn (high * 100 + low) month then some rest else none
  | _ => none

/-- Reads a fraction of a second at the start of a word, if there is one. -/
def fraction? : List Char → Option (List Char)
  | '.' :: rest =>
      let digits := rest.takeWhile Char.isDigit
      if digits.isEmpty then none else some (rest.drop digits.length)
  | word => some word

/-- Reads a time of day at the start of a word; the seconds may be left out. -/
def time? : List Char → Option (List Char)
  | a :: b :: ':' :: c :: d :: ':' :: e :: f :: rest => do
      let _ ← twoDigits? 23 a b
      let _ ← twoDigits? 59 c d
      let _ ← twoDigits? 60 e f
      fraction? rest
  | a :: b :: ':' :: c :: d :: rest => do
      let _ ← twoDigits? 23 a b
      let _ ← twoDigits? 59 c d
      some rest
  | _ => none

/-- Whether a word is the offset of a time from universal time, or empty. -/
def isOffset : List Char → Bool
  | [] => true
  | [c] => c == 'Z' || c == 'z'
  | [s, a, b, ':', c, d] =>
      (s == '+' || s == '-') && (twoDigits? 23 a b).isSome && (twoDigits? 59 c d).isSome
  | _ => false

/-- Whether a word is a day. -/
def isDay (word : List Char) : Bool := day? word == some []

/-- Whether a word is a date, a time, or both with a letter or a blank between them. -/
def isDate (word : List Char) : Bool :=
  match day? word with
  | some [] => true
  | some (c :: rest) =>
      (c == 'T' || c == 't' || c == ' ') && ((time? rest).map isOffset).getD false
  | none => time? word == some []

/-- The value of a word without quotes. -/
def Value.ofWord? (word : List Char) : Option Value :=
  if word == ['t', 'r', 'u', 'e'] then some (.bool true)
  else if word == ['f', 'a', 'l', 's', 'e'] then some (.bool false)
  else
    match int? word with
    | some i => some (.int i)
    | none => if isFloat word then some .float else if isDate word then some .date else none

end ArmControl.Toml
