import ArmControl.Data.Tree
import ArmControl.Decimal.Nearest
import ArmControl.Decimal.Notation
import ArmControl.Text.Digits

/-!
# Data trees as JSON

`Tree.ofJson?` reads a tree from a JSON text and `Tree.json` writes one. A whole number that fits in
64 bits, with or without a sign, is an integer; every other number is the nearest float.
-/

namespace ArmControl

namespace Json

/-- Drops white space. -/
def dropSpace (s : List Char) : List Char :=
  s.dropWhile fun c => c == ' ' || c == '\t' || c == '\n' || c == '\r'

/-- The character of two halves of a pair, or of one number alone. -/
def joined? (high low : Nat) : Option Char :=
  if 0xD800 ≤ high ∧ high < 0xDC00 ∧ 0xDC00 ≤ low ∧ low < 0xE000 then
    some (Char.ofNat (0x10000 + (high - 0xD800) * 0x400 + (low - 0xDC00)))
  else none

/-- Reads an escape after its backslash. -/
def escape? : List Char → Option (Char × List Char)
  | '"' :: rest => some ('"', rest)
  | '\\' :: rest => some ('\\', rest)
  | '/' :: rest => some ('/', rest)
  | 'b' :: rest => some ('\x08', rest)
  | 'f' :: rest => some ('\x0c', rest)
  | 'n' :: rest => some ('\n', rest)
  | 'r' :: rest => some ('\r', rest)
  | 't' :: rest => some ('\t', rest)
  | 'u' :: a :: b :: c :: d :: rest => do
      let n ← ofHexDigits? [a, b, c, d]
      if n.isValidChar then some (Char.ofNat n, rest)
      else
        match rest with
        | '\\' :: 'u' :: e :: f :: g :: h :: rest => do
            let c ← joined? n (← ofHexDigits? [e, f, g, h])
            some (c, rest)
        | _ => none
  | _ => none

/-- Reads a text after its opening quotation mark. -/
def text? : (fuel : Nat) → List Char → List Char → Option (String × List Char)
  | 0, _, _ => none
  | _ + 1, done, '"' :: rest => some (String.ofList done.reverse, rest)
  | fuel + 1, done, '\\' :: rest => do
      let (c, rest) ← escape? rest
      text? fuel (c :: done) rest
  | fuel + 1, done, c :: rest => if ' ' ≤ c then text? fuel (c :: done) rest else none
  | _ + 1, _, [] => none

/-- Whether a character may stand in a number. -/
def isNumberChar (c : Char) : Bool :=
  c.isDigit || c == '-' || c == '+' || c == '.' || c == 'e' || c == 'E'

/-- The number of a word with a fraction or an exponent. -/
def float? (negative : Bool) (word : List Char) : Option Float := do
  let isMark c := c == 'e' || c == 'E'
  let mantissa := word.takeWhile (!isMark ·)
  let whole := mantissa.takeWhile (· != '.')
  let places := mantissa.drop (whole.length + 1)
  let (down, power) := splitSign (word.drop (mantissa.length + 1))
  if (whole ++ places ++ power).all Char.isDigit then
    let power : Int := ofDigits 10 power
    let exponent := (if down then -power else power) - places.length
    let x ← Decimal.nearest? ⟨ofDigits 10 (whole ++ places), exponent⟩
    some (if negative then -x else x)
  else none

/-- The number of a word. -/
def number? (word : List Char) : Option Tree := do
  let (negative, digits) := splitSign word
  if digits.isEmpty then none
  else if digits.all Char.isDigit then
    let n := ofDigits 10 digits
    let i : Int := if negative then -n else n
    if (negative = false ∨ n ≠ 0) ∧ Int64.minValue.toInt ≤ i ∧ i < UInt64.size then some (.int i)
    else (float? negative digits).map .float
  else (float? negative digits).map .float

mutual

/-- Reads a value. -/
def value? : (fuel : Nat) → List Char → Option (Tree × List Char)
  | 0, _ => none
  | fuel + 1, s =>
      match dropSpace s with
      | 'n' :: 'u' :: 'l' :: 'l' :: rest => some (.null, rest)
      | 't' :: 'r' :: 'u' :: 'e' :: rest => some (.bool true, rest)
      | 'f' :: 'a' :: 'l' :: 's' :: 'e' :: rest => some (.bool false, rest)
      | '"' :: rest => (text? (rest.length + 1) [] rest).map fun (s, rest) => (.text s, rest)
      | '[' :: rest =>
          match dropSpace rest with
          | ']' :: rest => some (.list [], rest)
          | rest => (items? fuel [] rest).map fun (items, rest) => (.list items, rest)
      | '\x7b' :: rest =>
          match dropSpace rest with
          | '\x7d' :: rest => some (.record [], rest)
          | rest => (entries? fuel [] rest).map fun (entries, rest) => (.record entries, rest)
      | s =>
          let word := s.takeWhile isNumberChar
          (number? word).map (·, s.drop word.length)

/-- Reads the items of a list and its closing bracket, after those in `done`. -/
def items? : (fuel : Nat) → List Tree → List Char → Option (List Tree × List Char)
  | 0, _, _ => none
  | fuel + 1, done, s => do
      let (item, rest) ← value? fuel s
      match dropSpace rest with
      | ',' :: rest => items? fuel (item :: done) rest
      | ']' :: rest => some ((item :: done).reverse, rest)
      | _ => none

/-- Reads the entries of a record and its closing bracket, after those in `done`. -/
def entries? :
    (fuel : Nat) → List (String × Tree) → List Char → Option (List (String × Tree) × List Char)
  | 0, _, _ => none
  | fuel + 1, done, s => do
      match dropSpace s with
      | '"' :: rest => do
          let (key, rest) ← text? (rest.length + 1) [] rest
          match dropSpace rest with
          | ':' :: rest => do
              let (value, rest) ← value? fuel rest
              match dropSpace rest with
              | ',' :: rest => entries? fuel ((key, value) :: done) rest
              | '\x7d' :: rest => some (((key, value) :: done).reverse, rest)
              | _ => none
          | _ => none
      | _ => none

end

/-- One character of a quoted text. -/
def quotedChar (c : Char) : String :=
  if c == '"' then "\\\""
  else if c == '\\' then "\\\\"
  else if c == '\n' then "\\n"
  else if c == '\r' then "\\r"
  else if c == '\t' then "\\t"
  else if c.toNat < 32 then
    let digits := Nat.toDigits 16 c.toNat
    "\\u" ++ String.ofList (List.replicate (4 - digits.length) '0' ++ digits)
  else c.toString

/-- A quoted text. -/
def quote (s : String) : String := "\"" ++ String.join (s.toList.map quotedChar) ++ "\""

end Json

namespace Tree

/-- The tree of a JSON text. -/
def ofJson? (s : String) : Option Tree := do
  let s := s.toList
  let (tree, rest) ← Json.value? (s.length + 1) s
  if (Json.dropSpace rest).isEmpty then some tree else none

mutual

/-- A tree as a JSON text; a float that is not finite has no such text and becomes null. -/
def json : Tree → String
  | null => "null"
  | bool b => if b then "true" else "false"
  | int i => toString i
  | float x => if x.isFinite then markedText x else "null"
  | text s => Json.quote s
  | list items => "[" ++ ",".intercalate (itemTexts items) ++ "]"
  | record entries => "\x7b" ++ ",".intercalate (entryTexts entries) ++ "\x7d"

/-- Each of some trees as a JSON text. -/
def itemTexts : List Tree → List String
  | [] => []
  | t :: items => json t :: itemTexts items

/-- Each of some entries as a JSON text. -/
def entryTexts : List (String × Tree) → List String
  | [] => []
  | (key, t) :: entries => (Json.quote key ++ ":" ++ json t) :: entryTexts entries

end

end Tree

end ArmControl
