import ArmControl.Toml.Scalar

/-!
# Quoted texts of a configuration text

The four ways to quote: with or without escapes, on one line or over several. Each reader is given
the characters after the opening quotation marks and returns the text with the characters after the
closing ones.
-/

namespace ArmControl.Toml

/-- Whether a character may stand in a comment or a text on one line. -/
def isVisible (c : Char) : Bool := c == '\t' || (' ' ≤ c && c != '\x7f')

/-- The character with that number, written in base sixteen. -/
def hexChar? (digits : List Char) : Option Char :=
  let n := ofDigits 16 digits
  if digits.all isHexDigit && n.isValidChar then some (Char.ofNat n) else none

/-- Reads an escape after its backslash. -/
def escape? : List Char → Option (Char × List Char)
  | 'b' :: rest => some ('\x08', rest)
  | 't' :: rest => some ('\t', rest)
  | 'n' :: rest => some ('\n', rest)
  | 'f' :: rest => some ('\x0c', rest)
  | 'r' :: rest => some ('\r', rest)
  | 'e' :: rest => some ('\x1b', rest)
  | '"' :: rest => some ('"', rest)
  | '\\' :: rest => some ('\\', rest)
  | 'x' :: a :: b :: rest => (hexChar? [a, b]).map (·, rest)
  | 'u' :: a :: b :: c :: d :: rest => (hexChar? [a, b, c, d]).map (·, rest)
  | 'U' :: a :: b :: c :: d :: e :: f :: g :: h :: rest =>
      (hexChar? [a, b, c, d, e, f, g, h]).map (·, rest)
  | _ => none

/-- Reads a text with escapes on one line. -/
def basic? : (fuel : Nat) → List Char → Option (List Char × List Char)
  | 0, _ => none
  | _ + 1, '"' :: rest => some ([], rest)
  | fuel + 1, '\\' :: rest => do
      let (c, rest) ← escape? rest
      let (text, rest) ← basic? fuel rest
      some (c :: text, rest)
  | fuel + 1, c :: rest =>
      if isVisible c then do
        let (text, rest) ← basic? fuel rest
        some (c :: text, rest)
      else none
  | _ + 1, [] => none

/-- Reads a text without escapes on one line. -/
def literal? : List Char → Option (List Char × List Char)
  | '\'' :: rest => some ([], rest)
  | c :: rest =>
      if isVisible c then (literal? rest).map fun (text, rest) => (c :: text, rest) else none
  | [] => none

/-- Reads a line end. -/
def newline? : List Char → Option (List Char)
  | '\n' :: rest => some rest
  | '\r' :: '\n' :: rest => some rest
  | _ => none

/-- Drops spaces and tabs. -/
def dropBlanks (s : List Char) : List Char := s.dropWhile fun c => c == ' ' || c == '\t'

/-- Drops blanks and line ends. -/
def dropSpace : List Char → List Char
  | ' ' :: rest => dropSpace rest
  | '\t' :: rest => dropSpace rest
  | '\n' :: rest => dropSpace rest
  | '\r' :: '\n' :: rest => dropSpace rest
  | s => s

/-- Reads the quotation marks at the start; three to five of them close a text over several lines,
and those beyond three belong to the text. -/
def closing? (quote : Char) (s : List Char) : Option (List Char × List Char) :=
  let marks := s.takeWhile (· == quote)
  if 3 ≤ marks.length ∧ marks.length ≤ 5 then some (marks.drop 3, s.drop marks.length)
  else none

/-- Reads a text over several lines, with escapes if `escapes` holds. A backslash at the end of a
line joins the line to the next character that is not space. -/
def multiline? (quote : Char) (escapes : Bool) :
    (fuel : Nat) → List Char → Option (List Char × List Char)
  | 0, _ => none
  | _ + 1, [] => none
  | fuel + 1, c :: rest =>
      if (c :: rest).take 3 == [quote, quote, quote] then closing? quote (c :: rest)
      else
        let go (c : Char) (rest : List Char) : Option (List Char × List Char) :=
          (multiline? quote escapes fuel rest).map fun (text, rest) => (c :: text, rest)
        if escapes && c == '\\' then
          match newline? (dropBlanks rest) with
          | some rest => multiline? quote escapes fuel (dropSpace rest)
          | none => do
              let (c, rest) ← escape? rest
              go c rest
        else
          match newline? (c :: rest) with
          | some rest => go '\n' rest
          | none => if isVisible c then go c rest else none

/-- Drops a line end at the start of a text over several lines. -/
def dropFirstNewline (s : List Char) : List Char := (newline? s).getD s

/-- Reads a text in one line with its opening quotation mark. -/
def oneLine? : List Char → Option (String × List Char)
  | '"' :: rest => (basic? (rest.length + 1) rest).map fun (text, rest) => (.ofList text, rest)
  | '\'' :: rest => (literal? rest).map fun (text, rest) => (.ofList text, rest)
  | _ => none

/-- Reads a text in any of the four ways, with its opening quotation marks. -/
def quotedText? : List Char → Option (String × List Char)
  | '"' :: '"' :: '"' :: rest =>
      (multiline? '"' true (rest.length + 1) (dropFirstNewline rest)).map fun (text, rest) =>
        (.ofList text, rest)
  | '\'' :: '\'' :: '\'' :: rest =>
      (multiline? '\'' false (rest.length + 1) (dropFirstNewline rest)).map fun (text, rest) =>
        (.ofList text, rest)
  | s => oneLine? s

end ArmControl.Toml
