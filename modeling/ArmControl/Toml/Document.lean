import ArmControl.Toml.Quoted

/-!
# Configuration texts

`Table.ofText?` reads a configuration text in TOML, version 1.1, line by line. It has no value for a
text that breaks the grammar or defines something twice.
-/

namespace ArmControl.Toml

/-- Drops a comment, up to the end of its line; a comment may hold visible characters only. -/
def dropComment? : List Char → Option (List Char)
  | '#' :: rest =>
      let rest := rest.dropWhile isVisible
      if rest.isEmpty || (newline? rest).isSome then some rest else none
  | s => some s

/-- Drops blanks, comments and line ends. -/
def dropTrivia? : (fuel : Nat) → List Char → Option (List Char)
  | 0, _ => none
  | fuel + 1, s => do
      let rest ← dropComment? (dropSpace s)
      if rest.length < s.length then dropTrivia? fuel rest else some rest

/-- Drops the blanks and the comment at the end of a line, and the line end. -/
def endLine? (s : List Char) : Option (List Char) := do
  let rest ← dropComment? (dropBlanks s)
  if rest.isEmpty then some [] else newline? rest

/-! ## Keys -/

/-- Whether a character may stand in a key without quotes. -/
def isBare (c : Char) : Bool := c.isAlphanum || c == '_' || c == '-'

/-- Reads one part of a key. -/
def keyPart? (s : List Char) : Option (String × List Char) :=
  let bare := s.takeWhile isBare
  if bare.isEmpty then oneLine? s else some (.ofList bare, s.drop bare.length)

/-- Reads a key, the parts of which are divided by dots. -/
def key? : (fuel : Nat) → List Char → Option (List String × List Char)
  | 0, _ => none
  | fuel + 1, s => do
      let (part, rest) ← keyPart? s
      match dropBlanks rest with
      | '.' :: more => do
          let (parts, rest) ← key? fuel (dropBlanks more)
          some (part :: parts, rest)
      | rest => some ([part], rest)

/-! ## Values -/

/-- Whether a character ends a word without quotes. -/
def endsWord (c : Char) : Bool :=
  c == ' ' || c == '\t' || c == '\n' || c == '\r' || c == ',' || c == '[' || c == ']' ||
    c == '\x7b' || c == '\x7d' || c == '#' || c == '=' || c == '"' || c == '\''

/-- Reads a word without quotes. A day and a time may have one blank between them. -/
def word? (s : List Char) : Option (Value × List Char) :=
  let first := s.takeWhile (!endsWord ·)
  let rest := s.drop first.length
  match rest with
  | ' ' :: c :: more =>
      if isDay first && c.isDigit then
        let second := (c :: more).takeWhile (!endsWord ·)
        (Value.ofWord? (first ++ ' ' :: second)).map (·, (c :: more).drop second.length)
      else (Value.ofWord? first).map (·, rest)
  | _ => (Value.ofWord? first).map (·, rest)

/-- How deep lists and tables in one line may stand in each other. -/
def maxDepth : Nat := 80

mutual

/-- Reads a value that stands within `depth` lists and tables. -/
def value? (depth : Nat) : (fuel : Nat) → List Char → Option (Value × List Char)
  | 0, _ => none
  | fuel + 1, s =>
      match s with
      | '[' :: rest =>
          if depth < maxDepth then do
            let (items, rest) ← items? (depth + 1) fuel rest
            some (.list false items, rest)
          else none
      | '\x7b' :: rest =>
          if depth < maxDepth then do
            let (entries, rest) ← entries? (depth + 1) fuel [] rest
            some (.table .inline entries, rest)
          else none
      | '"' :: _ => (quotedText? s).map fun (text, rest) => (.text text, rest)
      | '\'' :: _ => (quotedText? s).map fun (text, rest) => (.text text, rest)
      | _ => word? s

/-- Reads the items of a list and its closing bracket. -/
def items? (depth : Nat) : (fuel : Nat) → List Char → Option (List Value × List Char)
  | 0, _ => none
  | fuel + 1, s => do
      match ← dropTrivia? (s.length + 1) s with
      | ']' :: rest => some ([], rest)
      | s => do
          let (item, rest) ← value? depth fuel s
          match ← dropTrivia? (rest.length + 1) rest with
          | ']' :: rest => some ([item], rest)
          | ',' :: rest => do
              let (items, rest) ← items? depth fuel rest
              some (item :: items, rest)
          | _ => none

/-- Reads the entries of a table in one piece and its closing bracket. -/
def entries? (depth : Nat) : (fuel : Nat) → Table → List Char → Option (Table × List Char)
  | 0, _, _ => none
  | fuel + 1, table, s => do
      match ← dropTrivia? (s.length + 1) s with
      | '\x7d' :: rest => some (table, rest)
      | s => do
          let (table, rest) ← pair? depth fuel table s
          match ← dropTrivia? (rest.length + 1) rest with
          | '\x7d' :: rest => some (table, rest)
          | ',' :: rest => entries? depth fuel table rest
          | _ => none

/-- Reads a key with its value and adds it to a table. -/
def pair? (depth : Nat) : (fuel : Nat) → Table → List Char → Option (Table × List Char)
  | 0, _, _ => none
  | fuel + 1, table, s => do
      let (path, rest) ← key? (s.length + 1) s
      match rest with
      | '=' :: rest => do
          let (value, rest) ← value? depth fuel (dropBlanks rest)
          let table ← table.put value path
          some (table, rest)
      | _ => none

end

/-! ## Lines -/

/-- What has been read so far: the whole table, and the path of the section that is open. -/
structure Reading where
  table : Table
  path : List String

/-- Reads a key and its closing bracket or brackets. -/
def header? (closing : List Char) (s : List Char) : Option (List String × List Char) := do
  let s := dropBlanks s
  let (path, rest) ← key? (s.length + 1) s
  if closing.isPrefixOf rest then some (path, rest.drop closing.length) else none

/-- Adds a key with its value to the section that is open. -/
def Reading.addPair (r : Reading) (s : List Char) : Option (Reading × List Char) := do
  let (path, rest) ← key? (s.length + 1) s
  match rest with
  | '=' :: rest => do
      let (value, rest) ← value? 0 (rest.length + 1) (dropBlanks rest)
      let table ← r.table.within (·.put value path) r.path
      some ({ r with table }, rest)
  | _ => none

/-- Reads what stands at the start of a line, which may be nothing. -/
def Reading.readLine (r : Reading) (s : List Char) : Option (Reading × List Char) :=
  match s with
  | '[' :: '[' :: rest => do
      let (path, rest) ← header? [']', ']'] rest
      let table ← r.table.openElement path
      some (⟨table, path⟩, rest)
  | '[' :: rest => do
      let (path, rest) ← header? [']'] rest
      let table ← r.table.openTable path
      some (⟨table, path⟩, rest)
  | c :: _ =>
      if c == '#' || c == '\n' || c == '\r' then some (r, s) else r.addPair s
  | [] => some (r, [])

/-- Reads lines until the end of the text. -/
def Reading.readLines (r : Reading) : (fuel : Nat) → List Char → Option Table
  | 0, _ => none
  | fuel + 1, s => do
      let (r, rest) ← r.readLine (dropBlanks s)
      let rest ← endLine? rest
      if rest.isEmpty then some r.table else r.readLines fuel rest

/-- The table that a configuration text denotes. A byte order mark in front is dropped. -/
def Table.ofText? (text : String) : Option Table :=
  let s := match text.toList with
    | '\ufeff' :: rest => rest
    | s => s
  Reading.readLines ⟨[], []⟩ (s.length + 1) s

end ArmControl.Toml
