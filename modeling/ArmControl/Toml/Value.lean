/-!
# Values of a configuration text

The values that a configuration text in TOML denotes, and the rules by which its lines build up
tables: what was once defined is not defined again, and what is written in one piece is not
extended. `Table.put` adds a pair, `Table.openTable` and `Table.openElement` begin a section.
-/

namespace ArmControl.Toml

/-- How a table came about: on the way to another one, by a header, by a dotted key, or in one
piece within a line. -/
inductive TableKind
  | implied
  | headed
  | dotted
  | inline
deriving DecidableEq

/-- A value. A list that is growing was begun by headers of elements. -/
inductive Value
  | text (s : String)
  | int (i : Int)
  | float
  | bool (b : Bool)
  | date
  | list (growing : Bool) (items : List Value)
  | table (kind : TableKind) (entries : List (String × Value))

instance : Inhabited Value := ⟨.date⟩

/-- The entries of a table, in the order of their first definition. -/
abbrev Table := List (String × Value)

namespace Table

/-- Puts a value under a key, in the place of the value that the key had. -/
def set (t : Table) (key : String) (value : Value) : Table :=
  match t with
  | [] => [(key, value)]
  | entry :: rest => if entry.1 == key then (key, value) :: rest else entry :: set rest key value

/-- Adds a value under a dotted key. The tables on the way must not have been defined in another
manner, the last of them only by dotted keys, and the last key must be new. -/
def put (t : Table) (value : Value) : List String → Option Table
  | [] => none
  | [key] => if (t.lookup key).isSome then none else some (t.set key value)
  | key :: path =>
      match t.lookup key with
      | none => do
          let inner ← put [] value path
          some (t.set key (.table .dotted inner))
      | some (.table kind entries) =>
          if kind = .dotted ∨ (kind = .implied ∧ 1 < path.length) then do
            let inner ← put entries value path
            some (t.set key (.table kind inner))
          else none
      | some _ => none

/-- Changes the table that a path of headers leads to. Of a growing list it is the last element. -/
def within (change : Table → Option Table) (t : Table) : List String → Option Table
  | [] => change t
  | key :: path =>
      match t.lookup key with
      | none => do
          let inner ← within change [] path
          some (t.set key (.table .implied inner))
      | some (.table kind entries) =>
          if kind = .inline then none
          else do
            let inner ← within change entries path
            some (t.set key (.table kind inner))
      | some (.list true items) =>
          match items.getLast? with
          | some (.table kind entries) => do
              let inner ← within change entries path
              some (t.set key (.list true (items.dropLast ++ [.table kind inner])))
          | _ => none
      | some _ => none

/-- Begins the table of a header. It may have been implied before, but not defined. -/
def openHere (key : String) (t : Table) : Option Table :=
  match t.lookup key with
  | none => some (t.set key (.table .headed []))
  | some (.table .implied entries) => some (t.set key (.table .headed entries))
  | some _ => none

/-- Begins another element of a growing list. -/
def openElementHere (key : String) (t : Table) : Option Table :=
  match t.lookup key with
  | none => some (t.set key (.list true [.table .headed []]))
  | some (.list true items) => some (t.set key (.list true (items ++ [.table .headed []])))
  | some _ => none

/-- Begins the table of a header with a dotted key. -/
def openTable (t : Table) (path : List String) : Option Table := do
  let key ← path.getLast?
  t.within (openHere key) path.dropLast

/-- Begins another element of the growing list of a header with a dotted key. -/
def openElement (t : Table) (path : List String) : Option Table := do
  let key ← path.getLast?
  t.within (openElementHere key) path.dropLast

end Table

end ArmControl.Toml
