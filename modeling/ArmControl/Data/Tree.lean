/-!
# Data trees

The shape of serialized data: a value is written as a tree of numbers, texts, lists and records.
-/

namespace ArmControl

/-- A tree of data. A record keeps the order of its entries. -/
inductive Tree
  | null
  | bool (b : Bool)
  | int (i : Int)
  | float (x : Float)
  | text (s : String)
  | list (items : List Tree)
  | record (entries : List (String × Tree))

namespace Tree

instance : Inhabited Tree := ⟨null⟩

end Tree

end ArmControl
