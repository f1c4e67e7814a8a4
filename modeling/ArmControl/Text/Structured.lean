import ArmControl.Decimal.Notation
import ArmControl.Request
import ArmControl.Text.Quoted

/-!
# Structured text

The form in which logs show whole values: `Name(value)` for a variant with a payload and
`Name { field: value }`, with curly brackets, for a record.
-/

namespace ArmControl

/-- A list in square brackets. -/
def listText (items : List String) : String := "[" ++ ", ".intercalate items ++ "]"

/-- A list of floats. -/
def floatsText (values : List Float) : String := listText (values.map markedText)

/-- A variant with a payload. -/
def variantText (name payload : String) : String := name ++ "(" ++ payload ++ ")"

/-- A name with its items in curly brackets. -/
def bracedText (name : String) (items : List String) : String :=
  name ++ " \x7b " ++ ", ".intercalate items ++ " \x7d"

/-- A field of a record. -/
def fieldText (field : String × String) : String := field.1 ++ ": " ++ field.2

/-- A record with its fields in order. -/
def recordText (name : String) (fields : List (String × String)) : String :=
  bracedText name (fields.map fieldText)

/-- A record of which only some fields are shown. -/
def openRecordText (name : String) (fields : List (String × String)) : String :=
  bracedText name (fields.map fieldText ++ [".."])

/-- An optional value. -/
def optionText : Option String → String
  | some text => variantText "Some" text
  | none => "None"

namespace Wall

/-- A wall as a record. -/
def structured (w : Wall) : String :=
  recordText "VirtualWallCuboid"
    [("id", toString w.id.toInt), ("active", toString w.active),
      ("object_world_size", floatsText w.size.toList), ("p_frame", floatsText w.frame.toList)]

end Wall

namespace Reply

/-- A reply as a variant. -/
def structured : Reply → String
  | done => "Done"
  | wall w => variantText "VirtualWall" w.structured

end Reply

namespace Refusal

/-- A refusal as a variant. -/
def structured : Refusal → String
  | invalidArgument text => variantText "InvalidArgument" (quoted text)
  | commandNotPossible text => variantText "CommandNotPossible" (quoted text)
  | aborted text => variantText "Aborted" (quoted text)
  | preempted => "Preempted"

end Refusal

namespace Response

/-- A response as a variant. -/
def structured : Response → String
  | success reply => variantText "Success" reply.structured
  | rejected reason => variantText "Rejected" reason.structured

end Response

end ArmControl
