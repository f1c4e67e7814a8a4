import ArmControl.Decimal.Notation

/-!
# Errors of data

A `ValueError` says which field of a command, request or state holds a value that may not be used,
and why. `ValueError.message` is the only place where these causes are put into words.
-/

namespace ArmControl

/-- Why a parameter is refused although all its numbers are finite. -/
inductive ParameterFault
  | negative (index : Nat) (value : Float)
  | exceeds (index : Nat) (upper : String) (low high : Float)
  | notSymmetric
  | negativeWall (id : Int32)
  | stated (reason : String)

/-- What is wrong with a value. -/
inductive ValueError
  | nonFinite (field : String) (index : Nat) (value : Float)
  | invalidTransform (field : String)
  | invalidParameter (parameter : String) (fault : ParameterFault)
  | invalidTag (field : String) (value : UInt8)

namespace ParameterFault

/-- The fault in words. -/
def message : ParameterFault → String
  | negative index value => s!"element {index} is negative ({plainText value})"
  | exceeds index upper low high =>
      s!"element {index} exceeds {upper} ({plainText low} > {plainText high})"
  | notSymmetric => "inertia tensor must be symmetric"
  | negativeWall id => s!"virtual wall id must be >= 0, got {id.toInt}"
  | stated reason => reason

end ParameterFault

namespace ValueError

/-- The kind of an error. -/
def kindName : ValueError → String
  | nonFinite _ _ _ => "NonFinite"
  | invalidTransform _ => "InvalidTransform"
  | invalidParameter _ _ => "InvalidParameter"
  | invalidTag _ _ => "InvalidValue"

/-- The field or parameter at fault. -/
def field : ValueError → String
  | nonFinite field _ _ => field
  | invalidTransform field => field
  | invalidParameter parameter _ => parameter
  | invalidTag field _ => field

/-- The error in words. -/
def message : ValueError → String
  | nonFinite field index value => s!"Non-finite value in {field}[{index}]: {plainText value}"
  | invalidTransform field => s!"{field} is not a valid homogeneous transformation"
  | invalidParameter parameter fault => s!"Invalid parameter '{parameter}': {fault.message}"
  | invalidTag field value => s!"Invalid value for field {field}: {value.toNat}"

end ValueError

end ArmControl
