import ArmControl.Settings
import ArmControl.Toml.Document

/-!
# Settings from a configuration text

`Settings.ofToml` reads the settings of a robot from a configuration text. Whatever the text leaves
out has its default, and keys that mean nothing are passed over. What becomes of the settings once
they are read is `Settings.ofText`, which does not depend on the language of the text.
-/

namespace ArmControl

/-- Why the content of a configuration file could not be had. -/
inductive ReadFault
  | notFound
  | isDirectory
  | notText
  | stated (reason : String)

namespace ReadFault

/-- The fault in words. -/
def message : ReadFault → String
  | notFound => "No such file or directory (os error 2)"
  | isDirectory => "Is a directory (os error 21)"
  | notText => "stream did not contain valid UTF-8"
  | stated reason => reason

end ReadFault

/-- Why a configuration text gives no settings. -/
inductive ConfigFault
  | unreadable (name : String) (fault : ReadFault)
  | syntactic
  | invalid (error : RobotError)

namespace Toml

/-- A number of 64 bits. -/
def Value.word64? : Value → Option UInt64
  | int (.ofNat n) => if n < UInt64.size then some (UInt64.ofNat n) else none
  | _ => none

/-- A truth value. -/
def Value.bool? : Value → Option Bool
  | bool b => some b
  | _ => none

/-- The choice about real-time priority with that key. -/
def realtimeOfKey? (key : String) : Option Realtime :=
  [Realtime.enforce, .ignore].find? (·.key == key)

/-- A choice about real-time priority: its key, or a table of that one key with nothing in it. -/
def Value.realtime? : Value → Option Realtime
  | text key => realtimeOfKey? key
  | table _ [(key, list _ [])] => realtimeOfKey? key
  | table _ [(key, table _ [])] => realtimeOfKey? key
  | _ => none

/-- The value under a key, or a default if the key is absent. -/
def Table.get {α : Type} (t : Table) (key : String) (read : Value → Option α) (default : α) :
    Option α :=
  match t.lookup key with
  | some value => read value
  | none => some default

/-- The value at a place of a list, or a default if the list is too short. -/
def valueAt {α : Type} (items : List Value) (index : Nat) (read : Value → Option α)
    (default : α) : Option α :=
  match items[index]? with
  | some value => read value
  | none => some default

/-- Times: a table, or a list in the order of the fields. A date counts as a table without any of
the fields. -/
def Value.timing? : Value → Option Timing
  | table _ entries => do
      let controlPeriodUs ← Table.get entries "control_period_us" word64? 1000
      let jitterToleranceUs ← Table.get entries "jitter_tolerance_us" word64? 1000
      let requestTimeoutMs ← Table.get entries "request_timeout_ms" word64? 5000
      some { controlPeriodUs, jitterToleranceUs, requestTimeoutMs }
  | list _ items => do
      let controlPeriodUs ← valueAt items 0 word64? 1000
      let jitterToleranceUs ← valueAt items 1 word64? 1000
      let requestTimeoutMs ← valueAt items 2 word64? 5000
      some { controlPeriodUs, jitterToleranceUs, requestTimeoutMs }
  | date => some {}
  | _ => none

/-- Settings, not yet checked. -/
def Table.settings? (t : Table) : Option Settings := do
  let timing ← t.get "driver" Value.timing? {}
  let realtime ← t.get "realtime" Value.realtime? .enforce
  let enforceImpliedMode ← t.get "enforce_implied_mode" Value.bool? true
  some { timing, realtime, enforceImpliedMode }

/-- The settings that a text in this language gives, not yet checked. -/
def settings? (text : String) : Option Settings := Table.ofText? text >>= Table.settings?

end Toml

namespace Settings

/-- The settings that a text gives when it is read in this way, if a driver can work with them. -/
def ofText (read : String → Option Settings) (text : String) : Except ConfigFault Settings :=
  match read text with
  | none => .error .syntactic
  | some settings => do
      settings.validate.mapError .invalid
      pure settings

/-- The settings that a configuration text gives, if a driver can work with them. -/
def ofToml (text : String) : Except ConfigFault Settings := ofText Toml.settings? text

/-- The settings that the file of the given name gives, from the outcome of reading its bytes. -/
def ofFile (name : String) (content : Except ReadFault ByteArray) :
    Except ConfigFault Settings :=
  match content with
  | .error fault => .error (.unreadable name fault)
  | .ok bytes =>
      match String.fromUTF8? bytes with
      | none => .error (.unreadable name .notText)
      | some text => ofToml text

end Settings

namespace ConfigFault

/-- The fault as an error of the robot, unless it lies in the grammar of the text. -/
def toRobotError? : ConfigFault → Option RobotError
  | unreadable name fault =>
      some (.invalidArgument "config" s!"failed to read {name}: {fault.message}")
  | syntactic => none
  | invalid error => some error

end ConfigFault

end ArmControl
