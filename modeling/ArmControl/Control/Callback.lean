import ArmControl.Station
import ArmControl.Target

/-!
# Callbacks

What a control session asks for its outputs. A callback gives a value in every cycle until it says
that it has finished; the value of that cycle is held from then on.
-/

namespace ArmControl

/-- The output of a callback in one cycle: go on, or hold this value and call no more. -/
inductive Flow (α : Type)
  | continue (value : α)
  | finished (value : α)

namespace Flow

variable {α : Type}

/-- The value given. -/
def value : Flow α → α
  | .continue value => value
  | .finished value => value

/-- Whether the callback is not to be called again. -/
def isFinished : Flow α → Bool
  | .continue _ => false
  | .finished _ => true

end Flow

/-- A callback on a station: for a state and the length of its cycle, an output or an error. -/
abbrev Callback (σ μ α : Type) := ArmState → Duration → Task σ μ (Except String (Flow α))

/-- The callbacks of a control session. -/
structure Callbacks (σ μ : Type) where
  torque : Option (Callback σ μ Torques)
  motion : Option (Callback σ μ Target)

/-- What a callback has given so far: its last value, and whether it is done. -/
structure Slot (α : Type) where
  held : Option α
  finished : Bool

namespace Slot

variable {α : Type}

/-- Nothing given yet; a callback that is absent is done from the start. -/
def start (present : Bool) : Slot α := ⟨none, !present⟩

/-- The slot after an output. -/
def accept (flow : Flow α) : Slot α := ⟨some flow.value, flow.isFinished⟩

end Slot

end ArmControl
