import ArmControl.Duration.Basic

/-!
# Cycle clock

A `CycleClock` turns the times of states into the lengths of cycles. The first cycle has the
nominal length; each later one is as long as the time between its state and the state before.
-/

namespace ArmControl

/-- The nominal length of a cycle, the time of the last state, and the sum of all lengths. -/
structure CycleClock where
  nominal : Duration
  previous : Option Duration := none
  elapsed : Duration := .zero

/-- What the time of a state means for the clock: a cycle of some length, a time that is not later
than the one before it, or a sum of lengths past the greatest duration. -/
inductive Tick
  | advanced (period : Duration) (clock : CycleClock)
  | stalled (previous : Duration)
  | overflow

namespace CycleClock

/-- A clock that has seen no state. -/
def start (nominal : Duration) : CycleClock := { nominal }

/-- Adds a cycle of the given length that ends at the given time. -/
def advance (c : CycleClock) (time period : Duration) : Tick :=
  match c.elapsed.add? period with
  | some elapsed => .advanced period { c with previous := some time, elapsed }
  | none => .overflow

/-- Takes in the time of a state. -/
def tick (c : CycleClock) (time : Duration) : Tick :=
  match c.previous with
  | none => c.advance time c.nominal
  | some previous =>
      if previous < time then c.advance time (time.since previous) else .stalled previous

end CycleClock

end ArmControl
