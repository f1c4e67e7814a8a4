import ArmControl.Proofs.Robot.Use

/-!
# The calls of a use

Every call on a robot, and not only a control session, leaves a trace when it is made over a traced
line: the exchanges with the controller and the calls of its callbacks, in their order.
-/

namespace ArmControl

variable {σ μ α : Type}

/-- The station after one more call was remembered. -/
def Station.noted (call : Call) (s : Station (Traced σ) μ) : Station (Traced σ) μ :=
  { s with line := s.line.note call }

/-- A task that is remembered as a call when it has answered. -/
def Task.noting (call : α → Call) (t : Task (Traced σ) μ α) : Task (Traced σ) μ α := do
  let answer ← t
  modify (Station.noted (call answer))
  pure answer

/-- The use with every call of its callbacks remembered. -/
def TaskUse.noting (use : TaskUse (Traced σ) μ α) : TaskUse (Traced σ) μ α :=
  use.map (Scripts.noting .torque) (Scripts.noting .motion)
    fun keepOn state => (keepOn state).noting (.predicate state)

namespace ProgramUse

/-- Makes the call over a traced line, with the calls of its callbacks remembered. -/
def traced (r : Robot σ) (limit : Nat) (use : ProgramUse μ α) :
    Task (Traced σ) μ (Except RobotError α) :=
  TaskUse.run r.traced limit (use.mapTask (Program.run r.traced limit)).noting

/-- The calls that are made in a use, in their order. -/
def trace (r : Robot σ) (limit : Nat) (use : ProgramUse μ α) (s : Station σ μ) : List Call :=
  (Task.after (use.traced r limit) s.traced).line.trace

end ProgramUse

end ArmControl
