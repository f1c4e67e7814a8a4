import ArmControl.Control.Loop

/-!
# The reading loop

A reading session receives states and hands each to a predicate until that says to stop. It sends
nothing, and it takes states as they come: their times are not checked.
-/

namespace ArmControl.Reading

variable {σ μ : Type}

/-- Receives states from cycle `cycle + 1` on, at most `limit` of them, and gives the number of the
cycle in which the predicate said to stop. -/
def states (d : Driver σ) (keepOn : ArmState → Task σ μ Bool) :
    (limit : Nat) → Supervisor → (cycle : Nat) → Guarded σ μ Nat
  | 0, _, _ => Guarded.halt .unfinished
  | limit + 1, supervisor, cycle => do
      let cycle := cycle + 1
      let state ← Guarded.ofDriver d.receive
      let supervisor ← supervisor.watch state cycle
      if ← Guarded.ofTask (keepOn state) then
        states d keepOn limit supervisor cycle
      else
        Guarded.ofTask (Task.report (.readingStopped cycle))
        pure cycle

/-- Runs a reading session to its end and gives the number of states received. -/
def run (d : Driver σ) (supervisor : Supervisor) (keepOn : ArmState → Task σ μ Bool)
    (limit : Nat) : Guarded σ μ Nat :=
  states d keepOn limit supervisor 0

end ArmControl.Reading
