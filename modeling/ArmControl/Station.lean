import ArmControl.Link.Basic
import ArmControl.Metrics

/-!
# Stations

A `Station` holds everything that changes while a robot is used: the line to the controller, the
last state received, the counters, the session lock, the log, and the memory of the program that
uses the robot. A `Task` is a computation on a station; when it halts without a result, the station
keeps what was done until then.
-/

namespace ArmControl

/-- Why a computation ended without a result: a clock passed the greatest duration, or the number
of cycles allowed to one session was used up. -/
inductive Halt
  | clockOverflow
  | unfinished
deriving DecidableEq

namespace Halt

/-- The halt in words. -/
def message : Halt → String
  | clockOverflow => "overflow when adding durations"
  | unfinished => "session still running"

end Halt

/-- Everything that changes while a robot is used. -/
structure Station (σ μ : Type) where
  line : σ
  memory : μ
  latest : Option ArmState := none
  metrics : Metrics := {}
  held : Bool := false
  journal : Array Event := #[]

/-- A computation on a station. -/
abbrev Task (σ μ α : Type) := EStateM Halt (Station σ μ) α

namespace Task

variable {σ μ α : Type}

/-- Adds an event to the log. -/
def report (event : Event) : Task σ μ Unit :=
  modify fun s => { s with journal := s.journal.push event }

/-- Adds events to the log. -/
def reportAll (events : List Event) : Task σ μ Unit :=
  modify fun s => { s with journal := s.journal ++ events }

/-- Changes the counters. -/
def count (change : Metrics → Metrics) : Task σ μ Unit :=
  modify fun s => { s with metrics := change s.metrics }

/-- Carries out an operation on the line. -/
def exchange (operation : σ → LinkStep σ α) : Task σ μ (Except LinkError α) := fun s =>
  let step := operation s.line
  let s := { s with line := step.line, journal := s.journal ++ step.events }
  match step.answer with
  | .value a => .ok (.ok a) s
  | .failure error => .ok (.error error) s
  | .overflow => .error .clockOverflow s

end Task

end ArmControl
