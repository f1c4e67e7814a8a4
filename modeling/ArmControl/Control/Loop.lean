import ArmControl.Control.Callback
import ArmControl.CycleClock
import ArmControl.Driver
import ArmControl.Error.Robot
import ArmControl.Supervisor

/-!
# The control loop

Each cycle of a control session receives a state, has its mode and its time checked, calls the
callbacks that have not finished, checks what they give, and sends one command. When every
callback has finished, one more cycle repeats the last outputs and ends the session. Any fault ends
the loop at once, and nothing is sent after it.
-/

namespace ArmControl

/-- A computation that a fault can end. -/
abbrev Guarded (σ μ α : Type) := ExceptT RobotError (Task σ μ) α

namespace Guarded

variable {σ μ α : Type}

/-- A computation that no fault ends. -/
def ofTask (task : Task σ μ α) : Guarded σ μ α := ExceptT.lift task

/-- An operation of the driver, its error taken as an error of the robot. -/
def ofDriver (operation : Task σ μ (Except DriverError α)) : Guarded σ μ α :=
  ExceptT.mk do
    match ← operation with
    | .ok a => pure (.ok a)
    | .error error => pure (.error (.ofDriver error))

/-- Ends the computation with an error. -/
def fail (error : RobotError) : Guarded σ μ α := ExceptT.mk (pure (.error error))

/-- Halts without a result. -/
def halt (h : Halt) : Guarded σ μ α := ExceptT.mk (throw h)

end Guarded

namespace Supervisor

variable {σ μ : Type}

/-- Judges the mode of a state, and counts and reports a mismatch. -/
def watch (s : Supervisor) (state : ArmState) (cycle : Nat) : Guarded σ μ Supervisor := do
  let observation := s.observe state.controllerMode cycle
  Guarded.ofTask (Task.reportAll observation.events)
  match observation.verdict with
  | .ok () => pure observation.supervisor
  | .error fault => do
      Guarded.ofTask (Task.count fun m => { m with controlFaults := m.controlFaults + 1 })
      Guarded.fail (.control fault)

end Supervisor

namespace Control

variable {σ μ : Type}

/-- How far a control session has come. `cycle` counts the states that were waited for. -/
structure Progress where
  supervisor : Supervisor
  clock : CycleClock
  cycle : Nat
  torque : Slot Torques
  motion : Slot Target

namespace Progress

/-- Before the first cycle. -/
def start (supervisor : Supervisor) (nominal : Duration) (callbacks : Callbacks σ μ) :
    Progress where
  supervisor := supervisor
  clock := .start nominal
  cycle := 0
  torque := .start callbacks.torque.isSome
  motion := .start callbacks.motion.isSome

/-- Whether every callback has finished. -/
def finished (p : Progress) : Bool := p.torque.finished && p.motion.finished

end Progress

/-- A state that passed its checks, with the length of its cycle. -/
structure Cycle where
  state : ArmState
  period : Duration

/-- Waits for a state, checks its mode, and then takes its time. -/
def nextState (d : Driver σ) (p : Progress) : Guarded σ μ (Cycle × Progress) := do
  let p := { p with cycle := p.cycle + 1 }
  let state ← Guarded.ofDriver d.receive
  let supervisor ← p.supervisor.watch state p.cycle
  match p.clock.tick state.time with
  | .overflow => Guarded.halt .clockOverflow
  | .stalled previous => Guarded.fail (.communication (.clockStalled previous state.time))
  | .advanced period clock => do
      Guarded.ofTask (Task.report (.cycleStarted p.cycle state.messageId period))
      pure (⟨state, period⟩, { p with supervisor, clock })

/-- Counts an output that may not be sent and ends the session. -/
def failNumeric {α : Type} (cycle : Nat) (callback : CallbackKind) (error : ValueError) :
    Guarded σ μ α := do
  Guarded.ofTask (Task.count fun m => { m with numericFaults := m.numericFaults + 1 })
  Guarded.fail (.numeric ⟨cycle, callback, error⟩)

/-- Calls a callback that has not finished and checks its output; leaves any other as it is. -/
def turn {α : Type} (kind : CallbackKind) (validate : α → Except ValueError Unit)
    (callback : Option (Callback σ μ α)) (slot : Slot α) (cycle : Nat) (now : Cycle) :
    Guarded σ μ (Slot α) :=
  match callback, slot.finished with
  | some call, false => do
      match ← Guarded.ofTask (call now.state now.period) with
      | .error reason => Guarded.fail (.callback reason)
      | .ok flow =>
          match validate flow.value with
          | .error error => failNumeric cycle kind error
          | .ok () => pure (.accept flow)
  | _, _ => pure slot

/-- The command that answers a state with the outputs held. -/
def buildCommand (messageId : UInt64) (torque : Option Torques) (target : Option Target)
    (finished : Bool) : Command where
  messageId := messageId
  motion := target.map fun target => target.merge {}
  control := torque
  motionFinished := finished

/-- Sends a command. -/
def sendCommand (d : Driver σ) (c : Command) : Guarded σ μ Unit := Guarded.ofDriver (d.send c)

/-- One ordinary cycle: a state, the callbacks, and a command. -/
def cycle (d : Driver σ) (callbacks : Callbacks σ μ) (p : Progress) :
    Guarded σ μ (Command × Progress) := do
  let (now, p) ← nextState d p
  let torque ← turn .torque Torques.validate callbacks.torque p.torque p.cycle now
  let motion ← turn .motion Target.validate callbacks.motion p.motion p.cycle now
  let p := { p with torque, motion }
  let command := buildCommand now.state.messageId torque.held motion.held p.finished
  sendCommand d command
  pure (command, p)

/-- Ordinary cycles until every callback has finished, at most `limit` of them. -/
def cycles (d : Driver σ) (callbacks : Callbacks σ μ) :
    (limit : Nat) → Progress → Guarded σ μ (Command × Progress)
  | 0, _ => Guarded.halt .unfinished
  | limit + 1, p => do
      let (command, p) ← cycle d callbacks p
      if p.finished then pure (command, p) else cycles d callbacks limit p

/-- Runs a control session to its end and gives the number of its ordinary cycles. -/
def run (d : Driver σ) (supervisor : Supervisor) (callbacks : Callbacks σ μ) (limit : Nat) :
    Guarded σ μ Nat := do
  let (last, p) ← cycles d callbacks limit (.start supervisor d.timing.controlPeriod callbacks)
  Guarded.ofTask (Task.report (.callbacksFinished p.cycle p.clock.elapsed))
  let (now, p) ← nextState d p
  sendCommand d (last.terminal now.state.messageId)
  pure (p.cycle - 1)

end Control

end ArmControl
