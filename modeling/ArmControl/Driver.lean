import ArmControl.Station
import ArmControl.Timing

/-!
# Drivers

A `Driver` owns a link. It waits for states and remembers the last one, sends commands that pass
their own check, makes requests one at a time, and counts what it does. It does not exclude one
use by another; sessions do.
-/

namespace ArmControl

/-- Whether a session that cannot get real-time priority may run all the same. -/
inductive Realtime
  | enforce
  | ignore
deriving DecidableEq, Inhabited

namespace Realtime

/-- The name of the choice. -/
def name : Realtime → String
  | enforce => "Enforce"
  | ignore => "Ignore"

/-- The choice as a configuration writes it. -/
def key : Realtime → String
  | enforce => "enforce"
  | ignore => "ignore"

/-- Why there is no real-time priority in a build that leaves it out. -/
def unavailable : String := "built without the `realtime` feature"

/-- Goes by what an attempt to raise the priority of the thread gave. A build that leaves real-time
priority out has only the attempt that fails. -/
def apply {σ μ : Type} (r : Realtime) (attempt : Except String Unit := .error unavailable) :
    Task σ μ (Except DriverError Unit) :=
  match attempt, r with
  | .ok (), _ => do
      Task.report .priorityRaised
      pure (.ok ())
  | .error reason, enforce => pure (.error (.realtime reason))
  | .error reason, ignore => do
      Task.report (.priorityMissing reason)
      pure (.ok ())

end Realtime

/-- A link with the times it is used with and the version that its controller gave. -/
structure Driver (σ : Type) where
  link : Link σ
  timing : Timing
  version : UInt16

namespace Driver

variable {σ μ α : Type}

/-- Takes over a link, if the times can be used. -/
def connect (link : Link σ) (timing : Timing) : Task σ μ (Except DriverError (Driver σ)) := do
  match timing.validate with
  | .error error => pure (.error error)
  | .ok () => do
      let version := link.version (← get).line
      Task.report (.driverConnected version timing.controlPeriod)
      pure (.ok { link, timing, version })

/-- Counts and reports a failed exchange. -/
def recordFailure (error : LinkError) : Task σ μ Unit := do
  if error.isTimeout then
    Task.count fun m => { m with receiveTimeouts := m.receiveTimeouts + 1 }
  else
    Task.count fun m => { m with transportErrors := m.transportErrors + 1 }
  Task.report (.linkFailed error)

/-- Carries out an exchange and reports its failure. -/
def attempt (operation : σ → LinkStep σ α) : Task σ μ (Except DriverError α) := do
  match ← Task.exchange operation with
  | .ok a => pure (.ok a)
  | .error error => do
      recordFailure error
      pure (.error (.link error))

/-- Remembers a state as the last one received. -/
def publish (state : ArmState) : Task σ μ Unit :=
  modify fun s => { s with latest := some state }

/-- Waits for a state. -/
def receive (d : Driver σ) : Task σ μ (Except DriverError ArmState) := do
  match ← attempt (d.link.receive d.timing.receiveTimeout) with
  | .error error => pure (.error error)
  | .ok state => do
      Task.count fun m => { m with statesReceived := m.statesReceived + 1 }
      publish state
      Task.report (.stateReceived state.messageId)
      pure (.ok state)

/-- Sends a command; one that fails its check never reaches the link. -/
def send (d : Driver σ) (c : Command) : Task σ μ (Except DriverError Unit) := do
  match c.validate with
  | .error error => pure (.error (.value error))
  | .ok () => do
      match ← attempt (d.link.send c) with
      | .error error => pure (.error error)
      | .ok () => do
          Task.count fun m => { m with commandsSent := m.commandsSent + 1 }
          Task.report (.commandSent c.messageId)
          pure (.ok ())

/-- Makes a request, as it is and once. -/
def execute (d : Driver σ) (q : Request) : Task σ μ (Except DriverError Reply) := do
  Task.count fun m => { m with requestsSent := m.requestsSent + 1 }
  Task.report (.requestStarted q.name)
  match ← attempt (d.link.request q d.timing.requestTimeout) with
  | .error error => pure (.error error)
  | .ok (.success reply) => do
      Task.report (.requestSucceeded q.name)
      pure (.ok reply)
  | .ok (.rejected reason) => do
      Task.count fun m => { m with requestsRejected := m.requestsRejected + 1 }
      Task.report (.requestRejected q.name reason)
      pure (.error (.rejected q.name reason))

/-- The driver as a record. -/
def structured (d : Driver σ) : String :=
  openRecordText "Driver"
    [("config", d.timing.structured), ("server_version", toString d.version)]

end Driver

/-- The observer of the last state received, as a record. -/
def observerText (latest : Option ArmState) : String :=
  recordText "StateObserver"
    [("message_id", optionText (latest.map fun state => toString state.messageId))]

end ArmControl
