import ArmControl.Station
import ArmControl.Error.Robot

/-!
# Sessions

At most one session holds the driver at any time. A second one is refused at once and changes
nothing but the count of refusals. `Session.hold` runs a computation within a session and releases
the session however the computation ends.
-/

namespace ArmControl.Session

variable {σ μ α : Type}

/-- Takes the driver for a session, unless one has it already. -/
def acquire (kind : SessionKind) : Task σ μ (Except RobotError Unit) := do
  if (← get).held then
    Task.count fun m => { m with sessionsRejected := m.sessionsRejected + 1 }
    Task.report (.sessionRefused kind)
    pure (.error .sessionBusy)
  else
    modify fun s => { s with held := true }
    Task.count fun m => { m with sessionsStarted := m.sessionsStarted + 1 }
    Task.report (.sessionAcquired kind)
    pure (.ok ())

/-- Gives the driver back. -/
def release (kind : SessionKind) : Task σ μ Unit := do
  Task.count fun m => { m with sessionsReleased := m.sessionsReleased + 1 }
  Task.report (.sessionReleased kind)
  modify fun s => { s with held := false }

/-- Runs a computation and then gives the driver back, also when a clock overflowed. A session
that is still running keeps the driver. -/
def releasing (kind : SessionKind) (body : Task σ μ α) : Task σ μ α := fun s =>
  match body s with
  | .ok a s => (do release kind; pure a) s
  | .error .clockOverflow s => (do release kind; throw Halt.clockOverflow) s
  | .error .unfinished s => .error .unfinished s

/-- Runs a computation within a session. -/
def hold (kind : SessionKind) (body : Task σ μ (Except RobotError α)) :
    Task σ μ (Except RobotError α) := do
  match ← acquire kind with
  | .error error => pure (.error error)
  | .ok () => releasing kind body

end ArmControl.Session
