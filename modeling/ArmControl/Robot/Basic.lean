import ArmControl.Control.Reading
import ArmControl.Session.Basic
import ArmControl.Settings

/-!
# Robots

The calls that can be made on a robot. Each of them holds a session while it runs, so a call made
from within another one is refused at once, whatever it asks for. Nothing is retried.
-/

namespace ArmControl

/-- A connected robot. `priority` is what an attempt to raise the priority of the thread gives, which
is up to the build and to the rights of the process. -/
structure Robot (σ : Type) where
  driver : Driver σ
  settings : Settings
  priority : Except String Unit := .error Realtime.unavailable

namespace Robot

variable {σ μ α : Type}

/-- Takes over a link, if the settings can be used. -/
def connect (link : Link σ) (settings : Settings)
    (priority : Except String Unit := .error Realtime.unavailable) :
    Task σ μ (Except RobotError (Robot σ)) := do
  match settings.validate with
  | .error error => pure (.error error)
  | .ok () => do
      match ← Driver.connect link settings.timing with
      | .error error => pure (.error (.ofDriver error))
      | .ok driver => do
          Task.report (.robotConnected driver.version)
          pure (.ok { driver, settings, priority })

/-! ## Within a session -/

/-- Makes a request that passes its own check. -/
def dispatch (r : Robot σ) (q : Request) : Guarded σ μ Reply :=
  match q.validate with
  | .error error => Guarded.fail (.ofValue error)
  | .ok () => Guarded.ofDriver (r.driver.execute q)

/-- Asks for real-time priority and announces the session. -/
def announce (r : Robot σ) (kind : SessionKind) : Guarded σ μ Unit := do
  Guarded.ofDriver (r.settings.realtime.apply r.priority)
  Guarded.ofTask (Task.report (.sessionStarted kind))

/-- Runs the loop of a session and reports how it ended. -/
def conclude (kind : SessionKind) (loop : Guarded σ μ Nat) : Guarded σ μ Unit :=
  ExceptT.mk do
    match ← loop.run with
    | .ok cycles => do
        Task.report (.sessionFinished kind cycles)
        pure (.ok ())
    | .error error => do
        Task.report (.sessionAborted kind error)
        pure (.error error)

/-- Requests a controller mode and supervises it from then on. -/
def requestMode (r : Robot σ) (mode : ControllerMode) : Guarded σ μ Supervisor := do
  let _ ← r.dispatch (.setControllerMode mode)
  Guarded.ofTask (Task.reportAll (Supervisor.requestEvents mode))
  pure (.forMode mode)

/-! ## Sessions -/

/-- Runs a control session whose mode is implied. -/
def controlImplied (r : Robot σ) (limit : Nat) (callbacks : Callbacks σ μ) :
    Task σ μ (Except RobotError Unit) :=
  Session.hold .control <| ExceptT.run do
    r.announce .control
    conclude .control (Control.run r.driver r.settings.impliedSupervisor callbacks limit)

/-- Controls the arm by torques. -/
def controlTorques (r : Robot σ) (limit : Nat) (torque : Callback σ μ Torques) :
    Task σ μ (Except RobotError Unit) :=
  r.controlImplied limit ⟨some torque, none⟩

/-- Controls the arm by torques while a motion is followed. -/
def controlTorquesWithMotion (r : Robot σ) (limit : Nat) (torque : Callback σ μ Torques)
    (motion : Callback σ μ Target) : Task σ μ (Except RobotError Unit) :=
  r.controlImplied limit ⟨some torque, some motion⟩

/-- Lets the arm follow a motion in a controller mode that is requested first. -/
def controlMotion (r : Robot σ) (limit : Nat) (motion : Callback σ μ Target)
    (mode : ControllerMode) : Task σ μ (Except RobotError Unit) :=
  Session.hold .motion <| ExceptT.run do
    r.announce .motion
    let supervisor ← r.requestMode mode
    conclude .motion (Control.run r.driver supervisor ⟨none, some motion⟩ limit)

/-- Reads states until the predicate says to stop, in a controller mode that is requested first
if one is given. -/
def read (r : Robot σ) (limit : Nat) (mode : Option ControllerMode)
    (keepOn : ArmState → Task σ μ Bool) : Task σ μ (Except RobotError Unit) :=
  Session.hold .read <| ExceptT.run do
    let supervisor ← match mode with
      | some mode => r.requestMode mode
      | none => pure .unenforced
    conclude .read (Reading.run r.driver supervisor keepOn limit)

/-- Reads one state. -/
def readOnce (r : Robot σ) : Task σ μ (Except RobotError ArmState) :=
  Session.hold .readOnce (Guarded.ofDriver r.driver.receive).run

/-! ## Configuration -/

/-- Makes a request. -/
def execute (r : Robot σ) (q : Request) : Task σ μ (Except RobotError Reply) :=
  Session.hold .command (r.dispatch q).run

/-- The robot as a record; `active` says whether a session runs. -/
def structured (r : Robot σ) (active : Bool) : String :=
  openRecordText "Robot"
    [("server_version", toString r.driver.version), ("session_active", toString active)]

end Robot

end ArmControl
