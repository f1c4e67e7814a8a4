import ArmControl.Robot.Basic

/-!
# Programs that use a robot

A `Program μ α` is what a user does with a robot: call it, look at what can be seen without a
session, disturb the line, and compute with a memory of type `μ`. Callbacks are programs as well,
so they may call the robot again before they answer, to any depth. `Program.run` carries a program
out; a session is followed for at most `limit` cycles.
-/

namespace ArmControl

/-- What can be seen of a robot at any time, also while a session runs. -/
structure View where
  metrics : Metrics
  latest : Option ArmState
  active : Bool
  record : LinkRecord

/-- A program that uses a robot and ends with a result of type `α`. -/
inductive Program (μ : Type) : Type → Type 1
  | done {α : Type} (a : α) : Program μ α
  | recollect {α : Type} (next : μ → Program μ α) : Program μ α
  | remember {α : Type} (memory : μ) (next : Program μ α) : Program μ α
  | inject {α : Type} (injection : Injection) (next : Program μ α) : Program μ α
  | inspect {α : Type} (next : View → Program μ α) : Program μ α
  | controlTorques {α : Type}
      (torque : ArmState → Duration → Program μ (Except String (Flow Torques)))
      (next : Except RobotError Unit → Program μ α) : Program μ α
  | controlTorquesWithMotion {α : Type}
      (torque : ArmState → Duration → Program μ (Except String (Flow Torques)))
      (motion : ArmState → Duration → Program μ (Except String (Flow Target)))
      (next : Except RobotError Unit → Program μ α) : Program μ α
  | controlMotion {α : Type}
      (motion : ArmState → Duration → Program μ (Except String (Flow Target)))
      (mode : ControllerMode) (next : Except RobotError Unit → Program μ α) : Program μ α
  | read {α : Type} (mode : Option ControllerMode) (keepOn : ArmState → Program μ Bool)
      (next : Except RobotError Unit → Program μ α) : Program μ α
  | readOnce {α : Type} (next : Except RobotError ArmState → Program μ α) : Program μ α
  | execute {α : Type} (request : Request) (next : Except RobotError Reply → Program μ α) :
      Program μ α

namespace Program

variable {σ μ α β : Type}

instance [Inhabited α] : Inhabited (Program μ α) := ⟨done default⟩

/-- One program after another. -/
def bind : {α : Type} → Program μ α → (α → Program μ β) → Program μ β
  | _, done a, f => f a
  | _, recollect next, f => recollect fun memory => (next memory).bind f
  | _, remember memory next, f => remember memory (next.bind f)
  | _, inject injection next, f => inject injection (next.bind f)
  | _, inspect next, f => inspect fun view => (next view).bind f
  | _, controlTorques torque next, f => controlTorques torque fun result => (next result).bind f
  | _, controlTorquesWithMotion torque motion next, f =>
      controlTorquesWithMotion torque motion fun result => (next result).bind f
  | _, controlMotion motion mode next, f =>
      controlMotion motion mode fun result => (next result).bind f
  | _, read mode keepOn next, f => read mode keepOn fun result => (next result).bind f
  | _, readOnce next, f => readOnce fun result => (next result).bind f
  | _, execute request next, f => execute request fun result => (next result).bind f

instance : Monad (Program μ) where
  pure := done
  bind := bind

/-! ## Carrying a program out -/

/-- Reads the memory of the program. -/
def recollected : Task σ μ μ := do return (← get).memory

/-- What can be seen of the robot. -/
def view (r : Robot σ) : Task σ μ View := do
  let s ← get
  return ⟨s.metrics, s.latest, s.held, r.driver.link.record s.line⟩

/-- Disturbs the line. -/
def disturb (r : Robot σ) (injection : Injection) : Task σ μ Unit :=
  modify fun s => { s with line := r.driver.link.inject injection s.line }

/-- Carries a program out on a robot. -/
def run (r : Robot σ) (limit : Nat) : {α : Type} → Program μ α → Task σ μ α
  | _, done a => pure a
  | _, recollect next => do run r limit (next (← recollected))
  | _, remember memory next => do
      modify fun s => { s with memory }
      run r limit next
  | _, inject injection next => do
      disturb r injection
      run r limit next
  | _, inspect next => do run r limit (next (← view r))
  | _, controlTorques torque next => do
      let result ← r.controlTorques limit fun state period => run r limit (torque state period)
      run r limit (next result)
  | _, controlTorquesWithMotion torque motion next => do
      let result ← r.controlTorquesWithMotion limit
        (fun state period => run r limit (torque state period))
        (fun state period => run r limit (motion state period))
      run r limit (next result)
  | _, controlMotion motion mode next => do
      let result ← r.controlMotion limit
        (fun state period => run r limit (motion state period)) mode
      run r limit (next result)
  | _, read mode keepOn next => do
      let result ← r.read limit mode fun state => run r limit (keepOn state)
      run r limit (next result)
  | _, readOnce next => do run r limit (next (← r.readOnce))
  | _, execute request next => do run r limit (next (← r.execute request))

/-! ## Calls built from these -/

/-- Makes a request of which only the success matters. -/
def configure (request : Request) : Program μ (Except RobotError Unit) :=
  execute request fun result => done (result.map fun _ => ())

/-- Asks for a wall; any other reply is unexpected. -/
def virtualWall (id : Int32) : Program μ (Except RobotError Wall) :=
  execute (.getCartesianLimit id) fun
    | .ok (.wall wall) => done (.ok wall)
    | .ok .done => done (.error (.ofDriver (.unexpectedReply "GetCartesianLimit")))
    | .error error => done (.error error)

/-- Sets the collision thresholds, the same ones while accelerating and at constant velocity. -/
def setUniformThresholds (lowerTorque upperTorque : Joints) (lowerForce upperForce : Twist) :
    Program μ (Except RobotError Unit) :=
  configure (.setCollisionBehavior (.uniform lowerTorque upperTorque lowerForce upperForce))

end Program

end ArmControl
