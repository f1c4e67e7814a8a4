import ArmControl.Link.Basic

/-!
# A simulated controller

A `Simulator` plays the controller: each state it hands out moves its clock on by one period, and
each command acts on the next state. Injections wait in a queue until the next operation, which
takes them all in before it does anything else.
-/

namespace ArmControl

/-- A simulated controller, and what has been injected into it. -/
structure Simulator where
  period : Duration := .ofMillis 1
  version : UInt16 := 5
  walls : List Wall := []
  state : ArmState := {}
  queue : Array Injection := #[]
  timeouts : Nat := 0
  malformed : Nat := 0
  sendFailures : Nat := 0
  rejections : List Refusal := []
  closed : Bool := false
  record : LinkRecord := {}

namespace Simulator

instance : Inhabited Simulator := ⟨{}⟩

/-! ## Injections -/

/-- Leaves an injection for the next operation. -/
def inject (i : Injection) (s : Simulator) : Simulator := { s with queue := s.queue.push i }

/-- What one injection does. -/
def absorb (s : Simulator) : Injection → Simulator
  | .controllerMode mode => { s with state := { s.state with controllerMode := mode } }
  | .robotMode mode => { s with state := { s.state with robotMode := mode } }
  | .receiveTimeout => { s with timeouts := s.timeouts + 1 }
  | .malformedState => { s with malformed := s.malformed + 1 }
  | .sendFailure => { s with sendFailures := s.sendFailures + 1 }
  | .reject reason => { s with rejections := s.rejections ++ [reason] }
  | .close => { s with closed := true }

/-- Takes in all the injections that wait, in their order. -/
def drain (s : Simulator) : Simulator :=
  { s.queue.toList.foldl absorb s with queue := #[] }

/-- The events of taking in the injections that wait. -/
def drainEvents (s : Simulator) : List Event := s.queue.toList.map .injected

/-! ## Commands -/

/-- The frame moved along by a velocity for some seconds. -/
def shift (t : Frame) (velocity : Twist) (seconds : Float) : Frame :=
  t.moved #v[velocity[0] * seconds, velocity[1] * seconds, velocity[2] * seconds]

/-- What the motion field of a command's mode does to the arm within some seconds. -/
def applyField (state : ArmState) (m : Motion) (seconds : Float) : ArmState :=
  match m.mode with
  | .jointPosition =>
      { state with
        velocity := m.position.zipWith (fun target q => (target - q) / seconds) state.position
        positionDesired := m.position
        position := m.position }
  | .jointVelocity =>
      let position := state.position.zipWith (fun q dq => q + dq * seconds) m.velocity
      { state with
        position
        velocityDesired := m.velocity
        velocity := m.velocity
        positionDesired := position }
  | .cartesianPosition =>
      { state with endEffectorDesired := m.frame, endEffector := m.frame }
  | .cartesianVelocity =>
      let frame := shift state.endEffector m.twist seconds
      { state with endEffector := frame, endEffectorDesired := frame }
  | .idle => state

/-- What the motion part of a command does to the arm within some seconds. -/
def applyMotion (state : ArmState) (m : Motion) (seconds : Float) : ArmState :=
  let state := applyField state m seconds
  let state :=
    if m.elbowValid then { state with elbowDesired := m.elbow, elbow := m.elbow } else state
  { state with generatorMode := m.mode, robotMode := .move }

/-- What the torques of a command do to the arm. -/
def applyTorques (state : ArmState) (t : Torques) : ArmState :=
  { state with torqueDesired := t.torque, torque := t.torque }

/-- Brings the arm to rest at the end of a session. -/
def rest (state : ArmState) : ArmState :=
  { state with
    generatorMode := .idle
    velocity := .replicate _ 0
    robotMode := if state.robotMode = .move then .idle else state.robotMode }

/-- What a command does to the arm within some seconds. -/
def applyCommand (state : ArmState) (c : Command) (seconds : Float) : ArmState :=
  let state := match c.control with
    | some t => applyTorques state t
    | none => state
  let state := match c.motion with
    | some m => applyMotion state m seconds
    | none => state
  let state := { state with successRate := 1 }
  if c.lastCycle then rest state else state

/-! ## Requests -/

/-- The wall with that id: the last one configured, or an inactive one without size. -/
def wallOf (walls : List Wall) (id : Int32) : Wall :=
  (walls.reverse.find? fun wall => wall.id == id).getD (.absent id)

/-- What a valid request does to the arm, and how it is answered. -/
def perform (s : Simulator) : Request → ArmState × Response
  | .setControllerMode mode =>
      ({ s.state with controllerMode := mode.reported }, .success .done)
  | .setStiffnessFrame frame =>
      ({ s.state with endEffectorToStiffness := frame }, .success .done)
  | .setEndEffectorFrame frame =>
      ({ s.state with flangeToEndEffector := frame }, .success .done)
  | .automaticErrorRecovery =>
      if s.state.requiresRecovery then ({ s.state with robotMode := .idle }, .success .done)
      else (s.state, .rejected (.commandNotPossible "robot is not in reflex mode"))
  | .getCartesianLimit id => (s.state, .success (.wall (wallOf s.walls id)))
  | .setCollisionBehavior _ | .setJointImpedance _ | .setCartesianImpedance _
  | .setGuidingMode _ _ | .setLoad _ => (s.state, .success .done)

/-- Answers a request: first by a rejection that was injected, then by checking its arguments. -/
def respond (s : Simulator) (q : Request) : Simulator × Response :=
  match s.rejections with
  | reason :: rest => ({ s with rejections := rest }, .rejected reason)
  | [] =>
      match q.validate with
      | .error error => (s, .rejected (.invalidArgument error.message))
      | .ok () =>
          let (state, response) := s.perform q
          ({ s with state }, response)

/-! ## Operations -/

/-- Hands out the next state. Injected timeouts come before injected damage. -/
def receive (timeout : Duration) (s : Simulator) : LinkStep Simulator ArmState :=
  let events := s.drainEvents
  let s := s.drain
  if s.closed then ⟨s, events, .failure .closed⟩
  else if 0 < s.timeouts then
    ⟨{ s with timeouts := s.timeouts - 1 }, events, .failure (.timeout timeout)⟩
  else if 0 < s.malformed then
    ⟨{ s with malformed := s.malformed - 1 }, events,
      .failure (.malformed "state message size mismatch")⟩
  else
    match s.state.time.add? s.period with
    | none => ⟨s, events, .overflow⟩
    | some time =>
        let state := { s.state with messageId := s.state.messageId + 1, time }
        ⟨{ s with state, record := s.record.addState },
          events ++ [.stateProduced state.messageId], .value state⟩

/-- Takes in a command. -/
def send (c : Command) (s : Simulator) : LinkStep Simulator Unit :=
  let events := s.drainEvents
  let s := s.drain
  if s.closed then ⟨s, events, .failure .closed⟩
  else if 0 < s.sendFailures then
    ⟨{ s with sendFailures := s.sendFailures - 1 }, events,
      .failure (.sendFailed "injected send failure")⟩
  else
    let state := applyCommand s.state c s.period.toSeconds
    ⟨{ s with state, record := s.record.addCommand c }, events, .value ()⟩

/-- Takes in a request and answers it. -/
def request (q : Request) (s : Simulator) : LinkStep Simulator Response :=
  let events := s.drainEvents
  let s := s.drain
  if s.closed then ⟨s, events, .failure .closed⟩
  else
    let (s, response) := respond { s with record := s.record.addRequest q } q
    ⟨s, events ++ [.requestAnswered q.name response], .value response⟩

/-- The simulated controller as a link. -/
def link : Link Simulator where
  receive := receive
  send := send
  request q _ := request q
  version s := s.version
  inject := inject
  record s := s.record

end Simulator

end ArmControl
