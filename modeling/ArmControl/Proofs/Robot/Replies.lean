import ArmControl.Proofs.Simulator.Requests

/-!
# Kinds of replies

A controller that grants a request replies with a wall or with nothing in particular, and only the
request for a wall looks at which it is: anything but a wall is an error that names the request. All
other calls drop the reply, so they do the same over `Link.plain`, where the replies have nothing in
them. `reply_kinds` is the main theorem; `stray_wall_counts_as_success` shows what it allows.
-/

namespace ArmControl

variable {σ μ α : Type}

/-- Whether a reply is of the kind that the request is answered with. -/
def Reply.fits : Request → Reply → Bool
  | .getCartesianLimit _, .wall _ => true
  | .getCartesianLimit _, .done => false
  | .setControllerMode _, reply | .setCollisionBehavior _, reply | .setJointImpedance _, reply
  | .setCartesianImpedance _, reply | .setGuidingMode _ _, reply | .setStiffnessFrame _, reply
  | .setEndEffectorFrame _, reply | .setLoad _, reply | .automaticErrorRecovery, reply =>
      match reply with
      | .done => true
      | .wall _ => false

/-! ## Sessions -/

/-- The answer with nothing in its reply. -/
def Answer.plain : Answer Response → Answer Response
  | value (.success _) => value (.success .done)
  | value (.rejected reason) => value (.rejected reason)
  | failure error => failure error
  | overflow => overflow

/-- The link with nothing in any of its replies. -/
def Link.plain (link : Link σ) : Link σ :=
  { link with
    request := fun q timeout line =>
      let step := link.request q timeout line
      { step with answer := step.answer.plain } }

/-- The driver over such a link. -/
def Driver.plain (d : Driver σ) : Driver σ := { d with link := d.link.plain }

/-- The robot over such a link. -/
def Robot.plain (r : Robot σ) : Robot σ := { r with driver := r.driver.plain }

theorem Driver.execute_plain (d : Driver σ) (q : Request) :
    d.plain.execute q = (Except.map fun _ => Reply.done) <$> (d.execute q : Task σ μ _) := by
  funext s
  have hrun := d.execute_run q s
  have hplain := d.plain.execute_run q s
  have hanswer : (d.plain.link.request q d.plain.timing.requestTimeout s.line).answer =
      (d.link.request q d.timing.requestTimeout s.line).answer.plain := rfl
  show _ = EStateM.map _ (d.execute q) s
  unfold EStateM.map
  rw [hanswer] at hplain
  rw [hplain, hrun]
  cases (d.link.request q d.timing.requestTimeout s.line).answer with
  | value response => cases response <;> rfl
  | failure | overflow => rfl

theorem of_driver_map {β : Type} (t : Task σ μ (Except DriverError α)) (f : α → β) :
    Guarded.ofDriver (Except.map f <$> t) = f <$> Guarded.ofDriver t := by
  funext s
  show EStateM.bind (EStateM.map (Except.map f) t) _ s = EStateM.bind (EStateM.bind t _) _ s
  unfold EStateM.bind EStateM.map
  cases t s with
  | ok answer s' => cases answer <;> rfl
  | error cause s' => rfl

theorem Robot.dispatch_plain (r : Robot σ) (q : Request) :
    r.plain.dispatch q = (fun _ => Reply.done) <$> (r.dispatch q : Guarded σ μ _) := by
  unfold Robot.dispatch
  cases q.validate with
  | error error => rfl
  | ok =>
      show Guarded.ofDriver (r.driver.plain.execute q) = _
      rw [Driver.execute_plain, of_driver_map]

theorem Robot.request_mode_plain (r : Robot σ) (mode : ControllerMode) :
    r.plain.requestMode mode = (r.requestMode mode : Guarded σ μ _) := by
  unfold Robot.requestMode
  rw [Robot.dispatch_plain, bind_map_left]

theorem Control.cycles_plain (d : Driver σ) (callbacks : Callbacks σ μ) (limit : Nat)
    (p : Progress) : cycles d.plain callbacks limit p = cycles d callbacks limit p := by
  induction limit generalizing p with
  | zero => rfl
  | succ limit ih =>
      unfold cycles
      show cycle d callbacks p >>= _ = cycle d callbacks p >>= _
      refine bind_congr fun cycled => ?_
      dsimp only
      rw [ih]

theorem Control.run_plain (d : Driver σ) (supervisor : Supervisor) (callbacks : Callbacks σ μ)
    (limit : Nat) : run d.plain supervisor callbacks limit = run d supervisor callbacks limit := by
  unfold run
  rw [cycles_plain]
  rfl

theorem Reading.run_plain (d : Driver σ) (supervisor : Supervisor)
    (keepOn : ArmState → Task σ μ Bool) (limit : Nat) :
    run d.plain supervisor keepOn limit = run d supervisor keepOn limit := by
  unfold run
  generalize (0 : Nat) = cycle
  induction limit generalizing supervisor cycle with
  | zero => rfl
  | succ limit ih =>
      unfold states
      refine bind_congr fun state => bind_congr fun supervisor => bind_congr fun goesOn => ?_
      rw [ih]

/-- A motion is followed all the same. -/
theorem Robot.control_motion_plain (r : Robot σ) (limit : Nat) (motion : Callback σ μ Target)
    (mode : ControllerMode) :
    r.plain.controlMotion limit motion mode = r.controlMotion limit motion mode := by
  have hloop (supervisor : Supervisor) :
      (conclude .motion (Control.run r.plain.driver supervisor ⟨none, some motion⟩ limit) :
        Guarded σ μ Unit) =
        conclude .motion (Control.run r.driver supervisor ⟨none, some motion⟩ limit) :=
    congrArg (conclude .motion) (Control.run_plain r.driver supervisor ⟨none, some motion⟩ limit)
  have hannounce : (r.plain.announce .motion : Guarded σ μ Unit) = r.announce .motion := rfl
  unfold controlMotion
  simp only [request_mode_plain, hloop, hannounce]

theorem Robot.read_plain (r : Robot σ) (limit : Nat) (mode : Option ControllerMode)
    (keepOn : ArmState → Task σ μ Bool) :
    r.plain.read limit mode keepOn = r.read limit mode keepOn := by
  have hloop (supervisor : Supervisor) :
      (conclude .read (Reading.run r.plain.driver supervisor keepOn limit) : Guarded σ μ Unit) =
        conclude .read (Reading.run r.driver supervisor keepOn limit) :=
    congrArg (conclude .read) (Reading.run_plain r.driver supervisor keepOn limit)
  unfold read
  simp only [request_mode_plain, hloop]

/-! ## Single requests -/

/-- What becomes of the result of a request in a computation that goes on with it. -/
theorem result_execute_bind (r : Robot σ) (q : Request) (f : Except RobotError Reply → α)
    (s : Station σ μ) :
    Task.result (r.execute q >>= fun result => pure (f result)) s =
      ((r.execute q).result s).map f := by
  show Task.result (EStateM.bind (r.execute q) _) s = _
  unfold Task.result EStateM.bind
  cases r.execute q s <;> rfl

/-- What the caller is told of the reply to a request for a wall. -/
def Reply.asWall : Reply → Except RobotError Wall
  | .wall found => .ok found
  | .done => .error (.communication (.unexpectedReply "GetCartesianLimit"))

variable {r : Robot σ} {s : Vacant σ μ} {q : Request} {reply : Reply}

theorem execute_granted (hvalid : q.validate = .ok ())
    (hgranted : (r.driver.link.request q r.driver.timing.requestTimeout s.station.line).answer =
      .value (.success reply)) :
    (r.execute q).result s.station = .ok (.ok reply) := by
  rw [(Forwarded.of_valid (r := r) 0 hvalid).result, hgranted]
  rfl

theorem configure_granted (limit : Nat) (hvalid : q.validate = .ok ())
    (hgranted : (r.driver.link.request q r.driver.timing.requestTimeout s.station.line).answer =
      .value (.success reply)) :
    Task.result ((Program.configure q).run r limit) s.station = .ok (.ok ()) := by
  show Task.result (r.execute q >>= fun result => pure (result.map fun _ => ())) s.station = _
  rw [result_execute_bind, execute_granted hvalid hgranted]
  rfl

theorem virtual_wall_granted (limit : Nat) {id : Int32} (hid : 0 ≤ id)
    (hgranted : (r.driver.link.request (.getCartesianLimit id) r.driver.timing.requestTimeout
      s.station.line).answer = .value (.success reply)) :
    Task.result ((Program.virtualWall id).run r limit) s.station = .ok reply.asWall := by
  have hvalid : (Request.getCartesianLimit id).validate = .ok () :=
    if_neg (Int32.not_lt.mpr hid)
  have hrun : (Program.virtualWall id).run (μ := μ) r limit =
      r.execute (.getCartesianLimit id) >>= fun result => pure (result.bind Reply.asWall) := by
    refine bind_congr fun result => ?_
    cases result with
    | error error => rfl
    | ok reply => cases reply <;> rfl
  rw [hrun, result_execute_bind, execute_granted hvalid hgranted]
  rfl

/-- When a robot that is free asks for a wall and the controller grants that with anything else, the
caller is told of an unexpected reply to that request. Every other request is a success once it is
granted, whatever the reply, and sessions that request a mode do just what they would do if all
replies had nothing in them. -/
theorem reply_kinds (r : Robot σ) (limit : Nat) (s : Vacant σ μ) :
    (∀ (id : Int32) (reply : Reply), 0 ≤ id →
      (r.driver.link.request (.getCartesianLimit id) r.driver.timing.requestTimeout
        s.station.line).answer = .value (.success reply) →
      Task.result ((Program.virtualWall id).run r limit) s.station = .ok (match reply with
        | .wall wall => .ok wall
        | .done =>
            .error (.communication (.unexpectedReply (Request.getCartesianLimit id).name)))) ∧
    (∀ (q : Request) (reply : Reply), q.validate = .ok () →
      (r.driver.link.request q r.driver.timing.requestTimeout s.station.line).answer =
        .value (.success reply) →
      Task.result ((Program.configure q).run r limit) s.station = .ok (.ok ())) ∧
    (∀ (motion : Callback σ μ Target) (mode : ControllerMode),
      r.controlMotion limit motion mode = r.plain.controlMotion limit motion mode) ∧
    ∀ (mode : Option ControllerMode) (keepOn : ArmState → Task σ μ Bool),
      r.read limit mode keepOn = r.plain.read limit mode keepOn := by
  refine ⟨fun id reply hid hgranted => ?_, fun q reply => configure_granted limit,
    fun motion mode => (r.control_motion_plain limit motion mode).symm,
    fun mode keepOn => (r.read_plain limit mode keepOn).symm⟩
  rw [virtual_wall_granted limit hid hgranted]
  cases reply <;> rfl

/-- A controller that replies to the next request with a wall, and then holds the joints by
impedance. -/
def Prepared.stray : Vacant Prepared Unit where
  station := .fresh {
    base := { controllerMode := .jointImpedance }
    responses := [.response (.success (.wall (.absent 1)))] } () #[]
  held := rfl

/-- Nothing in particular is no answer to a request for a wall, but a wall is one to a recovery. -/
theorem prepared_replies_are_told :
    Task.result ((Program.virtualWall 1).run Prepared.robot 1) (.fresh {} () #[]) =
        .ok (.error (.communication (.unexpectedReply "GetCartesianLimit"))) ∧
      Task.result ((Program.configure .automaticErrorRecovery).run Prepared.robot 1)
        Prepared.stray.station = .ok (.ok ()) := by
  obtain ⟨hwall, -⟩ := reply_kinds Prepared.robot 1 ⟨.fresh {} () #[], rfl⟩
  obtain ⟨-, hconfigure, -⟩ := reply_kinds Prepared.robot 1 Prepared.stray
  exact ⟨hwall 1 .done (by decide) rfl,
    hconfigure .automaticErrorRecovery (.wall (.absent 1)) rfl rfl⟩

/-- Reads one state in a controller mode that is requested first. -/
def TaskUse.glance : TaskUse Prepared Unit Unit := .read (some .jointImpedance) fun _ => pure false

/-- A wall that does not fit counts as success, for a request alone and for the request of a mode,
after which states are read. -/
theorem stray_wall_counts_as_success :
    Reply.fits (.setJointImpedance (.replicate _ 0)) (.wall (.absent 1)) = false ∧
      Task.result ((Program.configure (.setJointImpedance (.replicate _ 0))).run Prepared.robot 1)
        Prepared.stray.station = .ok (.ok ()) ∧
      Reply.fits (.setControllerMode .jointImpedance) (.wall (.absent 1)) = false ∧
      Task.result (TaskUse.glance.run Prepared.robot 1) Prepared.stray.station = .ok (.ok ()) :=
  ⟨rfl, rfl, rfl, rfl⟩

end ArmControl
