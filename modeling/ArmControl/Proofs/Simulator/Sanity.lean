import ArmControl.Proofs.Robot.Lasting
import ArmControl.Proofs.Simulator.Completion
import ArmControl.Proofs.Simulator.Configuration
import ArmControl.Proofs.Simulator.Records

/-!
# States stay sane

What a driver and a controller let through can be used: torques, velocities and elbows are finite,
and frames are rigid. A simulated arm that starts in a sane state therefore hands out nothing else,
whatever is sent, requested or injected. Only its place in space is not promised, since it is
integrated from velocities. `states_stay_sane` is the main theorem. The argument is in `Sane.after`,
for one deed, and in `Lasting`, for whole runs.
-/

namespace ArmControl

/-! ## Frames -/

namespace Frame

/-- The frame without its translation. -/
def centred (t : Frame) : Frame := t.mapIdx fun i x => if i = 12 ∨ i = 13 ∨ i = 14 then 0 else x

/-- Whether the frame is a rotation, with whatever translation. -/
def isRotation (t : Frame) : Bool := t.centred.isRigid

/-- Only the translation is gone. -/
theorem centred_get {t : Frame} {i : Nat} (hi : i < 16) :
    t.centred[i] = if i = 12 ∨ i = 13 ∨ i = 14 then 0 else t[i] := by
  simp [centred]

theorem centred_rotation (t : Frame) : t.centred.rotation = t.rotation := by
  simp [rotation, centred_get]

theorem centred_unit_row (t : Frame) : t.centred.hasUnitRow = t.hasUnitRow := by
  simp [hasUnitRow, centred_get]

theorem centred_finite {t : Frame} (h : t.toList.all Float.isFinite = true) :
    t.centred.toList.all Float.isFinite = true := by
  have hzero : (0 : Float).isFinite = true := by decide +kernel
  simp only [Vector.all_toList, Vector.all_eq_true] at h ⊢
  intro i hi
  rw [centred_get hi]
  split
  · exact hzero
  · exact h i hi

/-- A rotation with a translation is a rotation. -/
theorem rotation_of_rigid {t : Frame} (h : t.isRigid = true) : t.isRotation = true := by
  unfold isRotation isRigid at *
  rw [centred_rotation, centred_unit_row]
  simp only [Bool.and_eq_true] at h ⊢
  exact ⟨⟨⟨centred_finite h.1.1.1, h.1.1.2⟩, h.1.2⟩, h.2⟩

/-- A frame that is moved turns as before. -/
theorem moved_centred (t : Frame) (distance : Point) : (t.moved distance).centred = t.centred := by
  refine Vector.ext fun i hi => ?_
  rw [centred_get hi, centred_get hi]
  split
  case isTrue => rfl
  case isFalse h =>
      simp only [not_or] at h
      obtain ⟨h12, h13, h14⟩ := h
      simp only [moved, Vector.getElem_set]
      grind

end Frame

/-! ## States -/

/-- A state with finite numbers and usable frames. What is asked of the pose of the end effector is
left open. -/
structure ArmState.Sane (pose : Frame → Bool) (state : ArmState) : Prop where
  torque : ∀ x ∈ state.torque.toList, x.isFinite = true
  torqueDesired : ∀ x ∈ state.torqueDesired.toList, x.isFinite = true
  velocityDesired : ∀ x ∈ state.velocityDesired.toList, x.isFinite = true
  elbow : ∀ x ∈ state.elbow.toList, x.isFinite = true
  elbowDesired : ∀ x ∈ state.elbowDesired.toList, x.isFinite = true
  endEffector : pose state.endEffector = true
  endEffectorDesired : pose state.endEffectorDesired = true
  flangeToEndEffector : state.flangeToEndEffector.isRigid = true
  endEffectorToStiffness : state.endEffectorToStiffness.isRigid = true

namespace ArmState.Sane

variable {state : ArmState} {pose pose' : Frame → Bool}

theorem mono (hpose : ∀ t, pose t = true → pose' t = true) (h : state.Sane pose) :
    state.Sane pose' :=
  { h with
    endEffector := hpose _ h.endEffector
    endEffectorDesired := hpose _ h.endEffectorDesired }

/-- The field of the mode is checked exactly when it is copied. -/
theorem apply_field (h : state.Sane Frame.isRotation) {m : Motion}
    (hvalid : m.validateField = .ok ()) (seconds : Float) :
    (Simulator.applyField state m seconds).Sane Frame.isRotation := by
  unfold Motion.validateField at hvalid
  unfold Simulator.applyField
  cases hmode : m.mode with
  | jointPosition => exact { h with }
  | jointVelocity =>
      rw [hmode] at hvalid
      exact { h with velocityDesired := check_finite_ok_iff.mp hvalid }
  | cartesianPosition =>
      rw [hmode] at hvalid
      have hframe := Frame.rotation_of_rigid (check_frame_ok_iff.mp hvalid)
      exact { h with endEffector := hframe, endEffectorDesired := hframe }
  | cartesianVelocity =>
      -- Only the translation is integrated, so nothing is asked of the twist.
      have hframe (distance : Point) : (state.endEffector.moved distance).isRotation = true := by
        unfold Frame.isRotation
        rw [Frame.moved_centred]
        exact h.endEffector
      exact { h with endEffector := hframe _, endEffectorDesired := hframe _ }
  | idle => exact h

theorem apply_motion (h : state.Sane Frame.isRotation) {m : Motion} (hvalid : m.validate = .ok ())
    (seconds : Float) : (Simulator.applyMotion state m seconds).Sane Frame.isRotation := by
  obtain ⟨hfield, helbow⟩ := Motion.validate_ok_iff.mp hvalid
  have happlied := h.apply_field hfield seconds
  unfold Simulator.applyMotion
  cases hcounts : m.elbowValid with
  | false => exact { happlied with }
  | true =>
      have hfinite := check_finite_ok_iff.mp (helbow hcounts)
      exact { happlied with elbow := hfinite, elbowDesired := hfinite }

theorem apply_command (h : state.Sane Frame.isRotation) {c : Command}
    (hvalid : c.validate = .ok ()) (seconds : Float) :
    (Simulator.applyCommand state c seconds).Sane Frame.isRotation := by
  obtain ⟨htorques, hmotion⟩ := Command.validate_ok_iff.mp hvalid
  refine Simulator.apply_command_rule h (fun t hmem _ h => ?_)
    (fun m hmem _ h => h.apply_motion (hmotion m hmem) seconds) (fun _ _ h => h)
    (fun _ h => { h with }) fun _ h => { h with }
  have hfinite := check_finite_ok_iff.mp (htorques t hmem)
  exact { h with torque := hfinite, torqueDesired := hfinite }

theorem request_effect (h : state.Sane pose) {q : Request} (hvalid : q.validate = .ok ()) :
    (q.effect state).Sane pose := by
  cases q with
  | setStiffnessFrame frame =>
      exact { h with endEffectorToStiffness := check_frame_ok_iff.mp hvalid }
  | setEndEffectorFrame frame =>
      exact { h with flangeToEndEffector := check_frame_ok_iff.mp hvalid }
  | _ => exact { h with }

/-- A deed keeps a state sane if what it brings to the arm was checked. -/
theorem after (h : state.Sane Frame.isRotation) {deed : Deed}
    (haccepted : ∀ c ∈ deed.accepted?, c.validate = .ok ())
    (hgranted : ∀ q ∈ deed.granted?, q.validate = .ok ()) (period : Duration) :
    (state.after period deed).Sane Frame.isRotation :=
  after_rule h (fun injection => by cases injection <;> exact { h with }) (fun _ _ => { h with })
    (fun c hmem => h.apply_command (haccepted c hmem) _)
    (fun q hmem => h.request_effect (hgranted q hmem))

end ArmState.Sane

/-! ## Runs -/

/-- Every state that these calls received is sane. -/
def SaneStates (calls : List Call) : Prop :=
  ∀ state ∈ calls.filterMap Call.received?, state.Sane Frame.isRotation

namespace Simulator

variable {μ α : Type}

/-- A deed leaves the arm sane, and so is what it hands out. -/
theorem Leaves.sane {s s' : Simulator} {deed : Deed} (h : s.Leaves deed s')
    (harm : s.drain.state.Sane Frame.isRotation)
    (haccepted : ∀ c ∈ deed.accepted?, c.validate = .ok ()) :
    s'.drain.state.Sane Frame.isRotation ∧
      ∀ state ∈ deed.state?, state.Sane Frame.isRotation := by
  have harm' : s'.drain.state.Sane Frame.isRotation := by
    rw [h.state]
    exact harm.after haccepted h.granted _
  refine ⟨harm', fun state hmem => ?_⟩
  rw [h.handedOut state hmem]
  exact harm'

/-- The arm is sane, and so is every state that was handed out. -/
structure Sound (t : Traced Simulator) : Prop where
  arm : t.line.drain.state.Sane Frame.isRotation
  states : SaneStates t.trace

theorem Sound.called {t : Traced Simulator} (h : Sound t) {call : Call} {line : Simulator}
    (hleaves : t.line.Leaves (.called call) line)
    (haccepted : ∀ c ∈ (Deed.called call).accepted?, c.validate = .ok ()) :
    Sound ⟨line, t.trace ++ [call]⟩ := by
  obtain ⟨harm, hstate⟩ := hleaves.sane h.arm haccepted
  refine ⟨harm, fun state hmem => ?_⟩
  rw [List.filterMap_append, List.mem_append] at hmem
  rcases hmem with hmem | hmem
  · exact h.states state hmem
  · obtain ⟨other, hother, hreceived⟩ := List.mem_filterMap.mp hmem
    obtain rfl := List.mem_singleton.mp hother
    exact hstate state hreceived

/-- Only commands that pass their check come to the controller, which checks requests itself. -/
theorem sound_lasting {d : Driver Simulator} (hlink : d.link = link) : Lasting d.traced Sound := by
  obtain ⟨l, timing, version⟩ := d
  obtain rfl : l = link := hlink
  constructor
  case inject =>
    intro injection t h
    have hleaves := t.line.inject_leaves injection
    exact ⟨(hleaves.sane h.arm (by simp [Deed.accepted?])).1, h.states⟩
  case receive =>
    intro t h
    exact h.called (t.line.receive_leaves timing.receiveTimeout) (by simp [Deed.accepted?])
  case send =>
    intro c t hvalid h
    refine h.called (t.line.send_leaves c) fun c' hmem => ?_
    obtain rfl := Deed.accepted_send hmem
    exact hvalid
  case request =>
    intro q t h
    exact h.called (t.line.request_leaves q) (by simp [Deed.accepted?])

/-- A simulator stays sane under any sender that checks its commands. -/
theorem history_sane {start s : Simulator} {deeds : List Deed}
    (hstart : start.drain.state.Sane Frame.isRotation) (h : link.History start deeds s)
    (hvalid : ∀ c ∈ acceptedCommands deeds, c.validate = .ok ()) :
    s.drain.state.Sane Frame.isRotation ∧
      ∀ state ∈ handedOut deeds, state.Sane Frame.isRotation := by
  induction h with
  | start => exact ⟨hstart, by simp [handedOut]⟩
  | @snoc deeds s s' deed _ hstep ih =>
      rw [accepted_commands_snoc] at hvalid
      rw [handed_out_snoc]
      obtain ⟨harm, hstates⟩ := ih fun c hmem => hvalid c (List.mem_append_left _ hmem)
      obtain ⟨harm', hstate⟩ := (step_leaves hstep).sane harm fun c hmem =>
        hvalid c (List.mem_append_right _ (Option.mem_toList.mpr hmem))
      refine ⟨harm', fun state hmem => ?_⟩
      rcases List.mem_append.mp hmem with hmem | hmem
      · exact hstates state hmem
      · exact hstate state (Option.mem_toList.mp hmem)

/-! ## The main theorem -/

/-- From when the arm is in a sane state, every state that a robot or a driver receives is sane,
whatever programs use the robot and whatever happens to the driver, with anything injected, sent and
requested on the way; only the translation of the end effector may come to be anything. The same
holds of everything that a simulator may go through if the commands that it accepts were checked. -/
theorem states_stay_sane (r : Robot Simulator) (hlink : r.driver.link = link) (limit : Nat)
    (s : Station Simulator μ) (hsane : s.line.state.Sane Frame.isRigid) :
    (∀ program : Program μ α, SaneStates (program.trace r limit s)) ∧
      (∀ events : List DriverEvent, SaneStates (r.driver.eventTrace events s)) ∧
      ∀ past : link.Past s.line,
        (∀ c ∈ acceptedCommands past.deeds, c.validate = .ok ()) →
        ∀ state ∈ handedOut past.deeds, state.Sane Frame.isRotation := by
  have harm : s.line.drain.state.Sane Frame.isRotation := by
    obtain ⟨controllerMode, robotMode, hstate⟩ := s.line.drain_state
    rw [hstate]
    exact { hsane.mono fun _ => Frame.rotation_of_rigid with }
  have hstart : Sound s.traced.line := ⟨harm, by simp [SaneStates, Station.traced]⟩
  have hlasting := sound_lasting hlink
  refine ⟨fun program => ?_, fun events => ?_, fun past hvalid => ?_⟩
  · exact (Lasting.program (r := r.traced) hlasting limit program s.traced hstart).states
  · exact (hlasting.driver_run events s.traced hstart).states
  · exact (history_sane harm past.history hvalid).2

/-- A command whose torques are no numbers and whose frame is none. -/
def garbage : Command where
  motion := some { mode := .cartesianPosition, frame := .replicate _ (0 / 0) }
  control := some { torque := .replicate _ (0 / 0) }

/-- Garbage that is sent does not come back. -/
theorem garbage_stays_out :
    SaneStates (robot.driver.eventTrace [.used (.send garbage), .used .receive]
      (.fresh {} () #[])) :=
  (states_stay_sane (α := Unit) robot rfl 0 (.fresh {} () #[])
    { torque := by decide +kernel
      torqueDesired := by decide +kernel
      velocityDesired := by decide +kernel
      elbow := by decide +kernel
      elbowDesired := by decide +kernel
      endEffector := by decide +kernel
      endEffectorDesired := by decide +kernel
      flangeToEndEffector := by decide +kernel
      endEffectorToStiffness := by decide +kernel }).2.1 _

end Simulator

end ArmControl
