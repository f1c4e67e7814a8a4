import ArmControl.Proofs.Robot.Anew
import ArmControl.Proofs.Simulator.Injections

/-!
# What a deed leaves behind

Whatever happens to a simulated controller changes its arm in one of a few ways. An injection sets a
mode, a state that is handed out moves the clock on, a command moves the arm, and a request that is
granted sets what it asks for; all that fails or is rejected leaves the arm alone. `ArmState.after`
says so, and `Simulator.step_leaves` shows it of every step. The arm is always looked at as the next
operation finds it, with the injections that wait taken in.
-/

namespace ArmControl

/-- A state in which commands changed something, but neither the number and the time of the state
nor what the controller was set to. -/
structure ArmState.Moved (before after : ArmState) : Prop where
  messageId : after.messageId = before.messageId
  time : after.time = before.time
  controllerMode : after.controllerMode = before.controllerMode
  flangeToEndEffector : after.flangeToEndEffector = before.flangeToEndEffector
  endEffectorToStiffness : after.endEffectorToStiffness = before.endEffectorToStiffness

namespace ArmState.Moved

theorem refl (state : ArmState) : Moved state state := ⟨rfl, rfl, rfl, rfl, rfl⟩

theorem trans {a b c : ArmState} (h : Moved a b) (h' : Moved b c) : Moved a c :=
  ⟨h'.messageId.trans h.messageId, h'.time.trans h.time, h'.controllerMode.trans h.controllerMode,
    h'.flangeToEndEffector.trans h.flangeToEndEffector,
    h'.endEffectorToStiffness.trans h.endEffectorToStiffness⟩

end ArmState.Moved

namespace Simulator

/-! ## Commands -/

theorem apply_field_moved (state : ArmState) (m : Motion) (seconds : Float) :
    state.Moved (applyField state m seconds) := by
  unfold applyField
  split <;> exact ⟨rfl, rfl, rfl, rfl, rfl⟩

theorem apply_motion_moved (state : ArmState) (m : Motion) (seconds : Float) :
    state.Moved (applyMotion state m seconds) := by
  refine (apply_field_moved state m seconds).trans ?_
  unfold applyMotion
  cases m.elbowValid <;> exact ⟨rfl, rfl, rfl, rfl, rfl⟩

theorem rest_moved (state : ArmState) : state.Moved (rest state) := ⟨rfl, rfl, rfl, rfl, rfl⟩

theorem apply_torques_moved (state : ArmState) (t : Torques) :
    state.Moved (applyTorques state t) := ⟨rfl, rfl, rfl, rfl, rfl⟩

/-- A command brings about what its motion does and what comes after keeps, if its torques keep what
the motion starts from. -/
theorem apply_command_rule {P Q : ArmState → Prop} {state : ArmState} {c : Command}
    {seconds : Float} (hstate : P state)
    (htorques : ∀ t ∈ c.control, ∀ state, P state → P (applyTorques state t))
    (hmotion : ∀ m ∈ c.motion, ∀ state, P state → Q (applyMotion state m seconds))
    (hstill : c.motion = none → ∀ state, P state → Q state)
    (hrate : ∀ state, Q state → Q { state with successRate := 1 })
    (hrest : ∀ state, Q state → Q (rest state)) : Q (applyCommand state c seconds) := by
  have hend {after : ArmState} (h : Q after) :
      Q (if c.lastCycle then rest { after with successRate := 1 }
        else { after with successRate := 1 }) := by
    cases c.lastCycle with
    | true => exact hrest _ (hrate _ h)
    | false => exact hrate _ h
  unfold applyCommand
  cases ht : c.control with
  | none =>
      cases hm : c.motion with
      | none => exact hend (hstill hm _ hstate)
      | some m => exact hend (hmotion m hm _ hstate)
  | some t =>
      have htorqued := htorques t ht _ hstate
      cases hm : c.motion with
      | none => exact hend (hstill hm _ htorqued)
      | some m => exact hend (hmotion m hm _ htorqued)

/-- Commands move the arm, and set nothing. -/
theorem apply_command_moved (state : ArmState) (c : Command) (seconds : Float) :
    state.Moved (applyCommand state c seconds) :=
  apply_command_rule (.refl state)
    (fun t _ after h => h.trans (apply_torques_moved after t))
    (fun m _ after h => h.trans (apply_motion_moved after m seconds))
    (fun _ _ h => h)
    (fun _ h => h.trans ⟨rfl, rfl, rfl, rfl, rfl⟩)
    (fun after h => h.trans (rest_moved after))

end Simulator

/-! ## Deeds -/

/-- What an injection does to the arm. -/
def Injection.effect (state : ArmState) : Injection → ArmState
  | controllerMode mode => { state with controllerMode := mode }
  | robotMode mode => { state with robotMode := mode }
  | receiveTimeout | malformedState | sendFailure | reject _ | close => state

namespace Request

/-- Whether a request of this kind sets anything when it is granted. -/
def setsSomething : Request → Bool
  | setControllerMode _ | setStiffnessFrame _ | setEndEffectorFrame _ | automaticErrorRecovery =>
      true
  | setCollisionBehavior _ | setJointImpedance _ | setCartesianImpedance _ | setGuidingMode _ _
  | setLoad _ | getCartesianLimit _ => false

/-- What a request does to the arm when it is granted. -/
def effect (state : ArmState) : Request → ArmState
  | setControllerMode mode => { state with controllerMode := mode.reported }
  | setStiffnessFrame frame => { state with endEffectorToStiffness := frame }
  | setEndEffectorFrame frame => { state with flangeToEndEffector := frame }
  | automaticErrorRecovery => { state with robotMode := .idle }
  | _ => state

theorem effect_of_sets_nothing {q : Request} (h : q.setsSomething = false) (state : ArmState) :
    q.effect state = state := by
  cases q <;> first | rfl | cases h

end Request

namespace Deed

/-- The state that was handed out. -/
def state? : Deed → Option ArmState
  | called call => call.received?
  | injected _ => none

/-- The command that was accepted. -/
def accepted? : Deed → Option Command
  | called (.send c (.value ())) => some c
  | _ => none

theorem accepted_send {c c' : Command} {answer : Answer Unit}
    (h : c' ∈ (called (.send c answer)).accepted?) : c' = c := by
  cases answer with
  | value => exact (Option.some.inj h).symm
  | failure | overflow => cases h

/-- The request that was granted. -/
def granted? : Deed → Option Request
  | called (.request q (.value (.success _))) => some q
  | _ => none

end Deed

/-- The arm after a deed, with steps of the clock of that length. -/
def ArmState.after (period : Duration) (state : ArmState) : Deed → ArmState
  | .injected injection => injection.effect state
  | .called (.receive (.value received)) =>
      { state with messageId := state.messageId + 1, time := received.time }
  | .called (.send c (.value ())) => Simulator.applyCommand state c period.toSeconds
  | .called (.request q (.value (.success _))) => q.effect state
  | .called _ => state

/-- What is shown of the arm after a deed. One that is none of these four leaves the arm alone. -/
theorem ArmState.after_rule {P : ArmState → Prop} {state : ArmState} {deed : Deed}
    {period : Duration} (hstill : P state)
    (hinjected : ∀ injection : Injection, P (injection.effect state))
    (hhanded : ∀ received ∈ deed.state?,
      P { state with messageId := state.messageId + 1, time := received.time })
    (haccepted : ∀ c ∈ deed.accepted?, P (Simulator.applyCommand state c period.toSeconds))
    (hgranted : ∀ q ∈ deed.granted?, P (q.effect state)) : P (state.after period deed) := by
  cases deed with
  | injected injection => exact hinjected injection
  | called call =>
      cases call with
      | receive answer =>
          cases answer with
          | value received => exact hhanded received rfl
          | failure | overflow => exact hstill
      | send c answer =>
          cases answer with
          | value => exact haccepted c rfl
          | failure | overflow => exact hstill
      | request q answer =>
          cases answer with
          | value response =>
              cases response with
              | success reply => exact hgranted q rfl
              | rejected reason => exact hstill
          | failure | overflow => exact hstill
      | torque | motion | predicate => exact hstill

/-! ## What was written last -/

/-- What was written last, or else what was there at first. -/
def lastWritten {β : Type} (write? : Deed → Option β) (initial : β) (deeds : List Deed) : β :=
  (deeds.filterMap write?).getLast?.getD initial

@[simp] theorem last_written_snoc {β : Type} (write? : Deed → Option β) (initial : β)
    (deeds : List Deed) (deed : Deed) :
    lastWritten write? initial (deeds ++ [deed]) =
      (write? deed).getD (lastWritten write? initial deeds) := by
  unfold lastWritten
  cases h : write? deed <;> simp [List.filterMap_append, h]

theorem last_written_of_none {β : Type} {write? : Deed → Option β} {initial : β}
    {deeds : List Deed} (h : ∀ deed ∈ deeds, write? deed = none) :
    lastWritten write? initial deeds = initial := by
  rw [lastWritten, List.filterMap_eq_nil_iff.mpr h]
  rfl

/-- A part of the arm that changes only by what is written to it. -/
structure ArmState.Written {β : Type} (part : ArmState → β) (write? : Deed → Option β) : Prop where
  after : ∀ period state deed,
    part (ArmState.after period state deed) = (write? deed).getD (part state)
  /-- A state that is handed out writes nothing. -/
  shown : ∀ state, write? (.called (.receive (.value state))) = none

/-! ## What is left -/

/-- The record after a deed. A request is recorded when it is answered, however it is. -/
def LinkRecord.after (record : LinkRecord) : Deed → LinkRecord
  | .called (.receive (.value _)) => record.addState
  | .called (.send c (.value ())) => record.addCommand c
  | .called (.request q (.value _)) => record.addRequest q
  | _ => record

namespace Simulator

/-- What a deed leaves behind when it led from one simulator to the other. -/
structure Leaves (s : Simulator) (deed : Deed) (s' : Simulator) : Prop where
  state : s'.drain.state = s.drain.state.after s.period deed
  period : s'.period = s.period
  walls : s'.walls = s.walls
  record : s'.record = s.record.after deed
  /-- What is handed out is the state that the simulator is in. -/
  handedOut : ∀ state ∈ deed.state?, state = s'.drain.state
  clock : ∀ state ∈ deed.state?, s.drain.state.time.add? s.period = some state.time
  /-- What is granted has passed its check. -/
  granted : ∀ q ∈ deed.granted?, q.validate = .ok ()

variable (s : Simulator)

theorem drain_period : s.drain.period = s.period :=
  drain_keeps Simulator.period (fun _ i => by cases i <;> rfl) (fun _ => rfl) s

theorem drain_walls : s.drain.walls = s.walls :=
  drain_keeps Simulator.walls (fun _ i => by cases i <;> rfl) (fun _ => rfl) s

theorem absorb_state (i : Injection) : (s.absorb i).state = i.effect s.state := by
  cases i <;> rfl

/-- An operation takes in what waits, and then this is what it leaves. -/
theorem Leaves.of_drained {s s' : Simulator} {deed : Deed} (hqueue : s'.queue = #[])
    (hstate : s'.state = s.drain.state.after s.period deed) (hperiod : s'.period = s.drain.period)
    (hwalls : s'.walls = s.drain.walls) (hrecord : s'.record = s.drain.record.after deed)
    (hhanded : ∀ state ∈ deed.state?,
      state = s'.state ∧ s.drain.state.time.add? s.period = some state.time)
    (hgranted : ∀ q ∈ deed.granted?, q.validate = .ok ()) : s.Leaves deed s' := by
  have hdrain : s'.drain = s' := drain_of_empty hqueue
  exact
    { state := by rw [hdrain, hstate]
      period := by rw [hperiod, s.drain_period]
      walls := by rw [hwalls, s.drain_walls]
      record := by rw [hrecord, s.drain_record]
      handedOut := fun state hmem => by rw [hdrain, (hhanded state hmem).1]
      clock := fun state hmem => (hhanded state hmem).2
      granted := hgranted }

/-- An operation that handed out nothing and granted nothing. -/
theorem Leaves.of_quiet {s s' : Simulator} {deed : Deed} (hqueue : s'.queue = #[])
    (hstate : s'.state = s.drain.state.after s.period deed) (hperiod : s'.period = s.drain.period)
    (hwalls : s'.walls = s.drain.walls) (hrecord : s'.record = s.drain.record.after deed)
    (hhanded : deed.state? = none) (hgranted : deed.granted? = none) : s.Leaves deed s' :=
  .of_drained hqueue hstate hperiod hwalls hrecord (by simp [hhanded]) (by simp [hgranted])

theorem inject_leaves (i : Injection) : s.Leaves (.injected i) (s.inject i) where
  state := by rw [drain_inject, absorb_state]; rfl
  period := rfl
  walls := rfl
  record := rfl
  handedOut := by simp [Deed.state?]
  clock := by simp [Deed.state?]
  granted := by simp [Deed.granted?]

theorem receive_leaves (timeout : Duration) :
    s.Leaves (.called (.receive (s.receive timeout).answer)) (s.receive timeout).line := by
  cases hopen : s.pending.closed with
  | true =>
      rw [receive_closed hopen]
      exact .of_quiet rfl rfl rfl rfl rfl rfl rfl
  | false =>
      rcases Nat.eq_zero_or_pos s.pending.timeouts with htimeouts | htimeouts
      · rcases Nat.eq_zero_or_pos s.pending.malformed with hmalformed | hmalformed
        · rw [receive_undisturbed hopen htimeouts hmalformed]
          cases htime : s.drain.state.time.add? s.drain.period with
          | none => exact .of_quiet rfl rfl rfl rfl rfl rfl rfl
          | some time =>
              refine .of_drained rfl rfl rfl rfl rfl ?_ (by simp [Deed.granted?])
              intro state hmem
              obtain rfl : s.advanced time = state := by
                simpa [Deed.state?, Call.received?] using hmem
              exact ⟨rfl, s.drain_period ▸ htime⟩
        · rw [receive_damaged hopen htimeouts hmalformed]
          exact .of_quiet rfl rfl rfl rfl rfl rfl rfl
      · rw [receive_silent hopen htimeouts]
        exact .of_quiet rfl rfl rfl rfl rfl rfl rfl

theorem send_leaves (c : Command) :
    s.Leaves (.called (.send c (s.send c).answer)) (s.send c).line := by
  cases hopen : s.pending.closed with
  | true =>
      rw [send_closed hopen]
      exact .of_quiet rfl rfl rfl rfl rfl rfl rfl
  | false =>
      rcases Nat.eq_zero_or_pos s.pending.sendFailures with hfailures | hfailures
      · rw [send_undisturbed hopen hfailures]
        refine .of_quiet rfl ?_ rfl rfl rfl rfl rfl
        show applyCommand s.drain.state c s.drain.period.toSeconds =
          applyCommand s.drain.state c s.period.toSeconds
        rw [s.drain_period]
      · rw [send_failed hopen hfailures]
        exact .of_quiet rfl rfl rfl rfl rfl rfl rfl

/-- The controller itself grants a request that passes its check, or else changes nothing. -/
theorem decided_spec (q : Request) :
    match (s.decided q).2 with
    | .success _ => q.validate = .ok () ∧ (s.decided q).1 = q.effect s.drain.state
    | .rejected _ => (s.decided q).1 = s.drain.state := by
  unfold decided
  cases hvalid : q.validate with
  | error error => rfl
  | ok =>
      cases q with
      | automaticErrorRecovery =>
          dsimp only [perform]
          cases s.drain.state.requiresRecovery with
          | true => exact ⟨rfl, rfl⟩
          | false => rfl
      | _ => exact ⟨rfl, rfl⟩

theorem request_leaves (q : Request) :
    s.Leaves (.called (.request q (s.request q).answer)) (s.request q).line := by
  cases hopen : s.pending.closed with
  | true =>
      rw [request_closed hopen]
      exact .of_quiet rfl rfl rfl rfl rfl rfl rfl
  | false =>
      cases hrejections : s.pending.rejections with
      | cons reason rest =>
          rw [request_rejected hopen hrejections]
          exact .of_quiet rfl rfl rfl rfl rfl rfl rfl
      | nil =>
          have hdecided := s.decided_spec q
          rw [request_undisturbed hopen hrejections]
          cases hresponse : (s.decided q).2 with
          | success reply =>
              rw [hresponse] at hdecided
              refine .of_drained rfl hdecided.2 rfl rfl rfl (by simp [Deed.state?, Call.received?])
                fun q' hmem => ?_
              obtain rfl : q = q' := by simpa [Deed.granted?] using hmem
              exact hdecided.1
          | rejected reason =>
              rw [hresponse] at hdecided
              exact .of_quiet rfl hdecided rfl rfl rfl rfl rfl

variable {s} {s' : Simulator} {deed : Deed}

/-- Every deed leaves behind what it should. -/
theorem step_leaves (h : Simulator.link.Step s deed s') : s.Leaves deed s' := by
  cases h with
  | inject injection => exact s.inject_leaves injection
  | receive timeout => exact s.receive_leaves timeout
  | send c => exact s.send_leaves c
  | request q timeout => exact s.request_leaves q
  | callback call hcall =>
      cases call with
      | receive | send | request => cases hcall
      | torque | motion | predicate =>
          exact ⟨rfl, rfl, rfl, rfl, by simp [Deed.state?, Call.received?],
            by simp [Deed.state?, Call.received?], by simp [Deed.granted?]⟩

end Simulator

namespace ArmState.Written

variable {β : Type} {part : ArmState → β} {write? : Deed → Option β} {start s : Simulator}

/-- It is in the simulator as it was written last. -/
theorem history (h : Written part write?) {deeds : List Deed}
    (hhistory : Simulator.link.History start deeds s) :
    part s.drain.state = lastWritten write? (part start.drain.state) deeds := by
  induction hhistory with
  | start => rfl
  | snoc _ hstep ih =>
      rw [(Simulator.step_leaves hstep).state, h.after, ih, last_written_snoc]

/-- A state that is handed out shows it as it was written last before. -/
theorem handed_out (h : Written part write?) {earlier later : List Deed} {state : ArmState}
    (hhistory :
      Simulator.link.History start (earlier ++ .called (.receive (.value state)) :: later) s) :
    part state = lastWritten write? (part start.drain.state) earlier := by
  obtain ⟨before, after, hearlier, hstep, -⟩ := hhistory.visits
  have hleaves := Simulator.step_leaves hstep
  rw [hleaves.handedOut state rfl, hleaves.state, h.after, h.shown, h.history hearlier]
  rfl

end ArmState.Written

end ArmControl
