import ArmControl.Proofs.Robot.Limit
import ArmControl.Proofs.Simulator.Calm

/-!
# Sessions on a calm simulator

On a simulated controller that nobody disturbs, a control session does what it was started for.
`sessions_complete` is the main theorem: whatever the callbacks compute, as long as their outputs
pass their checks, the session ends well after as many cycles as the slower callback takes and one
more. Its hypotheses are those of `Scheduled`, and what comes of the session is `Plan.Fulfilled`.
-/

namespace ArmControl

variable {σ μ α : Type}

namespace RobotUse

universe u

variable {τ ι κ : Type u}

/-- The state once the mode that the use asks for was entered. -/
def entered (use : RobotUse τ ι κ α) (state : ArmState) : ArmState :=
  match use.mode? with
  | some mode => { state with controllerMode := mode.reported }
  | none => state

/-- A control session whose callbacks are to be called so often, one that is absent not at all. -/
inductive Calls : RobotUse τ ι κ Unit → (torque motion : Nat) → Prop
  | torques (callback : τ) {n : Nat} : 0 < n → Calls (controlTorques callback) n 0
  | both (callback : τ) (callback' : ι) {n m : Nat} :
      0 < n → 0 < m → Calls (controlTorquesWithMotion callback callback') n m
  | motion (callback : ι) (mode : ControllerMode) {m : Nat} :
      0 < m → Calls (controlMotion callback mode) 0 m

end RobotUse

/-- What is planned when a robot over a simulator is used like this, with callbacks that finish at
these calls. -/
def Simulator.plan (r : Robot Simulator) (use : ProgramUse μ α) (line : Simulator)
    (torque motion : Nat) : Plan where
  torque := torque
  motion := motion
  origin := use.entered line.state
  step := line.period
  nominal := r.driver.timing.controlPeriod

/-- A control session that may run, on a calm simulator, that finds time enough for all its states,
is followed far enough, and has callbacks that inject nothing, give valid outputs, and finish at
these calls. -/
structure Scheduled (r : Robot Simulator) (limit : Nat) (use : ProgramUse μ Unit)
    (torque motion : Nat) (s : Station Simulator μ) : Prop where
  link : r.driver.link = Simulator.link
  priority : r.MayControl
  calm : s.line.Calm
  calls : use.Calls torque motion
  feasible : (Simulator.plan r use s.line torque motion).Feasible
  followed : max torque motion ≤ limit
  peaceful : use.Each Program.Peaceful
  torques : FinishesAt Torques.validate torque ((use.trace r limit s).filterMap Call.torque?)
  motions : FinishesAt Target.validate motion ((use.trace r limit s).filterMap Call.motion?)

/-! ## Conducts that go to plan -/

theorem Enforcement.suits_implied (settings : Settings) (mode : ReportedMode) :
    (if settings.enforceImpliedMode then Enforcement.implied else .unenforced).Suits mode := by
  cases settings.enforceImpliedMode with
  | false => exact fun _ _ _ hexpected => nomatch hexpected
  | true =>
      intro states hstates expected hexpected
      cases states with
      | nil => cases hexpected
      | cons first rest =>
          obtain rfl : first.controllerMode = expected := Option.some.inj hexpected
          exact (hstates first (by simp)).symm

theorem Enforcement.suits_requested (mode : ControllerMode) :
    (Enforcement.requested mode).Suits mode.reported := by
  intro states _ expected hexpected
  cases hexpected
  rfl

section Conduct

variable {r : Robot σ} {plan : Plan} {enforcement : Enforcement} {calls : List Call}

/-- A control session that goes to plan ends well. -/
theorem ProgramUse.ControlConduct.fulfilled {withTorque withMotion : Bool}
    {outcome : Except Ending Unit}
    (h : ControlConduct r enforcement.supervisor withTorque withMotion calls outcome)
    (htorque : withTorque = decide (0 < plan.torque))
    (hmotion : withMotion = decide (0 < plan.motion))
    (hnominal : r.driver.timing.controlPeriod = plan.nominal)
    (hbegun : 0 < plan.cycles) (hplan : plan.Feasible)
    (hsuits : enforcement.Suits plan.origin.controllerMode) (hcalls : plan.Undisturbed calls)
    (hended : outcome = .error (.halt .unfinished) →
      plan.cycles ≤ calls.countP Call.isAccepted) :
    outcome = .ok () ∧ plan.Fulfilled calls := by
  subst htorque hmotion
  obtain ⟨hcourse⟩ := h
  next courseOutcome =>
    rw [hnominal] at hcourse
    have hended' : courseOutcome = .error (.halt .unfinished) →
        plan.cycles ≤ calls.countP Call.isAccepted := fun h => hended (by rw [h]; rfl)
    obtain ⟨houtcome, hfulfilled⟩ :=
      Control.Course.fulfilled hbegun hplan hsuits hcourse hcalls hended'
    exact ⟨by rw [houtcome]; rfl, hfulfilled⟩

/-- A request before a session changes nothing about its plan. -/
theorem Plan.Fulfilled.request (h : plan.Fulfilled calls) (q : Request)
    (answer : Answer Response) : plan.Fulfilled (.request q answer :: calls) :=
  ⟨h.waited, h.received, h.regular, h.accepted, h.torque, h.motion⟩

end Conduct

/-- A simulator that ran along, with callbacks that give what is planned. -/
theorem Simulator.Running.undisturbed {start s : Simulator} {calls : List Call} {plan : Plan}
    (h : Running start calls s) (horigin : plan.origin = start.state)
    (hstep : plan.step = start.period)
    (htorque : FinishesAt Torques.validate plan.torque (calls.filterMap Call.torque?))
    (hmotion : FinishesAt Target.validate plan.motion (calls.filterMap Call.motion?)) :
    plan.Undisturbed calls := by
  refine ⟨?_, ?_, h.accepted, htorque, hmotion⟩
  · rw [horigin, hstep]
    exact h.regular
  · rw [horigin, hstep]
    exact h.answered

namespace Scheduled

variable {r : Robot Simulator} {limit : Nat} {use : ProgramUse μ Unit} {torque motion : Nat}
  {s : Station Simulator μ} {outcome : Except Ending Unit} {withTorque withMotion : Bool}

theorem begun (h : Scheduled r limit use torque motion s) :
    0 < (Simulator.plan r use s.line torque motion).cycles := by
  show 0 < max torque motion
  cases h.calls <;> omega

theorem is_control (h : Scheduled r limit use torque motion s) : use.isControl = true := by
  cases h.calls <;> rfl

/-- What the line of the session went through. -/
theorem history (h : Scheduled r limit use torque motion s) :
    ∃ line, Simulator.link.History s.line ((use.trace r limit s).map .called) line := by
  have hhistory := use_history r limit h.peaceful s
  rw [h.link] at hhistory
  exact ⟨_, hhistory⟩

/-- A session in the mode that the robot is in. -/
theorem implied_fulfilled (h : Scheduled r limit use torque motion s)
    (hconduct : Prioritised r (ProgramUse.ControlConduct r
      r.settings.impliedSupervisor withTorque withMotion) (use.trace r limit s) outcome)
    (htorque : withTorque = decide (0 < torque)) (hmotion : withMotion = decide (0 < motion))
    (hmode : use.mode? = none)
    (hended : outcome = .error (.halt .unfinished) →
      max torque motion ≤ (use.trace r limit s).countP Call.isAccepted) :
    outcome = .ok () ∧
      (Simulator.plan r use s.line torque motion).Fulfilled (use.trace r limit s) := by
  have horigin : use.entered s.line.state = s.line.state := by
    rw [RobotUse.entered, hmode]
  obtain ⟨line, hhistory⟩ := h.history
  have htorques := h.torques
  have hmotions := h.motions
  generalize use.trace r limit s = calls at *
  cases hconduct with
  | refused henforce hfailed => exact absurd h.priority (Robot.not_may_control henforce hfailed)
  | allowed _ hcontrol =>
      rw [implied_supervisor] at hcontrol
      have hrequestless : ∀ call ∈ calls, call.isRequest = false := by
        obtain ⟨hcourse⟩ := hcontrol
        exact hcourse.requestless
      have hrunning := Simulator.Running.of_history h.calm hhistory hrequestless
      exact hcontrol.fulfilled htorque hmotion rfl h.begun h.feasible
        (Enforcement.suits_implied _ _)
        (hrunning.undisturbed horigin rfl htorques hmotions) hended

/-- A session in a mode that is requested first. -/
theorem requested_fulfilled (h : Scheduled r limit use torque motion s) {mode : ControllerMode}
    (hconduct : Prioritised r (Moded mode (ProgramUse.ControlConduct r
      (.forMode mode) withTorque withMotion)) (use.trace r limit s) outcome)
    (htorque : withTorque = decide (0 < torque)) (hmotion : withMotion = decide (0 < motion))
    (hmode : use.mode? = some mode)
    (hended : outcome = .error (.halt .unfinished) →
      max torque motion ≤ (use.trace r limit s).countP Call.isAccepted) :
    outcome = .ok () ∧
      (Simulator.plan r use s.line torque motion).Fulfilled (use.trace r limit s) := by
  have horigin : use.entered s.line.state =
      { s.line.state with controllerMode := mode.reported } := by
    rw [RobotUse.entered, hmode]
  obtain ⟨line, hhistory⟩ := h.history
  have htorques := h.torques
  have hmotions := h.motions
  generalize use.trace r limit s = calls at *
  cases hconduct with
  | refused henforce hfailed => exact absurd h.priority (Robot.not_may_control henforce hfailed)
  | allowed _ hmoded =>
      cases hmoded with
      | refused answer hanswer =>
          have hstep := Link.History.single hhistory
          obtain ⟨rfl, -⟩ := h.calm.entered hstep
          cases hanswer
      | @entered reply calls _ hcontrol =>
          have hcontrol : ProgramUse.ControlConduct r (Enforcement.requested mode).supervisor
            withTorque withMotion calls outcome := hcontrol
          have hrequestless : ∀ call ∈ calls, call.isRequest = false := by
            obtain ⟨hcourse⟩ := hcontrol
            exact hcourse.requestless
          have hsplit : Simulator.link.History s.line
              ([Call.request (.setControllerMode mode) (.value (.success reply))].map Deed.called ++
                calls.map .called) line := hhistory
          obtain ⟨middle, hfirst, hrest⟩ := hsplit.split
          obtain ⟨-, hcalm, hperiod, hstate⟩ := h.calm.entered (Link.History.single hfirst)
          have hrunning := Simulator.Running.of_history hcalm hrest hrequestless
          have hundisturbed : (Simulator.plan r use s.line torque motion).Undisturbed calls :=
            hrunning.undisturbed (horigin.trans hstate.symm) hperiod.symm htorques hmotions
          have hsuits : (Enforcement.requested mode).Suits
              (Simulator.plan r use s.line torque motion).origin.controllerMode := by
            show Enforcement.Suits _ (use.entered s.line.state).controllerMode
            rw [horigin]
            exact Enforcement.suits_requested mode
          have hended' : outcome = .error (.halt .unfinished) →
              max torque motion ≤ calls.countP Call.isAccepted := fun h => hended h
          obtain ⟨houtcome, hfulfilled⟩ := hcontrol.fulfilled htorque hmotion rfl h.begun h.feasible
            hsuits hundisturbed hended'
          exact ⟨houtcome, hfulfilled.request _ _⟩

end Scheduled

/-- A scheduled session ends well. As many states come and as many commands are accepted as the
slower callback is called, and one more of each; the states have consecutive numbers and come one
step after another; and each callback is called as often as it takes, in cycles of the nominal
length at first and of one step from then on. -/
theorem sessions_complete (r : Robot Simulator) (limit : Nat) (use : ProgramUse μ Unit)
    (torque motion : Nat) (s : Vacant Simulator μ)
    (h : Scheduled r limit use torque motion s.station) :
    (∃ s', use.run r limit s.station = .ok (.ok ()) s') ∧
      (Simulator.plan r use s.station.line torque motion).Fulfilled
        (use.trace r limit s.station) := by
  obtain ⟨outcome, s', hconduct, hrun⟩ := use_conduct r limit use s
  have hended : outcome = .error (.halt .unfinished) →
      max torque motion ≤ (use.trace r limit s.station).countP Call.isAccepted := by
    rintro rfl
    exact Nat.le_trans h.followed (use_exhausts r limit use h.is_control s hrun)
  have hfulfilled : outcome = .ok () ∧ (Simulator.plan r use s.station.line torque
      motion).Fulfilled (use.trace r limit s.station) := by
    cases h.calls with
    | torques callback htorque =>
        exact h.implied_fulfilled hconduct (by simpa using htorque) (by simp) rfl hended
    | both callback callback' htorque hmotion =>
        exact h.implied_fulfilled hconduct (by simpa using htorque) (by simpa using hmotion) rfl
          hended
    | motion callback mode hmotion =>
        exact h.requested_fulfilled hconduct (by simp) (by simpa using hmotion) rfl hended
  refine ⟨⟨s', ?_⟩, hfulfilled.2⟩
  rw [hrun, hfulfilled.1]
  rfl

/-- A robot over a simulator, which does without real-time priority. -/
def Simulator.robot : Robot Simulator :=
  { driver := ⟨Simulator.link, {}, 5⟩, settings := { realtime := .ignore } }

/-- Holds the arm still, with torques for two cycles and with a motion that is done in the first. -/
def ProgramUse.holdStill : ProgramUse Nat Unit :=
  .controlTorquesWithMotion
    (fun _ _ => .recollect fun count => .remember (count + 1) <| .done <| .ok <|
      if count = 0 then .continue {} else .finished {})
    fun _ _ => .done (.ok (.finished (.jointVelocities (.replicate _ 0))))

/-- Holding the arm still takes two ordinary cycles. -/
theorem hold_still_completes :
    (∃ s', ProgramUse.holdStill.run Simulator.robot 2 (.fresh {} 0 #[]) = .ok (.ok ()) s') ∧
      (Simulator.plan Simulator.robot ProgramUse.holdStill {} 2 1).Fulfilled
        (ProgramUse.holdStill.trace Simulator.robot 2 (.fresh {} 0 #[])) :=
  sessions_complete Simulator.robot 2 ProgramUse.holdStill 2 1 ⟨.fresh {} 0 #[], rfl⟩
    { link := rfl
      priority := .inl rfl
      calm := ⟨rfl, rfl⟩
      calls := .both _ _ (by decide) (by decide)
      feasible := ⟨by decide, by decide, by decide⟩
      followed := by decide
      peaceful := ⟨fun _ _ => .recollect fun _ => .remember _ (.done _), fun _ _ => .done _⟩
      torques := by decide +kernel
      motions := by decide +kernel }

end ArmControl
