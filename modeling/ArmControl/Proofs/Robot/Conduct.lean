import ArmControl.Proofs.Control.Adherence

/-!
# The conduct of a call

`ProgramUse.Conduct` says of each way to use a robot which calls it makes and how it then ends. As
`Course` does for the loop of a control session, it knows nothing of the line, the log or the
counters, and goes from each answer to the next call. Read `use_conduct` first: whenever no session
has the driver, a use of the robot is conducted so.
-/

namespace ArmControl

variable {σ μ α β : Type}

/-! ## Reading -/

namespace Reading

/-- The calls of a reading session that goes on after a cycle, and its outcome. -/
inductive Course : Supervisor → Nat → List Call → Except Ending Nat → Prop
  | unfinished (supervisor : Supervisor) (cycle : Nat) :
      Course supervisor cycle [] (.error (.halt .unfinished))
  | unanswered {supervisor : Supervisor} {cycle : Nat} (answer : Answer ArmState) {e : Ending} :
      answer.outcome = .error e → Course supervisor cycle [.receive answer] (.error e)
  | mismatched {supervisor : Supervisor} {cycle : Nat} (state : ArmState) {fault : ModeMismatch} :
      (supervisor.observe state.controllerMode (cycle + 1)).verdict = .error fault →
      Course supervisor cycle [.receive (.value state)] (.error (.fault (.control fault)))
  | stopped {supervisor : Supervisor} {cycle : Nat} (state : ArmState) :
      (supervisor.observe state.controllerMode (cycle + 1)).verdict = .ok () →
      Course supervisor cycle [.receive (.value state), .predicate state false] (.ok (cycle + 1))
  | wentOn {supervisor : Supervisor} {cycle : Nat} (state : ArmState) {calls : List Call}
      {outcome : Except Ending Nat} :
      (supervisor.observe state.controllerMode (cycle + 1)).verdict = .ok () →
      Course (supervisor.observe state.controllerMode (cycle + 1)).supervisor (cycle + 1) calls
        outcome →
      Course supervisor cycle (.receive (.value state) :: .predicate state true :: calls) outcome

/-- A reading session takes its course. -/
theorem follows_states (d : Driver σ) {keepOn : ArmState → Task (Traced σ) μ Bool}
    (hkeep : ∀ state, Noted (.predicate state) (keepOn state)) (limit : Nat)
    (supervisor : Supervisor) (cycle : Nat) :
    Follows (states d.traced keepOn limit supervisor cycle) (Course supervisor cycle) := by
  induction limit generalizing supervisor cycle with
  | zero => exact .halt (.unfinished supervisor cycle)
  | succ limit ih =>
      refine .bind (follows_receive d) ?_ fun calls e hreceived => ?_
      · intro calls state hreceived
        obtain ⟨answer, rfl, hanswer⟩ := hreceived
        cases answer with
        | failure | overflow => cases hanswer
        | value a =>
            cases hanswer
            refine .bind (follows_watch supervisor state (cycle + 1)) ?_ fun calls e hwatched => ?_
            · intro calls next hwatched
              obtain ⟨rfl, houtcome⟩ := hwatched
              split at houtcome
              next hverdict =>
                obtain rfl := Except.ok.inj houtcome
                refine .bind (follows_noted (hkeep state)) ?_ fun calls e hnoted => ?_
                · intro calls goOn hnoted
                  obtain ⟨_, rfl, hanswer⟩ := hnoted
                  obtain rfl := Except.ok.inj hanswer
                  cases goOn with
                  | true =>
                      exact .mono (ih _ (cycle + 1)) fun _ _ hcourse =>
                        .wentOn state hverdict hcourse
                  | false => exact .after (.report _) (.pure (.stopped state hverdict))
                · -- A predicate has no other way to end.
                  obtain ⟨goOn, _, hanswer⟩ := hnoted
                  cases hanswer
              next => cases houtcome
            · obtain ⟨rfl, houtcome⟩ := hwatched
              split at houtcome
              next => cases houtcome
              next fault hverdict =>
                cases houtcome
                exact .mismatched state hverdict
      · obtain ⟨answer, rfl, hanswer⟩ := hreceived
        exact .unanswered answer hanswer.symm

end Reading

/-! ## Ways to go about a call -/

/-- Control sessions may run, with real-time priority or without it. -/
def Robot.MayControl (r : Robot σ) : Prop := r.settings.realtime = .ignore ∨ r.priority = .ok ()

/-- First the attempt at real-time priority is made, and all ends there when it fails although
priority is a must. -/
inductive Prioritised (r : Robot σ) (P : List Call → Except Ending α → Prop) :
    List Call → Except Ending α → Prop
  | refused {reason : String} :
      r.settings.realtime = .enforce → r.priority = .error reason →
      Prioritised r P [] (.error (.fault (.realtime reason)))
  | allowed {calls : List Call} {outcome : Except Ending α} :
      r.MayControl → P calls outcome → Prioritised r P calls outcome

/-- A request is checked and then made. -/
inductive Dispatched (q : Request) : List Call → Except Ending Reply → Prop
  | refused {error : ValueError} :
      q.validate = .error error → Dispatched q [] (.error (.fault (.ofValue error)))
  | made (answer : Answer Response) :
      q.validate = .ok () → Dispatched q [.request q answer] (answer.settled q.settle)

/-- First a controller mode is requested, and all goes on only when the controller has entered
it. -/
inductive Moded (mode : ControllerMode) (P : List Call → Except Ending α → Prop) :
    List Call → Except Ending α → Prop
  | refused (answer : Answer Response) {e : Ending} :
      answer.settled (Request.setControllerMode mode).settle = .error e →
      Moded mode P [.request (.setControllerMode mode) answer] (.error e)
  | entered (reply : Reply) {calls : List Call} {outcome : Except Ending α} :
      P calls outcome →
      Moded mode P (.request (.setControllerMode mode) (.value (.success reply)) :: calls) outcome

/-- A loop is run, and the number of its cycles is not told. -/
inductive Concluded (P : List Call → Except Ending Nat → Prop) :
    List Call → Except Ending Unit → Prop
  | of {calls : List Call} {outcome : Except Ending Nat} :
      P calls outcome → Concluded P calls (outcome.map fun _ => ())

/-- No control session runs when the attempt at real-time priority fails and priority is a must. -/
theorem Robot.not_may_control {r : Robot σ} {reason : String}
    (henforce : r.settings.realtime = .enforce) (hfailed : r.priority = .error reason) :
    ¬ r.MayControl := by
  rintro (hignore | hraised)
  · cases henforce.symm.trans hignore
  · cases hfailed.symm.trans hraised

/-- The attempt at real-time priority makes no call, and lets a session go on where one may run. -/
theorem returns_apply (r : Robot σ) :
    (r.MayControl ∧
      Returns (σ := σ) (μ := μ) (r.settings.realtime.apply r.priority) (.ok ())) ∨
      ∃ reason, r.settings.realtime = .enforce ∧ r.priority = .error reason ∧
        Returns (σ := σ) (μ := μ) (r.settings.realtime.apply r.priority)
          (.error (.realtime reason)) := by
  unfold Robot.MayControl
  cases r.priority with
  | ok => exact .inl ⟨.inr rfl, .bind (.report _) (.pure _)⟩
  | error reason =>
      cases r.settings.realtime with
      | enforce => exact .inr ⟨reason, rfl, rfl, .pure _⟩
      | ignore => exact .inl ⟨.inl rfl, .bind (.report _) (.pure _)⟩

/-- A session that is announced before it goes on. -/
theorem follows_announce (r : Robot σ) (kind : SessionKind) {m : Guarded (Traced σ) μ α}
    {P : List Call → Except Ending α → Prop} (hm : Follows m P) :
    Follows (r.traced.announce kind >>= fun _ => m) (Prioritised r P) := by
  unfold Robot.announce
  rw [bind_assoc]
  obtain ⟨hmay, hreturns⟩ | ⟨reason, henforce, hfailed, hreturns⟩ := returns_apply (μ := μ) r
  · refine .bind (follows_driver hreturns) (fun calls _ happlied => ?_) fun calls e happlied => ?_
    · obtain ⟨rfl, -⟩ := happlied
      exact .after (.report _) (hm.mono fun _ _ hp => .allowed hmay hp)
    · cases happlied.2
  · refine .bind (follows_driver hreturns) (fun calls _ happlied => ?_) fun calls e happlied => ?_
    · cases happlied.2
    · obtain ⟨rfl, houtcome⟩ := happlied
      cases houtcome
      exact .refused henforce hfailed

/-- A request is made when it passes its check. -/
theorem follows_dispatch (r : Robot σ) (q : Request) :
    Follows (μ := μ) (r.traced.dispatch q) (Dispatched q) := by
  unfold Robot.dispatch
  cases hvalid : q.validate with
  | error error => exact .fail rfl rfl (.refused hvalid)
  | ok =>
      refine (follows_execute r.driver q).mono fun calls outcome h => ?_
      obtain ⟨answer, rfl, rfl⟩ := h
      exact .made answer hvalid

/-- A request that the controller granted. -/
theorem Answer.settled_granted {q : Request} {answer : Answer Response} {reply : Reply}
    (h : Except.ok reply = answer.settled q.settle) : answer = .value (.success reply) := by
  cases answer with
  | failure error => cases h
  | overflow => cases h
  | value response =>
      cases response with
      | success reply' =>
          cases h
          rfl
      | rejected reason => cases h

/-- A session that requests its mode before it goes on. -/
theorem follows_request_mode (r : Robot σ) (mode : ControllerMode)
    {f : Supervisor → Guarded (Traced σ) μ α} {P : List Call → Except Ending α → Prop}
    (hf : Follows (f (.forMode mode)) P) :
    Follows (r.traced.requestMode mode >>= f) (Moded mode P) := by
  unfold Robot.requestMode
  rw [bind_assoc]
  refine .bind (follows_dispatch r _) (fun calls reply hmade => ?_) fun calls e hmade => ?_
  · generalize houtcome : (Except.ok reply : Except Ending Reply) = outcome at hmade
    cases hmade with
    | refused _ => cases houtcome
    | made answer _ =>
        obtain rfl := Answer.settled_granted houtcome
        rw [bind_assoc]
        refine .after (.report_all _) ?_
        rw [pure_bind]
        exact hf.mono fun _ _ hp => .entered reply hp
  · generalize houtcome : (Except.error e : Except Ending Reply) = outcome at hmade
    cases hmade with
    | refused hinvalid => cases hinvalid
    | made answer _ => exact .refused answer houtcome.symm

/-- A session that reports how its loop ended. -/
theorem follows_conclude (kind : SessionKind) {loop : Guarded (Traced σ) μ Nat}
    {P : List Call → Except Ending Nat → Prop} (hloop : Follows loop P) :
    Follows (Robot.conclude kind loop) (Concluded P) := by
  intro s hheld
  obtain ⟨calls, outcome, s', hrun, hp, hshows⟩ := hloop s hheld
  have hreported (event : Event) (e : Option Ending) (h : Shows s calls e s') :
      Shows s calls e { s' with journal := s'.journal.push event } :=
    ⟨h.trace, h.held, h.controlFaults, h.numericFaults⟩
  cases outcome with
  | ok n => exact ⟨calls, .ok (), _, bind_of_ok hrun, .of hp, hreported _ _ hshows⟩
  | error e =>
      cases e with
      | fault error =>
          exact ⟨calls, .error (.fault error), _, bind_of_ok hrun, .of hp, hreported _ _ hshows⟩
      | halt cause => exact ⟨calls, .error (.halt cause), s', bind_of_error hrun, .of hp, hshows⟩

/-! ## Uses -/

namespace ProgramUse

/-- The calls of a control session that begins with this supervisor, and its outcome. -/
def ControlConduct (r : Robot σ) (supervisor : Supervisor) (withTorque withMotion : Bool) :
    List Call → Except Ending Unit → Prop :=
  Concluded (Control.Course withTorque withMotion
    (.opening supervisor r.driver.timing.controlPeriod withTorque withMotion))

/-- The calls of a use of the robot, and its outcome. -/
def Conduct (r : Robot σ) : {α : Type} → ProgramUse μ α → List Call → Except Ending α → Prop
  | _, .controlTorques _ =>
      Prioritised r (ControlConduct r r.settings.impliedSupervisor true false)
  | _, .controlTorquesWithMotion _ _ =>
      Prioritised r (ControlConduct r r.settings.impliedSupervisor true true)
  | _, .controlMotion _ mode =>
      Prioritised r (Moded mode (ControlConduct r (.forMode mode) false true))
  | _, .read none _ => Concluded (Reading.Course .unenforced 0)
  | _, .read (some mode) _ => Moded mode (Concluded (Reading.Course (.forMode mode) 0))
  | _, .readOnce => fun calls outcome =>
      ∃ answer, calls = [.receive answer] ∧ outcome = answer.outcome
  | _, .execute q => Dispatched q

end ProgramUse

/-! ## Sessions -/

/-- A station whose driver no session has. -/
structure Vacant (σ μ : Type) where
  station : Station σ μ
  held : station.held = false

/-- What is done within a session is what the session does. -/
theorem hold_follows (kind : SessionKind) {m : Guarded (Traced σ) μ α}
    {P : List Call → Except Ending α → Prop} (hm : Follows m P) {s : Station (Traced σ) μ}
    (hfree : s.held = false) :
    ∃ calls outcome s', Session.hold kind m.run s = Ending.result outcome s' ∧ P calls outcome ∧
      s'.line.trace = s.line.trace ++ calls := by
  obtain ⟨calls, outcome, s', hrun, hp, hshows⟩ := hm (s.acquired kind) rfl
  rw [hold_free kind m.run hfree]
  unfold Session.releasing
  rw [hrun]
  cases outcome with
  | ok a => exact ⟨calls, .ok a, s'.released kind, rfl, hp, hshows.trace⟩
  | error e =>
      cases e with
      | fault error => exact ⟨calls, .error (.fault error), s'.released kind, rfl, hp, hshows.trace⟩
      | halt cause =>
          -- Only a session that was not followed to its end keeps the driver.
          cases cause with
          | clockOverflow =>
              exact ⟨calls, .error (.halt .clockOverflow), s'.released kind, rfl, hp, hshows.trace⟩
          | unfinished => exact ⟨calls, .error (.halt .unfinished), s', rfl, hp, hshows.trace⟩

/-- Control sessions are conducted as their courses say. -/
theorem follows_control (r : Robot σ) (kind : SessionKind) (supervisor : Supervisor)
    {callbacks : Callbacks (Traced σ) μ} (h : Control.Answering callbacks) (limit : Nat) :
    Follows (Robot.conclude kind (Control.run r.traced.driver supervisor callbacks limit))
      (ProgramUse.ControlConduct r supervisor callbacks.torque.isSome
        callbacks.motion.isSome) :=
  follows_conclude kind (Control.run_follows r.driver supervisor h limit)

/-- Reading sessions are conducted as their courses say. -/
theorem follows_reading (r : Robot σ) (supervisor : Supervisor)
    {keepOn : ArmState → Task (Traced σ) μ Bool}
    (hkeep : ∀ state, Noted (.predicate state) (keepOn state)) (limit : Nat) :
    Follows (Robot.conclude .read (Reading.run r.traced.driver supervisor keepOn limit))
      (Concluded (Reading.Course supervisor 0)) :=
  follows_conclude .read (Reading.follows_states r.driver hkeep limit supervisor 0)

/-- A use over a traced line is conducted like this. -/
theorem traced_conduct (r : Robot σ) (limit : Nat) (use : ProgramUse μ α)
    {s : Station (Traced σ) μ} (hfree : s.held = false) :
    ∃ calls outcome s', use.traced r limit s = Ending.result outcome s' ∧
      use.Conduct r calls outcome ∧ s'.line.trace = s.line.trace ++ calls := by
  have hcontrol (kind : SessionKind) (supervisor : Supervisor) (scripts : Scripts μ) :=
    follows_control r kind supervisor (Control.scripts_answering r scripts limit) limit
  cases use with
  | controlTorques torque =>
      exact hold_follows .control (follows_announce r .control
        (hcontrol .control r.settings.impliedSupervisor ⟨some torque, none⟩)) hfree
  | controlTorquesWithMotion torque motion =>
      exact hold_follows .control (follows_announce r .control
        (hcontrol .control r.settings.impliedSupervisor ⟨some torque, some motion⟩)) hfree
  | controlMotion motion mode =>
      exact hold_follows .motion (follows_announce r .motion (follows_request_mode r mode
        (hcontrol .motion (.forMode mode) ⟨none, some motion⟩))) hfree
  | read mode keepOn =>
      have hreading (supervisor : Supervisor) := follows_reading r supervisor
        (fun state => noting_noted r limit (keepOn state) (.predicate state)) limit
      cases mode with
      | none => exact hold_follows .read (hreading .unenforced) hfree
      | some mode =>
          exact hold_follows .read (follows_request_mode r mode (hreading (.forMode mode))) hfree
  | readOnce => exact hold_follows .readOnce (follows_receive r.driver) hfree
  | execute request => exact hold_follows .command (follows_dispatch r request) hfree

/-- The calls of a use over a traced line are the trace of the use, and its result is the same. -/
theorem use_of_traced (r : Robot σ) (limit : Nat) (use : ProgramUse μ α) {s : Station σ μ}
    {calls : List Call} {outcome : Except Ending α} {s' : Station (Traced σ) μ}
    (hrun : use.traced r limit s.traced = Ending.result outcome s')
    (htrace : s'.line.trace = s.traced.line.trace ++ calls) :
    use.trace r limit s = calls ∧ use.run r limit s = Ending.result outcome s'.untraced := by
  have hafter : Task.after (use.traced r limit) s.traced = s' := by
    unfold Task.after
    rw [hrun]
    cases outcome with
    | ok a => rfl
    | error e => cases e <;> rfl
  refine ⟨?_, by rw [use_untraced, hrun, untraced_result]⟩
  -- The trace was empty before, so these calls are all of it.
  rw [ProgramUse.trace, hafter, htrace]
  rfl

/-- Whenever no session has the driver, a use of the robot is conducted as it should be, and its
result is the outcome of that. -/
theorem use_conduct (r : Robot σ) (limit : Nat) (use : ProgramUse μ α) (s : Vacant σ μ) :
    ∃ outcome s', use.Conduct r (use.trace r limit s.station) outcome ∧
      use.run r limit s.station = Ending.result outcome s' := by
  obtain ⟨calls, outcome, s', hrun, hconduct, htrace⟩ :=
    traced_conduct r limit use (s := s.station.traced) s.held
  obtain ⟨hcalls, hresult⟩ := use_of_traced r limit use hrun htrace
  exact ⟨outcome, s'.untraced, by rw [hcalls]; exact hconduct, hresult⟩

end ArmControl
