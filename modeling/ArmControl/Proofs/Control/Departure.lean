import ArmControl.Proofs.Robot.Anew

/-!
# The first state in another mode

As far as the controller mode goes, a control session either keeps to what is expected of its
states, or it ends with the first state that departs from that. `Judged` says so of the calls of a
session and of its outcome, and `Course.judged` shows it of every course.
-/

namespace ArmControl

variable {α : Type}

/-- The states received in these calls, in their order. -/
def received (calls : List Call) : List ArmState := calls.filterMap Call.received?

theorem received_append (calls more : List Call) :
    received (calls ++ more) = received calls ++ received more :=
  List.filterMap_append

theorem received_cons (state : ArmState) (calls : List Call) :
    received (.receive (.value state) :: calls) = state :: received calls := rfl

/-- Only calls to the link receive a state. -/
theorem received_filter (calls : List Call) :
    received (calls.filter Call.isExchange) = received calls := by
  induction calls with
  | nil => rfl
  | cons call rest ih =>
      cases call with
      | receive answer =>
          show received (.receive answer :: rest.filter Call.isExchange) = _
          cases answer with
          | value state => rw [received_cons, received_cons, ih]
          | failure | overflow => exact ih
      | send | request | torque | motion | predicate => exact ih

/-- Every state reports the mode that is expected after the states before it. -/
def Enforcement.Allows (enforcement : Enforcement) (states : List ArmState) : Prop :=
  ∀ earlier state later, states = earlier ++ state :: later →
    ∀ mode ∈ enforcement.expected earlier, state.controllerMode = mode

theorem Enforcement.allows_nil (enforcement : Enforcement) : enforcement.Allows [] := by
  intro earlier state later h
  simp at h

theorem Enforcement.Allows.snoc {enforcement : Enforcement} {states : List ArmState}
    {state : ArmState} (h : enforcement.Allows states)
    (hstate : ∀ mode ∈ enforcement.expected states, state.controllerMode = mode) :
    enforcement.Allows (states ++ [state]) :=
  forall_split_snoc h hstate

namespace Control

/-- How a session ended, as far as the mode goes: no state departed from what was expected, or the
last call received the first one that did. -/
inductive Judged (enforcement : Enforcement) (calls : List Call) (outcome : Except Ending α) :
    Prop
  | kept :
      enforcement.Allows (received calls) →
      (∀ fault, outcome ≠ .error (.fault (.control fault))) → Judged enforcement calls outcome
  | broken (rounds : List Round) (state : ArmState) (mode : ReportedMode) :
      calls = rounds.flatMap Round.accepted ++ [.receive (.value state)] →
      enforcement.Allows (rounds.map Round.state) →
      enforcement.expected (rounds.map Round.state) = some mode → mode ≠ state.controllerMode →
      outcome = .error (.fault (.control ⟨mode, state.controllerMode, rounds.length + 1⟩)) →
      Judged enforcement calls outcome

variable {enforcement : Enforcement} {nominal : Duration} {withTorque withMotion : Bool}
  {rounds : List Round} {p p' : Progress} {calls : List Call}

theorem Judged.map {β : Type} {outcome : Except Ending α} (h : Judged enforcement calls outcome)
    (f : α → β) : Judged enforcement calls (outcome.map f) := by
  cases h with
  | kept hallows hcalm =>
      refine .kept hallows fun fault heq => ?_
      cases outcome with
      | ok a => cases heq
      | error e =>
          cases heq
          exact hcalm fault rfl
  | broken rounds state mode hcalls hallows hexpected hne houtcome =>
      refine .broken rounds state mode hcalls hallows hexpected hne ?_
      rw [houtcome]
      rfl

theorem Rounds.allows
    (h : Rounds withTorque withMotion
      (.opening enforcement.supervisor nominal withTorque withMotion) rounds p) :
    enforcement.Allows (rounds.map Round.state) := by
  induction h with
  | nil => exact enforcement.allows_nil
  | snoc hrounds hadvance _ ih =>
      rw [List.map_append]
      exact ih.snoc (Fit.of_check hrounds.standing hadvance.checked).mode

theorem received_after_rounds (rounds : List Round) (calls : List Call) :
    received (rounds.flatMap Round.accepted ++ calls) =
      rounds.map Round.state ++ received calls := by
  rw [received_append]
  exact congrArg (· ++ received calls) (rounds_received_states rounds)

/-- An answer that ends the session brings no state. -/
theorem received_unanswered {answer : Answer ArmState} {e : Ending}
    (h : answer.outcome = .error e) : received [.receive answer] = [] := by
  cases answer with
  | value state => cases h
  | failure | overflow => rfl

theorem not_control_of_answer {β : Type} {answer : Answer β} {e : Ending}
    (h : answer.outcome = .error e) (fault : ModeMismatch) :
    (.error e : Except Ending α) ≠ .error (.fault (.control fault)) := by
  intro heq
  cases heq
  obtain ⟨_, -, heq⟩ := Answer.outcome_fault h
  cases heq

/-- The states received in a cycle after these rounds: none at all, or one that is as expected. -/
inductive Receives (enforcement : Enforcement) (rounds : List Round) (calls : List Call) : Prop
  | none : received calls = [] → Receives enforcement rounds calls
  | one (state : ArmState) :
      received calls = [state] →
      (∀ mode ∈ enforcement.expected (rounds.map Round.state), state.controllerMode = mode) →
      Receives enforcement rounds calls

/-- A cycle that receives no state in another mode. -/
theorem Receives.kept {outcome : Except Ending α} (h : Receives enforcement rounds calls)
    (hrounds : enforcement.Allows (rounds.map Round.state))
    (houtcome : ∀ fault, outcome ≠ .error (.fault (.control fault))) :
    Judged enforcement (rounds.flatMap Round.accepted ++ calls) outcome := by
  refine .kept ?_ houtcome
  rw [received_after_rounds]
  cases h with
  | none hcalls =>
      rw [hcalls, List.append_nil]
      exact hrounds
  | one state hcalls hmode =>
      rw [hcalls]
      exact hrounds.snoc hmode

/-- A cycle that has come past the checks of its state, with calls that receive no other one. -/
theorem Receives.of_check
    (h : Enforced enforcement nominal withTorque withMotion rounds p) {state : ArmState}
    {next : Cycle × Progress} (hcheck : p.check state = .ok next) (hcalls : received calls = []) :
    Receives enforcement rounds (.receive (.value state) :: calls) := by
  refine .one state ?_ (Fit.of_check h hcheck).mode
  rw [received_cons, hcalls]

/-- Calls that do not go to the link receive nothing. -/
theorem received_of_filter (h : calls.filter Call.isExchange = []) : received calls = [] := by
  rw [← received_filter, h]
  rfl

/-- Waiting for a state and checking it, where that ends the session. -/
theorem Opening.judged {e : Ending}
    (h : Enforced enforcement nominal withTorque withMotion rounds p)
    (hrounds : enforcement.Allows (rounds.map Round.state))
    (hopening : Opening p calls (.error e)) :
    Judged (α := α) enforcement (rounds.flatMap Round.accepted ++ calls) (.error e) := by
  generalize houtcome : Except.error e = outcome at hopening
  cases hopening with
  | unanswered answer e' hanswer =>
      cases houtcome
      exact (Receives.none (received_unanswered hanswer)).kept hrounds
        (not_control_of_answer hanswer)
  | answered state =>
      have hexpected : p.supervisor.expected? = enforcement.expected (rounds.map Round.state) := by
        rw [h.supervisor, Supervisor.seen_expected, Enforcement.supervisor_expecting]
      have hfaulted : p.supervisor.isFaulted = false := by
        rw [h.supervisor, Supervisor.seen_is_faulted, Enforcement.supervisor_is_faulted]
      rcases Progress.check_error houtcome.symm with ⟨fault, hverdict, rfl⟩ | ⟨hverdict, htime⟩
      · obtain ⟨mode, hmode, hne, rfl⟩ := Supervisor.observe_error hverdict hfaulted
        refine .broken rounds state mode rfl hrounds (hexpected ▸ hmode) hne ?_
        rw [h.cycle]
      · have hmode := (Supervisor.observe_ok_iff.mp hverdict).2
        rw [hexpected] at hmode
        refine (Receives.one state rfl hmode).kept hrounds fun fault heq => ?_
        -- With the right mode, the fault can only be one of time.
        rcases htime with ⟨previous, -, rfl⟩ | ⟨-, rfl⟩ <;> cases heq

theorem Turn.not_control {kind : CallbackKind} {β : Type} {call : Except String (Flow β) → Call}
    {present : Bool} {validate : β → Except ValueError Unit} {slot : Slot β} {cycle : Nat}
    {e : Ending} (h : Turn kind call present validate slot cycle calls (.error e))
    (fault : ModeMismatch) : (.error e : Except Ending α) ≠ .error (.fault (.control fault)) := by
  intro heq
  cases heq
  cases h

/-- An ordinary cycle that ends the session. -/
theorem Faltering.judged {e : Ending}
    (h : Enforced enforcement nominal withTorque withMotion rounds p)
    (hrounds : enforcement.Allows (rounds.map Round.state))
    (hfaltering : Faltering withTorque withMotion p calls e) :
    Judged (α := α) enforcement (rounds.flatMap Round.accepted ++ calls) (.error e) := by
  cases hfaltering with
  | unopened hopening => exact hopening.judged h hrounds
  | torqueFailed hcheck hturn =>
      have hreceives := Receives.of_check h hcheck (received_of_filter (hturn.filter fun _ => rfl))
      exact hreceives.kept hrounds hturn.not_control
  | @motionFailed state period _ torque _ calls _ hcheck _ hturn =>
      have hreceived : received (turnCalls (.torque state period) torque ++ calls) = [] := by
        rw [received_append, received_of_filter (turn_calls_filter _ (fun _ => rfl) torque),
          received_of_filter (hturn.filter fun _ => rfl)]
        rfl
      exact (Receives.of_check h hcheck hreceived).kept hrounds hturn.not_control
  | @unsent r _ answer _ hadvance hanswer =>
      have hreceived : received (r.turns ++ [.send r.command answer]) = [] := by
        rw [received_append, received_of_filter]
        · rfl
        · unfold Round.turns
          rw [List.filter_append, turn_calls_filter _ (fun _ => rfl),
            turn_calls_filter _ (fun _ => rfl)]
          rfl
      exact (Receives.of_check h hadvance.checked hreceived).kept hrounds
        (not_control_of_answer hanswer)

/-- Every session either keeps to the mode that is expected, or ends at the first departure. -/
theorem Course.judged {outcome : Except Ending Nat}
    (h : Course withTorque withMotion
      (.opening enforcement.supervisor nominal withTorque withMotion) calls outcome) :
    Judged enforcement calls outcome := by
  cases h with
  | unfinished hrounds =>
      refine .kept ?_ fun fault heq => by cases heq
      unfold received
      rw [rounds_received_states]
      exact hrounds.allows
  | faltered hrounds hfaltering => exact hfaltering.judged hrounds.standing hrounds.allows
  | @terminal rounds _ _ r _ _ hrounds hadvance hfinished hclosing =>
      have hstanding : Enforced enforcement nominal withTorque withMotion _ _ :=
        hrounds.standing.advance hadvance
      have hallows : enforcement.Allows ((rounds ++ [r]).map Round.state) := by
        rw [List.map_append]
        exact hrounds.allows.snoc (Fit.of_check hrounds.standing hadvance.checked).mode
      cases hclosing with
      | unopened hopening => exact hopening.judged hstanding hallows
      | unsent hcheck hanswer =>
          exact (Receives.of_check hstanding hcheck rfl).kept hallows
            (not_control_of_answer hanswer)
      | closed hcheck =>
          exact (Receives.of_check hstanding hcheck rfl).kept hallows fun fault heq => by cases heq

end Control

end ArmControl
