import ArmControl.Proofs.Control.Faults
import ArmControl.Proofs.Robot.Conduct

/-!
# Calls that begin anew

Every use of a robot counts its cycles from its own first state, takes the nominal length for its
first cycle, and expects a mode that it requested itself or that came with its own first state.
`Anew` says this of calls and their outcome, and `ProgramUse.Conduct.anew` shows it of every use.
-/

namespace ArmControl

variable {σ μ α β : Type}

/-! ## What begins anew -/

namespace Call

/-- The state that the call received. -/
def received? : Call → Option ArmState
  | receive (.value state) => some state
  | _ => none

/-- The length of the cycle that a callback is told. -/
def period? : Call → Option Duration
  | torque _ period _ | motion _ period _ => some period
  | receive _ | send _ _ | request _ _ | predicate _ _ => none

end Call

/-- When this many states were waited for before these calls, then every callback among them that is
called before a second state is waited for is told the nominal length of a cycle. -/
def NominalFirst (nominal : Duration) (n : Nat) (calls : List Call) : Prop :=
  ∀ earlier call later, calls = earlier ++ call :: later →
    n + earlier.countP Call.isReceive ≤ 1 → ∀ period ∈ call.period?, period = nominal

section NominalFirst

variable {nominal : Duration} {n : Nat} {calls more : List Call}

/-- Calls of which each is told the nominal length, or none. -/
theorem nominal_first_of_forall (h : ∀ call ∈ calls, ∀ period ∈ call.period?, period = nominal) :
    NominalFirst nominal n calls := by
  intro earlier call later heq _
  exact h call (by simp [heq])

/-- From the second cycle on there is nothing to show. -/
theorem nominal_first_of_le (h : 2 ≤ n) : NominalFirst nominal n calls := by
  intro earlier call later _ hfirst
  omega

theorem NominalFirst.append (h : NominalFirst nominal n calls)
    (hmore : NominalFirst nominal (n + calls.countP Call.isReceive) more) :
    NominalFirst nominal n (calls ++ more) := by
  intro earlier call later heq hfirst
  -- Either the call is among the further calls, or there are some left after it before these.
  rcases List.append_eq_append_iff.mp heq with ⟨rest, rfl, hrest⟩ | ⟨rest, hcalls, hrest⟩
  · rw [List.countP_append, ← Nat.add_assoc] at hfirst
    exact hmore rest call later hrest hfirst
  · cases rest with
    | nil =>
        rw [List.append_nil] at hcalls
        subst hcalls
        exact hmore [] call later hrest.symm (by simpa using hfirst)
    | cons call' rest =>
        obtain ⟨rfl, -⟩ := List.cons.inj hrest
        exact h earlier call rest hcalls hfirst

theorem NominalFirst.receive (answer : Answer ArmState) (h : NominalFirst nominal (n + 1) calls) :
    NominalFirst nominal n (.receive answer :: calls) := by
  have hreceive : NominalFirst nominal n [.receive answer] :=
    nominal_first_of_forall (by simp [Call.period?])
  exact hreceive.append h

/-- A cycle waits for a state before it calls any callback. -/
theorem NominalFirst.cycle (answer : Answer ArmState)
    (h : n = 0 → ∀ call ∈ calls, ∀ period ∈ call.period?, period = nominal) :
    NominalFirst nominal n (.receive answer :: calls) := by
  refine .receive answer ?_
  cases n with
  | zero => exact nominal_first_of_forall (h rfl)
  | succ n => exact nominal_first_of_le (by omega)

end NominalFirst

namespace Control

variable {supervisor : Supervisor} {nominal : Duration} {withTorque withMotion : Bool}
  {rounds : List Round} {p p' : Progress} {calls : List Call}

/-- A callback is told the length of its cycle. -/
theorem turn_calls_told {call : Except String (Flow α) → Call} {period : Duration}
    (hcall : ∀ output, (call output).period? = some period) (flow : Option (Flow α)) :
    ∀ c ∈ turnCalls call flow, ∀ told ∈ c.period?, told = period := by
  cases flow <;> simp [turnCalls, hcall]

theorem Turn.told {kind : CallbackKind} {call : Except String (Flow α) → Call} {present : Bool}
    {validate : α → Except ValueError Unit} {slot : Slot α} {cycle : Nat}
    {outcome : Except Ending (Slot α)} {period : Duration}
    (h : Turn kind call present validate slot cycle calls outcome)
    (hcall : ∀ output, (call output).period? = some period) :
    ∀ c ∈ calls, ∀ told ∈ c.period?, told = period := by
  cases h with
  | taken flow slot' _ => exact turn_calls_told hcall flow
  | failed reason _ => simp [hcall]
  | invalid flow error _ _ => simp [hcall]

/-- The first cycle has the nominal length. -/
theorem Standing.first_period {state : ArmState} {period : Duration}
    (h : Standing supervisor nominal withTorque withMotion rounds p)
    (hcheck : p.check state = .ok (⟨state, period⟩, p')) (hfirst : rounds.length = 0) :
    period = nominal := by
  obtain rfl := List.length_eq_zero_iff.mp hfirst
  obtain ⟨-, period', clock, htick, hnow, -⟩ := Progress.check_ok hcheck
  cases hnow
  rw [h.clock.tick_fresh] at htick
  cases htick
  rfl

theorem Advance.nominal_first {r : Round}
    (h : Standing supervisor nominal withTorque withMotion rounds p)
    (hadvance : Advance withTorque withMotion p r p') (answer : Answer Unit) :
    NominalFirst nominal rounds.length (r.calls answer) := by
  refine .cycle _ fun hfirst call hmem period hperiod => ?_
  obtain rfl := h.first_period hadvance.checked hfirst
  rcases List.mem_append.mp hmem with hmem | hmem
  · rcases List.mem_append.mp hmem with hmem | hmem
    · exact turn_calls_told (fun _ => rfl) r.torque call hmem period hperiod
    · exact turn_calls_told (fun _ => rfl) r.motion call hmem period hperiod
  · rw [List.mem_singleton.mp hmem] at hperiod
    cases hperiod

theorem Rounds.nominal_first
    (h : Rounds withTorque withMotion (.opening supervisor nominal withTorque withMotion) rounds
      p) :
    NominalFirst nominal 0 (rounds.flatMap Round.accepted) := by
  induction h with
  | nil => exact nominal_first_of_forall (by simp)
  | @snoc rounds p p' r hrounds hadvance _ ih =>
      rw [List.flatMap_append]
      refine ih.append ?_
      rw [rounds_received, Nat.zero_add]
      simpa using hadvance.nominal_first hrounds.standing (.value ())

theorem Faltering.nominal_first {e : Ending}
    (h : Standing supervisor nominal withTorque withMotion rounds p)
    (hfaltering : Faltering withTorque withMotion p calls e) :
    NominalFirst nominal rounds.length calls := by
  cases hfaltering with
  | unopened hopening =>
      obtain ⟨answer, rfl⟩ := hopening.receives
      exact nominal_first_of_forall (by simp [Call.period?])
  | torqueFailed hcheck hturn =>
      refine .cycle _ fun hfirst => ?_
      obtain rfl := h.first_period hcheck hfirst
      exact hturn.told fun _ => rfl
  | motionFailed hcheck _ hturn =>
      refine .cycle _ fun hfirst call hmem => ?_
      obtain rfl := h.first_period hcheck hfirst
      rcases List.mem_append.mp hmem with hmem | hmem
      · exact turn_calls_told (fun _ => rfl) _ call hmem
      · exact hturn.told (fun _ => rfl) call hmem
  | unsent hadvance _ => exact hadvance.nominal_first h _

/-- No callback is called in the terminal cycle. -/
theorem Closing.nominal_first {last : Command} {outcome : Except Ending Nat} {n : Nat}
    (h : Closing p last calls outcome) : NominalFirst nominal n calls := by
  refine nominal_first_of_forall ?_
  cases h with
  | unopened hopening =>
      obtain ⟨answer, rfl⟩ := hopening.receives
      simp [Call.period?]
  | unsent _ _ | closed _ => simp [Call.period?]

/-- The callbacks of a session are told the nominal length in its first cycle. -/
theorem Course.nominal_first {outcome : Except Ending Nat}
    (h : Course withTorque withMotion (.opening supervisor nominal withTorque withMotion) calls
      outcome) :
    NominalFirst nominal 0 calls := by
  cases h with
  | unfinished hrounds => exact hrounds.nominal_first
  | faltered hrounds hfaltering =>
      refine hrounds.nominal_first.append ?_
      rw [rounds_received, Nat.zero_add]
      exact hfaltering.nominal_first hrounds.standing
  | terminal hrounds hadvance _ hclosing =>
      rw [List.flatMap_append]
      refine .append (hrounds.nominal_first.append ?_) hclosing.nominal_first
      rw [rounds_received, Nat.zero_add]
      simpa using hadvance.nominal_first hrounds.standing (.value ())

end Control

/-! ## Faults -/

namespace Enforcement

/-- An expected mode stays the expected one. -/
theorem expected_append {enforcement : Enforcement} {states : List ArmState} {mode : ReportedMode}
    (h : enforcement.expected states = some mode) (more : List ArmState) :
    enforcement.expected (states ++ more) = some mode := by
  cases enforcement with
  | unenforced => cases h
  | implied =>
      cases states with
      | nil => cases h
      | cons first rest => exact h
  | requested mode => exact h

end Enforcement

/-- Calls that begin anew, with this enforcement and this nominal length of a cycle: the cycles are
counted from the first state waited for, the first cycle has the nominal length, and the expected
mode comes from the request or from the first state of these calls. -/
structure Anew (enforcement : Enforcement) (nominal : Duration) (calls : List Call)
    (outcome : Except Ending α) : Prop where
  controlCycle : ∀ fault, outcome = .error (.fault (.control fault)) →
    fault.cycle = calls.countP Call.isReceive
  numericCycle : ∀ fault, outcome = .error (.fault (.numeric fault)) →
    fault.cycle = calls.countP Call.isReceive
  clock : NominalFirst nominal 0 calls
  mode : ∀ fault, outcome = .error (.fault (.control fault)) →
    enforcement.expected (calls.filterMap Call.received?) = some fault.expected

section Anew

variable {enforcement : Enforcement} {nominal : Duration} {calls : List Call}
  {outcome : Except Ending α}

/-- Calls that tell no callback a length, and whose error, if any, is no fault of mode or number. -/
theorem anew_of_calm (hcalls : ∀ call ∈ calls, call.period? = none)
    (hcalm : ∀ error, outcome = .error (.fault error) →
      error.isControl = false ∧ error.isNumeric = false) :
    Anew enforcement nominal calls outcome where
  controlCycle fault houtcome := Bool.noConfusion (hcalm _ houtcome).1
  numericCycle fault houtcome := Bool.noConfusion (hcalm _ houtcome).2
  clock := nominal_first_of_forall fun call hmem => by simp [hcalls call hmem]
  mode fault houtcome := Bool.noConfusion (hcalm _ houtcome).1

/-- It does not matter which result an error stands in for. -/
theorem Anew.retype {e : Ending} (h : Anew enforcement nominal calls (.error e : Except Ending α)) :
    Anew enforcement nominal calls (.error e : Except Ending β) := by
  refine ⟨fun fault hfault => ?_, fun fault hfault => ?_, h.clock, fun fault hfault => ?_⟩
  all_goals cases hfault
  · exact h.controlCycle fault rfl
  · exact h.numericCycle fault rfl
  · exact h.mode fault rfl

theorem Anew.map (h : Anew enforcement nominal calls outcome) (f : α → β) :
    Anew enforcement nominal calls (outcome.map f) := by
  cases outcome with
  | ok a => exact ⟨nofun, nofun, h.clock, nofun⟩
  | error e => exact h.retype

/-- A request before these calls. -/
theorem Anew.request (h : Anew enforcement nominal calls outcome) (q : Request)
    (answer : Answer Response) : Anew enforcement nominal (.request q answer :: calls) outcome where
  controlCycle := h.controlCycle
  numericCycle := h.numericCycle
  clock := by
    have hrequest : NominalFirst nominal 0 [.request q answer] :=
      nominal_first_of_forall (by simp [Call.period?])
    exact hrequest.append h.clock
  mode := h.mode

/-- What the driver makes of an answer is no fault of mode or number. -/
theorem Answer.settled_calm {answer : Answer α} {settle : α → Except DriverError β}
    {error : RobotError} (h : answer.settled settle = .error (.fault error)) :
    error.isControl = false ∧ error.isNumeric = false := by
  have hdriver (e : DriverError) :
      (RobotError.ofDriver e).isControl = false ∧ (RobotError.ofDriver e).isNumeric = false := by
    cases e <;> exact ⟨rfl, rfl⟩
  cases answer with
  | value a =>
      unfold Answer.settled at h
      cases hsettle : settle a with
      | ok b => simp [hsettle, Ending.ofDriver] at h
      | error e =>
          obtain rfl : RobotError.ofDriver e = error := by
            simpa [hsettle, Ending.ofDriver] using h
          exact hdriver e
  | failure e =>
      obtain rfl : RobotError.communication (.link e) = error := by
        simpa [Answer.settled] using h
      exact ⟨rfl, rfl⟩
  | overflow => simp [Answer.settled] at h

end Anew

namespace Control

variable {withTorque withMotion : Bool}

theorem FirstFault.of_control {cycle : Nat} {expected : Option ReportedMode}
    {previous : Option Duration} {torqueDue motionDue : Bool} {calls : List Call}
    {fault : ModeMismatch}
    (h : FirstFault cycle expected previous torqueDue motionDue calls (.control fault)) :
    fault.cycle = cycle ∧ expected = some fault.expected := by
  generalize herror : RobotError.control fault = error at h
  cases h with
  | receive | time | send => cases herror
  | mode state mode hexpected _ =>
      cases herror
      exact ⟨rfl, hexpected⟩
  | torque _ _ _ _ _ _ hoffence | motion _ _ _ _ _ _ _ _ hoffence => cases hoffence <;> cases herror

theorem FirstFault.of_numeric {cycle : Nat} {expected : Option ReportedMode}
    {previous : Option Duration} {torqueDue motionDue : Bool} {calls : List Call}
    {fault : NumericFault}
    (h : FirstFault cycle expected previous torqueDue motionDue calls (.numeric fault)) :
    fault.cycle = cycle := by
  generalize herror : RobotError.numeric fault = error at h
  cases h with
  | receive | mode | time | send => cases herror
  | torque _ _ _ _ _ _ hoffence | motion _ _ _ _ _ _ _ _ hoffence =>
      cases hoffence with
      | failed reason => cases herror
      | invalid flow error _ =>
          cases herror
          rfl

/-- The states received in some rounds are the states of the rounds. -/
theorem rounds_received_states (rounds : List Round) :
    (rounds.flatMap Round.accepted).filterMap Call.received? = rounds.map Round.state := by
  induction rounds with
  | nil => rfl
  | cons r rest ih =>
      have hround : r.accepted.filterMap Call.received? = [r.state] := by
        cases htorque : r.torque <;> cases hmotion : r.motion <;>
          simp [Round.calls, Round.turns, turnCalls, Call.received?, htorque, hmotion]
      rw [List.flatMap_cons, List.filterMap_append, hround, ih]
      rfl

/-- The loop of a control session begins anew. -/
theorem Course.anew {enforcement : Enforcement} {nominal : Duration} {calls : List Call}
    {outcome : Except Ending Nat}
    (h : Course withTorque withMotion
      (.opening enforcement.supervisor nominal withTorque withMotion) calls outcome) :
    Anew enforcement nominal calls outcome where
  controlCycle fault houtcome := by
    subst houtcome
    obtain ⟨cycle, rounds, last, hfailed⟩ := h.failed_in
    rw [hfailed.received]
    exact hfailed.fault.of_control.1
  numericCycle fault houtcome := by
    subst houtcome
    obtain ⟨cycle, rounds, last, hfailed⟩ := h.failed_in
    rw [hfailed.received]
    exact hfailed.fault.of_numeric
  clock := h.nominal_first
  mode fault houtcome := by
    subst houtcome
    obtain ⟨cycle, rounds, last, hfailed⟩ := h.failed_in
    rw [hfailed.calls, List.filterMap_append, rounds_received_states]
    exact Enforcement.expected_append hfailed.fault.of_control.2 _

end Control

/-- The loop of a reading session that has received some states. -/
theorem Reading.Course.fault {supervisor : Supervisor} {cycle : Nat} {calls : List Call}
    {outcome : Except Ending Nat} (h : Course supervisor cycle calls outcome)
    {enforcement : Enforcement} {states : List ArmState}
    (hsupervisor : supervisor = enforcement.supervisor.seen states) {fault : ModeMismatch}
    (houtcome : outcome = .error (.fault (.control fault))) :
    fault.cycle = cycle + calls.countP Call.isReceive ∧
      enforcement.expected (states ++ calls.filterMap Call.received?) = some fault.expected := by
  induction h generalizing states with
  | unfinished supervisor cycle => cases houtcome
  | unanswered answer hanswer =>
      cases houtcome
      obtain ⟨e, -, he⟩ := Answer.outcome_fault hanswer
      cases he
  | mismatched state hverdict =>
      cases houtcome
      subst hsupervisor
      have hfaulted : (enforcement.supervisor.seen states).isFaulted = false := by
        rw [Supervisor.seen_is_faulted, Enforcement.supervisor_is_faulted]
      obtain ⟨expected, hexpected, -, rfl⟩ := Supervisor.observe_error hverdict hfaulted
      rw [Supervisor.seen_expected, Enforcement.supervisor_expecting] at hexpected
      exact ⟨rfl, Enforcement.expected_append hexpected _⟩
  | stopped state _ => cases houtcome
  | wentOn state hverdict _ ih =>
      subst hsupervisor
      obtain ⟨hcycle, hexpected⟩ := ih (Supervisor.seen_snoc hverdict) houtcome
      refine ⟨?_, ?_⟩
      · simp only [hcycle, List.countP_cons, Call.isReceive]
        simp
        omega
      · rw [List.append_assoc] at hexpected
        exact hexpected

/-- A reading session calls no callback that is told a length, and judges no numbers. -/
theorem Reading.Course.quiet {supervisor : Supervisor} {cycle : Nat} {calls : List Call}
    {outcome : Except Ending Nat} (h : Course supervisor cycle calls outcome) :
    (∀ fault, outcome ≠ .error (.fault (.numeric fault))) ∧
      ∀ call ∈ calls, call.period? = none := by
  induction h with
  | unfinished supervisor cycle => exact ⟨nofun, by simp⟩
  | unanswered answer hanswer =>
      refine ⟨fun fault houtcome => ?_, by simp [Call.period?]⟩
      cases houtcome
      obtain ⟨e, -, he⟩ := Answer.outcome_fault hanswer
      cases he
  | mismatched state _ => exact ⟨nofun, by simp [Call.period?]⟩
  | stopped state _ => exact ⟨nofun, by simp [Call.period?]⟩
  | wentOn state _ _ ih => exact ⟨ih.1, by simpa [Call.period?] using ih.2⟩

/-- The loop of a reading session begins anew. -/
theorem Reading.Course.anew {enforcement : Enforcement} {nominal : Duration} {calls : List Call}
    {outcome : Except Ending Nat} (h : Course enforcement.supervisor 0 calls outcome) :
    Anew enforcement nominal calls outcome := by
  have hseen : enforcement.supervisor = enforcement.supervisor.seen [] := by
    cases enforcement <;> rfl
  obtain ⟨hnumeric, hperiod⟩ := h.quiet
  refine ⟨fun fault houtcome => ?_, fun fault houtcome => absurd houtcome (hnumeric fault),
    nominal_first_of_forall fun call hmem => by simp [hperiod call hmem], fun fault houtcome => ?_⟩
  · simpa using (h.fault hseen houtcome).1
  · exact (h.fault hseen houtcome).2

/-! ## Every use -/

/-- What a use wants of the controller mode. -/
def RobotUse.enforcement {τ ι κ : Type 1} (settings : Settings) : RobotUse τ ι κ α → Enforcement
  | controlTorques _ | controlTorquesWithMotion _ _ =>
      if settings.enforceImpliedMode then .implied else .unenforced
  | controlMotion _ mode => .requested mode
  | read (some mode) _ => .requested mode
  | read none _ | readOnce | execute _ => .unenforced

/-- The supervisor of a session whose mode is implied. -/
theorem implied_supervisor (settings : Settings) :
    settings.impliedSupervisor =
      (if settings.enforceImpliedMode then Enforcement.implied else .unenforced).supervisor := by
  unfold Settings.impliedSupervisor
  cases settings.enforceImpliedMode <;> rfl

section Uses

variable {enforcement : Enforcement} {nominal : Duration} {calls : List Call}
  {outcome : Except Ending α}

theorem Prioritised.anew {r : Robot σ} {P : List Call → Except Ending α → Prop}
    (h : Prioritised r P calls outcome)
    (hp : P calls outcome → Anew enforcement nominal calls outcome) :
    Anew enforcement nominal calls outcome := by
  cases h with
  | refused _ _ =>
      refine anew_of_calm (by simp) fun error h => ?_
      cases h
      exact ⟨rfl, rfl⟩
  | allowed _ hcalls => exact hp hcalls

theorem Moded.anew {mode : ControllerMode} {P : List Call → Except Ending α → Prop}
    (h : Moded mode P calls outcome)
    (hp : ∀ calls outcome, P calls outcome → Anew enforcement nominal calls outcome) :
    Anew enforcement nominal calls outcome := by
  cases h with
  | refused answer hrefused =>
      have hsettled : Anew enforcement nominal [.request (.setControllerMode mode) answer]
          (answer.settled (Request.setControllerMode mode).settle) :=
        anew_of_calm (by simp [Call.period?]) fun _ => Answer.settled_calm
      rw [hrefused] at hsettled
      exact hsettled.retype
  | entered reply hcalls => exact (hp _ _ hcalls).request _ _

theorem Concluded.anew {P : List Call → Except Ending Nat → Prop} {outcome : Except Ending Unit}
    (h : Concluded P calls outcome)
    (hp : ∀ calls outcome, P calls outcome → Anew enforcement nominal calls outcome) :
    Anew enforcement nominal calls outcome := by
  obtain ⟨hcalls⟩ := h
  exact (hp _ _ hcalls).map _

/-- Every use that is conducted as it should be begins anew. -/
theorem ProgramUse.Conduct.anew {r : Robot σ} {use : ProgramUse μ α}
    (h : use.Conduct r calls outcome) :
    Anew (use.enforcement r.settings) r.driver.timing.controlPeriod calls outcome := by
  cases use with
  | controlTorques torque =>
      refine Prioritised.anew h fun hcontrol => ?_
      rw [implied_supervisor] at hcontrol
      exact Concluded.anew hcontrol fun _ _ hcourse => hcourse.anew
  | controlTorquesWithMotion torque motion =>
      refine Prioritised.anew h fun hcontrol => ?_
      rw [implied_supervisor] at hcontrol
      exact Concluded.anew hcontrol fun _ _ hcourse => hcourse.anew
  | controlMotion motion mode =>
      refine Prioritised.anew h fun hmoded => hmoded.anew fun _ _ hcontrol => ?_
      exact Concluded.anew hcontrol fun _ _ hcourse => Control.Course.anew hcourse
  | read mode keepOn =>
      cases mode with
      | none =>
          exact Concluded.anew h fun _ _ hcourse => Reading.Course.anew hcourse
      | some mode =>
          exact Moded.anew h fun _ _ hread =>
            Concluded.anew hread fun _ _ hcourse => Reading.Course.anew hcourse
  | readOnce =>
      obtain ⟨answer, rfl, rfl⟩ := h
      rw [← Answer.settled_ok]
      exact anew_of_calm (by simp [Call.period?]) fun _ => Answer.settled_calm
  | execute request =>
      cases h with
      | refused _ =>
          refine anew_of_calm (by simp) fun error h => ?_
          cases h
          exact ⟨rfl, rfl⟩
      | made answer _ => exact anew_of_calm (by simp [Call.period?]) fun _ => Answer.settled_calm

end Uses

end ArmControl
