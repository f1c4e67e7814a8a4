import ArmControl.Proofs.Control.Departure

/-!
# Sessions that go to plan

A session that nothing gets in the way of ends as it was meant to. A `Plan` says at which call each
callback is to finish and where the states of the session come from. `Plan.Undisturbed` says of
calls that the link and the callbacks keep to the plan, and `Course.fulfilled` is the main theorem:
a session with such calls ends with the number of cycles that was planned, and its calls are those
that were planned.
-/

namespace ArmControl

variable {α : Type}

/-! ## Plans -/

/-- A call of a callback: the length of the cycle that it was told, and what it gave. -/
structure Invocation (α : Type) where
  period : Duration
  output : Except String (Flow α)

namespace Call

/-- The call as one of the callback for torques. -/
def torque? : Call → Option (Invocation Torques)
  | torque _ period output => some ⟨period, output⟩
  | receive _ | send _ _ | request _ _ | motion _ _ _ | predicate _ _ => none

/-- The call as one of the callback for the motion. -/
def motion? : Call → Option (Invocation Target)
  | motion _ period output => some ⟨period, output⟩
  | receive _ | send _ _ | request _ _ | torque _ _ _ | predicate _ _ => none

end Call

namespace Invocation

/-- The callback gave an output that passes its check, and said whether it has finished. -/
def Gives (validate : α → Except ValueError Unit) (finished : Bool) (invocation : Invocation α) :
    Prop :=
  ∃ flow, invocation.output = .ok flow ∧ validate flow.value = .ok () ∧ flow.isFinished = finished

instance (validate : α → Except ValueError Unit) (finished : Bool) (invocation : Invocation α) :
    Decidable (invocation.Gives validate finished) :=
  match h : invocation.output with
  | .error _ => isFalse fun ⟨_, hflow, _⟩ => by cases h.symm.trans hflow
  | .ok flow =>
      match hvalid : validate flow.value with
      | .error _ => isFalse fun ⟨_, hflow, hok, _⟩ => by
          cases h.symm.trans hflow
          cases hvalid.symm.trans hok
      | .ok () =>
          decidable_of_iff (flow.isFinished = finished)
            ⟨fun hfinished => ⟨flow, h, hvalid, hfinished⟩, fun ⟨_, hflow, _, hfinished⟩ => by
              cases h.symm.trans hflow
              exact hfinished⟩

end Invocation

/-- As far as the callback was called, its outputs pass their check, and it says at its `n`-th call
and no earlier that it has finished. -/
def FinishesAt (validate : α → Except ValueError Unit) (n : Nat)
    (invocations : List (Invocation α)) : Prop :=
  ∀ (i : Nat) (h : i < invocations.length),
    i < n → invocations[i].Gives validate (decide (i + 1 = n))

instance (validate : α → Except ValueError Unit) (n : Nat) (invocations : List (Invocation α)) :
    Decidable (FinishesAt validate n invocations) :=
  inferInstanceAs (Decidable (∀ (i : Nat) (h : i < invocations.length),
    i < n → invocations[i].Gives validate (decide (i + 1 = n))))

theorem FinishesAt.gives {validate : α → Except ValueError Unit} {n i : Nat}
    {invocations : List (Invocation α)} {invocation : Invocation α}
    (h : FinishesAt validate n invocations) (hi : invocations[i]? = some invocation)
    (hlt : i < n) : invocation.Gives validate (decide (i + 1 = n)) := by
  obtain ⟨hlength, rfl⟩ := List.getElem?_eq_some_iff.mp hi
  exact h i hlength hlt

theorem FinishesAt.of_append {validate : α → Except ValueError Unit} {n : Nat}
    {invocations more : List (Invocation α)} (h : FinishesAt validate n (invocations ++ more)) :
    FinishesAt validate n invocations := by
  intro i hi hlt
  refine h.gives ?_ hlt
  rw [List.getElem?_append_left hi, List.getElem?_eq_getElem hi]

/-- States that follow on some state: each has the next number, comes one step later, and reports
the same mode. -/
def Regular (origin : ArmState) (step : Duration) (states : List ArmState) : Prop :=
  ∀ i state, states[i]? = some state →
    state.messageId = origin.messageId + .ofNat (i + 1) ∧
      state.time.nanos = origin.time.nanos + (i + 1) * step.nanos ∧
      state.controllerMode = origin.controllerMode

theorem Regular.of_append {origin : ArmState} {step : Duration} {states more : List ArmState}
    (h : Regular origin step (states ++ more)) : Regular origin step states := by
  intro i state hi
  refine h i state ?_
  rw [List.getElem?_append_left (List.getElem?_eq_some_iff.mp hi).1]
  exact hi

theorem Regular.snoc {origin : ArmState} {step : Duration} {states : List ArmState}
    {state : ArmState} (h : Regular origin step states)
    (hid : state.messageId = origin.messageId + .ofNat (states.length + 1))
    (htime : state.time.nanos = origin.time.nanos + (states.length + 1) * step.nanos)
    (hmode : state.controllerMode = origin.controllerMode) :
    Regular origin step (states ++ [state]) :=
  forall_index_snoc h ⟨hid, htime, hmode⟩

/-- How a session is to go: at which call each callback finishes, none at all when the callback is
absent; the state that the first state follows on, and the step between states; and the length of
the first cycle. -/
structure Plan where
  torque : Nat
  motion : Nat
  origin : ArmState
  step : Duration
  nominal : Duration

namespace Plan

/-- The number of ordinary cycles. -/
def cycles (plan : Plan) : Nat := max plan.torque plan.motion

/-- The length of the cycle with that number. -/
def period (plan : Plan) (i : Nat) : Duration := if i = 0 then plan.nominal else plan.step

/-- Time goes on, and no time of a state and no sum of lengths is past the greatest duration. -/
structure Feasible (plan : Plan) : Prop where
  positive : 0 < plan.step.nanos
  time : plan.origin.time.nanos + (plan.cycles + 1) * plan.step.nanos <
    UInt64.size * 1000000000
  elapsed : plan.nominal.nanos + plan.cycles * plan.step.nanos < UInt64.size * 1000000000

/-- Calls in which the states come as planned until there is no time left for them, every command
is accepted, and the callbacks give what is planned. -/
structure Undisturbed (plan : Plan) (calls : List Call) : Prop where
  regular : Regular plan.origin plan.step (received calls)
  answered : ∀ answer, .receive answer ∈ calls → (∃ state, answer = .value state) ∨
    UInt64.size * 1000000000 ≤
      plan.origin.time.nanos + ((received calls).length + 1) * plan.step.nanos
  accepted : ∀ c answer, .send c answer ∈ calls → answer = .value ()
  torque : FinishesAt Torques.validate plan.torque (calls.filterMap Call.torque?)
  motion : FinishesAt Target.validate plan.motion (calls.filterMap Call.motion?)

/-- The calls of a session that went to plan. -/
structure Fulfilled (plan : Plan) (calls : List Call) : Prop where
  waited : calls.countP Call.isReceive = plan.cycles + 1
  received : (received calls).length = plan.cycles + 1
  regular : Regular plan.origin plan.step (ArmControl.received calls)
  accepted : calls.countP Call.isAccepted = plan.cycles + 1
  torque : (calls.filterMap Call.torque?).map Invocation.period =
    (List.range plan.torque).map plan.period
  motion : (calls.filterMap Call.motion?).map Invocation.period =
    (List.range plan.motion).map plan.period

end Plan

/-- Durations of the same number of nanoseconds are the same. -/
theorem Duration.eq_of_nanos {a b : Duration} (h : a.nanos = b.nanos) : a = b := by
  cases a
  cases h
  rfl

/-- With this enforcement no mode but that one is expected, when all states were in it. -/
def Enforcement.Suits (enforcement : Enforcement) (mode : ReportedMode) : Prop :=
  ∀ states, (∀ state ∈ states, state.controllerMode = mode) →
    ∀ expected ∈ enforcement.expected states, mode = expected

namespace Control

variable {enforcement : Enforcement} {plan : Plan} {nominal : Duration}
  {withTorque withMotion : Bool} {rounds : List Round} {p p' : Progress} {calls : List Call}

/-! ## States that come as planned -/

/-- A state that comes as planned passes its checks. -/
theorem passes_of_regular {states : List ArmState} {state : ArmState}
    (hregular : Regular plan.origin plan.step (states ++ [state]))
    (hsuits : enforcement.Suits plan.origin.controllerMode) (hplan : plan.Feasible)
    (hlength : states.length ≤ plan.cycles) :
    Passes enforcement.supervisor plan.nominal states state := by
  obtain ⟨-, htime, hmode⟩ := hregular states.length state (by simp)
  have hbefore (i : Nat) (earlier : ArmState) (hi : states[i]? = some earlier) :=
    hregular.of_append i earlier hi
  refine ⟨enforcement.supervisor_is_faulted, ?_, ?_, ?_⟩
  · rw [enforcement.supervisor_expecting, hmode]
    refine hsuits states fun earlier hmem => ?_
    obtain ⟨i, hi⟩ := List.getElem?_of_mem hmem
    exact (hbefore i earlier hi).2.2
  · intro last hlast
    rw [Option.mem_def, List.getLast?_eq_getElem?] at hlast
    have hlt := (List.getElem?_eq_some_iff.mp hlast).1
    have hbefore := (hbefore _ last hlast).2.1
    show last.time.nanos < state.time.nanos
    rw [htime, hbefore, show states.length - 1 + 1 = states.length by omega, Nat.succ_mul]
    have hpositive := hplan.positive
    omega
  · intro first hfirst
    rw [Option.mem_def, List.head?_eq_getElem?] at hfirst
    have hbefore := (hbefore 0 first hfirst).2.1
    have hle := Nat.mul_le_mul_right plan.step.nanos hlength
    have hsince : (state.time.since first.time).nanos = states.length * plan.step.nanos := by
      show state.time.nanos - first.time.nanos = _
      rw [htime, hbefore, Nat.add_mul states.length, Nat.zero_add]
      omega
    have helapsed := hplan.elapsed
    rw [Duration.add?, Duration.ofNanos?, dif_pos (by rw [hsince]; omega)]
    rfl

/-- The length of a cycle is the time since the state before, and nominal in the first cycle. -/
theorem Standing.period {supervisor : Supervisor} {state : ArmState} {period : Duration}
    (h : Standing supervisor nominal withTorque withMotion rounds p)
    (hcheck : p.check state = .ok (⟨state, period⟩, p')) :
    period = ((rounds.map Round.state).getLast?.map fun last => state.time.since last.time).getD
      nominal := by
  by_cases hnil : rounds.length = 0
  · rw [h.first_period hcheck hnil, List.length_eq_zero_iff.mp hnil]
    rfl
  · have hne : rounds.map Round.state ≠ [] := by simpa using hnil
    obtain ⟨first, last, hfirst, hlast⟩ := CycleClock.ends_of_ne_nil hne
    obtain ⟨-, period', clock, htick, hnow, -⟩ := Progress.check_ok hcheck
    cases hnow
    rw [h.clock.tick_later hfirst hlast] at htick
    rw [hlast]
    split at htick
    · split at htick
      · exact (Tick.advanced.inj htick).1.symm
      · cases htick
    · cases htick

/-- The cycle of a state that comes as planned has the planned length. -/
theorem Standing.planned_period {supervisor : Supervisor} {state : ArmState} {period : Duration}
    (h : Standing supervisor plan.nominal withTorque withMotion rounds p)
    (hcheck : p.check state = .ok (⟨state, period⟩, p'))
    (hregular : Regular plan.origin plan.step (rounds.map Round.state ++ [state])) :
    period = plan.period rounds.length := by
  rw [h.period hcheck, List.getLast?_eq_getElem?, List.length_map]
  unfold Plan.period
  split
  next hzero => rw [List.length_eq_zero_iff.mp hzero]; rfl
  next hpositive =>
    obtain ⟨-, htime, -⟩ := hregular rounds.length state (by simp)
    have hlt : rounds.length - 1 < (rounds.map Round.state).length := by simp; omega
    obtain ⟨-, hbefore, -⟩ := hregular.of_append _ _ (List.getElem?_eq_getElem hlt)
    rw [List.getElem?_eq_getElem hlt]
    refine Duration.eq_of_nanos ?_
    show state.time.nanos - (rounds.map Round.state)[rounds.length - 1].time.nanos = _
    rw [htime, hbefore, show rounds.length - 1 + 1 = rounds.length by omega,
      Nat.add_mul rounds.length]
    omega

/-! ## Callbacks that give what is planned -/

/-- The call of a callback in a round. -/
def invoked (output : Round → Option (Flow α)) (r : Round) : Option (Invocation α) :=
  (output r).map fun flow => ⟨r.period, .ok flow⟩

/-- A callback that was called in the first `n` rounds and has then finished. -/
structure Planned (plan : Plan) (n : Nat) (output : Round → Option (Flow α))
    (rounds : List Round) : Prop where
  finished : hasFinished output rounds = decide (0 < n ∧ n ≤ rounds.length)
  told : (rounds.filterMap (invoked output)).map Invocation.period =
    (List.range (min n rounds.length)).map plan.period

section Planned

variable {n : Nat} {output : Round → Option (Flow α)} {slot slot' : Slot α} {r : Round}
  {validate : α → Except ValueError Unit}

theorem Planned.nil (plan : Plan) (n : Nat) (output : Round → Option (Flow α)) :
    Planned plan n output [] := by
  have hnone : ¬ (0 < n ∧ n ≤ ([] : List Round).length) := by
    rw [List.length_nil]
    omega
  exact ⟨(decide_eq_false hnone).symm, by simp⟩

theorem Planned.length (h : Planned plan n output rounds) :
    (rounds.filterMap (invoked output)).length = min n rounds.length := by
  simpa using congrArg List.length h.told

/-- The callback has its turn in the first `n` cycles. -/
theorem Planned.is_due (h : Planned plan n output rounds)
    (hholds : Holds (decide (0 < n)) output rounds slot) :
    slot.isDue (decide (0 < n)) = decide (rounds.length < n) := by
  rw [hholds.is_due, h.finished, Bool.eq_iff_iff]
  simp only [Bool.and_eq_true, Bool.not_eq_true', decide_eq_true_eq, decide_eq_false_iff_not]
  omega

/-- The slot says whether the callback has finished. -/
theorem Planned.slot_finished (h : Planned plan n output rounds)
    (hholds : Holds (decide (0 < n)) output rounds slot) :
    slot.finished = decide (n ≤ rounds.length) := by
  rw [hholds.finished, h.finished, Bool.eq_iff_iff]
  simp only [Bool.or_eq_true, Bool.not_eq_true', decide_eq_true_eq, decide_eq_false_iff_not]
  omega

/-- What the callback gives in the cycle after these rounds. -/
theorem Planned.next (h : Planned plan n output rounds) (hlt : rounds.length < n)
    {invocation : Invocation α} {more : List (Invocation α)}
    (hplan : FinishesAt validate n (rounds.filterMap (invoked output) ++ invocation :: more)) :
    invocation.Gives validate (decide (rounds.length + 1 = n)) := by
  refine hplan.gives ?_ hlt
  have hlength := h.length
  rw [List.getElem?_append_right (by omega),
    show rounds.length - (rounds.filterMap (invoked output)).length = 0 by omega]
  rfl

/-- One more round. -/
theorem Planned.fills (h : Planned plan n output rounds)
    (hholds : Holds (decide (0 < n)) output rounds slot)
    (hfills : Fills (decide (0 < n)) validate slot (output r) slot')
    (hperiod : r.period = plan.period rounds.length)
    (hplan : FinishesAt validate n ((rounds ++ [r]).filterMap (invoked output))) :
    Planned plan n output (rounds ++ [r]) := by
  have hdue := hfills.called
  rw [h.is_due hholds] at hdue
  rw [List.filterMap_append] at hplan
  cases houtput : output r with
  | none =>
      -- The callback has had all its turns.
      have hge : n ≤ rounds.length := by simpa [houtput] using hdue
      refine ⟨?_, ?_⟩
      · rw [has_finished_snoc, houtput, h.finished, Option.any_none, Bool.or_false,
          Bool.eq_iff_iff, List.length_append, List.length_singleton]
        simp only [decide_eq_true_eq]
        omega
      · have htold := h.told
        rw [Nat.min_eq_left hge] at htold
        rw [List.filterMap_append, List.map_append, htold, List.length_append,
          Nat.min_eq_left (by omega)]
        simp [invoked, houtput]
  | some flow =>
      have hlt : rounds.length < n := by simpa [houtput] using hdue
      have hinvoked : [r].filterMap (invoked output) = [⟨r.period, .ok flow⟩] := by
        simp [invoked, houtput]
      rw [hinvoked] at hplan
      obtain ⟨flow', hflow, -, hfinished⟩ := h.next hlt hplan
      obtain rfl : flow = flow' := Except.ok.inj hflow
      refine ⟨?_, ?_⟩
      · rw [has_finished_snoc, houtput, h.finished, Option.any_some, hfinished,
          Bool.eq_iff_iff, List.length_append, List.length_singleton]
        simp only [Bool.or_eq_true, decide_eq_true_eq]
        omega
      · have htold := h.told
        rw [Nat.min_eq_right (by omega)] at htold
        rw [List.filterMap_append, hinvoked, List.map_append, htold, List.length_append,
          List.length_singleton, Nat.min_eq_right (by omega), List.range_succ, List.map_append]
        simp [hperiod]

end Planned

/-! ## Rounds that go to plan -/

/-- Rounds in which the states and the outputs come as planned. -/
structure Keeping (plan : Plan) (rounds : List Round) : Prop where
  regular : Regular plan.origin plan.step (rounds.map Round.state)
  torque : FinishesAt Torques.validate plan.torque (rounds.filterMap (invoked Round.torque))
  motion : FinishesAt Target.validate plan.motion (rounds.filterMap (invoked Round.motion))

/-- Rounds in which both callbacks were called as planned. -/
structure OnPlan (plan : Plan) (rounds : List Round) : Prop where
  torque : Planned plan plan.torque Round.torque rounds
  motion : Planned plan plan.motion Round.motion rounds

section Plan

variable {supervisor : Supervisor} {r : Round}

/-- Where a session with the planned callbacks stands. -/
abbrev Stands (supervisor : Supervisor) (plan : Plan) :=
  Standing supervisor plan.nominal (decide (0 < plan.torque)) (decide (0 < plan.motion))

theorem Keeping.of_append {more : List Round} (h : Keeping plan (rounds ++ more)) :
    Keeping plan rounds where
  regular := by
    have hregular := h.regular
    rw [List.map_append] at hregular
    exact hregular.of_append
  torque := by
    have htorque := h.torque
    rw [List.filterMap_append] at htorque
    exact htorque.of_append
  motion := by
    have hmotion := h.motion
    rw [List.filterMap_append] at hmotion
    exact hmotion.of_append

theorem OnPlan.advance (h : OnPlan plan rounds) (hstands : Stands supervisor plan rounds p)
    (hadvance : Advance (decide (0 < plan.torque)) (decide (0 < plan.motion)) p r p')
    (hkeeping : Keeping plan (rounds ++ [r])) : OnPlan plan (rounds ++ [r]) := by
  have hregular := hkeeping.regular
  rw [List.map_append] at hregular
  have hperiod := hstands.planned_period hadvance.checked hregular
  exact ⟨h.torque.fills hstands.torque hadvance.torque hperiod hkeeping.torque,
    h.motion.fills hstands.motion hadvance.motion hperiod hkeeping.motion⟩

theorem Rounds.on_plan
    (h : Rounds (decide (0 < plan.torque)) (decide (0 < plan.motion))
      (.opening supervisor plan.nominal (decide (0 < plan.torque)) (decide (0 < plan.motion)))
      rounds p) (hkeeping : Keeping plan rounds) : OnPlan plan rounds := by
  induction h with
  | nil => exact ⟨.nil plan _ _, .nil plan _ _⟩
  | snoc hrounds hadvance _ ih =>
      exact (ih hkeeping.of_append).advance hrounds.standing hadvance hkeeping

/-- All callbacks have finished when as many cycles are over as were planned. -/
theorem OnPlan.finished (h : OnPlan plan rounds) (hstands : Stands supervisor plan rounds p) :
    p.finished = decide (plan.cycles ≤ rounds.length) := by
  rw [Progress.finished, h.torque.slot_finished hstands.torque,
    h.motion.slot_finished hstands.motion, Bool.eq_iff_iff]
  simp only [Bool.and_eq_true, decide_eq_true_eq, Plan.cycles, Nat.max_le]

/-- A session goes on until as many cycles are over as were planned. -/
theorem Rounds.before_end
    (h : Rounds (decide (0 < plan.torque)) (decide (0 < plan.motion))
      (.opening supervisor plan.nominal (decide (0 < plan.torque)) (decide (0 < plan.motion)))
      rounds p) (hkeeping : Keeping plan rounds) (hbegun : 0 < plan.cycles) :
    rounds.length < plan.cycles := by
  have hfinished := (h.on_plan hkeeping).finished h.standing
  cases h with
  | nil => exact hbegun
  | snoc hrounds hadvance hunfinished =>
      rw [hunfinished, eq_comm, decide_eq_false_iff_not] at hfinished
      omega

end Plan

/-! ## The calls of a session -/

theorem calls_torque (answer : Answer Unit) (r : Round) :
    (r.calls answer).filterMap Call.torque? = (invoked Round.torque r).toList := by
  cases htorque : r.torque <;> cases hmotion : r.motion <;>
    simp [Round.calls, Round.turns, turnCalls, Call.torque?, invoked, htorque, hmotion,
      List.filterMap_cons]

theorem calls_motion (answer : Answer Unit) (r : Round) :
    (r.calls answer).filterMap Call.motion? = (invoked Round.motion r).toList := by
  cases htorque : r.torque <;> cases hmotion : r.motion <;>
    simp [Round.calls, Round.turns, turnCalls, Call.motion?, invoked, htorque, hmotion,
      List.filterMap_cons]

/-- The calls of a callback in some rounds, told by those in one round. -/
theorem rounds_invocations {which : Call → Option (Invocation α)}
    {output : Round → Option (Flow α)}
    (h : ∀ answer r, (Round.calls answer r).filterMap which = (invoked output r).toList)
    (rounds : List Round) :
    (rounds.flatMap Round.accepted).filterMap which = rounds.filterMap (invoked output) := by
  induction rounds with
  | nil => rfl
  | cons r rest ih =>
      rw [List.flatMap_cons, List.filterMap_append, h, ih]
      cases houtput : invoked output r <;> simp [houtput]

section Undisturbed

variable {supervisor : Supervisor} {r : Round}

theorem keeping_of_undisturbed
    (h : plan.Undisturbed (rounds.flatMap Round.accepted ++ calls)) : Keeping plan rounds where
  regular := by
    have hregular := h.regular
    rw [received_after_rounds] at hregular
    exact hregular.of_append
  torque := by
    have htorque := h.torque
    rw [List.filterMap_append, rounds_invocations calls_torque] at htorque
    exact htorque.of_append
  motion := by
    have hmotion := h.motion
    rw [List.filterMap_append, rounds_invocations calls_motion] at hmotion
    exact hmotion.of_append

/-- A state comes and passes its checks. -/
theorem Opening.undisturbed {e : Ending} (hplan : plan.Feasible)
    (hsuits : enforcement.Suits plan.origin.controllerMode)
    (hstands : Stands enforcement.supervisor plan rounds p)
    (hlength : rounds.length ≤ plan.cycles)
    (hcalls : plan.Undisturbed (rounds.flatMap Round.accepted ++ calls)) :
    ¬ Opening p calls (.error e) := by
  intro hopening
  generalize houtcome : Except.error e = outcome at hopening
  cases hopening with
  | unanswered answer e' hanswer =>
      rcases hcalls.answered answer (by simp) with ⟨state, rfl⟩ | hlate
      · cases hanswer
      · -- There would have been time for this state.
        rw [received_after_rounds, received_unanswered hanswer, List.append_nil,
          List.length_map] at hlate
        have hle := Nat.mul_le_mul_right plan.step.nanos (Nat.add_le_add_right hlength 1)
        have htime := hplan.time
        omega
  | answered state =>
      have hregular := hcalls.regular
      rw [received_after_rounds] at hregular
      have hpasses := passes_of_regular hregular hsuits hplan (by simpa using hlength)
      obtain ⟨next, hcheck⟩ := (hstands.check_ok_iff state).mpr hpasses
      rw [hcheck] at houtcome
      cases houtcome

/-- The turn of a callback that gives what is planned. -/
theorem Turn.undisturbed {n cycle : Nat} {output : Round → Option (Flow α)} {slot : Slot α}
    {validate : α → Except ValueError Unit} {kind : CallbackKind}
    {call : Except String (Flow α) → Call} {turns : List Call} {e : Ending} {period : Duration}
    {which : Call → Option (Invocation α)}
    (hwhich : ∀ given, which (call given) = some ⟨period, given⟩)
    (hplanned : Planned plan n output rounds)
    (hholds : Holds (decide (0 < n)) output rounds slot)
    (hfinishes : FinishesAt validate n
      (rounds.filterMap (invoked output) ++ turns.filterMap which)) :
    ¬ Turn kind call (decide (0 < n)) validate slot cycle turns (.error e) := by
  intro hturn
  have hnext (hdue : slot.isDue (decide (0 < n)) = true) {given : Except String (Flow α)}
      (hturns : turns = [call given]) :
      ∃ flow, given = .ok flow ∧ validate flow.value = .ok () := by
    rw [hplanned.is_due hholds, decide_eq_true_eq] at hdue
    rw [hturns, List.filterMap_cons, hwhich] at hfinishes
    obtain ⟨flow, hflow, hvalid, -⟩ := hplanned.next hdue hfinishes
    exact ⟨flow, hflow, hvalid⟩
  cases hturn with
  | failed reason hdue =>
      obtain ⟨flow, hflow, -⟩ := hnext hdue rfl
      cases hflow
  | invalid flow error hdue hinvalid =>
      obtain ⟨flow', hflow, hvalid⟩ := hnext hdue rfl
      cases hflow
      rw [hinvalid] at hvalid
      cases hvalid

/-- No cycle ends the session before its time. -/
theorem Faltering.undisturbed {e : Ending} (hplan : plan.Feasible)
    (hsuits : enforcement.Suits plan.origin.controllerMode)
    (hstands : Stands enforcement.supervisor plan rounds p) (hon : OnPlan plan rounds)
    (hlength : rounds.length ≤ plan.cycles)
    (hcalls : plan.Undisturbed (rounds.flatMap Round.accepted ++ calls)) :
    ¬ Faltering (decide (0 < plan.torque)) (decide (0 < plan.motion)) p calls e := by
  have htorque := hcalls.torque
  rw [List.filterMap_append, rounds_invocations calls_torque] at htorque
  have hmotion := hcalls.motion
  rw [List.filterMap_append, rounds_invocations calls_motion] at hmotion
  intro hfaltering
  cases hfaltering with
  | unopened hopening => exact Opening.undisturbed hplan hsuits hstands hlength hcalls hopening
  | @torqueFailed state period _ turns _ hcheck hturn =>
      have hturns : (Call.receive (.value state) :: turns).filterMap Call.torque? =
          turns.filterMap Call.torque? := rfl
      rw [hturns] at htorque
      exact Turn.undisturbed (fun _ => rfl) hon.torque hstands.torque htorque hturn
  | @motionFailed state period _ torque _ turns _ hcheck hfills hturn =>
      have hturns : (Call.receive (.value state) :: turnCalls (.torque state period) torque ++
          turns).filterMap Call.motion? = turns.filterMap Call.motion? := by
        cases torque <;> rfl
      rw [hturns] at hmotion
      exact Turn.undisturbed (fun _ => rfl) hon.motion hstands.motion hmotion hturn
  | @unsent r _ answer _ hadvance hanswer =>
      have haccepted : answer = .value () :=
        hcalls.accepted r.command answer (by simp [Round.calls])
      subst haccepted
      cases hanswer

/-- The last cycle of a session that goes to plan. -/
theorem Closing.undisturbed {last : Command} {outcome : Except Ending Nat} (hplan : plan.Feasible)
    (hsuits : enforcement.Suits plan.origin.controllerMode)
    (hstands : Stands enforcement.supervisor plan rounds p)
    (hlength : rounds.length ≤ plan.cycles)
    (hcalls : plan.Undisturbed (rounds.flatMap Round.accepted ++ calls))
    (h : Closing p last calls outcome) :
    outcome = .ok rounds.length ∧ ∃ state,
      calls = [.receive (.value state), .send (last.terminal state.messageId) (.value ())] := by
  cases h with
  | unopened hopening =>
      exact absurd hopening (Opening.undisturbed hplan hsuits hstands hlength hcalls)
  | @unsent state _ _ answer _ hcheck hanswer =>
      have haccepted : answer = .value () :=
        hcalls.accepted (last.terminal state.messageId) answer (by simp)
      subst haccepted
      cases hanswer
  | @closed state now p' hcheck =>
      obtain ⟨-, _, _, -, -, rfl⟩ := Progress.check_ok hcheck
      refine ⟨?_, state, rfl⟩
      simp [hstands.cycle]

/-- The planned rounds and a last cycle are all that was planned. -/
theorem OnPlan.fulfilled {state : ArmState} {c : Command} (h : OnPlan plan rounds)
    (hcycles : plan.cycles = rounds.length)
    (hregular : Regular plan.origin plan.step (received
      (rounds.flatMap Round.accepted ++ [.receive (.value state), .send c (.value ())]))) :
    plan.Fulfilled
      (rounds.flatMap Round.accepted ++ [.receive (.value state), .send c (.value ())]) where
  waited := by
    rw [List.countP_append, rounds_received, hcycles]
    rfl
  received := by
    rw [received_after_rounds, List.length_append, List.length_map, hcycles]
    rfl
  regular := hregular
  accepted := by
    rw [List.countP_append, rounds_accepted_count, hcycles]
    rfl
  torque := by
    have hle : plan.torque ≤ rounds.length := hcycles ▸ Nat.le_max_left ..
    have htold := h.torque.told
    rw [Nat.min_eq_left hle] at htold
    rw [List.filterMap_append, rounds_invocations calls_torque, List.map_append, htold]
    exact List.append_nil _
  motion := by
    have hle : plan.motion ≤ rounds.length := hcycles ▸ Nat.le_max_right ..
    have htold := h.motion.told
    rw [Nat.min_eq_left hle] at htold
    rw [List.filterMap_append, rounds_invocations calls_motion, List.map_append, htold]
    exact List.append_nil _

/-- When neither the link nor a callback gets in the way, a session that is followed to its end
comes to the planned number of cycles, and its calls are the planned ones. -/
theorem Course.fulfilled {outcome : Except Ending Nat} (hbegun : 0 < plan.cycles)
    (hplan : plan.Feasible)
    (hsuits : enforcement.Suits plan.origin.controllerMode)
    (h : Course (decide (0 < plan.torque)) (decide (0 < plan.motion))
      (.opening enforcement.supervisor plan.nominal (decide (0 < plan.torque))
        (decide (0 < plan.motion))) calls outcome)
    (hcalls : plan.Undisturbed calls)
    (hended : outcome = .error (.halt .unfinished) →
      plan.cycles ≤ calls.countP Call.isAccepted) :
    outcome = .ok plan.cycles ∧ plan.Fulfilled calls := by
  cases h with
  | @unfinished rounds p hrounds =>
      have hkeeping : Keeping plan rounds :=
        keeping_of_undisturbed (by rw [List.append_nil]; exact hcalls)
      have hlength := hrounds.before_end hkeeping hbegun
      have haccepted := hended rfl
      rw [rounds_accepted_count] at haccepted
      omega
  | faltered hrounds hfaltering =>
      have hkeeping := keeping_of_undisturbed hcalls
      have hlength := hrounds.before_end hkeeping hbegun
      exact absurd hfaltering (Faltering.undisturbed hplan hsuits hrounds.standing
        (hrounds.on_plan hkeeping) (Nat.le_of_lt hlength) hcalls)
  | @terminal rounds p p' r more _ hrounds hadvance hfinished hclosing =>
      have hkeeping := keeping_of_undisturbed hcalls
      have hlength := hrounds.before_end hkeeping.of_append hbegun
      have hstands := hrounds.standing.advance hadvance
      have hon := (hrounds.on_plan hkeeping.of_append).advance hrounds.standing hadvance hkeeping
      have hcycles : plan.cycles = (rounds ++ [r]).length := by
        have hall := hon.finished hstands
        rw [hfinished, eq_comm, decide_eq_true_eq] at hall
        rw [List.length_append, List.length_singleton] at hall ⊢
        omega
      obtain ⟨houtcome, state, hmore⟩ := Closing.undisturbed hplan hsuits hstands
        (Nat.le_of_eq hcycles.symm) hcalls hclosing
      refine ⟨by rw [houtcome, hcycles], ?_⟩
      subst hmore
      exact hon.fulfilled hcycles hcalls.regular

end Undisturbed

end Control

end ArmControl
