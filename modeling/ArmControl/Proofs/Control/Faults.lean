import ArmControl.Proofs.Control.Adherence
import ArmControl.Proofs.Control.Standing

/-!
# The first fault wins

A control session that fails does so in one cycle, after cycles in which nothing went wrong and
whose commands were all accepted, and its error is the first thing that went wrong in that cycle.
`FirstFault` lists what can go wrong in the order in which a cycle comes to it; each of its cases
says that everything before it went well. `Faultless` says of a cycle that none of this happened in
it. `session_first_fault` is the main theorem.
-/

namespace ArmControl

/-- What a session wants of the controller mode before its first state. -/
inductive Enforcement
  | unenforced
  | implied
  | requested (mode : ControllerMode)

namespace Enforcement

/-- The supervisor of a session that begins. -/
def supervisor : Enforcement → Supervisor
  | unenforced => .unenforced
  | implied => .implied
  | requested mode => .forMode mode

/-- The mode expected of the state after these: no mode at all, that of the first state, or the one
that was requested. -/
def expected (enforcement : Enforcement) (states : List ArmState) : Option ReportedMode :=
  match enforcement with
  | unenforced => none
  | implied => states.head?.map ArmState.controllerMode
  | requested mode => some mode.reported

theorem supervisor_expecting (enforcement : Enforcement) (states : List ArmState) :
    enforcement.supervisor.expecting states = enforcement.expected states := by
  cases enforcement <;> rfl

theorem supervisor_is_faulted (enforcement : Enforcement) :
    enforcement.supervisor.isFaulted = false := by
  cases enforcement <;> rfl

end Enforcement

namespace Call

/-- Whether the call waits for a state. -/
def isReceive : Call → Bool
  | receive _ => true
  | _ => false

/-- Whether the call sends a command that is accepted. -/
def isAccepted : Call → Bool
  | send _ (.value ()) => true
  | _ => false

end Call

namespace RobotError

/-- Whether the error is about the controller mode. -/
def isControl : RobotError → Bool
  | control _ => true
  | _ => false

/-- Whether the error is about an output that may not be sent. -/
def isNumeric : RobotError → Bool
  | numeric _ => true
  | _ => false

end RobotError

namespace Control

/-- A state with the expected mode, and later than the state before it. -/
structure Fit (expected : Option ReportedMode) (previous : Option Duration) (state : ArmState) :
    Prop where
  mode : ∀ mode ∈ expected, state.controllerMode = mode
  time : ∀ time ∈ previous, time < state.time

/-- A callback that was called if it had its turn, and gave an output that passes its check. -/
structure Passed {α : Type} (validate : α → Except ValueError Unit) (due : Bool)
    (output : Option (Flow α)) : Prop where
  called : output.isSome = due
  valid : ∀ flow ∈ output, validate flow.value = .ok ()

/-- A callback that fails, or gives an output that does not pass its check. -/
inductive Offence {α : Type} (kind : CallbackKind) (call : Except String (Flow α) → Call)
    (validate : α → Except ValueError Unit) (cycle : Nat) : List Call → RobotError → Prop
  | failed (reason : String) :
      Offence kind call validate cycle [call (.error reason)] (.callback reason)
  | invalid (flow : Flow α) (error : ValueError) :
      validate flow.value = .error error →
      Offence kind call validate cycle [call (.ok flow)] (.numeric ⟨cycle, kind, error⟩)

/-- The calls of a cycle up to the first thing that goes wrong in it, and the error that this is.
A cycle waits for a state, checks its mode and then its time, has the turn of each callback and the
check of its output, first of the torques and then of the motion, and sends its command. -/
inductive FirstFault (cycle : Nat) (expected : Option ReportedMode) (previous : Option Duration)
    (torqueDue motionDue : Bool) : List Call → RobotError → Prop
  | receive (error : LinkError) :
      FirstFault cycle expected previous torqueDue motionDue [.receive (.failure error)]
        (.communication (.link error))
  | mode (state : ArmState) (mode : ReportedMode) :
      expected = some mode → mode ≠ state.controllerMode →
      FirstFault cycle expected previous torqueDue motionDue [.receive (.value state)]
        (.control ⟨mode, state.controllerMode, cycle⟩)
  | time (state : ArmState) (time : Duration) :
      (∀ mode ∈ expected, state.controllerMode = mode) →
      previous = some time → ¬ time < state.time →
      FirstFault cycle expected previous torqueDue motionDue [.receive (.value state)]
        (.communication (.clockStalled time state.time))
  | torque (state : ArmState) (period : Duration) (calls : List Call) (error : RobotError) :
      Fit expected previous state → torqueDue = true →
      Offence .torque (.torque state period) Torques.validate cycle calls error →
      FirstFault cycle expected previous torqueDue motionDue (.receive (.value state) :: calls)
        error
  | motion (state : ArmState) (period : Duration) (torque : Option (Flow Torques))
      (calls : List Call) (error : RobotError) :
      Fit expected previous state → Passed Torques.validate torqueDue torque → motionDue = true →
      Offence .motion (.motion state period) Target.validate cycle calls error →
      FirstFault cycle expected previous torqueDue motionDue
        (.receive (.value state) :: turnCalls (.torque state period) torque ++ calls) error
  | send (state : ArmState) (period : Duration) (torque : Option (Flow Torques))
      (motion : Option (Flow Target)) (command : Command) (error : LinkError) :
      Fit expected previous state → Passed Torques.validate torqueDue torque →
      Passed Target.validate motionDue motion → command.messageId = state.messageId →
      FirstFault cycle expected previous torqueDue motionDue
        (.receive (.value state) :: turnCalls (.torque state period) torque ++
          turnCalls (.motion state period) motion ++ [.send command (.failure error)])
        (.communication (.link error))

/-- A round in which nothing went wrong, after these rounds: its state passes the checks of the mode
and of the time, the callbacks that have a turn give outputs that pass theirs, and its command
answers its state. -/
structure Faultless (enforcement : Enforcement) (withTorque withMotion : Bool)
    (earlier : List Round) (r : Round) : Prop where
  fit : Fit (enforcement.expected (earlier.map Round.state))
    ((earlier.map Round.state).getLast?.map ArmState.time) r.state
  torque : Passed Torques.validate (withTorque && !hasFinished Round.torque earlier) r.torque
  motion : Passed Target.validate (withMotion && !hasFinished Round.motion earlier) r.motion
  paired : r.command.messageId = r.state.messageId

/-- A session that fails in a cycle: its rounds before that cycle, in which nothing went wrong, and
the calls of the cycle. -/
structure FailedIn (enforcement : Enforcement) (withTorque withMotion : Bool) (calls : List Call)
    (error : RobotError) (cycle : Nat) (rounds : List Round) (last : List Call) : Prop where
  received : calls.countP Call.isReceive = cycle
  accepted : calls.countP Call.isAccepted + 1 = cycle
  calls : calls = rounds.flatMap Round.accepted ++ last
  faultless : ∀ earlier r later, rounds = earlier ++ r :: later →
    Faultless enforcement withTorque withMotion earlier r
  fault : FirstFault cycle (enforcement.expected (rounds.map Round.state))
    ((rounds.map Round.state).getLast?.map ArmState.time)
    (withTorque && !hasFinished Round.torque rounds)
    (withMotion && !hasFinished Round.motion rounds) last error

/-! ## Counting -/

/-- A turn is not counted when no call of its callback is. -/
theorem turn_calls_count {α : Type} {call : Except String (Flow α) → Call} {counted : Call → Bool}
    (hcall : ∀ output, counted (call output) = false) (flow : Option (Flow α)) :
    (turnCalls call flow).countP counted = 0 := by
  cases flow <;> simp [turnCalls, hcall]

theorem Offence.count {α : Type} {kind : CallbackKind} {call : Except String (Flow α) → Call}
    {validate : α → Except ValueError Unit} {cycle : Nat} {calls : List Call} {error : RobotError}
    {counted : Call → Bool} (h : Offence kind call validate cycle calls error)
    (hcall : ∀ output, counted (call output) = false) : calls.countP counted = 0 := by
  cases h <;> simp [hcall]

section Counted

variable (counted : Call → Bool)
  (htorque : ∀ state period output, counted (.torque state period output) = false)
  (hmotion : ∀ state period output, counted (.motion state period output) = false)

include htorque hmotion

/-- In a round, one call is counted when that holds of its exchange with the link. -/
theorem rounds_count (hround : ∀ state command,
      [Call.receive (.value state), .send command (.value ())].countP counted = 1)
    (rounds : List Round) :
    (rounds.flatMap Round.accepted).countP counted = rounds.length := by
  induction rounds with
  | nil => rfl
  | cons r rest ih =>
      have hr := hround r.state r.command
      simp only [List.countP_cons, List.countP_nil] at hr
      simp only [List.flatMap_cons, Round.calls, Round.turns, List.countP_append, List.countP_cons,
        List.countP_nil, List.cons_append, turn_calls_count (htorque r.state r.period),
        turn_calls_count (hmotion r.state r.period), ih, List.length_cons]
      omega

/-- In the cycle of the first fault, what counts is the call that waits for a state. -/
theorem FirstFault.count (hsend : ∀ command error, counted (.send command (.failure error)) = false)
    {n : Nat} (hreceive : ∀ answer, [Call.receive answer].countP counted = n) {cycle : Nat}
    {expected : Option ReportedMode} {previous : Option Duration} {torqueDue motionDue : Bool}
    {calls : List Call} {error : RobotError}
    (h : FirstFault cycle expected previous torqueDue motionDue calls error) :
    calls.countP counted = n := by
  cases h with
  | receive error => exact hreceive (.failure error)
  | mode state | time state => exact hreceive (.value state)
  | torque state period calls _ _ _ hoffence =>
      rw [List.countP_cons, hoffence.count (htorque state period)]
      simpa [List.countP_singleton] using hreceive (.value state)
  | motion state period torque calls _ _ _ _ hoffence =>
      rw [List.cons_append, List.countP_cons, List.countP_append,
        turn_calls_count (htorque state period), hoffence.count (hmotion state period)]
      simpa [List.countP_singleton] using hreceive (.value state)
  | send state period torque motion command error =>
      rw [List.append_assoc, List.cons_append, List.countP_cons, List.countP_append,
        List.countP_append, turn_calls_count (htorque state period),
        turn_calls_count (hmotion state period), List.countP_singleton, hsend]
      simpa [List.countP_singleton] using hreceive (.value state)

end Counted

/-- A round waits for one state. -/
theorem rounds_received (rounds : List Round) :
    (rounds.flatMap Round.accepted).countP Call.isReceive = rounds.length :=
  rounds_count Call.isReceive (fun _ _ _ => rfl) (fun _ _ _ => rfl) (fun _ _ => rfl) rounds

/-- A round sends one command. -/
theorem rounds_accepted_count (rounds : List Round) :
    (rounds.flatMap Round.accepted).countP Call.isAccepted = rounds.length :=
  rounds_count Call.isAccepted (fun _ _ _ => rfl) (fun _ _ _ => rfl) (fun _ _ => rfl) rounds

/-! ## From courses to faults -/

variable {σ μ : Type} {enforcement : Enforcement} {nominal : Duration}
  {withTorque withMotion : Bool} {rounds : List Round} {p p' : Progress} {r : Round}
  {error : RobotError}

theorem Offence.of_turn {α : Type} {kind : CallbackKind} {call : Except String (Flow α) → Call}
    {present : Bool} {validate : α → Except ValueError Unit} {slot : Slot α} {cycle : Nat}
    {calls : List Call}
    (h : Turn kind call present validate slot cycle calls (.error (.fault error))) :
    slot.isDue present = true ∧ Offence kind call validate cycle calls error := by
  cases h with
  | failed reason hdue => exact ⟨hdue, .failed reason⟩
  | invalid flow error hdue hinvalid => exact ⟨hdue, .invalid flow error hinvalid⟩

theorem Passed.of_fills {α : Type} {present : Bool} {validate : α → Except ValueError Unit}
    {slot slot' : Slot α} {output : Option (Flow α)}
    (h : Fills present validate slot output slot') :
    Passed validate (slot.isDue present) output := by
  refine ⟨h.called, ?_⟩
  cases h with
  | kept _ => simp
  | filled flow _ hvalid =>
      intro flow' hflow
      obtain rfl := Option.mem_some.mp hflow
      exact hvalid

/-- The state of a session that began with an enforcement. -/
abbrev Enforced (enforcement : Enforcement) (nominal : Duration) (withTorque withMotion : Bool)
    (rounds : List Round) (p : Progress) : Prop :=
  Standing enforcement.supervisor nominal withTorque withMotion rounds p

theorem Fit.of_check {state : ArmState} {next : Cycle × Progress}
    (h : Enforced enforcement nominal withTorque withMotion rounds p)
    (hcheck : p.check state = .ok next) :
    Fit (enforcement.expected (rounds.map Round.state))
      ((rounds.map Round.state).getLast?.map ArmState.time) state := by
  have hpasses := (h.check_ok_iff state).mp ⟨next, hcheck⟩
  constructor
  · rw [← Enforcement.supervisor_expecting]
    exact hpasses.mode
  · intro time htime
    obtain ⟨last, hlast, rfl⟩ := Option.map_eq_some_iff.mp htime
    exact hpasses.later last hlast

/-- A cycle whose command was built, from where the session stands. -/
theorem Faultless.of_advance (h : Enforced enforcement nominal withTorque withMotion rounds p)
    (hadvance : Advance withTorque withMotion p r p') :
    Faultless enforcement withTorque withMotion rounds r := by
  refine ⟨.of_check h hadvance.checked, ?_, ?_, ?_⟩
  · rw [← h.torque.is_due]
    exact .of_fills hadvance.torque
  · rw [← h.motion.is_due]
    exact .of_fills hadvance.motion
  · rw [hadvance.command]
    rfl

/-- All rounds after which a session goes on. -/
theorem Rounds.faultless
    (h : Rounds withTorque withMotion
      (.opening enforcement.supervisor nominal withTorque withMotion) rounds p) :
    ∀ earlier r later, rounds = earlier ++ r :: later →
      Faultless enforcement withTorque withMotion earlier r :=
  h.forall_split .of_advance

/-- The cycle that comes after these rounds in a session that fails in it. -/
abbrev FaultAfter (enforcement : Enforcement) (withTorque withMotion : Bool) (rounds : List Round)
    (calls : List Call) (error : RobotError) : Prop :=
  FirstFault (rounds.length + 1) (enforcement.expected (rounds.map Round.state))
    ((rounds.map Round.state).getLast?.map ArmState.time)
    (withTorque && !hasFinished Round.torque rounds)
    (withMotion && !hasFinished Round.motion rounds) calls error

/-- A session that fails before it comes to the callbacks. -/
theorem FaultAfter.of_opening {calls : List Call}
    (h : Enforced enforcement nominal withTorque withMotion rounds p)
    (hopening : Opening p calls (.error (.fault error))) :
    FaultAfter enforcement withTorque withMotion rounds calls error := by
  generalize houtcome : Except.error (Ending.fault error) = outcome at hopening
  cases hopening with
  | unanswered answer e hanswer =>
      cases houtcome
      obtain ⟨e, rfl, rfl⟩ := Answer.outcome_fault hanswer
      exact .receive e
  | answered state =>
      have hexpected : p.supervisor.expected? = enforcement.expected (rounds.map Round.state) := by
        rw [h.supervisor, Supervisor.seen_expected, Enforcement.supervisor_expecting]
      have hsupervised : p.supervisor.isFaulted = false := by
        rw [h.supervisor, Supervisor.seen_is_faulted, Enforcement.supervisor_is_faulted]
      rcases Progress.check_error houtcome.symm with ⟨fault, hverdict, heq⟩ | ⟨hverdict, htime⟩
      · cases heq
        obtain ⟨mode, hmode, hne, rfl⟩ := Supervisor.observe_error hverdict hsupervised
        rw [h.cycle]
        exact .mode state mode (hexpected ▸ hmode) hne
      · rcases htime with ⟨previous, hstalled, heq⟩ | ⟨-, heq⟩
        · cases heq
          obtain ⟨last, hlast, rfl, hlate⟩ := h.clock.tick_stalled hstalled
          refine .time state last.time ?_ (by rw [hlast]; rfl) hlate
          rw [← hexpected]
          exact (Supervisor.observe_ok_iff.mp hverdict).2
        · cases heq

/-- A session that fails in an ordinary cycle. -/
theorem FaultAfter.of_faltering {calls : List Call}
    (h : Enforced enforcement nominal withTorque withMotion rounds p)
    (hfaltering : Faltering withTorque withMotion p calls (.fault error)) :
    FaultAfter enforcement withTorque withMotion rounds calls error := by
  have hcycle {p' : Progress} {state : ArmState} {now : Cycle}
      (hcheck : p.check state = .ok (now, p')) : p'.cycle = rounds.length + 1 := by
    obtain ⟨-, _, _, -, -, rfl⟩ := Progress.check_ok hcheck
    rw [h.cycle]
  have htorque := h.torque.is_due
  have hmotion := h.motion.is_due
  cases hfaltering with
  | unopened hopening => exact .of_opening h hopening
  | torqueFailed hcheck hturn =>
      obtain ⟨hdue, hoffence⟩ := Offence.of_turn hturn
      rw [hcycle hcheck] at hoffence
      exact .torque _ _ _ _ (.of_check h hcheck) (htorque ▸ hdue) hoffence
  | motionFailed hcheck hfills hturn =>
      obtain ⟨hdue, hoffence⟩ := Offence.of_turn hturn
      rw [hcycle hcheck] at hoffence
      have hpassed := Passed.of_fills hfills
      rw [htorque] at hpassed
      exact .motion _ _ _ _ _ (.of_check h hcheck) hpassed (hmotion ▸ hdue) hoffence
  | @unsent r _ _ _ hadvance hanswer =>
      obtain ⟨e, rfl, rfl⟩ := Answer.outcome_fault hanswer
      have hfaultless := Faultless.of_advance h hadvance
      have hcalls : r.calls (.failure e) =
          .receive (.value r.state) :: turnCalls (.torque r.state r.period) r.torque ++
            turnCalls (.motion r.state r.period) r.motion ++ [.send r.command (.failure e)] := by
        simp [Round.calls, Round.turns]
      rw [hcalls]
      exact .send _ _ _ _ _ e hfaultless.fit hfaultless.torque hfaultless.motion hfaultless.paired

/-- A callback without a turn has nothing to pass. -/
theorem Passed.none {α : Type} {validate : α → Except ValueError Unit} {due : Bool}
    (hdue : due = false) : Passed validate due none :=
  ⟨hdue.symm, by simp⟩

theorem not_due {present done : Bool} (h : (!present || done) = true) :
    (present && !done) = false := by
  revert h
  cases present <;> cases done <;> decide

/-- A session that fails in the terminal cycle, in which no callback has a turn. -/
theorem FaultAfter.of_closing {calls : List Call} {last : Command}
    (h : Enforced enforcement nominal withTorque withMotion rounds p)
    (hfinished : p.finished = true) (hclosing : Closing p last calls (.error (.fault error))) :
    FaultAfter enforcement withTorque withMotion rounds calls error := by
  cases hclosing with
  | unopened hopening => exact .of_opening h hopening
  | @unsent state now _ _ _ hcheck hanswer =>
      obtain ⟨e, rfl, rfl⟩ := Answer.outcome_fault hanswer
      rw [h.finished, Bool.and_eq_true] at hfinished
      exact .send state now.period none none _ e (.of_check h hcheck)
        (.none (not_due hfinished.1)) (.none (not_due hfinished.2)) rfl

/-- Every course that ends with a fault. -/
theorem Course.failed_in {calls : List Call}
    (h : Course withTorque withMotion
      (.opening enforcement.supervisor nominal withTorque withMotion) calls
      (.error (.fault error))) :
    ∃ cycle rounds last,
      FailedIn enforcement withTorque withMotion calls error cycle rounds last := by
  obtain ⟨rounds, last, rfl, hfaultless, hfault⟩ : ∃ rounds last,
      calls = rounds.flatMap Round.accepted ++ last ∧
        (∀ earlier r later, rounds = earlier ++ r :: later →
          Faultless enforcement withTorque withMotion earlier r) ∧
        FaultAfter enforcement withTorque withMotion rounds last error := by
    cases h with
    | faltered hrounds hfaltering =>
        exact ⟨_, _, rfl, hrounds.faultless, .of_faltering hrounds.standing hfaltering⟩
    | terminal hrounds hadvance hfinished hclosing =>
        -- The round in which the last callback finished is not among those after which the session
        -- goes on.
        exact ⟨_, _, rfl,
          forall_split_snoc hrounds.faultless (.of_advance hrounds.standing hadvance),
          .of_closing (hrounds.standing.advance hadvance) hfinished hclosing⟩
  have hreceived := hfault.count Call.isReceive (fun _ _ _ => rfl) (fun _ _ _ => rfl)
    (fun _ _ => rfl) (fun _ => rfl)
  have haccepted := hfault.count Call.isAccepted (fun _ _ _ => rfl) (fun _ _ _ => rfl)
    (fun _ _ => rfl) (fun _ => rfl)
  refine ⟨rounds.length + 1, rounds, last, ?_, ?_, rfl, hfaultless, hfault⟩
  · rw [List.countP_append, hreceived, rounds_received]
  · rw [List.countP_append, haccepted, rounds_count Call.isAccepted (fun _ _ _ => rfl)
      (fun _ _ _ => rfl) fun _ _ => rfl]

/-- By how much a session raises the fault counters of its station: by one for the kind of fault
that ended it. -/
structure Counted (s s' : Station σ μ) (error : Option RobotError) : Prop where
  controlFaults : s'.metrics.controlFaults =
    s.metrics.controlFaults + if error.any RobotError.isControl then 1 else 0
  numericFaults : s'.metrics.numericFaults =
    s.metrics.numericFaults + if error.any RobotError.isNumeric then 1 else 0

theorem Outcome.counted {s s' : Station σ μ} {outcome : Except Ending Nat}
    {result : EStateM.Result Halt (Station σ μ) (Except RobotError Nat)}
    (h : Outcome s outcome s' result) {error : Option RobotError}
    (herror : (Ending.of? outcome) = error.map Ending.fault) : Counted s s' error := by
  refine ⟨?_, ?_⟩
  · rw [h.controlFaults, herror]
    cases error with
    | none => rfl
    | some e => cases e <;> rfl
  · rw [h.numericFaults, herror]
    cases error with
    | none => rfl
    | some e => cases e <;> rfl

/-- A control session that fails does so in one cycle, after cycles in which nothing went wrong and
whose commands were all accepted, with the error of the first thing that went wrong in that cycle
and with no call after it. Only a fault of the mode, and only one of a callback's numbers, is
counted as such. -/
theorem session_first_fault (r : Robot σ) (enforcement : Enforcement) (scripts : Scripts μ)
    (limit : Nat) (s : Occupied σ μ) :
    match session r enforcement.supervisor scripts limit s.station with
    | .ok (.error error) s' => Counted s.station s' (some error) ∧ ∃ cycle rounds last,
        FailedIn enforcement scripts.torque.isSome scripts.motion.isSome
          (trace r enforcement.supervisor scripts limit s.station) error cycle rounds last
    | .ok (.ok _) s' => Counted s.station s' none
    | .error _ s' => Counted s.station s' none := by
  obtain ⟨outcome, s', hcourse, houtcome⟩ :=
    session_course r enforcement.supervisor scripts limit s
  rw [houtcome.result]
  cases outcome with
  | ok n => exact houtcome.counted rfl
  | error e =>
      cases e with
      | fault error => exact ⟨houtcome.counted rfl, hcourse.failed_in⟩
      | halt cause => exact ⟨houtcome.controlFaults, houtcome.numericFaults⟩

end Control

end ArmControl
