import ArmControl.Proofs.Control.Departure
import ArmControl.Proofs.Robot.Limit

/-!
# Reading sessions

A reading session accounts for each state that it receives: it hands it to the predicate once, and
goes on to the next one as long as the predicate says so and the mode is the expected one.
`session_reads` is the main theorem. It says of every way in which a session ends which states were
received, what the predicate answered to each, and what ended it; and that the times of the states
play no part in this.
-/

namespace ArmControl

variable {σ μ : Type}

/-- The state that the call hands to the predicate of a reading session, and the answer. -/
def Call.asked? : Call → Option (ArmState × Bool)
  | predicate state goOn => some (state, goOn)
  | receive _ | send _ _ | request _ _ | torque _ _ _ | motion _ _ _ => none

/-- The states handed to the predicate in these calls, in their order, and its answers. -/
def asked (calls : List Call) : List (ArmState × Bool) := calls.filterMap Call.asked?

theorem asked_append (calls more : List Call) :
    asked (calls ++ more) = asked calls ++ asked more :=
  List.filterMap_append

namespace Reading

/-! ## The calls of a session -/

/-- A reading session of a robot with the given program as its predicate. -/
def session (r : Robot σ) (supervisor : Supervisor) (keepOn : ArmState → Program μ Bool)
    (limit : Nat) : Task σ μ (Except RobotError Nat) :=
  (run r.driver supervisor (fun state => (keepOn state).run r limit) limit).run

/-- The same session over a traced line, with the calls of its predicate remembered. -/
def tracedSession (r : Robot σ) (supervisor : Supervisor) (keepOn : ArmState → Program μ Bool)
    (limit : Nat) : Task (Traced σ) μ (Except RobotError Nat) :=
  (run r.traced.driver supervisor
    (fun state => ((keepOn state).run r.traced limit).noting (.predicate state)) limit).run

/-- The calls of a reading session, in their order. -/
def trace (r : Robot σ) (supervisor : Supervisor) (keepOn : ArmState → Program μ Bool)
    (limit : Nat) (s : Station σ μ) : List Call :=
  (Task.after (tracedSession r supervisor keepOn limit) s.traced).line.trace

/-- Remembering the calls of a session changes neither its result nor its station. -/
theorem session_mirrors (r : Robot σ) (supervisor : Supervisor)
    (keepOn : ArmState → Program μ Bool) (limit : Nat) :
    Mirrors (tracedSession r supervisor keepOn limit) (session r supervisor keepOn limit) := by
  have hrun := (traced_coupling r.driver).reading_states
    (fun state => untraces_noting (.predicate state)
      (mirrors_iff.mp (program_mirrors r limit (keepOn state)))) limit supervisor 0
  exact mirrors_iff.mpr <| hrun.mono (fun _ _ h => h)
    (fun answer _ _ h => by cases answer <;> exact h) fun _ _ _ h => h

/-! ## The states of a course -/

/-- The calls of a cycle after which the session goes on. -/
def onward (state : ArmState) : List Call := [.receive (.value state), .predicate state true]

theorem onward_received (states : List ArmState) : received (states.flatMap onward) = states := by
  simp [received, onward, List.filterMap_flatMap, List.filterMap_cons, Call.received?]

theorem onward_asked (states : List ArmState) :
    asked (states.flatMap onward) = states.map (·, true) := by
  simp [asked, onward, List.filterMap_flatMap, List.filterMap_cons, Call.asked?,
    List.map_eq_flatMap]

theorem onward_count (states : List ArmState) :
    (states.flatMap onward).countP Call.isReceive = states.length := by
  simp [onward, List.countP_flatMap, List.countP_cons, Function.comp_def, Call.isReceive,
    List.map_const']

/-- The last calls of a session that went on after these states, and its outcome. -/
inductive Closing (enforcement : Enforcement) (states : List ArmState) :
    List Call → Except Ending Nat → Prop
  | unfinished : Closing enforcement states [] (.error (.halt .unfinished))
  | unanswered (answer : Answer ArmState) {e : Ending} :
      answer.outcome = .error e → Closing enforcement states [.receive answer] (.error e)
  | mismatched (state : ArmState) (mode : ReportedMode) :
      enforcement.expected states = some mode → mode ≠ state.controllerMode →
      Closing enforcement states [.receive (.value state)]
        (.error (.fault (.control ⟨mode, state.controllerMode, states.length + 1⟩)))
  | stopped (state : ArmState) :
      (∀ mode ∈ enforcement.expected states, state.controllerMode = mode) →
      Closing enforcement states [.receive (.value state), .predicate state false]
        (.ok (states.length + 1))

section Courses

variable {enforcement : Enforcement} {states : List ArmState} {supervisor : Supervisor}
  {cycle limit : Nat} {calls : List Call} {outcome : Except Ending Nat}

/-- A state passes when it is in the mode that is expected after the states before it. -/
theorem observe_ok_iff {state : ArmState} :
    ((enforcement.supervisor.seen states).observe state.controllerMode cycle).verdict = .ok () ↔
      ∀ mode ∈ enforcement.expected states, state.controllerMode = mode := by
  rw [Supervisor.observe_ok_iff, Supervisor.seen_is_faulted, Enforcement.supervisor_is_faulted,
    Supervisor.seen_expected, Enforcement.supervisor_expecting]
  exact and_iff_right rfl

/-- A session that comes after these states goes on after some more, all in the expected mode, and
then ends. -/
theorem Course.closes (h : Course supervisor cycle calls outcome)
    (hsupervisor : supervisor = enforcement.supervisor.seen states) (hcycle : cycle = states.length)
    (hstates : enforcement.Allows states) :
    ∃ more last, calls = more.flatMap onward ++ last ∧ enforcement.Allows (states ++ more) ∧
      Closing enforcement (states ++ more) last outcome := by
  induction h generalizing states with
  | unfinished supervisor cycle => exact ⟨[], [], rfl, by simpa using hstates, .unfinished⟩
  | unanswered answer hanswer =>
      exact ⟨[], _, rfl, by simpa using hstates, .unanswered answer hanswer⟩
  | mismatched state hverdict =>
      subst hsupervisor hcycle
      have hfaulted : (enforcement.supervisor.seen states).isFaulted = false := by
        rw [Supervisor.seen_is_faulted, Enforcement.supervisor_is_faulted]
      obtain ⟨mode, hmode, hne, rfl⟩ := Supervisor.observe_error hverdict hfaulted
      rw [Supervisor.seen_expected, Enforcement.supervisor_expecting] at hmode
      refine ⟨[], [.receive (.value state)], rfl, ?_⟩
      rw [List.append_nil]
      exact ⟨hstates, .mismatched state mode hmode hne⟩
  | stopped state hverdict =>
      subst hsupervisor hcycle
      refine ⟨[], [.receive (.value state), .predicate state false], rfl, ?_⟩
      rw [List.append_nil]
      exact ⟨hstates, .stopped state (observe_ok_iff.mp hverdict)⟩
  | wentOn state hverdict _ ih =>
      subst hsupervisor hcycle
      obtain ⟨more, last, rfl, hmore, hclosing⟩ := ih (Supervisor.seen_snoc hverdict) (by simp)
        (hstates.snoc (observe_ok_iff.mp hverdict))
      rw [List.append_assoc] at hmore hclosing
      exact ⟨state :: more, last, rfl, hmore, hclosing⟩

/-- A session waits for a state first, unless it has come to its limit. -/
theorem Course.starts (h : Course supervisor cycle calls outcome) :
    (∃ answer more, calls = .receive answer :: more) ∨
      calls = [] ∧ outcome = .error (.halt .unfinished) := by
  cases h with
  | unfinished => exact .inr ⟨rfl, rfl⟩
  | unanswered answer _ => exact .inl ⟨answer, _, rfl⟩
  | mismatched state _ | stopped state _ | wentOn state _ _ => exact .inl ⟨.value state, _, rfl⟩

/-- What becomes of a state in the expected mode, whatever its time: the next call hands it to the
predicate, and when the answer says to go on, the session waits for another one. -/
theorem Course.heeds (h : Course supervisor cycle calls outcome)
    (hsupervisor : supervisor = enforcement.supervisor.seen states) {earlier later : List Call}
    {state : ArmState} (hcalls : calls = earlier ++ .receive (.value state) :: later)
    (hmode : ∀ mode ∈ enforcement.expected (states ++ received earlier),
      state.controllerMode = mode) :
    ∃ goOn rest, later = .predicate state goOn :: rest ∧ (goOn = true →
      (∃ answer more, rest = .receive answer :: more) ∨
        rest = [] ∧ outcome = .error (.halt .unfinished)) := by
  induction h generalizing states earlier with
  | unfinished => simp at hcalls
  | unanswered answer hanswer =>
      cases earlier with
      | nil =>
          cases (List.cons.inj hcalls).1
          cases hanswer
      | cons first earlier => simp at hcalls
  | mismatched state' hverdict =>
      subst hsupervisor
      cases earlier with
      | nil =>
          cases (List.cons.inj hcalls).1
          rw [observe_ok_iff.mpr (by simpa [received] using hmode)] at hverdict
          cases hverdict
      | cons first earlier => simp at hcalls
  | stopped state' _ =>
      rcases earlier with _ | ⟨first, _ | ⟨second, earlier⟩⟩
      · obtain ⟨hstate, rfl⟩ := List.cons.inj hcalls
        cases hstate
        exact ⟨false, [], rfl, nofun⟩
      · simp at hcalls
      · simp at hcalls
  | wentOn state' hverdict hrest ih =>
      subst hsupervisor
      rcases earlier with _ | ⟨first, _ | ⟨second, earlier⟩⟩
      · obtain ⟨hstate, rfl⟩ := List.cons.inj hcalls
        cases hstate
        exact ⟨true, _, rfl, fun _ => hrest.starts⟩
      · simp at hcalls
      · simp only [List.cons_append, List.cons.injEq] at hcalls
        obtain ⟨rfl, rfl, hrest⟩ := hcalls
        refine ih (Supervisor.seen_snoc hverdict) hrest ?_
        simpa [received, List.filterMap_cons, Call.received?] using hmode

/-- A session that was not followed to its end has received as many states as the limit. -/
theorem follows_states_limit (d : Driver σ) {keepOn : ArmState → Task (Traced σ) μ Bool}
    (hkeep : ∀ state, Noted (.predicate state) (keepOn state)) (limit : Nat)
    (supervisor : Supervisor) (cycle : Nat) :
    Follows (Reading.states d.traced keepOn limit supervisor cycle) fun calls outcome =>
      outcome = .error (.halt .unfinished) → calls.countP Call.isReceive = limit := by
  induction limit generalizing supervisor cycle with
  | zero => exact .halt fun _ => rfl
  | succ limit ih =>
      refine .bind (follows_receive d) ?_ fun calls e hreceived => ?_
      · intro calls state hreceived
        obtain ⟨answer, rfl, -⟩ := hreceived
        refine .bind (follows_watch supervisor state (cycle + 1)) ?_ fun calls e hwatched => ?_
        · intro calls next hwatched
          obtain ⟨rfl, -⟩ := hwatched
          refine .bind (follows_noted (hkeep state)) ?_ fun calls e hnoted => ?_
          · intro calls goOn hnoted
            obtain ⟨_, rfl, -⟩ := hnoted
            cases goOn with
            | true =>
                refine .mono (ih next (cycle + 1)) fun calls outcome hlimit hunfinished => ?_
                simpa [List.countP_cons, Call.isReceive] using hlimit hunfinished
            | false => exact .after (.report _) (.pure fun hunfinished => by cases hunfinished)
          · obtain ⟨goOn, _, hanswer⟩ := hnoted
            cases hanswer
        · intro hunfinished
          obtain ⟨rfl, houtcome⟩ := hwatched
          split at houtcome <;> cases houtcome
          cases hunfinished
      · obtain ⟨answer, rfl, hanswer⟩ := hreceived
        exact fun hunfinished =>
          absurd (Except.error.inj hunfinished) (Answer.outcome_ended hanswer.symm)

end Courses

/-! ## The main theorem -/

/-- Every state in the expected mode, whatever its time, is handed to the predicate in the next
call. When the answer says to go on, the call after that waits for another state, unless the session
has received as many as its limit. -/
def Heeds (enforcement : Enforcement) (limit : Nat) (calls : List Call) : Prop :=
  ∀ earlier state later, calls = earlier ++ .receive (.value state) :: later →
    (∀ mode ∈ enforcement.expected (received earlier), state.controllerMode = mode) →
    ∃ goOn rest, later = .predicate state goOn :: rest ∧ (goOn = true →
      (∃ answer more, rest = .receive answer :: more) ∨
        rest = [] ∧ calls.countP Call.isReceive = limit)

/-- The calls of a session that was stopped by its predicate in cycle `n`: so many states were
received, all in the expected mode, and the predicate said to go on after each but the last. -/
structure Stopped (enforcement : Enforcement) (calls : List Call) (n : Nat)
    (states : List ArmState) (last : ArmState) : Prop where
  course : calls = states.flatMap onward ++ [.receive (.value last), .predicate last false]
  received : received calls = states ++ [last]
  answers : asked calls = states.map (·, true) ++ [(last, false)]
  cycle : n = states.length + 1
  allowed : enforcement.Allows (states ++ [last])

/-- What can be wrong with the answer to the wait for a state after these: it is a failure, or a
state in another mode than the expected one. -/
inductive Cause (enforcement : Enforcement) (states : List ArmState) :
    Answer ArmState → RobotError → Prop
  | failure (error : LinkError) :
      Cause enforcement states (.failure error) (.communication (.link error))
  | mode (state : ArmState) (mode : ReportedMode) :
      enforcement.expected states = some mode → mode ≠ state.controllerMode →
      Cause enforcement states (.value state)
        (.control ⟨mode, state.controllerMode, states.length + 1⟩)

/-- The calls of a session that failed when it waited for a state in cycle `n`: the states before it
were in the expected mode and the predicate said to go on after each of them, and there is no call
after the wait. -/
structure Failed (enforcement : Enforcement) (calls : List Call) (error : RobotError) (n : Nat)
    (states : List ArmState) (answer : Answer ArmState) : Prop where
  course : calls = states.flatMap onward ++ [.receive answer]
  attempts : calls.countP Call.isReceive = n
  answers : asked calls = states.map (·, true)
  cycle : n = states.length + 1
  allowed : enforcement.Allows states
  cause : Cause enforcement states answer error

section Closings

variable {enforcement : Enforcement} {states : List ArmState} {last : List Call}

theorem Closing.stopped_in {n : Nat} (h : Closing enforcement states last (.ok n))
    (hstates : enforcement.Allows states) :
    ∃ state, Stopped enforcement (states.flatMap onward ++ last) n states state := by
  cases h with
  | stopped state hmode =>
      refine ⟨state, rfl, ?_, ?_, rfl, hstates.snoc hmode⟩
      · rw [received_append, onward_received]
        rfl
      · rw [asked_append, onward_asked]
        rfl

theorem Closing.failed_in {error : RobotError}
    (h : Closing enforcement states last (.error (.fault error)))
    (hstates : enforcement.Allows states) :
    ∃ answer, Failed enforcement (states.flatMap onward ++ last) error (states.length + 1) states
      answer := by
  obtain ⟨answer, rfl, hcause⟩ :
      ∃ answer, last = [.receive answer] ∧ Cause enforcement states answer error := by
    cases h with
    | unanswered answer hanswer =>
        obtain ⟨e, rfl, rfl⟩ := Answer.outcome_fault hanswer
        exact ⟨_, rfl, .failure e⟩
    | mismatched state mode hmode hne => exact ⟨_, rfl, .mode state mode hmode hne⟩
  refine ⟨answer, rfl, ?_, ?_, rfl, hstates, hcause⟩
  · rw [List.countP_append, onward_count]
    rfl
  · rw [asked_append, onward_asked]
    simp [asked, Call.asked?]

theorem Closing.halted {cause : Halt} (h : Closing enforcement states last (.error (.halt cause))) :
    cause = .clockOverflow ∧ last = [.receive .overflow] ∨ cause = .unfinished ∧ last = [] := by
  cases h with
  | unfinished => exact .inr ⟨rfl, rfl⟩
  | unanswered answer hanswer =>
      cases answer <;> cases hanswer
      exact .inl ⟨rfl, rfl⟩

end Closings

/-- A reading session takes its course, and has received as many states as its limit when it was
not followed to its end. -/
theorem session_course (r : Robot σ) (supervisor : Supervisor)
    (keepOn : ArmState → Program μ Bool) (limit : Nat) (s : Occupied σ μ) :
    ∃ outcome s',
      (Course supervisor 0 (trace r supervisor keepOn limit s.station) outcome ∧
        (outcome = .error (.halt .unfinished) →
          (trace r supervisor keepOn limit s.station).countP Call.isReceive = limit)) ∧
      Control.Outcome s.station outcome s' (session r supervisor keepOn limit s.station) := by
  have hkeep (state : ArmState) : Noted (.predicate state)
      (((keepOn state).run r.traced limit).noting (.predicate state)) :=
    noting_noted r limit (keepOn state) (.predicate state)
  have hfollows : Follows (run r.traced.driver supervisor _ limit) _ :=
    Follows.and (follows_states r.driver hkeep limit supervisor 0)
      (follows_states_limit r.driver hkeep limit supervisor 0)
  exact Control.Outcome.of_follows hfollows (session_mirrors r supervisor keepOn limit) s

/-- What a reading session does, whatever the line answers and its predicate is, and however the
station was before. It makes no request and sends nothing, and no time keeps a state from being
read. When it gives a number, that many states were received and the predicate said to stop after
the last of them. When it gives an error, that is the failure of its last wait for a state or the
first state in another mode, and a fault of the mode is counted once. Without a result it was only
cut off, by the clock of the line or by the limit. -/
theorem session_reads (r : Robot σ) (enforcement : Enforcement)
    (keepOn : ArmState → Program μ Bool) (limit : Nat) (s : Occupied σ μ) :
    let calls := trace r enforcement.supervisor keepOn limit s.station
    (∀ call ∈ calls, call.isRequest = false ∧ call.isSend = false) ∧
      Heeds enforcement limit calls ∧
      match session r enforcement.supervisor keepOn limit s.station with
      | .ok (.ok n) s' => Control.Counted s.station s' none ∧
          ∃ states last, Stopped enforcement calls n states last
      | .ok (.error error) s' => Control.Counted s.station s' (some error) ∧
          ∃ n states answer, Failed enforcement calls error n states answer
      | .error .clockOverflow s' => Control.Counted s.station s' none ∧
          ∃ states : List ArmState, calls = states.flatMap onward ++ [.receive .overflow]
      | .error .unfinished s' => Control.Counted s.station s' none ∧
          ∃ states : List ArmState, calls = states.flatMap onward ∧ states.length = limit := by
  obtain ⟨outcome, s', ⟨hcourse, hlimit⟩, houtcome⟩ :=
    session_course r enforcement.supervisor keepOn limit s
  have hseen : enforcement.supervisor = enforcement.supervisor.seen [] := by
    cases enforcement <;> rfl
  obtain ⟨states, last, hcalls, hstates, hclosing⟩ :=
    hcourse.closes hseen rfl enforcement.allows_nil
  rw [List.nil_append] at hstates hclosing
  refine ⟨hcourse.only_reads, ?_, ?_⟩
  · intro earlier state later hsplit hmode
    obtain ⟨goOn, rest, hlater, hrest⟩ := hcourse.heeds hseen hsplit hmode
    exact ⟨goOn, rest, hlater, fun hgo => (hrest hgo).imp_right (And.imp_right hlimit)⟩
  · rw [houtcome.result, hcalls]
    cases outcome with
    | ok n =>
        obtain ⟨state, hstopped⟩ := hclosing.stopped_in hstates
        exact ⟨houtcome.counted rfl, states, state, hstopped⟩
    | error e =>
        cases e with
        | fault error =>
            obtain ⟨answer, hfailed⟩ := hclosing.failed_in hstates
            exact ⟨houtcome.counted rfl, _, states, answer, hfailed⟩
        | halt cause =>
            have hcounted : Control.Counted s.station s' none :=
              ⟨houtcome.controlFaults, houtcome.numericFaults⟩
            rcases hclosing.halted with ⟨rfl, rfl⟩ | ⟨rfl, rfl⟩
            · exact ⟨hcounted, states, rfl⟩
            · have hlength := hlimit rfl
              rw [hcalls, List.append_nil, onward_count] at hlength
              exact ⟨hcounted, states, List.append_nil _, hlength⟩

/-- A session over states whose times stand still and go back reads on until it is told to stop. -/
example :
    (asked (trace Prepared.robot .implied (fun state => .done (state.messageId != 3)) 5
      { Station.fresh
          { states :=
              [.state (some (.ofMillis 12)) id, .state (some (.ofMillis 12)) id,
                .state (some (.ofMillis 10)) id] } () #[] with
        held := true })).map (fun (state, goOn) => (state.time, goOn)) =
      [(.ofMillis 12, true), (.ofMillis 12, true), (.ofMillis 10, false)] := by
  decide +kernel

end Reading

end ArmControl
