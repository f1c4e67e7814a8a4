import ArmControl.Proofs.Control.Follows
import ArmControl.Proofs.Tracing
import ArmControl.Proofs.Validation

/-!
# Sessions take their course

Each part of the control loop follows the part of `Course` that describes it, up to `run_follows`.
Read `session_course` first: whatever the line, the programs of the callbacks and the limit are, the
calls of a control session are a course, its result is the outcome of that course, and the fault
counters grow exactly by the fault that ends it.
-/

namespace ArmControl

variable {σ μ α β : Type}

/-- Judging the mode of a state, which counts a mismatch. -/
theorem follows_watch (supervisor : Supervisor) (state : ArmState) (cycle : Nat) :
    Follows (σ := σ) (μ := μ) (supervisor.watch state cycle) fun calls outcome =>
      calls = [] ∧ outcome =
        match (supervisor.observe state.controllerMode cycle).verdict with
        | .ok () => .ok (supervisor.observe state.controllerMode cycle).supervisor
        | .error fault => .error (.fault (.control fault)) := by
  refine .after (.report_all _) ?_
  cases (supervisor.observe state.controllerMode cycle).verdict with
  | ok => exact .pure ⟨rfl, rfl⟩
  | error fault =>
      intro s _
      exact ⟨[], .error (.fault (.control fault)), _, rfl, ⟨rfl, rfl⟩, by simp, rfl, rfl, by
        simp [Ending.numericFaults, Ending.of?]⟩

/-- Within a session, the task gives a result and makes one call, which tells the result. -/
def Noted (call : α → Call) (t : Task (Traced σ) μ α) : Prop :=
  ∀ s, s.held = true → ∃ a s', t s = .ok a s' ∧ Shows s [call a] none s'

theorem follows_noted {call : α → Call} {t : Task (Traced σ) μ α} (h : Noted call t) :
    Follows (Guarded.ofTask t) fun calls outcome =>
      ∃ a, calls = [call a] ∧ outcome = .ok a := by
  intro s hheld
  obtain ⟨a, s', hrun, hshows⟩ := h s hheld
  exact ⟨_, .ok a, s', bind_of_ok hrun, ⟨a, rfl, rfl⟩, hshows⟩

/-- A program that is remembered when it has answered. -/
theorem noting_noted (r : Robot σ) (limit : Nat) (program : Program μ α) (call : α → Call) :
    Noted call ((program.run r.traced limit).noting call) := by
  intro s hheld
  obtain ⟨a, s', hrun, hstirs⟩ := run_busy r.traced limit program hheld
  have hshows : Shows s [] none s' :=
    hstirs.keep (fun _ _ hstir hs => hs.trans hstir.shows) (.silent rfl rfl rfl rfl)
  exact ⟨a, _, bind_of_ok hrun, ⟨by simp [Station.noted, Traced.note, hshows.trace], hshows.held,
    hshows.controlFaults, hshows.numericFaults⟩⟩

theorem untraced_result (outcome : Except Ending α) (s : Station (Traced σ) μ) :
    untracedResult (Ending.result outcome s) = Ending.result outcome s.untraced := by
  cases outcome with
  | ok a => rfl
  | error e => cases e <;> rfl

namespace Control

/-- Waiting for a state and checking it. -/
theorem follows_next_state (d : Driver σ) (p : Progress) :
    Follows (μ := μ) (nextState d.traced p) (Opening p) := by
  refine .bind (follows_receive d) ?_ ?_
  · intro calls state hreceived
    obtain ⟨answer, rfl, hanswer⟩ := hreceived
    cases answer with
    | failure | overflow => cases hanswer
    | value a =>
        cases hanswer
        refine .bind (follows_watch p.supervisor state (p.cycle + 1)) ?_ ?_
        · intro calls supervisor hwatched
          obtain ⟨rfl, houtcome⟩ := hwatched
          split at houtcome
          next hverdict =>
            cases houtcome
            have hopening : Opening p [.receive (.value state)] (p.check state) := .answered state
            simp only [Progress.check, hverdict] at hopening
            dsimp only
            cases htick : p.clock.tick state.time with
            | overflow => exact .halt (by simpa [htick] using hopening)
            | stalled previous => exact .fail rfl rfl (by simpa [htick] using hopening)
            | advanced period clock =>
                exact .after (.report _) (.pure (by simpa [htick] using hopening))
          next => cases houtcome
        · intro calls e hwatched
          obtain ⟨rfl, houtcome⟩ := hwatched
          split at houtcome
          next => cases houtcome
          next fault hverdict =>
            cases houtcome
            have hopening : Opening p [.receive (.value state)] (p.check state) := .answered state
            simpa [Progress.check, hverdict] using hopening
  · intro calls e hreceived
    obtain ⟨answer, rfl, hanswer⟩ := hreceived
    exact .unanswered answer e hanswer.symm

/-- A callback that answers within a session, with one call. -/
def Answers (call : ArmState → Duration → Except String (Flow α) → Call)
    (callback : Callback (Traced σ) μ α) : Prop :=
  ∀ state period s, s.held = true → ∃ output s',
    callback state period s = .ok output s' ∧ Shows s [call state period output] none s'

/-- A callback that answers makes one call, and comes to what it answers. -/
theorem follows_call {call : ArmState → Duration → Except String (Flow α) → Call}
    {callback : Callback (Traced σ) μ α} (h : Answers call callback) (state : ArmState)
    (period : Duration) :
    Follows (Guarded.ofTask (callback state period)) fun calls outcome =>
      ∃ output, calls = [call state period output] ∧ outcome = .ok output :=
  follows_noted (h state period)

/-- Ending with an output that may not be sent, which is counted. -/
theorem follows_fail_numeric {cycle : Nat} {kind : CallbackKind} {error : ValueError}
    {P : List Call → Except Ending α → Prop}
    (h : P [] (.error (.fault (.numeric ⟨cycle, kind, error⟩)))) :
    Follows (σ := σ) (μ := μ) (failNumeric cycle kind error) P := by
  intro s _
  exact ⟨[], .error (.fault (.numeric ⟨cycle, kind, error⟩)), _, rfl, h, by simp, rfl,
    by simp [Ending.controlFaults, Ending.of?], rfl⟩

/-- The turn of a callback. -/
theorem follows_turn (kind : CallbackKind) {validate : α → Except ValueError Unit}
    {call : ArmState → Duration → Except String (Flow α) → Call}
    {callback : Option (Callback (Traced σ) μ α)} (h : ∀ c ∈ callback, Answers call c)
    (slot : Slot α) (cycle : Nat) (now : Cycle) :
    Follows (turn kind validate callback slot cycle now)
      (Turn kind (call now.state now.period) callback.isSome validate slot cycle) := by
  cases callback with
  | none => exact .pure (.taken none slot (.kept rfl))
  | some callback =>
      cases hfinished : slot.finished with
      | true =>
          simp only [turn, hfinished]
          exact .pure (.taken none slot (.kept (by simp [Slot.isDue, hfinished])))
      | false =>
          have hdue : slot.isDue true = true := by simp [Slot.isDue, hfinished]
          simp only [turn, hfinished]
          refine .bind (follows_call (h callback rfl) now.state now.period) ?_ ?_
          · intro calls output hcalled
            obtain ⟨_, rfl, houtcome⟩ := hcalled
            obtain rfl := Except.ok.inj houtcome
            cases output with
            | error reason => exact .fail rfl rfl (.failed reason hdue)
            | ok flow =>
                dsimp only
                cases hvalid : validate flow.value with
                | ok => exact .pure (.taken (some flow) _ (.filled flow hdue hvalid))
                | error error => exact follows_fail_numeric (.invalid flow error hdue hvalid)
          · -- A callback has no other way to end: it answers, if only with an error.
            intro calls e hcalled
            obtain ⟨output, _, houtcome⟩ := hcalled
            cases houtcome

/-- Every output that is held has passed its check. -/
structure Progress.Valid (p : Progress) : Prop where
  torque : ∀ t ∈ p.torque.held, t.validate = .ok ()
  motion : ∀ m ∈ p.motion.held, m.validate = .ok ()

theorem Progress.opening_valid (supervisor : Supervisor) (nominal : Duration)
    (withTorque withMotion : Bool) :
    (Progress.opening supervisor nominal withTorque withMotion).Valid where
  torque := by simp [Progress.opening, Slot.start]
  motion := by simp [Progress.opening, Slot.start]

/-- A turn that does no harm leaves a valid output behind. -/
theorem Fills.valid {present : Bool} {validate : α → Except ValueError Unit} {slot slot' : Slot α}
    {flow : Option (Flow α)} (h : Fills present validate slot flow slot')
    (hheld : ∀ a ∈ slot.held, validate a = .ok ()) : ∀ a ∈ slot'.held, validate a = .ok () := by
  cases h with
  | kept _ => exact hheld
  | filled flow _ hvalid =>
      intro a ha
      obtain rfl := Option.mem_some.mp ha
      exact hvalid

variable {withTorque withMotion : Bool}

theorem Advance.valid {p p' : Progress} {r : Round} (h : Advance withTorque withMotion p r p')
    (hp : p.Valid) : p'.Valid :=
  ⟨h.torque.valid hp.torque, h.motion.valid hp.motion⟩

/-- The command of a round passes the check of the driver. -/
theorem Advance.command_valid {p p' : Progress} {r : Round}
    (h : Advance withTorque withMotion p r p') (hp : p.Valid) : r.command.validate = .ok () := by
  rw [h.command]
  exact build_command_validate_iff.mpr ⟨(h.valid hp).torque, (h.valid hp).motion⟩

theorem Rounds.valid {start p : Progress} {rounds : List Round}
    (h : Rounds withTorque withMotion start rounds p) (hstart : start.Valid) : p.Valid := by
  induction h with
  | nil => exact hstart
  | snoc _ hadvance _ ih => exact hadvance.valid ih

/-- Callbacks that answer within a session, each with one call. -/
structure Answering (callbacks : Callbacks (Traced σ) μ) : Prop where
  torque : ∀ c ∈ callbacks.torque, Answers .torque c
  motion : ∀ c ∈ callbacks.motion, Answers .motion c

/-- What a cycle comes to: a round whose command was accepted, or the end of the session. -/
inductive Cycled (withTorque withMotion : Bool) (p : Progress) :
    List Call → Except Ending (Command × Progress) → Prop
  | round {r : Round} {p' : Progress} :
      Advance withTorque withMotion p r p' →
      Cycled withTorque withMotion p r.accepted (.ok (r.command, p'))
  | ended {calls : List Call} {e : Ending} :
      Faltering withTorque withMotion p calls e →
      Cycled withTorque withMotion p calls (.error e)

/-- Sending a command that passes its check, and going on once it is accepted. -/
theorem follows_sent (d : Driver σ) {c : Command} (hvalid : c.validate = .ok ())
    {m : Guarded (Traced σ) μ α} {P : List Call → Except Ending α → Prop}
    (hm : Follows m fun more outcome => P (.send c (.value ()) :: more) outcome)
    (he : ∀ answer e, answer.outcome = .error e → P [.send c answer] (.error e)) :
    Follows (sendCommand d.traced c >>= fun _ => m) P := by
  refine .bind (follows_send d hvalid) ?_ ?_
  · intro calls _ hsent
    obtain ⟨answer, rfl, hanswer⟩ := hsent
    cases answer with
    | failure | overflow => cases hanswer
    | value => exact hm
  · intro calls e hsent
    obtain ⟨answer, rfl, hanswer⟩ := hsent
    exact he answer e hanswer.symm

/-- The checks of a state leave alone what the callbacks gave. -/
theorem Progress.check_slots {p p' : Progress} {state : ArmState} {now : Cycle}
    (h : p.check state = .ok (now, p')) : p'.torque = p.torque ∧ p'.motion = p.motion := by
  obtain ⟨-, _, _, -, -, rfl⟩ := Progress.check_ok h
  exact ⟨rfl, rfl⟩

/-- One ordinary cycle. -/
theorem follows_cycle (d : Driver σ) {callbacks : Callbacks (Traced σ) μ}
    (h : Answering callbacks) {p : Progress} (hp : p.Valid) :
    Follows (cycle d.traced callbacks p)
      (Cycled callbacks.torque.isSome callbacks.motion.isSome p) := by
  refine .bind (follows_next_state d p) ?_ fun calls e hopening => .ended (.unopened hopening)
  intro calls next hopening
  obtain ⟨⟨state, period⟩, p₁⟩ := next
  obtain ⟨rfl, hcheck⟩ := hopening.checked
  obtain ⟨htorque, hmotion⟩ := Progress.check_slots hcheck
  refine .bind (follows_turn .torque h.torque p₁.torque p₁.cycle ⟨state, period⟩) ?_ ?_
  · intro calls slot hturn
    obtain ⟨torque, _, hfills⟩ := hturn
    rw [htorque] at hfills
    refine .bind (follows_turn .motion h.motion p₁.motion p₁.cycle ⟨state, period⟩) ?_ ?_
    · intro calls slot' hturn
      obtain ⟨motion, _, hfills'⟩ := hturn
      rw [hmotion] at hfills'
      let r : Round := ⟨state, period, torque, motion, buildCommand state.messageId slot.held
        slot'.held { p₁ with torque := slot, motion := slot' }.finished⟩
      have hadvance : Advance callbacks.torque.isSome callbacks.motion.isSome p r
          { p₁ with torque := slot, motion := slot' } :=
        ⟨by rw [hcheck, ← htorque, ← hmotion], hfills, hfills', rfl⟩
      -- The outputs in the command were checked in this cycle or when they were first held.
      refine follows_sent d (hadvance.command_valid hp) (.pure ?_) fun answer e hanswer => ?_
      · simpa [Round.calls, Round.turns, r] using Cycled.round hadvance
      · simpa [Round.calls, Round.turns, r] using Cycled.ended (.unsent hadvance hanswer)
    · intro calls e hturn
      rw [hmotion] at hturn
      simpa using Cycled.ended (.motionFailed hcheck hfills hturn)
  · intro calls e hturn
    rw [htorque] at hturn
    simpa using Cycled.ended (.torqueFailed hcheck hturn)

/-- What the ordinary cycles of a session come to. -/
inductive Looped (withTorque withMotion : Bool) (start : Progress) :
    List Call → Except Ending (Command × Progress) → Prop
  | unfinished {rounds : List Round} {p : Progress} :
      Rounds withTorque withMotion start rounds p →
      Looped withTorque withMotion start (rounds.flatMap Round.accepted)
        (.error (.halt .unfinished))
  | faltered {rounds : List Round} {p : Progress} {calls : List Call} {e : Ending} :
      Rounds withTorque withMotion start rounds p → Faltering withTorque withMotion p calls e →
      Looped withTorque withMotion start (rounds.flatMap Round.accepted ++ calls) (.error e)
  | finished {rounds : List Round} {p p' : Progress} {r : Round} :
      Rounds withTorque withMotion start rounds p → Advance withTorque withMotion p r p' →
      p'.finished = true →
      Looped withTorque withMotion start ((rounds ++ [r]).flatMap Round.accepted)
        (.ok (r.command, p'))

/-- The ordinary cycles that are left after some rounds. -/
theorem follows_cycles (d : Driver σ) {callbacks : Callbacks (Traced σ) μ}
    (h : Answering callbacks) {start : Progress} (hstart : start.Valid) (limit : Nat)
    {rounds : List Round} {p : Progress}
    (hrounds : Rounds callbacks.torque.isSome callbacks.motion.isSome start rounds p) :
    Follows (cycles d.traced callbacks limit p) fun calls outcome =>
      Looped callbacks.torque.isSome callbacks.motion.isSome start
        (rounds.flatMap Round.accepted ++ calls) outcome := by
  -- A course is told from its start, so the rounds so far are carried through the induction.
  induction limit generalizing rounds p with
  | zero => exact .halt (by simpa using Looped.unfinished hrounds)
  | succ limit ih =>
      refine .bind (follows_cycle d h (hrounds.valid hstart)) ?_ ?_
      · intro calls next hcycled
        obtain ⟨command, p'⟩ := next
        cases hcycled with
        | round hadvance =>
            dsimp only
            cases hfinished : p'.finished with
            | true => exact .pure (by simpa using Looped.finished hrounds hadvance hfinished)
            | false =>
                refine .mono (ih (hrounds.snoc hadvance hfinished)) fun calls outcome h => ?_
                simpa using h
      · intro calls e hcycled
        cases hcycled with
        | ended hfaltering => exact .faltered hrounds hfaltering

/-- The terminal cycle after a command that passed its check. -/
theorem follows_terminal (d : Driver σ) {last : Command} (hlast : last.validate = .ok ())
    (p : Progress) :
    Follows (μ := μ)
      (do
        let (now, p) ← nextState d.traced p
        sendCommand d.traced (last.terminal now.state.messageId)
        pure (p.cycle - 1))
      (Closing p last) := by
  refine .bind (follows_next_state d p) ?_ fun calls e hopening => .unopened hopening
  intro calls next hopening
  obtain ⟨now, p'⟩ := next
  obtain ⟨rfl, hcheck⟩ := hopening.checked
  have hvalid : (last.terminal now.state.messageId).validate = .ok () := by
    rw [Command.terminal_validate, hlast]
  exact follows_sent d hvalid (.pure (.closed hcheck)) fun _ _ => .unsent hcheck

/-- A control session takes its course. -/
theorem run_follows (d : Driver σ) (supervisor : Supervisor) {callbacks : Callbacks (Traced σ) μ}
    (h : Answering callbacks) (limit : Nat) :
    Follows (run d.traced supervisor callbacks limit)
      (Course callbacks.torque.isSome callbacks.motion.isSome
        (.opening supervisor d.timing.controlPeriod callbacks.torque.isSome
          callbacks.motion.isSome)) := by
  have hstart := Progress.opening_valid supervisor d.timing.controlPeriod callbacks.torque.isSome
    callbacks.motion.isSome
  refine .bind (follows_cycles d h hstart limit .nil) ?_ ?_
  · intro calls next hlooped
    obtain ⟨last, p⟩ := next
    cases hlooped with
    | finished hrounds hadvance hfinished =>
        -- The terminal command repeats one that has passed its check.
        have hvalid := hadvance.command_valid (hrounds.valid hstart)
        refine .after (.report _) (.mono (follows_terminal d hvalid p) ?_)
        exact fun calls outcome hclosing => .terminal hrounds hadvance hfinished hclosing
  · intro calls e hlooped
    cases hlooped with
    | unfinished hrounds => exact .unfinished hrounds
    | faltered hrounds hfaltering => exact .faltered hrounds hfaltering

/-! ## Sessions -/

/-- A program that is remembered when it has answered is a callback that answers with one call. -/
theorem noting_answers (r : Robot σ) (limit : Nat)
    (call : ArmState → Duration → Except String (Flow α) → Call)
    (script : ArmState → Duration → Program μ (Except String (Flow α))) :
    Answers call
      (Scripts.noting call fun state period => (script state period).run r.traced limit) :=
  fun state period => noting_noted r limit (script state period) (call state period)

theorem scripts_answering (r : Robot σ) (scripts : Scripts μ) (limit : Nat) :
    Answering (scripts.traced r limit) where
  torque := by
    intro c hc
    obtain ⟨script, -, rfl⟩ := Option.map_eq_some_iff.mp hc
    exact noting_answers r limit .torque script
  motion := by
    intro c hc
    obtain ⟨script, -, rfl⟩ := Option.map_eq_some_iff.mp hc
    exact noting_answers r limit .motion script

/-- What a control session comes to: its result and its last station go with an outcome. -/
structure Outcome (s : Station σ μ) (outcome : Except Ending Nat) (s' : Station σ μ)
    (result : EStateM.Result Halt (Station σ μ) (Except RobotError Nat)) : Prop where
  result : result = Ending.result outcome s'
  controlFaults : s'.metrics.controlFaults =
    s.metrics.controlFaults + Ending.controlFaults (Ending.of? outcome)
  numericFaults : s'.metrics.numericFaults =
    s.metrics.numericFaults + Ending.numericFaults (Ending.of? outcome)

/-- Calls that a computation over a traced line follows are the trace of the task that it mirrors,
and what it comes to is what the task comes to. -/
theorem Outcome.of_follows {m : Guarded (Traced σ) μ Nat} {t : Task σ μ (Except RobotError Nat)}
    {P : List Call → Except Ending Nat → Prop} (hm : Follows m P) (ht : Mirrors m.run t)
    (s : Occupied σ μ) :
    ∃ outcome s', P (Task.after m.run s.station.traced).line.trace outcome ∧
      Outcome s.station outcome s' (t s.station) := by
  obtain ⟨calls, outcome, s', hrun, hcalls, hshows⟩ := hm s.station.traced s.held
  have htrace : (Task.after m.run s.station.traced).line.trace = calls := by
    have hafter : Task.after m.run s.station.traced = s' := by
      unfold Task.after
      rw [hrun]
      cases outcome with
      | ok n => rfl
      | error e => cases e <;> rfl
    rw [hafter, hshows.trace]
    rfl
  have hresult : t s.station = Ending.result outcome s'.untraced := by
    rw [← untraced_result, ← hrun]
    exact (ht s.station.traced).symm
  refine ⟨outcome, s'.untraced, ?_, hresult, hshows.controlFaults, hshows.numericFaults⟩
  rw [htrace]
  exact hcalls

/-- A control session with programs as its callbacks takes its course. -/
theorem scripts_follow (r : Robot σ) (supervisor : Supervisor) (scripts : Scripts μ) (limit : Nat) :
    Follows (run r.driver.traced supervisor (scripts.traced r limit) limit)
      (Course scripts.torque.isSome scripts.motion.isSome
        (.opening supervisor r.driver.timing.controlPeriod scripts.torque.isSome
          scripts.motion.isSome)) := by
  have hfollows := run_follows r.driver supervisor (scripts_answering r scripts limit) limit
  simpa [Scripts.traced] using hfollows

/-- A control session takes its course, and its outcome is that of the course. -/
theorem session_course (r : Robot σ) (supervisor : Supervisor) (scripts : Scripts μ) (limit : Nat)
    (s : Occupied σ μ) :
    ∃ outcome s',
      Course scripts.torque.isSome scripts.motion.isSome
        (.opening supervisor r.driver.timing.controlPeriod scripts.torque.isSome
          scripts.motion.isSome)
        (trace r supervisor scripts limit s.station) outcome ∧
      Outcome s.station outcome s' (session r supervisor scripts limit s.station) :=
  Outcome.of_follows (scripts_follow r supervisor scripts limit)
    (session_mirrors r supervisor scripts limit) s

end Control

end ArmControl
