import ArmControl.Proofs.Control.Adherence
import ArmControl.Proofs.Control.Standing

/-!
# What the commands of a session carry

In every cycle the callbacks that have not finished are called, and the command carries what each
callback gave last. `session_outputs` says this of all ordinary cycles of a session, in whatever
order the callbacks finish, and it says when the terminal command is sent and what is in it.
-/

namespace ArmControl

namespace Control

/-- An ordinary cycle whose command was built, and what the link made of the command. -/
structure Built where
  round : Round
  answer : Answer Unit

namespace Built

/-- The calls of the cycle. -/
def calls (b : Built) : List Call := b.round.calls b.answer

/-- A cycle whose command was accepted. -/
def ofAccepted (r : Round) : Built := ⟨r, .value ()⟩

end Built

/-- What a round does after these: it calls each callback that is present and has not finished, its
command carries the latest outputs of the callbacks that are present, and it says whether all of
them have finished by now. -/
structure Carries (withTorque withMotion : Bool) (earlier : List Round) (r : Round) : Prop where
  torqueCalled : r.torque.isSome = (withTorque && !hasFinished Round.torque earlier)
  motionCalled : r.motion.isSome = (withMotion && !hasFinished Round.motion earlier)
  control : r.command.control = latest Round.torque (earlier ++ [r])
  controlGiven : r.command.control.isSome = withTorque
  motion : r.command.motion =
    (latest Round.motion (earlier ++ [r])).map fun target => target.merge {}
  motionGiven : r.command.motion.isSome = withMotion
  motionFinished : r.command.motionFinished =
    ((!withTorque || hasFinished Round.torque (earlier ++ [r])) &&
      (!withMotion || hasFinished Round.motion (earlier ++ [r])))
  lastCycle : r.command.lastCycle = false

/-- The calls of a session: its ordinary cycles whose commands were built, and what comes after
them. Of these later calls `terminal` says which commands are sent, and `silent` that no callback is
called once all have finished. -/
structure Outputs (withTorque withMotion : Bool) (supervisor : Supervisor) (nominal : Duration)
    (calls : List Call) (cycles : List Built) (rest : List Call) : Prop where
  calls : calls = cycles.flatMap Built.calls ++ rest
  accepted : ∀ earlier last, cycles = earlier ++ [last] →
    (∀ b ∈ earlier, b.answer = .value ()) ∧ (rest ≠ [] → last.answer = .value ())
  carries : ∀ earlier b later, cycles = earlier ++ b :: later →
    Carries withTorque withMotion (earlier.map Built.round) b.round
  terminal : ∀ c, (∃ answer, .send c answer ∈ rest) ↔
    ∃ earlier last state, cycles = earlier ++ [last] ∧ last.answer = .value () ∧
      last.round.command.motionFinished = true ∧
      rest.head? = some (.receive (.value state)) ∧
      Passes supervisor nominal (cycles.map fun b => b.round.state) state ∧
      c = { last.round.command with
        messageId := state.messageId
        motionFinished := true
        lastCycle := true }
  silent : ∀ earlier last, cycles = earlier ++ [last] → last.answer = .value () →
    last.round.command.motionFinished = true →
    (∃ answer, rest.head? = some (.receive answer)) ∧ ∀ call ∈ rest, call.isExchange = true

variable {supervisor : Supervisor} {nominal : Duration} {withTorque withMotion : Bool}
  {rounds : List Round} {p p' : Progress} {r : Round}

/-- One round, from where the session stands. -/
theorem Standing.carries (h : Standing supervisor nominal withTorque withMotion rounds p)
    (hadvance : Advance withTorque withMotion p r p') :
    Carries withTorque withMotion rounds r := by
  have hafter := h.advance hadvance
  have hcommand := hadvance.command
  refine ⟨?_, ?_, ?_, ?_, ?_, ?_, ?_, ?_⟩
  · rw [hadvance.torque.called, h.torque.is_due]
  · rw [hadvance.motion.called, h.motion.is_due]
  · rw [hcommand, ← hafter.torque.held]
    rfl
  · rw [hcommand, buildCommand, hafter.torque.given]
    simp
  · rw [hcommand, ← hafter.motion.held]
    rfl
  · rw [hcommand, buildCommand, Option.isSome_map, hafter.motion.given]
    simp
  · rw [hcommand, buildCommand, hafter.finished]
  · rw [hcommand]
    rfl

/-- All rounds after which a session goes on. -/
theorem Rounds.carries
    (h : Rounds withTorque withMotion (.opening supervisor nominal withTorque withMotion) rounds
      p) :
    ∀ earlier r later, rounds = earlier ++ r :: later →
      Carries withTorque withMotion earlier r :=
  h.forall_split Standing.carries

/-- No round after which a session goes on says that the motion is finished. -/
theorem Rounds.unfinished {start : Progress} (h : Rounds withTorque withMotion start rounds p) :
    ∀ r ∈ rounds, r.command.motionFinished = false := by
  induction h with
  | nil => simp
  | @snoc rounds _ p' r _ hadvance hfinished ih =>
      intro r' hr'
      rcases List.mem_append.mp hr' with hr' | hr'
      · exact ih r' hr'
      · rw [List.mem_singleton.mp hr', hadvance.command]
        exact hfinished

/-- Cycles whose commands were accepted. -/
theorem accepted_calls (rounds : List Round) :
    (rounds.map Built.ofAccepted).flatMap Built.calls = rounds.flatMap Round.accepted := by
  simp [List.flatMap_map, Built.calls, Built.ofAccepted]

theorem of_accepted_answer {b : Built} (h : b ∈ rounds.map Built.ofAccepted) :
    b.answer = .value () ∧ b.round ∈ rounds := by
  obtain ⟨r, hr, rfl⟩ := List.mem_map.mp h
  exact ⟨rfl, hr⟩

theorem map_round_accepted (rounds : List Round) :
    (rounds.map Built.ofAccepted).map Built.round = rounds := by
  simp [Function.comp_def, Built.ofAccepted]

theorem accepted_split {earlier : List Built} {last : Built}
    (heq : rounds.map Built.ofAccepted = earlier ++ [last]) :
    (∀ b ∈ earlier, b.answer = .value ()) ∧ last.answer = .value () := by
  have hall (b : Built) (hb : b ∈ earlier ++ [last]) : b.answer = .value () := by
    rw [← heq] at hb
    exact (of_accepted_answer hb).1
  exact ⟨fun b hb => hall b (by simp [hb]), hall last (by simp)⟩

/-- What rounds carry, they carry as accepted cycles. -/
theorem carries_accepted
    (h : ∀ earlier r later, rounds = earlier ++ r :: later →
      Carries withTorque withMotion earlier r)
    {earlier later : List Built} {b : Built}
    (heq : rounds.map Built.ofAccepted = earlier ++ b :: later) :
    Carries withTorque withMotion (earlier.map Built.round) b.round := by
  refine h _ _ (later.map Built.round) ?_
  rw [← map_round_accepted rounds, heq]
  simp

/-- A session that never came to an accepted command with finished callbacks, and sent nothing
after its last cycle. -/
theorem Outputs.open {calls rest : List Call} {cycles : List Built}
    (hcalls : calls = cycles.flatMap Built.calls ++ rest)
    (haccepted : ∀ earlier last, cycles = earlier ++ [last] →
      (∀ b ∈ earlier, b.answer = .value ()) ∧ (rest ≠ [] → last.answer = .value ()))
    (hcarries : ∀ earlier b later, cycles = earlier ++ b :: later →
      Carries withTorque withMotion (earlier.map Built.round) b.round)
    (hopen : ∀ b ∈ cycles, b.answer = .value () → b.round.command.motionFinished = false)
    (hrest : ∀ c answer, .send c answer ∉ rest) :
    Outputs withTorque withMotion supervisor nominal calls cycles rest where
  calls := hcalls
  accepted := haccepted
  carries := hcarries
  terminal := by
    intro c
    constructor
    · intro hsent
      obtain ⟨answer, hsend⟩ := hsent
      exact absurd hsend (hrest c answer)
    · intro hclosed
      obtain ⟨earlier, last, state, heq, hanswer, hfinished, -⟩ := hclosed
      have hlast := hopen last (by simp [heq]) hanswer
      rw [hfinished] at hlast
      cases hlast
  silent := by
    intro earlier last heq hanswer hfinished
    have hlast := hopen last (by simp [heq]) hanswer
    rw [hfinished] at hlast
    cases hlast

/-- The terminal cycle either goes no further than a receive, or it repeats the last command. -/
theorem Closing.sent {last : Command} {calls : List Call} {outcome : Except Ending Nat}
    (h : Closing p last calls outcome) :
    (∃ answer, calls = [.receive answer] ∧
        ∀ state, answer = .value state → ¬ ∃ next, p.check state = .ok next) ∨
      ∃ state answer,
        calls = [.receive (.value state), .send (last.terminal state.messageId) answer] ∧
        ∃ next, p.check state = .ok next := by
  cases h with
  | unopened hopening =>
      refine .inl ?_
      generalize houtcome : Except.error _ = opened at hopening
      cases hopening with
      | unanswered answer e hanswer =>
          refine ⟨answer, rfl, ?_⟩
          intro state hstate
          rw [hstate] at hanswer
          cases hanswer
      | answered state =>
          refine ⟨.value state, rfl, ?_⟩
          intro state' hstate hpassed
          obtain ⟨next, hcheck⟩ := hpassed
          obtain rfl := Answer.value.inj hstate
          rw [← houtcome] at hcheck
          cases hcheck
  | @unsent state now p' answer _ hcheck _ => exact .inr ⟨state, answer, rfl, _, hcheck⟩
  | @closed state now p' hcheck => exact .inr ⟨state, .value (), rfl, _, hcheck⟩

/-- A session that sends nothing after rounds that leave a callback unfinished. -/
theorem Rounds.outputs
    (h : Rounds withTorque withMotion (.opening supervisor nominal withTorque withMotion) rounds p)
    (rest : List Call) (hrest : ∀ c answer, .send c answer ∉ rest) :
    Outputs withTorque withMotion supervisor nominal (rounds.flatMap Round.accepted ++ rest)
      (rounds.map Built.ofAccepted) rest := by
  refine .open ?_ ?_ ?_ ?_ hrest
  · rw [accepted_calls]
  · exact fun _ _ heq => ⟨(accepted_split heq).1, fun _ => (accepted_split heq).2⟩
  · exact fun _ _ _ heq => carries_accepted h.carries heq
  · exact fun b hb _ => h.unfinished _ (of_accepted_answer hb).2

/-- A session whose last command is rejected. -/
theorem Rounds.outputs_rejected {answer : Answer Unit} {e : Ending}
    (h : Rounds withTorque withMotion (.opening supervisor nominal withTorque withMotion) rounds p)
    (hadvance : Advance withTorque withMotion p r p') (hanswer : answer.outcome = .error e) :
    Outputs withTorque withMotion supervisor nominal
      (rounds.flatMap Round.accepted ++ r.calls answer)
      (rounds.map Built.ofAccepted ++ [⟨r, answer⟩]) [] := by
  refine .open ?_ ?_ ?_ ?_ (by simp)
  · rw [List.flatMap_append, accepted_calls]
    simp [Built.calls]
  · intro earlier last heq
    obtain ⟨rfl, -⟩ := List.append_inj' heq rfl
    exact ⟨fun b hb => (of_accepted_answer hb).1, fun h => absurd rfl h⟩
  · refine forall_split_snoc (fun _ _ _ heq => carries_accepted h.carries heq) ?_
    rw [map_round_accepted]
    exact h.standing.carries hadvance
  · intro b hb haccepted
    rcases List.mem_append.mp hb with hb | hb
    · exact h.unfinished _ (of_accepted_answer hb).2
    · obtain rfl := List.mem_singleton.mp hb
      obtain rfl : answer = .value () := haccepted
      cases hanswer

/-- A session whose callbacks have all finished. -/
theorem Rounds.outputs_finished {rest : List Call} {outcome : Except Ending Nat}
    (h : Rounds withTorque withMotion (.opening supervisor nominal withTorque withMotion) rounds p)
    (hadvance : Advance withTorque withMotion p r p') (hfinished : p'.finished = true)
    (hclosing : Closing p' r.command rest outcome) :
    Outputs withTorque withMotion supervisor nominal
      ((rounds ++ [r]).flatMap Round.accepted ++ rest)
      ((rounds ++ [r]).map Built.ofAccepted) rest := by
  have hcarries := forall_split_snoc h.carries (h.standing.carries hadvance)
  have hpasses (state : ArmState) : (∃ next, p'.check state = .ok next) ↔
      Passes supervisor nominal
        (((rounds ++ [r]).map Built.ofAccepted).map fun b => b.round.state) state := by
    rw [(h.standing.advance hadvance).check_ok_iff]
    simp [Function.comp_def, Built.ofAccepted]
  have hlast : r.command.motionFinished = true := by rw [hadvance.command]; exact hfinished
  refine ⟨by rw [accepted_calls], ?_, fun _ _ _ heq => carries_accepted hcarries heq, ?_, ?_⟩
  · exact fun _ _ heq => ⟨(accepted_split heq).1, fun _ => (accepted_split heq).2⟩
  · intro c
    rcases hclosing.sent with ⟨answer, rfl, hfails⟩ | ⟨state, answer, rfl, hcheck⟩
    · -- The state did not come, or it failed its checks: nothing was sent, and rightly so.
      constructor
      · intro hsent
        obtain ⟨answer', hsend⟩ := hsent
        simp at hsend
      · intro hclosed
        obtain ⟨earlier, last, state, -, -, -, hhead, hstate, -⟩ := hclosed
        have hanswer : answer = .value state := by simpa using hhead
        exact absurd ((hpasses state).mpr hstate) (hfails state hanswer)
    · constructor
      · intro hsent
        obtain ⟨answer', hsend⟩ := hsent
        obtain ⟨rfl, -⟩ : c = r.command.terminal state.messageId ∧ answer' = answer := by
          simpa using hsend
        exact ⟨rounds.map Built.ofAccepted, .ofAccepted r, state, by simp, rfl, hlast, rfl,
          (hpasses state).mp hcheck, rfl⟩
      · intro hclosed
        obtain ⟨earlier, last, state', heq, -, -, hhead, -, rfl⟩ := hclosed
        obtain rfl : state = state' := by simpa using hhead
        rw [List.map_append] at heq
        obtain rfl : Built.ofAccepted r = last := by
          simpa using (List.append_inj' heq rfl).2
        exact ⟨answer, by simp [Command.terminal, Built.ofAccepted]⟩
  · intro _ _ _ _ _
    rcases hclosing.sent with ⟨answer, rfl, -⟩ | ⟨state, answer, rfl, -⟩
    · exact ⟨⟨answer, rfl⟩, by simp [Call.isExchange]⟩
    · exact ⟨⟨.value state, rfl⟩, by simp [Call.isExchange]⟩

/-- The outputs of every course. -/
theorem Course.outputs {calls : List Call} {outcome : Except Ending Nat}
    (h : Course withTorque withMotion (.opening supervisor nominal withTorque withMotion) calls
      outcome) :
    ∃ cycles rest, Outputs withTorque withMotion supervisor nominal calls cycles rest := by
  cases h with
  | unfinished hrounds =>
      have houtputs := hrounds.outputs [] (by simp)
      rw [List.append_nil] at houtputs
      exact ⟨_, _, houtputs⟩
  | faltered hrounds hfaltering =>
      rcases hfaltering.sent with ⟨received, hfilter⟩ | ⟨r, p', answer, hadvance, hanswer, rfl⟩
      · exact ⟨_, _, hrounds.outputs _ (send_not_mem hfilter)⟩
      · exact ⟨_, _, hrounds.outputs_rejected hadvance hanswer⟩
  | terminal hrounds hadvance hfinished hclosing =>
      exact ⟨_, _, hrounds.outputs_finished hadvance hfinished hclosing⟩

/-- What the commands of a control session carry, whatever the link answers, whatever mode is
expected and whatever the callbacks do. -/
theorem session_outputs {σ μ : Type} (r : Robot σ) (supervisor : Supervisor) (scripts : Scripts μ)
    (limit : Nat) (s : Occupied σ μ) :
    ∃ cycles rest, Outputs scripts.torque.isSome scripts.motion.isSome supervisor
      r.driver.timing.controlPeriod (trace r supervisor scripts limit s.station) cycles rest := by
  obtain ⟨outcome, s', hcourse, -⟩ := session_course r supervisor scripts limit s
  exact hcourse.outputs

end Control

end ArmControl
