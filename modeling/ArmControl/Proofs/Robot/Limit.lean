import ArmControl.Proofs.Robot.Protocol

/-!
# The limit of a session

A control session is followed for a limited number of cycles. One that was not followed to its end
went on for all of them: as `use_exhausts` says, it has sent as many commands as the limit.
-/

namespace ArmControl

variable {σ μ α β : Type}

/-- A session that was not followed to its end has sent so many commands. -/
def Exhausts (limit : Nat) (calls : List Call) (outcome : Except Ending α) : Prop :=
  outcome = .error (.halt .unfinished) → limit ≤ calls.countP Call.isAccepted

/-- Nothing is said of a session that ended in any other way. -/
theorem exhausts_of_ended {limit : Nat} {calls : List Call} {outcome : Except Ending α}
    (h : outcome ≠ .error (.halt .unfinished)) : Exhausts limit calls outcome :=
  fun hunfinished => absurd hunfinished h

/-- The result tells the outcome and the station. -/
theorem Ending.result_inj {outcome outcome' : Except Ending α} {s s' : Station σ μ}
    (h : Ending.result outcome s = Ending.result outcome' s') : outcome = outcome' ∧ s = s' := by
  rcases outcome with (error | cause) | a <;> rcases outcome' with (error' | cause') | a' <;>
    cases h <;> exact ⟨rfl, rfl⟩

/-- Two things that are known of one computation hold of the same calls. -/
theorem Follows.and {m : Guarded (Traced σ) μ α} {P Q : List Call → Except Ending α → Prop}
    (hp : Follows m P) (hq : Follows m Q) :
    Follows m fun calls outcome => P calls outcome ∧ Q calls outcome := by
  intro s hheld
  obtain ⟨calls, outcome, s', hrun, hp, hshows⟩ := hp s hheld
  obtain ⟨calls', outcome', s'', hrun', hq, hshows'⟩ := hq s hheld
  obtain ⟨rfl, rfl⟩ := Ending.result_inj (hrun.symm.trans hrun')
  obtain rfl : calls = calls' := List.append_cancel_left (hshows.trace.symm.trans hshows'.trace)
  exact ⟨calls, outcome, s', hrun, ⟨hp, hq⟩, hshows⟩

theorem Answer.outcome_ended {answer : Answer α} {e : Ending} (h : answer.outcome = .error e) :
    e ≠ .halt .unfinished := by
  cases answer <;> cases h <;> exact nofun

theorem Answer.settled_ended {answer : Answer α} {settle : α → Except DriverError β} {e : Ending}
    (h : answer.settled settle = .error e) : e ≠ .halt .unfinished := by
  cases answer with
  | value a =>
      unfold Answer.settled at h
      cases hsettle : settle a with
      | ok b => simp [hsettle, Ending.ofDriver] at h
      | error error =>
          simp only [hsettle, Ending.ofDriver, Except.error.injEq] at h
          exact h ▸ nofun
  | failure | overflow => cases h; exact nofun

namespace Control

variable {withTorque withMotion : Bool} {p : Progress} {calls : List Call}

theorem Opening.ended {e : Ending} (h : Opening p calls (.error e)) : e ≠ .halt .unfinished := by
  generalize houtcome : Except.error e = outcome at h
  cases h with
  | unanswered answer e' hanswer =>
      cases houtcome
      exact Answer.outcome_ended hanswer
  | answered state =>
      rcases Progress.check_error houtcome.symm with ⟨fault, -, rfl⟩ | ⟨-, htime⟩
      · exact nofun
      · rcases htime with ⟨previous, -, rfl⟩ | ⟨-, rfl⟩ <;> exact nofun

theorem Turn.ended {kind : CallbackKind} {call : Except String (Flow α) → Call} {present : Bool}
    {validate : α → Except ValueError Unit} {slot : Slot α} {cycle : Nat} {e : Ending}
    (h : Turn kind call present validate slot cycle calls (.error e)) : e ≠ .halt .unfinished := by
  cases h <;> exact nofun

theorem Faltering.ended {e : Ending} (h : Faltering withTorque withMotion p calls e) :
    e ≠ .halt .unfinished := by
  cases h with
  | unopened hopening => exact hopening.ended
  | torqueFailed _ hturn => exact hturn.ended
  | motionFailed _ _ hturn => exact hturn.ended
  | unsent _ hanswer => exact Answer.outcome_ended hanswer

theorem Closing.ended {last : Command} {outcome : Except Ending Nat}
    (h : Closing p last calls outcome) : outcome ≠ .error (.halt .unfinished) := by
  intro hunfinished
  cases h with
  | unopened hopening => exact hopening.ended (Except.error.inj hunfinished)
  | unsent _ hanswer => exact Answer.outcome_ended hanswer (Except.error.inj hunfinished)
  | closed _ => cases hunfinished

/-- Every ordinary cycle that does not end the session has its command accepted. -/
theorem follows_cycles_exhausts (d : Driver σ) {callbacks : Callbacks (Traced σ) μ}
    (h : Answering callbacks) (limit : Nat) {p : Progress} (hp : p.Valid) :
    Follows (cycles d.traced callbacks limit p) (Exhausts limit) := by
  induction limit generalizing p with
  | zero => exact .halt fun _ => Nat.zero_le _
  | succ limit ih =>
      refine .bind (follows_cycle d h hp) ?_ fun calls e hcycled => ?_
      · intro calls next hcycled
        obtain ⟨command, p'⟩ := next
        cases hcycled with
        | @round r _ hadvance =>
            dsimp only
            cases p'.finished with
            | true => exact .pure (exhausts_of_ended nofun)
            | false =>
                refine .mono (ih (hadvance.valid hp)) fun more outcome hmore hunfinished => ?_
                have hround : r.accepted.countP Call.isAccepted = 1 := by
                  simpa using rounds_accepted_count [r]
                have hrest := hmore hunfinished
                rw [List.countP_append, hround]
                omega
      · cases hcycled with
        | ended hfaltering =>
            exact exhausts_of_ended fun heq => hfaltering.ended (Except.error.inj heq)

theorem run_exhausts (d : Driver σ) (supervisor : Supervisor)
    {callbacks : Callbacks (Traced σ) μ} (h : Answering callbacks) (limit : Nat) :
    Follows (run d.traced supervisor callbacks limit) (Exhausts limit) := by
  have hstart := Progress.opening_valid supervisor d.timing.controlPeriod callbacks.torque.isSome
    callbacks.motion.isSome
  refine .bind ((follows_cycles d h hstart limit .nil).and
    (follows_cycles_exhausts d h limit hstart)) ?_ fun calls e hlooped => ?_
  · intro calls next hlooped
    obtain ⟨last, p⟩ := next
    cases hlooped.1 with
    | finished hrounds hadvance hfinished =>
        have hvalid := hadvance.command_valid (hrounds.valid hstart)
        refine .after (.report _) (.mono (follows_terminal d hvalid p) ?_)
        exact fun more outcome hclosing => exhausts_of_ended hclosing.ended
  · exact fun heq => hlooped.2 (by rw [Except.error.inj heq])

end Control

/-! ## Uses -/

section Uses

variable {limit : Nat} {calls : List Call}

theorem Concluded.exhausts {outcome : Except Ending Unit}
    (h : Concluded (Exhausts limit) calls outcome) : Exhausts limit calls outcome := by
  obtain ⟨hcalls⟩ := h
  next outcome =>
    intro hunfinished
    cases outcome with
    | ok n => cases hunfinished
    | error e => exact hcalls (by rw [Except.error.inj hunfinished])

theorem Prioritised.exhausts {r : Robot σ} {outcome : Except Ending α}
    (h : Prioritised r (Exhausts limit) calls outcome) : Exhausts limit calls outcome := by
  cases h with
  | refused _ _ => exact exhausts_of_ended nofun
  | allowed _ hcalls => exact hcalls

theorem Moded.exhausts {mode : ControllerMode} {outcome : Except Ending α}
    (h : Moded mode (Exhausts limit) calls outcome) : Exhausts limit calls outcome := by
  cases h with
  | refused answer hrefused =>
      exact exhausts_of_ended fun heq => Answer.settled_ended hrefused (Except.error.inj heq)
  | @entered reply calls _ hcalls =>
      intro hunfinished
      rw [List.countP_cons_of_neg (by simp [Call.isAccepted])]
      exact hcalls hunfinished

/-- A control session over a traced line that was not followed to its end. -/
theorem traced_exhausts (r : Robot σ) (limit : Nat) (use : ProgramUse μ α)
    (hcontrol : use.isControl = true) {s : Station (Traced σ) μ} (hfree : s.held = false) :
    ∃ calls outcome s', use.traced r limit s = Ending.result outcome s' ∧
      Exhausts limit calls outcome ∧ s'.line.trace = s.line.trace ++ calls := by
  have hsession (kind : SessionKind) (supervisor : Supervisor) (scripts : Scripts μ) :
      Follows (Robot.conclude kind (Control.run r.traced.driver supervisor
        (scripts.traced r limit) limit)) (Exhausts limit) :=
    (follows_conclude kind (Control.run_exhausts r.driver supervisor
      (Control.scripts_answering r scripts limit) limit)).mono fun _ _ => Concluded.exhausts
  cases use with
  | controlTorques torque =>
      exact hold_follows .control ((follows_announce r .control
        (hsession .control r.settings.impliedSupervisor ⟨some torque, none⟩)).mono
          fun _ _ => Prioritised.exhausts) hfree
  | controlTorquesWithMotion torque motion =>
      exact hold_follows .control ((follows_announce r .control
        (hsession .control r.settings.impliedSupervisor ⟨some torque, some motion⟩)).mono
          fun _ _ => Prioritised.exhausts) hfree
  | controlMotion motion mode =>
      exact hold_follows .motion ((follows_announce r .motion ((follows_request_mode r mode
        (hsession .motion (.forMode mode) ⟨none, some motion⟩)).mono
          fun _ _ => Moded.exhausts)).mono fun _ _ => Prioritised.exhausts) hfree
  | read | readOnce | execute => cases hcontrol

/-- A control session that was not followed to its end has had as many commands accepted as the
limit. -/
theorem use_exhausts (r : Robot σ) (limit : Nat) (use : ProgramUse μ α)
    (hcontrol : use.isControl = true) (s : Vacant σ μ) {s' : Station σ μ}
    (hrun : use.run r limit s.station = .error .unfinished s') :
    limit ≤ (use.trace r limit s.station).countP Call.isAccepted := by
  obtain ⟨calls, outcome, s'', htraced, hexhausts, htrace⟩ :=
    traced_exhausts r limit use hcontrol (s := s.station.traced) s.held
  obtain ⟨hcalls, hresult⟩ := use_of_traced r limit use htraced htrace
  have hresult : Ending.result outcome s''.untraced =
      Ending.result (.error (.halt .unfinished)) s' := hresult.symm.trans hrun
  rw [hcalls]
  exact hexhausts (Ending.result_inj hresult).1

end Uses

end ArmControl
