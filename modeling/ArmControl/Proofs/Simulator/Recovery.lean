import ArmControl.Proofs.Simulator.Deeds

/-!
# When a robot has to be recovered

A simulated robot that has to be recovered stays so through torques, through the end of a session,
and through all that fails or is rejected. It is released when recovery is granted or another mode
is injected, and also by a motion that is accepted, which makes it move from whatever mode it was
in. `recovery_is_decided` is the main theorem; `motion_releases` is a run in which nothing but a
motion released the robot.
-/

namespace ArmControl

namespace Deed

/-- What a deed decides about whether the robot has to be recovered. -/
def recovery? : Deed → Option Bool
  | injected (.robotMode mode) => some mode.requiresRecovery
  | called (.request .automaticErrorRecovery (.value (.success _))) => some false
  | called (.send c (.value ())) => if c.motion.isSome then some false else none
  | _ => none

/-- Whether the robot was brought into a mode, by an injection or by a recovery that was granted. -/
def setsRobotMode : Deed → Bool
  | injected (.robotMode _) => true
  | called (.request .automaticErrorRecovery (.value (.success _))) => true
  | _ => false

/-- Whether a motion was accepted. -/
def movesRobot (deed : Deed) : Bool := deed.accepted?.any fun c => c.motion.isSome

/-- Nothing else decides about it. -/
theorem recovery_eq_none {deed : Deed} (hmode : deed.setsRobotMode = false)
    (hmotion : deed.movesRobot = false) : deed.recovery? = none := by
  cases deed with
  | injected injection => cases injection <;> first | rfl | cases hmode
  | called call =>
      cases call with
      | send c answer =>
          cases answer with
          | value => exact if_neg (ne_true_of_eq_false hmotion)
          | failure | overflow => rfl
      | request q answer =>
          cases answer with
          | value response =>
              cases response with
              | success reply => cases q <;> first | rfl | cases hmode
              | rejected reason => cases q <;> rfl
          | failure | overflow => cases q <;> rfl
      | receive | torque | motion | predicate => rfl

end Deed

namespace Simulator

/-! ## Commands -/

/-- A session that ends leaves a robot that does not move in its mode. -/
theorem rest_requires_recovery (state : ArmState) :
    (rest state).requiresRecovery = state.requiresRecovery := by
  unfold ArmState.requiresRecovery rest
  cases state.robotMode <;> rfl

/-- Torques leave a robot in its mode, and a motion makes it move. -/
theorem apply_command_requires_recovery (state : ArmState) (c : Command) (seconds : Float) :
    (applyCommand state c seconds).requiresRecovery =
      if c.motion.isSome then false else state.requiresRecovery := by
  refine apply_command_rule (P := fun after => after.requiresRecovery = state.requiresRecovery)
    rfl (fun _ _ _ h => h) (fun m hm after _ => ?_) (fun hm after h => ?_) (fun _ h => h)
    (fun after h => (rest_requires_recovery after).trans h)
  · rw [show c.motion = some m from hm]
    rfl
  · rw [hm]
    exact h

/-! ## Deeds -/

theorem requires_recovery_written : ArmState.Written ArmState.requiresRecovery Deed.recovery? where
  after period state deed := by
    cases deed with
    | injected injection => cases injection <;> rfl
    | called call =>
        cases call with
        | receive answer => cases answer <;> rfl
        | send c answer =>
            cases answer with
            | value =>
                show (applyCommand state c period.toSeconds).requiresRecovery =
                  (if c.motion.isSome then some false else none).getD state.requiresRecovery
                rw [apply_command_requires_recovery]
                cases c.motion <;> rfl
            | failure | overflow => rfl
        | request q answer =>
            cases answer with
            | value response =>
                cases response with
                | success reply => cases q <;> rfl
                | rejected reason => cases q <;> rfl
            | failure | overflow => cases q <;> rfl
        | torque | motion | predicate => rfl
  shown _ := rfl

/-! ## The main theorem -/

/-- When a robot has to be recovered, told by what its simulator went through. -/
structure Recovers (start : Simulator) (deeds : List Deed) (s : Simulator) : Prop where
  now : s.drain.state.requiresRecovery =
    lastWritten Deed.recovery? start.state.requiresRecovery deeds
  /-- Every state shows what was decided last before it was handed out. -/
  states : ∀ earlier state later, deeds = earlier ++ .called (.receive (.value state)) :: later →
    state.requiresRecovery = lastWritten Deed.recovery? start.state.requiresRecovery earlier
  /-- A robot that has to be recovered stays so until its mode is set or a motion is accepted. -/
  kept : ∀ earlier state between state' later,
    deeds = earlier ++ .called (.receive (.value state)) :: between ++
      .called (.receive (.value state')) :: later →
    state.requiresRecovery →
    (∀ deed ∈ between, deed.setsRobotMode = false ∧ deed.movesRobot = false) →
    state'.requiresRecovery

/-- After any injections and operations on a simulator, whether the robot has to be recovered was
decided by the last mode that was injected, recovery that was granted, or motion that was accepted.
No torques, no end of a session and no other request make a difference. -/
theorem recovery_is_decided (period : Duration) (version : UInt16) (walls : List Wall)
    (state : ArmState) (past : link.Past (create period version walls state)) :
    Recovers (create period version walls state) past.deeds past.line where
  now := requires_recovery_written.history past.history
  states earlier received later hdeeds := by
    have hhistory := past.history
    rw [hdeeds] at hhistory
    exact requires_recovery_written.handed_out hhistory
  kept earlier received between received' later hdeeds hneeded hbetween := by
    have hhistory := past.history
    rw [hdeeds] at hhistory
    -- The later state is looked at from the simulator that handed out the earlier one.
    rw [List.append_assoc] at hhistory
    obtain ⟨before, after, -, hstep, hlater⟩ := hhistory.visits
    have hneeded : after.drain.state.requiresRecovery = true := by
      rw [← (step_leaves hstep).handedOut received rfl]
      exact hneeded
    rw [requires_recovery_written.handed_out hlater, hneeded]
    refine last_written_of_none fun deed hmem => ?_
    obtain ⟨hmode, hmotion⟩ := hbetween deed hmem
    exact Deed.recovery_eq_none hmode hmotion

/-- A simulated robot that was brought into a reflex. -/
def reflexed : Simulator := inject (.robotMode .reflex) (create (.ofMillis 1) 5 [] {})

/-- A motion that keeps the joints where they are. -/
def standstill : Command := { messageId := 1, motion := some { mode := .jointVelocity } }

/-- A motion releases a robot that was not recovered. -/
theorem motion_releases : ¬ ∀ (past : link.Past (create (.ofMillis 1) 5 [] {})) earlier state
    between state' later,
    past.deeds = earlier ++ .called (.receive (.value state)) :: between ++
      .called (.receive (.value state')) :: later →
    state.requiresRecovery → (∀ deed ∈ between, deed.setsRobotMode = false) →
    state'.requiresRecovery := by
  intro hkept
  obtain ⟨state, hstate, hneeded⟩ : ∃ state, (reflexed.receive .zero).answer = .value state ∧
      state.requiresRecovery := ⟨_, rfl, rfl⟩
  obtain ⟨state', hstate', hreleased⟩ : ∃ state,
      (((reflexed.receive .zero).line.send standstill).line.receive .zero).answer = .value state ∧
        state.requiresRecovery = false := ⟨_, rfl, rfl⟩
  have hreceive : link.Step reflexed (.called (.receive (.value state)))
      (reflexed.receive .zero).line := by
    rw [← hstate]
    exact .receive .zero
  have hreceive' : link.Step ((reflexed.receive .zero).line.send standstill).line
      (.called (.receive (.value state')))
      (((reflexed.receive .zero).line.send standstill).line.receive .zero).line := by
    rw [← hstate']
    exact .receive .zero
  have hhistory := (((Link.History.start.snoc (.inject (.robotMode .reflex))).snoc
    hreceive).snoc (.send standstill)).snoc hreceive'
  have hmoved := hkept ⟨_, _, hhistory⟩ [.injected (.robotMode .reflex)] state
    [.called (.send standstill (.value ()))] state' [] rfl hneeded (by simp [Deed.setsRobotMode])
  rw [hreleased] at hmoved
  cases hmoved

end Simulator

end ArmControl
