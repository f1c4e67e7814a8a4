import ArmControl.Proofs.Trace

/-!
# The course of a control session

`Course` says which calls a control session can make and how it then ends. It knows nothing of the
line, the log or the counters: it goes from the answers of the link and the outputs of the callbacks
to the next call. `Rounds` are the ordinary cycles after which the session goes on, and each
constructor of `Course` is one way in which the session ends after some of them. That every session
takes such a course is shown in `ArmControl.Proofs.Control.Adherence`.
-/

namespace ArmControl

/-- The end of a session without a result: an error, or a halt. -/
inductive Ending
  | fault (error : RobotError)
  | halt (cause : Halt)

/-- What an answer of the link means for a session: it goes on with a value, or it ends. -/
def Answer.outcome {α : Type} : Answer α → Except Ending α
  | .value a => .ok a
  | .failure error => .error (.fault (.communication (.link error)))
  | .overflow => .error (.halt .clockOverflow)

/-- An answer that ends the session with an error is a failure of the link. -/
theorem Answer.outcome_fault {α : Type} {answer : Answer α} {error : RobotError}
    (h : answer.outcome = .error (.fault error)) :
    ∃ e, answer = .failure e ∧ error = .communication (.link e) := by
  cases answer with
  | value a => cases h
  | failure e =>
      cases h
      exact ⟨e, rfl, rfl⟩
  | overflow => cases h

/-- Whether a callback has its turn, if it is present at all. -/
def Slot.isDue {α : Type} (present : Bool) (slot : Slot α) : Bool := present && !slot.finished

namespace Control

/-- A session with the given callbacks before its first cycle. -/
def Progress.opening (supervisor : Supervisor) (nominal : Duration) (withTorque withMotion : Bool) :
    Progress where
  supervisor := supervisor
  clock := .start nominal
  cycle := 0
  torque := .start withTorque
  motion := .start withMotion

/-! ## One cycle -/

/-- The checks of a state: first of its mode, then of its time. -/
def Progress.check (p : Progress) (state : ArmState) : Except Ending (Cycle × Progress) :=
  let observation := p.supervisor.observe state.controllerMode (p.cycle + 1)
  match observation.verdict with
  | .error fault => .error (.fault (.control fault))
  | .ok () =>
      match p.clock.tick state.time with
      | .overflow => .error (.halt .clockOverflow)
      | .stalled previous => .error (.fault (.communication (.clockStalled previous state.time)))
      | .advanced period clock =>
          .ok (⟨state, period⟩,
            { p with cycle := p.cycle + 1, supervisor := observation.supervisor, clock })

/-- What it takes for a state to pass its checks, and what is known then. -/
theorem Progress.check_ok {p p' : Progress} {state : ArmState} {now : Cycle}
    (h : p.check state = .ok (now, p')) :
    (p.supervisor.observe state.controllerMode (p.cycle + 1)).verdict = .ok () ∧
      ∃ period clock, p.clock.tick state.time = .advanced period clock ∧ now = ⟨state, period⟩ ∧
        p' = { p with
          cycle := p.cycle + 1
          supervisor := (p.supervisor.observe state.controllerMode (p.cycle + 1)).supervisor
          clock } := by
  unfold check at h
  dsimp only at h
  split at h
  next => cases h
  next hverdict =>
    refine ⟨hverdict, ?_⟩
    cases htick : p.clock.tick state.time with
    | overflow | stalled previous => simp [htick] at h
    | advanced period clock =>
        simp only [htick, Except.ok.injEq, Prod.mk.injEq] at h
        exact ⟨period, clock, rfl, h.1.symm, h.2.symm⟩

/-- In which ways a state can fail its checks. The time does not count when the mode is wrong. -/
theorem Progress.check_error {p : Progress} {state : ArmState} {e : Ending}
    (h : p.check state = .error e) :
    (∃ fault, (p.supervisor.observe state.controllerMode (p.cycle + 1)).verdict = .error fault ∧
        e = .fault (.control fault)) ∨
      (p.supervisor.observe state.controllerMode (p.cycle + 1)).verdict = .ok () ∧
        ((∃ previous, p.clock.tick state.time = .stalled previous ∧
            e = .fault (.communication (.clockStalled previous state.time))) ∨
          p.clock.tick state.time = .overflow ∧ e = .halt .clockOverflow) := by
  unfold check at h
  dsimp only at h
  split at h
  next fault hverdict => exact .inl ⟨fault, hverdict, (Except.error.inj h).symm⟩
  next hverdict =>
    refine .inr ⟨hverdict, ?_⟩
    cases htick : p.clock.tick state.time with
    | advanced period clock => simp [htick] at h
    | stalled previous =>
        simp only [htick, Except.error.injEq] at h
        exact .inl ⟨previous, rfl, h.symm⟩
    | overflow =>
        simp only [htick, Except.error.injEq] at h
        exact .inr ⟨rfl, h.symm⟩

/-- Waiting for a state and checking it. -/
inductive Opening (p : Progress) : List Call → Except Ending (Cycle × Progress) → Prop
  | unanswered (answer : Answer ArmState) (e : Ending) :
      answer.outcome = .error e → Opening p [.receive answer] (.error e)
  | answered (state : ArmState) : Opening p [.receive (.value state)] (p.check state)

/-- A state that passed its checks was received. -/
theorem Opening.checked {p p' : Progress} {calls : List Call} {now : Cycle}
    (h : Opening p calls (.ok (now, p'))) :
    calls = [.receive (.value now.state)] ∧ p.check now.state = .ok (now, p') := by
  generalize houtcome : (Except.ok (now, p') : Except Ending _) = outcome at h
  cases h with
  | unanswered answer e _ => cases houtcome
  | answered state =>
      obtain ⟨-, period, clock, -, rfl, -⟩ := Progress.check_ok houtcome.symm
      exact ⟨rfl, rfl⟩

/-- The turn of a callback that does no harm: an output that passes its check, or no turn at all. -/
inductive Fills {α : Type} (present : Bool) (validate : α → Except ValueError Unit)
    (slot : Slot α) : Option (Flow α) → Slot α → Prop
  | kept : slot.isDue present = false → Fills present validate slot none slot
  | filled (flow : Flow α) :
      slot.isDue present = true → validate flow.value = .ok () →
      Fills present validate slot (some flow) (.accept flow)

/-- The calls of a turn. -/
def turnCalls {α : Type} (call : Except String (Flow α) → Call) (flow : Option (Flow α)) :
    List Call :=
  (flow.map fun flow => call (.ok flow)).toList

/-- The turn of a callback. -/
inductive Turn {α : Type} (kind : CallbackKind) (call : Except String (Flow α) → Call)
    (present : Bool) (validate : α → Except ValueError Unit) (slot : Slot α) (cycle : Nat) :
    List Call → Except Ending (Slot α) → Prop
  | taken (flow : Option (Flow α)) (slot' : Slot α) :
      Fills present validate slot flow slot' →
      Turn kind call present validate slot cycle (turnCalls call flow) (.ok slot')
  | failed (reason : String) :
      slot.isDue present = true →
      Turn kind call present validate slot cycle [call (.error reason)]
        (.error (.fault (.callback reason)))
  | invalid (flow : Flow α) (error : ValueError) :
      slot.isDue present = true → validate flow.value = .error error →
      Turn kind call present validate slot cycle [call (.ok flow)]
        (.error (.fault (.numeric ⟨cycle, kind, error⟩)))

/-- An ordinary cycle whose command was built: the state, the length of the cycle, the outputs of
the callbacks that had a turn, and the command. -/
structure Round where
  state : ArmState
  period : Duration
  torque : Option (Flow Torques)
  motion : Option (Flow Target)
  command : Command

namespace Round

/-- The calls of the callbacks in a round. -/
def turns (r : Round) : List Call :=
  turnCalls (.torque r.state r.period) r.torque ++ turnCalls (.motion r.state r.period) r.motion

/-- The calls of a round whose command gets the given answer. -/
def calls (answer : Answer Unit) (r : Round) : List Call :=
  .receive (.value r.state) :: r.turns ++ [.send r.command answer]

/-- The calls of a round whose command is accepted. -/
abbrev accepted (r : Round) : List Call := r.calls (.value ())

end Round

variable (withTorque withMotion : Bool)

/-- A round leads from the progress before it to the progress after it. -/
structure Advance (p : Progress) (r : Round) (p' : Progress) : Prop where
  checked : p.check r.state =
    .ok (⟨r.state, r.period⟩, { p' with torque := p.torque, motion := p.motion })
  torque : Fills withTorque Torques.validate p.torque r.torque p'.torque
  motion : Fills withMotion Target.validate p.motion r.motion p'.motion
  command : r.command =
    buildCommand r.state.messageId p'.torque.held p'.motion.held p'.finished

/-- An ordinary cycle in which the session ends. -/
inductive Faltering (p : Progress) : List Call → Ending → Prop
  | unopened {calls : List Call} {e : Ending} :
      Opening p calls (.error e) → Faltering p calls e
  | torqueFailed {state : ArmState} {period : Duration} {p' : Progress} {calls : List Call}
      {e : Ending} :
      p.check state = .ok (⟨state, period⟩, p') →
      Turn .torque (.torque state period) withTorque Torques.validate p.torque p'.cycle calls
        (.error e) →
      Faltering p (.receive (.value state) :: calls) e
  | motionFailed {state : ArmState} {period : Duration} {p' : Progress}
      {torque : Option (Flow Torques)} {slot : Slot Torques} {calls : List Call} {e : Ending} :
      p.check state = .ok (⟨state, period⟩, p') →
      Fills withTorque Torques.validate p.torque torque slot →
      Turn .motion (.motion state period) withMotion Target.validate p.motion p'.cycle calls
        (.error e) →
      Faltering p (.receive (.value state) :: turnCalls (.torque state period) torque ++ calls) e
  | unsent {r : Round} {p' : Progress} {answer : Answer Unit} {e : Ending} :
      Advance withTorque withMotion p r p' → answer.outcome = .error e →
      Faltering p (r.calls answer) e

section Exchanges

variable {withTorque withMotion : Bool}

/-- No callback is called over the link. -/
theorem turn_calls_filter {α : Type} (call : Except String (Flow α) → Call)
    (hcall : ∀ output, (call output).isExchange = false) (flow : Option (Flow α)) :
    (turnCalls call flow).filter Call.isExchange = [] := by
  cases flow <;> simp [turnCalls, hcall]

theorem Turn.filter {α : Type} {kind : CallbackKind} {call : Except String (Flow α) → Call}
    {present : Bool} {validate : α → Except ValueError Unit} {slot : Slot α} {cycle : Nat}
    {calls : List Call} {outcome : Except Ending (Slot α)}
    (h : Turn kind call present validate slot cycle calls outcome)
    (hcall : ∀ output, (call output).isExchange = false) : calls.filter Call.isExchange = [] := by
  cases h with
  | taken flow slot' _ => exact turn_calls_filter call hcall flow
  | failed reason _ => simp [hcall]
  | invalid flow error _ _ => simp [hcall]

theorem Opening.receives {p : Progress} {calls : List Call}
    {outcome : Except Ending (Cycle × Progress)} (h : Opening p calls outcome) :
    ∃ answer, calls = [.receive answer] := by
  cases h with
  | unanswered answer e _ => exact ⟨answer, rfl⟩
  | answered state => exact ⟨.value state, rfl⟩

/-- A cycle that ends the session has sent nothing, or a command that was not accepted. -/
theorem Faltering.sent {p : Progress} {calls : List Call} {e : Ending}
    (h : Faltering withTorque withMotion p calls e) :
    (∃ answer, calls.filter Call.isExchange = [.receive answer]) ∨
      ∃ r p' answer, Advance withTorque withMotion p r p' ∧ answer.outcome = .error e ∧
        calls = r.calls answer := by
  cases h with
  | unopened hopening =>
      obtain ⟨answer, rfl⟩ := hopening.receives
      exact .inl ⟨answer, rfl⟩
  | @torqueFailed state _ _ _ _ _ hturn =>
      have hfilter := hturn.filter fun _ => rfl
      refine .inl ⟨.value state, ?_⟩
      rw [List.filter_cons, hfilter]
      rfl
  | @motionFailed state period _ torque _ _ _ _ _ hturn =>
      have hfilter := hturn.filter fun _ => rfl
      have htorque := turn_calls_filter (.torque state period) (fun _ => rfl) torque
      refine .inl ⟨.value state, ?_⟩
      rw [List.cons_append, List.filter_cons, List.filter_append, htorque, hfilter]
      rfl
  | @unsent r p' answer _ hadvance hanswer =>
      exact .inr ⟨r, p', answer, hadvance, hanswer, rfl⟩

/-- Calls of which only a receive goes to the link send nothing. -/
theorem send_not_mem {calls : List Call} {received : Answer ArmState}
    (h : calls.filter Call.isExchange = [.receive received]) (c : Command) (answer : Answer Unit) :
    .send c answer ∉ calls := by
  intro hmem
  have hfilter : Call.send c answer ∈ calls.filter Call.isExchange :=
    List.mem_filter.mpr ⟨hmem, rfl⟩
  rw [h] at hfilter
  simp at hfilter

end Exchanges

/-! ## Sessions -/

/-- Rounds with accepted commands after which the session goes on. -/
inductive Rounds (start : Progress) : List Round → Progress → Prop
  | nil : Rounds start [] start
  | snoc {rounds : List Round} {p p' : Progress} {r : Round} :
      Rounds start rounds p → Advance withTorque withMotion p r p' → p'.finished = false →
      Rounds start (rounds ++ [r]) p'

/-- The terminal cycle, from a progress in which every callback has finished. -/
inductive Closing (p : Progress) (last : Command) : List Call → Except Ending Nat → Prop
  | unopened {calls : List Call} {e : Ending} :
      Opening p calls (.error e) → Closing p last calls (.error e)
  | unsent {state : ArmState} {now : Cycle} {p' : Progress} {answer : Answer Unit} {e : Ending} :
      p.check state = .ok (now, p') → answer.outcome = .error e →
      Closing p last [.receive (.value state), .send (last.terminal state.messageId) answer]
        (.error e)
  | closed {state : ArmState} {now : Cycle} {p' : Progress} :
      p.check state = .ok (now, p') →
      Closing p last [.receive (.value state), .send (last.terminal state.messageId) (.value ())]
        (.ok (p'.cycle - 1))

/-- The calls of a control session, and its outcome: the number of its ordinary cycles, or how it
ended without one. -/
inductive Course (start : Progress) : List Call → Except Ending Nat → Prop
  | unfinished {rounds : List Round} {p : Progress} :
      Rounds withTorque withMotion start rounds p →
      Course start (rounds.flatMap Round.accepted) (.error (.halt .unfinished))
  | faltered {rounds : List Round} {p : Progress} {calls : List Call} {e : Ending} :
      Rounds withTorque withMotion start rounds p → Faltering withTorque withMotion p calls e →
      Course start (rounds.flatMap Round.accepted ++ calls) (.error e)
  | terminal {rounds : List Round} {p p' : Progress} {r : Round} {calls : List Call}
      {outcome : Except Ending Nat} :
      Rounds withTorque withMotion start rounds p → Advance withTorque withMotion p r p' →
      p'.finished = true → Closing p' r.command calls outcome →
      Course start ((rounds ++ [r]).flatMap Round.accepted ++ calls) outcome

end Control

end ArmControl
