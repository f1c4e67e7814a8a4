import ArmControl.Proofs.Upkeep

/-!
# Only valid commands are sent

A command reaches the link only when it passes its check, whatever is done with the driver. In a
control session that check never fails, since the outputs of the callbacks were checked before, and
so a session ends only with an error that is fatal. `valid_commands_only` puts these together.
-/

namespace ArmControl

variable {σ μ α β : Type}

/-! ## What is done with a driver -/

/-- Something that can be done with a driver. -/
inductive DriverUse
  | receive
  | send (command : Command)
  | execute (request : Request)

namespace DriverUse

/-- Does it, whatever comes of it. -/
def run (d : Driver σ) : DriverUse → Task σ μ Unit
  | receive => do
      let _ ← d.receive
      pure ()
  | send command => do
      let _ ← d.send command
      pure ()
  | execute request => do
      let _ ← d.execute request
      pure ()

end DriverUse

namespace Driver

/-- Does one thing after another with a driver. -/
def useAll (d : Driver σ) : List DriverUse → Task σ μ Unit
  | [] => pure ()
  | use :: rest => do
      use.run d
      useAll d rest

/-- The calls to the link that this makes. -/
def trace (d : Driver σ) (uses : List DriverUse) (s : Station σ μ) : List Call :=
  (Task.after (d.traced.useAll uses) s.traced).line.trace

end Driver

/-- What the operations of a driver keep is kept by everything that is done with it. -/
theorem DriverUse.maintains {d : Driver σ} {P : Station σ μ → Prop} (h : Upkeep d fun _ => P)
    (use : DriverUse) : Maintains P (use.run d) := by
  cases use with
  | receive => exact .bind (.of_driver_settled h.receive) fun _ => .pure ()
  | send command => exact .bind (.of_driver_settled (h.send command)) fun _ => .pure ()
  | execute request => exact .bind (.of_driver_settled (h.execute request)) fun _ => .pure ()

/-! ## Valid commands -/

/-- Every command among these calls passes its check. -/
def ValidSends (calls : List Call) : Prop :=
  ∀ c answer, .send c answer ∈ calls → c.validate = .ok ()

theorem valid_sends_append {calls more : List Call} :
    ValidSends (calls ++ more) ↔ ValidSends calls ∧ ValidSends more := by
  constructor
  · intro h
    exact ⟨fun c answer hmem => h c answer (List.mem_append_left _ hmem),
      fun c answer hmem => h c answer (List.mem_append_right _ hmem)⟩
  · intro h c answer hmem
    obtain ⟨hcalls, hmore⟩ := h
    rcases List.mem_append.mp hmem with hmem | hmem
    · exact hcalls c answer hmem
    · exact hmore c answer hmem

/-- A driver sends no invalid command. -/
theorem valid_sends_upkeep (d : Driver σ) :
    Upkeep (μ := μ) d.traced fun _ s => ValidSends s.line.trace := by
  refine line_upkeep d.traced (P := fun t => ValidSends t.trace) (fun t h => ?_)
    (fun c t hvalid h => ?_) fun q t h => ?_
  · exact valid_sends_append.mpr ⟨h, by simp [ValidSends]⟩
  · refine valid_sends_append.mpr ⟨h, fun c' answer hmem => ?_⟩
    obtain ⟨rfl, -⟩ : c' = c ∧ answer = (d.link.send c t.line).answer := by simpa using hmem
    exact hvalid
  · exact valid_sends_append.mpr ⟨h, by simp [ValidSends]⟩

theorem use_all_keeps_valid (d : Driver σ) (uses : List DriverUse) :
    Maintains (μ := μ) (fun s => ValidSends s.line.trace) (d.traced.useAll uses) := by
  induction uses with
  | nil => exact .pure ()
  | cons use rest ih => exact .bind (use.maintains (valid_sends_upkeep d)) fun _ => ih

/-- Remembering the calls changes nothing in what is done with a driver. -/
theorem DriverUse.mirrors (d : Driver σ) (use : DriverUse) :
    Mirrors (μ := μ) (use.run d.traced) (use.run d) := by
  cases use with
  | receive => exact .bind (.receive d) fun _ => .pure _
  | send command => exact .bind (.send d command) fun _ => .pure _
  | execute request => exact .bind (.execute d request) fun _ => .pure _

theorem use_all_mirrors (d : Driver σ) (uses : List DriverUse) :
    Mirrors (μ := μ) (d.traced.useAll uses) (d.useAll uses) := by
  induction uses with
  | nil => exact .pure ()
  | cons use rest ih => exact .bind (use.mirrors d) fun _ => ih

namespace Control

/-! ## Sessions -/

/-- The errors that a control session can end with. -/
inductive SessionError : RobotError → Prop
  | control (fault : ModeMismatch) : SessionError (.control fault)
  | link (error : LinkError) : SessionError (.communication (.link error))
  | clock (previous time : Duration) : SessionError (.communication (.clockStalled previous time))
  | numeric (fault : NumericFault) : SessionError (.numeric fault)
  | callback (reason : String) : SessionError (.callback reason)

theorem SessionError.is_fatal {error : RobotError} (h : SessionError error) :
    error.isFatal = true := by
  cases h <;> rfl

variable {withTorque withMotion : Bool} {start p p' : Progress} {calls : List Call}

theorem SessionError.of_opening {error : RobotError}
    (h : Opening p calls (.error (.fault error))) : SessionError error := by
  generalize houtcome : Except.error (Ending.fault error) = outcome at h
  cases h with
  | unanswered answer e hanswer =>
      cases houtcome
      obtain ⟨e, -, rfl⟩ := Answer.outcome_fault hanswer
      exact .link e
  | answered state =>
      rcases Progress.check_error houtcome.symm with
        ⟨fault, -, heq⟩ | ⟨-, ⟨time, -, heq⟩ | ⟨-, heq⟩⟩
      · cases heq
        exact .control fault
      · cases heq
        exact .clock time state.time
      · cases heq

theorem SessionError.of_turn {kind : CallbackKind} {call : Except String (Flow α) → Call}
    {present : Bool} {validate : α → Except ValueError Unit} {slot : Slot α} {cycle : Nat}
    {error : RobotError}
    (h : Turn kind call present validate slot cycle calls (.error (.fault error))) :
    SessionError error := by
  cases h with
  | failed reason _ => exact .callback reason
  | invalid flow error _ _ => exact .numeric ⟨cycle, kind, error⟩

theorem SessionError.of_answer {answer : Answer α} {error : RobotError}
    (h : answer.outcome = .error (.fault error)) : SessionError error := by
  obtain ⟨e, -, rfl⟩ := Answer.outcome_fault h
  exact .link e

/-- A session ends with an error of its own, and never with one of the driver's check. -/
theorem Course.session_error {error : RobotError}
    (h : Course withTorque withMotion start calls (.error (.fault error))) :
    SessionError error := by
  cases h with
  | faltered _ hfaltering =>
      cases hfaltering with
      | unopened hopening => exact .of_opening hopening
      | torqueFailed _ hturn => exact .of_turn hturn
      | motionFailed _ _ hturn => exact .of_turn hturn
      | unsent _ hanswer => exact .of_answer hanswer
  | terminal _ _ _ hclosing =>
      cases hclosing with
      | unopened hopening => exact .of_opening hopening
      | unsent _ hanswer => exact .of_answer hanswer

/-- A round sends its command and no other. -/
theorem Round.valid_sends {r : Round} (h : r.command.validate = .ok ()) (answer : Answer Unit) :
    ValidSends (r.calls answer) := by
  intro c answer' hmem
  have hcommand : c = r.command := by
    cases htorque : r.torque <;> cases hmotion : r.motion <;>
      simp_all [Round.calls, Round.turns, turnCalls]
  rw [hcommand, h]

theorem Rounds.valid_sends {rounds : List Round}
    (h : Rounds withTorque withMotion start rounds p) (hstart : start.Valid) :
    ValidSends (rounds.flatMap Round.accepted) := by
  induction h with
  | nil => simp [ValidSends]
  | snoc hrounds hadvance _ ih =>
      have hvalid := hadvance.command_valid (hrounds.valid hstart)
      rw [List.flatMap_append, valid_sends_append]
      exact ⟨ih, by simpa using Round.valid_sends hvalid (.value ())⟩

/-- Every command of a session passes its check. -/
theorem Course.valid_sends {outcome : Except Ending Nat}
    (h : Course withTorque withMotion start calls outcome) (hstart : start.Valid) :
    ValidSends calls := by
  cases h with
  | unfinished hrounds => exact hrounds.valid_sends hstart
  | faltered hrounds hfaltering =>
      refine valid_sends_append.mpr ⟨hrounds.valid_sends hstart, ?_⟩
      rcases hfaltering.sent with ⟨received, hfilter⟩ | ⟨r, p', answer, hadvance, -, rfl⟩
      · exact fun c answer hmem => absurd hmem (send_not_mem hfilter c answer)
      · exact Round.valid_sends (hadvance.command_valid (hrounds.valid hstart)) answer
  | @terminal rounds _ _ r _ _ hrounds hadvance _ hclosing =>
      have hvalid := hadvance.command_valid (hrounds.valid hstart)
      have hrounds := hrounds.valid_sends hstart
      rw [List.flatMap_append, List.append_assoc, valid_sends_append, valid_sends_append]
      refine ⟨hrounds, by simpa using Round.valid_sends hvalid (.value ()), ?_⟩
      intro c answer hmem
      have hcommand : ∃ messageId, c = r.command.terminal messageId := by
        cases hclosing with
        | unopened hopening =>
            obtain ⟨received, rfl⟩ := hopening.receives
            simp at hmem
        | @unsent state _ _ _ _ _ _ => exact ⟨state.messageId, by simp_all⟩
        | @closed state _ _ _ => exact ⟨state.messageId, by simp_all⟩
      obtain ⟨messageId, rfl⟩ := hcommand
      rw [Command.terminal_validate, hvalid]

/-- Only valid commands are sent, whatever the link does and whatever is done with a driver. The
command that is made of outputs passes its check exactly when the outputs pass theirs, and so does
the terminal command that repeats them. Hence the driver has nothing against the commands of a
control session, which ends only with errors that are fatal. -/
theorem valid_commands_only (r : Robot σ) :
    (∀ (uses : List DriverUse) (s : Station σ μ), ValidSends (r.driver.trace uses s)) ∧
      (∀ (messageId : UInt64) (torque : Option Torques) (target : Option Target) (finished : Bool),
        (buildCommand messageId torque target finished).validate = .ok () ↔
          (∀ t ∈ torque, t.validate = .ok ()) ∧ ∀ m ∈ target, m.validate = .ok ()) ∧
      (∀ (c : Command) (messageId : UInt64), (c.terminal messageId).validate = c.validate) ∧
      ∀ (supervisor : Supervisor) (scripts : Scripts μ) (limit : Nat) (s : Occupied σ μ),
        ValidSends (trace r supervisor scripts limit s.station) ∧
          match session r supervisor scripts limit s.station with
          | .ok (.error error) _ => SessionError error ∧ error.isFatal = true
          | _ => True := by
  refine ⟨?_, fun _ _ _ _ => build_command_validate_iff, Command.terminal_validate, ?_⟩
  · intro uses s
    exact use_all_keeps_valid r.driver uses s.traced (by simp [ValidSends, Station.traced])
  · intro supervisor scripts limit s
    obtain ⟨outcome, s', hcourse, houtcome⟩ := session_course r supervisor scripts limit s
    refine ⟨hcourse.valid_sends (Progress.opening_valid _ _ _ _), ?_⟩
    rw [houtcome.result]
    cases outcome with
    | ok n => trivial
    | error e =>
        cases e with
        | fault error => exact ⟨hcourse.session_error, hcourse.session_error.is_fatal⟩
        | halt cause => trivial

end Control

end ArmControl
