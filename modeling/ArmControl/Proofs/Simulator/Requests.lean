import ArmControl.Proofs.Accounts
import ArmControl.Proofs.Simulator.Completion

/-!
# Requests

A request that does not pass its check is refused by the robot itself, and no call is made. Any
other one is made once and as it is, and what the controller answers is what the caller is told. A
controller checks the arguments again, so a simulated one never has anything to object to in a
request that a robot makes, while a driver alone is refused by it for the same reason. Read
`Driver.execute_made` and `Robot.execute_valid` first, which say what comes of a request that is
made; `requests_pass_unaltered` is the main theorem.
-/

namespace ArmControl

variable {σ μ α : Type}

/-- The result of a task, without the station in which it ends. -/
def Task.result (t : Task σ μ α) (s : Station σ μ) : Except Halt α :=
  match t s with
  | .ok a _ => .ok a
  | .error cause _ => .error cause

namespace Answer

/-- What a driver that made a request returns of the answer to it. -/
def returned (q : Request) : Answer Response → Except Halt (Except DriverError Reply)
  | value (.success reply) => .ok (.ok reply)
  | value (.rejected reason) => .ok (.error (.rejected q.name reason))
  | failure error => .ok (.error (.link error))
  | overflow => .error .clockOverflow

/-- What the caller of a robot is told of it. -/
def told (q : Request) : Answer Response → Except Halt (Except RobotError Reply)
  | value (.success reply) => .ok (.ok reply)
  | value (.rejected reason) => .ok (.error (.configRejected q.name reason))
  | failure error => .ok (.error (.communication (.link error)))
  | overflow => .error .clockOverflow

theorem told_eq (q : Request) (answer : Answer Response) :
    answer.told q = (answer.returned q).map (·.mapError .ofDriver) := by
  cases answer with
  | value response => cases response <;> rfl
  | failure | overflow => rfl

end Answer

/-! ## Any controller -/

/-- A driver makes a request once and as it is, and counts it with its answer. -/
theorem Driver.execute_made (d : Driver σ) (q : Request) (s : Station σ μ) :
    (d.execute q).result s =
        (d.link.request q d.timing.requestTimeout s.line).answer.returned q ∧
      ((d.execute q).after s).line = (d.link.request q d.timing.requestTimeout s.line).line ∧
      ((d.execute q).after s).metrics = s.metrics.recording
        (.request q (d.link.request q d.timing.requestTimeout s.line).answer) := by
  have hrun := d.execute_run q s
  unfold Task.result Task.after
  cases hanswer : (d.link.request q d.timing.requestTimeout s.line).answer with
  | value response =>
      rw [hanswer] at hrun
      rw [hrun]
      cases response with
      | success reply => exact ⟨rfl, rfl, (Metrics.recording_granted q reply s.metrics).symm⟩
      | rejected reason => exact ⟨rfl, rfl, (Metrics.recording_rejected q reason s.metrics).symm⟩
  | failure error =>
      have hrecording : s.metrics.recording (.request q (.failure error)) = _ :=
        Metrics.recording_failure rfl s.metrics
      rw [hanswer] at hrun
      rw [hrun, hrecording]
      exact ⟨rfl, rfl, rfl⟩
  | overflow =>
      have hrecording : s.metrics.recording (.request q .overflow) = _ :=
        Metrics.recording_overflow rfl rfl rfl rfl s.metrics
      rw [hanswer] at hrun
      rw [hrun, hrecording]
      exact ⟨rfl, rfl, rfl⟩

/-- A robot that is free leaves a request that passes its check to the driver, within a session. -/
theorem Robot.execute_valid {r : Robot σ} {q : Request} {s : Station σ μ} (hfree : s.held = false)
    (hvalid : q.validate = .ok ()) :
    (r.execute q).result s =
        ((r.driver.execute q).result (s.acquired .command)).map (·.mapError .ofDriver) ∧
      ((r.execute q).after s).line = ((r.driver.execute q).after (s.acquired .command)).line ∧
      ((r.execute q).after s).metrics.requestsSent =
        ((r.driver.execute q).after (s.acquired .command)).metrics.requestsSent ∧
      ((r.execute q).after s).metrics.requestsRejected =
        ((r.driver.execute q).after (s.acquired .command)).metrics.requestsRejected := by
  have hdispatch : r.dispatch (μ := μ) q = Guarded.ofDriver (r.driver.execute q) := by
    unfold Robot.dispatch
    rw [hvalid]
  unfold Task.result Task.after Robot.execute
  rw [hold_free .command _ hfree, hdispatch]
  unfold Session.releasing
  cases hrun : r.driver.execute q (s.acquired .command) with
  | ok answer s' =>
      rw [of_driver_run hrun]
      cases answer <;> exact ⟨rfl, rfl, rfl, rfl⟩
  | error cause s' =>
      have hhalt : (Guarded.ofDriver (r.driver.execute q)).run (s.acquired .command) =
          .error cause s' := bind_of_error hrun
      rw [hhalt]
      cases cause <;> exact ⟨rfl, rfl, rfl, rfl⟩

/-- A request that was refused for its arguments: nobody but the caller ever hears of it. -/
structure Withheld (r : Robot σ) (limit : Nat) (q : Request) (error : ValueError)
    (s : Station σ μ) : Prop where
  result : (r.execute q).result s = .ok (.error (.invalidArgument error.field error.message))
  calls : ProgramUse.trace r limit (.execute q) s = []
  line : ((r.execute q).after s).line = s.line
  requestsSent : ((r.execute q).after s).metrics.requestsSent = s.metrics.requestsSent
  requestsRejected : ((r.execute q).after s).metrics.requestsRejected = s.metrics.requestsRejected

/-- A request that was made, and what the link did with it. -/
structure Forwarded (r : Robot σ) (limit : Nat) (q : Request) (s : Station σ μ)
    (step : LinkStep σ Response) : Prop where
  result : (r.execute q).result s = step.answer.told q
  calls : ProgramUse.trace r limit (.execute q) s = [.request q step.answer]
  line : ((r.execute q).after s).line = step.line
  requestsSent : ((r.execute q).after s).metrics.requestsSent = s.metrics.requestsSent + 1

variable {r : Robot σ} {q : Request} {s : Vacant σ μ}

theorem Withheld.of_invalid (limit : Nat) {error : ValueError}
    (hinvalid : q.validate = .error error) : Withheld r limit q error s.station := by
  have hcounts := invalid_request_counts r limit q s
  rw [hinvalid] at hcounts
  obtain ⟨hrun, hcalls⟩ := hcounts
  have hrun : r.execute q s.station = _ := hrun
  have hresult : (r.execute q).result s.station = .ok (.error (.ofValue error)) := by
    unfold Task.result
    rw [hrun]
  have hafter : (r.execute q).after s.station =
      (s.station.acquired .command).released .command := by
    unfold Task.after
    rw [hrun]
  exact ⟨hresult, hcalls, by rw [hafter]; rfl, by rw [hafter]; rfl, by rw [hafter]; rfl⟩

/-- A request that passes its check is made once, as it is, with the time configured for it. -/
theorem Forwarded.of_valid (limit : Nat) (hvalid : q.validate = .ok ()) :
    Forwarded r limit q s.station
      (r.driver.link.request q r.driver.timing.requestTimeout s.station.line) := by
  obtain ⟨hresult, hline, hsent, -⟩ := Robot.execute_valid (r := r) s.held hvalid
  obtain ⟨hreturned, hmade, hcounted⟩ :=
    r.driver.execute_made q (s.station.acquired .command)
  have htraced : ((r.traced.execute q).after s.station.traced).line = _ :=
    (Robot.execute_valid (r := r.traced) (s := s.station.traced) s.held hvalid).2.1.trans
      (r.traced.driver.execute_made q _).2.1
  refine ⟨?_, congrArg Traced.trace htraced, hline.trans hmade, ?_⟩
  · rw [hresult, hreturned, Answer.told_eq]
    rfl
  · rw [hsent, hcounted]
    rfl

/-! ## A simulated controller -/

namespace Simulator

/-- What a request that a robot made comes to at a simulated controller that nothing disturbs, next
to the same request made by its driver alone. -/
structure PathsAgree (r : Robot Simulator) (q : Request) (s : Station Simulator μ) : Prop where
  /-- Arguments that are refused change nothing, and are refused with the same words. -/
  invalid : ∀ error, q.validate = .error error →
    (r.execute q).result s = .ok (.error (.invalidArgument error.field error.message)) ∧
      (r.driver.execute q).result s =
        .ok (.error (.rejected q.name (.invalidArgument error.message))) ∧
      ((r.execute q).after s).line = s.line ∧
      ((r.driver.execute q).after s).line =
        { s.line with record := s.line.record.addRequest q }
  /-- All else comes to the same, and is not refused for its arguments. -/
  valid : q.validate = .ok () →
    (r.execute q).result s = ((r.driver.execute q).result s).map (·.mapError .ofDriver) ∧
      ((r.execute q).after s).line = ((r.driver.execute q).after s).line ∧
      ((r.execute q).after s).metrics.requestsSent =
        ((r.driver.execute q).after s).metrics.requestsSent ∧
      ((r.execute q).after s).metrics.requestsRejected =
        ((r.driver.execute q).after s).metrics.requestsRejected ∧
      ∀ name text,
        (r.driver.execute q).result s ≠ .ok (.error (.rejected name (.invalidArgument text)))

/-- A simulated controller finds fault with no arguments that passed their check. -/
theorem decided_of_valid {s : Simulator} (hvalid : q.validate = .ok ()) (text : String) :
    (s.decided q).2 ≠ .rejected (.invalidArgument text) := by
  unfold decided
  rw [hvalid]
  cases q with
  | automaticErrorRecovery =>
      dsimp only [perform]
      cases s.drain.state.requiresRecovery <;> simp
  | _ => simp [perform]

variable {r : Robot Simulator} {s : Vacant Simulator μ}

theorem PathsAgree.of_calm (hlink : r.driver.link = link) (hcalm : s.station.line.Calm) :
    PathsAgree r q s.station := by
  have hrequest : r.driver.link.request q r.driver.timing.requestTimeout s.station.line =
      s.station.line.request q := by
    rw [hlink]
    rfl
  obtain ⟨hreturned, hmade, hcounted⟩ := r.driver.execute_made q s.station
  refine ⟨fun error hinvalid => ?_, fun hvalid => ?_⟩
  · have hdecided : s.station.line.decided q =
        (s.station.line.state, .rejected (.invalidArgument error.message)) := by
      unfold decided
      rw [hinvalid, hcalm.drain]
    have hwithheld := Withheld.of_invalid (r := r) (s := s) 0 hinvalid
    rw [hrequest, hcalm.request, hdecided] at hreturned hmade
    exact ⟨hwithheld.result, hreturned, hwithheld.line, hmade⟩
  · -- The session in which a robot makes a request is nothing to the line and to its counters.
    obtain ⟨hresult, hline, hsent, hrejected⟩ := Robot.execute_valid (r := r) s.held hvalid
    obtain ⟨hreturned', hmade', hcounted'⟩ :=
      r.driver.execute_made q (s.station.acquired .command)
    refine ⟨?_, ?_, ?_, ?_, fun name text heq => ?_⟩
    · rw [hresult, hreturned', hreturned]
      rfl
    · rw [hline, hmade', hmade]
      rfl
    · rw [hsent, hcounted', hcounted]
      rfl
    · rw [hrejected, hcounted', hcounted]
      rfl
    · rw [hreturned, hrequest, hcalm.request] at heq
      cases hresponse : (s.station.line.decided q).2 with
      | success reply =>
          rw [hresponse] at heq
          cases heq
      | rejected reason =>
          rw [hresponse] at heq
          cases heq
          exact decided_of_valid hvalid text hresponse

end Simulator

/-! ## The main theorem -/

/-- A robot that is free refuses a request that fails its check and makes no call for it; any other
request it makes once, as it is, and it tells what was answered. Over a simulated controller that
nothing disturbs, the driver alone is refused such requests with the same words, and all others come
to the same either way. -/
theorem requests_pass_unaltered (q : Request) :
    (∀ {σ μ : Type} (r : Robot σ) (limit : Nat) (s : Vacant σ μ),
      match q.validate with
      | .error error => Withheld r limit q error s.station
      | .ok () => Forwarded r limit q s.station
          (r.driver.link.request q r.driver.timing.requestTimeout s.station.line)) ∧
    ∀ {μ : Type} (r : Robot Simulator) (s : Vacant Simulator μ),
      r.driver.link = Simulator.link → s.station.line.Calm →
        Simulator.PathsAgree r q s.station := by
  refine ⟨fun r limit s => ?_, fun r s hlink hcalm => .of_calm hlink hcalm⟩
  cases hvalidate : q.validate with
  | error error => exact .of_invalid limit hvalidate
  | ok => exact .of_valid limit hvalidate

/-- A wall below the first one is asked for in vain, and the controller never hears of it. -/
theorem negative_wall_is_withheld :
    (Simulator.robot.execute (.getCartesianLimit (-1))).result (.fresh {} () #[]) =
        .ok (.error (.invalidArgument "id"
          "Invalid parameter 'id': virtual wall id must be >= 0, got -1")) ∧
      (Simulator.robot.driver.execute (.getCartesianLimit (-1))).result (.fresh {} () #[]) =
        .ok (.error (.rejected "GetCartesianLimit" (.invalidArgument
          "Invalid parameter 'id': virtual wall id must be >= 0, got -1"))) := by
  have hpaths := (requests_pass_unaltered (.getCartesianLimit (-1))).2 Simulator.robot
    ⟨.fresh {} () #[], rfl⟩ rfl ⟨rfl, rfl⟩
  have hvalidate : (Request.getCartesianLimit (-1)).validate =
      .error (.invalidParameter "id" (.negativeWall (-1))) := by
    unfold Request.validate
    exact if_pos (by decide)
  obtain ⟨hrobot, hdriver, -, -⟩ := hpaths.invalid _ hvalidate
  exact ⟨hrobot, hdriver⟩

end ArmControl
