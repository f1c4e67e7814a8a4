import ArmControl.Proofs.Control.Faults
import ArmControl.Proofs.Robot.Trace

/-!
# What a use keeps up

An `Invariant` of a station may hang on the error that the call in progress has come to, because
some things hold only once the caller knows of it. `Upkeep` lists what a driver and the loops above
it have to keep for such an invariant to last; from it `Upkeep.use_settles` goes on to every call on
a robot, whatever its callbacks are, as long as these keep the invariant too. The operations of a
driver are opened once, in `receive_run`, `send_run` and `execute_run`.
-/

namespace ArmControl

variable {σ μ α β : Type}

/-! ## The operations of a driver -/

/-- The counters after a failed exchange. -/
def Metrics.failing (error : LinkError) (m : Metrics) : Metrics :=
  if error.isTimeout then { m with receiveTimeouts := m.receiveTimeouts + 1 }
  else { m with transportErrors := m.transportErrors + 1 }

/-- The station after a failed exchange was counted and reported. -/
def Station.failed (error : LinkError) (s : Station σ μ) : Station σ μ :=
  (s.counted (Metrics.failing error)).reported [.linkFailed error]

/-- An exchange gives the answer of its operation. -/
theorem exchange_run (operation : σ → LinkStep σ α) (s : Station σ μ) :
    Task.exchange operation s =
      match (operation s.line).answer with
      | .value a => .ok (.ok a) (s.exchanged operation)
      | .failure error => .ok (.error error) (s.exchanged operation)
      | .overflow => .error .clockOverflow (s.exchanged operation) := rfl

theorem attempt_run (operation : σ → LinkStep σ α) (s : Station σ μ) :
    Driver.attempt operation s =
      match (operation s.line).answer with
      | .value a => .ok (.ok a) (s.exchanged operation)
      | .failure error => .ok (.error (.link error)) ((s.exchanged operation).failed error)
      | .overflow => .error .clockOverflow (s.exchanged operation) := by
  have hrun := exchange_run operation s
  cases hanswer : (operation s.line).answer with
  | value a =>
      rw [hanswer] at hrun
      exact bind_of_ok hrun
  | failure error =>
      rw [hanswer] at hrun
      refine (bind_of_ok hrun).trans ?_
      dsimp only
      unfold Station.failed
      rw [reported_singleton]
      unfold Driver.recordFailure Station.counted Metrics.failing
      cases error.isTimeout <;> rfl
  | overflow =>
      rw [hanswer] at hrun
      exact bind_of_error hrun

namespace Driver

variable (d : Driver σ)

/-- Waiting for a state: the state is counted and remembered, or the failure is counted. -/
theorem receive_run (s : Station σ μ) :
    d.receive s =
      match (d.link.receive d.timing.receiveTimeout s.line).answer with
      | .value state => .ok (.ok state)
          ((((s.exchanged (d.link.receive d.timing.receiveTimeout)).counted fun m =>
            { m with statesReceived := m.statesReceived + 1 }).published state).reported
              [.stateReceived state.messageId])
      | .failure error => .ok (.error (.link error))
          ((s.exchanged (d.link.receive d.timing.receiveTimeout)).failed error)
      | .overflow =>
          .error .clockOverflow (s.exchanged (d.link.receive d.timing.receiveTimeout)) := by
  have hrun := attempt_run (d.link.receive d.timing.receiveTimeout) s
  cases hanswer : (d.link.receive d.timing.receiveTimeout s.line).answer with
  | value state =>
      rw [hanswer] at hrun
      dsimp only
      rw [reported_singleton]
      exact bind_of_ok hrun
  | failure error =>
      rw [hanswer] at hrun
      exact bind_of_ok hrun
  | overflow =>
      rw [hanswer] at hrun
      exact bind_of_error hrun

/-- Sending a command: nothing happens unless it passes its check. -/
theorem send_run (c : Command) (s : Station σ μ) :
    d.send c s =
      match c.validate with
      | .error error => .ok (.error (.value error)) s
      | .ok () =>
          match (d.link.send c s.line).answer with
          | .value () => .ok (.ok ())
              (((s.exchanged (d.link.send c)).counted fun m =>
                { m with commandsSent := m.commandsSent + 1 }).reported [.commandSent c.messageId])
          | .failure error =>
              .ok (.error (.link error)) ((s.exchanged (d.link.send c)).failed error)
          | .overflow => .error .clockOverflow (s.exchanged (d.link.send c)) := by
  unfold send
  cases c.validate with
  | error error => rfl
  | ok =>
      have hrun := attempt_run (d.link.send c) s
      cases hanswer : (d.link.send c s.line).answer with
      | value =>
          rw [hanswer] at hrun
          dsimp only
          rw [reported_singleton]
          exact bind_of_ok hrun
      | failure error =>
          rw [hanswer] at hrun
          exact bind_of_ok hrun
      | overflow =>
          rw [hanswer] at hrun
          exact bind_of_error hrun

/-- The station when a request is about to be made. -/
def asking (q : Request) (s : Station σ μ) : Station σ μ :=
  (s.counted fun m => { m with requestsSent := m.requestsSent + 1 }).reported
    [.requestStarted q.name]

/-- Making a request: it is counted, and so is its failure or rejection. -/
theorem execute_run (q : Request) (s : Station σ μ) :
    d.execute q s =
      match (d.link.request q d.timing.requestTimeout s.line).answer with
      | .value (.success reply) => .ok (.ok reply)
          (((asking q s).exchanged (d.link.request q d.timing.requestTimeout)).reported
            [.requestSucceeded q.name])
      | .value (.rejected reason) => .ok (.error (.rejected q.name reason))
          ((((asking q s).exchanged (d.link.request q d.timing.requestTimeout)).counted fun m =>
            { m with requestsRejected := m.requestsRejected + 1 }).reported
              [.requestRejected q.name reason])
      | .failure error => .ok (.error (.link error))
          (((asking q s).exchanged (d.link.request q d.timing.requestTimeout)).failed error)
      | .overflow => .error .clockOverflow
          ((asking q s).exchanged (d.link.request q d.timing.requestTimeout)) := by
  have hcount : Task.count (fun m => { m with requestsSent := m.requestsSent + 1 }) s =
      .ok () (s.counted fun m => { m with requestsSent := m.requestsSent + 1 }) := rfl
  have hreport : Task.report (.requestStarted q.name)
      (s.counted fun m => { m with requestsSent := m.requestsSent + 1 }) = .ok () (asking q s) := by
    unfold asking
    rw [reported_singleton]
    rfl
  have hrun := attempt_run (d.link.request q d.timing.requestTimeout) (asking q s)
  have hline : (asking q s).line = s.line := rfl
  rw [hline] at hrun
  unfold execute
  rw [bind_of_ok hcount, bind_of_ok hreport]
  cases hanswer : (d.link.request q d.timing.requestTimeout s.line).answer with
  | value response =>
      rw [hanswer] at hrun
      refine (bind_of_ok hrun).trans ?_
      cases response <;> dsimp only <;> rw [reported_singleton] <;> rfl
  | failure error =>
      rw [hanswer] at hrun
      exact bind_of_ok hrun
  | overflow =>
      rw [hanswer] at hrun
      exact bind_of_error hrun

end Driver

/-- Running one guarded computation after another. -/
theorem Guarded.run_bind (m : Guarded σ μ α) (f : α → Guarded σ μ β) (s : Station σ μ) :
    (m >>= f).run s =
      match m.run s with
      | .ok (.ok a) s' => (f a).run s'
      | .ok (.error error) s' => .ok (.error error) s'
      | .error cause s' => .error cause s' := by
  show EStateM.bind m.run (ExceptT.bindCont f) s = _
  unfold EStateM.bind
  cases m.run s with
  | ok answer s' => cases answer <;> rfl
  | error cause s' => rfl

/-- Running a loop and reporting its end. -/
theorem Robot.run_conclude (kind : SessionKind) (loop : Guarded σ μ Nat) (s : Station σ μ) :
    (Robot.conclude kind loop).run s =
      match loop.run s with
      | .ok (.ok cycles) s' => .ok (.ok ()) (s'.reported [.sessionFinished kind cycles])
      | .ok (.error error) s' => .ok (.error error) (s'.reported [.sessionAborted kind error])
      | .error cause s' => .error cause s' := by
  show EStateM.bind loop.run _ s = _
  unfold EStateM.bind
  cases loop.run s with
  | ok answer s' => cases answer <;> dsimp only <;> rw [reported_singleton] <;> rfl
  | error cause s' => rfl

/-! ## Keeping a property -/

/-- The task keeps the property of its station, however it ends. -/
def Maintains (P : Station σ μ → Prop) (t : Task σ μ α) : Prop := ∀ s, P s → P (t.after s)

/-- A property of stations, which may hang on the error that the call in progress has come to. -/
abbrev Invariant (σ μ : Type) := Option RobotError → Station σ μ → Prop

/-- What is left of an invariant by a run with this result. -/
def Settled (I : Invariant σ μ) : EStateM.Result Halt (Station σ μ) (Except RobotError α) → Prop
  | .ok (.ok _) s => I none s
  | .ok (.error error) s => I (some error) s
  | .error _ s => I none s

/-- The computation keeps the invariant, up to the error that it may come to. -/
def Settles (I : Invariant σ μ) (m : Guarded σ μ α) : Prop := ∀ s, I none s → Settled I (m.run s)

namespace Maintains

variable {P : Station σ μ → Prop} {t : Task σ μ α} {f : α → Task σ μ β}

theorem pure (a : α) : Maintains P (Pure.pure a) := fun _ hs => hs

theorem bind (ht : Maintains P t) (hf : ∀ a, Maintains P (f a)) : Maintains P (t >>= f) := by
  intro s hs
  have hafter := ht s hs
  unfold Task.after at hafter
  cases hrun : t s with
  | ok a s' =>
      rw [hrun] at hafter
      have hrest := hf a s' hafter
      unfold Task.after at hrest ⊢
      rw [bind_of_ok hrun]
      exact hrest
  | error cause s' =>
      rw [hrun] at hafter
      unfold Task.after
      rw [bind_of_error hrun]
      exact hafter

theorem modify {change : Station σ μ → Station σ μ} (h : ∀ s, P s → P (change s)) :
    Maintains P (modify change) := h

/-- A program that is run while a session holds the driver keeps what every stir keeps. -/
theorem of_stirs {r : Robot σ} (limit : Nat) (program : Program μ α)
    (hheld : ∀ s, P s → s.held = true) (hstir : ∀ s s', Stir r s s' → P s → P s') :
    Maintains P (program.run r limit) := by
  intro s hs
  obtain ⟨a, s', hrun, hstirs⟩ := run_busy r limit program (hheld s hs)
  unfold Task.after
  rw [hrun]
  exact hstirs.keep hstir hs

end Maintains

namespace Settles

variable {I : Invariant σ μ} {m : Guarded σ μ α} {f : α → Guarded σ μ β}

theorem pure (a : α) : Settles I (Pure.pure a : Guarded σ μ α) := fun _ hs => hs

theorem fail {error : RobotError} (h : ∀ s, I none s → I (some error) s) :
    Settles (α := α) I (Guarded.fail error) := h

theorem halt (cause : Halt) : Settles (α := α) I (Guarded.halt cause) := fun _ hs => hs

/-- What the first of two computations leaves of the invariant, the second one keeps. -/
theorem after {s : Station σ μ} (hsettled : Settled I (m.run s)) (hf : ∀ a, Settles I (f a)) :
    Settled I ((m >>= f).run s) := by
  rw [Guarded.run_bind]
  cases hrun : m.run s with
  | ok answer s' =>
      rw [hrun] at hsettled
      cases answer with
      | ok a => exact hf a s' hsettled
      | error error => exact hsettled
  | error cause s' =>
      rw [hrun] at hsettled
      exact hsettled

theorem bind (hm : Settles I m) (hf : ∀ a, Settles I (f a)) : Settles I (m >>= f) :=
  fun s hs => after (hm s hs) hf

theorem of_task {t : Task σ μ α} (h : Maintains (I none) t) : Settles I (Guarded.ofTask t) := by
  intro s hs
  have hafter := h s hs
  unfold Task.after at hafter
  show Settled I (EStateM.bind t (fun a => Pure.pure (.ok a)) s)
  unfold EStateM.bind
  cases hrun : t s with
  | ok a s' =>
      rw [hrun] at hafter
      exact hafter
  | error cause s' =>
      rw [hrun] at hafter
      exact hafter

end Settles

/-- What is left of an invariant by an operation of a driver with this result. -/
def DriverSettled (I : Invariant σ μ) :
    EStateM.Result Halt (Station σ μ) (Except DriverError α) → Prop
  | .ok (.ok _) s => I none s
  | .ok (.error error) s => I (some (.ofDriver error)) s
  | .error _ s => I none s

/-- An operation of a driver that keeps an invariant, whether it fails or not. -/
theorem Maintains.of_driver_settled {P : Station σ μ → Prop}
    {t : Task σ μ (Except DriverError α)} (h : ∀ s, P s → DriverSettled (fun _ => P) (t s)) :
    Maintains P t := by
  intro s hs
  have hsettled := h s hs
  unfold Task.after
  cases hrun : t s with
  | ok answer s' =>
      rw [hrun] at hsettled
      cases answer <;> exact hsettled
  | error cause s' =>
      rw [hrun] at hsettled
      exact hsettled

namespace Control

variable (d : Driver σ) (callbacks : Callbacks σ μ)

/-- An ordinary cycle from when its state has passed: the callbacks and the command. -/
def respond (next : Cycle × Progress) : Guarded σ μ (Command × Progress) := do
  let (now, p) := next
  let torque ← turn .torque Torques.validate callbacks.torque p.torque p.cycle now
  let motion ← turn .motion Target.validate callbacks.motion p.motion p.cycle now
  let p := { p with torque, motion }
  let command := buildCommand now.state.messageId torque.held motion.held p.finished
  sendCommand d command
  pure (command, p)

/-- The terminal cycle, after the ordinary ones. -/
def finish (cycled : Command × Progress) : Guarded σ μ Nat := do
  let (last, p) := cycled
  Guarded.ofTask (Task.report (.callbacksFinished p.cycle p.clock.elapsed))
  let (now, p) ← nextState d p
  sendCommand d (last.terminal now.state.messageId)
  pure (p.cycle - 1)

theorem cycle_eq (p : Progress) : cycle d callbacks p = nextState d p >>= respond d callbacks := rfl

theorem run_eq (supervisor : Supervisor) (limit : Nat) :
    run d supervisor callbacks limit =
      cycles d callbacks limit (.start supervisor d.timing.controlPeriod callbacks) >>= finish d :=
  rfl

end Control

/-- What keeps an invariant while a session runs: the operations of the driver, lines in the log,
and the ways in which a loop comes to an error. Faults of mode and number are counted on the way. -/
structure Upkeep (d : Driver σ) (I : Invariant σ μ) : Prop where
  receive : ∀ s, I none s → DriverSettled I (d.receive s)
  send : ∀ c s, I none s → DriverSettled I (d.send c s)
  execute : ∀ q s, I none s → DriverSettled I (d.execute q s)
  report : ∀ events {pending s}, I pending s → I pending (s.reported events)
  fail : ∀ (error : RobotError) {s}, error.isControl = false → error.isNumeric = false →
    I none s → I (some error) s
  controlFault : ∀ fault {s}, I none s →
    I (some (.control fault)) (s.counted fun m => { m with controlFaults := m.controlFaults + 1 })
  numericFault : ∀ fault {s}, I none s →
    I (some (.numeric fault)) (s.counted fun m => { m with numericFaults := m.numericFaults + 1 })

/-- An invariant that hangs on no error is left however the call ended. -/
theorem Settled.kept {P : Station σ μ → Prop} {t : Task σ μ (Except RobotError α)}
    {s : Station σ μ} (h : Settled (fun _ => P) (t s)) : P (t.after s) := by
  unfold Task.after
  cases hrun : t s with
  | ok answer s' =>
      rw [hrun] at h
      cases answer <;> exact h
  | error cause s' =>
      rw [hrun] at h
      exact h

/-- What is left of an invariant by a call, and then by what is done with its result. -/
theorem Settled.bind {J : Invariant σ μ} {Q : Station σ μ → Prop}
    {t : Task σ μ (Except RobotError α)} {f : Except RobotError α → Task σ μ β} {s : Station σ μ}
    (ht : Settled J (t s)) (hok : ∀ a s', J none s' → Q ((f (.ok a)).after s'))
    (herror : ∀ error s', J (some error) s' → Q ((f (.error error)).after s'))
    (hhalt : ∀ s', J none s' → Q s') : Q ((t >>= f).after s) := by
  unfold Task.after at hok herror ⊢
  cases hrun : t s with
  | ok answer s' =>
      rw [hrun] at ht
      rw [bind_of_ok hrun]
      cases answer with
      | ok a => exact hok a s' ht
      | error error => exact herror error s' ht
  | error cause s' =>
      rw [hrun] at ht
      rw [bind_of_error hrun]
      exact hhalt s' ht

namespace Upkeep

variable {d : Driver σ} {I : Invariant σ μ} (h : Upkeep d I)

omit h in
theorem of_driver {t : Task σ μ (Except DriverError α)}
    (ht : ∀ s, I none s → DriverSettled I (t s)) : Settles I (Guarded.ofDriver t) := by
  intro s hs
  have hsettled := ht s hs
  show Settled I (EStateM.bind t _ s)
  unfold EStateM.bind
  cases hrun : t s with
  | ok answer s' =>
      rw [hrun] at hsettled
      cases answer <;> exact hsettled
  | error cause s' =>
      rw [hrun] at hsettled
      exact hsettled

include h

/-- No operation of a driver changes the lock or the memory of the program. -/
theorem frame (F : Bool → μ → Prop) :
    Upkeep d fun pending s => F s.held s.memory ∧ I pending s where
  receive s hs := by
    obtain ⟨hframe, hs⟩ := hs
    have hsettled := h.receive s hs
    rw [Driver.receive_run] at hsettled ⊢
    generalize (d.link.receive d.timing.receiveTimeout s.line).answer = answer at hsettled ⊢
    cases answer <;> exact ⟨hframe, hsettled⟩
  send c s hs := by
    obtain ⟨hframe, hs⟩ := hs
    have hsettled := h.send c s hs
    rw [Driver.send_run] at hsettled ⊢
    cases hvalid : c.validate with
    | error error =>
        rw [hvalid] at hsettled
        exact ⟨hframe, hsettled⟩
    | ok =>
        rw [hvalid] at hsettled
        generalize (d.link.send c s.line).answer = answer at hsettled ⊢
        cases answer <;> exact ⟨hframe, hsettled⟩
  execute q s hs := by
    obtain ⟨hframe, hs⟩ := hs
    have hsettled := h.execute q s hs
    rw [Driver.execute_run] at hsettled ⊢
    generalize (d.link.request q d.timing.requestTimeout s.line).answer = answer at hsettled ⊢
    cases answer with
    | value response => cases response <;> exact ⟨hframe, hsettled⟩
    | failure error => exact ⟨hframe, hsettled⟩
    | overflow => exact ⟨hframe, hsettled⟩
  report events _ _ hs := ⟨hs.1, h.report events hs.2⟩
  fail error _ hcontrol hnumeric hs := ⟨hs.1, h.fail error hcontrol hnumeric hs.2⟩
  controlFault fault _ hs := ⟨hs.1, h.controlFault fault hs.2⟩
  numericFault fault _ hs := ⟨hs.1, h.numericFault fault hs.2⟩

/-- So a session that has the driver keeps it. -/
theorem within : Upkeep d fun pending s => s.held = true ∧ I pending s :=
  h.frame fun held _ => held = true

theorem report_all (events : List Event) : Maintains (I none) (Task.reportAll events) :=
  .modify fun _ => h.report events

theorem report_one (event : Event) {pending : Option RobotError} :
    Maintains (I pending) (Task.report event) := by
  refine .modify fun s hs => ?_
  simpa only [reported_singleton] using h.report [event] hs

/-! ## Loops -/

theorem watch (supervisor : Supervisor) (state : ArmState) (cycle : Nat) :
    Settles I (supervisor.watch state cycle) := by
  refine .bind (.of_task (h.report_all _)) fun _ => ?_
  cases (supervisor.observe state.controllerMode cycle).verdict with
  | ok => exact .pure _
  | error fault => exact fun s hs => h.controlFault fault hs

theorem next_state (p : Control.Progress) : Settles I (Control.nextState d p) := by
  refine .bind (of_driver h.receive) fun state => .bind (h.watch _ state _) fun supervisor => ?_
  cases p.clock.tick state.time with
  | overflow => exact .halt _
  | stalled previous => exact .fail fun s hs => h.fail _ rfl rfl hs
  | advanced period clock => exact .bind (.of_task (h.report_one _)) fun _ => .pure _

theorem turn (kind : CallbackKind) (validate : α → Except ValueError Unit)
    {callback : Option (Callback σ μ α)}
    (hcall : ∀ call ∈ callback, ∀ state period, Maintains (I none) (call state period))
    (slot : Slot α) (cycle : Nat) (now : Control.Cycle) :
    Settles I (Control.turn kind validate callback slot cycle now) := by
  unfold Control.turn
  cases callback with
  | none => exact .pure _
  | some call =>
      cases slot.finished with
      | true => exact .pure _
      | false =>
          refine .bind (.of_task (hcall call rfl now.state now.period)) fun answer => ?_
          cases answer with
          | error reason => exact .fail fun s hs => h.fail _ rfl rfl hs
          | ok flow =>
              dsimp only
              cases validate flow.value with
              | ok => exact .pure _
              | error error => exact fun s hs => h.numericFault _ hs

theorem send_command (c : Command) : Settles I (Control.sendCommand d c) := of_driver (h.send c)

variable {callbacks : Callbacks σ μ}
  (htorque : ∀ call ∈ callbacks.torque, ∀ state period, Maintains (I none) (call state period))
  (hmotion : ∀ call ∈ callbacks.motion, ∀ state period, Maintains (I none) (call state period))

include htorque hmotion

theorem respond (next : Control.Cycle × Control.Progress) :
    Settles I (Control.respond d callbacks next) := by
  refine .bind (h.turn _ _ htorque _ _ _) fun torque => ?_
  refine .bind (h.turn _ _ hmotion _ _ _) fun motion => ?_
  exact .bind (h.send_command _) fun _ => .pure _

theorem cycle (p : Control.Progress) : Settles I (Control.cycle d callbacks p) := by
  rw [Control.cycle_eq]
  exact .bind (h.next_state p) (h.respond htorque hmotion)

theorem cycles (limit : Nat) (p : Control.Progress) :
    Settles I (Control.cycles d callbacks limit p) := by
  induction limit generalizing p with
  | zero => exact .halt _
  | succ limit ih =>
      refine .bind (h.cycle htorque hmotion p) fun ⟨command, p⟩ => ?_
      dsimp only
      cases p.finished with
      | true => exact .pure _
      | false => exact ih p

omit htorque hmotion in
theorem finish (cycled : Command × Control.Progress) : Settles I (Control.finish d cycled) := by
  refine .bind (.of_task (h.report_one _)) fun _ => .bind (h.next_state _) fun ⟨now, p⟩ => ?_
  exact .bind (h.send_command _) fun _ => .pure _

theorem control_run (supervisor : Supervisor) (limit : Nat) :
    Settles I (Control.run d supervisor callbacks limit) := by
  rw [Control.run_eq]
  exact .bind (h.cycles htorque hmotion _ _) h.finish

omit htorque hmotion

theorem reading_states {keepOn : ArmState → Task σ μ Bool}
    (hkeep : ∀ state, Maintains (I none) (keepOn state)) (limit : Nat) (supervisor : Supervisor)
    (cycle : Nat) : Settles I (Reading.states d keepOn limit supervisor cycle) := by
  induction limit generalizing supervisor cycle with
  | zero => exact .halt _
  | succ limit ih =>
      refine .bind (of_driver h.receive) fun state => .bind (h.watch _ state _) fun supervisor => ?_
      refine .bind (.of_task (hkeep state)) fun goOn => ?_
      cases goOn with
      | true => exact ih supervisor (cycle + 1)
      | false => exact .bind (.of_task (h.report_one _)) fun _ => .pure _

/-- What a loop leaves of the invariant is still there when its end was reported. -/
theorem after_loop (kind : SessionKind) {loop : Guarded σ μ Nat} {s : Station σ μ}
    (hsettled : Settled I (loop.run s)) : Settled I ((Robot.conclude kind loop).run s) := by
  rw [Robot.run_conclude]
  cases hrun : loop.run s with
  | ok answer s' =>
      rw [hrun] at hsettled
      cases answer <;> exact h.report _ hsettled
  | error cause s' =>
      rw [hrun] at hsettled
      exact hsettled

theorem conclude (kind : SessionKind) {loop : Guarded σ μ Nat} (hloop : Settles I loop) :
    Settles I (Robot.conclude kind loop) :=
  fun s hs => h.after_loop kind (hloop s hs)

end Upkeep

/-- What holds of a line that a session uses. -/
def Along (P : σ → Prop) : Invariant σ μ := fun _ s => s.held = true ∧ P s.line

/-- What every operation of a link keeps, its driver keeps. Only commands that pass their check come
to the link. -/
theorem line_upkeep (d : Driver σ) {P : σ → Prop}
    (hreceive : ∀ line, P line → P (d.link.receive d.timing.receiveTimeout line).line)
    (hsend : ∀ c line, c.validate = .ok () → P line → P (d.link.send c line).line)
    (hrequest : ∀ q line, P line → P (d.link.request q d.timing.requestTimeout line).line) :
    Upkeep (μ := μ) d fun _ s => P s.line where
  receive s hs := by
    rw [Driver.receive_run]
    have hline := hreceive s.line hs
    cases (d.link.receive d.timing.receiveTimeout s.line).answer <;> exact hline
  send c s hs := by
    rw [Driver.send_run]
    cases hvalid : c.validate with
    | error error => exact hs
    | ok =>
        have hline := hsend c s.line hvalid hs
        cases (d.link.send c s.line).answer <;> exact hline
  execute q s hs := by
    rw [Driver.execute_run]
    have hline := hrequest q s.line hs
    cases (d.link.request q d.timing.requestTimeout s.line).answer with
    | value response => cases response <;> exact hline
    | failure error => exact hline
    | overflow => exact hline
  report _ _ _ hs := hs
  fail _ _ _ _ hs := hs
  controlFault _ _ hs := hs
  numericFault _ _ hs := hs

/-- So it does in a session. -/
theorem along_upkeep (d : Driver σ) {P : σ → Prop}
    (hreceive : ∀ line, P line → P (d.link.receive d.timing.receiveTimeout line).line)
    (hsend : ∀ c line, c.validate = .ok () → P line → P (d.link.send c line).line)
    (hrequest : ∀ q line, P line → P (d.link.request q d.timing.requestTimeout line).line) :
    Upkeep (μ := μ) d (Along P) :=
  (line_upkeep d hreceive hsend hrequest).within

/-! ## Within a session -/

namespace Upkeep

variable {r : Robot σ} {I : Invariant σ μ} (h : Upkeep r.driver I)

include h

theorem dispatch (q : Request) : Settles I (r.dispatch q) := by
  unfold Robot.dispatch
  cases q.validate with
  | error error => exact .fail fun s hs => h.fail _ rfl rfl hs
  | ok => exact of_driver (h.execute q)

theorem request_mode (mode : ControllerMode) : Settles I (r.requestMode mode) :=
  .bind (h.dispatch _) fun _ => .bind (.of_task (h.report_all _)) fun _ => .pure _

theorem announce (kind : SessionKind) : Settles I (r.announce kind) := by
  refine .bind (of_driver fun s hs => ?_) fun _ => .of_task (h.report_one _)
  cases r.priority with
  | ok => exact h.report_one _ s hs
  | error reason =>
      cases r.settings.realtime with
      | enforce => exact h.fail (.realtime reason) rfl rfl hs
      | ignore => exact h.report_one _ s hs

end Upkeep

/-! ## Sessions -/

/-- What is known before a session (`P`), while it runs (`I`) and after it (`J`). -/
structure Enclosure (kind : SessionKind) (P : Station σ μ → Prop) (I J : Invariant σ μ) : Prop where
  refuse : ∀ {s}, P s → s.held = true → J (some .sessionBusy) (s.refused kind)
  acquire : ∀ {s}, P s → s.held = false → I none (s.acquired kind)
  release : ∀ {pending s}, I pending s → J pending (s.released kind)
  unfinished : ∀ {s}, I none s → J none s

theorem Enclosure.hold {kind : SessionKind} {P : Station σ μ → Prop} {I J : Invariant σ μ}
    (h : Enclosure kind P I J) {m : Guarded σ μ α} (hm : Settles I m) {s : Station σ μ}
    (hs : P s) : Settled J (Session.hold kind m.run s) := by
  cases hheld : s.held with
  | true =>
      rw [hold_busy kind m.run hheld]
      exact h.refuse hs hheld
  | false =>
      have hsettled := hm _ (h.acquire hs hheld)
      rw [hold_free kind m.run hheld]
      unfold Session.releasing
      cases hrun : m.run (s.acquired kind) with
      | ok answer s' =>
          rw [hrun] at hsettled
          cases answer <;> exact h.release hsettled
      | error cause s' =>
          rw [hrun] at hsettled
          cases cause with
          | clockOverflow => exact h.release hsettled
          | unfinished => exact h.unfinished hsettled

/-- While the session runs it has the driver. -/
theorem Enclosure.within {kind : SessionKind} {P : Station σ μ → Prop} {I J : Invariant σ μ}
    (h : Enclosure kind P I J) :
    Enclosure kind P (fun pending s => s.held = true ∧ I pending s) J where
  refuse := h.refuse
  acquire hs hfree := ⟨rfl, h.acquire hs hfree⟩
  release hs := h.release hs.2
  unfinished hs := h.unfinished hs.2

/-- What holds of a line holds before a session, along with it and after it. -/
theorem along_enclosure (kind : SessionKind) (P : σ → Prop) :
    Enclosure (μ := μ) kind (fun s => P s.line) (Along P) fun _ s => P s.line where
  refuse h _ := h
  acquire h _ := ⟨rfl, h⟩
  release h := h.2
  unfinished h := h.2

namespace TaskUse

/-- Every callback, whatever it is called with, has this property. -/
def Each (P : {β : Type} → Task σ μ β → Prop) : TaskUse σ μ α → Prop
  | .controlTorques torque => ∀ state period, P (torque state period)
  | .controlTorquesWithMotion torque motion =>
      (∀ state period, P (torque state period)) ∧ ∀ state period, P (motion state period)
  | .controlMotion motion _ => ∀ state period, P (motion state period)
  | .read _ keepOn => ∀ state, P (keepOn state)
  | .readOnce => True
  | .execute _ => True

/-- Programs give a property to the callbacks that carry them out. -/
theorem each_given {ν : Type} {carry : {β : Type} → ArmState → Program ν β → Task σ μ β}
    {Q : {β : Type} → Program ν β → Prop} {P : {β : Type} → Task σ μ β → Prop}
    {use : ProgramUse ν α} (h : use.Each Q)
    (hcarry : ∀ {β : Type} (program : Program ν β), Q program → ∀ state, P (carry state program)) :
    (use.mapGiven carry).Each P := by
  cases use with
  | controlTorques torque => exact fun state period => hcarry _ (h state period) state
  | controlTorquesWithMotion torque motion =>
      exact ⟨fun state period => hcarry _ (h.1 state period) state,
        fun state period => hcarry _ (h.2 state period) state⟩
  | controlMotion motion mode => exact fun state period => hcarry _ (h state period) state
  | read mode keepOn => exact fun state => hcarry _ (h state) state
  | readOnce => trivial
  | execute request => trivial

/-- So they do without a regard to the state. -/
theorem each_of_program {ν : Type} {carry : {β : Type} → Program ν β → Task σ μ β}
    {Q : {β : Type} → Program ν β → Prop} {P : {β : Type} → Task σ μ β → Prop}
    {use : ProgramUse ν α} (h : use.Each Q)
    (hcarry : ∀ {β : Type} (program : Program ν β), Q program → P (carry program)) :
    (use.mapTask carry).Each P :=
  each_given h fun program hprogram _ => hcarry program hprogram

/-- So they do if all programs have it when they are carried out. -/
theorem each_of_forall {ν : Type} {carry : {β : Type} → Program ν β → Task σ μ β}
    {P : {β : Type} → Task σ μ β → Prop} (use : ProgramUse ν α)
    (h : ∀ {β : Type} (program : Program ν β), P (carry program)) : (use.mapTask carry).Each P :=
  each_of_program (use.each_of_forall (P := fun program => P (carry program)) h) fun _ h => h

/-- Remembered callbacks have the property if remembering keeps it. -/
theorem Each.noting {P : {β : Type} → Task (Traced σ) μ β → Prop} {use : TaskUse (Traced σ) μ α}
    (h : use.Each P)
    (hnoting : ∀ {β : Type} (call : β → Call) (t : Task (Traced σ) μ β),
      (∀ answer, (call answer).isExchange = false) → P t → P (t.noting call)) :
    use.noting.Each P := by
  cases use with
  | controlTorques torque =>
      exact fun state period => hnoting _ _ (fun _ => rfl) (h state period)
  | controlTorquesWithMotion torque motion =>
      exact ⟨fun state period => hnoting _ _ (fun _ => rfl) (h.1 state period),
        fun state period => hnoting _ _ (fun _ => rfl) (h.2 state period)⟩
  | controlMotion motion mode =>
      exact fun state period => hnoting _ _ (fun _ => rfl) (h state period)
  | read mode keepOn => exact fun state => hnoting _ _ (fun _ => rfl) (h state)
  | readOnce => trivial
  | execute request => trivial

end TaskUse

/-- A call on a robot keeps up the invariant when its callbacks do. -/
theorem Upkeep.use_settles {r : Robot σ} {P : Station σ μ → Prop} {I J : Invariant σ μ}
    (h : Upkeep r.driver I) (limit : Nat) {use : TaskUse σ μ α}
    (henclosure : Enclosure use.kind P I J) (hcalls : use.Each (Maintains (I none)))
    {s : Station σ μ} (hs : P s) : Settled J (use.run r limit s) := by
  have habsent {β : Type} : ∀ call ∈ (none : Option (Callback σ μ β)), ∀ state period,
      Maintains (I none) (call state period) := fun _ hmem => nomatch hmem
  have hpresent {β : Type} {callback : Callback σ μ β}
      (hcallback : ∀ state period, Maintains (I none) (callback state period)) :
      ∀ call ∈ some callback, ∀ state period, Maintains (I none) (call state period) := by
    intro call hmem
    obtain rfl := Option.mem_some.mp hmem
    exact hcallback
  cases use with
  | controlTorques torque =>
      exact henclosure.hold (.bind (h.announce _) fun _ =>
        h.conclude _ (h.control_run (hpresent hcalls) habsent _ limit)) hs
  | controlTorquesWithMotion torque motion =>
      exact henclosure.hold (.bind (h.announce _) fun _ =>
        h.conclude _ (h.control_run (hpresent hcalls.1) (hpresent hcalls.2) _ limit)) hs
  | controlMotion motion mode =>
      exact henclosure.hold (.bind (h.announce _) fun _ => .bind (h.request_mode mode) fun _ =>
        h.conclude _ (h.control_run habsent (hpresent hcalls) _ limit)) hs
  | read mode keepOn =>
      have hloop (supervisor : Supervisor) :=
        h.conclude .read (h.reading_states hcalls limit supervisor 0)
      cases mode with
      | none => exact henclosure.hold (.bind (.pure _) hloop) hs
      | some mode => exact henclosure.hold (.bind (h.request_mode mode) hloop) hs
  | readOnce => exact henclosure.hold (of_driver h.receive) hs
  | execute request => exact henclosure.hold (h.dispatch request) hs

/-- A call over a traced line, with the calls of its callbacks remembered, keeps up what a callback
cannot disturb, by anything that it does while the session has the driver or by being remembered. -/
theorem Upkeep.traced_use {r : Robot σ} {P : Station (Traced σ) μ → Prop}
    {I J : Invariant (Traced σ) μ} (h : Upkeep r.driver.traced I)
    (henclosure : ∀ kind, Enclosure kind P I J)
    (hstir : ∀ s s', Stir r.traced s s' → I none s → I none s')
    (hnote : ∀ call s, call.isExchange = false → I none s → I none (s.noted call)) (limit : Nat)
    (use : ProgramUse μ α) {s : Station (Traced σ) μ} (hs : P s) :
    Settled J (use.traced r limit s) := by
  have hprograms : (use.mapTask (Program.run r.traced limit)).Each
      (Maintains fun s => s.held = true ∧ I none s) :=
    TaskUse.each_of_forall use fun program =>
      .of_stirs limit program (fun _ hs => hs.1) fun s s' hstep hs =>
        ⟨hstep.held.trans hs.1, hstir s s' hstep hs.2⟩
  have hcalls := hprograms.noting fun call t hcall ht => .bind ht fun answer =>
    .bind (.modify fun s hs => ⟨hs.1, hnote _ s (hcall answer) hs.2⟩) fun _ => .pure answer
  exact h.within.use_settles (r := r.traced) limit (henclosure _).within hcalls hs

end ArmControl
