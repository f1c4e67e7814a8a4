import ArmControl.Proofs.Busy

/-!
# Two runs side by side

Whether a line remembers its calls, whether a callback makes further calls, what was done with a
robot before: in all these cases two runs are compared, and they go in step. `Coupled` says of two
tasks that they do, from stations that go together to stations that go together again, and
`Guarded.Coupled` says the same of guarded computations. `Coupling` lists what it takes for this to
hold of all that a driver does; from it `ArmControl.Proofs.Coupling.Session` goes on to the loops
and the sessions.
-/

namespace ArmControl

variable {σ σ' μ μ' α β : Type}

/-- How a station of one run goes with a station of another. -/
abbrev Pairing (σ μ σ' μ' : Type) := Station σ μ → Station σ' μ' → Prop

/-- From stations paired by `P` the two tasks come to the same result, at stations paired by `Q`,
or halt for the same reason, at stations paired by `E`. -/
def Coupled (E : Halt → Pairing σ μ σ' μ') (P : Pairing σ μ σ' μ') (t : Task σ μ α)
    (t' : Task σ' μ' α) (Q : α → Pairing σ μ σ' μ') : Prop :=
  ∀ s s', P s s' →
    (∃ a s₁ s₁', t s = .ok a s₁ ∧ t' s' = .ok a s₁' ∧ Q a s₁ s₁') ∨
      ∃ cause s₁ s₁', t s = .error cause s₁ ∧ t' s' = .error cause s₁' ∧ E cause s₁ s₁'

/-- Two runs that ended alike: with the same result or for the same reason, at stations paired by
`R`. -/
inductive Alike (R : Pairing σ μ σ' μ') :
    EStateM.Result Halt (Station σ μ) α → EStateM.Result Halt (Station σ' μ') α → Prop
  | ok (a : α) {s : Station σ μ} {s' : Station σ' μ'} : R s s' → Alike R (.ok a s) (.ok a s')
  | error (cause : Halt) {s : Station σ μ} {s' : Station σ' μ'} :
      R s s' → Alike R (.error cause s) (.error cause s')

namespace Coupled

variable {E : Halt → Pairing σ μ σ' μ'} {P P' : Pairing σ μ σ' μ'}
  {Q Q' : α → Pairing σ μ σ' μ'} {S : β → Pairing σ μ σ' μ'} {t : Task σ μ α} {t' : Task σ' μ' α}

theorem pure {a : α} (h : ∀ s s', P s s' → Q a s s') :
    Coupled E P (Pure.pure a) (Pure.pure a) Q :=
  fun s s' hs => .inl ⟨a, s, s', rfl, rfl, h s s' hs⟩

theorem throw {cause : Halt} (h : ∀ s s', P s s' → E cause s s') :
    Coupled E P (throw cause : Task σ μ α) (throw cause) Q :=
  fun s s' hs => .inr ⟨cause, s, s', rfl, rfl, h s s' hs⟩

theorem bind {f : α → Task σ μ β} {f' : α → Task σ' μ' β} (ht : Coupled E P t t' Q)
    (hf : ∀ a, Coupled E (Q a) (f a) (f' a) S) : Coupled E P (t >>= f) (t' >>= f') S := by
  intro s s' hs
  rcases ht s s' hs with ⟨a, s₁, s₁', hrun, hrun', hq⟩ | ⟨cause, s₁, s₁', hrun, hrun', he⟩
  · rw [bind_of_ok hrun, bind_of_ok hrun']
    exact hf a s₁ s₁' hq
  · exact .inr ⟨cause, s₁, s₁', bind_of_error hrun, bind_of_error hrun', he⟩

/-- Less may be asked before, and more be granted afterwards. -/
theorem mono {E' : Halt → Pairing σ μ σ' μ'} (h : Coupled E P t t' Q)
    (hpre : ∀ s s', P' s s' → P s s') (hpost : ∀ a s s', Q a s s' → Q' a s s')
    (hhalt : ∀ cause s s', E cause s s' → E' cause s s') : Coupled E' P' t t' Q' := by
  intro s s' hs
  rcases h s s' (hpre s s' hs) with
    ⟨a, s₁, s₁', hrun, hrun', hq⟩ | ⟨cause, s₁, s₁', hrun, hrun', he⟩
  · exact .inl ⟨a, s₁, s₁', hrun, hrun', hpost a s₁ s₁' hq⟩
  · exact .inr ⟨cause, s₁, s₁', hrun, hrun', hhalt cause s₁ s₁' he⟩

theorem weaken (h : Coupled E P t t' Q) (hpre : ∀ s s', P' s s' → P s s') :
    Coupled E P' t t' Q :=
  h.mono hpre (fun _ _ _ h => h) fun _ _ _ h => h

/-- Coupled tasks end alike. -/
theorem alike {R : Pairing σ μ σ' μ'} (h : Coupled (fun _ => R) P t t' fun _ => R)
    {s : Station σ μ} {s' : Station σ' μ'} (hs : P s s') : Alike R (t s) (t' s') := by
  rcases h s s' hs with ⟨a, s₁, s₁', hrun, hrun', hr⟩ | ⟨cause, s₁, s₁', hrun, hrun', hr⟩
  · rw [hrun, hrun']
    exact .ok a hr
  · rw [hrun, hrun']
    exact .error cause hr

/-- Changes of the two stations after which they go together. -/
theorem modify {f : Station σ μ → Station σ μ} {f' : Station σ' μ' → Station σ' μ'}
    {Q : Unit → Pairing σ μ σ' μ'} (h : ∀ s s', P s s' → Q () (f s) (f' s')) :
    Coupled E P (modify f) (modify f') Q :=
  fun s s' hs => .inl ⟨(), f s, f' s', rfl, rfl, h s s' hs⟩

end Coupled

/-! ## Guarded computations -/

namespace Guarded

/-- The two computations are coupled, between stations paired by `P` and stations paired by `Q`
when they give a value, or by `R` when they end without one. -/
def Coupled (R P : Pairing σ μ σ' μ') (m : Guarded σ μ α) (m' : Guarded σ' μ' α)
    (Q : α → Pairing σ μ σ' μ') : Prop :=
  ArmControl.Coupled (fun _ => R) P m.run m'.run fun
    | .ok a => Q a
    | .error _ => R

namespace Coupled

variable {R P P' : Pairing σ μ σ' μ'} {Q : α → Pairing σ μ σ' μ'} {S : β → Pairing σ μ σ' μ'}
  {m : Guarded σ μ α} {m' : Guarded σ' μ' α}

theorem pure {a : α} (h : ∀ s s', P s s' → Q a s s') :
    Guarded.Coupled R P (Pure.pure a) (Pure.pure a) Q :=
  ArmControl.Coupled.pure h

theorem fail {error : RobotError} (h : ∀ s s', P s s' → R s s') :
    Guarded.Coupled R P (fail error) (fail error) Q :=
  ArmControl.Coupled.pure h

theorem halt {cause : Halt} (h : ∀ s s', P s s' → R s s') :
    Guarded.Coupled R P (halt cause) (halt cause) Q :=
  ArmControl.Coupled.throw h

theorem bind {f : α → Guarded σ μ β} {f' : α → Guarded σ' μ' β} (hm : Guarded.Coupled R P m m' Q)
    (hf : ∀ a, Guarded.Coupled R (Q a) (f a) (f' a) S) :
    Guarded.Coupled R P (m >>= f) (m' >>= f') S := by
  refine ArmControl.Coupled.bind hm fun answer => ?_
  cases answer with
  | ok a => exact hf a
  | error error => exact ArmControl.Coupled.pure fun _ _ h => h

theorem of_task {t : Task σ μ α} {t' : Task σ' μ' α}
    (h : ArmControl.Coupled (fun _ => R) P t t' Q) :
    Guarded.Coupled R P (ofTask t) (ofTask t') Q :=
  ArmControl.Coupled.bind h fun _ => ArmControl.Coupled.pure fun _ _ h => h

theorem of_driver {t : Task σ μ (Except DriverError α)} {t' : Task σ' μ' (Except DriverError α)}
    {Q : Except DriverError α → Pairing σ μ σ' μ'}
    (h : ArmControl.Coupled (fun _ => R) P t t' Q) (herror : ∀ e s s', Q (.error e) s s' → R s s') :
    Guarded.Coupled R P (ofDriver t) (ofDriver t') fun a => Q (.ok a) := by
  refine ArmControl.Coupled.bind h fun answer => ?_
  cases answer with
  | ok a => exact ArmControl.Coupled.pure fun _ _ h => h
  | error e => exact ArmControl.Coupled.pure (herror e)

theorem weaken (h : Guarded.Coupled R P m m' Q) (hpre : ∀ s s', P' s s' → P s s') :
    Guarded.Coupled R P' m m' Q :=
  ArmControl.Coupled.weaken h hpre

theorem strengthen {Q' : α → Pairing σ μ σ' μ'} (h : Guarded.Coupled R P m m' Q)
    (hpost : ∀ a s s', Q a s s' → Q' a s s') : Guarded.Coupled R P m m' Q' := by
  refine ArmControl.Coupled.mono h (fun _ _ h => h) (fun answer s s' hq => ?_) fun _ _ _ h => h
  cases answer with
  | ok a => exact hpost a s s' hq
  | error error => exact hq

end Coupled

end Guarded

/-! ## Drivers -/

namespace Metrics

/-- Every counter of one raised by the same counter of the other. -/
def plus (m n : Metrics) : Metrics where
  statesReceived := m.statesReceived + n.statesReceived
  commandsSent := m.commandsSent + n.commandsSent
  receiveTimeouts := m.receiveTimeouts + n.receiveTimeouts
  transportErrors := m.transportErrors + n.transportErrors
  requestsSent := m.requestsSent + n.requestsSent
  requestsRejected := m.requestsRejected + n.requestsRejected
  sessionsStarted := m.sessionsStarted + n.sessionsStarted
  sessionsReleased := m.sessionsReleased + n.sessionsReleased
  sessionsRejected := m.sessionsRejected + n.sessionsRejected
  controlFaults := m.controlFaults + n.controlFaults
  numericFaults := m.numericFaults + n.numericFaults

end Metrics

/-- A change that raises counters other than those of the sessions, by as much as it would raise
any others. -/
structure Tally (change : Metrics → Metrics) : Prop where
  plus : ∀ base m : Metrics, change (base.plus m) = base.plus (change m) := by
    simp [Metrics.plus, UInt64.add_assoc]
  sessionsStarted : ∀ m, (change m).sessionsStarted = m.sessionsStarted := by
    exact fun _ => rfl
  sessionsReleased : ∀ m, (change m).sessionsReleased = m.sessionsReleased := by
    exact fun _ => rfl
  sessionsRejected : ∀ m, (change m).sessionsRejected = m.sessionsRejected := by
    exact fun _ => rfl

namespace Station

/-- The station with changed counters. -/
def counted (change : Metrics → Metrics) (s : Station σ μ) : Station σ μ :=
  { s with metrics := change s.metrics }

/-- The station with more events in its log. -/
def reported (events : List Event) (s : Station σ μ) : Station σ μ :=
  { s with journal := s.journal ++ events }

/-- The station after a state was received. -/
def published (state : ArmState) (s : Station σ μ) : Station σ μ := { s with latest := some state }

/-- The station after an operation on its line. -/
def exchanged (operation : σ → LinkStep σ α) (s : Station σ μ) : Station σ μ :=
  { s with
    line := (operation s.line).line
    journal := s.journal ++ (operation s.line).events }

end Station

/-- Two operations that give the same answer on lines that go together, and leave them so. -/
def Exchanges (R : Pairing σ μ σ' μ') (operation : σ → LinkStep σ α)
    (operation' : σ' → LinkStep σ' α) : Prop :=
  ∀ s s', R s s' → (operation' s'.line).answer = (operation s.line).answer ∧
    R (s.exchanged operation) (s'.exchanged operation')

/-- A pairing that is kept by whatever two drivers do alike to their stations. `A` pairs stations
at which a certain state was the last one received, if more is known of these. -/
structure Coupling (d : Driver σ) (d' : Driver σ') (R : Pairing σ μ σ' μ')
    (A : ArmState → Pairing σ μ σ' μ') : Prop where
  timing : d'.timing = d.timing
  receive : ∀ timeout, Exchanges R (d.link.receive timeout) (d'.link.receive timeout)
  send : ∀ c, Exchanges R (d.link.send c) (d'.link.send c)
  request : ∀ q timeout, Exchanges R (d.link.request q timeout) (d'.link.request q timeout)
  count : ∀ {change}, Tally change → ∀ {s s'}, R s s' → R (s.counted change) (s'.counted change)
  report : ∀ events {s s'}, R s s' → R (s.reported events) (s'.reported events)
  publish : ∀ state {s s'}, R s s' → A state (s.published state) (s'.published state)
  report_known : ∀ events {state s s'},
    A state s s' → A state (s.reported events) (s'.reported events)
  known : ∀ {state s s'}, A state s s' → R s s'

theorem reported_singleton (event : Event) (s : Station σ μ) :
    s.reported [event] = { s with journal := s.journal.push event } := by
  simp [Station.reported]

namespace Coupling

variable {d : Driver σ} {d' : Driver σ'} {R : Pairing σ μ σ' μ'} {A : ArmState → Pairing σ μ σ' μ'}
  (h : Coupling d d' R A)

include h

theorem report_all (events : List Event) :
    Coupled (fun _ => R) R (Task.reportAll events) (Task.reportAll events) fun _ => R :=
  .modify fun _ _ => h.report events

theorem report_one (event : Event) :
    Coupled (fun _ => R) R (Task.report event) (Task.report event) fun _ => R := by
  refine .modify fun s s' hs => ?_
  simpa only [reported_singleton] using h.report [event] hs

theorem report_one_known (event : Event) (state : ArmState) :
    Coupled (fun _ => R) (A state) (Task.report event) (Task.report event) fun _ => A state := by
  refine .modify fun s s' hs => ?_
  simpa only [reported_singleton] using h.report_known [event] hs

theorem counts {change : Metrics → Metrics} (hchange : Tally change) :
    Coupled (fun _ => R) R (Task.count change) (Task.count change) fun _ => R :=
  .modify fun _ _ => h.count hchange

omit h in
theorem exchange {operation : σ → LinkStep σ α} {operation' : σ' → LinkStep σ' α}
    (hoperation : Exchanges R operation operation') :
    Coupled (fun _ => R) R (Task.exchange operation) (Task.exchange operation') fun _ => R := by
  intro s s' hs
  obtain ⟨hanswer, hafter⟩ := hoperation s s' hs
  -- Both lines give the same answer, so both tasks take the same branch.
  cases hstep : (operation s.line).answer with
  | value a =>
      rw [hstep] at hanswer
      exact .inl ⟨.ok a, s.exchanged operation, s'.exchanged operation',
        by simp only [Task.exchange, hstep, Station.exchanged],
        by simp only [Task.exchange, hanswer, Station.exchanged], hafter⟩
  | failure error =>
      rw [hstep] at hanswer
      exact .inl ⟨.error error, s.exchanged operation, s'.exchanged operation',
        by simp only [Task.exchange, hstep, Station.exchanged],
        by simp only [Task.exchange, hanswer, Station.exchanged], hafter⟩
  | overflow =>
      rw [hstep] at hanswer
      exact .inr ⟨.clockOverflow, s.exchanged operation, s'.exchanged operation',
        by simp only [Task.exchange, hstep, Station.exchanged],
        by simp only [Task.exchange, hanswer, Station.exchanged], hafter⟩

theorem record_failure (error : LinkError) :
    Coupled (fun _ => R) R (Driver.recordFailure error) (Driver.recordFailure error)
      fun _ => R := by
  unfold Driver.recordFailure
  cases error.isTimeout <;> exact .bind (h.counts {}) fun _ => h.report_one _

theorem attempt {operation : σ → LinkStep σ α} {operation' : σ' → LinkStep σ' α}
    (hoperation : Exchanges R operation operation') :
    Coupled (fun _ => R) R (Driver.attempt operation) (Driver.attempt operation') fun _ => R := by
  refine .bind (exchange hoperation) fun answer => ?_
  cases answer with
  | ok a => exact .pure fun _ _ h => h
  | error error => exact .bind (h.record_failure error) fun _ => .pure fun _ _ h => h

/-- What is known after waiting for a state: that it is the last one received. -/
def received (R : Pairing σ μ σ' μ') (A : ArmState → Pairing σ μ σ' μ') :
    Except DriverError ArmState → Pairing σ μ σ' μ'
  | .ok state => A state
  | .error _ => R

theorem receives :
    Coupled (fun _ => R) R d.receive d'.receive (received R A) := by
  unfold Driver.receive
  rw [h.timing]
  refine .bind (h.attempt (h.receive _)) fun answer => ?_
  cases answer with
  | error error => exact .pure fun _ _ h => h
  | ok state =>
      exact .bind (h.counts {}) fun _ => .bind (.modify fun _ _ => h.publish state) fun _ =>
        .bind (h.report_one_known _ state) fun _ => .pure fun _ _ h => h

theorem sends (c : Command) : Coupled (fun _ => R) R (d.send c) (d'.send c) fun _ => R := by
  unfold Driver.send
  cases c.validate with
  | error error => exact .pure fun _ _ h => h
  | ok =>
      refine .bind (h.attempt (h.send c)) fun answer => ?_
      cases answer with
      | error error => exact .pure fun _ _ h => h
      | ok =>
          exact .bind (h.counts {}) fun _ => .bind (h.report_one _) fun _ => .pure fun _ _ h => h

theorem executes (q : Request) :
    Coupled (fun _ => R) R (d.execute q) (d'.execute q) fun _ => R := by
  unfold Driver.execute
  rw [h.timing]
  refine .bind (h.counts {}) fun _ => .bind (h.report_one _) fun _ =>
    .bind (h.attempt (h.request q _)) fun answer => ?_
  cases answer with
  | error error => exact .pure fun _ _ h => h
  | ok response =>
      cases response with
      | success reply => exact .bind (h.report_one _) fun _ => .pure fun _ _ h => h
      | rejected reason =>
          exact .bind (h.counts {}) fun _ => .bind (h.report_one _) fun _ => .pure fun _ _ h => h

end Coupling

end ArmControl
