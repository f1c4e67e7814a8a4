import ArmControl.Proofs.Tracing

/-!
# Calls that come to nothing

Callbacks may call the robot again, and while their session runs every such call is refused. A
session whose callbacks make any number of further calls, and do not care what comes of them, is
therefore the session without these calls: `interjections_change_nothing` is the main theorem.
`Program.Interjected` says what it means that a program makes further calls; such a program keeps
a tally of them, so that the refusals can be counted against it.
-/

namespace ArmControl

variable {σ μ α β : Type}

/-! ## Further calls -/

/-- The memory of a program together with the number of further calls that were made so far. -/
structure Tallied (μ : Type) where
  memory : μ
  extra : Nat := 0

namespace Metrics

/-- The counters after this many further refusals. -/
def refusing (n : Nat) (m : Metrics) : Metrics :=
  { m with sessionsRejected := m.sessionsRejected + UInt64.ofNat n }

theorem refusing_eq_plus (n : Nat) (m : Metrics) :
    m.refusing n = plus { sessionsRejected := UInt64.ofNat n } m := by
  simp [refusing, plus, UInt64.add_comm]

theorem refusing_zero (m : Metrics) : m.refusing 0 = m := by
  simp [refusing]

end Metrics

/-- What else is counted does not matter for the refusals. -/
theorem Tally.refusing {change : Metrics → Metrics} (h : Tally change) (n : Nat) (m : Metrics) :
    change (m.refusing n) = (change m).refusing n := by
  rw [Metrics.refusing_eq_plus, Metrics.refusing_eq_plus, h.plus]

/-- What is seen of a robot after this many further refusals. -/
def View.refusing (n : Nat) (view : View) : View :=
  { view with metrics := view.metrics.refusing n }

namespace Program

/-- Changes the memory and leaves the tally as it is. -/
def keep (memory : μ) (next : Program (Tallied μ) α) : Program (Tallied μ) α :=
  recollect fun w => remember { w with memory } next

/-- Counts one further call. -/
def tally (next : Program (Tallied μ) α) : Program (Tallied μ) α :=
  recollect fun w => remember { w with extra := w.extra + 1 } next

/-- The first program does what the second does, but makes further calls in between, of any kind
and with any arguments, and goes on in the same way whatever comes of them. It does not look at the
count of refusals either, in which these calls show. A call that both make is refused in a
callback, and so it need only be of the same kind. -/
inductive Interjected : {α : Type} → Program (Tallied μ) α → Program μ α → Prop
  | done {α : Type} (a : α) : Interjected (done a) (done a)
  | recollect {α : Type} {next : Tallied μ → Program (Tallied μ) α} {next' : μ → Program μ α} :
      (∀ w, Interjected (next w) (next' w.memory)) →
      Interjected (recollect next) (recollect next')
  | remember {α : Type} (memory : μ) {next : Program (Tallied μ) α} {next' : Program μ α} :
      Interjected next next' → Interjected (keep memory next) (remember memory next')
  | inject {α : Type} (injection : Injection) {next : Program (Tallied μ) α}
      {next' : Program μ α} :
      Interjected next next' → Interjected (inject injection next) (inject injection next')
  | inspect {α : Type} {next : View → Program (Tallied μ) α} {next' : View → Program μ α} :
      (∀ view n, Interjected (next (view.refusing n)) (next' view)) →
      Interjected (inspect next) (inspect next')
  | call {α β : Type} (use : ProgramUse (Tallied μ) β) (use' : ProgramUse μ β)
      {next : Except RobotError β → Program (Tallied μ) α}
      {next' : Except RobotError β → Program μ α} :
      use.kind = use'.kind → (∀ result, Interjected (next result) (next' result)) →
      Interjected (call use next) (call use' next')
  | interject {α β : Type} (use : ProgramUse (Tallied μ) β)
      {next : Except RobotError β → Program (Tallied μ) α} {next' : Program μ α} :
      (∀ result, Interjected (next result) next') →
      Interjected (call use fun result => tally (next result)) next'

end Program

/-- A use whose callbacks make further calls, and the use without them. -/
abbrev ProgramUse.Interjected : {α : Type} → ProgramUse (Tallied μ) α → ProgramUse μ α → Prop :=
  RobotUse.Related
    (fun torque torque' => ∀ state period, (torque state period).Interjected (torque' state period))
    (fun motion motion' => ∀ state period, (motion state period).Interjected (motion' state period))
    fun keepOn keepOn' => ∀ state, (keepOn state).Interjected (keepOn' state)

/-! ## What may differ -/

/-- The second log is the first with this many warnings of refused calls in between. -/
inductive Interspersed : Nat → Array Event → Array Event → Prop
  | start (log : Array Event) : Interspersed 0 log log
  | event {n : Nat} {log log' : Array Event} (event : Event) :
      Interspersed n log log' → Interspersed n (log.push event) (log'.push event)
  | refusal {n : Nat} {log log' : Array Event} (kind : SessionKind) :
      Interspersed n log log' → Interspersed (n + 1) log (log'.push (.sessionRefused kind))

theorem Interspersed.append {n : Nat} {log log' : Array Event} (h : Interspersed n log log')
    (events : List Event) : Interspersed n (log ++ events) (log' ++ events) := by
  induction events generalizing log log' with
  | nil => simpa using h
  | cons event events ih => simpa using ih (h.event event)

/-- The first station is the second after further calls that were refused: they show in the count
of refusals and in the log, and nowhere else. -/
structure Undisturbed (s : Station σ (Tallied μ)) (s' : Station σ μ) : Prop where
  line : s.line = s'.line
  memory : s.memory.memory = s'.memory
  latest : s.latest = s'.latest
  held : s.held = s'.held
  metrics : s.metrics = s'.metrics.refusing s.memory.extra
  journal : Interspersed s.memory.extra s'.journal s.journal

namespace Undisturbed

variable {s : Station σ (Tallied μ)} {s' : Station σ μ}

theorem counted (h : Undisturbed s s') {change : Metrics → Metrics}
    (hchange : ∀ n m, change (Metrics.refusing n m) = (change m).refusing n) :
    Undisturbed (s.counted change) (s'.counted change) where
  line := h.line
  memory := h.memory
  latest := h.latest
  held := h.held
  metrics := by
    show change s.metrics = (change s'.metrics).refusing s.memory.extra
    rw [h.metrics, hchange]
  journal := h.journal

theorem reported (h : Undisturbed s s') (events : List Event) :
    Undisturbed (s.reported events) (s'.reported events) :=
  ⟨h.line, h.memory, h.latest, h.held, h.metrics, h.journal.append events⟩

theorem published (h : Undisturbed s s') (state : ArmState) :
    Undisturbed (s.published state) (s'.published state) :=
  ⟨h.line, h.memory, rfl, h.held, h.metrics, h.journal⟩

theorem exchanges (h : Undisturbed s s') (operation : σ → LinkStep σ α) :
    (operation s'.line).answer = (operation s.line).answer ∧
      Undisturbed (s.exchanged operation) (s'.exchanged operation) := by
  have hline := h.line
  refine ⟨by rw [hline], ⟨?_, h.memory, h.latest, h.held, h.metrics, ?_⟩⟩
  · show (operation s.line).line = (operation s'.line).line
    rw [hline]
  · show Interspersed s.memory.extra (s'.journal ++ (operation s'.line).events)
      (s.journal ++ (operation s.line).events)
    rw [hline]
    exact h.journal.append _

theorem view (h : Undisturbed s s') (r : Robot σ) :
    s.view r = (s'.view r).refusing s.memory.extra := by
  simp only [Station.view, View.refusing, h.metrics, h.latest, h.held, h.line]

/-- The lock is taken or given back on both. -/
theorem locked (h : Undisturbed s s') (held : Bool) :
    Undisturbed (s.locked held) (s'.locked held) :=
  ⟨h.line, h.memory, h.latest, rfl, h.metrics, h.journal⟩

theorem acquired (h : Undisturbed s s') (kind : SessionKind) :
    Undisturbed (s.acquired kind) (s'.acquired kind) := by
  rw [Station.acquired_eq, Station.acquired_eq]
  exact ((h.counted fun _ _ => rfl).reported _).locked true

theorem released (h : Undisturbed s s') (kind : SessionKind) :
    Undisturbed (s.released kind) (s'.released kind) := by
  rw [Station.released_eq, Station.released_eq]
  exact ((h.counted fun _ _ => rfl).reported _).locked false

/-- Both stations refuse a call. -/
theorem refused (h : Undisturbed s s') (kind : SessionKind) :
    Undisturbed (s.refused kind) (s'.refused kind) := by
  rw [Station.refused_eq, Station.refused_eq]
  refine (h.counted fun n m => ?_).reported _
  simp only [Metrics.refusing]
  rw [UInt64.add_assoc, UInt64.add_comm (UInt64.ofNat n), ← UInt64.add_assoc]

/-- Only the first station refuses a call, which is then tallied. -/
theorem interjected (h : Undisturbed s s') (kind : SessionKind) :
    Undisturbed
      { s.refused kind with
        memory := { (s.refused kind).memory with extra := (s.refused kind).memory.extra + 1 } }
      s' where
  line := h.line
  memory := h.memory
  latest := h.latest
  held := h.held
  metrics := by
    simp only [Station.refused, h.metrics, Metrics.refusing]
    rw [UInt64.ofNat_add, UInt64.ofNat_one, UInt64.add_assoc]
  journal := h.journal.refusal kind

end Undisturbed

/-! ## Within a session -/

/-- The first station is the second after further calls, while the same session runs on both. -/
structure Interrupted (s : Station σ (Tallied μ)) (s' : Station σ μ) : Prop where
  undisturbed : Undisturbed s s'
  held : s'.held = true

theorem interrupted_coupling (d : Driver σ) :
    Coupling d d (Interrupted (μ := μ)) fun _ => Interrupted where
  timing := rfl
  receive _ _ _ h := (h.undisturbed.exchanges _).imp_right (⟨·, h.held⟩)
  send _ _ _ h := (h.undisturbed.exchanges _).imp_right (⟨·, h.held⟩)
  request _ _ _ _ h := (h.undisturbed.exchanges _).imp_right (⟨·, h.held⟩)
  count hchange _ _ h := ⟨h.undisturbed.counted hchange.refusing, h.held⟩
  report events _ _ h := ⟨h.undisturbed.reported events, h.held⟩
  publish state _ _ h := ⟨h.undisturbed.published state, h.held⟩
  report_known events _ _ _ h := ⟨h.undisturbed.reported events, h.held⟩
  known h := h

theorem interrupted_bracket (kind : SessionKind) :
    Bracket kind (fun _ => Undisturbed) (Undisturbed (σ := σ) (μ := μ)) Interrupted
      Undisturbed where
  held h := h.held.symm
  refuse h _ := h.refused kind
  acquire h _ := ⟨h.acquired kind, rfl⟩
  release h := h.undisturbed.released kind
  overflow h := h.undisturbed.released kind
  unfinished h := h.undisturbed

/-- A callback that makes further calls goes along with the callback without them. -/
theorem interjected_coupled (r : Robot σ) (limit : Nat)
    {E : Halt → Pairing σ (Tallied μ) σ μ} {program : Program (Tallied μ) α}
    {program' : Program μ α} (h : program.Interjected program') :
    Coupled E Interrupted (program.run r limit) (program'.run r limit) fun _ => Interrupted := by
  induction h with
  | done a => exact .pure fun _ _ hs => hs
  | recollect _ ih =>
      intro s s' hs
      rw [Program.run_recollect, Program.run_recollect, ← hs.undisturbed.memory]
      exact ih s.memory s s' hs
  | remember memory _ ih =>
      intro s s' ⟨hs, hheld⟩
      exact ih _ _ ⟨⟨hs.line, rfl, hs.latest, hs.held, hs.metrics, hs.journal⟩, hheld⟩
  | inject injection _ ih =>
      intro s s' ⟨hs, hheld⟩
      refine ih _ _ ⟨⟨?_, hs.memory, hs.latest, hs.held, hs.metrics, hs.journal⟩, hheld⟩
      exact congrArg _ hs.line
  | inspect _ ih =>
      -- What is seen differs in the count of refusals alone, by the tally.
      intro s s' ⟨hs, hheld⟩
      rw [Program.run_inspect, Program.run_inspect, hs.view r]
      exact ih (s'.view r) s.memory.extra s s' ⟨hs, hheld⟩
  | call use use' hkind _ ih =>
      intro s s' ⟨hs, hheld⟩
      rw [Program.run_call, Program.run_call,
        bind_of_ok (use.run_busy r limit (hs.held.trans hheld)),
        bind_of_ok (use'.run_busy r limit hheld), hkind]
      exact ih _ _ _ ⟨hs.refused _, hheld⟩
  | interject use _ ih =>
      -- Only the first program takes a step here.
      intro s s' ⟨hs, hheld⟩
      rw [Program.run_call, bind_of_ok (use.run_busy r limit (hs.held.trans hheld))]
      exact ih _ _ s' ⟨hs.interjected _, hheld⟩

/-! ## The main theorem -/

/-- The same station with a tally of further calls, of which none was made so far. -/
def Station.tallied (s : Station σ μ) : Station σ (Tallied μ) :=
  { s with memory := { memory := s.memory } }

theorem undisturbed_tallied (s : Station σ μ) : Undisturbed s.tallied s :=
  ⟨rfl, rfl, rfl, rfl, (s.metrics.refusing_zero).symm, .start s.journal⟩

/-- Further calls that are made from within the callbacks of a session, of any kind and with any
arguments, change nothing as long as the callbacks do not care for them: the same calls go to the
controller and to the callbacks, with the same states and periods, the result is the same, and so is
the station, but that each further call was counted as refused and gave one warning. -/
theorem interjections_change_nothing (r : Robot σ) (limit : Nat) {use : ProgramUse (Tallied μ) α}
    {use' : ProgramUse μ α} (h : use.Interjected use') (s : Station σ μ) :
    use.trace r limit s.tallied = use'.trace r limit s ∧
      Alike Undisturbed (use.run r limit s.tallied) (use'.run r limit s) := by
  have huse : UseCoupled Interrupted (fun _ => Interrupted)
      (use.mapTask (Program.run r.traced limit)) (use'.mapTask (Program.run r.traced limit)) :=
    h.map (fun h state period => interjected_coupled r.traced limit (h state period))
      (fun h state period => interjected_coupled r.traced limit (h state period))
      fun h state => interjected_coupled r.traced limit (h state)
  have hnoted (call : Call) {s : Station (Traced σ) (Tallied μ)} {s' : Station (Traced σ) μ}
      (hs : Interrupted s s') : Interrupted (s.noted call) (s'.noted call) := by
    obtain ⟨hs, hheld⟩ := hs
    refine ⟨⟨?_, hs.memory, hs.latest, hs.held, hs.metrics, hs.journal⟩, hheld⟩
    exact congrArg (Traced.note call) hs.line
  have hrun := use_coupled r.traced r.traced (interrupted_coupling r.traced.driver) rfl rfl
    (use_coupled_noting (fun call _ _ _ => hnoted call) huse) (interrupted_bracket _) limit
  refine trace_eq_and_alike hrun (fun hs => congrArg Traced.trace hs.line) (fun hs => ?_) ?_
  · exact ⟨congrArg Traced.line hs.line, hs.memory, hs.latest, hs.held, hs.metrics, hs.journal⟩
  · exact undisturbed_tallied s.traced

/-- Looks at one state. -/
def ProgramUse.glance : ProgramUse Unit Unit := .read none fun _ => .done false

/-- Looks at one state, and asks for another one meanwhile. -/
def ProgramUse.glanceTwice : ProgramUse (Tallied Unit) Unit :=
  .read none fun _ => .call .readOnce fun _ => .tally (.done false)

/-- Asking for another state while one is looked at changes nothing but the count of refusals. -/
theorem glance_twice_changes_nothing :
    (Task.after (ProgramUse.glanceTwice.run Prepared.robot 1)
        (Station.fresh {} () #[]).tallied).memory.extra = 1 ∧
      ProgramUse.glanceTwice.trace Prepared.robot 1 (Station.fresh {} () #[]).tallied =
        ProgramUse.glance.trace Prepared.robot 1 (.fresh {} () #[]) ∧
      Alike Undisturbed
        (ProgramUse.glanceTwice.run Prepared.robot 1 (Station.fresh {} () #[]).tallied)
        (ProgramUse.glance.run Prepared.robot 1 (.fresh {} () #[])) := by
  have hinterjected : ProgramUse.glanceTwice.Interjected ProgramUse.glance :=
    .read none fun _ => .interject .readOnce fun _ => .done false
  exact ⟨rfl, interjections_change_nothing Prepared.robot 1 hinterjected (.fresh {} () #[])⟩

end ArmControl
