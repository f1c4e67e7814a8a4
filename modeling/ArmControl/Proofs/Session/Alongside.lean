import ArmControl.Proofs.Tracing

/-!
# Two robots alike

Two robots with the same link, the same settings and the same attempt at priority, and on stations
that agree on the line, the memory and the lock, may have different pasts: other states were
received last, other things were counted and logged. A call makes the same calls on both and ends
alike, as `use_alongside` says. A callback that looks at the counters sees the past, of course, so
the callbacks have to be `Heedless` of them.
-/

namespace ArmControl

variable {σ μ α β : Type}

/-! ## Programs that do not look at the counters -/

/-- A program that does the same whatever the counters are. Calls that it makes as a callback are
refused, so it does not matter what their own callbacks look at. -/
inductive Program.Heedless : {α : Type} → Program μ α → Prop
  | done {α : Type} (a : α) : Heedless (done a)
  | recollect {α : Type} {next : μ → Program μ α} :
      (∀ memory, Heedless (next memory)) → Heedless (recollect next)
  | remember {α : Type} (memory : μ) {next : Program μ α} :
      Heedless next → Heedless (remember memory next)
  | inject {α : Type} (injection : Injection) {next : Program μ α} :
      Heedless next → Heedless (inject injection next)
  | inspect {α : Type} {next : View → Program μ α} :
      (∀ view metrics, next { view with metrics } = next view) →
      (∀ view, Heedless (next view)) → Heedless (inspect next)
  | call {α β : Type} (use : ProgramUse μ β) {next : Except RobotError β → Program μ α} :
      (∀ result, Heedless (next result)) → Heedless (call use next)

/-! ## Two robots side by side -/

/-- Two stations that went through the same since they were `before` and `before'`: they agree on
the line, the memory and the lock, every counter was raised alike, the same was logged, and the
state received last is the same if any was received meanwhile. -/
structure Alongside (before before' s s' : Station σ μ) : Prop where
  line : s.line = s'.line
  memory : s.memory = s'.memory
  held : s.held = s'.held
  latest : s.latest = s'.latest ∨ s.latest = before.latest ∧ s'.latest = before'.latest
  counted : ∃ raised : Metrics,
    s.metrics = before.metrics.plus raised ∧ s'.metrics = before'.metrics.plus raised
  logged : ∃ events : List Event, s.journal.toList = before.journal.toList ++ events ∧
    s'.journal.toList = before'.journal.toList ++ events

namespace Alongside

variable {before before' s s' : Station σ μ}

theorem counted_by (h : Alongside before before' s s') {change : Metrics → Metrics}
    (hchange : ∀ base m : Metrics, change (base.plus m) = base.plus (change m)) :
    Alongside before before' (s.counted change) (s'.counted change) where
  line := h.line
  memory := h.memory
  held := h.held
  latest := h.latest
  counted := by
    obtain ⟨raised, hraised, hraised'⟩ := h.counted
    refine ⟨change raised, ?_, ?_⟩
    · exact (congrArg change hraised).trans (hchange _ _)
    · exact (congrArg change hraised').trans (hchange _ _)
  logged := h.logged

theorem reported (h : Alongside before before' s s') (events : List Event) :
    Alongside before before' (s.reported events) (s'.reported events) where
  line := h.line
  memory := h.memory
  held := h.held
  latest := h.latest
  counted := h.counted
  logged := by
    obtain ⟨earlier, hlogged, hlogged'⟩ := h.logged
    refine ⟨earlier ++ events, ?_, ?_⟩
    · simp [Station.reported, hlogged]
    · simp [Station.reported, hlogged']

/-- The lock is taken or given back on both. -/
theorem locked (h : Alongside before before' s s') (held : Bool) :
    Alongside before before' (s.locked held) (s'.locked held) :=
  ⟨h.line, h.memory, rfl, h.latest, h.counted, h.logged⟩

theorem exchanges (h : Alongside before before' s s') {operation operation' : σ → LinkStep σ α}
    (hoperation : operation' = operation) :
    (operation' s'.line).answer = (operation s.line).answer ∧
      Alongside before before' (s.exchanged operation) (s'.exchanged operation') := by
  subst hoperation
  have hline := h.line
  have hreported := h.reported (operation' s.line).events
  refine ⟨by rw [hline], ?_, h.memory, h.held, h.latest, h.counted, ?_⟩
  · show (operation' s.line).line = (operation' s'.line).line
    rw [hline]
  · obtain ⟨events, hlogged, hlogged'⟩ := hreported.logged
    refine ⟨events, hlogged, ?_⟩
    rw [← hlogged', hline]
    rfl

theorem published (h : Alongside before before' s s') (state : ArmState) :
    Alongside before before' (s.published state) (s'.published state) :=
  ⟨h.line, h.memory, h.held, .inl rfl, h.counted, h.logged⟩

theorem refused (h : Alongside before before' s s') (kind : SessionKind) :
    Alongside before before' (s.refused kind) (s'.refused kind) := by
  rw [Station.refused_eq, Station.refused_eq]
  exact (h.counted_by (by simp [Metrics.plus, UInt64.add_assoc])).reported _

theorem acquired (h : Alongside before before' s s') (kind : SessionKind) :
    Alongside before before' (s.acquired kind) (s'.acquired kind) := by
  rw [Station.acquired_eq, Station.acquired_eq]
  exact ((h.counted_by (by simp [Metrics.plus, UInt64.add_assoc])).reported _).locked true

theorem released (h : Alongside before before' s s') (kind : SessionKind) :
    Alongside before before' (s.released kind) (s'.released kind) := by
  rw [Station.released_eq, Station.released_eq]
  exact ((h.counted_by (by simp [Metrics.plus, UInt64.add_assoc])).reported _).locked false

end Alongside

/-- Two stations that went through the same, while a session runs on both. -/
structure Paced (before before' s s' : Station σ μ) : Prop where
  alongside : Alongside before before' s s'
  held : s'.held = true

/-- Two such stations that received this state last. -/
structure Informed (before before' : Station σ μ) (state : ArmState) (s s' : Station σ μ) :
    Prop where
  paced : Paced before before' s s'
  latest : s.latest = some state
  latest' : s'.latest = some state

theorem paced_coupling {d d' : Driver σ} (hlink : d'.link = d.link) (htiming : d'.timing = d.timing)
    (before before' : Station σ μ) :
    Coupling d d' (Paced before before') (Informed before before') where
  timing := htiming
  receive timeout _ _ h :=
    (h.alongside.exchanges (by rw [hlink])).imp_right (⟨·, h.held⟩)
  send c _ _ h := (h.alongside.exchanges (by rw [hlink])).imp_right (⟨·, h.held⟩)
  request q timeout _ _ h := (h.alongside.exchanges (by rw [hlink])).imp_right (⟨·, h.held⟩)
  count hchange _ _ h := ⟨h.alongside.counted_by hchange.plus, h.held⟩
  report events _ _ h := ⟨h.alongside.reported events, h.held⟩
  publish state _ _ h := ⟨⟨h.alongside.published state, h.held⟩, rfl, rfl⟩
  report_known events _ _ _ h :=
    ⟨⟨h.paced.alongside.reported events, h.paced.held⟩, h.latest, h.latest'⟩
  known h := h.paced

theorem alongside_bracket (kind : SessionKind) (before before' : Station σ μ) :
    Bracket kind (fun _ => Alongside before before') (Alongside before before')
      (Paced before before') (Alongside before before') where
  held h := h.held.symm
  refuse h _ := h.refused kind
  acquire h _ := ⟨h.acquired kind, rfl⟩
  release h := h.alongside.released kind
  overflow h := h.alongside.released kind
  unfinished h := h.alongside

/-- A callback that is heedless of the counters goes along on both robots. -/
theorem heedless_coupled {r r' : Robot σ} (hlink : r'.driver.link = r.driver.link) (limit : Nat)
    {before before' : Station σ μ} {state : ArmState} {E : Halt → Pairing σ μ σ μ}
    {program : Program μ α} (h : program.Heedless) :
    Coupled E (Informed before before' state) (program.run r limit) (program.run r' limit)
      fun _ => Informed before before' state := by
  induction h with
  | done a => exact .pure fun _ _ hs => hs
  | recollect _ ih =>
      intro s s' hs
      rw [Program.run_recollect, Program.run_recollect, hs.paced.alongside.memory]
      exact ih s'.memory s s' hs
  | remember memory _ ih =>
      intro s s' ⟨⟨hs, hheld⟩, hlatest, hlatest'⟩
      exact ih _ _ ⟨⟨⟨hs.line, rfl, hs.held, hs.latest, hs.counted, hs.logged⟩, hheld⟩, hlatest,
        hlatest'⟩
  | inject injection _ ih =>
      intro s s' ⟨⟨hs, hheld⟩, hlatest, hlatest'⟩
      refine ih _ _ ⟨⟨⟨?_, hs.memory, hs.held, hs.latest, hs.counted, hs.logged⟩, hheld⟩, hlatest,
        hlatest'⟩
      show r.driver.link.inject injection s.line = r'.driver.link.inject injection s'.line
      rw [hlink, hs.line]
  | inspect hsame _ ih =>
      -- The callback was told a state, so the state received last is that one on both.
      intro s s' hs
      have hview : s.view r = { s'.view r' with metrics := s.metrics } := by
        simp only [Station.view, hs.latest, hs.latest', hs.paced.alongside.held,
          hs.paced.alongside.line, hlink]
      rw [Program.run_inspect, Program.run_inspect, hview, hsame]
      exact ih (s'.view r') s s' hs
  | call use _ ih =>
      intro s s' ⟨⟨hs, hheld⟩, hlatest, hlatest'⟩
      rw [Program.run_call, Program.run_call,
        bind_of_ok (use.run_busy r limit (hs.held.trans hheld)),
        bind_of_ok (use.run_busy r' limit hheld)]
      exact ih _ _ _ ⟨⟨hs.refused _, hheld⟩, hlatest, hlatest'⟩

/-- Two robots with the same link, the same settings and the same attempt at priority, on stations
that agree on the line, the memory and the lock: the same call makes the same calls on both and ends
alike. -/
theorem use_alongside {r r' : Robot σ} (hlink : r'.driver.link = r.driver.link)
    (htiming : r'.driver.timing = r.driver.timing) (hsettings : r'.settings = r.settings)
    (hpriority : r'.priority = r.priority) (limit : Nat) {use : ProgramUse μ α}
    (huse : use.Each Program.Heedless) {s s' : Station σ μ}
    (hline : s.line = s'.line) (hmemory : s.memory = s'.memory) (hheld : s.held = s'.held) :
    use.trace r limit s = use.trace r' limit s' ∧
      Alike (Alongside s s') (use.run r limit s) (use.run r' limit s') := by
  have htracedLink : r'.traced.driver.link = r.traced.driver.link := congrArg Link.traced hlink
  have hcallbacks : UseCoupled (Paced s.traced s'.traced) (Informed s.traced s'.traced)
      (use.mapTask (Program.run r.traced limit)) (use.mapTask (Program.run r'.traced limit)) :=
    .of_each huse fun _ hheedless _ => heedless_coupled htracedLink limit hheedless
  have hnoted (call : Call) {state : ArmState} {t t' : Station (Traced σ) μ}
      (ht : Informed s.traced s'.traced state t t') :
      Informed s.traced s'.traced state (t.noted call) (t'.noted call) := by
    obtain ⟨⟨ht, hheld⟩, hlatest, hlatest'⟩ := ht
    refine ⟨⟨⟨?_, ht.memory, ht.held, ht.latest, ht.counted, ht.logged⟩, hheld⟩, hlatest, hlatest'⟩
    exact congrArg (Traced.note call) ht.line
  have hrun := use_coupled r.traced r'.traced
    (paced_coupling htracedLink htiming s.traced s'.traced) hsettings hpriority
    (use_coupled_noting (fun call _ _ _ => hnoted call) hcallbacks)
    (alongside_bracket _ s.traced s'.traced) limit
  refine trace_eq_and_alike hrun (fun ht => congrArg Traced.trace ht.line) (fun ht => ?_) ?_
  · exact ⟨congrArg Traced.line ht.line, ht.memory, ht.held, ht.latest, ht.counted, ht.logged⟩
  · -- Nothing was done so far, so no counter was raised and nothing was logged.
    refine ⟨congrArg (fun line => ({ line } : Traced σ)) hline, hmemory, hheld, .inr ⟨rfl, rfl⟩,
      ⟨{}, ?_, ?_⟩, ⟨[], ?_, ?_⟩⟩
    all_goals simp [Metrics.plus]

end ArmControl
