import ArmControl.Proofs.Upkeep

/-!
# What a session adds to the log

An event is loud unless it is of the level TRACE. `Logs` counts the loud events between two
stations, and `Costs` says how many a computation adds that ends well, with rules that follow how
computations are put together. What is counted is what a session itself reports: the refusals of
calls that its callbacks make can be left aside.
-/

namespace ArmControl

variable {σ μ α β : Type}

/-- Whether an event is of a level above TRACE. Refusals are left aside if so chosen. -/
def Event.isLoud (aside : Bool) : Event → Bool
  | sessionRefused _ => !aside
  | event => decide (event.level ≠ .trace)

/-- Nothing of the level TRACE is loud. -/
theorem Event.not_loud {aside : Bool} {event : Event} (h : event.level = .trace) :
    event.isLoud aside = false := by
  cases event with
  | sessionRefused kind => cases h
  | _ => exact decide_eq_false (Classical.not_not.mpr h)

/-! ## Counting -/

/-- The log grew by events of which `n` are loud. -/
def Logs (aside : Bool) (n : Nat) (s s' : Station σ μ) : Prop :=
  ∃ events : List Event, s'.journal.toList = s.journal.toList ++ events ∧
    events.countP (Event.isLoud aside) = n

namespace Logs

variable {aside : Bool} {n k : Nat} {s s' s'' : Station σ μ}

theorem same (h : s'.journal = s.journal) : Logs aside 0 s s' := ⟨[], by simp [h], rfl⟩

theorem trans (h : Logs aside n s s') (h' : Logs aside k s' s'') : Logs aside (n + k) s s'' := by
  obtain ⟨events, hevents, hn⟩ := h
  obtain ⟨more, hmore, hk⟩ := h'
  refine ⟨events ++ more, by rw [hmore, hevents, List.append_assoc], ?_⟩
  rw [List.countP_append, hn, hk]

theorem reported (events : List Event) (s : Station σ μ) :
    Logs aside (events.countP (Event.isLoud aside)) s (s.reported events) :=
  ⟨events, by simp [Station.reported], rfl⟩

theorem exchanged {operation : σ → LinkStep σ α}
    (h : (operation s.line).events.countP (Event.isLoud aside) = n) :
    Logs aside n s (s.exchanged operation) :=
  ⟨(operation s.line).events, by simp [Station.exchanged], h⟩

/-- Events of the level TRACE do not count. -/
theorem quiet {events : List Event} (h : ∀ event ∈ events, event.level = .trace) :
    events.countP (Event.isLoud aside) = 0 :=
  List.countP_eq_zero.mpr fun event hmem => by
    rw [Event.not_loud (h event hmem)]
    exact Bool.false_ne_true

end Logs

/-! ## Computations -/

/-- A computation that ends well in a session keeps what holds of the line, adds `n` loud events to
the log, and ends with a result like this. -/
def Costs (aside : Bool) (P : σ → Prop) (n : Nat) (m : Guarded σ μ α) (Q : α → Prop) : Prop :=
  ∀ s a s', Along P none s → m.run s = .ok (.ok a) s' →
    Along P none s' ∧ Logs aside n s s' ∧ Q a

/-- A task that adds nothing loud to the log. -/
def Hushed (aside : Bool) (P : σ → Prop) (t : Task σ μ α) : Prop :=
  ∀ s a s', Along P none s → t s = .ok a s' → Along P none s' ∧ Logs aside 0 s s'

theorem of_task_ok {t : Task σ μ α} {s s' : Station σ μ} {a : α}
    (h : (Guarded.ofTask t).run s = .ok (.ok a) s') : t s = .ok a s' := by
  change EStateM.bind t (fun a => pure (Except.ok a)) s = _ at h
  unfold EStateM.bind at h
  cases hrun : t s with
  | ok b s'' =>
      rw [hrun] at h
      cases h
      rfl
  | error cause s'' =>
      rw [hrun] at h
      cases h

theorem of_driver_ok {t : Task σ μ (Except DriverError α)} {s s' : Station σ μ} {a : α}
    (h : (Guarded.ofDriver t).run s = .ok (.ok a) s') : t s = .ok (.ok a) s' := by
  change EStateM.bind t _ s = _ at h
  unfold EStateM.bind at h
  cases hrun : t s with
  | ok answer s'' =>
      rw [hrun] at h
      cases answer <;> cases h
      rfl
  | error cause s'' =>
      rw [hrun] at h
      cases h

namespace Costs

variable {aside : Bool} {P : σ → Prop} {n k : Nat} {m : Guarded σ μ α} {f : α → Guarded σ μ β}
  {Q : α → Prop} {R : β → Prop}

theorem pure {a : α} (h : Q a) : Costs aside P 0 (Pure.pure a : Guarded σ μ α) Q := by
  intro s b s' hs hrun
  cases hrun
  exact ⟨hs, .same rfl, h⟩

theorem fail (error : RobotError) : Costs aside P n (Guarded.fail error : Guarded σ μ α) Q := by
  intro s a s' _ hrun
  cases hrun

theorem halt (cause : Halt) : Costs aside P n (Guarded.halt cause : Guarded σ μ α) Q := by
  intro s a s' _ hrun
  cases hrun

theorem bind (hm : Costs aside P n m Q) (hf : ∀ a, Q a → Costs aside P k (f a) R) :
    Costs aside P (n + k) (m >>= f) R := by
  intro s b s' hs hrun
  rw [Guarded.run_bind] at hrun
  cases hfirst : m.run s with
  | ok answer t =>
      rw [hfirst] at hrun
      cases answer with
      | ok a =>
          obtain ⟨ht, hlogs, ha⟩ := hm s a t hs hfirst
          obtain ⟨hs', hmore, hb⟩ := hf a ha t b s' ht hrun
          exact ⟨hs', hlogs.trans hmore, hb⟩
      | error error => cases hrun
  | error cause t =>
      rw [hfirst] at hrun
      cases hrun

/-- What comes before something that adds nothing costs what it costs alone. -/
theorem then_hushed (hm : Costs aside P n m Q) (hf : ∀ a, Q a → Costs aside P 0 (f a) R) :
    Costs aside P n (m >>= f) R := hm.bind hf

theorem after_hushed (hm : Costs aside P 0 m Q) (hf : ∀ a, Q a → Costs aside P n (f a) R) :
    Costs aside P n (m >>= f) R := by
  have h := hm.bind hf
  rwa [Nat.zero_add] at h

theorem of_task {t : Task σ μ α} (h : Hushed aside P t) :
    Costs aside P 0 (Guarded.ofTask t) fun _ => True := by
  intro s a s' hs hrun
  obtain ⟨hs', hlogs⟩ := h s a s' hs (of_task_ok hrun)
  exact ⟨hs', hlogs, trivial⟩

theorem report_all (events : List Event) :
    Costs aside P (events.countP (Event.isLoud aside))
      (Guarded.ofTask (Task.reportAll events) : Guarded σ μ Unit) fun _ => True := by
  intro s a s' hs hrun
  cases of_task_ok hrun
  exact ⟨hs, .reported events s, trivial⟩

theorem report (event : Event) :
    Costs aside P (if event.isLoud aside then 1 else 0)
      (Guarded.ofTask (Task.report event) : Guarded σ μ Unit) fun _ => True := by
  intro s a s' hs hrun
  cases of_task_ok hrun
  refine ⟨hs, ⟨[event], by simp, ?_⟩, trivial⟩
  rw [List.countP_singleton]

end Costs

end ArmControl
