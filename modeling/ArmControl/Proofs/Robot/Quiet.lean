import ArmControl.Proofs.Journal
import ArmControl.Proofs.Robot.Schedule

/-!
# Loops log quietly

What the cycles of a loop add to the log above TRACE, over a link that adds nothing of its own. All
that a cycle can add is the line in which its supervisor says what mode it expects, and that is
given once: `Loop.cycle_costs` is the step and `Loop.run_costs` the whole loop, whose count does not
depend on the number of cycles. Callbacks count only by what they add; `Program.Hushed` says of a
program that this is nothing.
-/

namespace ArmControl

variable {σ μ α : Type}

/-- A link that reports nothing above TRACE while states and commands pass, as long as this is known
of its line. -/
structure Link.Quiet (link : Link σ) (P : σ → Prop) : Prop where
  receive : ∀ timeout line, P line →
    (∀ event ∈ (link.receive timeout line).events, event.level = .trace) ∧
      P (link.receive timeout line).line
  send : ∀ c line, P line →
    (∀ event ∈ (link.send c line).events, event.level = .trace) ∧ P (link.send c line).line
  request : ∀ q timeout line, P line → P (link.request q timeout line).line

/-! ## Supervision -/

namespace Supervisor

/-- How many lines the supervisor will still give when it first sees a mode. -/
def pending : Supervisor → Nat
  | idle true | requested _ => 1
  | idle false | confirmed _ | faulted _ => 0

/-- A supervisor that lets a state pass gives the lines that it owes, and owes none after that. -/
theorem observe_pending {supervisor : Supervisor} {mode : ReportedMode} {cycle : Nat}
    (aside : Bool) (h : (supervisor.observe mode cycle).verdict = .ok ()) :
    (supervisor.observe mode cycle).events.countP (Event.isLoud aside) = supervisor.pending ∧
      (supervisor.observe mode cycle).supervisor.pending = 0 := by
  cases supervisor with
  | idle latchFirst => cases latchFirst <;> exact ⟨rfl, rfl⟩
  | requested expected =>
      by_cases hmode : expected = mode
      · rw [observe, if_pos hmode]
        exact ⟨rfl, rfl⟩
      · rw [observe, if_neg hmode] at h
        cases h
  | confirmed expected =>
      by_cases hmode : expected = mode
      · rw [observe, if_pos hmode]
        exact ⟨rfl, rfl⟩
      · rw [observe, if_neg hmode] at h
        cases h
  | faulted fault => cases h

end Supervisor

section Cycle

variable {d : Driver σ} {P : σ → Prop} (aside : Bool)

/-- Judging the mode of a state. -/
theorem watch_costs (supervisor : Supervisor) (state : ArmState) (cycle : Nat) :
    Costs aside P supervisor.pending (supervisor.watch state cycle : Guarded σ μ Supervisor)
      fun supervisor' => supervisor'.pending = 0 := by
  unfold Supervisor.watch
  cases hverdict : (supervisor.observe state.controllerMode cycle).verdict with
  | ok =>
      obtain ⟨hevents, hafter⟩ := Supervisor.observe_pending aside hverdict
      rw [← hevents]
      refine (Costs.report_all _).then_hushed fun _ _ => ?_
      simp only [hverdict]
      exact .pure hafter
  | error fault =>
      intro s a s' _ hrun
      simp only [hverdict] at hrun
      cases hrun

variable (h : d.link.Quiet P)

include h

theorem receive_costs :
    Costs aside P 0 (Guarded.ofDriver d.receive : Guarded σ μ ArmState) fun _ => True := by
  intro s state s' hs hrun
  have hrun := of_driver_ok hrun
  rw [Driver.receive_run] at hrun
  obtain ⟨hevents, hline⟩ := h.receive d.timing.receiveTimeout s.line hs.2
  cases hanswer : (d.link.receive d.timing.receiveTimeout s.line).answer with
  | value state =>
      rw [hanswer] at hrun
      cases hrun
      have hexchanged : Logs aside 0 s
          (s.exchanged (d.link.receive d.timing.receiveTimeout)) := .exchanged (Logs.quiet hevents)
      exact ⟨⟨hs.1, hline⟩, hexchanged.trans (.reported [.stateReceived state.messageId] _),
        trivial⟩
  | failure error =>
      rw [hanswer] at hrun
      cases hrun
  | overflow =>
      rw [hanswer] at hrun
      cases hrun

theorem send_costs (c : Command) :
    Costs aside P 0 (Control.sendCommand d c : Guarded σ μ Unit) fun _ => True := by
  intro s a s' hs hrun
  have hrun := of_driver_ok hrun
  rw [Driver.send_run] at hrun
  obtain ⟨hevents, hline⟩ := h.send c s.line hs.2
  cases hvalid : c.validate with
  | error error =>
      rw [hvalid] at hrun
      cases hrun
  | ok =>
      rw [hvalid] at hrun
      cases hanswer : (d.link.send c s.line).answer with
      | value =>
          rw [hanswer] at hrun
          cases hrun
          have hexchanged : Logs aside 0 s (s.exchanged (d.link.send c)) :=
            .exchanged (Logs.quiet hevents)
          exact ⟨⟨hs.1, hline⟩, hexchanged.trans (.reported [.commandSent c.messageId] _), trivial⟩
      | failure error =>
          rw [hanswer] at hrun
          cases hrun
      | overflow =>
          rw [hanswer] at hrun
          cases hrun

theorem next_state_costs (p : Control.Progress) :
    Costs aside P p.supervisor.pending
      (Control.nextState d p : Guarded σ μ (Control.Cycle × Control.Progress))
      fun next => next.2.supervisor.pending = 0 := by
  refine (receive_costs aside h).after_hushed fun state _ => ?_
  refine (watch_costs aside p.supervisor state (p.cycle + 1)).then_hushed
    fun supervisor hafter => ?_
  cases p.clock.tick state.time with
  | overflow => exact .halt _
  | stalled previous => exact .fail _
  | advanced period clock => exact (Costs.report _).then_hushed fun _ _ => .pure hafter

omit h in
theorem turn_costs (kind : CallbackKind) (validate : α → Except ValueError Unit)
    {callback : Option (Callback σ μ α)}
    (hcall : ∀ call ∈ callback, ∀ state period, Hushed aside P (call state period))
    (slot : Slot α) (cycle : Nat) (now : Control.Cycle) :
    Costs aside P 0 (Control.turn kind validate callback slot cycle now) fun _ => True := by
  unfold Control.turn
  cases callback with
  | none => exact .pure trivial
  | some call =>
      cases slot.finished with
      | true => exact .pure trivial
      | false =>
          refine (Costs.of_task (hcall call rfl now.state now.period)).then_hushed
            fun answer _ => ?_
          cases answer with
          | error reason => exact .fail _
          | ok flow =>
              dsimp only
              cases validate flow.value with
              | ok => exact .pure trivial
              | error error =>
                  intro s a s' _ hrun
                  cases hrun

/-- None of the callbacks adds anything loud to the log. -/
structure Callbacks.Hushed (aside : Bool) (P : σ → Prop) (callbacks : Callbacks σ μ) : Prop where
  torque : ∀ call ∈ callbacks.torque, ∀ state period, ArmControl.Hushed aside P (call state period)
  motion : ∀ call ∈ callbacks.motion, ∀ state period, ArmControl.Hushed aside P (call state period)

variable {callbacks : Callbacks σ μ} (hcalls : callbacks.Hushed aside P)

include hcalls

theorem cycle_costs (p : Control.Progress) :
    Costs aside P p.supervisor.pending (Control.cycle d callbacks p)
      fun cycled => cycled.2.supervisor.pending = 0 := by
  refine (next_state_costs aside h p).then_hushed fun ⟨now, p⟩ hafter => ?_
  refine (turn_costs aside _ _ hcalls.torque _ _ _).then_hushed fun torque _ => ?_
  refine (turn_costs aside _ _ hcalls.motion _ _ _).then_hushed fun motion _ => ?_
  exact (send_costs aside h _).then_hushed fun _ _ => .pure hafter

omit hcalls in
theorem finish_costs (cycled : Command × Control.Progress)
    (hafter : cycled.2.supervisor.pending = 0) :
    Costs aside P 1 (Control.finish d cycled : Guarded σ μ Nat) fun _ => True := by
  refine (Costs.report (.callbacksFinished _ _)).then_hushed fun _ _ => ?_
  have hnext := next_state_costs (μ := μ) aside h cycled.2
  rw [hafter] at hnext
  refine hnext.then_hushed fun ⟨now, p⟩ _ => ?_
  exact (send_costs aside h _).then_hushed fun _ _ => .pure trivial

end Cycle

/-! ## Loops -/

namespace Loop

/-- How many lines its supervisor will still give. -/
def pending : Loop σ μ → Nat
  | control _ p => p.supervisor.pending
  | reading _ supervisor _ => supervisor.pending

/-- How many lines its end is worth. -/
def closing : Loop σ μ → Nat
  | control _ _ => 1
  | reading _ _ _ => 0

/-- None of its callbacks adds anything loud to the log. -/
def Hushed (aside : Bool) (P : σ → Prop) : Loop σ μ → Prop
  | control callbacks _ => callbacks.Hushed aside P
  | reading keepOn _ _ => ∀ state, ArmControl.Hushed aside P (keepOn state)

/-- What is left of a loop after a cycle gives no lines but those of its end. -/
def Settled (aside : Bool) (P : σ → Prop) (l : Loop σ μ) : Loop σ μ ⊕ Guarded σ μ Nat → Prop
  | .inl l' => l'.Hushed aside P ∧ l'.pending = 0 ∧ l'.closing = l.closing
  | .inr rest => Costs aside P l.closing rest fun _ => True

variable {d : Driver σ} {P : σ → Prop} {aside : Bool} (h : d.link.Quiet P) {l : Loop σ μ}

include h

/-- A cycle gives the lines that the supervisor owes, and no others. -/
theorem cycle_costs (hcalls : l.Hushed aside P) :
    Costs aside P l.pending (l.cycle d) (l.Settled aside P) := by
  cases l with
  | control callbacks p =>
      refine (ArmControl.cycle_costs aside h hcalls p).then_hushed fun ⟨command, p'⟩ hafter => ?_
      cases hfinished : p'.finished with
      | true =>
          simp only [hfinished, if_true]
          exact .pure (finish_costs aside h _ hafter)
      | false =>
          simp only [hfinished, Bool.false_eq_true, if_false]
          exact .pure ⟨hcalls, hafter, rfl⟩
  | reading keepOn supervisor cycle =>
      refine (receive_costs aside h).after_hushed fun state _ => ?_
      refine (watch_costs aside supervisor state (cycle + 1)).then_hushed
        fun supervisor' hafter => ?_
      refine (Costs.of_task (hcalls state)).then_hushed fun goesOn _ => ?_
      cases goesOn with
      | true => exact .pure ⟨hcalls, hafter, rfl⟩
      | false => exact .pure ((Costs.report _).then_hushed fun _ _ => .pure trivial)

/-- However many cycles a loop takes, it gives the lines that the supervisor owes and those of its
end. -/
theorem run_costs (limit : Nat) (hcalls : l.Hushed aside P) :
    Costs aside P (l.pending + l.closing) (l.run d limit) fun _ => True := by
  induction limit generalizing l with
  | zero => exact .halt _
  | succ limit ih =>
      refine (cycle_costs h hcalls).bind fun next hnext => ?_
      cases next with
      | inl l' =>
          -- From here on the supervisor owes nothing, so the rest is worth the lines of the end.
          obtain ⟨hcalls', hpending, hclosing⟩ := hnext
          have hrest := ih hcalls'
          rwa [hpending, Nat.zero_add, hclosing] at hrest
      | inr rest => exact hnext

/-- After its first cycle a loop owes no more lines for its mode. -/
theorem Reached.settled {s s' : Station σ μ} {n : Nat} {l' : Loop σ μ}
    (hreached : Reached d l s n l' s') (hcalls : l.Hushed aside P) (hs : Along P none s) :
    Along P none s' ∧ l'.Hushed aside P ∧ (0 < n → l'.pending = 0) := by
  induction hreached with
  | start => exact ⟨hs, hcalls, fun hpos => absurd hpos (Nat.lt_irrefl 0)⟩
  | next _ hcycle ih =>
      obtain ⟨hs', hcalls', -⟩ := ih
      obtain ⟨hs'', -, hcalls'', hpending, -⟩ := cycle_costs h hcalls' _ _ _ hs' hcycle
      exact ⟨hs'', hcalls'', fun _ => hpending⟩

end Loop

/-! ## Programs -/

/-- A program that, as a callback, leaves alone what is known of the line and adds nothing loud to
the log. -/
inductive Program.Hushed (link : Link σ) (P : σ → Prop) (aside : Bool) :
    {α : Type} → Program μ α → Prop
  | done {α : Type} (a : α) : Hushed link P aside (done a)
  | recollect {α : Type} {next : μ → Program μ α} :
      (∀ memory, Hushed link P aside (next memory)) → Hushed link P aside (recollect next)
  | remember {α : Type} (memory : μ) {next : Program μ α} :
      Hushed link P aside next → Hushed link P aside (remember memory next)
  | inject {α : Type} {injection : Injection} {next : Program μ α} :
      (∀ line, P line → P (link.inject injection line)) → Hushed link P aside next →
      Hushed link P aside (inject injection next)
  | inspect {α : Type} {next : View → Program μ α} :
      (∀ view, Hushed link P aside (next view)) → Hushed link P aside (inspect next)
  | call {α β : Type} (use : ProgramUse μ β) {next : Except RobotError β → Program μ α} :
      aside = true → (∀ result, Hushed link P aside (next result)) →
      Hushed link P aside (call use next)

namespace Program

variable {P : σ → Prop} {aside : Bool}

theorem Hushed.run {r : Robot σ} {program : Program μ α}
    (h : Program.Hushed r.driver.link P aside program) (limit : Nat) :
    ArmControl.Hushed aside P (program.run r limit) := by
  induction h with
  | done a =>
      intro s b s' hs hrun
      cases hrun
      exact ⟨hs, .same rfl⟩
  | recollect _ ih => exact fun s b s' hs hrun => ih s.memory s b s' hs hrun
  | remember memory _ ih => exact fun s b s' hs hrun => ih { s with memory } b s' hs hrun
  | inject hinject _ ih =>
      intro s b s' hs hrun
      exact ih { s with line := r.driver.link.inject _ s.line } b s'
        ⟨hs.1, hinject s.line hs.2⟩ hrun
  | inspect _ ih => exact fun s b s' hs hrun => ih (s.view r) s b s' hs hrun
  | call use haside _ ih =>
      -- The session in progress has the driver, so the call is refused, which is left aside.
      intro s b s' hs hrun
      rw [run_call, bind_of_ok (use.run_busy r limit hs.1)] at hrun
      obtain ⟨hs', hlogs⟩ := ih _ (s.refused use.kind) b s' hs hrun
      have hrefused : Logs aside 0 s (s.refused use.kind) := by
        refine ⟨[.sessionRefused use.kind], by simp [Station.refused], ?_⟩
        rw [haside]
        rfl
      have htotal := hrefused.trans hlogs
      rw [Nat.zero_add] at htotal
      exact ⟨hs', htotal⟩

/-- Where nothing that is injected matters and refusals are left aside, every program will do. -/
theorem hushed_of_inject {link : Link σ}
    (h : ∀ injection line, P line → P (link.inject injection line)) (program : Program μ α) :
    Program.Hushed link P true program :=
  induction_calls (motive := Program.Hushed link P true) .done (fun _ => .recollect)
    (fun memory _ => .remember memory) (fun injection _ => .inject (h injection))
    (fun _ => .inspect) (fun use _ _ => .call use rfl) program

end Program

end ArmControl
