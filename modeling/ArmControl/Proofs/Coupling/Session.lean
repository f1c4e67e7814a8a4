import ArmControl.Proofs.Coupling.Basic
import ArmControl.Proofs.Robot.Use

/-!
# Sessions side by side

What two drivers do alike, two robots do alike as well: the loops of a session go in step as long as
their callbacks do, and so do the sessions. Read `use_coupled` first. It takes a `Coupling` for the
time within a session and a `Bracket` for its two ends, and couples every call on a robot.
-/

namespace ArmControl

variable {σ σ' μ μ' α β : Type} {R : Pairing σ μ σ' μ'} {A : ArmState → Pairing σ μ σ' μ'}

/-- Two callbacks that go in step when they are called with the state received last. -/
def CallbackCoupled (R : Pairing σ μ σ' μ') (A : ArmState → Pairing σ μ σ' μ')
    (callback : Callback σ μ α) (callback' : Callback σ' μ' α) : Prop :=
  ∀ state period, Coupled (fun _ => R) (A state) (callback state period) (callback' state period)
    fun _ => A state

/-- Two callbacks that are absent together, or go in step. -/
inductive CallsCoupled (R : Pairing σ μ σ' μ') (A : ArmState → Pairing σ μ σ' μ') :
    Option (Callback σ μ α) → Option (Callback σ' μ' α) → Prop
  | none : CallsCoupled R A none none
  | some {callback : Callback σ μ α} {callback' : Callback σ' μ' α} :
      CallbackCoupled R A callback callback' → CallsCoupled R A (some callback) (some callback')

theorem CallsCoupled.is_some {callback : Option (Callback σ μ α)}
    {callback' : Option (Callback σ' μ' α)} (h : CallsCoupled R A callback callback') :
    callback'.isSome = callback.isSome := by
  cases h <;> rfl

/-- Callbacks of two control sessions that go in step. -/
structure CallbacksCoupled (R : Pairing σ μ σ' μ') (A : ArmState → Pairing σ μ σ' μ')
    (callbacks : Callbacks σ μ) (callbacks' : Callbacks σ' μ') : Prop where
  torque : CallsCoupled R A callbacks.torque callbacks'.torque
  motion : CallsCoupled R A callbacks.motion callbacks'.motion

namespace Coupling

/-! ## Loops -/

section Loops

variable {d : Driver σ} {d' : Driver σ'} (h : Coupling d d' R A)

include h

theorem receives_guarded :
    Guarded.Coupled R R (Guarded.ofDriver d.receive) (Guarded.ofDriver d'.receive) A :=
  .of_driver h.receives fun _ _ _ h => h

theorem sends_guarded (c : Command) :
    Guarded.Coupled R R (Guarded.ofDriver (d.send c)) (Guarded.ofDriver (d'.send c)) fun _ => R :=
  .of_driver (h.sends c) fun _ _ _ h => h

/-- Judging the mode of the state received last. -/
theorem watches (supervisor : Supervisor) (state : ArmState) (cycle : Nat) :
    Guarded.Coupled R (A state) (supervisor.watch state cycle) (supervisor.watch state cycle)
      fun _ => A state := by
  have hreport : Coupled (fun _ => R) (A state)
      (Task.reportAll (supervisor.observe state.controllerMode cycle).events)
      (Task.reportAll (supervisor.observe state.controllerMode cycle).events) fun _ => A state :=
    .modify fun _ _ => h.report_known _
  refine .bind (.of_task hreport) fun _ => ?_
  cases (supervisor.observe state.controllerMode cycle).verdict with
  | ok => exact .pure fun _ _ h => h
  | error fault =>
      refine .bind (.of_task ((h.counts {}).weaken fun _ _ => h.known)) fun _ => ?_
      exact .fail fun _ _ h => h

theorem next_state (p : Control.Progress) :
    Guarded.Coupled R R (Control.nextState d p) (Control.nextState d' p) fun next =>
      A next.1.state := by
  refine .bind h.receives_guarded fun state => .bind (h.watches _ state _) fun supervisor => ?_
  cases p.clock.tick state.time with
  | overflow => exact .halt fun _ _ => h.known
  | stalled previous => exact .fail fun _ _ => h.known
  | advanced period clock =>
      exact .bind (.of_task (h.report_one_known _ state)) fun _ => .pure fun _ _ h => h

theorem turn (kind : CallbackKind) (validate : α → Except ValueError Unit)
    {callback : Option (Callback σ μ α)} {callback' : Option (Callback σ' μ' α)}
    (hcall : CallsCoupled R A callback callback') (slot : Slot α) (cycle : Nat)
    (now : Control.Cycle) :
    Guarded.Coupled R (A now.state) (Control.turn kind validate callback slot cycle now)
      (Control.turn kind validate callback' slot cycle now) fun _ => A now.state := by
  unfold Control.turn
  cases hcall with
  | none => exact .pure fun _ _ h => h
  | some hcallback =>
      cases slot.finished with
      | true => exact .pure fun _ _ h => h
      | false =>
          refine .bind (.of_task (hcallback now.state now.period)) fun answer => ?_
          cases answer with
          | error reason => exact .fail fun _ _ => h.known
          | ok flow =>
              dsimp only
              cases validate flow.value with
              | ok => exact .pure fun _ _ h => h
              | error error =>
                  refine .bind (.of_task ((h.counts {}).weaken fun _ _ => h.known)) fun _ => ?_
                  exact .fail fun _ _ h => h

variable {callbacks : Callbacks σ μ} {callbacks' : Callbacks σ' μ'}

theorem cycle (hcalls : CallbacksCoupled R A callbacks callbacks') (p : Control.Progress) :
    Guarded.Coupled R R (Control.cycle d callbacks p) (Control.cycle d' callbacks' p)
      fun _ => R := by
  refine .bind (h.next_state p) fun ⟨now, p⟩ => ?_
  refine .bind (h.turn _ _ hcalls.torque _ _ _) fun torque => ?_
  refine .bind (h.turn _ _ hcalls.motion _ _ _) fun motion => ?_
  exact .bind ((h.sends_guarded _).weaken fun _ _ => h.known) fun _ => .pure fun _ _ h => h

theorem cycles (hcalls : CallbacksCoupled R A callbacks callbacks') (limit : Nat)
    (p : Control.Progress) :
    Guarded.Coupled R R (Control.cycles d callbacks limit p) (Control.cycles d' callbacks' limit p)
      fun _ => R := by
  induction limit generalizing p with
  | zero => exact .halt fun _ _ h => h
  | succ limit ih =>
      refine .bind (h.cycle hcalls p) fun ⟨command, p⟩ => ?_
      dsimp only
      cases p.finished with
      | true => exact .pure fun _ _ h => h
      | false => exact ih p

theorem control_run (hcalls : CallbacksCoupled R A callbacks callbacks') (supervisor : Supervisor)
    (limit : Nat) :
    Guarded.Coupled R R (Control.run d supervisor callbacks limit)
      (Control.run d' supervisor callbacks' limit) fun _ => R := by
  have hstart : Control.Progress.start supervisor d.timing.controlPeriod callbacks' =
      .start supervisor d.timing.controlPeriod callbacks := by
    simp only [Control.Progress.start, hcalls.torque.is_some, hcalls.motion.is_some]
  unfold Control.run
  rw [h.timing, hstart]
  refine .bind (h.cycles hcalls _ _) fun ⟨last, p⟩ => ?_
  refine .bind (.of_task (h.report_one _)) fun _ => .bind (h.next_state p) fun ⟨now, p⟩ => ?_
  exact .bind ((h.sends_guarded _).weaken fun _ _ => h.known) fun _ => .pure fun _ _ h => h

theorem reading_states {keepOn : ArmState → Task σ μ Bool} {keepOn' : ArmState → Task σ' μ' Bool}
    (hkeep : ∀ state, Coupled (fun _ => R) (A state) (keepOn state) (keepOn' state)
      fun _ => A state)
    (limit : Nat) (supervisor : Supervisor) (cycle : Nat) :
    Guarded.Coupled R R (Reading.states d keepOn limit supervisor cycle)
      (Reading.states d' keepOn' limit supervisor cycle) fun _ => R := by
  induction limit generalizing supervisor cycle with
  | zero => exact .halt fun _ _ h => h
  | succ limit ih =>
      refine .bind h.receives_guarded fun state => .bind (h.watches _ state _) fun supervisor => ?_
      refine .bind (.of_task (hkeep state)) fun goOn => ?_
      cases goOn with
      | true => exact (ih supervisor (cycle + 1)).weaken fun _ _ => h.known
      | false =>
          refine .bind (.of_task ((h.report_one _).weaken fun _ _ => h.known)) fun _ => ?_
          exact .pure fun _ _ h => h

end Loops

/-! ## Within a session -/

section Robots

variable {r : Robot σ} {r' : Robot σ'} (h : Coupling r.driver r'.driver R A)
  (hsettings : r'.settings = r.settings) (hpriority : r'.priority = r.priority)

include h

theorem dispatch (q : Request) :
    Guarded.Coupled R R (r.dispatch q) (r'.dispatch q) fun _ => R := by
  unfold Robot.dispatch
  cases q.validate with
  | error error => exact .fail fun _ _ h => h
  | ok => exact .of_driver (h.executes q) fun _ _ _ h => h

theorem conclude (kind : SessionKind) {loop : Guarded σ μ Nat} {loop' : Guarded σ' μ' Nat}
    (hloop : Guarded.Coupled R R loop loop' fun _ => R) :
    Guarded.Coupled R R (Robot.conclude kind loop) (Robot.conclude kind loop') fun _ => R := by
  refine ArmControl.Coupled.bind hloop fun answer => ?_
  cases answer <;> exact .bind (h.report_one _) fun _ => .pure fun _ _ h => h

theorem request_mode (mode : ControllerMode) :
    Guarded.Coupled R R (r.requestMode mode) (r'.requestMode mode) fun _ => R :=
  .bind (h.dispatch _) fun _ => .bind (.of_task (h.report_all _)) fun _ => .pure fun _ _ h => h

include hsettings hpriority

theorem announce (kind : SessionKind) :
    Guarded.Coupled R R (r.announce kind) (r'.announce kind) fun _ => R := by
  unfold Robot.announce
  rw [hsettings, hpriority]
  have happly : Coupled (fun _ => R) R (r.settings.realtime.apply (σ := σ) (μ := μ) r.priority)
      (r.settings.realtime.apply (σ := σ') (μ := μ') r.priority) fun _ => R := by
    cases r.priority with
    | ok => exact .bind (h.report_one _) fun _ => .pure fun _ _ h => h
    | error reason =>
        cases r.settings.realtime with
        | enforce => exact .pure fun _ _ h => h
        | ignore => exact .bind (h.report_one _) fun _ => .pure fun _ _ h => h
  exact .bind (.of_driver happly fun _ _ _ h => h) fun _ => .of_task (h.report_one _)

end Robots

end Coupling

/-! ## Sessions -/

namespace Station

/-- The station after the driver was taken for a session. -/
def acquired (kind : SessionKind) (s : Station σ μ) : Station σ μ :=
  { s with
    held := true
    metrics := { s.metrics with sessionsStarted := s.metrics.sessionsStarted + 1 }
    journal := s.journal.push (.sessionAcquired kind) }

/-- The station after a session gave the driver back. -/
def released (kind : SessionKind) (s : Station σ μ) : Station σ μ :=
  { s with
    held := false
    metrics := { s.metrics with sessionsReleased := s.metrics.sessionsReleased + 1 }
    journal := s.journal.push (.sessionReleased kind) }

/-- The station with the lock taken or free. -/
def locked (held : Bool) (s : Station σ μ) : Station σ μ := { s with held }

/-- A session takes the lock, raises one counter and gives one line of the log at its beginning. -/
theorem acquired_eq (kind : SessionKind) (s : Station σ μ) :
    s.acquired kind =
      ((s.counted fun m => { m with sessionsStarted := m.sessionsStarted + 1 }).reported
        [.sessionAcquired kind]).locked true := by
  rw [reported_singleton]
  rfl

theorem released_eq (kind : SessionKind) (s : Station σ μ) :
    s.released kind =
      ((s.counted fun m => { m with sessionsReleased := m.sessionsReleased + 1 }).reported
        [.sessionReleased kind]).locked false := by
  rw [reported_singleton]
  rfl

theorem refused_eq (kind : SessionKind) (s : Station σ μ) :
    s.refused kind =
      (s.counted fun m => { m with sessionsRejected := m.sessionsRejected + 1 }).reported
        [.sessionRefused kind] := by
  rw [reported_singleton]
  rfl

end Station

/-- A session begins at once when no other one has the driver. -/
theorem hold_free (kind : SessionKind) (body : Task σ μ (Except RobotError α)) {s : Station σ μ}
    (hfree : s.held = false) :
    Session.hold kind body s = Session.releasing kind body (s.acquired kind) := by
  have hacquire : Session.acquire kind s = .ok (.ok ()) (s.acquired kind) := by
    show (if s.held then _ else _ : Task σ μ (Except RobotError Unit)) s = _
    rw [hfree]
    rfl
  exact bind_of_ok hacquire

/-- How the stations go together before (`P`), during (`R`) and after (`Q`) a session, and what is
left of that when a clock overflows, or the session is not followed to its end. -/
structure Bracket (kind : SessionKind) (E : Halt → Pairing σ μ σ' μ') (P R Q : Pairing σ μ σ' μ') :
    Prop where
  held : ∀ {s s'}, P s s' → s'.held = s.held
  refuse : ∀ {s s'}, P s s' → s.held = true → Q (s.refused kind) (s'.refused kind)
  acquire : ∀ {s s'}, P s s' → s.held = false → R (s.acquired kind) (s'.acquired kind)
  release : ∀ {s s'}, R s s' → Q (s.released kind) (s'.released kind)
  overflow : ∀ {s s'}, R s s' → E .clockOverflow (s.released kind) (s'.released kind)
  unfinished : ∀ {s s'}, R s s' → E .unfinished s s'

/-- What is done within a session goes in step, and so the session does. -/
theorem Bracket.hold {kind : SessionKind} {E : Halt → Pairing σ μ σ' μ'} {P Q : Pairing σ μ σ' μ'}
    (h : Bracket kind E P R Q) {m : Guarded σ μ α} {m' : Guarded σ' μ' α}
    (hm : Guarded.Coupled R R m m' fun _ => R) :
    Coupled E P (Session.hold kind m.run) (Session.hold kind m'.run) fun _ => Q := by
  intro s s' hs
  have hheld' := h.held hs
  cases hheld : s.held with
  | true =>
      rw [hheld] at hheld'
      rw [hold_busy kind m.run hheld, hold_busy kind m'.run hheld']
      exact .inl ⟨_, _, _, rfl, rfl, h.refuse hs hheld⟩
  | false =>
      rw [hheld] at hheld'
      rw [hold_free kind m.run hheld, hold_free kind m'.run hheld']
      unfold Session.releasing
      rcases hm _ _ (h.acquire hs hheld) with
        ⟨answer, s₁, s₁', hrun, hrun', hr⟩ | ⟨cause, s₁, s₁', hrun, hrun', hr⟩
      · rw [hrun, hrun']
        have hr : R s₁ s₁' := by cases answer <;> exact hr
        exact .inl ⟨answer, s₁.released kind, s₁'.released kind, rfl, rfl, h.release hr⟩
      · rw [hrun, hrun']
        cases cause with
        | clockOverflow =>
            exact .inr ⟨.clockOverflow, s₁.released kind, s₁'.released kind, rfl, rfl,
              h.overflow hr⟩
        | unfinished => exact .inr ⟨.unfinished, s₁, s₁', rfl, rfl, h.unfinished hr⟩

/-- Two calls with the same arguments whose callbacks go in step. -/
abbrev UseCoupled (R : Pairing σ μ σ' μ') (A : ArmState → Pairing σ μ σ' μ') :
    {α : Type} → TaskUse σ μ α → TaskUse σ' μ' α → Prop :=
  RobotUse.Related (CallbackCoupled R A) (CallbackCoupled R A) fun keepOn keepOn' =>
    ∀ state, Coupled (fun _ => R) (A state) (keepOn state) (keepOn' state) fun _ => A state

/-- The same call with its programs carried out in two ways that go in step. -/
theorem UseCoupled.of_each_given {ν ν' : Type} {R : Pairing σ ν σ' ν'}
    {A : ArmState → Pairing σ ν σ' ν'} {carry : {β : Type} → ArmState → Program μ β → Task σ ν β}
    {carry' : {β : Type} → ArmState → Program μ β → Task σ' ν' β}
    {P : {β : Type} → Program μ β → Prop} {use : ProgramUse μ α} (h : use.Each P)
    (hcarry : ∀ {β : Type} (program : Program μ β), P program → ∀ state,
      Coupled (fun _ => R) (A state) (carry state program) (carry' state program)
        fun _ => A state) :
    UseCoupled R A (use.mapGiven carry) (use.mapGiven carry') := by
  cases use with
  | controlTorques torque =>
      exact .controlTorques fun state period => hcarry _ (h state period) state
  | controlTorquesWithMotion torque motion =>
      exact .controlTorquesWithMotion (fun state period => hcarry _ (h.1 state period) state)
        fun state period => hcarry _ (h.2 state period) state
  | controlMotion motion mode =>
      exact .controlMotion mode fun state period => hcarry _ (h state period) state
  | read mode keepOn => exact .read mode fun state => hcarry _ (h state) state
  | readOnce => exact .readOnce
  | execute request => exact .execute request

/-- So it is when the programs are carried out without a regard to the state. -/
theorem UseCoupled.of_each {ν ν' : Type} {R : Pairing σ ν σ' ν'} {A : ArmState → Pairing σ ν σ' ν'}
    {carry : {β : Type} → Program μ β → Task σ ν β}
    {carry' : {β : Type} → Program μ β → Task σ' ν' β}
    {P : {β : Type} → Program μ β → Prop} {use : ProgramUse μ α} (h : use.Each P)
    (hcarry : ∀ {β : Type} (program : Program μ β), P program → ∀ state,
      Coupled (fun _ => R) (A state) (carry program) (carry' program) fun _ => A state) :
    UseCoupled R A (use.mapTask carry) (use.mapTask carry') :=
  of_each_given h hcarry

/-- Calls on two robots go in step when their callbacks do. -/
theorem use_coupled (r : Robot σ) (r' : Robot σ') (h : Coupling r.driver r'.driver R A)
    (hsettings : r'.settings = r.settings) (hpriority : r'.priority = r.priority)
    {use : TaskUse σ μ α} {use' : TaskUse σ' μ' α} (huse : UseCoupled R A use use')
    {E : Halt → Pairing σ μ σ' μ'} {P Q : Pairing σ μ σ' μ'}
    (hbracket : Bracket use.kind E P R Q) (limit : Nat) :
    Coupled E P (use.run r limit) (use'.run r' limit) fun _ => Q := by
  have himplied {callbacks : Callbacks σ μ} {callbacks' : Callbacks σ' μ'}
      (hcalls : CallbacksCoupled R A callbacks callbacks') (hb : Bracket .control E P R Q) :
      Coupled E P (r.controlImplied limit callbacks) (r'.controlImplied limit callbacks')
        fun _ => Q := by
    unfold Robot.controlImplied
    rw [hsettings]
    exact hb.hold <| .bind (h.announce hsettings hpriority _) fun _ =>
      h.conclude _ (h.control_run hcalls _ limit)
  -- Each kind of use has gates of its own before its loop, so the cases do not share one proof.
  cases huse with
  | controlTorques htorque => exact himplied ⟨.some htorque, .none⟩ hbracket
  | controlTorquesWithMotion htorque hmotion =>
      exact himplied ⟨.some htorque, .some hmotion⟩ hbracket
  | controlMotion mode hmotion =>
      exact hbracket.hold <| .bind (h.announce hsettings hpriority _) fun _ =>
        .bind (h.request_mode mode) fun _ =>
          h.conclude _ (h.control_run ⟨.none, .some hmotion⟩ _ limit)
  | read mode hkeep =>
      have hloop (supervisor : Supervisor) :=
        h.conclude .read (h.reading_states hkeep limit supervisor 0)
      refine hbracket.hold ?_
      cases mode with
      | none => exact .bind (.pure fun _ _ h => h) hloop
      | some mode => exact .bind (h.request_mode mode) hloop
  | readOnce => exact hbracket.hold (h.receives_guarded.strengthen fun _ _ _ => h.known)
  | execute request => exact hbracket.hold (h.dispatch request)

end ArmControl
