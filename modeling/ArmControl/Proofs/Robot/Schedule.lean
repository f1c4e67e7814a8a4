import ArmControl.Proofs.Robot.Use
import ArmControl.Proofs.Upkeep

/-!
# How sessions are scheduled

Control sessions and reading sessions go alike: something comes first, then one cycle after another,
and then something is left to do. A `Schedule` says what this is, and `HasSchedule.run_eq` that a
call on a robot is carried out so. `CycleOf` is the relation that a cycle of a session, counted from
zero, leads from one station to another.
-/

namespace ArmControl

variable {σ μ α : Type}

/-- A loop that is under way, in a control session that has come so far, or in a reading session
after some cycles. -/
inductive Loop (σ μ : Type)
  | control (callbacks : Callbacks σ μ) (p : Control.Progress)
  | reading (keepOn : ArmState → Task σ μ Bool) (supervisor : Supervisor) (cycle : Nat)

namespace Loop

/-- One ordinary cycle: it gives the loop from then on, or after the last one what is left to do. -/
def cycle (d : Driver σ) : Loop σ μ → Guarded σ μ (Loop σ μ ⊕ Guarded σ μ Nat)
  | control callbacks p => do
      let (command, p) ← Control.cycle d callbacks p
      if p.finished then pure (.inr (Control.finish d (command, p)))
      else pure (.inl (control callbacks p))
  | reading keepOn supervisor cycle => do
      let state ← Guarded.ofDriver d.receive
      let supervisor ← supervisor.watch state (cycle + 1)
      if ← Guarded.ofTask (keepOn state) then
        pure (.inl (reading keepOn supervisor (cycle + 1)))
      else
        pure (.inr do
          Guarded.ofTask (Task.report (.readingStopped (cycle + 1)))
          pure (cycle + 1))

/-- The loop to its end, for at most `limit` ordinary cycles. -/
def run (d : Driver σ) : (limit : Nat) → Loop σ μ → Guarded σ μ Nat
  | 0, _ => Guarded.halt .unfinished
  | limit + 1, l => do
      match ← l.cycle d with
      | .inl l => run d limit l
      | .inr closing => closing

theorem run_control (d : Driver σ) (callbacks : Callbacks σ μ) (limit : Nat)
    (p : Control.Progress) :
    (control callbacks p).run d limit =
      Control.cycles d callbacks limit p >>= Control.finish d := by
  induction limit generalizing p with
  | zero => rfl
  | succ limit ih =>
      unfold run cycle Control.cycles
      simp only [bind_assoc]
      refine bind_congr fun ⟨command, p⟩ => ?_
      cases p.finished with
      | true => simp only [if_true, pure_bind]
      | false =>
          simp only [Bool.false_eq_true, if_false, pure_bind]
          exact ih p

theorem run_reading (d : Driver σ) (keepOn : ArmState → Task σ μ Bool) (limit : Nat)
    (supervisor : Supervisor) (cycle : Nat) :
    (reading keepOn supervisor cycle).run d limit =
      Reading.states d keepOn limit supervisor cycle := by
  induction limit generalizing supervisor cycle with
  | zero => rfl
  | succ limit ih =>
      unfold run Loop.cycle Reading.states
      simp only [bind_assoc]
      refine bind_congr fun state => bind_congr fun supervisor => bind_congr fun goesOn => ?_
      cases goesOn with
      | true =>
          simp only [if_true, pure_bind]
          exact ih supervisor (cycle + 1)
      | false => simp only [Bool.false_eq_true, if_false, pure_bind]

/-- After `n` ordinary cycles, none of them the last, a loop has become another one, and the
station has changed with it. -/
inductive Reached (d : Driver σ) (l : Loop σ μ) (s : Station σ μ) :
    Nat → Loop σ μ → Station σ μ → Prop
  | start : Reached d l s 0 l s
  | next {n : Nat} {l' l'' : Loop σ μ} {s' s'' : Station σ μ} :
      Reached d l s n l' s' → (l'.cycle d).run s' = .ok (.ok (.inl l'')) s'' →
      Reached d l s (n + 1) l'' s''

end Loop

/-- What a session does first, which gives the supervision, and the loop that it then runs. -/
structure Schedule (σ μ : Type) where
  kind : SessionKind
  opening : Guarded σ μ Supervisor
  loop : Supervisor → Loop σ μ

/-- The session as it is scheduled. -/
def Schedule.run (w : Schedule σ μ) (d : Driver σ) (limit : Nat) :
    Task σ μ (Except RobotError Unit) :=
  Session.hold w.kind <| ExceptT.run do
    let supervisor ← w.opening
    Robot.conclude w.kind ((w.loop supervisor).run d limit)

namespace TaskUse

/-- The loop of a control session from its beginning. -/
def controlLoop (d : Driver σ) (callbacks : Callbacks σ μ) (supervisor : Supervisor) : Loop σ μ :=
  .control callbacks (.start supervisor d.timing.controlPeriod callbacks)

/-- The calls that are sessions with a loop, and how they are scheduled. -/
inductive HasSchedule (r : Robot σ) : TaskUse σ μ Unit → Schedule σ μ → Prop
  | controlTorques (torque : Callback σ μ Torques) :
      HasSchedule r (.controlTorques torque)
        ⟨.control, r.announce .control >>= fun _ => pure r.settings.impliedSupervisor,
          controlLoop r.driver ⟨some torque, none⟩⟩
  | controlTorquesWithMotion (torque : Callback σ μ Torques) (motion : Callback σ μ Target) :
      HasSchedule r (.controlTorquesWithMotion torque motion)
        ⟨.control, r.announce .control >>= fun _ => pure r.settings.impliedSupervisor,
          controlLoop r.driver ⟨some torque, some motion⟩⟩
  | controlMotion (motion : Callback σ μ Target) (mode : ControllerMode) :
      HasSchedule r (.controlMotion motion mode)
        ⟨.motion, r.announce .motion >>= fun _ => r.requestMode mode,
          controlLoop r.driver ⟨none, some motion⟩⟩
  | read (keepOn : ArmState → Task σ μ Bool) :
      HasSchedule r (.read none keepOn) ⟨.read, pure .unenforced, (.reading keepOn · 0)⟩
  | readWithMode (mode : ControllerMode) (keepOn : ArmState → Task σ μ Bool) :
      HasSchedule r (.read (some mode) keepOn) ⟨.read, r.requestMode mode, (.reading keepOn · 0)⟩

/-- A call is carried out as it is scheduled. -/
theorem HasSchedule.run_eq {r : Robot σ} {use : TaskUse σ μ Unit} {w : Schedule σ μ}
    (h : HasSchedule r use w) (limit : Nat) : use.run r limit = w.run r.driver limit := by
  cases h with
  | controlTorques torque =>
      show r.controlTorques limit torque = _
      unfold Schedule.run Robot.controlTorques Robot.controlImplied
      simp only [bind_assoc, pure_bind, controlLoop, Loop.run_control, Control.run_eq]
  | controlTorquesWithMotion torque motion =>
      show r.controlTorquesWithMotion limit torque motion = _
      unfold Schedule.run Robot.controlTorquesWithMotion Robot.controlImplied
      simp only [bind_assoc, pure_bind, controlLoop, Loop.run_control, Control.run_eq]
  | controlMotion motion mode =>
      show r.controlMotion limit motion mode = _
      unfold Schedule.run Robot.controlMotion
      simp only [bind_assoc, controlLoop, Loop.run_control, Control.run_eq]
  | read keepOn =>
      show r.read limit none keepOn = _
      unfold Schedule.run Robot.read
      simp only [pure_bind, Loop.run_reading, Reading.run]
  | readWithMode mode keepOn =>
      show r.read limit (some mode) keepOn = _
      unfold Schedule.run Robot.read
      simp only [Loop.run_reading, Reading.run]

/-- In a session that begins at a station, cycle `n`, counted from zero, leads from one station to
another without a fault. -/
inductive CycleOf (r : Robot σ) (use : TaskUse σ μ Unit) (s : Station σ μ) (n : Nat)
    (s₁ s₂ : Station σ μ) : Prop
  | of {w : Schedule σ μ} {supervisor : Supervisor} {l : Loop σ μ} {s₀ : Station σ μ}
      {next : Loop σ μ ⊕ Guarded σ μ Nat} :
      HasSchedule r use w → w.opening.run (s.acquired w.kind) = .ok (.ok supervisor) s₀ →
      Loop.Reached r.driver (w.loop supervisor) s₀ n l s₁ →
      (l.cycle r.driver).run s₁ = .ok (.ok next) s₂ → CycleOf r use s n s₁ s₂

end TaskUse

end ArmControl
