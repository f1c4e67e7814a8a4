import ArmControl.Proofs.Trace
import Mathlib.Logic.Relation

/-!
# Programs within a session

While a session holds the driver, a program that uses the robot runs to its end, and all that it
can do to the station on its way is listed by `Stir`: change its memory, disturb the line, and have
a call refused. Read `run_busy` first. A callback is such a program, so whatever every stir keeps,
a callback keeps.
-/

namespace ArmControl

variable {σ μ α β : Type}

/-- Running one task after another that ended with a result. -/
theorem bind_of_ok {t : Task σ μ α} {f : α → Task σ μ β} {s s' : Station σ μ} {a : α}
    (h : t s = .ok a s') : (t >>= f) s = f a s' := by
  show EStateM.bind t f s = f a s'
  unfold EStateM.bind
  rw [h]

/-- Nothing comes after a task that halted. -/
theorem bind_of_error {t : Task σ μ α} {f : α → Task σ μ β} {s s' : Station σ μ} {h : Halt}
    (hhalt : t s = .error h s') : (t >>= f) s = .error h s' := by
  show EStateM.bind t f s = .error h s'
  unfold EStateM.bind
  rw [hhalt]

/-- The station after a call that was refused. -/
def Station.refused (kind : SessionKind) (s : Station σ μ) : Station σ μ :=
  { s with
    metrics := { s.metrics with sessionsRejected := s.metrics.sessionsRejected + 1 }
    journal := s.journal.push (.sessionRefused kind) }

/-- One thing that a program can do to the station while a session holds the driver. -/
inductive Stir (r : Robot σ) : Station σ μ → Station σ μ → Prop
  | remember (s : Station σ μ) (memory : μ) : Stir r s { s with memory }
  | inject (s : Station σ μ) (injection : Injection) :
      Stir r s { s with line := r.driver.link.inject injection s.line }
  | refuse (s : Station σ μ) (kind : SessionKind) : Stir r s (s.refused kind)

/-- Things that a program can do one after another. -/
abbrev Stirs (r : Robot σ) : Station σ μ → Station σ μ → Prop :=
  Relation.ReflTransGen (Stir r)

/-- What every stir keeps, any number of them keeps. -/
theorem Stirs.keep {r : Robot σ} {P : Station σ μ → Prop}
    (hstir : ∀ s s', Stir r s s' → P s → P s') {s s' : Station σ μ} (h : Stirs r s s') (hs : P s) :
    P s' := by
  induction h with
  | refl => exact hs
  | tail _ hlast ih => exact hstir _ _ hlast ih

theorem Stir.held {r : Robot σ} {s s' : Station σ μ} (h : Stir r s s') : s'.held = s.held := by
  cases h <;> rfl

/-- A second session is refused, whatever it is for and whatever it would do. -/
theorem hold_busy (kind : SessionKind) (body : Task σ μ (Except RobotError α)) {s : Station σ μ}
    (hheld : s.held = true) :
    Session.hold kind body s = .ok (.error .sessionBusy) (s.refused kind) := by
  have hacquire : Session.acquire kind s = .ok (.error .sessionBusy) (s.refused kind) := by
    show (if s.held then _ else _ : Task σ μ (Except RobotError Unit)) s = _
    rw [hheld]
    rfl
  exact bind_of_ok hacquire

/-- What is done after a refused call comes after one stir. -/
theorem refused_then {r : Robot σ} {kind : SessionKind} {body : Task σ μ (Except RobotError α)}
    {next : Except RobotError α → Task σ μ β} {s : Station σ μ} (hheld : s.held = true)
    (h : ∃ b s', next (.error .sessionBusy) (s.refused kind) = .ok b s' ∧
      Stirs r (s.refused kind) s') :
    ∃ b s', (Session.hold kind body >>= next) s = .ok b s' ∧ Stirs r s s' := by
  obtain ⟨b, s', hnext, hstirs⟩ := h
  exact ⟨b, s', (bind_of_ok (hold_busy kind body hheld)).trans hnext, .head (.refuse s kind) hstirs⟩

/-- A program that is run while a session holds the driver ends with a result, and only stirs. -/
theorem run_busy (r : Robot σ) (limit : Nat) (program : Program μ α) {s : Station σ μ}
    (hheld : s.held = true) :
    ∃ a s', program.run r limit s = .ok a s' ∧ Stirs r s s' := by
  induction program generalizing s with
  | done a => exact ⟨a, s, rfl, .refl⟩
  | recollect next ih => exact ih s.memory hheld
  | remember memory next ih =>
      obtain ⟨a, s', hrun, hstirs⟩ := ih (s := { s with memory }) hheld
      exact ⟨a, s', hrun, .head (.remember s memory) hstirs⟩
  | inject injection next ih =>
      obtain ⟨a, s', hrun, hstirs⟩ :=
        ih (s := { s with line := r.driver.link.inject injection s.line }) hheld
      exact ⟨a, s', hrun, .head (.inject s injection) hstirs⟩
  | inspect next ih => exact ih _ hheld
  -- Every call on the robot is refused before it comes to the callbacks that it was given.
  | controlTorques torque next _ ih => exact refused_then hheld (ih _ hheld)
  | controlTorquesWithMotion torque motion next _ _ ih => exact refused_then hheld (ih _ hheld)
  | controlMotion motion mode next _ ih => exact refused_then hheld (ih _ hheld)
  | read mode keepOn next _ ih => exact refused_then hheld (ih _ hheld)
  | readOnce next ih => exact refused_then hheld (ih _ hheld)
  | execute request next ih => exact refused_then hheld (ih _ hheld)

end ArmControl
