import ArmControl.Proofs.Control.Faults

/-!
# Supervision over whole runs

A supervisor is asked for modes and shown readings, in any order. `supervision_over_runs` says what
comes of it. A supervisor cannot hold what its state has no use for, so that some of this is true by
its very form; `ModeMachine` therefore lays the same memory out in four fields, in which it could
go wrong, and is shown to stay in step. `fault_lasts_until_request` is about the end of a fault: no
reading ends it, but any request does, as `request_clears_fault` shows of one run.
-/

namespace ArmControl

namespace Supervisor

/-- The mode that a state reports, and the cycle of that state. -/
structure Reading where
  mode : ReportedMode
  cycle : Nat

/-- What is done to a supervisor. -/
inductive Step
  | request (mode : ControllerMode)
  | observe (reading : Reading)

/-- What is made of a reading. -/
def judge (s : Supervisor) (reading : Reading) : Observation :=
  s.observe reading.mode reading.cycle

/-- The supervisor after one step. -/
def take (s : Supervisor) : Step → Supervisor
  | .request mode => s.request mode
  | .observe reading => (s.judge reading).supervisor

/-- The supervisor after some steps. -/
def after (s : Supervisor) (steps : List Step) : Supervisor := steps.foldl take s

/-- The supervisor after some readings and no request. -/
def shown (s : Supervisor) (readings : List Reading) : Supervisor :=
  s.after (readings.map .observe)

variable {s : Supervisor} {expected : ReportedMode} {fault : ModeMismatch} {reading : Reading}
  {readings before later : List Reading}

theorem after_append (s : Supervisor) (steps further : List Step) :
    s.after (steps ++ further) = (s.after steps).after further :=
  List.foldl_append

theorem shown_cons (s : Supervisor) (reading : Reading) (readings : List Reading) :
    s.shown (reading :: readings) = (s.judge reading).supervisor.shown readings := rfl

theorem shown_append (s : Supervisor) (readings further : List Reading) :
    s.shown (readings ++ further) = (s.shown readings).shown further := by
  unfold shown
  rw [List.map_append, after_append]

/-! ## What readings do -/

/-- No reading ends a fault. -/
theorem faulted_shown (fault : ModeMismatch) (readings : List Reading) :
    (faulted fault).shown readings = faulted fault := by
  induction readings with
  | nil => rfl
  | cons reading rest ih => exact ih

/-- Nothing is made of readings when no mode is enforced. -/
theorem unenforced_shown (readings : List Reading) : unenforced.shown readings = unenforced := by
  induction readings with
  | nil => rfl
  | cons reading rest ih => exact ih

/-- The supervisor was asked for this mode, or has seen it. -/
inductive Expects : Supervisor → ReportedMode → Prop
  | asked (expected : ReportedMode) : Expects (requested expected) expected
  | seen (expected : ReportedMode) : Expects (confirmed expected) expected

/-- The expected mode passes and is confirmed. -/
theorem Expects.judge_same (h : Expects s expected) (hmode : reading.mode = expected) :
    (s.judge reading).supervisor = confirmed expected ∧ (s.judge reading).verdict = .ok () := by
  cases h <;> simp [judge, observe, hmode]

/-- Any other mode is a fault that names both modes and the cycle. -/
theorem Expects.judge_other (h : Expects s expected) (hmode : reading.mode ≠ expected) :
    s.judge reading = fail expected reading.mode reading.cycle := by
  cases h <;> simp [judge, observe, hmode.symm]

/-- What is expected stays so while nothing else is reported. -/
theorem Expects.shown_same (h : Expects s expected)
    (hsame : ∀ earlier ∈ readings, earlier.mode = expected) :
    Expects (s.shown readings) expected := by
  induction readings generalizing s with
  | nil => exact h
  | cons first rest ih =>
      obtain ⟨hfirst, hrest⟩ := List.forall_mem_cons.mp hsame
      rw [shown_cons, (h.judge_same hfirst).1]
      exact ih (.seen expected) hrest

/-- The first reading of another mode decides. -/
theorem Expects.shown_other (h : Expects s expected)
    (hsame : ∀ earlier ∈ before, earlier.mode = expected) (hmode : reading.mode ≠ expected) :
    s.shown (before ++ reading :: later) =
      faulted ⟨expected, reading.mode, reading.cycle⟩ := by
  rw [shown_append, shown_cons, (h.shown_same hsame).judge_other hmode]
  exact faulted_shown _ later

/-- A reading passes when it reports the expected mode and all earlier ones did. -/
theorem Expects.passes_iff (h : Expects s expected) :
    ((s.shown readings).judge reading).verdict = .ok () ↔
      ∀ seen ∈ readings ++ [reading], seen.mode = expected := by
  induction readings generalizing s with
  | nil =>
      by_cases hmode : reading.mode = expected
      · simp [shown, after, (h.judge_same hmode).2, hmode]
      · simp [shown, after, h.judge_other hmode, fail, hmode]
  | cons first rest ih =>
      rw [shown_cons, List.cons_append, List.forall_mem_cons]
      by_cases hfirst : first.mode = expected
      · rw [(h.judge_same hfirst).1, ih (.seen expected)]
        simp [hfirst]
      · rw [h.judge_other hfirst]
        show (((faulted _).shown rest).judge reading).verdict = _ ↔ _
        rw [faulted_shown]
        simp [judge, observe, hfirst]

/-- How a supervisor goes on that expects a mode: it passes readings until the first of another
mode, and repeats that fault ever after. -/
structure Guards (s : Supervisor) (expected : ReportedMode) : Prop where
  passes : ∀ earlier reading, ((s.shown earlier).judge reading).verdict = .ok () ↔
    ∀ seen ∈ earlier ++ [reading], seen.mode = expected
  confirms : ∀ earlier reading, ((s.shown earlier).judge reading).verdict = .ok () →
    ((s.shown earlier).judge reading).supervisor = confirmed expected
  faults : ∀ earlier reading, (∀ seen ∈ earlier, seen.mode = expected) →
    reading.mode ≠ expected →
    ((s.shown earlier).judge reading).verdict =
        .error ⟨expected, reading.mode, reading.cycle⟩ ∧
      ((s.shown earlier).judge reading).supervisor =
        faulted ⟨expected, reading.mode, reading.cycle⟩
  repeats : ∀ earlier reading between last, (∀ seen ∈ earlier, seen.mode = expected) →
    reading.mode ≠ expected →
    ((s.shown (earlier ++ reading :: between)).judge last).verdict =
        .error ⟨expected, reading.mode, reading.cycle⟩ ∧
      ((s.shown (earlier ++ reading :: between)).judge last).supervisor =
        faulted ⟨expected, reading.mode, reading.cycle⟩

theorem Expects.guards (h : Expects s expected) : s.Guards expected where
  passes earlier reading := h.passes_iff
  confirms earlier reading hpass := by
    have hsame := h.passes_iff.mp hpass
    have hearlier : ∀ seen ∈ earlier, seen.mode = expected :=
      fun seen hseen => hsame seen (List.mem_append_left _ hseen)
    exact ((h.shown_same hearlier).judge_same (hsame reading (by simp))).1
  faults earlier reading hsame hmode := by
    rw [(h.shown_same hsame).judge_other hmode]
    exact ⟨rfl, rfl⟩
  repeats earlier reading between last hsame hmode := by
    rw [h.shown_other hsame hmode]
    exact ⟨rfl, rfl⟩

/-- How a supervisor goes on when it is shown readings only. -/
def Conduct : Supervisor → Prop
  | idle false => ∀ earlier reading,
      (((idle false).shown earlier).judge reading).verdict = .ok () ∧
        (((idle false).shown earlier).judge reading).supervisor = idle false
  | idle true => ∀ reading, ((idle true).judge reading).verdict = .ok () ∧
      ((idle true).judge reading).supervisor = confirmed reading.mode ∧
        (confirmed reading.mode).Guards reading.mode
  | requested expected => (requested expected).Guards expected
  | confirmed expected => (confirmed expected).Guards expected
  | faulted fault => ∀ earlier reading,
      (((faulted fault).shown earlier).judge reading).verdict = .error fault ∧
        (((faulted fault).shown earlier).judge reading).supervisor = faulted fault

theorem conduct (s : Supervisor) : s.Conduct := by
  match s with
  | idle false =>
      intro earlier reading
      rw [show (idle false).shown earlier = idle false from unenforced_shown earlier]
      exact ⟨rfl, rfl⟩
  | idle true => exact fun reading => ⟨rfl, rfl, (Expects.seen reading.mode).guards⟩
  | requested expected => exact (Expects.asked expected).guards
  | confirmed expected => exact (Expects.seen expected).guards
  | faulted fault =>
      intro earlier reading
      rw [faulted_shown]
      exact ⟨rfl, rfl⟩

end Supervisor

/-! ## The memory in four fields -/

/-- Where a mode machine is. -/
inductive Stage
  | idle
  | requested
  | confirmed
  | faulted
deriving DecidableEq

/-- A supervisor with its memory in four fields: where it is, the mode that it expects, whether it
takes the first mode when idle, and the fault that it repeats. -/
structure ModeMachine where
  stage : Stage
  expected : Option ReportedMode
  latchFirst : Bool
  fault : Option ModeMismatch

namespace ModeMachine

open Supervisor (Reading Step)

/-- Expects nothing, ever. -/
def unenforced : ModeMachine := ⟨.idle, none, false, none⟩

/-- Expects the mode of the first state. -/
def implied : ModeMachine := { unenforced with latchFirst := true }

/-- Expects another mode from now on; the other two fields stay. -/
def request (m : ModeMachine) (mode : ControllerMode) : ModeMachine :=
  { m with expected := some mode.reported, stage := .requested }

/-- The machine at the start. -/
def start : Enforcement → ModeMachine
  | .unenforced => unenforced
  | .implied => implied
  | .requested mode => unenforced.request mode

/-- What is made of a reading: the machine afterwards, the events, and the verdict. Two branches
let any mode pass: that of a mode to expect that is not there, and that of a fault that is not
there. -/
def judge (m : ModeMachine) (reading : Reading) :
    ModeMachine × List Event × Except ModeMismatch Unit :=
  match m.stage with
  | .idle =>
      if m.latchFirst then
        ({ m with expected := some reading.mode, stage := .confirmed },
          [.modeImplied reading.mode], .ok ())
      else (m, [], .ok ())
  | .requested | .confirmed =>
      match m.expected with
      | some expected =>
          if expected = reading.mode then
            ({ m with stage := .confirmed },
              if m.stage = .requested then [.modeConfirmed reading.cycle reading.mode] else [],
              .ok ())
          else
            let fault : ModeMismatch := ⟨expected, reading.mode, reading.cycle⟩
            ({ m with stage := .faulted, fault := some fault }, [.modeMismatched fault],
              .error fault)
      | none => (m, [], .ok ())
  | .faulted =>
      match m.fault with
      | some fault => (m, [], .error fault)
      | none => (m, [], .ok ())

/-- The machine after one step. -/
def take (m : ModeMachine) : Step → ModeMachine
  | .request mode => m.request mode
  | .observe reading => (m.judge reading).1

/-- The machine after some steps. -/
def after (m : ModeMachine) (steps : List Step) : ModeMachine := steps.foldl take m

/-- The machine is in one of the two branches that let any mode pass. -/
def Silent (m : ModeMachine) : Prop :=
  ((m.stage = .requested ∨ m.stage = .confirmed) ∧ m.expected = none) ∨
    (m.stage = .faulted ∧ m.fault = none)

/-- The fields fit together. -/
structure Intact (m : ModeMachine) : Prop where
  expected : m.expected = none ↔ m.stage = .idle
  fault : m.stage = .faulted → ∃ fault, m.fault = some fault
  heard : ¬ m.Silent

/-- The machine has the memory of the supervisor in its fields. Nothing is said of the fields that
its stage has no use for: a fault may be there that is not repeated any more. -/
def Represents (m : ModeMachine) : Supervisor → Prop
  | .idle latchFirst => m.stage = .idle ∧ m.expected = none ∧ m.latchFirst = latchFirst
  | .requested expected => m.stage = .requested ∧ m.expected = some expected
  | .confirmed expected => m.stage = .confirmed ∧ m.expected = some expected
  | .faulted fault =>
      m.stage = .faulted ∧ m.expected = some fault.expected ∧ m.fault = some fault

variable {m : ModeMachine} {s : Supervisor}

theorem represents_start (enforcement : Enforcement) :
    (start enforcement).Represents enforcement.supervisor := by
  cases enforcement with
  | unenforced | implied => exact ⟨rfl, rfl, rfl⟩
  | requested mode => exact ⟨rfl, rfl⟩

/-- Machine and supervisor make the same of a reading. -/
theorem Represents.judge (h : m.Represents s) (reading : Reading) :
    (m.judge reading).1.Represents (s.judge reading).supervisor ∧
      (m.judge reading).2 = ((s.judge reading).events, (s.judge reading).verdict) := by
  obtain ⟨stage, expected?, latchFirst, fault?⟩ := m
  cases s with
  | idle latch =>
      obtain ⟨rfl, rfl, rfl⟩ := h
      cases latchFirst with
      | false => exact ⟨⟨rfl, rfl, rfl⟩, rfl⟩
      | true => exact ⟨⟨rfl, rfl⟩, rfl⟩
  | requested expected | confirmed expected =>
      obtain ⟨rfl, rfl⟩ := h
      by_cases hmode : expected = reading.mode
      · simp [ModeMachine.judge, Supervisor.judge, Supervisor.observe, Represents, hmode]
      · simp [ModeMachine.judge, Supervisor.judge, Supervisor.observe, Supervisor.fail,
          Represents, hmode]
  | faulted fault =>
      obtain ⟨rfl, rfl, rfl⟩ := h
      exact ⟨⟨rfl, rfl, rfl⟩, rfl⟩

theorem Represents.take (h : m.Represents s) (step : Step) :
    (m.take step).Represents (s.take step) := by
  cases step with
  | request mode => exact ⟨rfl, rfl⟩
  | observe reading => exact (h.judge reading).1

theorem Represents.after (h : m.Represents s) (steps : List Step) :
    (m.after steps).Represents (s.after steps) := by
  induction steps generalizing m s with
  | nil => exact h
  | cons step rest ih => exact ih (h.take step)

theorem Represents.intact (h : m.Represents s) : m.Intact := by
  obtain ⟨stage, expected?, latchFirst, fault?⟩ := m
  cases s with
  | idle latch =>
      obtain ⟨rfl, rfl, rfl⟩ := h
      exact ⟨by simp, by simp, by simp [Silent]⟩
  | requested expected | confirmed expected =>
      obtain ⟨rfl, rfl⟩ := h
      exact ⟨by simp, by simp, by simp [Silent]⟩
  | faulted fault =>
      obtain ⟨rfl, rfl, rfl⟩ := h
      exact ⟨by simp, fun _ => ⟨fault, rfl⟩, by simp [Silent]⟩

/-- No step leads back to the idle stage. -/
theorem idle_of_take {step : Step} (h : (m.take step).stage = .idle) : m.stage = .idle := by
  obtain ⟨stage, expected?, latchFirst, fault?⟩ := m
  cases step with
  | request mode => cases h
  | observe reading =>
      cases stage with
      | idle => rfl
      | requested | confirmed =>
          simp only [ModeMachine.take, ModeMachine.judge] at h
          split at h
          · split at h <;> cases h
          · cases h
      | faulted =>
          simp only [ModeMachine.take, ModeMachine.judge] at h
          split at h <;> cases h

end ModeMachine

namespace Supervisor

/-- Supervision after any start and any steps. The machine with four fields holds what the
supervisor holds, and makes the same of every reading; its fields fit together, and it does not go
back to being idle. Without further requests, the supervisor conducts itself as its state says. -/
theorem supervision_over_runs (enforcement : Enforcement) (steps : List Step) :
    ((ModeMachine.start enforcement).after steps).Represents
        (enforcement.supervisor.after steps) ∧
      (∀ reading, (((ModeMachine.start enforcement).after steps).judge reading).2 =
        (((enforcement.supervisor.after steps).judge reading).events,
          ((enforcement.supervisor.after steps).judge reading).verdict)) ∧
      ((ModeMachine.start enforcement).after steps).Intact ∧
      (∀ step, (((ModeMachine.start enforcement).after steps).take step).stage = .idle →
        ((ModeMachine.start enforcement).after steps).stage = .idle) ∧
      (enforcement.supervisor.after steps).Conduct := by
  have hrepresents := (ModeMachine.represents_start enforcement).after steps
  exact ⟨hrepresents, fun reading => (hrepresents.judge reading).2, hrepresents.intact,
    fun _ hidle => ModeMachine.idle_of_take hidle, conduct _⟩

/-! ## The end of a fault -/

/-- Readings leave a fault as it is and are answered with it, but a request starts over: whatever
was done before, the supervisor is then one that was just asked for that mode, and no old fault
counts for what it makes of the readings that follow. -/
theorem fault_lasts_until_request (fault : ModeMismatch) (readings : List Reading) :
    (faulted fault).shown readings = faulted fault ∧
      (∀ reading, (((faulted fault).shown readings).judge reading).verdict = .error fault) ∧
      ∀ (s : Supervisor) (before : List Step) (mode : ControllerMode),
        s.after (before ++ [.request mode]) = forMode mode ∧
          (s.after (before ++ [.request mode])).Guards mode.reported := by
  refine ⟨faulted_shown fault readings, ?_, ?_⟩
  · intro reading
    rw [faulted_shown]
    rfl
  · intro s before mode
    have hasked : s.after (before ++ [.request mode]) = forMode mode := by
      rw [after_append]
      rfl
    refine ⟨hasked, ?_⟩
    rw [hasked]
    exact (Expects.asked mode.reported).guards

/-- A fault does not outlast a request. -/
theorem request_clears_fault :
    ¬ ∀ (enforcement : Enforcement) (steps : List Step) (step : Step),
      (enforcement.supervisor.after steps).isFaulted = true →
        ((enforcement.supervisor.after steps).take step).isFaulted = true := by
  intro h
  have hcleared := h (.requested .jointImpedance) [.observe ⟨.other, 1⟩] (.request .jointImpedance)
    rfl
  cases hcleared

end Supervisor

end ArmControl
