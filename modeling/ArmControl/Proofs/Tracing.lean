import ArmControl.Proofs.Coupling.Session
import ArmControl.Proofs.Robot.Trace

/-!
# Remembering changes nothing

A task over a traced line mirrors a task over the line itself: it gives the same result and leaves
the same station, but for the trace. Read `program_mirrors` first, which says so of every program
that uses a robot, sessions and calls from within callbacks included, and `session_mirrors`. All of
it comes from one coupling, `traced_coupling`.
-/

namespace ArmControl

variable {σ μ α β : Type}

/-- A result on a traced station without the trace. -/
def untracedResult :
    EStateM.Result Halt (Station (Traced σ) μ) α → EStateM.Result Halt (Station σ μ) α
  | .ok a s => .ok a s.untraced
  | .error h s => .error h s.untraced

/-- The first task does what the second does, when the trace is left out of account. -/
def Mirrors (t : Task (Traced σ) μ α) (u : Task σ μ α) : Prop :=
  ∀ s, untracedResult (t s) = u s.untraced

/-- A traced station goes with the station that it is without its trace. -/
def Untraces (s : Station (Traced σ) μ) (s' : Station σ μ) : Prop := s.untraced = s'

theorem mirrors_iff {t : Task (Traced σ) μ α} {u : Task σ μ α} :
    Mirrors t u ↔ Coupled (fun _ => Untraces) Untraces t u fun _ => Untraces := by
  constructor
  · intro h s s' hs
    obtain rfl : s.untraced = s' := hs
    have hrun := h s
    cases htraced : t s with
    | ok a s₁ =>
        rw [htraced] at hrun
        exact .inl ⟨a, s₁, s₁.untraced, rfl, hrun.symm, rfl⟩
    | error cause s₁ =>
        rw [htraced] at hrun
        exact .inr ⟨cause, s₁, s₁.untraced, rfl, hrun.symm, rfl⟩
  · intro h s
    rcases h s s.untraced rfl with
      ⟨a, s₁, s₁', hrun, hrun', hs⟩ | ⟨cause, s₁, s₁', hrun, hrun', hs⟩
    · obtain rfl : s₁.untraced = s₁' := hs
      rw [hrun, hrun']
      rfl
    · obtain rfl : s₁.untraced = s₁' := hs
      rw [hrun, hrun']
      rfl

/-- An operation that is remembered gives what the operation gives. -/
theorem exchanges_perform (call : Answer α → Call) (operation : σ → LinkStep σ α) :
    Exchanges (μ := μ) Untraces (Traced.perform call operation) operation := by
  intro s s' hs
  obtain rfl : s.untraced = s' := hs
  exact ⟨rfl, rfl⟩

/-- A driver over a traced line goes with the driver over the line itself. -/
theorem traced_coupling (d : Driver σ) :
    Coupling d.traced d (Untraces (μ := μ)) fun _ => Untraces where
  timing := rfl
  receive _ := exchanges_perform _ _
  send _ := exchanges_perform _ _
  request _ _ := exchanges_perform _ _
  count _ := congrArg (Station.counted _)
  report events _ _ := congrArg (Station.reported events)
  publish state _ _ := congrArg (Station.published state)
  report_known events _ _ _ := congrArg (Station.reported events)
  known h := h

theorem traced_bracket (kind : SessionKind) :
    Bracket (σ := Traced σ) (μ := μ) kind (fun _ => Untraces) Untraces Untraces Untraces where
  held h := (congrArg Station.held h).symm
  refuse h _ := congrArg (Station.refused kind) h
  acquire h _ := congrArg (Station.acquired kind) h
  release := congrArg (Station.released kind)
  overflow := congrArg (Station.released kind)
  unfinished h := h

namespace Mirrors

theorem pure (a : α) : Mirrors (σ := σ) (μ := μ) (Pure.pure a) (Pure.pure a) := fun _ => rfl

theorem bind {t : Task (Traced σ) μ α} {u : Task σ μ α} {f : α → Task (Traced σ) μ β}
    {g : α → Task σ μ β} (ht : Mirrors t u) (hf : ∀ a, Mirrors (f a) (g a)) :
    Mirrors (t >>= f) (u >>= g) :=
  mirrors_iff.mpr <| .bind (mirrors_iff.mp ht) fun a => mirrors_iff.mp (hf a)

/-- Reading the station is mirrored when all that is done with it is. -/
theorem get_bind {f : Station (Traced σ) μ → Task (Traced σ) μ α} {g : Station σ μ → Task σ μ α}
    (h : ∀ s, Mirrors (f s) (g s.untraced)) : Mirrors (get >>= f) (get >>= g) :=
  fun s => h s s

/-- A change of the station is mirrored by one that commutes with leaving out the trace. -/
theorem modify {f : Station (Traced σ) μ → Station (Traced σ) μ} {g : Station σ μ → Station σ μ}
    (h : ∀ s, (f s).untraced = g s.untraced) : Mirrors (modify f) (modify g) :=
  fun s => congrArg (EStateM.Result.ok ()) (h s)

variable (d : Driver σ)

theorem receive : Mirrors (μ := μ) d.traced.receive d.receive :=
  mirrors_iff.mpr <| (traced_coupling d).receives.mono (fun _ _ h => h)
    (fun answer _ _ h => by cases answer <;> exact h) fun _ _ _ h => h

theorem send (c : Command) : Mirrors (μ := μ) (d.traced.send c) (d.send c) :=
  mirrors_iff.mpr ((traced_coupling d).sends c)

theorem execute (q : Request) : Mirrors (μ := μ) (d.traced.execute q) (d.execute q) :=
  mirrors_iff.mpr ((traced_coupling d).executes q)

end Mirrors

/-- A call is mirrored when its callbacks are. -/
theorem use_mirrors (r : Robot σ) (limit : Nat) {use : TaskUse (Traced σ) μ α}
    {use' : TaskUse σ μ α} (h : UseCoupled Untraces (fun _ => Untraces) use use') :
    Mirrors (use.run r.traced limit) (use'.run r limit) :=
  mirrors_iff.mpr <|
    use_coupled r.traced r (traced_coupling r.driver) rfl rfl h (traced_bracket use.kind) limit

/-- A program behaves on a traced line as on the line itself. -/
theorem program_mirrors (r : Robot σ) (limit : Nat) (program : Program μ α) :
    Mirrors (program.run r.traced limit) (program.run r limit) := by
  induction program using Program.induction_calls with
  | done a => exact .pure a
  | recollect next ih => exact .bind (.get_bind fun s => .pure _) ih
  | remember memory next ih => exact .bind (.modify fun _ => rfl) fun _ => ih
  | inject injection next ih => exact .bind (.modify fun _ => rfl) fun _ => ih
  | inspect next ih => exact .bind (.get_bind fun s => .pure _) ih
  | call use next iheach ih =>
      rw [Program.run_call, Program.run_call]
      exact .bind (use_mirrors r limit (.of_each iheach fun _ h _ => mirrors_iff.mp h)) ih

/-! ## Callbacks that are remembered -/

/-- A task that is remembered goes with the task alone. -/
theorem untraces_noting (call : α → Call) {t : Task (Traced σ) μ α} {u : Task σ μ α}
    (h : Coupled (fun _ => Untraces) Untraces t u fun _ => Untraces) :
    Coupled (fun _ => Untraces) Untraces (t.noting call) u fun _ => Untraces := by
  rw [← bind_pure u]
  refine .bind h fun answer s s' hs => ?_
  exact .inl ⟨answer, _, s', rfl, rfl, hs⟩

namespace Control

theorem scripted_calls (r : Robot σ) (limit : Nat)
    (call : ArmState → Duration → Except String (Flow α) → Call)
    (script : Option (ArmState → Duration → Program μ (Except String (Flow α)))) :
    CallsCoupled Untraces (fun _ => Untraces)
      (script.map fun script =>
        Scripts.noting call fun state period => (script state period).run r.traced limit)
      (script.map fun script state period => (script state period).run r limit) := by
  cases script with
  | none => exact .none
  | some script =>
      refine .some fun state period => untraces_noting (call state period) ?_
      exact mirrors_iff.mp (program_mirrors r limit (script state period))

/-- Remembering the calls of a session changes neither its result nor its station. -/
theorem session_mirrors (r : Robot σ) (supervisor : Supervisor) (scripts : Scripts μ)
    (limit : Nat) :
    Mirrors (tracedSession r supervisor scripts limit) (session r supervisor scripts limit) := by
  have hcalls : CallbacksCoupled Untraces (fun _ => Untraces) (scripts.traced r limit)
      (scripts.callbacks r limit) := ⟨scripted_calls r limit _ _, scripted_calls r limit _ _⟩
  have hrun := (traced_coupling r.driver).control_run hcalls supervisor limit
  exact mirrors_iff.mpr <| hrun.mono (fun _ _ h => h)
    (fun answer _ _ h => by cases answer <;> exact h) fun _ _ _ h => h

end Control

/-- The result of a call can be read off the call over a traced line. -/
theorem use_untraced (r : Robot σ) (limit : Nat) (use : ProgramUse μ α) (s : Station σ μ) :
    use.run r limit s = untracedResult (use.traced r limit s.traced) := by
  have hprograms : UseCoupled Untraces (fun _ => Untraces)
      (use.mapTask (Program.run r.traced limit)) (use.mapTask (Program.run r limit)) :=
    .of_each (use.each_of_forall fun program => program_mirrors r limit program) fun _ h _ =>
      mirrors_iff.mp h
  have huse : UseCoupled Untraces (fun _ => Untraces)
      (use.mapTask (Program.run r.traced limit)).noting (use.mapTask (Program.run r limit)) := by
    rw [← RobotUse.map_id (use.mapTask (Program.run r limit))]
    exact hprograms.map (fun h state period => untraces_noting _ (h state period))
      (fun h state period => untraces_noting _ (h state period))
      fun h state => untraces_noting _ (h state)
  exact (use_mirrors r limit huse s.traced).symm

/-- So can the station in which a call ends. -/
theorem use_after (r : Robot σ) (limit : Nat) (use : ProgramUse μ α) (s : Station σ μ) :
    (use.run r limit).after s = (Task.after (use.traced r limit) s.traced).untraced := by
  unfold Task.after
  rw [use_untraced]
  cases use.traced r limit s.traced <;> rfl

/-! ## Two traces -/

section Pairs

variable {σ' μ' : Type} {R : Pairing (Traced σ) μ (Traced σ') μ'}

/-- Callbacks that go in step still do so when they are remembered. -/
theorem use_coupled_noting {A : ArmState → Pairing (Traced σ) μ (Traced σ') μ'}
    (hnoted : ∀ call {state s s'}, A state s s' → A state (s.noted call) (s'.noted call))
    {use : TaskUse (Traced σ) μ α} {use' : TaskUse (Traced σ') μ' α} (h : UseCoupled R A use use') :
    UseCoupled R A use.noting use'.noting := by
  have hnoting {β : Type} {t : Task (Traced σ) μ β} {t' : Task (Traced σ') μ' β} {state : ArmState}
      (call : β → Call) (ht : Coupled (fun _ => R) (A state) t t' fun _ => A state) :
      Coupled (fun _ => R) (A state) (t.noting call) (t'.noting call) fun _ => A state :=
    .bind ht fun answer => .bind (.modify fun _ _ => hnoted (call answer)) fun _ =>
      .pure fun _ _ hs => hs
  exact h.map (fun h state period => hnoting _ (h state period))
    (fun h state period => hnoting _ (h state period)) fun h state => hnoting _ (h state)

/-- Uses that go in step over traced lines make the same calls and end alike. -/
theorem trace_eq_and_alike {r : Robot σ} {r' : Robot σ'} {limit : Nat} {use : ProgramUse μ α}
    {use' : ProgramUse μ' α} {P : Pairing (Traced σ) μ (Traced σ') μ'} {Q : Pairing σ μ σ' μ'}
    (h : Coupled (fun _ => R) P (use.traced r limit) (use'.traced r' limit) fun _ => R)
    (htrace : ∀ {s s'}, R s s' → s.line.trace = s'.line.trace)
    (huntraced : ∀ {s s'}, R s s' → Q s.untraced s'.untraced) {s : Station σ μ}
    {s' : Station σ' μ'} (hs : P s.traced s'.traced) :
    use.trace r limit s = use'.trace r' limit s' ∧
      Alike Q (use.run r limit s) (use'.run r' limit s') := by
  have hends := h.alike hs
  rw [use_untraced r limit use s, use_untraced r' limit use' s']
  unfold ProgramUse.trace Task.after
  generalize use.traced r limit s.traced = result at hends ⊢
  generalize use'.traced r' limit s'.traced = result' at hends ⊢
  cases hends with
  | ok a hr => exact ⟨htrace hr, .ok a (huntraced hr)⟩
  | error cause hr => exact ⟨htrace hr, .error cause (huntraced hr)⟩

end Pairs

end ArmControl
