import ArmControl.Proofs.Control.Departure
import ArmControl.Proofs.Tracing
import ArmControl.Proofs.Upkeep

/-!
# Enforcement only cuts a session short

A session with torques is run twice, once with the implied mode enforced and once without. The two
runs go in step until the enforced one, if ever, ends with a fault of the mode; what the other one
does from then on only adds to its calls. `Curtails` says this of two computations, and
`enforcement_only_curtails` is the main theorem: the fault comes with the first state in another
mode than the first state of all, and without such a state there is no difference.
-/

namespace ArmControl

variable {σ μ α β : Type}

/-! ## Stations that differ in their logs -/

/-- The station with an empty log. -/
def Station.unlogged (s : Station σ μ) : Station σ μ := { s with journal := #[] }

/-- Two stations that differ in their logs only. -/
abbrev Unlogged (s s' : Station σ μ) : Prop := s.unlogged = s'.unlogged

/-- Two stations that differ in their logs only, while a session runs on both. -/
structure Twins (s s' : Station σ μ) : Prop where
  unlogged : Unlogged s s'
  held : s.held = true

section Twins

variable {s s' : Station σ μ}

/-- A change that the log does not matter for is the same on both. -/
theorem Unlogged.changed (h : Unlogged s s') (change : Station σ μ → Station σ μ)
    (hchange : ∀ s : Station σ μ, (change s).unlogged = (change s.unlogged).unlogged) :
    Unlogged (change s) (change s') := by
  show (change s).unlogged = (change s').unlogged
  rw [hchange s, hchange s', h]

theorem Unlogged.line (h : Unlogged s s') : s.line = s'.line := by
  show s.unlogged.line = s'.unlogged.line
  rw [h]

theorem Unlogged.held (h : Unlogged s s') : s'.held = s.held := by
  show s'.unlogged.held = s.unlogged.held
  rw [h]

theorem Unlogged.memory (h : Unlogged s s') : s.memory = s'.memory := by
  show s.unlogged.memory = s'.unlogged.memory
  rw [h]

theorem Unlogged.view (h : Unlogged s s') (r : Robot σ) : s.view r = s'.view r := by
  show s.unlogged.view r = s'.unlogged.view r
  rw [h]

theorem Unlogged.untraced {s s' : Station (Traced σ) μ} (h : Unlogged s s') :
    Unlogged s.untraced s'.untraced := by
  show s.unlogged.untraced = s'.unlogged.untraced
  rw [h]

theorem Twins.held' (h : Twins s s') : s'.held = true := h.unlogged.held.trans h.held

theorem twins_exchange (operation : σ → LinkStep σ α) :
    Exchanges (μ := μ) Twins operation operation := by
  intro s s' h
  have hline := h.unlogged.line
  exact ⟨by rw [hline], h.unlogged.changed _ fun _ => rfl, h.held⟩

/-- A driver does not look at the log. -/
theorem twins_coupling (d : Driver σ) : Coupling (μ := μ) d d Twins fun _ => Twins where
  timing := rfl
  receive _ := twins_exchange _
  send _ := twins_exchange _
  request _ _ := twins_exchange _
  count _ _ _ h := ⟨h.unlogged.changed _ fun _ => rfl, h.held⟩
  report _ _ _ h := ⟨h.unlogged, h.held⟩
  publish _ _ _ h := ⟨h.unlogged.changed _ fun _ => rfl, h.held⟩
  report_known _ _ _ _ h := ⟨h.unlogged, h.held⟩
  known h := h

/-- Within a session a program does not look at the log or at the settings. -/
theorem program_twins {r r' : Robot σ} (hdriver : r'.driver = r.driver) (limit : Nat)
    {E : Halt → Pairing σ μ σ μ} (program : Program μ α) :
    Coupled E Twins (program.run r limit) (program.run r' limit) fun _ => Twins := by
  induction program using Program.induction_calls with
  | done a => exact .pure fun _ _ h => h
  | recollect next ih =>
      intro s s' h
      rw [Program.run_recollect, Program.run_recollect, h.unlogged.memory]
      exact ih s'.memory s s' h
  | remember memory next ih =>
      intro s s' h
      exact ih _ _ ⟨h.unlogged.changed (fun s => { s with memory }) fun _ => rfl, h.held⟩
  | inject injection next ih =>
      intro s s' h
      refine ih _ _ ⟨?_, h.held⟩
      rw [hdriver]
      exact h.unlogged.changed
        (fun s => { s with line := r.driver.link.inject injection s.line }) fun _ => rfl
  | inspect next ih =>
      intro s s' h
      have hview : s'.view r' = s'.view r := by
        unfold Station.view
        rw [hdriver]
      rw [Program.run_inspect, Program.run_inspect, hview, h.unlogged.view r]
      exact ih (s'.view r) s s' h
  | call use next _ ih =>
      intro s s' h
      rw [Program.run_call, Program.run_call, bind_of_ok (use.run_busy r limit h.held),
        bind_of_ok (use.run_busy r' limit h.held')]
      exact ih _ _ _ ⟨h.unlogged.changed (Station.refused use.kind) fun _ => rfl, h.held⟩

end Twins

/-! ## Calls that are only added to -/

/-- These were the first calls of a session that still runs. -/
abbrev Extends (calls : List Call) : Invariant (Traced σ) μ := Along fun t => calls <+: t.trace

/-- A driver only adds to the calls. -/
theorem extends_upkeep (calls : List Call) (d : Driver σ) :
    Upkeep (μ := μ) d.traced (Extends calls) :=
  along_upkeep d.traced (fun _ ht => ht.trans (List.prefix_append _ _))
    (fun _ _ _ ht => ht.trans (List.prefix_append _ _))
    fun _ _ ht => ht.trans (List.prefix_append _ _)

/-- A callback that is remembered adds one call. -/
theorem extends_noted {call : α → Call} {t : Task (Traced σ) μ α} (h : Noted call t)
    (calls : List Call) : Maintains (Extends calls none) t := by
  intro s hs
  obtain ⟨a, s', hrun, hshows⟩ := h s hs.1
  unfold Task.after
  rw [hrun]
  refine ⟨hshows.held.trans hs.1, ?_⟩
  show calls <+: s'.line.trace
  rw [hshows.trace]
  exact hs.2.trans (List.prefix_append _ _)

/-! ## Going in step until a fault of the mode -/

/-- What two computations came to of which the first may have been cut short by a fault of the mode.
If it was not, they came to the same, with values related by `V`. -/
inductive Curtail (V : α → β → Prop) :
    EStateM.Result Halt (Station (Traced σ) μ) (Except RobotError α) →
      EStateM.Result Halt (Station (Traced σ) μ) (Except RobotError β) → Prop
  | value {a : α} {b : β} {s s' : Station (Traced σ) μ} :
      V a b → Twins s s' → Curtail V (.ok (.ok a) s) (.ok (.ok b) s')
  | fault (error : RobotError) {s s' : Station (Traced σ) μ} :
      Twins s s' → Curtail V (.ok (.error error) s) (.ok (.error error) s')
  | halt (cause : Halt) {s s' : Station (Traced σ) μ} :
      Twins s s' → Curtail V (.error cause s) (.error cause s')
  | cut (fault : ModeMismatch) {s : Station (Traced σ) μ}
      {result : EStateM.Result Halt (Station (Traced σ) μ) (Except RobotError β)} :
      Settled (Extends s.line.trace) result → Curtail V (.ok (.error (.control fault)) s) result

/-- The first computation goes in step with the second one, unless it is cut short. -/
def Curtails (V : α → β → Prop) (m : Guarded (Traced σ) μ α) (m' : Guarded (Traced σ) μ β) : Prop :=
  ∀ s s', Twins s s' → Curtail V (m.run s) (m'.run s')

namespace Curtails

variable {γ δ : Type} {V : α → β → Prop} {W : γ → δ → Prop} {m : Guarded (Traced σ) μ α}
  {m' : Guarded (Traced σ) μ β} {f : α → Guarded (Traced σ) μ γ} {f' : β → Guarded (Traced σ) μ δ}

theorem pure {a : α} {b : β} (h : V a b) :
    Curtails (σ := σ) (μ := μ) V (Pure.pure a) (Pure.pure b) :=
  fun _ _ hs => .value h hs

theorem fail (error : RobotError) :
    Curtails (σ := σ) (μ := μ) V (Guarded.fail error) (Guarded.fail error) :=
  fun _ _ hs => .fault error hs

theorem halt (cause : Halt) :
    Curtails (σ := σ) (μ := μ) V (Guarded.halt cause) (Guarded.halt cause) :=
  fun _ _ hs => .halt cause hs

/-- After the first computation was cut short, the second one may still go on. -/
theorem bind (hm : Curtails V m m') (hf : ∀ a b, V a b → Curtails W (f a) (f' b))
    (hrest : ∀ calls b, Settles (Extends calls) (f' b)) : Curtails W (m >>= f) (m' >>= f') := by
  intro s s' hs
  have hends := hm s s' hs
  have hafter (calls : List Call) (h : Settled (Extends calls) (m'.run s')) :
      Settled (Extends calls) ((m' >>= f').run s') := Settles.after h (hrest calls)
  rw [Guarded.run_bind m f, Guarded.run_bind m' f'] at *
  generalize m.run s = left at hends ⊢
  generalize m'.run s' = right at hends hafter ⊢
  cases hends with
  | value hv hs₁ => exact hf _ _ hv _ _ hs₁
  | fault error hs₁ => exact .fault error hs₁
  | halt cause hs₁ => exact .halt cause hs₁
  | cut fault hsettled => exact .cut fault (hafter _ hsettled)

/-- What both computations do alike comes first. -/
theorem after {m m' : Guarded (Traced σ) μ α} {f : α → Guarded (Traced σ) μ γ}
    {f' : α → Guarded (Traced σ) μ δ} (hm : Guarded.Coupled Twins Twins m m' fun _ => Twins)
    (hf : ∀ a, Curtails W (f a) (f' a)) : Curtails W (m >>= f) (m' >>= f') := by
  intro s s' hs
  rw [Guarded.run_bind m f, Guarded.run_bind m' f']
  rcases hm s s' hs with ⟨answer, s₁, s₁', hrun, hrun', hs₁⟩ | ⟨cause, s₁, s₁', hrun, hrun', hs₁⟩
  · rw [hrun, hrun']
    cases answer with
    | ok a => exact hf a s₁ s₁' hs₁
    | error error => exact .fault error hs₁
  · rw [hrun, hrun']
    exact .halt cause hs₁

end Curtails

/-! ## Loops -/

/-- A supervisor that expects the mode of the first state, before that state or after it. -/
inductive Supervisor.Latching : Supervisor → Prop
  | implied : Latching .implied
  | confirmed (mode : ReportedMode) : Latching (.confirmed mode)

namespace Control

/-- The same progress with the implied mode enforced and without. -/
inductive Leads : Progress → Progress → Prop
  | of {p : Progress} : p.supervisor.Latching → Leads p { p with supervisor := .unenforced }

/-- The same value together with the same progress. -/
inductive LeadsAfter {γ : Type} : γ × Progress → γ × Progress → Prop
  | of (c : γ) {p p' : Progress} : Leads p p' → LeadsAfter (c, p) (c, p')

end Control

/-- Judging a state is where the enforced session may be cut short. -/
theorem watch_curtails {supervisor : Supervisor} (h : supervisor.Latching) (state : ArmState)
    (cycle : Nat) :
    Curtails (σ := σ) (μ := μ)
      (fun supervisor supervisor' => supervisor.Latching ∧ supervisor' = Supervisor.unenforced)
      (supervisor.watch state cycle) (Supervisor.unenforced.watch state cycle) := by
  have hreport (events events' : List Event) :
      Guarded.Coupled (σ := Traced σ) (μ := μ) Twins Twins (Guarded.ofTask (Task.reportAll events))
        (Guarded.ofTask (Task.reportAll events')) fun _ => Twins :=
    .of_task (.modify fun _ _ hs => ⟨hs.unlogged, hs.held⟩)
  cases h with
  | implied => exact .after (hreport _ _) fun _ => .pure ⟨.confirmed _, rfl⟩
  | confirmed mode =>
      unfold Supervisor.watch
      by_cases hmode : mode = state.controllerMode
      · have hobserve : (Supervisor.confirmed mode).observe state.controllerMode cycle =
            ⟨.confirmed mode, [], .ok ()⟩ := if_pos hmode
        rw [hobserve]
        exact .after (hreport _ _) fun _ => .pure ⟨.confirmed mode, rfl⟩
      · have hobserve : (Supervisor.confirmed mode).observe state.controllerMode cycle =
            Supervisor.fail mode state.controllerMode cycle := if_neg hmode
        rw [hobserve]
        intro s s' hs
        refine .cut ⟨mode, state.controllerMode, cycle⟩ ⟨hs.held', ?_⟩
        show s.line.trace <+: s'.line.trace
        exact hs.unlogged.line ▸ List.prefix_rfl

theorem next_state_curtails (d : Driver σ) {p p' : Control.Progress} (h : Control.Leads p p') :
    Curtails (μ := μ) Control.LeadsAfter (Control.nextState d.traced p)
      (Control.nextState d.traced p') := by
  cases h with | of hlatching
  have hcoupling := twins_coupling (μ := μ) d.traced
  refine .after hcoupling.receives_guarded fun state => ?_
  refine .bind (watch_curtails hlatching state _) (fun supervisor supervisor' hv => ?_)
    fun calls supervisor => ?_
  · obtain ⟨hlatching, rfl⟩ := hv
    dsimp only
    cases p.clock.tick state.time with
    | overflow => exact .halt _
    | stalled previous => exact .fail _
    | advanced period clock =>
        exact .after (.of_task (hcoupling.report_one _)) fun _ => .pure (.of _ (.of hlatching))
  · have hupkeep := extends_upkeep (μ := μ) calls d
    dsimp only
    cases p.clock.tick state.time with
    | overflow => exact .halt _
    | stalled previous => exact .fail fun s hs => hs
    | advanced period clock =>
        exact .bind (.of_task (hupkeep.report_one _)) fun _ => .pure _

section Loops

variable {d : Driver σ} {callbacks callbacks' : Callbacks (Traced σ) μ}
  (hcalls : CallbacksCoupled Twins (fun _ => Twins) callbacks callbacks')
  (hanswering : Control.Answering callbacks')

include hcalls

theorem respond_curtails {next next' : Control.Cycle × Control.Progress}
    (h : Control.LeadsAfter next next') :
    Curtails Control.LeadsAfter (Control.respond d.traced callbacks next)
      (Control.respond d.traced callbacks' next') := by
  obtain ⟨now, ⟨hlatching⟩⟩ := h
  have hcoupling := twins_coupling (μ := μ) d.traced
  refine .after (hcoupling.turn _ _ hcalls.torque _ _ _) fun torque => ?_
  refine .after (hcoupling.turn _ _ hcalls.motion _ _ _) fun motion => ?_
  exact .after (hcoupling.sends_guarded _) fun _ => .pure (.of _ (.of hlatching))

include hanswering

omit hcalls in
/-- The callbacks only add to the calls. -/
theorem callbacks_extend (calls : List Call) :
    (∀ call ∈ callbacks'.torque, ∀ state period,
        Maintains (Extends calls none) (call state period)) ∧
      ∀ call ∈ callbacks'.motion, ∀ state period,
        Maintains (Extends calls none) (call state period) :=
  ⟨fun call hmem state period => extends_noted (hanswering.torque call hmem state period) calls,
    fun call hmem state period => extends_noted (hanswering.motion call hmem state period) calls⟩

theorem cycles_curtail (limit : Nat) {p p' : Control.Progress} (h : Control.Leads p p') :
    Curtails Control.LeadsAfter (Control.cycles d.traced callbacks limit p)
      (Control.cycles d.traced callbacks' limit p') := by
  induction limit generalizing p p' with
  | zero => exact .halt _
  | succ limit ih =>
      have hcycle : Curtails Control.LeadsAfter (Control.cycle d.traced callbacks p)
          (Control.cycle d.traced callbacks' p') := by
        refine .bind (next_state_curtails d h) (fun _ _ => respond_curtails hcalls)
          fun calls next => ?_
        obtain ⟨htorque, hmotion⟩ := callbacks_extend hanswering calls
        exact (extends_upkeep calls d).respond htorque hmotion next
      refine .bind hcycle (fun cycled cycled' hcycled => ?_) fun calls cycled => ?_
      · obtain @⟨command, p, _, hleads⟩ := hcycled
        obtain ⟨hlatching⟩ := hleads
        show Curtails _ (if p.finished then _ else _) (if p.finished then _ else _)
        cases p.finished with
        | true => exact .pure (.of _ (.of hlatching))
        | false => exact ih (.of hlatching)
      · obtain ⟨htorque, hmotion⟩ := callbacks_extend hanswering calls
        obtain ⟨command, p⟩ := cycled
        dsimp only
        cases p.finished with
        | true => exact .pure _
        | false => exact (extends_upkeep calls d).cycles htorque hmotion limit p

/-- The loop of a control session. -/
theorem control_run_curtails (limit : Nat) :
    Curtails (fun n n' => n' = n) (Control.run d.traced .implied callbacks limit)
      (Control.run d.traced .unenforced callbacks' limit) := by
  have hcoupling := twins_coupling (μ := μ) d.traced
  have hstart : Control.Leads (.start .implied d.traced.timing.controlPeriod callbacks)
      (.start .unenforced d.traced.timing.controlPeriod callbacks') := by
    have hsame : Control.Progress.start .unenforced d.traced.timing.controlPeriod callbacks' =
        { Control.Progress.start .implied d.traced.timing.controlPeriod callbacks with
          supervisor := .unenforced } := by
      simp only [Control.Progress.start, hcalls.torque.is_some, hcalls.motion.is_some]
    rw [hsame]
    exact .of .implied
  rw [Control.run_eq, Control.run_eq]
  refine .bind (cycles_curtail hcalls hanswering limit hstart) (fun cycled cycled' hcycled => ?_)
    fun calls => (extends_upkeep calls d).finish
  obtain ⟨command, hleads⟩ := hcycled
  obtain ⟨hlatching⟩ := hleads
  refine .after (.of_task (hcoupling.report_one _)) fun _ => ?_
  refine .bind (next_state_curtails d (.of hlatching)) (fun next next' hnext => ?_)
    fun calls next => ?_
  · obtain ⟨now, hleads⟩ := hnext
    obtain ⟨-⟩ := hleads
    exact .after (hcoupling.sends_guarded _) fun _ => .pure rfl
  · exact .bind ((extends_upkeep calls d).send_command _) fun _ => .pure _

end Loops

/-! ## Sessions -/

/-- A loop that was cut short is reported as such, and the other one as it ended. -/
theorem conclude_curtails (d : Driver σ) (kind : SessionKind)
    {loop loop' : Guarded (Traced σ) μ Nat} (h : Curtails (fun n n' => n' = n) loop loop') :
    Curtails (fun _ _ => True) (Robot.conclude kind loop) (Robot.conclude kind loop') := by
  intro s s' hs
  have hends := h s s' hs
  have hafter (calls : List Call) (hsettled : Settled (Extends calls) (loop'.run s')) :
      Settled (Extends calls) ((Robot.conclude kind loop').run s') :=
    (extends_upkeep calls d).after_loop kind hsettled
  rw [Robot.run_conclude kind loop, Robot.run_conclude kind loop'] at *
  generalize loop.run s = left at hends ⊢
  generalize loop'.run s' = right at hends hafter ⊢
  cases hends with
  | value hv ht => exact .value trivial ⟨ht.unlogged, ht.held⟩
  | fault error ht => exact .fault error ⟨ht.unlogged, ht.held⟩
  | halt cause ht => exact .halt cause ht
  | cut fault hsettled => exact .cut fault (hafter _ hsettled)

/-- Two runs of which the first may have been cut short by a fault of the mode. -/
inductive Curbed : EStateM.Result Halt (Station (Traced σ) μ) (Except RobotError α) →
    EStateM.Result Halt (Station (Traced σ) μ) (Except RobotError α) → Prop
  | alike {result result' : EStateM.Result Halt (Station (Traced σ) μ) (Except RobotError α)} :
      Alike Unlogged result result' → Curbed result result'
  | cut (fault : ModeMismatch) {s : Station (Traced σ) μ}
      {result : EStateM.Result Halt (Station (Traced σ) μ) (Except RobotError α)} :
      Settled (fun _ s' => s.line.trace <+: s'.line.trace) result →
      Curbed (.ok (.error (.control fault)) s) result

/-- A session whose loop may be cut short. -/
theorem Curtails.hold {m m' : Guarded (Traced σ) μ Unit}
    (h : Curtails (fun _ _ => True) m m') (kind : SessionKind) {s s' : Station (Traced σ) μ}
    (hs : Unlogged s s') : Curbed (Session.hold kind m.run s) (Session.hold kind m'.run s') := by
  have hheld := hs.held
  cases hfree : s.held with
  | true =>
      rw [hfree] at hheld
      rw [hold_busy kind m.run hfree, hold_busy kind m'.run hheld]
      exact .alike (.ok _ (hs.changed (Station.refused kind) fun _ => rfl))
  | false =>
      rw [hfree] at hheld
      rw [hold_free kind m.run hfree, hold_free kind m'.run hheld]
      have hends := h (s.acquired kind) (s'.acquired kind)
        ⟨hs.changed (Station.acquired kind) fun _ => rfl, rfl⟩
      unfold Session.releasing
      generalize m.run (s.acquired kind) = left at hends ⊢
      generalize m'.run (s'.acquired kind) = right at hends ⊢
      have hreleased {t t' : Station (Traced σ) μ} (ht : Twins t t') :
          Unlogged (t.released kind) (t'.released kind) :=
        ht.unlogged.changed (Station.released kind) fun _ => rfl
      cases hends with
      | value _ ht => exact .alike (.ok _ (hreleased ht))
      | fault error ht => exact .alike (.ok _ (hreleased ht))
      | halt cause ht =>
          cases cause with
          | clockOverflow => exact .alike (.error _ (hreleased ht))
          | unfinished => exact .alike (.error _ ht.unlogged)
      | @cut fault t _ hsettled =>
          refine .cut (s := t.released kind) fault ?_
          cases right with
          | ok answer t' => cases answer <;> exact hsettled.2
          | error cause t' => cases cause <;> exact hsettled.2

/-! ## The main theorem -/

/-- The robot with the implied mode enforced or not. -/
def Robot.enforcing (enforce : Bool) (r : Robot σ) : Robot σ :=
  { r with settings.enforceImpliedMode := enforce }

/-- Controlling the arm by torques, with a motion or without. -/
def ProgramUse.byTorques (torque : ArmState → Duration → Program μ (Except String (Flow Torques)))
    (motion : Option (ArmState → Duration → Program μ (Except String (Flow Target)))) :
    ProgramUse μ Unit :=
  match motion with
  | none => .controlTorques torque
  | some motion => .controlTorquesWithMotion torque motion

/-- Every state received reports the mode of the first one. -/
def Steady (calls : List Call) : Prop :=
  ∀ first ∈ (received calls).head?, ∀ state ∈ received calls,
    state.controllerMode = first.controllerMode

/-- How a call with the implied mode enforced compares with one whose calls and result are these.
Either all states report the same mode, and both make the same calls and end alike; or some state is
the first in another mode than the first of all, and then the enforced call makes the same calls up
to that state and ends with the fault that it is, after as many accepted commands as there were
states before. -/
inductive Curtailed (calls : List Call)
    (result : EStateM.Result Halt (Station σ μ) (Except RobotError Unit)) :
    List Call → EStateM.Result Halt (Station σ μ) (Except RobotError Unit) → Prop
  | whole {result' : EStateM.Result Halt (Station σ μ) (Except RobotError Unit)} :
      Steady calls → Alike Unlogged result' result → Curtailed calls result calls result'
  | cut (earlier : List Call) (first state : ArmState) (later : List Call) (s : Station σ μ) :
      calls = earlier ++ .receive (.value state) :: later →
      (received earlier).head? = some first → Steady earlier →
      state.controllerMode ≠ first.controllerMode →
      earlier.countP Call.isAccepted = (received earlier).length →
      Curtailed calls result (earlier ++ [.receive (.value state)])
        (.ok (.error (.control
          ⟨first.controllerMode, state.controllerMode, (received earlier).length + 1⟩)) s)

section Enforcing

variable (r : Robot σ) (limit : Nat)
  (torque : ArmState → Duration → Program μ (Except String (Flow Torques)))
  (motion : Option (ArmState → Duration → Program μ (Except String (Flow Target))))

theorem by_torques_traced :
    (ProgramUse.byTorques torque motion).traced r limit =
      Session.hold .control (ExceptT.run do
        r.traced.announce .control
        Robot.conclude .control (Control.run r.driver.traced r.settings.impliedSupervisor
          (Scripts.traced ⟨some torque, motion⟩ r limit) limit)) := by
  cases motion <;> rfl

/-- The callbacks go in step whatever the settings are. -/
theorem scripts_twins (r' : Robot σ) (hdriver : r'.driver = r.driver) (scripts : Scripts μ) :
    CallbacksCoupled Twins (fun _ => Twins) (scripts.traced r limit) (scripts.traced r' limit) := by
  have hnoting {β : Type} (call : β → Call) (program : Program μ β) :
      Coupled (fun _ => Twins) Twins ((program.run r.traced limit).noting call)
        ((program.run r'.traced limit).noting call) fun _ => Twins :=
    .bind (program_twins (congrArg Driver.traced hdriver) limit program) fun answer =>
      .bind (.modify fun _ _ hs =>
        ⟨hs.unlogged.changed (Station.noted (call answer)) fun _ => rfl, hs.held⟩) fun _ =>
      .pure fun _ _ hs => hs
  obtain ⟨torque, motion⟩ := scripts
  constructor
  · cases torque with
    | none => exact .none
    | some torque => exact .some fun state period => hnoting _ (torque state period)
  · cases motion with
    | none => exact .none
    | some motion => exact .some fun state period => hnoting _ (motion state period)

theorem by_torques_curbed (s : Station (Traced σ) μ) :
    Curbed ((ProgramUse.byTorques torque motion).traced (r.enforcing true) limit s)
      ((ProgramUse.byTorques torque motion).traced (r.enforcing false) limit s) := by
  rw [by_torques_traced, by_torques_traced]
  have hcalls := scripts_twins (r.enforcing true) limit (r.enforcing false) rfl
    ⟨some torque, motion⟩
  have hloop := control_run_curtails (d := r.driver) hcalls
    (Control.scripts_answering (r.enforcing false) ⟨some torque, motion⟩ limit) limit
  have hsettings : r.traced.settings = r.traced.settings := rfl
  have hannounce := (twins_coupling (μ := μ) r.driver.traced).announce hsettings rfl .control
  exact Curtails.hold (.after hannounce fun _ => conclude_curtails r.driver .control hloop) .control
    rfl

/-- What is expected of the mode in a session whose mode is implied. -/
def Robot.implication : Enforcement :=
  if r.settings.enforceImpliedMode then .implied else .unenforced

/-- A call with torques is judged as its loop is. -/
theorem by_torques_judged {calls : List Call} {outcome : Except Ending Unit}
    (h : (ProgramUse.byTorques torque motion).Conduct r calls outcome) :
    Control.Judged r.implication calls outcome := by
  have hloop {withMotion : Bool} (h : Prioritised r
      (ProgramUse.ControlConduct r r.settings.impliedSupervisor true withMotion) calls outcome) :
      Control.Judged r.implication calls outcome := by
    cases h with
    | refused _ _ => exact .kept r.implication.allows_nil fun fault heq => by cases heq
    | allowed _ hconcluded =>
        obtain ⟨hcourse⟩ := hconcluded
        rw [implied_supervisor] at hcourse
        exact hcourse.judged.map _
  cases motion with
  | none => exact hloop h
  | some motion => exact hloop h

end Enforcing

theorem Enforcement.Allows.steady {calls : List Call}
    (h : Enforcement.implied.Allows (received calls)) : Steady calls := by
  intro first hfirst state hmem
  obtain ⟨earlier, later, heq⟩ := List.append_of_mem hmem
  rw [heq] at hfirst
  cases earlier with
  | nil =>
      obtain rfl : state = first := by simpa using hfirst
      rfl
  | cons state' earlier =>
      obtain rfl : state' = first := by simpa using hfirst
      exact h (state' :: earlier) state later heq state'.controllerMode rfl

/-- A session whose mode is not enforced does not end with a fault of the mode. -/
theorem Control.Judged.not_control {calls : List Call} {outcome : Except Ending α}
    (h : Judged .unenforced calls outcome) (fault : ModeMismatch) :
    outcome ≠ .error (.fault (.control fault)) := by
  cases h with
  | kept _ hcalm => exact hcalm fault
  | broken _ _ _ _ _ hexpected => cases hexpected

theorem Control.Judged.steady {calls : List Call} {outcome : Except Ending α}
    (h : Judged .implied calls outcome)
    (hcalm : ∀ fault, outcome ≠ .error (.fault (.control fault))) : Steady calls := by
  cases h with
  | kept hallows _ => exact hallows.steady
  | broken _ _ _ _ _ _ _ houtcome => exact absurd houtcome (hcalm _)

/-- The calls of a session that was judged and cut short, among calls that go on from there. -/
theorem Control.Judged.cut {calls more : List Call} {fault : ModeMismatch}
    (h : Judged (α := Unit) .implied calls (.error (.fault (.control fault))))
    (hmore : calls <+: more)
    (result : EStateM.Result Halt (Station σ μ) (Except RobotError Unit)) (s : Station σ μ) :
    Curtailed more result calls (.ok (.error (.control fault)) s) := by
  cases h with
  | kept _ hcalm => exact absurd rfl (hcalm fault)
  | broken rounds state mode hcalls hallows hexpected hne houtcome =>
      cases houtcome
      obtain ⟨later, rfl⟩ := hmore
      obtain ⟨first, hfirst, rfl⟩ := Option.map_eq_some_iff.mp hexpected
      have hstates : received (rounds.flatMap Round.accepted) = rounds.map Round.state :=
        rounds_received_states rounds
      have hlength : (received (rounds.flatMap Round.accepted)).length = rounds.length := by
        rw [hstates, List.length_map]
      rw [hcalls, ← hlength]
      refine .cut _ first state later s ?_ ?_ ?_ hne.symm ?_
      · rw [List.append_assoc]
        rfl
      · rw [hstates, hfirst]
      · refine Enforcement.Allows.steady ?_
        rw [hstates]
        exact hallows
      · rw [hlength]
        exact rounds_accepted_count rounds

/-- Enforcing the implied mode only cuts a session with torques short: at the first state in another
mode than the first state of all, if there is one, and otherwise not at all. -/
theorem enforcement_only_curtails (r : Robot σ) (limit : Nat)
    (torque : ArmState → Duration → Program μ (Except String (Flow Torques)))
    (motion : Option (ArmState → Duration → Program μ (Except String (Flow Target))))
    (s : Station σ μ) :
    Curtailed ((ProgramUse.byTorques torque motion).trace (r.enforcing false) limit s)
      ((ProgramUse.byTorques torque motion).run (r.enforcing false) limit s)
      ((ProgramUse.byTorques torque motion).trace (r.enforcing true) limit s)
      ((ProgramUse.byTorques torque motion).run (r.enforcing true) limit s) := by
  cases hheld : s.held with
  | true =>
      have hrefused (enforce : Bool) :
          (ProgramUse.byTorques torque motion).trace (r.enforcing enforce) limit s = [] := by
        have hheld : s.traced.held = true := hheld
        unfold ProgramUse.trace Task.after
        rw [by_torques_traced, hold_busy .control _ hheld]
        rfl
      rw [hrefused, hrefused, ProgramUse.run_busy _ _ _ hheld, ProgramUse.run_busy _ _ _ hheld]
      exact .whole (by simp [Steady, received]) (.ok _ rfl)
  | false =>
      obtain ⟨outcome, t, hconduct, hrun⟩ := use_conduct (r.enforcing true) limit
        (ProgramUse.byTorques torque motion) ⟨s, hheld⟩
      obtain ⟨outcome', t', hconduct', hrun'⟩ := use_conduct (r.enforcing false) limit
        (ProgramUse.byTorques torque motion) ⟨s, hheld⟩
      have hjudged : Control.Judged .implied _ outcome := by_torques_judged _ _ _ hconduct
      have hjudged' : Control.Judged .unenforced _ outcome' := by_torques_judged _ _ _ hconduct'
      have hcurbed := by_torques_curbed r limit torque motion s.traced
      rw [use_untraced] at hrun hrun' ⊢
      rw [use_untraced]
      unfold ProgramUse.trace Task.after at hjudged hjudged' ⊢
      dsimp only at *
      generalize (ProgramUse.byTorques torque motion).traced (r.enforcing true) limit s.traced =
        left at *
      generalize (ProgramUse.byTorques torque motion).traced (r.enforcing false) limit s.traced =
        right at *
      cases hcurbed with
      | alike halike =>
          -- The session without enforcement has no fault of the mode, and so neither has this one.
          have hcalm (fault : ModeMismatch) : outcome ≠ .error (.fault (.control fault)) := by
            rintro rfl
            cases halike with
            | ok a ht =>
                cases hrun
                exact hjudged'.not_control fault (Ending.result_error hrun'.symm)
            | error cause ht => cases hrun
          have hsteady := hjudged.steady hcalm
          cases halike with
          | ok a ht =>
              dsimp only at hsteady ⊢
              rw [ht.line] at hsteady ⊢
              exact .whole hsteady (.ok a ht.untraced)
          | error cause ht =>
              dsimp only at hsteady ⊢
              rw [ht.line] at hsteady ⊢
              exact .whole hsteady (.error cause ht.untraced)
      | @cut fault t₁ _ hsettled =>
          obtain rfl := Ending.result_error hrun.symm
          refine hjudged.cut ?_ _ _
          cases right with
          | ok answer t₂ => cases answer <;> exact hsettled
          | error cause t₂ => exact hsettled

end ArmControl
