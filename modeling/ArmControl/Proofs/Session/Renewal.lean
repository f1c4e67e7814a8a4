import ArmControl.Proofs.Robot.Anew
import ArmControl.Proofs.Session.Alongside

/-!
# Every session begins anew

Nothing of what was done with a robot before shows in what is done with it next: the next call makes
the same calls, has the same result and raises every counter by the same amount as on a robot that
was connected just now. In particular its cycles, its clock and its mode begin anew. All this is
said in `sessions_begin_anew`.
-/

namespace ArmControl

variable {σ μ α β : Type}

/-! ## Histories -/

/-- What is known of a robot that was just connected. -/
structure Robot.Connected (link : Link σ) (settings : Settings) (priority : Except String Unit)
    (s : Station σ μ) (r : Robot σ) (s' : Station σ μ) : Prop where
  link : r.driver.link = link
  timing : r.driver.timing = settings.timing
  settings : r.settings = settings
  priority : r.priority = priority
  line : s'.line = s.line
  memory : s'.memory = s.memory
  held : s'.held = s.held

theorem connected_of_connect {link : Link σ} {settings : Settings}
    {priority : Except String Unit} {s s' : Station σ μ} {r : Robot σ}
    (h : Robot.connect link settings priority s = .ok (.ok r) s') :
    Robot.Connected link settings priority s r s' := by
  unfold Robot.connect Driver.connect at h
  cases hvalid : settings.validate with
  | error error =>
      rw [hvalid] at h
      cases h
  | ok =>
      rw [hvalid] at h
      cases htiming : settings.timing.validate with
      | error error =>
          rw [htiming] at h
          cases h
      | ok =>
          rw [htiming] at h
          cases h
          exact ⟨rfl, rfl, rfl, rfl, rfl, rfl, rfl⟩

/-- The stations of a robot that was connected to a link and then used in any way: programs ran to
their end, or until a clock overflowed. -/
inductive Robot.Reached (link : Link σ) (settings : Settings) (priority : Except String Unit)
    (r : Robot σ) : Station σ μ → Prop
  | connected (line : σ) (memory : μ) (journal : Array Event) {s : Station σ μ} :
      Robot.connect link settings priority (.fresh line memory journal) = .ok (.ok r) s →
      Reached link settings priority r s
  | ran {s s' : Station σ μ} {α : Type} {a : α} (limit : Nat) (program : Program μ α) :
      Reached link settings priority r s → program.run r limit s = .ok a s' →
      Reached link settings priority r s'
  | overflowed {s s' : Station σ μ} {α : Type} (limit : Nat) (program : Program μ α) :
      Reached link settings priority r s → program.run r limit s = .error .clockOverflow s' →
      Reached link settings priority r s'

/-- The driver is free at the end of a run, unless a session was not followed to its end. -/
def Freed : EStateM.Result Halt (Station σ μ) α → Prop
  | .ok _ s => s.held = false
  | .error .clockOverflow s => s.held = false
  | .error .unfinished _ => True

theorem Freed.bind {t : Task σ μ α} {f : α → Task σ μ β} {s : Station σ μ} (ht : Freed (t s))
    (hf : ∀ a s', s'.held = false → Freed (f a s')) : Freed ((t >>= f) s) := by
  cases hrun : t s with
  | ok a s' =>
      rw [hrun] at ht
      rw [bind_of_ok hrun]
      exact hf a s' ht
  | error cause s' =>
      rw [hrun] at ht
      rw [bind_of_error hrun]
      cases cause <;> exact ht

/-- A session that has come to its end has given the driver back. -/
theorem hold_freed (kind : SessionKind) (body : Task σ μ (Except RobotError α)) {s : Station σ μ}
    (hfree : s.held = false) : Freed (Session.hold kind body s) := by
  rw [hold_free kind body hfree]
  unfold Session.releasing
  cases body (s.acquired kind) with
  | ok a t => exact rfl
  | error cause t =>
      cases cause with
      | clockOverflow => exact rfl
      | unfinished => trivial

theorem run_freed (r : Robot σ) (limit : Nat) (program : Program μ α) {s : Station σ μ}
    (hfree : s.held = false) : Freed (program.run r limit s) := by
  induction program using Program.induction_calls generalizing s with
  | done a => exact hfree
  | recollect next ih => exact ih s.memory hfree
  | remember memory next ih => exact ih hfree
  | inject injection next ih => exact ih hfree
  | inspect next ih => exact ih _ hfree
  | call use next _ ih =>
      rw [Program.run_call]
      refine .bind ?_ fun result s' hfree => ih result hfree
      cases use <;> exact hold_freed _ _ hfree

/-- A robot that was used in any way can be used again, and is the robot that was connected. -/
theorem Robot.Reached.free {link : Link σ} {settings : Settings} {priority : Except String Unit}
    {r : Robot σ} {s : Station σ μ} (h : r.Reached link settings priority s) :
    s.held = false := by
  induction h with
  | connected line memory journal hconnect => exact (connected_of_connect hconnect).held
  | ran limit program _ hrun ih =>
      have hfreed := run_freed r limit program ih
      rw [hrun] at hfreed
      exact hfreed
  | overflowed limit program _ hrun ih =>
      have hfreed := run_freed r limit program ih
      rw [hrun] at hfreed
      exact hfreed

/-- The robot is the one that was connected. -/
theorem Robot.Reached.robot {link : Link σ} {settings : Settings} {priority : Except String Unit}
    {r : Robot σ} {s : Station σ μ} (h : r.Reached link settings priority s) :
    r.driver.link = link ∧ r.driver.timing = settings.timing ∧ r.settings = settings ∧
      r.priority = priority := by
  induction h with
  | connected line memory journal hconnect =>
      have hconnected := connected_of_connect hconnect
      exact ⟨hconnected.link, hconnected.timing, hconnected.settings, hconnected.priority⟩
  | ran _ _ _ _ ih => exact ih
  | overflowed _ _ _ _ ih => exact ih

/-! ## The main theorem -/

/-- After any history, the next call on a robot makes the same calls as on a robot that was just
connected to the same line with the same settings, with the same states and periods told to the
callbacks. It ends with the same result, raises every counter by the same amount and logs the same
events. In particular it counts its cycles, takes its first period and expects a mode anew. The
callbacks may use the robot, inject and look at the observer in any way, but must be heedless of the
counters of the robot, which do remember the past. -/
theorem sessions_begin_anew {link : Link σ} {settings : Settings} {priority : Except String Unit}
    {r r' : Robot σ} {s s' : Station σ μ} {journal : Array Event}
    (hreached : r.Reached link settings priority s)
    (hconnect : Robot.connect link settings priority (.fresh s.line s.memory journal) =
      .ok (.ok r') s')
    (use : ProgramUse μ α) (huse : use.Each Program.Heedless) (limit : Nat) :
    use.trace r limit s = use.trace r' limit s' ∧
      Alike (Alongside s s') (use.run r limit s) (use.run r' limit s') ∧
        ∃ outcome t, use.run r limit s = Ending.result outcome t ∧
          Anew (use.enforcement settings) settings.timing.controlPeriod (use.trace r limit s)
            outcome := by
  obtain ⟨hlink, htiming, hsettings, hpriority⟩ := hreached.robot
  have hfresh := connected_of_connect hconnect
  have hline : s.line = s'.line := hfresh.line.symm
  have hmemory : s.memory = s'.memory := hfresh.memory.symm
  -- No session of the past is left over, and on a new robot there is none.
  have hheld : s.held = s'.held := hreached.free.trans hfresh.held.symm
  obtain ⟨htrace, halike⟩ := use_alongside (hfresh.link.trans hlink.symm)
    (hfresh.timing.trans htiming.symm) (hfresh.settings.trans hsettings.symm)
    (hfresh.priority.trans hpriority.symm) limit huse hline hmemory hheld
  obtain ⟨outcome, t, hconduct, hrun⟩ := use_conduct r limit use ⟨s, hreached.free⟩
  refine ⟨htrace, halike, outcome, t, hrun, ?_⟩
  have hanew := hconduct.anew
  rw [hsettings, htiming] at hanew
  exact hanew

/-- Reads states in a mode that the prepared robot does not report. -/
def ProgramUse.reading : ProgramUse Unit Unit :=
  .read (some .cartesianImpedance) fun _ => .done true

namespace Prepared

/-- The station of the prepared robot when it was just connected to a line. -/
def connected (line : Prepared) : Station Prepared Unit :=
  Task.after (Robot.connect Prepared.link {}) (.fresh line () #[])

/-- The station of the prepared robot after a session that failed. -/
def faulted : Station Prepared Unit :=
  Task.after ((Program.call ProgramUse.reading fun _ => .done ()).run Prepared.robot 1)
    (connected {})

end Prepared

/-- A session after one that failed is like the first one on the same line. -/
theorem reading_begins_anew :
    Prepared.faulted.metrics.controlFaults = 1 ∧
      ProgramUse.reading.trace Prepared.robot 1 Prepared.faulted =
        ProgramUse.reading.trace Prepared.robot 1 (Prepared.connected Prepared.faulted.line) ∧
      Alike (Alongside Prepared.faulted (Prepared.connected Prepared.faulted.line))
        (ProgramUse.reading.run Prepared.robot 1 Prepared.faulted)
        (ProgramUse.reading.run Prepared.robot 1 (Prepared.connected Prepared.faulted.line)) ∧
      ∃ outcome t,
        ProgramUse.reading.run Prepared.robot 1 Prepared.faulted = Ending.result outcome t ∧
          Anew (.requested .cartesianImpedance) ({} : Timing).controlPeriod
            (ProgramUse.reading.trace Prepared.robot 1 Prepared.faulted) outcome := by
  have hreached :
      Prepared.robot.Reached Prepared.link {} (.error Realtime.unavailable) Prepared.faulted :=
    .ran 1 (.call ProgramUse.reading fun _ => .done ()) (.connected {} () #[] rfl) rfl
  have hconnect : Robot.connect Prepared.link {} (.error Realtime.unavailable)
      (.fresh Prepared.faulted.line () #[]) =
      .ok (.ok Prepared.robot) (Prepared.connected Prepared.faulted.line) := rfl
  exact ⟨rfl,
    sessions_begin_anew hreached hconnect ProgramUse.reading (fun _ => .done true) 1⟩

end ArmControl
