import ArmControl.Proofs.Robot.Quiet
import ArmControl.Proofs.Simulator.Completion

/-!
# How much a session logs

Over a link that is quiet, all that a session reports above TRACE comes before its second cycle or
after its last one. So what a call that ends well adds to the log is known beforehand:
`Entry.volume` is the number of its loud events. `sessions_log_quietly` is the main theorem. Its
hypotheses are those of `Link.Quiet` about the link, of `Program.Hushed` about the callbacks, and
for the simulator those of `Simulator.EndsWell`.
-/

namespace ArmControl

variable {σ μ α : Type}

/-! ## Cycles -/

namespace TaskUse

variable {r : Robot σ} {use : TaskUse σ μ Unit} {w : Schedule σ μ} {P : σ → Prop} {aside : Bool}

/-- What comes before the loop keeps what its driver keeps. -/
theorem HasSchedule.opening_settles (h : HasSchedule r use w) {I : Invariant σ μ}
    (hkeeps : Upkeep r.driver I) : Settles I w.opening := by
  cases h with
  | controlTorques torque => exact .bind (hkeeps.announce _) fun _ => .pure _
  | controlTorquesWithMotion torque motion => exact .bind (hkeeps.announce _) fun _ => .pure _
  | controlMotion motion mode =>
      exact .bind (hkeeps.announce _) fun _ => hkeeps.request_mode mode
  | read keepOn => exact .pure _
  | readWithMode mode keepOn => exact hkeeps.request_mode mode

/-- The loop calls the callbacks of the use. -/
theorem HasSchedule.loop_hushed (h : HasSchedule r use w) (hcalls : use.Each (Hushed aside P))
    (supervisor : Supervisor) : (w.loop supervisor).Hushed aside P := by
  have hpresent {β : Type} {callback : Callback σ μ β}
      (hcallback : ∀ state period, Hushed aside P (callback state period)) :
      ∀ call ∈ some callback, ∀ state period, Hushed aside P (call state period) := by
    intro call hmem
    obtain rfl := Option.mem_some.mp hmem
    exact hcallback
  have habsent {β : Type} : ∀ call ∈ (none : Option (Callback σ μ β)), ∀ state period,
      Hushed aside P (call state period) := fun _ hmem => nomatch hmem
  cases h with
  | controlTorques torque => exact ⟨hpresent hcalls, habsent⟩
  | controlTorquesWithMotion torque motion => exact ⟨hpresent hcalls.1, hpresent hcalls.2⟩
  | controlMotion motion mode => exact ⟨habsent, hpresent hcalls⟩
  | read keepOn => exact hcalls
  | readWithMode mode keepOn => exact hcalls

/-- Callbacks that carry out such programs. -/
theorem each_hushed {use : ProgramUse μ α} (h : use.Each (Program.Hushed r.driver.link P aside))
    (limit : Nat) : (use.mapTask (Program.run r limit)).Each (Hushed aside P) :=
  each_of_program h fun _ hprogram => hprogram.run limit

/-- After the first cycle, cycles add nothing loud to the log. -/
theorem CycleOf.logs {s s₁ s₂ : Station σ μ} {n : Nat} (h : CycleOf r use s (n + 1) s₁ s₂)
    (hquiet : r.driver.link.Quiet P) (hcalls : use.Each (Hushed aside P)) (hline : P s.line) :
    Logs aside 0 s₁ s₂ := by
  obtain @⟨w, supervisor, l, s₀, next, hschedule, hopening, hreached, hcycle⟩ := h
  have hkeeps : Upkeep (μ := μ) r.driver (Along P) :=
    along_upkeep r.driver (fun line hline => (hquiet.receive _ line hline).2)
      (fun c line _ hline => (hquiet.send c line hline).2)
      fun q line hline => hquiet.request q _ line hline
  have hopened := hschedule.opening_settles hkeeps (s.acquired w.kind) ⟨rfl, hline⟩
  rw [hopening] at hopened
  obtain ⟨hs₁, hhushed, hsettled⟩ :=
    hreached.settled hquiet (hschedule.loop_hushed hcalls supervisor) hopened
  obtain ⟨-, hlogs, -⟩ := Loop.cycle_costs hquiet hhushed _ _ _ hs₁ hcycle
  -- A cycle gives the lines that its supervisor owes, which are none after the first cycle.
  rwa [hsettled (Nat.succ_pos n)] at hlogs

end TaskUse

/-! ## Sessions -/

/-- The calls of a robot, whatever their arguments are. -/
inductive Entry
  | controlTorques
  | controlTorquesWithMotion
  | controlMotion
  | read
  | readWithMode
  | readOnce
  | execute
deriving DecidableEq

namespace RobotUse

universe u v

variable {τ ι κ : Type u}

/-- The call that is made. -/
def entry : RobotUse τ ι κ α → Entry
  | controlTorques _ => .controlTorques
  | controlTorquesWithMotion _ _ => .controlTorquesWithMotion
  | controlMotion _ _ => .controlMotion
  | read none _ => .read
  | read (some _) _ => .readWithMode
  | readOnce => .readOnce
  | execute _ => .execute

theorem entry_map {υ θ χ : Type v} (use : RobotUse τ ι κ α) (torque : τ → υ) (motion : ι → θ)
    (keepOn : κ → χ) : (use.map torque motion keepOn).entry = use.entry := by
  cases use with
  | read mode keepOn => cases mode <;> rfl
  | _ => rfl

end RobotUse

/-- How many loud events a call gives that ends well, if the link itself gives so many for each
request that it grants. -/
def Entry.volume (settings : Settings) (told : Nat) : Entry → Nat
  | controlTorques | controlTorquesWithMotion => 6 + settings.impliedSupervisor.pending
  | controlMotion => 10 + told
  | read => 3
  | readWithMode => 7 + told
  | readOnce => 2
  | execute => 4 + told

/-- A link that reports so many events above TRACE with each request that it grants. -/
def Link.Tells (link : Link σ) (P : σ → Prop) (aside : Bool) (told : Nat) : Prop :=
  ∀ q timeout line reply, P line →
    (link.request q timeout line).answer = .value (.success reply) →
    (link.request q timeout line).events.countP (Event.isLoud aside) = told

section Openings

variable {r : Robot σ} {P : σ → Prop} {aside : Bool} {told : Nat}

theorem announce_costs (kind : SessionKind) :
    Costs aside P 2 (r.announce kind : Guarded σ μ Unit) fun _ => True := by
  have hpriority : Costs aside P 1
      (Guarded.ofDriver (r.settings.realtime.apply r.priority) : Guarded σ μ Unit)
      fun _ => True := by
    intro s a s' hs hrun
    have hrun := of_driver_ok hrun
    cases hpriority : r.priority with
    | ok =>
        rw [hpriority] at hrun
        cases hrun
        exact ⟨hs, ⟨[.priorityRaised], by simp, rfl⟩, trivial⟩
    | error reason =>
        cases hrealtime : r.settings.realtime with
        | enforce =>
            rw [hpriority, hrealtime] at hrun
            cases hrun
        | ignore =>
            rw [hpriority, hrealtime] at hrun
            cases hrun
            exact ⟨hs, ⟨[.priorityMissing reason], by simp, rfl⟩, trivial⟩
  exact hpriority.bind fun _ _ => .report (.sessionStarted kind)

variable (hquiet : r.driver.link.Quiet P) (htells : r.driver.link.Tells P aside told)

include hquiet htells

/-- A request that is granted. -/
theorem dispatch_costs (q : Request) :
    Costs aside P (2 + told) (r.dispatch q : Guarded σ μ Reply) fun _ => True := by
  unfold Robot.dispatch
  cases q.validate with
  | error error => exact .fail _
  | ok =>
      intro s reply s' hs hrun
      have hrun := of_driver_ok hrun
      rw [Driver.execute_run] at hrun
      have hline := hquiet.request q r.driver.timing.requestTimeout s.line hs.2
      have htold := htells q r.driver.timing.requestTimeout s.line
      cases hanswer : (r.driver.link.request q r.driver.timing.requestTimeout s.line).answer with
      | value response =>
          rw [hanswer] at hrun htold
          cases response with
          | success reply =>
              cases hrun
              have hasking : Logs aside 1 s (Driver.asking q s) :=
                .reported [.requestStarted q.name] _
              have hgranted : Logs aside told (Driver.asking q s)
                  ((Driver.asking q s).exchanged
                    (r.driver.link.request q r.driver.timing.requestTimeout)) :=
                .exchanged (htold reply hs.2 rfl)
              have hlogs : Logs aside (1 + told + 1) s _ :=
                (hasking.trans hgranted).trans (.reported [.requestSucceeded q.name] _)
              rw [Nat.add_right_comm] at hlogs
              exact ⟨⟨hs.1, hline⟩, hlogs, trivial⟩
          | rejected reason => cases hrun
      | failure error =>
          rw [hanswer] at hrun
          cases hrun
      | overflow =>
          rw [hanswer] at hrun
          cases hrun

/-- A mode that is requested, and that will be confirmed. -/
theorem request_mode_costs (mode : ControllerMode) :
    Costs aside P (3 + told) (r.requestMode mode : Guarded σ μ Supervisor)
      fun supervisor => supervisor.pending = 1 := by
  have htotal : Costs aside P (2 + told + 1) (r.requestMode mode : Guarded σ μ Supervisor)
      fun supervisor => supervisor.pending = 1 :=
    (dispatch_costs hquiet htells (.setControllerMode mode)).bind fun _ _ =>
      (Costs.report_all _).then_hushed fun _ _ => .pure rfl
  rwa [Nat.add_right_comm] at htotal

end Openings

/-! ## Whole calls -/

section Calls

variable {r : Robot σ} {P : σ → Prop} {aside : Bool}

/-- Reporting how a loop ended, which it did well. -/
theorem conclude_costs {kind : SessionKind} {loop : Guarded σ μ Nat} {n : Nat}
    (hloop : Costs aside P n loop fun _ => True) :
    Costs aside P (n + 1) (Robot.conclude kind loop) fun _ => True := by
  intro s a s' hs hrun
  rw [Robot.run_conclude] at hrun
  cases hend : loop.run s with
  | ok answer t =>
      rw [hend] at hrun
      cases answer with
      | ok cycles =>
          cases hrun
          obtain ⟨ht, hlogs, -⟩ := hloop s cycles t hs hend
          exact ⟨ht, hlogs.trans (.reported [.sessionFinished kind cycles] t), trivial⟩
      | error error => cases hrun
  | error cause t =>
      rw [hend] at hrun
      cases hrun

/-- Taking the driver and giving it back is worth two lines. -/
theorem hold_logs {kind : SessionKind} {m : Guarded σ μ α} {n : Nat}
    (hm : Costs aside P n m fun _ => True) {s s' : Station σ μ} {a : α} (hline : P s.line)
    (hrun : Session.hold kind m.run s = .ok (.ok a) s') : Logs aside (n + 2) s s' := by
  cases hheld : s.held with
  | true =>
      -- A call that is refused does not end well.
      rw [hold_busy kind m.run hheld] at hrun
      cases hrun
  | false =>
      rw [hold_free kind m.run hheld] at hrun
      unfold Session.releasing at hrun
      cases hend : m.run (s.acquired kind) with
      | ok answer t =>
          rw [hend] at hrun
          cases answer with
          | ok b =>
              obtain ⟨-, hlogs, -⟩ := hm (s.acquired kind) b t ⟨rfl, hline⟩ hend
              cases hrun
              have hacquired : Logs aside 1 s (s.acquired kind) :=
                ⟨[.sessionAcquired kind], by simp [Station.acquired], rfl⟩
              have hreleased : Logs aside 1 t (t.released kind) :=
                ⟨[.sessionReleased kind], by simp [Station.released], rfl⟩
              have htotal := (hacquired.trans hlogs).trans hreleased
              rw [Nat.add_comm 1 n] at htotal
              exact htotal
          | error error => cases hrun
      | error cause t =>
          rw [hend] at hrun
          cases cause <;> cases hrun

variable (hquiet : r.driver.link.Quiet P)

include hquiet

/-- A session with a loop: what comes first, the lines that the supervisor owes, those of the end of
the loop and of the session, and those of the lock. -/
theorem TaskUse.HasSchedule.logs {use : TaskUse σ μ Unit} {w : Schedule σ μ}
    (h : HasSchedule r use w) (hcalls : use.Each (Hushed aside P)) {opened owed closing : Nat}
    (hopening : Costs aside P opened w.opening fun supervisor => supervisor.pending = owed)
    (hclosing : ∀ supervisor, (w.loop supervisor).closing = closing) {limit : Nat}
    {s s' : Station σ μ} {a : Unit} (hline : P s.line)
    (hrun : use.run r limit s = .ok (.ok a) s') :
    Logs aside (opened + (owed + closing + 1) + 2) s s' := by
  have hpending (supervisor : Supervisor) :
      (w.loop supervisor).pending = supervisor.pending := by cases h <;> rfl
  rw [h.run_eq] at hrun
  refine hold_logs (hopening.bind fun supervisor howed => ?_) hline hrun
  have hloop := Loop.run_costs hquiet limit (h.loop_hushed hcalls supervisor)
  rw [hpending, howed, hclosing] at hloop
  exact conclude_costs hloop

variable {told : Nat} (htells : r.driver.link.Tells P aside told)

include htells

/-- What a call gives to the log does not depend on how many cycles it takes. -/
theorem TaskUse.logs (limit : Nat) {use : TaskUse σ μ α} (hcalls : use.Each (Hushed aside P))
    {s s' : Station σ μ} {a : α} (hline : P s.line) (hrun : use.run r limit s = .ok (.ok a) s') :
    Logs aside (use.entry.volume r.settings told) s s' := by
  have himplied :
      Costs (μ := μ) aside P 2 (r.announce .control >>= fun _ => pure r.settings.impliedSupervisor)
        fun supervisor => supervisor.pending = r.settings.impliedSupervisor.pending :=
    (announce_costs .control).then_hushed fun _ _ => .pure rfl
  have htotal : 2 + (r.settings.impliedSupervisor.pending + 1 + 1) + 2 =
      6 + r.settings.impliedSupervisor.pending := by omega
  cases use with
  | controlTorques torque =>
      have hlogs := HasSchedule.logs hquiet (.controlTorques torque) hcalls himplied
        (fun _ => rfl) hline hrun
      rwa [htotal] at hlogs
  | controlTorquesWithMotion torque motion =>
      have hlogs := HasSchedule.logs hquiet (.controlTorquesWithMotion torque motion) hcalls
        himplied (fun _ => rfl) hline hrun
      rwa [htotal] at hlogs
  | controlMotion motion mode =>
      have hlogs := HasSchedule.logs hquiet (.controlMotion motion mode) hcalls
        ((announce_costs .motion).bind fun _ _ => request_mode_costs hquiet htells mode)
        (fun _ => rfl) hline hrun
      have htotal : 2 + (3 + told) + (1 + 1 + 1) + 2 = 10 + told := by omega
      rwa [htotal] at hlogs
  | read mode keepOn =>
      cases mode with
      | none =>
          have hopening : Costs aside P 0 (pure .unenforced : Guarded σ μ Supervisor)
              fun supervisor => supervisor.pending = 0 := .pure rfl
          exact HasSchedule.logs hquiet (.read keepOn) hcalls hopening (fun _ => rfl) hline hrun
      | some mode =>
          have hlogs := HasSchedule.logs hquiet (.readWithMode mode keepOn) hcalls
            (request_mode_costs hquiet htells mode) (fun _ => rfl) hline hrun
          have htotal : 3 + told + (1 + 0 + 1) + 2 = 7 + told := by omega
          rwa [htotal] at hlogs
  | readOnce => exact hold_logs (receive_costs aside hquiet) hline hrun
  | execute request =>
      have hlogs := hold_logs (dispatch_costs hquiet htells request) hline hrun
      rwa [Nat.add_right_comm] at hlogs

end Calls

/-! ## The simulator -/

namespace Simulator

/-- As long as nothing is injected, the simulator reports states at the level TRACE, and no more. -/
theorem quiet : Simulator.link.Quiet fun line => line.queue = #[] where
  receive timeout line hqueue := by
    have hevents : line.drainEvents = [] := by rw [drainEvents, hqueue]; rfl
    show (∀ event ∈ (line.receive timeout).events, event.level = .trace) ∧
      (line.receive timeout).line.queue = #[]
    unfold Simulator.receive
    simp only [hevents]
    split
    next => exact ⟨by simp, rfl⟩
    next =>
      split
      next => exact ⟨by simp, rfl⟩
      next =>
        split
        next => exact ⟨by simp, rfl⟩
        next =>
          split
          next => exact ⟨by simp, rfl⟩
          next => exact ⟨by simp [Event.level], rfl⟩
  send c line hqueue := by
    have hevents : line.drainEvents = [] := by rw [drainEvents, hqueue]; rfl
    show (∀ event ∈ (line.send c).events, event.level = .trace) ∧
      (line.send c).line.queue = #[]
    unfold Simulator.send
    simp only [hevents]
    split
    next => exact ⟨by simp, rfl⟩
    next =>
      split
      next => exact ⟨by simp, rfl⟩
      next => exact ⟨by simp, rfl⟩
  request q timeout line _ := by
    show (line.request q).line.queue = #[]
    cases hclosed : line.pending.closed with
    | true => rw [request_closed hclosed]; rfl
    | false =>
        cases hrejections : line.pending.rejections with
        | cons reason rest => rw [request_rejected hclosed hrejections]; rfl
        | nil => rw [request_undisturbed hclosed hrejections]; rfl

/-- A request that is granted gives one line. -/
theorem tells (aside : Bool) : Simulator.link.Tells (fun line => line.queue = #[]) aside 1 := by
  intro q timeout line reply hqueue hanswer
  change (line.request q).answer = _ at hanswer
  show (line.request q).events.countP _ = 1
  cases hclosed : line.pending.closed with
  | true =>
      rw [request_closed hclosed] at hanswer
      cases hanswer
  | false =>
      cases hrejections : line.pending.rejections with
      | cons reason rest =>
          rw [request_rejected hclosed hrejections] at hanswer
          cases hanswer
      | nil =>
          rw [request_undisturbed hclosed hrejections, drainEvents, hqueue]
          rfl

/-- A call ended well on a simulator into which nothing was injected, with callbacks that inject
nothing and make no calls of their own. -/
inductive EndsWell (settings : Settings) (entry : Entry) (s s' : Station Simulator μ) : Prop
  | of {α : Type} {r : Robot Simulator} {limit : Nat} {use : ProgramUse μ α} {a : α} :
      r.driver.link = Simulator.link → r.settings = settings → use.entry = entry →
      use.Each (Program.Hushed Simulator.link (fun line => line.queue = #[]) false) →
      s.line.queue = #[] → use.run r limit s = .ok (.ok a) s' → EndsWell settings entry s s'

theorem EndsWell.logs {settings : Settings} {entry : Entry} {s s' : Station Simulator μ}
    (h : EndsWell settings entry s s') : Logs false (entry.volume settings 1) s s' := by
  obtain @⟨α, r, limit, use, a, hlink, rfl, rfl, hcalls, hqueue, hrun⟩ := h
  have hquiet : r.driver.link.Quiet fun line => line.queue = #[] := hlink ▸ quiet
  have htells : r.driver.link.Tells (fun line => line.queue = #[]) false 1 := hlink ▸ tells false
  rw [← hlink] at hcalls
  have hlogs := TaskUse.logs hquiet htells limit (TaskUse.each_hushed hcalls limit) hqueue hrun
  rwa [ProgramUse.mapTask, RobotUse.entry_map] at hlogs

end Simulator

/-- Over a link that reports nothing above TRACE while states and commands pass, no cycle of a
session but its first one adds anything above TRACE to the log, whatever its callbacks do, when the
refusals of the calls that they make are left aside. Where the link is quiet only as long as
something holds of its line, the callbacks must keep that. So on a simulator into which nothing is
injected, all calls that end well add the same number of events above TRACE to the log if they are
made in the same way with the same settings, however many cycles they take. -/
theorem sessions_log_quietly :
    (∀ {σ μ : Type} (r : Robot σ) (limit : Nat) (use : ProgramUse μ Unit) (s s₁ s₂ : Station σ μ)
      (n : Nat), (r.driver.link.Quiet fun _ => True) →
      (use.mapTask (Program.run r limit)).CycleOf r s (n + 1) s₁ s₂ → Logs true 0 s₁ s₂) ∧
    (∀ {σ μ : Type} (r : Robot σ) (P : σ → Prop) (aside : Bool) (limit : Nat)
      (use : ProgramUse μ Unit) (s s₁ s₂ : Station σ μ) (n : Nat),
      r.driver.link.Quiet P → P s.line → use.Each (Program.Hushed r.driver.link P aside) →
      (use.mapTask (Program.run r limit)).CycleOf r s (n + 1) s₁ s₂ → Logs aside 0 s₁ s₂) ∧
    ∀ (settings : Settings) (entry : Entry), ∃ volume, ∀ {μ : Type} (s s' : Station Simulator μ),
      Simulator.EndsWell settings entry s s' → Logs false volume s s' := by
  refine ⟨fun r limit use s s₁ s₂ n hquiet hcycle => ?_,
    fun r P aside limit use s s₁ s₂ n hquiet hline hcalls hcycle => ?_,
    fun settings entry => ⟨entry.volume settings 1, fun s s' h => h.logs⟩⟩
  · have hcalls : use.Each (Program.Hushed r.driver.link (fun _ => True) true) :=
      use.each_of_forall (Program.hushed_of_inject fun _ _ _ => trivial)
    exact hcycle.logs hquiet (TaskUse.each_hushed hcalls limit) trivial
  · exact hcycle.logs hquiet (TaskUse.each_hushed hcalls limit) hline

/-- Prepared answers are given without a word. -/
theorem Prepared.quiet : Prepared.link.Quiet fun _ => True where
  receive timeout line _ := by
    have hproduce (time : Option Duration) (change : ArmState → ArmState) (line : Prepared) :
        (line.produce time change).events = [] := by
      unfold produce
      cases time <|> line.clock.add? (.ofMillis 1) <;> rfl
    have hevents : (line.receive timeout).events = [] := by
      unfold receive
      cases line.states with
      | nil => exact hproduce _ _ line
      | cons prepared states =>
          cases prepared with
          | failure error => rfl
          | state time change => exact hproduce _ _ _
    show (∀ event ∈ (line.receive timeout).events, event.level = .trace) ∧ True
    rw [hevents]
    exact ⟨List.forall_mem_nil _, trivial⟩
  send c line _ := by
    have hevents : (line.send c).events = [] := by
      unfold send
      cases line.sends with
      | nil => rfl
      | cons prepared sends => cases prepared <;> rfl
    show (∀ event ∈ (line.send c).events, event.level = .trace) ∧ True
    rw [hevents]
    exact ⟨List.forall_mem_nil _, trivial⟩
  request _ _ _ _ := trivial

/-- Reads states, and asks for a recovery each time. -/
def ProgramUse.readAnxiously : ProgramUse Unit Unit :=
  .read none fun _ => .execute .automaticErrorRecovery fun _ => .done true

/-- Reads `n` states. -/
def ProgramUse.readMany (n : Nat) : ProgramUse Nat Unit :=
  .read none fun _ => .recollect fun count => .remember (count + 1) (.done (decide (count + 1 < n)))

theorem ProgramUse.read_many_hushed (n : Nat) (aside : Bool) :
    (readMany n).Each (Program.Hushed Simulator.link (fun line => line.queue = #[]) aside) :=
  fun _ => .recollect fun _ => .remember _ (.done _)

/-- The second state gives no lines, not even with a call that is refused, if that is left aside.
Reading one state gives as many lines as reading two. -/
theorem reading_logs_alike :
    (∃ s₁ s₂, (ProgramUse.readAnxiously.mapTask (Program.run Prepared.robot 3)).CycleOf
        Prepared.robot (.fresh {} () #[]) 1 s₁ s₂ ∧ Logs true 0 s₁ s₂) ∧
      (∃ s₁ s₂, ((ProgramUse.readMany 3).mapTask (Program.run Simulator.robot 3)).CycleOf
        Simulator.robot (.fresh {} 0 #[]) 1 s₁ s₂ ∧ Logs false 0 s₁ s₂) ∧
      ∃ volume s s',
        (ProgramUse.readMany 1).run Simulator.robot 3 (.fresh {} 0 #[]) = .ok (.ok ()) s ∧
        (ProgramUse.readMany 2).run Simulator.robot 3 (.fresh {} 0 #[]) = .ok (.ok ()) s' ∧
        Logs false volume (.fresh {} 0 #[]) s ∧ Logs false volume (.fresh {} 0 #[]) s' := by
  obtain ⟨hcycles, hcyclesAlong, hcalls⟩ := sessions_log_quietly
  refine ⟨?_, ?_, ?_⟩
  · have hcycle : ∃ s₁ s₂, (ProgramUse.readAnxiously.mapTask (Program.run Prepared.robot 3)).CycleOf
        Prepared.robot (.fresh {} () #[]) 1 s₁ s₂ :=
      ⟨_, _, .of (.read _) rfl (.next .start rfl) rfl⟩
    obtain ⟨s₁, s₂, hcycle⟩ := hcycle
    exact ⟨s₁, s₂, hcycle, hcycles Prepared.robot 3 _ _ s₁ s₂ 0 Prepared.quiet hcycle⟩
  · have hcycle : ∃ s₁ s₂, ((ProgramUse.readMany 3).mapTask (Program.run Simulator.robot 3)).CycleOf
        Simulator.robot (.fresh {} 0 #[]) 1 s₁ s₂ :=
      ⟨_, _, .of (.read _) rfl (.next .start rfl) rfl⟩
    obtain ⟨s₁, s₂, hcycle⟩ := hcycle
    exact ⟨s₁, s₂, hcycle, hcyclesAlong Simulator.robot _ false 3 (ProgramUse.readMany 3) _ s₁ s₂ 0
      Simulator.quiet rfl (ProgramUse.read_many_hushed 3 false) hcycle⟩
  · obtain ⟨volume, hvolume⟩ := hcalls Simulator.robot.settings .read
    have hwell (n : Nat) {s : Station Simulator Nat}
        (hrun : (ProgramUse.readMany n).run Simulator.robot 3 (.fresh {} 0 #[]) = .ok (.ok ()) s) :
        Simulator.EndsWell Simulator.robot.settings .read (.fresh {} 0 #[]) s :=
      .of rfl rfl rfl (ProgramUse.read_many_hushed n false) rfl hrun
    exact ⟨volume, _, _, rfl, rfl, hvolume _ _ (hwell 1 rfl), hvolume _ _ (hwell 2 rfl)⟩

end ArmControl
