import ArmControl.Proofs.Busy
import ArmControl.Proofs.Control.Course

/-!
# Computations and their calls

`Follows` relates a guarded computation to the calls that it makes and to its outcome. It is closed
under running one computation after another, which is `Follows.bind`, so that each part of the
control loop can be described by one lemma. The fault counters are kept in view on the way: a
computation raises them exactly by the fault that ends it.
-/

namespace ArmControl

variable {σ μ α β : Type}

/-- The result that belongs to an outcome. -/
def Ending.result : Except Ending α → Station σ μ →
    EStateM.Result Halt (Station σ μ) (Except RobotError α)
  | .ok a, s => .ok (.ok a) s
  | .error (.fault error), s => .ok (.error error) s
  | .error (.halt cause), s => .error cause s

/-- Only an outcome with that error has this result. -/
theorem Ending.result_error {outcome : Except Ending α} {error : RobotError} {s s' : Station σ μ}
    (h : Ending.result outcome s = .ok (.error error) s') : outcome = .error (.fault error) := by
  cases outcome with
  | ok a => cases h
  | error e =>
      cases e with
      | fault error' =>
          cases h
          rfl
      | halt cause => cases h

/-- The ending of a computation, unless it came to a result. -/
def Ending.of? : Except Ending α → Option Ending
  | .ok _ => none
  | .error e => some e

/-- By how much an ending raises the number of control faults. -/
def Ending.controlFaults : Option Ending → UInt64
  | some (.fault (.control _)) => 1
  | _ => 0

/-- By how much an ending raises the number of numeric faults. -/
def Ending.numericFaults : Option Ending → UInt64
  | some (.fault (.numeric _)) => 1
  | _ => 0

/-- What is left behind by a computation that made these calls and ended like this, if it did. -/
structure Shows (s : Station (Traced σ) μ) (calls : List Call) (ending : Option Ending)
    (s' : Station (Traced σ) μ) : Prop where
  trace : s'.line.trace = s.line.trace ++ calls
  held : s'.held = s.held
  controlFaults : s'.metrics.controlFaults = s.metrics.controlFaults + Ending.controlFaults ending
  numericFaults : s'.metrics.numericFaults = s.metrics.numericFaults + Ending.numericFaults ending

theorem Shows.trans {s s' s'' : Station (Traced σ) μ} {calls more : List Call}
    {ending : Option Ending} (h : Shows s calls none s') (hmore : Shows s' more ending s'') :
    Shows s (calls ++ more) ending s'' where
  trace := by rw [hmore.trace, h.trace, List.append_assoc]
  held := hmore.held.trans h.held
  controlFaults := by
    rw [hmore.controlFaults, h.controlFaults]
    simp [Ending.controlFaults]
  numericFaults := by
    rw [hmore.numericFaults, h.numericFaults]
    simp [Ending.numericFaults]

/-- A change of the station that leaves alone what `Shows` looks at. -/
theorem Shows.silent {s s' : Station (Traced σ) μ} (htrace : s'.line.trace = s.line.trace)
    (hheld : s'.held = s.held) (hcontrol : s'.metrics.controlFaults = s.metrics.controlFaults)
    (hnumeric : s'.metrics.numericFaults = s.metrics.numericFaults) : Shows s [] none s' where
  trace := by rw [htrace, List.append_nil]
  held := hheld
  controlFaults := by simp [hcontrol, Ending.controlFaults]
  numericFaults := by simp [hnumeric, Ending.numericFaults]

/-- What a program does to the station of a session, nobody sees who looks at calls and faults. -/
theorem Stir.shows {r : Robot σ} {s s' : Station (Traced σ) μ} (h : Stir r.traced s s') :
    Shows s [] none s' := by
  cases h <;> exact .silent rfl rfl rfl rfl

/-- Within a session, the computation makes calls and comes to an outcome as described. -/
def Follows (m : Guarded (Traced σ) μ α) (P : List Call → Except Ending α → Prop) : Prop :=
  ∀ s, s.held = true → ∃ calls outcome s',
    m.run s = Ending.result outcome s' ∧ P calls outcome ∧
      Shows s calls (Ending.of? outcome) s'

/-- Within a session, the task makes no calls and gives this result. -/
def Returns (t : Task (Traced σ) μ α) (a : α) : Prop :=
  ∀ s, s.held = true → ∃ s', t s = .ok a s' ∧ Shows s [] none s'

namespace Returns

theorem pure (a : α) : Returns (σ := σ) (μ := μ) (Pure.pure a) a :=
  fun s _ => ⟨s, rfl, .silent rfl rfl rfl rfl⟩

theorem bind {t : Task (Traced σ) μ α} {f : α → Task (Traced σ) μ β} {a : α} {b : β}
    (ht : Returns t a) (hf : Returns (f a) b) : Returns (t >>= f) b := by
  intro s hheld
  obtain ⟨s', hrun, hshows⟩ := ht s hheld
  obtain ⟨s'', hrest, hmore⟩ := hf s' (hshows.held.trans hheld)
  exact ⟨s'', (bind_of_ok hrun).trans hrest, hshows.trans hmore⟩

theorem report (event : Event) : Returns (σ := σ) (μ := μ) (Task.report event) () :=
  fun _ _ => ⟨_, rfl, .silent rfl rfl rfl rfl⟩

theorem report_all (events : List Event) :
    Returns (σ := σ) (μ := μ) (Task.reportAll events) () :=
  fun _ _ => ⟨_, rfl, .silent rfl rfl rfl rfl⟩

/-- Counting what is not a fault. -/
theorem count {change : Metrics → Metrics}
    (hcontrol : ∀ m, (change m).controlFaults = m.controlFaults)
    (hnumeric : ∀ m, (change m).numericFaults = m.numericFaults) :
    Returns (σ := σ) (μ := μ) (Task.count change) () :=
  fun s _ => ⟨_, rfl, .silent rfl rfl (hcontrol s.metrics) (hnumeric s.metrics)⟩

theorem publish (state : ArmState) : Returns (σ := σ) (μ := μ) (Driver.publish state) () :=
  fun _ _ => ⟨_, rfl, .silent rfl rfl rfl rfl⟩

theorem record_failure (error : LinkError) :
    Returns (σ := σ) (μ := μ) (Driver.recordFailure error) () := by
  unfold Driver.recordFailure
  cases error.isTimeout <;> exact bind (count (fun _ => rfl) fun _ => rfl) (report _)

end Returns

namespace Follows

variable {m : Guarded (Traced σ) μ α} {f : α → Guarded (Traced σ) μ β}
  {P : List Call → Except Ending α → Prop} {Q : List Call → Except Ending β → Prop}

theorem bind (hm : Follows m P)
    (hf : ∀ calls a, P calls (.ok a) → Follows (f a) fun more outcome => Q (calls ++ more) outcome)
    (he : ∀ calls e, P calls (.error e) → Q calls (.error e)) : Follows (m >>= f) Q := by
  intro s hheld
  obtain ⟨calls, outcome, s', hrun, hp, hshows⟩ := hm s hheld
  cases outcome with
  | ok a =>
      -- Within a session the driver stays held, so the second computation may be run as well.
      obtain ⟨more, outcome, s'', hrest, hq, hmore⟩ := hf calls a hp s' (hshows.held.trans hheld)
      exact ⟨calls ++ more, outcome, s'', (bind_of_ok hrun).trans hrest, hq, hshows.trans hmore⟩
  | error e =>
      refine ⟨calls, .error e, s', ?_, he calls e hp, hshows⟩
      show EStateM.bind m.run (ExceptT.bindCont f) s = _
      unfold EStateM.bind
      rw [hrun]
      cases e <;> rfl

theorem mono {P' : List Call → Except Ending α → Prop} (hm : Follows m P)
    (h : ∀ calls outcome, P calls outcome → P' calls outcome) : Follows m P' := by
  intro s hheld
  obtain ⟨calls, outcome, s', hrun, hp, hshows⟩ := hm s hheld
  exact ⟨calls, outcome, s', hrun, h calls outcome hp, hshows⟩

theorem pure {a : α} (h : P [] (.ok a)) : Follows (Pure.pure a : Guarded (Traced σ) μ α) P :=
  fun s _ => ⟨[], .ok a, s, rfl, h, .silent rfl rfl rfl rfl⟩

theorem halt {cause : Halt} (h : P [] (.error (.halt cause))) :
    Follows (σ := σ) (μ := μ) (Guarded.halt cause) P :=
  fun s _ => ⟨[], .error (.halt cause), s, rfl, h, by simp, rfl,
    by simp [Ending.controlFaults, Ending.of?], by simp [Ending.numericFaults, Ending.of?]⟩

/-- Ending with an error that is no fault of mode or number, since those are counted. -/
theorem fail {error : RobotError} (hcontrol : Ending.controlFaults (some (.fault error)) = 0)
    (hnumeric : Ending.numericFaults (some (.fault error)) = 0)
    (h : P [] (.error (.fault error))) : Follows (σ := σ) (μ := μ) (Guarded.fail error) P :=
  fun s _ => ⟨[], .error (.fault error), s, rfl, h, by simp, rfl, by simp [Ending.of?, hcontrol],
    by simp [Ending.of?, hnumeric]⟩

theorem after {t : Task (Traced σ) μ α} {a : α} (ht : Returns t a) (hf : Follows (f a) Q) :
    Follows (Guarded.ofTask t >>= f) Q := by
  intro s hheld
  obtain ⟨s', hrun, hshows⟩ := ht s hheld
  obtain ⟨calls, outcome, s'', hrest, hq, hmore⟩ := hf s' (hshows.held.trans hheld)
  refine ⟨calls, outcome, s'', ?_, hq, hshows.trans hmore⟩
  have hlift : (Guarded.ofTask t).run s = .ok (.ok a) s' := bind_of_ok hrun
  exact (bind_of_ok hlift).trans hrest

end Follows

/-! ## The driver -/

/-- An exchange is one call, and what comes of it follows from its answer. -/
theorem exchange_shows (call : Answer α → Call) (operation : σ → LinkStep σ α)
    (s : Station (Traced σ) μ) :
    ∃ s', Shows s [call (operation s.line.line).answer] none s' ∧
      Task.exchange (Traced.perform call operation) s =
        match (operation s.line.line).answer with
        | .value a => .ok (.ok a) s'
        | .failure error => .ok (.error error) s'
        | .overflow => .error .clockOverflow s' := by
  refine ⟨{ s with
    line := (Traced.perform call operation s.line).line
    journal := s.journal ++ (operation s.line.line).events }, ⟨rfl, rfl, ?_, ?_⟩, ?_⟩
  · simp [Ending.controlFaults]
  · simp [Ending.numericFaults]
  · cases hanswer : (operation s.line.line).answer <;>
      simp only [Task.exchange, Traced.perform, hanswer]

/-- What an answer of the driver means for a session. -/
def Ending.ofDriver : Except DriverError α → Except Ending α
  | .ok a => .ok a
  | .error error => .error (.fault (.ofDriver error))

theorem of_driver_run {t : Task σ μ (Except DriverError α)} {answer : Except DriverError α}
    {s s' : Station σ μ} (h : t s = .ok answer s') :
    (Guarded.ofDriver t).run s = Ending.result (Ending.ofDriver answer) s' := by
  cases answer <;> exact bind_of_ok h

/-- An error of the driver is no fault of mode or number. -/
theorem Shows.of_driver {s s' : Station (Traced σ) μ} {calls : List Call}
    (h : Shows s calls none s') (answer : Except DriverError α) :
    Shows s calls (Ending.of? (Ending.ofDriver answer)) s' := by
  cases answer with
  | ok a => exact h
  | error error =>
      refine ⟨h.trace, h.held, ?_, ?_⟩
      · rw [h.controlFaults]
        cases error <;> rfl
      · rw [h.numericFaults]
        cases error <;> rfl

/-- An operation of the driver that makes no calls. -/
theorem follows_driver {t : Task (Traced σ) μ (Except DriverError α)}
    {answer : Except DriverError α} (h : Returns t answer) :
    Follows (Guarded.ofDriver t) fun calls outcome =>
      calls = [] ∧ outcome = Ending.ofDriver answer := by
  intro s hheld
  obtain ⟨s', hrun, hshows⟩ := h s hheld
  exact ⟨[], Ending.ofDriver answer, s', of_driver_run hrun, ⟨rfl, rfl⟩, hshows.of_driver answer⟩

/-- What comes of an exchange when the driver settles a value like this. -/
def Answer.settled (settle : α → Except DriverError β) : Answer α → Except Ending β
  | .value a => Ending.ofDriver (settle a)
  | .failure error => .error (.fault (.communication (.link error)))
  | .overflow => .error (.halt .clockOverflow)

theorem Answer.settled_ok (answer : Answer α) : answer.settled .ok = answer.outcome := by
  cases answer <;> rfl

/-- A driver's operation is one exchange, and quiet work on what came of it. -/
theorem follows_exchange (call : Answer α → Call) (operation : σ → LinkStep σ α)
    {next : Except DriverError α → Task (Traced σ) μ (Except DriverError β)}
    {settle : α → Except DriverError β} (hvalue : ∀ a, Returns (next (.ok a)) (settle a))
    (herror : ∀ error, Returns (next (.error error)) (.error error)) :
    Follows (Guarded.ofDriver (Driver.attempt (Traced.perform call operation) >>= next))
      fun calls outcome => ∃ answer, calls = [call answer] ∧ outcome = answer.settled settle := by
  intro s hheld
  obtain ⟨s', hshows, hrun⟩ := exchange_shows call operation s
  have hheld' : s'.held = true := hshows.held.trans hheld
  cases h : (operation s.line.line).answer with
  | value a =>
      rw [h] at hshows hrun
      obtain ⟨s'', hrest, hmore⟩ := hvalue a s' hheld'
      have hattempt : Driver.attempt (Traced.perform call operation) s = .ok (.ok a) s' :=
        bind_of_ok hrun
      have hdone : Shows s [call (.value a)] none s'' := by simpa using hshows.trans hmore
      exact ⟨_, (Answer.value a).settled settle, s'',
        of_driver_run ((bind_of_ok hattempt).trans hrest), ⟨.value a, rfl, rfl⟩,
        hdone.of_driver (settle a)⟩
  | failure error =>
      rw [h] at hshows hrun
      obtain ⟨s₁, hrecord, hshows₁⟩ := Returns.record_failure error s' hheld'
      obtain ⟨s₂, hrest, hshows₂⟩ := herror (.link error) s₁ (hshows₁.held.trans hheld')
      have hattempt : Driver.attempt (Traced.perform call operation) s =
          .ok (.error (.link error)) s₁ := (bind_of_ok hrun).trans (bind_of_ok hrecord)
      exact ⟨_, .error (.fault (.communication (.link error))), s₂,
        of_driver_run ((bind_of_ok hattempt).trans hrest), ⟨.failure error, rfl, rfl⟩,
        Shows.of_driver (hshows.trans (hshows₁.trans hshows₂))
          (.error (.link error) : Except DriverError β)⟩
  | overflow =>
      rw [h] at hshows hrun
      have hattempt : Driver.attempt (Traced.perform call operation) s =
          .error .clockOverflow s' := bind_of_error hrun
      exact ⟨_, .error (.halt .clockOverflow), s', bind_of_error (bind_of_error hattempt),
        ⟨.overflow, rfl, rfl⟩, hshows.trace, hshows.held, hshows.controlFaults,
        hshows.numericFaults⟩

/-- A driver's operation that leaves a value as it is. -/
theorem follows_attempt (call : Answer α → Call) (operation : σ → LinkStep σ α)
    {next : Except DriverError α → Task (Traced σ) μ (Except DriverError α)}
    (hnext : ∀ answer, Returns (next answer) answer) :
    Follows (Guarded.ofDriver (Driver.attempt (Traced.perform call operation) >>= next))
      fun calls outcome => ∃ answer, calls = [call answer] ∧ outcome = answer.outcome := by
  refine .mono (follows_exchange call operation (fun a => hnext (.ok a)) fun e => hnext (.error e))
    fun calls outcome h => ?_
  obtain ⟨answer, hcalls, houtcome⟩ := h
  exact ⟨answer, hcalls, houtcome.trans answer.settled_ok⟩

/-- Waiting for a state. -/
theorem follows_receive (d : Driver σ) :
    Follows (μ := μ) (Guarded.ofDriver d.traced.receive) fun calls outcome =>
      ∃ answer, calls = [.receive answer] ∧ outcome = answer.outcome := by
  refine follows_attempt .receive _ fun answer => ?_
  cases answer with
  | error error => exact .pure _
  | ok state =>
      exact .bind (.count (fun _ => rfl) fun _ => rfl) <| .bind (.publish state) <|
        .bind (.report _) (.pure _)

/-- Sending a command that passes its check. -/
theorem follows_send (d : Driver σ) {c : Command} (hvalid : c.validate = .ok ()) :
    Follows (μ := μ) (Guarded.ofDriver (d.traced.send c)) fun calls outcome =>
      ∃ answer, calls = [.send c answer] ∧ outcome = answer.outcome := by
  unfold Driver.send
  rw [hvalid]
  refine follows_attempt (.send c) _ fun answer => ?_
  cases answer with
  | error error => exact .pure _
  | ok => exact .bind (.count (fun _ => rfl) fun _ => rfl) <| .bind (.report _) (.pure _)

/-- An operation of the driver that begins with quiet work. -/
theorem follows_driver_after {t : Task (Traced σ) μ α} {a : α}
    {f : α → Task (Traced σ) μ (Except DriverError β)} {P : List Call → Except Ending β → Prop}
    (ht : Returns t a) (hf : Follows (Guarded.ofDriver (f a)) P) :
    Follows (Guarded.ofDriver (t >>= f)) P := by
  intro s hheld
  obtain ⟨s', hrun, hshows⟩ := ht s hheld
  obtain ⟨calls, outcome, s'', hrest, hp, hmore⟩ := hf s' (hshows.held.trans hheld)
  refine ⟨calls, outcome, s'', ?_, hp, hshows.trans hmore⟩
  rw [← hrest]
  show EStateM.bind (t >>= f) _ s = EStateM.bind (f a) _ s'
  unfold EStateM.bind
  rw [bind_of_ok hrun]

/-- What the driver makes of a response. -/
def Request.settle (q : Request) : Response → Except DriverError Reply
  | .success reply => .ok reply
  | .rejected reason => .error (.rejected q.name reason)

/-- Making a request. -/
theorem follows_execute (d : Driver σ) (q : Request) :
    Follows (μ := μ) (Guarded.ofDriver (d.traced.execute q)) fun calls outcome =>
      ∃ answer, calls = [.request q answer] ∧ outcome = answer.settled q.settle := by
  refine follows_driver_after (.count (fun _ => rfl) fun _ => rfl) ?_
  refine follows_driver_after (.report _) ?_
  refine follows_exchange (.request q) _ (fun response => ?_) fun error => .pure _
  cases response with
  | success reply => exact .bind (.report _) (.pure _)
  | rejected reason =>
      exact .bind (.count (fun _ => rfl) fun _ => rfl) <| .bind (.report _) (.pure _)

end ArmControl
