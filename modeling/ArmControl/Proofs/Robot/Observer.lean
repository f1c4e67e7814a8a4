import ArmControl.Proofs.Robot.Anew
import ArmControl.Proofs.Tracing
import ArmControl.Proofs.Upkeep

/-!
# The last state received

Whoever looks at the observer of a driver, at whatever point of whatever program, sees the last
state that the link gave, and inside a callback this is the state that the callback was called with.
To say so a program is carried out by `Program.observe`, which takes a `Glance` at the observer
before each step and after each call, in the callbacks too, and keeps what it saw together with the
calls to the link until then. `observer_shows_last_received` is the main theorem.

Two things are shown of the glances, in two ways. That they show the state of the callback goes
along with the plain run, by `observed_coupling`, since callbacks are coupled at stations that have
their state. That they show the last state received is kept up by whole operations of the driver, by
`current_upkeep`: between an exchange and the publishing of its state it would not hold.
-/

namespace ArmControl

variable {σ μ α β : Type}

/-! ## The last state received -/

/-- The last state that was received in these calls. -/
def lastReceived (calls : List Call) : Option ArmState := (calls.filterMap Call.received?).getLast?

theorem last_received_snoc (calls : List Call) (call : Call) :
    lastReceived (calls ++ [call]) = call.received?.or (lastReceived calls) := by
  unfold lastReceived
  rw [List.filterMap_append, List.getLast?_append]
  cases hcall : call.received? <;> simp [hcall]

/-- The observer shows the last state received over the line, or what it showed at first. -/
def Current (first : Option ArmState) (s : Station (Traced σ) μ) : Prop :=
  s.latest = (lastReceived s.line.trace).or first

section Current

variable {first : Option ArmState} {s : Station (Traced σ) μ}

/-- An operation that receives nothing leaves the observer as it is. -/
theorem Current.exchanged (h : Current first s) (call : Answer α → Call)
    (operation : σ → LinkStep σ α) {answer : Answer α}
    (hanswer : (operation s.line.line).answer = answer) (hcall : (call answer).received? = none) :
    Current first (s.exchanged (Traced.perform call operation)) := by
  show s.latest = (lastReceived (s.line.trace ++ [call (operation s.line.line).answer])).or first
  rw [hanswer, last_received_snoc, hcall, Option.none_or]
  exact h

/-- The state that was received is shown once it is published. -/
theorem current_published (operation : σ → LinkStep σ ArmState) {state : ArmState}
    (hanswer : (operation s.line.line).answer = .value state) :
    Current first ((s.exchanged (Traced.perform .receive operation)).published state) := by
  show some state =
    (lastReceived (s.line.trace ++ [.receive (operation s.line.line).answer])).or first
  rw [hanswer, last_received_snoc]
  rfl

variable (first) in
/-- Every operation of a driver leaves its observer with the last state received, whether it fails
or not. -/
theorem current_upkeep (d : Driver σ) : Upkeep (μ := μ) d.traced fun _ s => Current first s where
  receive s hs := by
    rw [Driver.receive_run]
    cases hanswer : (d.traced.link.receive d.traced.timing.receiveTimeout s.line).answer with
    | value state => exact current_published (d.link.receive d.timing.receiveTimeout) hanswer
    | failure error =>
        exact hs.exchanged .receive (d.link.receive d.timing.receiveTimeout) hanswer rfl
    | overflow => exact hs.exchanged .receive (d.link.receive d.timing.receiveTimeout) hanswer rfl
  send c s hs := by
    have hsent : Current first (s.exchanged (d.traced.link.send c)) :=
      hs.exchanged (.send c) (d.link.send c) rfl rfl
    rw [Driver.send_run]
    cases c.validate with
    | error error => exact hs
    | ok => cases (d.traced.link.send c s.line).answer <;> exact hsent
  execute q s hs := by
    have hasked : Current first
        (s.exchanged (d.traced.link.request q d.traced.timing.requestTimeout)) :=
      hs.exchanged (.request q) (d.link.request q d.timing.requestTimeout) rfl rfl
    rw [Driver.execute_run]
    cases (d.traced.link.request q d.traced.timing.requestTimeout s.line).answer with
    | value response => cases response <;> exact hasked
    | failure error => exact hasked
    | overflow => exact hasked
  report _ _ _ hs := hs
  fail _ _ _ _ hs := hs
  controlFault _ _ hs := hs
  numericFault _ _ hs := hs

end Current

/-! ## Looking at the observer -/

/-- What is seen of the observer at one point of a program, with the calls that were made over the
line until then and the state that the callback was called with, if the point is inside one. -/
structure Glance where
  calls : List Call
  given : Option ArmState
  shown : Option ArmState

/-- The memory of a program that looks at the observer: its own, and what was seen so far. -/
structure Observing (μ : Type) where
  memory : μ
  glances : List Glance := []

namespace Station

/-- The station after a look at its observer. -/
def glanced (given : Option ArmState) (s : Station (Traced σ) (Observing μ)) :
    Station (Traced σ) (Observing μ) :=
  { s with memory.glances := s.memory.glances ++ [⟨s.line.trace, given, s.latest⟩] }

/-- The station without its trace and without what was seen. -/
def unobserved (s : Station (Traced σ) (Observing μ)) : Station σ μ :=
  { s with line := s.line.line, memory := s.memory.memory }

end Station

namespace Program

/-- Looks at the observer. -/
def glance (given : Option ArmState) : Task (Traced σ) (Observing μ) Unit :=
  modify (Station.glanced given)

/-- Carries the program out over a traced line and looks at the observer before each step, before
each call and after it, and does the same in the callbacks. -/
def observe (r : Robot σ) (limit : Nat) :
    {α : Type} → (given : Option ArmState) → Program μ α → Task (Traced σ) (Observing μ) α
  | _, given, done a => do
      glance given
      pure a
  | _, given, recollect next => do
      glance given
      observe r limit given (next (← recollected).memory)
  | _, given, remember memory next => do
      glance given
      modify fun s => { s with memory.memory := memory }
      observe r limit given next
  | _, given, inject injection next => do
      glance given
      disturb r.traced injection
      observe r limit given next
  | _, given, inspect next => do
      glance given
      observe r limit given (next (← view r.traced))
  | _, given, controlTorques torque next => do
      glance given
      let result ← r.traced.controlTorques limit
        fun state period => observe r limit (some state) (torque state period)
      glance given
      observe r limit given (next result)
  | _, given, controlTorquesWithMotion torque motion next => do
      glance given
      let result ← r.traced.controlTorquesWithMotion limit
        (fun state period => observe r limit (some state) (torque state period))
        (fun state period => observe r limit (some state) (motion state period))
      glance given
      observe r limit given (next result)
  | _, given, controlMotion motion mode next => do
      glance given
      let result ← r.traced.controlMotion limit
        (fun state period => observe r limit (some state) (motion state period)) mode
      glance given
      observe r limit given (next result)
  | _, given, read mode keepOn next => do
      glance given
      let result ← r.traced.read limit mode
        fun state => observe r limit (some state) (keepOn state)
      glance given
      observe r limit given (next result)
  | _, given, readOnce next => do
      glance given
      let result ← r.traced.readOnce
      glance given
      observe r limit given (next result)
  | _, given, execute request next => do
      glance given
      let result ← r.traced.execute request
      glance given
      observe r limit given (next result)

theorem observe_call (r : Robot σ) (limit : Nat) (given : Option ArmState) (use : ProgramUse μ β)
    (next : Except RobotError β → Program μ α) :
    observe r limit given (call use next) = (do
      glance given
      let result ← (use.mapGiven fun state => observe r limit (some state)).run r.traced limit
      glance given
      observe r limit given (next result)) := by
  cases use <;> rfl

end Program

/-- What is seen is the last state received in the calls until then. -/
def Glance.Current (g : Glance) : Prop := g.shown = lastReceived g.calls

/-- Inside a callback, what is seen is the state that the callback was called with. -/
def Glance.Given (g : Glance) : Prop := ∀ state ∈ g.given, g.shown = some state

/-! ## What is seen inside a callback -/

/-- A station whose observer is looked at goes with the station that it is, at a point inside a
callback for the given state or outside of any. -/
structure Observes (given : Option ArmState) (s : Station (Traced σ) (Observing μ))
    (s' : Station σ μ) : Prop where
  unobserved : s.unobserved = s'
  glances : ∀ g ∈ s.memory.glances, g.Given
  given : ∀ state ∈ given, s.held = true ∧ s.latest = some state

/-- Two such stations go together while a session runs. -/
structure ObservesWithin (s : Station (Traced σ) (Observing μ)) (s' : Station σ μ) : Prop where
  unobserved : s.unobserved = s'
  glances : ∀ g ∈ s.memory.glances, g.Given
  held : s.held = true

namespace Observes

variable {given : Option ArmState} {s : Station (Traced σ) (Observing μ)} {s' : Station σ μ}

/-- A look at the observer is not noticed. -/
theorem glanced (h : Observes given s s') : Observes given (s.glanced given) s' where
  unobserved := h.unobserved
  glances g hmem := by
    rcases List.mem_append.mp hmem with hmem | hmem
    · exact h.glances g hmem
    · obtain rfl := List.mem_singleton.mp hmem
      exact fun state hstate => (h.given state hstate).2
  given := h.given

/-- A change that is made alike and leaves alone the observer, the lock and what was seen. -/
theorem congr (h : Observes given s s') {t : Station (Traced σ) (Observing μ)} {t' : Station σ μ}
    (hunobserved : t.unobserved = t') (hglances : t.memory.glances = s.memory.glances)
    (hheld : t.held = s.held) (hlatest : t.latest = s.latest) : Observes given t t' where
  unobserved := hunobserved
  glances := by
    rw [hglances]
    exact h.glances
  given := by
    rw [hheld, hlatest]
    exact h.given

end Observes

/-- A driver does the same whether its observer is looked at or not, and it shows a state that was
received as soon as anyone is given it. -/
theorem observed_coupling (d : Driver σ) :
    Coupling (μ := Observing μ) d.traced d ObservesWithin fun state => Observes (some state) where
  timing := rfl
  receive timeout s s' h := by
    obtain rfl := h.unobserved
    exact ⟨rfl, rfl, h.glances, h.held⟩
  send c s s' h := by
    obtain rfl := h.unobserved
    exact ⟨rfl, rfl, h.glances, h.held⟩
  request q timeout s s' h := by
    obtain rfl := h.unobserved
    exact ⟨rfl, rfl, h.glances, h.held⟩
  count _ _ _ h := ⟨congrArg (Station.counted _) h.unobserved, h.glances, h.held⟩
  report events _ _ h := ⟨congrArg (Station.reported events) h.unobserved, h.glances, h.held⟩
  publish state s _ h := by
    refine ⟨congrArg (Station.published state) h.unobserved, h.glances, fun state' hstate => ?_⟩
    obtain rfl := Option.mem_some.mp hstate
    exact ⟨h.held, rfl⟩
  report_known events _ _ _ h :=
    h.congr (congrArg (Station.reported events) h.unobserved) rfl rfl rfl
  known h := ⟨h.unobserved, h.glances, (h.given _ rfl).1⟩

/-- Outside of any callback nothing is known of the state, so sessions may begin and end. -/
theorem observed_bracket (kind : SessionKind) :
    Bracket (σ := Traced σ) (μ := Observing μ) kind (fun _ => Observes none) (Observes none)
      ObservesWithin (Observes none) where
  held h := (congrArg Station.held h.unobserved).symm
  refuse h _ := h.congr (congrArg (Station.refused kind) h.unobserved) rfl rfl rfl
  acquire h _ := ⟨congrArg (Station.acquired kind) h.unobserved, h.glances, rfl⟩
  release h := ⟨congrArg (Station.released kind) h.unobserved, h.glances, fun _ h => nomatch h⟩
  overflow h := ⟨congrArg (Station.released kind) h.unobserved, h.glances, fun _ h => nomatch h⟩
  unfinished h := ⟨h.unobserved, h.glances, fun _ h => nomatch h⟩

section Programs

variable (r : Robot σ) (limit : Nat) {given : Option ArmState}
  {E : Halt → Pairing (Traced σ) (Observing μ) σ μ}

theorem coupled_glance {t : Task (Traced σ) (Observing μ) α} {t' : Task σ μ α}
    {Q : α → Pairing (Traced σ) (Observing μ) σ μ} (h : Coupled E (Observes given) t t' Q) :
    Coupled E (Observes given) (Program.glance given >>= fun _ => t) t' Q :=
  fun s s' hs => h (s.glanced given) s' hs.glanced

/-- Inside a callback two calls of the same kind are both refused. -/
theorem coupled_refused {state : ArmState} {use : TaskUse (Traced σ) (Observing μ) β}
    {use' : ProgramUse μ β} (hkind : use.kind = use'.kind) :
    Coupled E (Observes (some state)) (use.run r.traced limit) (use'.run r limit)
      fun _ => Observes (some state) := by
  intro s s' hs
  obtain rfl := hs.unobserved
  obtain ⟨hheld, -⟩ := hs.given state rfl
  refine .inl ⟨_, _, _, use.run_busy r.traced limit hheld, use'.run_busy r limit hheld, ?_⟩
  rw [hkind]
  exact hs.congr rfl rfl rfl rfl

/-- A program whose observer is looked at does what the program does, and what is seen inside its
callbacks is the state that they were called with. Inside a callback it does not halt. -/
theorem observe_coupled (program : Program μ α)
    (hhalt : given = none → ∀ cause s s', Observes none s s' → E cause s s') :
    Coupled E (Observes given) (program.observe r limit given) (program.run r limit)
      fun _ => Observes given := by
  induction program using Program.induction_calls generalizing given E with
  | done a => exact coupled_glance (.pure fun _ _ hs => hs)
  | recollect next ih =>
      refine coupled_glance fun s s' hs => ?_
      obtain rfl := hs.unobserved
      exact ih s.memory.memory hhalt s _ hs
  | remember memory next ih =>
      refine coupled_glance fun s s' hs => ?_
      obtain rfl := hs.unobserved
      exact ih hhalt _ _ (hs.congr rfl rfl rfl rfl)
  | inject injection next ih =>
      refine coupled_glance fun s s' hs => ?_
      obtain rfl := hs.unobserved
      exact ih hhalt _ _ (hs.congr rfl rfl rfl rfl)
  | inspect next ih =>
      refine coupled_glance fun s s' hs => ?_
      obtain rfl := hs.unobserved
      exact ih _ hhalt s _ hs
  | call use next iheach ih =>
      rw [Program.observe_call, Program.run_call]
      refine coupled_glance (.bind ?_ fun result => coupled_glance (ih result hhalt))
      cases given with
      | some state =>
          -- The session that is running has the driver, so the callbacks of this call never run.
          exact coupled_refused r limit (by cases use <;> rfl)
      | none =>
          have huse : UseCoupled ObservesWithin (fun state => Observes (some state))
              (use.mapGiven fun state => Program.observe r limit (some state))
              (use.mapGiven fun _ => Program.run r limit) :=
            .of_each_given iheach fun program h state => h fun hgiven => nomatch hgiven
          have hrun := use_coupled r.traced r (observed_coupling r.driver) rfl rfl huse
            (observed_bracket _) limit
          exact hrun.mono (fun _ _ hs => hs) (fun _ _ _ hs => hs) (hhalt rfl)

/-! ## What is seen at every point -/

/-- The observer and all that was seen of it show the last state received. -/
def AllCurrent (s : Station (Traced σ) (Observing μ)) : Prop :=
  (∀ g ∈ s.memory.glances, g.Current) ∧ Current none s

theorem Current.latest {s : Station (Traced σ) μ} (h : Current none s) :
    s.latest = lastReceived s.line.trace := by
  unfold Current at h
  rwa [Option.or_none] at h

theorem glance_keeps_current :
    Maintains (AllCurrent (σ := σ) (μ := μ)) (Program.glance given) := by
  refine .modify fun s hs => ⟨fun g hmem => ?_, hs.2⟩
  rcases List.mem_append.mp hmem with hmem | hmem
  · exact hs.1 g hmem
  · obtain rfl := List.mem_singleton.mp hmem
    exact hs.2.latest

/-- Sessions begin and end without a change of the observer, and a refusal is none either. -/
theorem current_enclosure (kind : SessionKind) :
    Enclosure kind (AllCurrent (σ := σ) (μ := μ)) (fun _ => AllCurrent) fun _ => AllCurrent where
  refuse h _ := h
  acquire h _ := h
  release h := h
  unfinished h := h

/-- A program sees the last state received at every point. -/
theorem observe_keeps_current (program : Program μ α) (given : Option ArmState) :
    Maintains AllCurrent (program.observe r limit given) := by
  induction program using Program.induction_calls generalizing given with
  | done a => exact .bind glance_keeps_current fun _ => .pure a
  | recollect next ih =>
      exact .bind glance_keeps_current fun _ s hs => ih s.memory.memory given s hs
  | remember memory next ih =>
      exact .bind glance_keeps_current fun _ => .bind (.modify fun _ hs => hs) fun _ => ih given
  | inject injection next ih =>
      exact .bind glance_keeps_current fun _ => .bind (.modify fun _ hs => hs) fun _ => ih given
  | inspect next ih => exact .bind glance_keeps_current fun _ s hs => ih _ given s hs
  | call use next iheach ih =>
      rw [Program.observe_call]
      have hcalls : (use.mapGiven fun state => Program.observe r limit (some state)).Each
          (Maintains AllCurrent) :=
        TaskUse.each_given iheach fun program h state => h (some state)
      have hupkeep : Upkeep r.driver.traced fun _ => AllCurrent (σ := σ) (μ := μ) :=
        (current_upkeep none r.driver).frame fun _ (w : Observing μ) => ∀ g ∈ w.glances, g.Current
      have huse : Maintains AllCurrent
          ((use.mapGiven fun state => Program.observe r limit (some state)).run r.traced limit) :=
        fun s hs =>
          (hupkeep.use_settles (r := r.traced) limit (current_enclosure _) hcalls hs).kept
      exact .bind glance_keeps_current fun _ => .bind huse fun result =>
        .bind glance_keeps_current fun _ => ih result given

end Programs

/-! ## Single calls -/

section Alone

variable (r : Robot σ) (limit : Nat)

/-- After a call the observer shows the last state that was received in it, or what it showed
before when none was, however the call ended. -/
theorem use_latest (use : ProgramUse μ α) (s : Station σ μ) :
    ((use.run r limit).after s).latest = (lastReceived (use.trace r limit s)).or s.latest := by
  have henclosure (kind : SessionKind) : Enclosure (σ := Traced σ) (μ := μ) kind
      (Current s.latest) (fun _ => Current s.latest) fun _ => Current s.latest :=
    ⟨fun h _ => h, fun h _ => h, id, id⟩
  have hstir (s₁ s₂ : Station (Traced σ) μ) (hstir : Stir r.traced s₁ s₂)
      (hs : Current s.latest s₁) : Current s.latest s₂ := by
    cases hstir with
    | remember memory => exact hs
    | inject injection => exact hs
    | refuse kind => exact hs
  have hnote (call : Call) (s₁ : Station (Traced σ) μ) (hcall : call.isExchange = false)
      (hs : Current s.latest s₁) : Current s.latest (s₁.noted call) := by
    have hreceived : call.received? = none := by cases call <;> first | rfl | cases hcall
    show s₁.latest = (lastReceived (s₁.line.trace ++ [call])).or s.latest
    rw [last_received_snoc, hreceived, Option.none_or]
    exact hs
  have hsettled := (current_upkeep s.latest r.driver).traced_use henclosure hstir hnote limit use
    (s := s.traced) rfl
  rw [use_after]
  exact hsettled.kept

/-- A call that is refused because a session runs leaves the observer as it is. -/
theorem refused_latest (use : ProgramUse μ α) (s : Occupied σ μ) :
    ((use.run r limit).after s.station).latest = s.station.latest := by
  unfold Task.after
  rw [use.run_busy r limit s.held]
  rfl

/-- A configuration request leaves the observer as it is, whatever comes of it. -/
theorem request_latest (q : Request) (s : Station σ μ) :
    ((ProgramUse.run r limit (.execute q)).after s).latest = s.latest := by
  cases hheld : s.held with
  | true => exact refused_latest r limit _ ⟨s, hheld⟩
  | false =>
      obtain ⟨outcome, s', hconduct, -⟩ := use_conduct r limit (.execute q) ⟨s, hheld⟩
      rw [use_latest]
      generalize ProgramUse.trace r limit (.execute q) s = calls at hconduct ⊢
      cases hconduct <;> rfl

end Alone

/-! ## The main theorem -/

/-- What is seen is the last state received, and inside a callback the state that it was called
with. -/
structure Glance.Faithful (g : Glance) : Prop where
  current : g.Current
  given : g.Given

/-- All that was seen is faithful, and the observer shows the last state received. -/
structure Observed (s : Station (Traced σ) (Observing μ)) : Prop where
  glances : ∀ g ∈ s.memory.glances, g.Faithful
  latest : s.latest = lastReceived s.line.trace

theorem AllCurrent.observed {s : Station (Traced σ) (Observing μ)} {s' : Station σ μ}
    (h : AllCurrent s) (hs : Observes none s s') : Observed s where
  glances g hmem := ⟨h.1 g hmem, hs.glances g hmem⟩
  latest := h.2.latest

/-- The observer always shows the last state received. From when a robot is connected, whatever
program uses it, over whatever link and with any outcome of each call: looking at the observer
changes nothing else, at every point it shows the last state that the link gave until then, or
nothing before the first, and inside a callback this is the state that the callback was called with.
The same holds when the program has ended or halted, and as the clock of a link may overflow at any
of its operations, it holds at the moment of each. A single call leaves the observer with the last
state received in it, whatever came of that state, and as it was if none was received. A
configuration request and a call that is refused because a session runs leave it as it was. -/
theorem observer_shows_last_received (r : Robot σ) (limit : Nat) :
    (∀ (program : Program μ α) (line : σ) (memory : μ) (journal : Array Event),
      match program.observe r limit none (.fresh ⟨line, []⟩ ⟨memory, []⟩ journal) with
      | .ok a s =>
          program.run r limit (.fresh line memory journal) = .ok a s.unobserved ∧ Observed s
      | .error cause s =>
          program.run r limit (.fresh line memory journal) = .error cause s.unobserved ∧
            Observed s) ∧
      (∀ (use : ProgramUse μ α) (s : Station σ μ),
        ((use.run r limit).after s).latest = (lastReceived (use.trace r limit s)).or s.latest) ∧
      (∀ (q : Request) (s : Station σ μ),
        ((ProgramUse.run r limit (.execute q)).after s).latest = s.latest) ∧
      ∀ (use : ProgramUse μ α) (s : Occupied σ μ),
        ((use.run r limit).after s.station).latest = s.station.latest := by
  refine ⟨fun program line memory journal => ?_, use_latest r limit, request_latest r limit,
    refused_latest r limit⟩
  have hcurrent := observe_keeps_current r limit program none
    (.fresh ⟨line, []⟩ ⟨memory, []⟩ journal) ⟨(fun _ h => nomatch h), rfl⟩
  have hfresh : Observes none (.fresh ⟨line, []⟩ ⟨memory, []⟩ journal)
      (.fresh line memory journal) := ⟨rfl, (fun _ h => nomatch h), fun _ h => nomatch h⟩
  unfold Task.after at hcurrent
  rcases observe_coupled r limit (E := fun _ => Observes none) program (fun _ _ _ _ h => h) _ _
    hfresh with ⟨a, s, s', hobserve, hrun, hs⟩ | ⟨cause, s, s', hobserve, hrun, hs⟩
  · rw [hobserve] at hcurrent ⊢
    obtain rfl := hs.unobserved
    exact ⟨hrun, hcurrent.observed hs⟩
  · rw [hobserve] at hcurrent ⊢
    obtain rfl := hs.unobserved
    exact ⟨hrun, hcurrent.observed hs⟩

/-- A predicate sees the state that it judges, also the one with which it stops. -/
example :
    let program : Program Unit (Except RobotError Unit) :=
      .read none (fun state => .done (state.messageId < 2)) .done
    let s := Task.after (program.observe Prepared.robot 3 none) (.fresh ⟨{}, []⟩ ⟨(), []⟩ #[])
    s.memory.glances.map (fun g => (g.given.map ArmState.messageId, g.shown.map ArmState.messageId))
      = [(none, none), (some 1, some 1), (some 2, some 2), (none, some 2), (none, some 2)] := by
  rfl

end ArmControl
