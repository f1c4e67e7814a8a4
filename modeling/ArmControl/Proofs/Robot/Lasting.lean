import ArmControl.Proofs.Commands

/-!
# What lasts on a line

A property of a line that injections and the operations of a driver keep is kept by everything that
can be done with a robot: by whole programs, which may make further calls and inject in their
callbacks, and by any sequence of uses of a driver with injections between them. `Lasting` says what
has to be shown of the operations; `Lasting.program` and `Lasting.driver_run` follow.
-/

namespace ArmControl

variable {σ μ α β : Type}

/-! ## Whole runs -/

/-- The calls that are made over the line while a program is carried out, in their order. -/
def Program.trace (r : Robot σ) (limit : Nat) (program : Program μ α) (s : Station σ μ) :
    List Call :=
  (Task.after (program.run r.traced limit) s.traced).line.trace

/-- Something that happens to a driver. -/
inductive DriverEvent
  | used (use : DriverUse)
  | injected (injection : Injection)

namespace DriverEvent

/-- Lets it happen, whatever comes of it. -/
def run (d : Driver σ) : DriverEvent → Task σ μ Unit
  | used use => use.run d
  | injected injection =>
      modify fun s => { s with line := d.link.inject injection s.line }

end DriverEvent

namespace Driver

/-- Lets one thing after another happen to a driver. -/
def undergo (d : Driver σ) : List DriverEvent → Task σ μ Unit
  | [] => pure ()
  | event :: rest => do
      event.run d
      undergo d rest

/-- The calls to the link that are made meanwhile. -/
def eventTrace (d : Driver σ) (events : List DriverEvent) (s : Station σ μ) : List Call :=
  (Task.after (d.traced.undergo events) s.traced).line.trace

end Driver

/-! ## What lasts -/

/-- A property of a line that injections and the operations of a driver keep. -/
structure Lasting (d : Driver σ) (P : σ → Prop) : Prop where
  inject : ∀ injection line, P line → P (d.link.inject injection line)
  receive : ∀ line, P line → P (d.link.receive d.timing.receiveTimeout line).line
  send : ∀ c line, c.validate = .ok () → P line → P (d.link.send c line).line
  request : ∀ q line, P line → P (d.link.request q d.timing.requestTimeout line).line

namespace Lasting

variable {r : Robot σ} {d : Driver σ} {P : σ → Prop}

/-- A callback can only inject. -/
theorem callback (h : Lasting r.driver P) (limit : Nat) (program : Program μ α) :
    Maintains (Along P none) (program.run r limit) := by
  refine .of_stirs limit program (fun _ hs => hs.1) fun s s' hstir hs => ?_
  refine ⟨hstir.held.trans hs.1, ?_⟩
  cases hstir with
  | remember memory => exact hs.2
  | inject injection => exact h.inject injection _ hs.2
  | refuse kind => exact hs.2

theorem use (h : Lasting r.driver P) (limit : Nat) (use : ProgramUse μ α) :
    Maintains (fun s => P s.line) (use.run r limit) := by
  have hprograms : (use.mapTask (Program.run r limit)).Each (Maintains (Along P none)) :=
    TaskUse.each_of_forall use fun program => h.callback limit program
  have hupkeep := along_upkeep (μ := μ) r.driver h.receive h.send h.request
  intro s hs
  exact Settled.kept (hupkeep.use_settles limit (along_enclosure _ P) hprograms hs)

/-- Over a traced line, a property that also outlasts the calls of callbacks is kept by a use whose
calls are all remembered. -/
theorem noted {P : Traced σ → Prop} (h : Lasting r.driver.traced P)
    (hnote : ∀ call t, call.isExchange = false → P t → P (t.note call)) (limit : Nat)
    (use : ProgramUse μ α) : Maintains (fun s => P s.line) (use.traced r limit) := by
  have henclosure (kind : SessionKind) : Enclosure (μ := μ) kind (fun s => P s.line)
      (fun _ s => P s.line) fun _ s => P s.line := ⟨fun h _ => h, fun h _ => h, id, id⟩
  have hstir (s s' : Station (Traced σ) μ) (hstir : Stir r.traced s s') (hs : P s.line) :
      P s'.line := by
    cases hstir with
    | remember memory => exact hs
    | inject injection => exact h.inject injection _ hs
    | refuse kind => exact hs
  intro s hs
  exact Settled.kept <| (line_upkeep r.driver.traced h.receive h.send h.request).traced_use
    henclosure hstir (fun call s hcall hs => hnote call s.line hcall hs) limit use hs

/-- A program keeps it, with all the calls that it makes. -/
theorem program (h : Lasting r.driver P) (limit : Nat) (program : Program μ α) :
    Maintains (fun s => P s.line) (program.run r limit) := by
  induction program using Program.induction_calls with
  | done a => exact .pure a
  | recollect next ih => exact fun s hs => ih s.memory s hs
  | remember memory next ih => exact fun s hs => ih _ hs
  | inject injection next ih => exact fun s hs => ih _ (h.inject injection s.line hs)
  | inspect next ih => exact fun s hs => ih (s.view r) s hs
  | call use next _ ih =>
      rw [Program.run_call]
      exact .bind (h.use limit use) ih

theorem event (h : Lasting d P) (event : DriverEvent) :
    Maintains (μ := μ) (fun s => P s.line) (event.run d) := by
  cases event with
  | used use => exact use.maintains (line_upkeep d h.receive h.send h.request)
  | injected injection => exact .modify fun s hs => h.inject injection s.line hs

/-- Whatever happens to a driver keeps it. -/
theorem driver_run (h : Lasting d P) (events : List DriverEvent) :
    Maintains (μ := μ) (fun s => P s.line) (d.undergo events) := by
  induction events with
  | nil => exact .pure ()
  | cons event rest ih => exact .bind (h.event event) fun _ => ih

end Lasting

end ArmControl
