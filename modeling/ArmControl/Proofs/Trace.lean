import ArmControl.Robot.Program

/-!
# Traces

What a session does shows in the calls that it makes, to its link and to its callbacks. A `Traced`
line remembers these calls in their order. Every link, driver and robot can be used over a traced
line, and `Control.trace` is what a control session leaves there. That remembering changes nothing
is the subject of `ArmControl.Proofs.Tracing`.
-/

namespace ArmControl

/-- What holds of every element of a list and those before it, when the list grows at its end. -/
theorem forall_split_snoc {α : Type} {P : List α → α → Prop} {xs : List α} {x : α}
    (h : ∀ earlier y later, xs = earlier ++ y :: later → P earlier y) (hlast : P xs x) :
    ∀ earlier y later, xs ++ [x] = earlier ++ y :: later → P earlier y := by
  intro earlier y later heq
  rcases List.eq_nil_or_concat later with rfl | ⟨later, z, rfl⟩
  · obtain ⟨rfl, hx⟩ := List.append_inj' heq rfl
    obtain rfl : x = y := by simpa using hx
    exact hlast
  · rw [List.concat_eq_append, ← List.cons_append, ← List.append_assoc] at heq
    exact h earlier y later (List.append_inj' heq rfl).1

/-- What holds of every element with its index still does if it holds of one more at the end. -/
theorem forall_index_snoc {α : Type} {P : Nat → α → Prop} {xs : List α} {x : α}
    (h : ∀ i y, xs[i]? = some y → P i y) (hlast : P xs.length x) :
    ∀ i y, (xs ++ [x])[i]? = some y → P i y := by
  intro i y hi
  rcases Nat.lt_or_ge i xs.length with hlt | hge
  · rw [List.getElem?_append_left hlt] at hi
    exact h i y hi
  · rw [List.getElem?_append_right hge, List.getElem?_singleton] at hi
    split at hi
    next hzero =>
      obtain rfl : i = xs.length := by omega
      cases hi
      exact hlast
    next => cases hi

/-- A call that is made in a session, with what it gave. -/
inductive Call
  | receive (answer : Answer ArmState)
  | send (command : Command) (answer : Answer Unit)
  | request (request : Request) (answer : Answer Response)
  | torque (state : ArmState) (period : Duration) (output : Except String (Flow Torques))
  | motion (state : ArmState) (period : Duration) (output : Except String (Flow Target))
  | predicate (state : ArmState) (goOn : Bool)

namespace Call

/-- Whether the call goes to the link. -/
def isExchange : Call → Bool
  | receive _ | send _ _ | request _ _ => true
  | torque _ _ _ | motion _ _ _ | predicate _ _ => false

/-- The failure of the link that the call came to. -/
def failure? : Call → Option LinkError
  | receive (.failure error) | send _ (.failure error) | request _ (.failure error) => some error
  | _ => none

end Call

/-- A line that remembers the calls made over it. -/
structure Traced (σ : Type) where
  line : σ
  trace : List Call := []

namespace Traced

variable {σ μ α : Type}

/-- The line after one more call. -/
def note (call : Call) (t : Traced σ) : Traced σ := { t with trace := t.trace ++ [call] }

/-- Carries out an operation on the line and remembers it. -/
def perform (call : Answer α → Call) (operation : σ → LinkStep σ α) (t : Traced σ) :
    LinkStep (Traced σ) α where
  line := ⟨(operation t.line).line, t.trace ++ [call (operation t.line).answer]⟩
  events := (operation t.line).events
  answer := (operation t.line).answer

end Traced

variable {σ μ α : Type}

/-- The same link over a traced line. An injection is not a call. -/
def Link.traced (l : Link σ) : Link (Traced σ) where
  receive timeout := Traced.perform .receive (l.receive timeout)
  send c := Traced.perform (.send c) (l.send c)
  request q timeout := Traced.perform (.request q) (l.request q timeout)
  version t := l.version t.line
  inject injection t := { t with line := l.inject injection t.line }
  record t := l.record t.line

/-- The same driver over a traced line. -/
def Driver.traced (d : Driver σ) : Driver (Traced σ) := ⟨d.link.traced, d.timing, d.version⟩

/-- The same robot over a traced line. -/
def Robot.traced (r : Robot σ) : Robot (Traced σ) := ⟨r.driver.traced, r.settings, r.priority⟩

/-- The same station with a traced line, over which no call was made so far. -/
def Station.traced (s : Station σ μ) : Station (Traced σ) μ :=
  { s with line := { line := s.line } }

/-- The same station without the trace of its line. -/
def Station.untraced (s : Station (Traced σ) μ) : Station σ μ := { s with line := s.line.line }

/-- The station at the end of a task, however the task ends. -/
def Task.after (t : Task σ μ α) (s : Station σ μ) : Station σ μ :=
  match t s with
  | .ok _ s => s
  | .error _ s => s

/-! ## Sessions -/

/-- A station whose driver is held by a session. -/
structure Occupied (σ μ : Type) where
  station : Station σ μ
  held : station.held = true

/-- The callbacks of a control session as the programs that a user writes. -/
structure Scripts (μ : Type) where
  torque : Option (ArmState → Duration → Program μ (Except String (Flow Torques)))
  motion : Option (ArmState → Duration → Program μ (Except String (Flow Target)))

namespace Scripts

/-- The programs carried out on a robot. -/
def callbacks (scripts : Scripts μ) (r : Robot σ) (limit : Nat) : Callbacks σ μ where
  torque := scripts.torque.map fun script state period => (script state period).run r limit
  motion := scripts.motion.map fun script state period => (script state period).run r limit

/-- A callback that is remembered when it has answered. -/
def noting (call : ArmState → Duration → Except String (Flow α) → Call)
    (callback : Callback (Traced σ) μ α) : Callback (Traced σ) μ α := fun state period => do
  let output ← callback state period
  modify fun s => { s with line := s.line.note (call state period output) }
  pure output

/-- The programs carried out on the robot over a traced line, with their calls remembered. -/
def traced (scripts : Scripts μ) (r : Robot σ) (limit : Nat) : Callbacks (Traced σ) μ where
  torque := scripts.torque.map fun script =>
    noting .torque fun state period => (script state period).run r.traced limit
  motion := scripts.motion.map fun script =>
    noting .motion fun state period => (script state period).run r.traced limit

end Scripts

namespace Control

/-- A control session of a robot with the given programs as its callbacks. -/
def session (r : Robot σ) (supervisor : Supervisor) (scripts : Scripts μ) (limit : Nat) :
    Task σ μ (Except RobotError Nat) :=
  (run r.driver supervisor (scripts.callbacks r limit) limit).run

/-- The same session over a traced line. -/
def tracedSession (r : Robot σ) (supervisor : Supervisor) (scripts : Scripts μ) (limit : Nat) :
    Task (Traced σ) μ (Except RobotError Nat) :=
  (run r.driver.traced supervisor (scripts.traced r limit) limit).run

/-- The calls of a control session, in their order. -/
def trace (r : Robot σ) (supervisor : Supervisor) (scripts : Scripts μ) (limit : Nat)
    (s : Station σ μ) : List Call :=
  (Task.after (tracedSession r supervisor scripts limit) s.traced).line.trace

end Control

end ArmControl
