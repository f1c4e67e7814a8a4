import ArmControl.Link.Prepared
import ArmControl.Proofs.Busy

/-!
# Uses of a robot

A `RobotUse` is one call on a robot, whatever its callbacks are: tasks, when the call is made from
outside, or programs, as a user writes them. A program is then a chain of uses and of small steps
between them: `run_call` says how a use is carried out within a program, and by `induction_calls`
what holds of a program is shown for all uses at once.
-/

namespace ArmControl

universe u v w x

/-- A call on a robot, with callbacks for torques, for motions and for states read. -/
inductive RobotUse (τ ι κ : Type u) : Type → Type u
  | controlTorques (torque : τ) : RobotUse τ ι κ Unit
  | controlTorquesWithMotion (torque : τ) (motion : ι) : RobotUse τ ι κ Unit
  | controlMotion (motion : ι) (mode : ControllerMode) : RobotUse τ ι κ Unit
  | read (mode : Option ControllerMode) (keepOn : κ) : RobotUse τ ι κ Unit
  | readOnce : RobotUse τ ι κ ArmState
  | execute (request : Request) : RobotUse τ ι κ Reply

namespace RobotUse

variable {τ ι κ : Type u} {τ' ι' κ' : Type v} {α : Type}

/-- The same use with other callbacks. -/
def map (torque : τ → τ') (motion : ι → ι') (keepOn : κ → κ') :
    RobotUse τ ι κ α → RobotUse τ' ι' κ' α
  | controlTorques t => controlTorques (torque t)
  | controlTorquesWithMotion t m => controlTorquesWithMotion (torque t) (motion m)
  | controlMotion m mode => controlMotion (motion m) mode
  | read mode k => read mode (keepOn k)
  | readOnce => readOnce
  | execute request => execute request

theorem map_id (use : RobotUse τ ι κ α) :
    use.map (fun torque => torque) (fun motion => motion) (fun keepOn => keepOn) = use := by
  cases use <;> rfl

/-- What the use holds the driver for. -/
def kind : RobotUse τ ι κ α → SessionKind
  | controlTorques _ | controlTorquesWithMotion _ _ => .control
  | controlMotion _ _ => .motion
  | read _ _ => .read
  | readOnce => .readOnce
  | execute _ => .command

/-- Two uses of the same kind with the same arguments, whose callbacks are related. -/
inductive Related (T : τ → τ' → Prop) (I : ι → ι' → Prop) (K : κ → κ' → Prop) :
    {α : Type} → RobotUse τ ι κ α → RobotUse τ' ι' κ' α → Prop
  | controlTorques {torque : τ} {torque' : τ'} :
      T torque torque' → Related T I K (controlTorques torque) (controlTorques torque')
  | controlTorquesWithMotion {torque : τ} {torque' : τ'} {motion : ι} {motion' : ι'} :
      T torque torque' → I motion motion' →
      Related T I K (controlTorquesWithMotion torque motion)
        (controlTorquesWithMotion torque' motion')
  | controlMotion {motion : ι} {motion' : ι'} (mode : ControllerMode) :
      I motion motion' → Related T I K (controlMotion motion mode) (controlMotion motion' mode)
  | read (mode : Option ControllerMode) {keepOn : κ} {keepOn' : κ'} :
      K keepOn keepOn' → Related T I K (read mode keepOn) (read mode keepOn')
  | readOnce : Related T I K readOnce readOnce
  | execute (request : Request) : Related T I K (execute request) (execute request)

/-- Related callbacks may be changed into others that are related. -/
theorem Related.map {T : τ → τ' → Prop} {I : ι → ι' → Prop} {K : κ → κ' → Prop}
    {υ θ χ : Type w} {υ' θ' χ' : Type x} {T' : υ → υ' → Prop} {I' : θ → θ' → Prop}
    {K' : χ → χ' → Prop}
    {torque : τ → υ} {torque' : τ' → υ'} {motion : ι → θ} {motion' : ι' → θ'}
    {keepOn : κ → χ} {keepOn' : κ' → χ'} {use : RobotUse τ ι κ α} {use' : RobotUse τ' ι' κ' α}
    (h : Related T I K use use') (htorque : ∀ {t t'}, T t t' → T' (torque t) (torque' t'))
    (hmotion : ∀ {m m'}, I m m' → I' (motion m) (motion' m'))
    (hkeep : ∀ {k k'}, K k k' → K' (keepOn k) (keepOn' k')) :
    Related T' I' K' (use.map torque motion keepOn) (use'.map torque' motion' keepOn') := by
  cases h with
  | controlTorques ht => exact .controlTorques (htorque ht)
  | controlTorquesWithMotion ht hm => exact .controlTorquesWithMotion (htorque ht) (hmotion hm)
  | controlMotion mode hm => exact .controlMotion mode (hmotion hm)
  | read mode hk => exact .read mode (hkeep hk)
  | readOnce => exact .readOnce
  | execute request => exact .execute request

end RobotUse

variable {σ μ ν α β : Type}

/-- The station of a robot that was just connected: nothing was received or counted, and no session
runs. The log may have begun before. -/
def Station.fresh (line : σ) (memory : μ) (journal : Array Event) : Station σ μ :=
  { line, memory, journal }

/-- What can be seen of the station. -/
def Station.view (r : Robot σ) (s : Station σ μ) : View :=
  ⟨s.metrics, s.latest, s.held, r.driver.link.record s.line⟩

/-- A use whose callbacks are tasks. -/
abbrev TaskUse (σ μ : Type) :=
  RobotUse (Callback σ μ Torques) (Callback σ μ Target) (ArmState → Task σ μ Bool)

namespace TaskUse

/-- Makes the call on a robot. -/
def run (r : Robot σ) (limit : Nat) : TaskUse σ μ α → Task σ μ (Except RobotError α)
  | .controlTorques torque => r.controlTorques limit torque
  | .controlTorquesWithMotion torque motion => r.controlTorquesWithMotion limit torque motion
  | .controlMotion motion mode => r.controlMotion limit motion mode
  | .read mode keepOn => r.read limit mode keepOn
  | .readOnce => r.readOnce
  | .execute request => r.execute request

/-- While a session holds the driver every call is refused, whatever its arguments are. -/
theorem run_busy (r : Robot σ) (limit : Nat) (use : TaskUse σ μ α) {s : Station σ μ}
    (hheld : s.held = true) :
    use.run r limit s = .ok (.error .sessionBusy) (s.refused use.kind) := by
  cases use <;> exact hold_busy _ _ hheld

end TaskUse

/-- A use whose callbacks are programs. -/
abbrev ProgramUse (μ : Type) :=
  RobotUse (ArmState → Duration → Program μ (Except String (Flow Torques)))
    (ArmState → Duration → Program μ (Except String (Flow Target))) (ArmState → Program μ Bool)

namespace ProgramUse

/-- The use with callbacks that carry the programs out. -/
def mapTask (carry : {β : Type} → Program μ β → Task σ ν β) (use : ProgramUse μ α) :
    TaskUse σ ν α :=
  use.map (fun torque state period => carry (torque state period))
    (fun motion state period => carry (motion state period))
    fun keepOn state => carry (keepOn state)

/-- The use with callbacks that carry the programs out and know for which state they are called. -/
def mapGiven (carry : {β : Type} → ArmState → Program μ β → Task σ ν β) (use : ProgramUse μ α) :
    TaskUse σ ν α :=
  use.map (fun torque state period => carry state (torque state period))
    (fun motion state period => carry state (motion state period))
    fun keepOn state => carry state (keepOn state)

/-- The use with other programs as its callbacks. -/
def mapProgram (change : {β : Type} → Program μ β → Program ν β) (use : ProgramUse μ α) :
    ProgramUse ν α :=
  use.map (fun torque state period => change (torque state period))
    (fun motion state period => change (motion state period))
    fun keepOn state => change (keepOn state)

/-- Every program that a callback may become has this property. -/
def Each (P : {β : Type} → Program μ β → Prop) : ProgramUse μ α → Prop
  | .controlTorques torque => ∀ state period, P (torque state period)
  | .controlTorquesWithMotion torque motion =>
      (∀ state period, P (torque state period)) ∧ ∀ state period, P (motion state period)
  | .controlMotion motion _ => ∀ state period, P (motion state period)
  | .read _ keepOn => ∀ state, P (keepOn state)
  | .readOnce => True
  | .execute _ => True

/-- Each program has a property that all programs have. -/
theorem each_of_forall {P : {β : Type} → Program μ β → Prop} (use : ProgramUse μ α)
    (h : ∀ {β : Type} (program : Program μ β), P program) : use.Each P := by
  cases use with
  | controlTorques torque => exact fun _ _ => h _
  | controlTorquesWithMotion torque motion => exact ⟨fun _ _ => h _, fun _ _ => h _⟩
  | controlMotion motion mode => exact fun _ _ => h _
  | read mode keepOn => exact fun _ => h _
  | readOnce => trivial
  | execute request => trivial

/-- Makes the call on a robot, with the callbacks carried out on the same robot. -/
def run (r : Robot σ) (limit : Nat) (use : ProgramUse μ α) : Task σ μ (Except RobotError α) :=
  (use.mapTask (Program.run r limit)).run r limit

/-- While a session holds the driver every call is refused, whatever its arguments are. -/
theorem run_busy (r : Robot σ) (limit : Nat) (use : ProgramUse μ α) {s : Station σ μ}
    (hheld : s.held = true) :
    use.run r limit s = .ok (.error .sessionBusy) (s.refused use.kind) := by
  have hkind : (use.mapTask (Program.run r limit)).kind = use.kind := by cases use <;> rfl
  rw [← hkind]
  exact TaskUse.run_busy r limit _ hheld

end ProgramUse

namespace Program

/-- The program that makes a call and goes on with what comes of it. -/
def call (use : ProgramUse μ β) (next : Except RobotError β → Program μ α) : Program μ α :=
  match use with
  | .controlTorques torque => controlTorques torque next
  | .controlTorquesWithMotion torque motion => controlTorquesWithMotion torque motion next
  | .controlMotion motion mode => controlMotion motion mode next
  | .read mode keepOn => read mode keepOn next
  | .readOnce => readOnce next
  | .execute request => execute request next

theorem ProgramUse.map_task_map_program {carry : {β : Type} → Program ν β → Task σ ν β}
    {change : {β : Type} → Program μ β → Program ν β} (use : ProgramUse μ α) :
    (use.mapProgram change).mapTask carry = use.mapTask fun program => carry (change program) := by
  cases use <;> rfl

theorem run_recollect (r : Robot σ) (limit : Nat) (next : μ → Program μ α) (s : Station σ μ) :
    (recollect next).run r limit s = (next s.memory).run r limit s := rfl

theorem run_inspect (r : Robot σ) (limit : Nat) (next : View → Program μ α) (s : Station σ μ) :
    (inspect next).run r limit s = (next (s.view r)).run r limit s := rfl

theorem run_call (r : Robot σ) (limit : Nat) (use : ProgramUse μ β)
    (next : Except RobotError β → Program μ α) :
    (call use next).run r limit = use.run r limit >>= fun result => (next result).run r limit := by
  cases use <;> rfl

/-- What holds of a program, shown by cases on its first step, with one case for all uses. -/
theorem induction_calls {motive : {α : Type} → Program μ α → Prop}
    (done : ∀ {α : Type} (a : α), motive (done a))
    (recollect : ∀ {α : Type} (next : μ → Program μ α),
      (∀ memory, motive (next memory)) → motive (recollect next))
    (remember : ∀ {α : Type} (memory : μ) (next : Program μ α),
      motive next → motive (remember memory next))
    (inject : ∀ {α : Type} (injection : Injection) (next : Program μ α),
      motive next → motive (inject injection next))
    (inspect : ∀ {α : Type} (next : View → Program μ α),
      (∀ view, motive (next view)) → motive (inspect next))
    (call : ∀ {α β : Type} (use : ProgramUse μ β) (next : Except RobotError β → Program μ α),
      use.Each motive → (∀ result, motive (next result)) → motive (call use next))
    (program : Program μ α) : motive program := by
  induction program with
  | done a => exact done a
  | recollect next ih => exact recollect next ih
  | remember memory next ih => exact remember memory next ih
  | inject injection next ih => exact inject injection next ih
  | inspect next ih => exact inspect next ih
  | controlTorques torque next ihtorque ih => exact call (.controlTorques torque) next ihtorque ih
  | controlTorquesWithMotion torque motion next ihtorque ihmotion ih =>
      exact call (.controlTorquesWithMotion torque motion) next ⟨ihtorque, ihmotion⟩ ih
  | controlMotion motion mode next ihmotion ih =>
      exact call (.controlMotion motion mode) next ihmotion ih
  | read mode keepOn next ihkeep ih => exact call (.read mode keepOn) next ihkeep ih
  | readOnce next ih => exact call .readOnce next trivial ih
  | execute request next ih => exact call (.execute request) next trivial ih

end Program

/-- A robot over prepared answers, with the settings that are given when nothing else is said. -/
def Prepared.robot : Robot Prepared := { driver := ⟨Prepared.link, {}, 5⟩, settings := {} }

end ArmControl
