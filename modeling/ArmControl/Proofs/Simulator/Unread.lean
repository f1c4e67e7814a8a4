import ArmControl.Proofs.Simulator.Records
import ArmControl.Proofs.Validation
import Mathlib.Data.List.Forall2

/-!
# What is never read of a command

A command has room for more numbers than its mode makes the controller read. What is left over may
be anything at all: it is neither checked nor taken in. `unread_fields_never_count` is the main
theorem, for two commands that agree on what is read, and it concludes that a number which can make
a difference to the arm is always one that was checked. `Corresponds.history` is the same for whole
histories, in which every command may be replaced by one that agrees with it.
-/

namespace ArmControl

/-! ## Agreement -/

/-- Two motions that agree on what their mode makes the controller read. -/
structure Motion.Agrees (m m' : Motion) : Prop where
  mode : m.mode = m'.mode
  position : m.mode = .jointPosition → m.position = m'.position
  velocity : m.mode = .jointVelocity → m.velocity = m'.velocity
  frame : m.mode = .cartesianPosition → m.frame = m'.frame
  twist : m.mode = .cartesianVelocity → m.twist = m'.twist
  elbowValid : m.elbowValid = m'.elbowValid
  elbow : m.elbowValid = true → m.elbow = m'.elbow

/-- Two commands that agree on all but what is not read of their motions. -/
structure Command.Agrees (c c' : Command) : Prop where
  messageId : c.messageId = c'.messageId
  motion : Option.Rel Motion.Agrees c.motion c'.motion
  control : c.control = c'.control
  motionFinished : c.motionFinished = c'.motionFinished
  lastCycle : c.lastCycle = c'.lastCycle

namespace Motion

theorem Agrees.refl (m : Motion) : m.Agrees m :=
  ⟨rfl, fun _ => rfl, fun _ => rfl, fun _ => rfl, fun _ => rfl, rfl, fun _ => rfl⟩

variable {m m' : Motion}

theorem Agrees.validate_field (h : m.Agrees m') : m.validateField = m'.validateField := by
  unfold validateField
  rw [← h.mode]
  cases hmode : m.mode with
  | jointPosition => rw [h.position hmode]
  | jointVelocity => rw [h.velocity hmode]
  | cartesianPosition => rw [h.frame hmode]
  | cartesianVelocity => rw [h.twist hmode]
  | idle => rfl

theorem Agrees.validate (h : m.Agrees m') : m.validate = m'.validate := by
  unfold Motion.validate
  rw [h.validate_field, ← h.elbowValid]
  cases helbow : m.elbowValid with
  | true => rw [h.elbow helbow]
  | false => rfl

theorem Agrees.apply_field (h : m.Agrees m') (state : ArmState) (seconds : Float) :
    Simulator.applyField state m seconds = Simulator.applyField state m' seconds := by
  unfold Simulator.applyField
  rw [← h.mode]
  cases hmode : m.mode with
  | jointPosition => rw [h.position hmode]
  | jointVelocity => rw [h.velocity hmode]
  | cartesianPosition => rw [h.frame hmode]
  | cartesianVelocity => rw [h.twist hmode]
  | idle => rfl

theorem Agrees.apply (h : m.Agrees m') (state : ArmState) (seconds : Float) :
    Simulator.applyMotion state m seconds = Simulator.applyMotion state m' seconds := by
  unfold Simulator.applyMotion
  rw [h.apply_field, h.mode, ← h.elbowValid]
  cases helbow : m.elbowValid with
  | true => rw [h.elbow helbow]
  | false => rfl

end Motion

namespace Command

theorem Agrees.refl (c : Command) : c.Agrees c where
  messageId := rfl
  motion := by
    cases c.motion with
    | none => exact .none
    | some m => exact .some (.refl m)
  control := rfl
  motionFinished := rfl
  lastCycle := rfl

variable {c c' : Command}

/-- Either neither has a motion, or both have one and these agree. -/
theorem Agrees.motion_cases (h : c.Agrees c') :
    c.motion = none ∧ c'.motion = none ∨
      ∃ m m', c.motion = some m ∧ c'.motion = some m' ∧ m.Agrees m' := by
  have hrel := h.motion
  cases hmotion : c.motion with
  | none =>
      rw [hmotion] at hrel
      cases hmotion' : c'.motion with
      | none => exact .inl ⟨rfl, rfl⟩
      | some m' =>
          rw [hmotion'] at hrel
          cases hrel
  | some m =>
      rw [hmotion] at hrel
      cases hmotion' : c'.motion with
      | none =>
          rw [hmotion'] at hrel
          cases hrel
      | some m' =>
          rw [hmotion'] at hrel
          cases hrel with
          | some hagrees => exact .inr ⟨m, m', rfl, rfl, hagrees⟩

theorem Agrees.validate (h : c.Agrees c') : c.validate = c'.validate := by
  unfold Command.validate
  rw [h.control]
  rcases h.motion_cases with ⟨hnone, hnone'⟩ | ⟨m, m', hsome, hsome', hagrees⟩
  · rw [hnone, hnone']
  · simp only [hsome, hsome', hagrees.validate]

theorem Agrees.apply (h : c.Agrees c') (state : ArmState) (seconds : Float) :
    Simulator.applyCommand state c seconds = Simulator.applyCommand state c' seconds := by
  unfold Simulator.applyCommand
  rw [h.control, h.lastCycle]
  rcases h.motion_cases with ⟨hnone, hnone'⟩ | ⟨m, m', hsome, hsome', hagrees⟩
  · rw [hnone, hnone']
  · simp only [hsome, hsome', hagrees.apply]

end Command

/-! ## Numbers -/

/-- A place for a number in a command. -/
inductive Place
  | torque (i : Fin 7)
  | position (i : Fin 7)
  | velocity (i : Fin 7)
  | frame (i : Fin 16)
  | twist (i : Fin 6)
  | elbow (i : Fin 2)

namespace Torques

/-- The torques with a number put there. -/
def put (t : Torques) (x : Float) : Place → Torques
  | .torque i => ⟨t.torque.set i x⟩
  | _ => t

/-- Whether this is a place for a torque. -/
def counts : Place → Bool
  | .torque _ => true
  | _ => false

variable {place : Place}

theorem put_of_counts_eq_false (h : counts place = false) (t : Torques) (x : Float) :
    t.put x place = t := by
  cases place with
  | torque i => cases h
  | position | velocity | frame | twist | elbow => rfl

theorem put_checked (h : counts place = true) {t : Torques} {x : Float}
    (hvalid : (t.put x place).validate = .ok ()) : x.isFinite = true := by
  cases place with
  | torque i =>
      exact check_finite_ok_iff.mp hvalid x (Vector.mem_toList_iff.mpr (Vector.mem_set i.isLt))
  | position | velocity | frame | twist | elbow => cases h

end Torques

namespace Motion

/-- The motion with a number put there. -/
def put (m : Motion) (x : Float) : Place → Motion
  | .torque _ => m
  | .position i => { m with position := m.position.set i x }
  | .velocity i => { m with velocity := m.velocity.set i x }
  | .frame i => { m with frame := m.frame.set i x }
  | .twist i => { m with twist := m.twist.set i x }
  | .elbow i => { m with elbow := m.elbow.set i x }

/-- Whether the mode and the marks of a motion give the number there a meaning. -/
def counts (m : Motion) : Place → Bool
  | .torque _ => false
  | .position _ => m.mode = .jointPosition
  | .velocity _ => m.mode = .jointVelocity
  | .frame _ => m.mode = .cartesianPosition
  | .twist _ => m.mode = .cartesianVelocity
  | .elbow _ => m.elbowValid

variable {m : Motion} {place : Place}

/-- A number that does not count may be any other. -/
theorem put_agrees (h : m.counts place = false) (x : Float) : m.Agrees (m.put x place) := by
  have hmode {mode : GeneratorMode} (hother : decide (m.mode = mode) = false) {P : Prop} :
      m.mode = mode → P := fun heq => absurd heq (of_decide_eq_false hother)
  cases place with
  | torque i => exact .refl m
  | position i => exact { Agrees.refl m with position := hmode h }
  | velocity i => exact { Agrees.refl m with velocity := hmode h }
  | frame i => exact { Agrees.refl m with frame := hmode h }
  | twist i => exact { Agrees.refl m with twist := hmode h }
  | elbow i => exact { Agrees.refl m with elbow := fun heq => absurd heq (ne_true_of_eq_false h) }

/-- A number that counts is checked. -/
theorem put_checked (h : m.counts place = true) {x : Float}
    (hvalid : (m.put x place).validate = .ok ()) : x.isFinite = true := by
  obtain ⟨hfield, helbow⟩ := validate_ok_iff.mp hvalid
  have hset {n i : Nat} (v : Vector Float n) (hi : i < n) : x ∈ (v.set i x).toList :=
    Vector.mem_toList_iff.mpr (Vector.mem_set hi)
  have hmode : (m.put x place).mode = m.mode := by cases place <;> rfl
  unfold validateField at hfield
  rw [hmode] at hfield
  cases place with
  | torque i => cases h
  | position i =>
      rw [of_decide_eq_true h] at hfield
      exact check_finite_ok_iff.mp hfield x (hset m.position i.isLt)
  | velocity i =>
      rw [of_decide_eq_true h] at hfield
      exact check_finite_ok_iff.mp hfield x (hset m.velocity i.isLt)
  | frame i =>
      rw [of_decide_eq_true h] at hfield
      have hfinite := (and_then_ok_iff.mp hfield).1
      exact check_finite_ok_iff.mp hfinite x (hset m.frame i.isLt)
  | twist i =>
      rw [of_decide_eq_true h] at hfield
      exact check_finite_ok_iff.mp hfield x (hset m.twist i.isLt)
  | elbow i => exact check_finite_ok_iff.mp (helbow h) x (hset m.elbow i.isLt)

end Motion

namespace Command

/-- The command with a number put there, if it has such a place. -/
def put (c : Command) (x : Float) (place : Place) : Command :=
  { c with control := c.control.map (·.put x place), motion := c.motion.map (·.put x place) }

/-- Whether the number there has a meaning. -/
def counts (c : Command) (place : Place) : Bool :=
  c.control.any (fun _ => Torques.counts place) || c.motion.any (·.counts place)

/-- With some other number there the command would do something else to some arm. -/
def Reads (c : Command) (place : Place) : Prop :=
  ∃ x state seconds, Simulator.applyCommand state (c.put x place) seconds ≠
    Simulator.applyCommand state c seconds

/-- Only finite numbers pass in this place. -/
def Checks (c : Command) (place : Place) : Prop :=
  ∀ x, (c.put x place).validate = .ok () → x.isFinite = true

variable {c : Command} {place : Place}

/-- A number without a meaning may be any other. -/
theorem put_agrees (h : c.counts place = false) (x : Float) : c.Agrees (c.put x place) := by
  obtain ⟨hcontrol, hmotion⟩ := Bool.or_eq_false_iff.mp h
  refine ⟨rfl, ?_, ?_, rfl, rfl⟩
  · show Option.Rel Motion.Agrees c.motion (c.motion.map (·.put x place))
    cases hm : c.motion with
    | none => exact .none
    | some m =>
        rw [hm] at hmotion
        exact .some (Motion.put_agrees hmotion x)
  · show c.control = c.control.map (·.put x place)
    cases ht : c.control with
    | none => rfl
    | some t =>
        rw [ht] at hcontrol
        exact congrArg some (Torques.put_of_counts_eq_false hcontrol t x).symm

/-- A number with a meaning is checked. -/
theorem put_checked (h : c.counts place = true) : c.Checks place := by
  intro x hvalid
  obtain ⟨hcontrol, hmotion⟩ := validate_ok_iff.mp hvalid
  rcases (Bool.or_eq_true _ _).mp h with htorque | hcounts
  · obtain ⟨t, ht, hplace⟩ := (Option.any_eq_true _ _).mp htorque
    have hput : t.put x place ∈ (c.put x place).control := Option.mem_map_of_mem _ ht
    exact Torques.put_checked hplace (hcontrol _ hput)
  · obtain ⟨m, hm, hplace⟩ := (Option.any_eq_true _ _).mp hcounts
    have hput : m.put x place ∈ (c.put x place).motion := Option.mem_map_of_mem _ hm
    exact Motion.put_checked hplace (hmotion _ hput)

/-- What can make a difference to an arm is checked. -/
theorem Reads.checks (h : c.Reads place) : c.Checks place := by
  obtain ⟨x, state, seconds, hdiffers⟩ := h
  cases hcounts : c.counts place with
  | true => exact put_checked hcounts
  | false => exact absurd ((put_agrees hcounts x).apply state seconds).symm hdiffers

end Command

/-! ## Simulators -/

namespace Simulator

/-- The simulator with other commands in its record. -/
def withSent (s : Simulator) (sent : Array Command) : Simulator :=
  { s with record := { s.record with sent } }

/-- Two simulators that tell nothing apart but what is not read of the commands that they
recorded. -/
structure Corresponds (s s' : Simulator) : Prop where
  same : s' = s.withSent s'.record.sent
  sent : List.Forall₂ Command.Agrees s.record.sent.toList s'.record.sent.toList

variable {s s' : Simulator}

theorem Corresponds.refl (s : Simulator) : s.Corresponds s where
  same := rfl
  sent := List.forall₂_same.mpr fun c _ => .refl c

theorem Corresponds.state (h : s.Corresponds s') : s'.state = s.state := by
  rw [h.same]
  rfl

/-! What an operation gives does not depend on the commands that are recorded. -/

theorem drain_with_sent (s : Simulator) (sent : Array Command) :
    (s.withSent sent).drain = s.drain.withSent sent := by
  have habsorb (s : Simulator) (i : Injection) :
      (s.withSent sent).absorb i = (s.absorb i).withSent sent := by cases i <;> rfl
  have hfold : s.queue.toList.foldl absorb (s.withSent sent) =
      (s.queue.toList.foldl absorb s).withSent sent := List.foldl_hom (withSent · sent) habsorb
  exact congrArg (fun s : Simulator => { s with queue := #[] }) hfold

theorem receive_with_sent (s : Simulator) (sent : Array Command) (timeout : Duration) :
    (s.withSent sent).receive timeout =
      { s.receive timeout with line := (s.receive timeout).line.withSent sent } := by
  unfold receive
  rw [drain_with_sent]
  rcases s.drain with ⟨period, _, _, state, _, timeouts, malformed, _, _, closed, _⟩
  cases closed with
  | true => rfl
  | false =>
      cases timeouts with
      | succ n => rfl
      | zero =>
          cases malformed with
          | succ n => rfl
          | zero =>
              dsimp only [withSent]
              cases state.time.add? period <;> rfl

theorem request_with_sent (s : Simulator) (sent : Array Command) (q : Request) :
    (s.withSent sent).request q =
      { s.request q with line := (s.request q).line.withSent sent } := by
  unfold request respond
  rw [drain_with_sent]
  rcases s.drain with ⟨_, _, _, _, _, _, _, _, rejections, closed, _⟩
  cases closed with
  | true => rfl
  | false =>
      cases rejections with
      | cons reason rest => rfl
      | nil =>
          dsimp only [withSent]
          cases q.validate <;> rfl

/-- Commands that agree are answered alike, and what they leave corresponds. -/
theorem Corresponds.send (h : s.Corresponds s') {c c' : Command} (hc : c.Agrees c') :
    (s'.send c').answer = (s.send c).answer ∧ (s'.send c').events = (s.send c).events ∧
      (s.send c).line.Corresponds (s'.send c').line := by
  have hdrain : s'.drain = s.drain.withSent s'.record.sent := by
    conv_lhs => rw [h.same, drain_with_sent]
  have hevents : s'.drainEvents = s.drainEvents := by
    rw [h.same]
    rfl
  have hrecord := drain_record s
  unfold Simulator.send
  rw [hdrain, hevents]
  revert hrecord
  rcases s.drain with ⟨period, _, _, state, _, _, _, sendFailures, _, closed, record⟩
  rintro rfl
  cases closed with
  | true => exact ⟨rfl, rfl, rfl, h.sent⟩
  | false =>
      cases sendFailures with
      | succ n => exact ⟨rfl, rfl, rfl, h.sent⟩
      | zero =>
          refine ⟨rfl, rfl, ?_, ?_⟩
          · simp only [withSent, hc.apply]
            rfl
          show List.Forall₂ _ (s.record.sent.push c).toList (s'.record.sent.push c').toList
          rw [Array.toList_push, Array.toList_push]
          exact List.rel_append h.sent (.cons hc .nil)

end Simulator

/-! ## Histories -/

/-- Deeds that differ at most in what is not read of a command. -/
inductive Deed.Agrees : Deed → Deed → Prop
  | same (deed : Deed) : Agrees deed deed
  | sent {c c' : Command} (answer : Answer Unit) :
      c.Agrees c' → Agrees (.called (.send c answer)) (.called (.send c' answer))

namespace Simulator

variable {start start' s s' t : Simulator} {deed deed' : Deed} {deeds deeds' : List Deed}

/-- What is no command happens alike beside another record of commands. -/
theorem step_with_sent (sent : Array Command) (hstep : link.Step s deed t)
    (hdeed : ∀ c answer, deed ≠ .called (.send c answer)) :
    link.Step (s.withSent sent) deed (t.withSent sent) := by
  cases hstep with
  | inject injection => exact .inject (l := link) injection
  | receive timeout =>
      have hstep : link.Step (s.withSent sent) _ _ := .receive timeout
      rw [show link.receive timeout (s.withSent sent) = _ from
        s.receive_with_sent sent timeout] at hstep
      exact hstep
  | send c => exact absurd rfl (hdeed c _)
  | request q timeout =>
      have hstep : link.Step (s.withSent sent) _ _ := .request q timeout
      rw [show link.request q timeout (s.withSent sent) = _ from
        s.request_with_sent sent q] at hstep
      exact hstep
  | callback call hcall => exact .callback call hcall

/-- What is no command leaves simulators that correspond. -/
theorem Corresponds.other (h : s.Corresponds s') (hstep : link.Step s deed t)
    (hdeed : ∀ c answer, deed ≠ .called (.send c answer)) :
    ∃ t', link.Step s' deed t' ∧ t.Corresponds t' := by
  have hnone : deed.accepted? = none := by
    cases haccepted : deed.accepted? with
    | none => rfl
    | some c =>
        unfold Deed.accepted? at haccepted
        split at haccepted
        · exact absurd rfl (hdeed _ _)
        · cases haccepted
  refine ⟨t.withSent s'.record.sent, ?_, rfl, ?_⟩
  · have hsame := h.same
    generalize s'.record.sent = sent at hsame ⊢
    subst hsame
    exact step_with_sent sent hstep hdeed
  · show List.Forall₂ _ t.record.sent.toList s'.record.sent.toList
    rw [(step_leaves hstep).record, LinkRecord.after_sent, hnone]
    simpa using h.sent

/-- One deed may be replaced by another that agrees with it. -/
theorem Corresponds.step (h : s.Corresponds s') (hdeed : deed.Agrees deed')
    (hstep : link.Step s deed t) : ∃ t', link.Step s' deed' t' ∧ t.Corresponds t' := by
  have hsend {c c' : Command} (hc : c.Agrees c') :
      ∃ t', link.Step s' (.called (.send c' (s.send c).answer)) t' ∧
        (s.send c).line.Corresponds t' := by
    obtain ⟨hanswer, -, hline⟩ := h.send hc
    rw [← hanswer]
    exact ⟨_, .send (l := link) c', hline⟩
  cases hdeed with
  | sent answer hc =>
      cases hstep with
      | send => exact hsend hc
      | callback _ hcall => cases hcall
  | same =>
      cases hstep with
      | send c => exact hsend (.refl c)
      | inject injection => exact h.other (.inject injection) (by simp)
      | receive timeout => exact h.other (.receive timeout) (by simp)
      | request q timeout => exact h.other (.request q timeout) (by simp)
      | callback call hcall =>
          refine h.other (.callback call hcall) fun c answer heq => ?_
          cases heq
          cases hcall

/-- What is paired with a list and one more element is a list and one more element. -/
theorem forall₂_snoc {α β : Type} {R : α → β → Prop} {xs : List α} {x : α} {ys : List β}
    (h : List.Forall₂ R (xs ++ [x]) ys) :
    ∃ ys' y, ys = ys' ++ [y] ∧ List.Forall₂ R xs ys' ∧ R x y := by
  induction xs generalizing ys with
  | nil =>
      cases h with
      | cons hxy hnil =>
          cases hnil
          exact ⟨[], _, rfl, .nil, hxy⟩
  | cons first rest ih =>
      cases h with
      | cons hfirst hrest =>
          obtain ⟨ys', y, rfl, hys, hxy⟩ := ih hrest
          exact ⟨_ :: ys', y, rfl, .cons hfirst hys, hxy⟩

/-- In whatever a simulator went through, any command may be another one that agrees with it: the
same happens, with the same states handed out, and it ends in the same state of the arm. -/
theorem Corresponds.history (h : start.Corresponds start')
    (hhistory : link.History start deeds s) (hdeeds : List.Forall₂ Deed.Agrees deeds deeds') :
    ∃ s', link.History start' deeds' s' ∧ s.Corresponds s' := by
  induction hhistory generalizing deeds' with
  | start =>
      cases hdeeds
      exact ⟨start', .start, h⟩
  | @snoc earlier line line' deed _ hstep ih =>
      obtain ⟨earlier', last, rfl, hearlier, hlast⟩ := forall₂_snoc hdeeds
      obtain ⟨middle, hmiddle, hcorresponds⟩ := ih hearlier
      obtain ⟨after, hafter, hcorresponds⟩ := hcorresponds.step hlast hstep
      exact ⟨after, hmiddle.snoc hafter, hcorresponds⟩

/-! ## The main theorem -/

/-- Neither the check nor any simulator tells the two commands apart. -/
structure Indistinct (c c' : Command) : Prop where
  validate : c'.validate = c.validate
  state : ∀ s : Simulator, (s.send c').line.state = (s.send c).line.state
  /-- All else that can be seen is the same as well. -/
  send : ∀ s : Simulator, (s.send c').answer = (s.send c).answer ∧
    (s.send c').events = (s.send c).events ∧ (s.send c).line.Corresponds (s.send c').line

/-- Commands that agree on the field of the mode, on a valid elbow and on all beside the motion pass
or fail the check alike, and every simulator is left in the same state by both. So a number that
makes a difference to an arm is one that is checked. -/
theorem unread_fields_never_count {c c' : Command} (h : c.Agrees c') :
    Indistinct c c' ∧ ∀ place, c.Reads place → c.Checks place where
  left :=
    { validate := h.validate.symm
      state := fun s => ((Corresponds.refl s).send h).2.2.state
      send := fun s => (Corresponds.refl s).send h }
  right _ := Command.Reads.checks

/-- To a command of velocities, a NaN among the positions makes no difference. A velocity does, so
it is checked. -/
theorem nan_among_unread_positions :
    (0 / 0 : Float).isFinite = false ∧
      Indistinct { motion := some { mode := .jointVelocity } }
        (Command.put { motion := some { mode := .jointVelocity } } (0 / 0) (.position 3)) ∧
      Command.Checks { motion := some { mode := .jointVelocity } } (.velocity 3) := by
  refine ⟨by decide +kernel, ?_⟩
  have hagrees : Command.Agrees { motion := some { mode := .jointVelocity } }
      (Command.put { motion := some { mode := .jointVelocity } } (0 / 0) (.position 3)) :=
    Command.put_agrees rfl (0 / 0)
  obtain ⟨hindistinct, hchecks⟩ := unread_fields_never_count hagrees
  refine ⟨hindistinct, hchecks _ ⟨1, {}, 0, fun heq => ?_⟩⟩
  have hvelocity : (1 : Float) = 0 := congrArg (fun state => state.velocity[3]) heq
  exact absurd hvelocity (by decide +kernel)

end Simulator

end ArmControl
