import ArmControl.Proofs.Control.Plan
import ArmControl.Proofs.Robot.Protocol
import ArmControl.Proofs.Simulator.Deeds

/-!
# A calm simulator

An open simulator into which nothing was injected does what its client expects of it. Its states
come one step after another, as long as there is time for them, it accepts every command, and it
enters every mode that is requested. `Running` says so of what happened since some point, and
`Running.of_history` shows it of all calls that make no request.
-/

namespace ArmControl

namespace Simulator

/-! ## Operations -/

/-- An open simulator into which nothing was injected that has not taken effect. -/
structure Calm (s : Simulator) : Prop where
  queue : s.queue = #[]
  pending : s.pending = {}

variable {s s' : Simulator}

namespace Calm

theorem opened (h : s.Calm) : s.pending.closed = false := by rw [h.pending]

theorem drain (h : s.Calm) : s.drain = s := drain_of_empty h.queue

theorem receive (h : s.Calm) (timeout : Duration) :
    s.receive timeout =
      match s.state.time.add? s.period with
      | none => ⟨s, s.drainEvents, .overflow⟩
      | some time =>
          ⟨{ s with state := s.advanced time, record := s.record.addState },
            s.drainEvents ++ [.stateProduced (s.advanced time).messageId],
            .value (s.advanced time)⟩ := by
  have hrun := receive_undisturbed h.opened (by rw [h.pending]) (by rw [h.pending]) timeout
  rw [h.drain] at hrun
  exact hrun

theorem send (h : s.Calm) (c : Command) :
    s.send c =
      ⟨{ s with
          state := applyCommand s.state c s.period.toSeconds
          record := s.record.addCommand c }, s.drainEvents, .value ()⟩ := by
  have hrun := send_undisturbed h.opened (by rw [h.pending]) c
  rw [h.drain] at hrun
  exact hrun

theorem request (h : s.Calm) (q : Request) :
    s.request q =
      ⟨{ s with
          state := (s.decided q).1
          record := s.record.addRequest q },
        s.drainEvents ++ [.requestAnswered q.name (s.decided q).2],
        .value (s.decided q).2⟩ := by
  have hrun := request_undisturbed h.opened (by rw [h.pending]) q
  rw [h.drain] at hrun
  exact hrun

/-- A mode that is requested is entered. -/
theorem enter (h : s.Calm) (mode : ControllerMode) :
    s.request (.setControllerMode mode) =
      ⟨{ s with
          state := { s.state with controllerMode := mode.reported }
          record := s.record.addRequest (.setControllerMode mode) },
        s.drainEvents ++ [.requestAnswered "SetControllerMode" (.success .done)],
        .value (.success .done)⟩ := by
  have hdecided : s.decided (.setControllerMode mode) =
      ({ s.drain.state with controllerMode := mode.reported }, .success .done) := rfl
  rw [h.request, hdecided, h.drain]
  rfl

/-- What the arm does and what is recorded disturbs nothing. -/
theorem change (h : s.Calm) (state : ArmState) (record : LinkRecord) :
    Calm { s with state, record } := by
  have hdrain : Simulator.drain { s with state, record } = { s with state, record } :=
    drain_of_empty h.queue
  refine ⟨h.queue, ?_⟩
  have hpending := h.pending
  unfold Simulator.pending at hpending ⊢
  rw [h.drain] at hpending
  rw [hdrain]
  exact hpending

/-- After a mode was requested, the simulator is calm and reports that mode. -/
theorem entered (h : s.Calm) {mode : ControllerMode} {answer : Answer Response}
    (hstep : Simulator.link.Step s (.called (.request (.setControllerMode mode) answer)) s') :
    answer = .value (.success .done) ∧ s'.Calm ∧ s'.period = s.period ∧
      s'.state = { s.state with controllerMode := mode.reported } := by
  cases hstep with
  | request q timeout =>
      show (s.request _).answer = _ ∧ (s.request _).line.Calm ∧ (s.request _).line.period = _ ∧
        (s.request _).line.state = _
      rw [h.enter]
      exact ⟨rfl, h.change _ _, rfl, rfl⟩
  | callback _ hexchange => cases hexchange

end Calm

/-! ## Running along -/

/-- A calm simulator after these calls: its clock has gone on by one step for each state, and the
states came as they should. -/
structure Running (start : Simulator) (calls : List Call) (s : Simulator) : Prop where
  calm : s.Calm
  period : s.period = start.period
  messageId : s.state.messageId = start.state.messageId + .ofNat (received calls).length
  time : s.state.time.nanos =
    start.state.time.nanos + (received calls).length * start.period.nanos
  controllerMode : s.state.controllerMode = start.state.controllerMode
  regular : Regular start.state start.period (received calls)
  answered : ∀ answer, .receive answer ∈ calls → (∃ state, answer = .value state) ∨
    UInt64.size * 1000000000 ≤
      start.state.time.nanos + ((received calls).length + 1) * start.period.nanos
  accepted : ∀ c answer, .send c answer ∈ calls → answer = .value ()

namespace Running

variable {start : Simulator} {calls : List Call}

theorem refl (h : s.Calm) : Running s [] s where
  calm := h
  period := rfl
  messageId := by simp [received]
  time := by simp [received]
  controllerMode := rfl
  regular := by intro i state hi; simp [received] at hi
  answered := by simp
  accepted := by simp

/-- A call that receives nothing, after which the simulator is where it was or was moved. -/
theorem quiet (h : Running start calls s) (hcalm : s'.Calm) (hperiod : s'.period = s.period)
    (hmoved : s.state.Moved s'.state) {call : Call} (hcall : call.received? = none)
    (hanswered : ∀ answer, call = .receive answer → UInt64.size * 1000000000 ≤
      start.state.time.nanos + ((received calls).length + 1) * start.period.nanos)
    (haccepted : ∀ c answer, call = .send c answer → answer = .value ()) :
    Running start (calls ++ [call]) s' := by
  have hreceived : received (calls ++ [call]) = received calls := by
    rw [received_append]
    simp [received, hcall]
  refine ⟨hcalm, hperiod.trans h.period, ?_, ?_, hmoved.controllerMode.trans h.controllerMode,
    ?_, ?_, ?_⟩
  · rw [hreceived, hmoved.messageId, h.messageId]
  · rw [hreceived, hmoved.time, h.time]
  · rw [hreceived]
    exact h.regular
  · intro answer hmem
    rw [hreceived]
    rcases List.mem_append.mp hmem with hmem | hmem
    · exact h.answered answer hmem
    · exact .inr (hanswered answer (List.mem_singleton.mp hmem).symm)
  · intro c answer hmem
    rcases List.mem_append.mp hmem with hmem | hmem
    · exact h.accepted c answer hmem
    · exact haccepted c answer (List.mem_singleton.mp hmem).symm

/-- A state comes, or there is no time left for it. -/
theorem receive (h : Running start calls s) (timeout : Duration) :
    Running start (calls ++ [.receive (s.receive timeout).answer]) (s.receive timeout).line := by
  rw [h.calm.receive]
  have hnext : s.state.time.nanos + s.period.nanos =
      start.state.time.nanos + ((received calls).length + 1) * start.period.nanos := by
    rw [h.time, h.period, Nat.add_mul, Nat.one_mul, Nat.add_assoc]
  cases htime : s.state.time.add? s.period with
  | none =>
      have hlate := Duration.add_eq_none htime
      rw [hnext] at hlate
      exact h.quiet h.calm rfl (.refl _) rfl (fun _ _ => hlate) fun _ _ heq => by cases heq
  | some time =>
      have hnanos : time.nanos =
          start.state.time.nanos + ((received calls).length + 1) * start.period.nanos := by
        rw [Duration.add_eq_some_iff.mp htime, hnext]
      have hdrain := h.calm.drain
      have hid : (s.advanced time).messageId =
          start.state.messageId + .ofNat ((received calls).length + 1) := by
        show s.drain.state.messageId + 1 = _
        rw [hdrain, h.messageId, UInt64.ofNat_add]
        exact UInt64.add_assoc ..
      have hmode : (s.advanced time).controllerMode = start.state.controllerMode := by
        show s.drain.state.controllerMode = _
        rw [hdrain, h.controllerMode]
      have hreceived : received (calls ++ [.receive (.value (s.advanced time))]) =
          received calls ++ [s.advanced time] := received_append ..
      have hlength : (received (calls ++ [.receive (.value (s.advanced time))])).length =
          (received calls).length + 1 := by
        rw [hreceived, List.length_append, List.length_singleton]
      refine ⟨h.calm.change _ _, h.period, ?_, ?_, hmode, ?_, ?_, ?_⟩
      · rw [hlength]
        exact hid
      · rw [hlength]
        exact hnanos
      · rw [hreceived]
        exact h.regular.snoc hid hnanos hmode
      · intro answer hmem
        rcases List.mem_append.mp hmem with hmem | hmem
        · refine (h.answered answer hmem).imp_right fun hlate => Nat.le_trans hlate ?_
          rw [hlength]
          exact Nat.add_le_add_left (Nat.mul_le_mul_right _ (Nat.le_succ _)) _
        · exact .inl ⟨_, Call.receive.inj (List.mem_singleton.mp hmem)⟩
      · intro c answer hmem
        rcases List.mem_append.mp hmem with hmem | hmem
        · exact h.accepted c answer hmem
        · cases List.mem_singleton.mp hmem

/-- A command is accepted. -/
theorem send (h : Running start calls s) (c : Command) :
    Running start (calls ++ [.send c (s.send c).answer]) (s.send c).line := by
  rw [h.calm.send]
  have hcalm := h.calm.change (applyCommand s.state c s.period.toSeconds) (s.record.addCommand c)
  have hreceived : (Call.send c (.value ())).received? = none := rfl
  exact h.quiet hcalm rfl (apply_command_moved ..) hreceived (fun _ heq => by cases heq)
    fun _ _ heq => (Call.send.inj heq).2.symm

/-- Any call but a request. -/
theorem step (h : Running start calls s) {call : Call}
    (hstep : Simulator.link.Step s (.called call) s') (hcall : call.isRequest = false) :
    Running start (calls ++ [call]) s' := by
  cases hstep with
  | receive timeout => exact h.receive timeout
  | send c => exact h.send c
  | request q timeout => cases hcall
  | callback _ hexchange =>
      have hreceived : call.received? = none := by
        cases call <;> first | rfl | cases hexchange
      exact h.quiet h.calm rfl (.refl _) hreceived (by rintro _ rfl; cases hexchange)
        (by rintro _ _ rfl; cases hexchange)

/-- Calls that make no request and disturb nothing. -/
theorem of_history (hstart : start.Calm)
    (h : Simulator.link.History start (calls.map .called) s)
    (hcalls : ∀ call ∈ calls, call.isRequest = false) : Running start calls s := by
  generalize hdeeds : calls.map Deed.called = deeds at h
  induction h generalizing calls with
  | start =>
      obtain rfl := List.map_eq_nil_iff.mp hdeeds
      exact .refl hstart
  | @snoc deeds line line' deed _ hstep ih =>
      obtain ⟨calls, last, rfl, rfl, hlast⟩ := List.map_eq_append_iff.mp hdeeds
      obtain ⟨call, rfl, rfl⟩ := List.map_eq_singleton_iff.mp hlast
      exact (ih (fun call hmem => hcalls call (by simp [hmem])) rfl).step hstep
        (hcalls call (by simp))

end Running

end Simulator

end ArmControl
