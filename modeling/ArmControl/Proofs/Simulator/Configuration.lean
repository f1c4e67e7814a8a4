import ArmControl.Proofs.Simulator.Deeds

/-!
# What a controller is set to

A simulated controller reports the mode and the two frames that were written last, by an injection
or by a request that was granted. Commands never write them, and what is rejected or fails changes
nothing but the injection that it answers with. `last_writer_wins` is the main theorem; it also says
which wall is found for an id.
-/

namespace ArmControl

/-! ## Writing -/

namespace Deed

/-- The mode that the controller was brought into. -/
def mode? : Deed → Option ReportedMode
  | injected (.controllerMode mode) => some mode
  | called (.request (.setControllerMode mode) (.value (.success _))) => some mode.reported
  | _ => none

/-- The frame of the end effector that was set. -/
def endEffectorFrame? : Deed → Option Frame
  | called (.request (.setEndEffectorFrame frame) (.value (.success _))) => some frame
  | _ => none

/-- The frame of the stiffness that was set. -/
def stiffnessFrame? : Deed → Option Frame
  | called (.request (.setStiffnessFrame frame) (.value (.success _))) => some frame
  | _ => none

end Deed

/-- What a controller is set to. -/
structure Configuration where
  controllerMode : ReportedMode
  flangeToEndEffector : Frame
  endEffectorToStiffness : Frame

namespace Configuration

/-- After one deed. -/
def after (c : Configuration) (deed : Deed) : Configuration where
  controllerMode := deed.mode?.getD c.controllerMode
  flangeToEndEffector := deed.endEffectorFrame?.getD c.flangeToEndEffector
  endEffectorToStiffness := deed.stiffnessFrame?.getD c.endEffectorToStiffness

end Configuration

namespace ArmState

/-- What the controller in this state is set to. -/
def configuration (state : ArmState) : Configuration :=
  ⟨state.controllerMode, state.flangeToEndEffector, state.endEffectorToStiffness⟩

theorem Moved.configuration {before after : ArmState} (h : before.Moved after) :
    after.configuration = before.configuration := by
  unfold ArmState.configuration
  rw [h.controllerMode, h.flangeToEndEffector, h.endEffectorToStiffness]

/-- Only deeds that write are seen in what the controller is set to. -/
theorem after_configuration (period : Duration) (state : ArmState) (deed : Deed) :
    (state.after period deed).configuration = state.configuration.after deed := by
  cases deed with
  | injected injection => cases injection <;> rfl
  | called call =>
      cases call with
      | receive answer => cases answer <;> rfl
      | send c answer =>
          cases answer with
          | value => exact (Simulator.apply_command_moved state c period.toSeconds).configuration
          | failure | overflow => rfl
      | request q answer =>
          cases answer with
          | value response =>
              cases response with
              | success reply => cases q <;> rfl
              | rejected reason => cases q <;> rfl
          | failure | overflow => cases q <;> rfl
      | torque | motion | predicate => rfl

theorem controllerMode_written : Written controllerMode Deed.mode? where
  after period state deed :=
    congrArg Configuration.controllerMode (state.after_configuration period deed)
  shown _ := rfl

theorem flangeToEndEffector_written : Written flangeToEndEffector Deed.endEffectorFrame? where
  after period state deed :=
    congrArg Configuration.flangeToEndEffector (state.after_configuration period deed)
  shown _ := rfl

theorem endEffectorToStiffness_written : Written endEffectorToStiffness Deed.stiffnessFrame? where
  after period state deed :=
    congrArg Configuration.endEffectorToStiffness (state.after_configuration period deed)
  shown _ := rfl

end ArmState

/-! ## Walls -/

/-- The wall that belongs to an id: the last one that was configured with it, or else an inactive
one without size. -/
inductive LastWall (walls : List Wall) (id : Int32) : Wall → Prop
  | configured {before after : List Wall} {wall : Wall} :
      walls = before ++ wall :: after → wall.id = id → (∀ other ∈ after, other.id ≠ id) →
      LastWall walls id wall
  | absent : (∀ wall ∈ walls, wall.id ≠ id) →
      LastWall walls id ⟨id, false, .replicate _ 0, .identity⟩

namespace Simulator

theorem wall_of_last (walls : List Wall) (id : Int32) : LastWall walls id (wallOf walls id) := by
  unfold wallOf
  cases hfind : walls.reverse.find? fun wall => wall.id == id with
  | none =>
      refine .absent fun wall hmem heq => ?_
      have hother := List.find?_eq_none.mp hfind wall (List.mem_reverse.mpr hmem)
      simp [heq] at hother
  | some wall =>
      obtain ⟨hid, after, before, hreverse, hafter⟩ := List.find?_eq_some_iff_append.mp hfind
      have hwalls : walls = before.reverse ++ wall :: after.reverse := by
        rw [← List.reverse_reverse walls, hreverse]
        simp
      refine .configured hwalls (by simpa using hid) fun other hmem heq => ?_
      have hother := hafter other (List.mem_reverse.mp hmem)
      simp [heq] at hother

/-! ## Operations -/

/-- Injections that are taken in set modes of the arm, and nothing else of it. -/
theorem drain_state (s : Simulator) :
    ∃ controllerMode robotMode, s.drain.state = { s.state with controllerMode, robotMode } := by
  -- Without its modes the state is the same before and after.
  have hrest := drain_keeps
    (fun s => { s.state with controllerMode := default, robotMode := default })
    (fun _ i => by cases i <;> rfl) (fun _ => rfl) s
  exact ⟨s.drain.state.controllerMode, s.drain.state.robotMode, congrArg (fun state : ArmState =>
    { state with
      controllerMode := s.drain.state.controllerMode
      robotMode := s.drain.state.robotMode }) hrest⟩

variable {s : Simulator}

/-- A command that does not get through uses up a failure at most. -/
theorem send_unaccepted {c : Command} (h : (s.send c).answer ≠ .value ()) :
    ∃ sendFailures, (s.send c).line = { s.drain with sendFailures } := by
  cases hopen : s.pending.closed with
  | true => exact ⟨s.drain.sendFailures, by rw [send_closed hopen]⟩
  | false =>
      rcases Nat.eq_zero_or_pos s.pending.sendFailures with hfailures | hfailures
      · rw [send_undisturbed hopen hfailures] at h
        exact absurd rfl h
      · exact ⟨s.drain.sendFailures - 1, by rw [send_failed hopen hfailures]⟩

/-- A request that is answered is recorded, and does what was decided or what was injected. -/
theorem request_line {q : Request} {response : Response}
    (h : (s.request q).answer = .value response) :
    (∃ reason rest, s.pending.rejections = reason :: rest ∧ response = .rejected reason ∧
      (s.request q).line =
        { s.drain with rejections := rest, record := s.drain.record.addRequest q }) ∨
    response = (s.decided q).2 ∧ (s.request q).line =
      { s.drain with state := (s.decided q).1, record := s.drain.record.addRequest q } := by
  cases hopen : s.pending.closed with
  | true =>
      rw [request_closed hopen] at h
      cases h
  | false =>
      cases hrejections : s.pending.rejections with
      | cons reason rest =>
          rw [request_rejected hopen hrejections] at h ⊢
          exact .inl ⟨reason, rest, rfl, (Answer.value.inj h).symm, rfl⟩
      | nil =>
          rw [request_undisturbed hopen hrejections] at h ⊢
          exact .inr ⟨(Answer.value.inj h).symm, rfl⟩

/-- A rejected request uses up an injected rejection at most. -/
theorem request_refused {q : Request} {reason : Refusal}
    (h : (s.request q).answer = .value (.rejected reason)) :
    ∃ rejections, (s.request q).line =
      { s.drain with rejections, record := s.drain.record.addRequest q } := by
  rcases request_line h with ⟨_, rest, -, -, hline⟩ | ⟨hresponse, hline⟩
  · exact ⟨rest, hline⟩
  · have hdecided := s.decided_spec q
    rw [← hresponse] at hdecided
    have hstate : (s.decided q).1 = s.drain.state := hdecided
    exact ⟨s.drain.rejections, by rw [hline, hstate]⟩

/-- A request of a kind that sets nothing is recorded and no more. -/
theorem request_sets_nothing {q : Request} {reply : Reply} (hq : q.setsSomething = false)
    (h : (s.request q).answer = .value (.success reply)) :
    (s.request q).line = { s.drain with record := s.drain.record.addRequest q } := by
  rcases request_line h with ⟨_, _, -, hresponse, -⟩ | ⟨hresponse, hline⟩
  · cases hresponse
  · have hdecided := s.decided_spec q
    rw [← hresponse] at hdecided
    have hstate : (s.decided q).1 = q.effect s.drain.state := hdecided.2
    rw [hline, hstate, Request.effect_of_sets_nothing hq]

/-- A wall is found for every id that is not negative. -/
theorem request_wall {id : Int32} (hid : ¬ id < 0) (hopen : s.pending.closed = false) :
    (s.request (.getCartesianLimit id)).answer =
      match s.pending.rejections with
      | reason :: _ => .value (.rejected reason)
      | [] => .value (.success (.wall (wallOf s.walls id))) := by
  have hvalid : (Request.getCartesianLimit id).validate = .ok () := if_neg hid
  have hdecided : (s.decided (.getCartesianLimit id)).2 = .success (.wall (wallOf s.walls id)) := by
    unfold decided
    rw [hvalid, ← s.drain_walls]
    rfl
  have hanswer := request_answer hopen (.getCartesianLimit id)
  rw [hdecided] at hanswer
  exact hanswer

/-! ## The main theorem -/

variable {start : Simulator} {deeds : List Deed}

theorem history_walls (h : Simulator.link.History start deeds s) : s.walls = start.walls := by
  induction h with
  | start => rfl
  | snoc _ hstep ih => exact (step_leaves hstep).walls.trans ih

/-- What a simulator is set to, told by what it went through, and what its operations change. -/
structure Configured (start : Simulator) (deeds : List Deed) (s : Simulator) : Prop where
  /-- Every state shows what was written last before it was handed out. -/
  states : ∀ earlier state later, deeds = earlier ++ .called (.receive (.value state)) :: later →
    state.controllerMode = lastWritten Deed.mode? start.state.controllerMode earlier ∧
      state.flangeToEndEffector =
        lastWritten Deed.endEffectorFrame? start.state.flangeToEndEffector earlier ∧
      state.endEffectorToStiffness =
        lastWritten Deed.stiffnessFrame? start.state.endEffectorToStiffness earlier
  /-- Commands write nothing. -/
  send : ∀ c, (s.send c).line.drain.state.configuration = s.drain.state.configuration
  /-- Injections that are taken in set modes. -/
  drained : ∃ controllerMode robotMode,
    s.drain.state = { s.state with controllerMode, robotMode }
  /-- A command that fails leaves all as it was, apart from the failures that wait. -/
  failed : ∀ c, (s.send c).answer ≠ .value () →
    ∃ sendFailures, (s.send c).line = { s.drain with sendFailures }
  /-- A request that is rejected leaves all as it was, apart from the rejections that wait. -/
  rejected : ∀ q reason, (s.request q).answer = .value (.rejected reason) →
    ∃ rejections, (s.request q).line =
      { s.drain with rejections, record := s.drain.record.addRequest q }
  /-- A request that is granted leaves all as it was if its kind sets nothing. -/
  granted : ∀ q reply, (s.request q).answer = .value (.success reply) → q.setsSomething = false →
    (s.request q).line = { s.drain with record := s.drain.record.addRequest q }
  /-- The wall for an id is the last one configured with it. -/
  wall : ∀ id : Int32, ¬ id < 0 → s.pending.closed = false →
    ∃ wall, LastWall start.walls id wall ∧
      (s.request (.getCartesianLimit id)).answer =
        match s.pending.rejections with
        | reason :: _ => .value (.rejected reason)
        | [] => .value (.success (.wall wall))

/-- After any injections and operations on a simulator, every state that it handed out reports the
mode and the frames that were written last before it, and only requests that are granted and
injections write them. What fails or is rejected leaves the simulator as it was, and the wall that
is found for an id is the last one that was configured with it. -/
theorem last_writer_wins (period : Duration) (version : UInt16) (walls : List Wall)
    (state : ArmState) (past : link.Past (create period version walls state)) :
    Configured (create period version walls state) past.deeds past.line where
  states earlier received later hdeeds := by
    have hhistory := past.history
    rw [hdeeds] at hhistory
    exact ⟨ArmState.controllerMode_written.handed_out hhistory,
      ArmState.flangeToEndEffector_written.handed_out hhistory,
      ArmState.endEffectorToStiffness_written.handed_out hhistory⟩
  send c := by
    rw [(past.line.send_leaves c).state, ArmState.after_configuration]
    cases (past.line.send c).answer <;> rfl
  drained := past.line.drain_state
  failed _ := send_unaccepted
  rejected _ _ := request_refused
  granted _ _ h hq := request_sets_nothing hq h
  wall id hid hopen := by
    refine ⟨wallOf past.line.walls id, ?_, request_wall hid hopen⟩
    have hwalls : past.line.walls = walls := history_walls past.history
    rw [hwalls]
    exact wall_of_last walls id

end Simulator

end ArmControl
