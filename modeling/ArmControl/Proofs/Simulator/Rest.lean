import ArmControl.Proofs.Robot.Lasting
import ArmControl.Proofs.Control.Outputs
import ArmControl.Proofs.Simulator.Completion
import ArmControl.Proofs.Simulator.Records

/-!
# At rest after a session

A control session that ends well leaves the arm at rest: no motion is followed any more, every joint
stands still, and the robot does not move. `sessions_end_at_rest` is the main theorem. It holds from
whatever state the simulated controller was left in, and with injections at any time: `Hosts` is a
line that holds a simulated controller and lets anyone inject before each of its operations. Read
`Course.last_command` and `apply_last_command` for the two halves of the argument.
-/

namespace ArmControl

variable {σ μ α : Type}

/-! ## The last command of a session -/

namespace RobotUse

universe u

variable {τ ι κ : Type u}

/-- Whether a motion is followed in this use. -/
def followsMotion : RobotUse τ ι κ α → Bool
  | controlTorquesWithMotion _ _ | controlMotion _ _ => true
  | controlTorques _ | read _ _ | readOnce | execute _ => false

end RobotUse

/-- Calls of which the last one hands over the only last command, which carries a motion or not. -/
structure Finished (withMotion : Bool) (calls earlier : List Call) (last : Command) : Prop where
  calls : calls = earlier ++ [.send last (.value ())]
  lastCycle : last.lastCycle = true
  motion : last.motion.isSome = withMotion
  earlier : ∀ c answer, .send c answer ∈ earlier → c.lastCycle = false

namespace Control

/-- The commands of rounds are those that were built in them. -/
theorem rounds_send {rounds : List Round} {c : Command} {answer : Answer Unit}
    (h : .send c answer ∈ rounds.flatMap Round.accepted) : ∃ r ∈ rounds, c = r.command := by
  have hfilter : Call.send c answer ∈ (rounds.flatMap Round.accepted).filter Call.isExchange :=
    List.mem_filter.mpr ⟨h, rfl⟩
  rw [rounds_filter] at hfilter
  obtain ⟨e, he, hsend⟩ := List.mem_flatMap.mp hfilter
  obtain ⟨r, hr, rfl⟩ := List.mem_map.mp he
  obtain ⟨rfl, -⟩ : c = r.command ∧ answer = .value () := by
    simpa [Exchange.calls, Round.exchange] using hsend
  exact ⟨r, hr, rfl⟩

/-- A session that ends well ends with its only last command. -/
theorem Course.last_command {supervisor : Supervisor} {nominal : Duration}
    {withTorque withMotion : Bool} {calls : List Call} {n : Nat}
    (h : Course withTorque withMotion (.opening supervisor nominal withTorque withMotion) calls
      (.ok n)) : ∃ earlier last, Finished withMotion calls earlier last := by
  cases h with
  | @terminal rounds p p' r _ _ hrounds hadvance hfinished hclosing =>
      have hcarries := forall_split_snoc hrounds.carries (hrounds.standing.carries hadvance)
      cases hclosing with
      | @closed state now p'' hcheck =>
          refine ⟨(rounds ++ [r]).flatMap Round.accepted ++ [.receive (.value state)],
            r.command.terminal state.messageId, ?_, rfl, ?_, ?_⟩
          · rw [List.append_assoc]
            rfl
          · exact (hcarries rounds r [] rfl).motionGiven
          · intro c answer hmem
            rcases List.mem_append.mp hmem with hmem | hmem
            · obtain ⟨r', hr', rfl⟩ := rounds_send hmem
              obtain ⟨before, after, hsplit⟩ := List.append_of_mem hr'
              exact (hcarries before r' after hsplit).lastCycle
            · cases List.mem_singleton.mp hmem

end Control

/-- What comes before a session is none of its commands. -/
theorem Finished.after_request {withMotion : Bool} {calls earlier : List Call} {last : Command}
    (h : Finished withMotion calls earlier last) (q : Request) (answer : Answer Response) :
    Finished withMotion (.request q answer :: calls) (.request q answer :: earlier) last where
  calls := by rw [h.calls]; rfl
  lastCycle := h.lastCycle
  motion := h.motion
  earlier c answer' hmem := by
    rcases List.mem_cons.mp hmem with heq | hmem
    · cases heq
    · exact h.earlier c answer' hmem

theorem ProgramUse.ControlConduct.last_command {r : Robot σ} {supervisor : Supervisor}
    {withTorque withMotion : Bool} {calls : List Call} {outcome : Except Ending Unit}
    (h : ControlConduct r supervisor withTorque withMotion calls outcome)
    (hok : outcome = .ok ()) : ∃ earlier last, Finished withMotion calls earlier last := by
  obtain ⟨hcourse⟩ := h
  next courseOutcome =>
    cases courseOutcome with
    | ok n => exact hcourse.last_command
    | error e => cases hok

/-- Every control session that ends well does. -/
theorem ProgramUse.Conduct.last_command {r : Robot σ} {use : ProgramUse μ α} {calls : List Call}
    {outcome : Except Ending α} {a : α} (hcontrol : use.isControl = true)
    (h : use.Conduct r calls outcome) (hok : outcome = .ok a) :
    ∃ earlier last, Finished use.followsMotion calls earlier last := by
  cases use with
  | controlTorques torque =>
      cases h with
      | refused _ _ => cases hok
      | allowed _ h => exact ControlConduct.last_command h hok
  | controlTorquesWithMotion torque motion =>
      cases h with
      | refused _ _ => cases hok
      | allowed _ h => exact ControlConduct.last_command h hok
  | controlMotion motion mode =>
      cases h with
      | refused _ _ => cases hok
      | allowed _ h =>
          cases h with
          | refused _ _ => cases hok
          | entered reply h =>
              obtain ⟨earlier, last, hfinished⟩ := ControlConduct.last_command h hok
              exact ⟨_, last, hfinished.after_request _ _⟩
  | read | readOnce | execute => cases hcontrol

/-! ## Lines that hold a simulated controller -/

/-- The call, if this was one. -/
def Deed.call? : Deed → Option Call
  | called call => some call
  | injected _ => none

namespace Simulator

/-- Leaves injections for the next operation, one after another. -/
def injectAll (injections : List Injection) (s : Simulator) : Simulator :=
  injections.foldl (fun s injection => s.inject injection) s

/-- A step of a line is an operation of the simulator that the line holds, before which anything may
have been injected. -/
def Meets (held : σ → Simulator) (line : σ) (step : LinkStep σ α)
    (operation : Simulator → LinkStep Simulator α) : Prop :=
  ∃ injections, step.answer = (operation ((held line).injectAll injections)).answer ∧
    held step.line = (operation ((held line).injectAll injections)).line

/-- A line that holds a simulated controller. -/
structure Hosts (l : Link σ) (held : σ → Simulator) : Prop where
  receive : ∀ timeout line, Meets held line (l.receive timeout line) (receive timeout)
  send : ∀ c line, Meets held line (l.send c line) (send c)
  request : ∀ q timeout line, Meets held line (l.request q timeout line) (request q)
  inject : ∀ injection line, held (l.inject injection line) = (held line).inject injection

/-- A simulated controller that nobody else has access to. -/
theorem link_hosts : Hosts link fun s => s where
  receive _ _ := ⟨[], rfl, rfl⟩
  send _ _ := ⟨[], rfl, rfl⟩
  request _ _ _ := ⟨[], rfl, rfl⟩
  inject _ _ := rfl

/-- A simulated controller into which others inject, with what they inject before each operation
that is still to come. -/
abbrev Meddled := Simulator × List (List Injection)

/-- Lets the others inject, and then carries out an operation. -/
def meddling (operation : Simulator → LinkStep Simulator α) (line : Meddled) :
    LinkStep Meddled α where
  line := ((operation (line.1.injectAll (line.2.headD []))).line, line.2.tail)
  events := (operation (line.1.injectAll (line.2.headD []))).events
  answer := (operation (line.1.injectAll (line.2.headD []))).answer

/-- Such a controller as a link. -/
def meddledLink : Link Meddled where
  receive timeout := meddling (receive timeout)
  send c := meddling (send c)
  request q _ := meddling (request q)
  version line := line.1.version
  inject injection line := (line.1.inject injection, line.2)
  record line := line.1.record

theorem meddled_link_hosts : Hosts meddledLink Prod.fst where
  receive _ line := ⟨line.2.headD [], rfl, rfl⟩
  send _ line := ⟨line.2.headD [], rfl, rfl⟩
  request _ _ line := ⟨line.2.headD [], rfl, rfl⟩
  inject _ _ := rfl

variable {start s s' : Simulator} {deeds : List Deed}

/-- Injections are history, too. -/
theorem history_inject_all (h : link.History start deeds s) (injections : List Injection) :
    link.History start (deeds ++ injections.map .injected) (s.injectAll injections) := by
  induction injections generalizing deeds s with
  | nil =>
      rw [List.map_nil, List.append_nil]
      exact h
  | cons injection rest ih =>
      rw [List.map_cons, List.append_cons]
      exact ih (h.snoc (.inject (l := link) injection))

/-- The calls over a traced line are those that its simulator went through, with injections between
them. -/
def Retold (held : σ → Simulator) (start : Simulator) (t : Traced σ) : Prop :=
  ∃ deeds, link.History start deeds (held t.line) ∧ deeds.filterMap Deed.call? = t.trace

variable {held : σ → Simulator} {t : Traced σ}

theorem Retold.step (h : Retold held start t) {step : LinkStep σ α}
    {operation : Simulator → LinkStep Simulator α} (hmeets : Meets held t.line step operation)
    (call : Answer α → Call) (hstep : ∀ s : Simulator,
      link.Step s (.called (call (operation s).answer)) (operation s).line) :
    Retold held start ⟨step.line, t.trace ++ [call step.answer]⟩ := by
  obtain ⟨deeds, hhistory, hcalls⟩ := h
  obtain ⟨injections, hanswer, hline⟩ := hmeets
  have hinjected : (injections.map Deed.injected).filterMap Deed.call? = [] := by
    simp [List.filterMap_map, Function.comp_def, Deed.call?]
  refine ⟨deeds ++ injections.map .injected ++ [.called (call step.answer)], ?_, ?_⟩
  · show link.History start _ (held step.line)
    rw [hanswer, hline]
    exact (history_inject_all hhistory injections).snoc (hstep _)
  · rw [List.filterMap_append, List.filterMap_append, hinjected, hcalls, List.append_nil]
    rfl

/-- Everything that is done with a driver can be retold. -/
theorem retold_lasting {d : Driver σ} (hhosts : Hosts d.link held) (start : Simulator) :
    Lasting d.traced (Retold held start) where
  inject injection t h := by
    obtain ⟨deeds, hhistory, hcalls⟩ := h
    refine ⟨deeds ++ [.injected injection], ?_, ?_⟩
    · show link.History start _ (held (d.link.inject injection t.line))
      rw [hhosts.inject]
      exact hhistory.snoc (.inject (l := link) injection)
    · rw [List.filterMap_append, hcalls]
      exact List.append_nil _
  receive t h := h.step (hhosts.receive d.timing.receiveTimeout t.line) .receive
    fun s => .receive (l := link) d.timing.receiveTimeout
  send c t _ h := h.step (hhosts.send c t.line) (.send c) fun s => .send (l := link) c
  request q t h := h.step (hhosts.request q d.timing.requestTimeout t.line) (.request q)
    fun s => .request (l := link) q d.timing.requestTimeout

/-- The calls of a use are what its simulator went through. -/
theorem use_retold (r : Robot σ) (hhosts : Hosts r.driver.link held) (limit : Nat)
    (use : ProgramUse μ α) (s : Station σ μ) :
    ∃ deeds, link.History (held s.line) deeds (held ((use.run r limit).after s).line) ∧
      deeds.filterMap Deed.call? = use.trace r limit s := by
  have hnote (call : Call) (t : Traced σ) (hcall : call.isExchange = false)
      (h : Retold held (held s.line) t) : Retold held (held s.line) (t.note call) := by
    obtain ⟨deeds, hhistory, hcalls⟩ := h
    refine ⟨deeds ++ [.called call], hhistory.snoc (.callback call hcall), ?_⟩
    rw [List.filterMap_append, hcalls]
    rfl
  rw [use_after]
  exact (retold_lasting hhosts (held s.line)).noted hnote limit use s.traced ⟨[], .start, rfl⟩

/-! ## Coming to rest -/

/-- The commands that a history adds to the record. -/
theorem history_sent (h : link.History start deeds s) :
    s.record.sent.toList = start.record.sent.toList ++ acceptedCommands deeds := by
  induction h with
  | start => exact (List.append_nil _).symm
  | snoc _ hstep ih =>
      rw [(step_leaves hstep).record, LinkRecord.after_sent, ih, accepted_commands_snoc,
        List.append_assoc]

/-- Injections that nobody takes in leave the arm and the record alone. -/
theorem history_untouched (h : link.History s deeds s')
    (hdeeds : deeds.filterMap Deed.call? = []) : s'.state = s.state ∧ s'.record = s.record := by
  induction h with
  | start => exact ⟨rfl, rfl⟩
  | @snoc deeds line line' deed _ hstep ih =>
      rw [List.filterMap_append, List.append_eq_nil_iff] at hdeeds
      obtain ⟨hbefore, hlast⟩ := hdeeds
      cases deed with
      | called call => cases hlast
      | injected injection =>
          cases hstep with
          | inject => exact ih hbefore

/-- A command that is accepted acts on the arm as it is with all injections taken in. -/
theorem send_accepted {c : Command} (h : (s.send c).answer = .value ()) :
    (s.send c).line.state = applyCommand s.drain.state c s.drain.period.toSeconds := by
  cases hopen : s.pending.closed with
  | true =>
      rw [send_closed hopen] at h
      cases h
  | false =>
      rcases Nat.eq_zero_or_pos s.pending.sendFailures with hfailures | hfailures
      · rw [send_undisturbed hopen hfailures]
      · rw [send_failed hopen hfailures] at h
        cases h

/-- An arm at rest. -/
structure Resting (state : ArmState) : Prop where
  generatorMode : state.generatorMode = .idle
  velocity : ∀ x ∈ state.velocity.toList, x = 0
  robotMode : state.robotMode ≠ .move

theorem rest_resting (state : ArmState) : Resting (rest state) where
  generatorMode := rfl
  velocity x hx := by
    have hx : x ∈ (Vector.replicate 7 (0 : Float)).toList := hx
    simpa using hx
  robotMode := by
    unfold rest
    cases state.robotMode <;> simp

/-- The last command of a session brings the arm to rest, and idle if it carries a motion. -/
theorem apply_last_command (state : ArmState) {c : Command} (seconds : Float)
    (hlast : c.lastCycle = true) :
    Resting (applyCommand state c seconds) ∧
      (c.motion.isSome = true → (applyCommand state c seconds).robotMode = .idle) := by
  unfold applyCommand
  rw [if_pos hlast]
  refine ⟨rest_resting _, fun hmotion => ?_⟩
  obtain ⟨m, hm⟩ := Option.isSome_iff_exists.mp hmotion
  rw [hm]
  rfl

/-- Only calls add commands to the record. -/
theorem accepted_commands_calls (deeds : List Deed) :
    acceptedCommands deeds = acceptedCommands ((deeds.filterMap Deed.call?).map .called) := by
  induction deeds with
  | nil => rfl
  | cons deed rest ih =>
      cases deed with
      | injected injection => exact ih
      | called call =>
          have hcons (deeds : List Deed) : acceptedCommands (.called call :: deeds) =
              (Deed.called call).accepted?.toList ++ acceptedCommands deeds := by
            cases h : (Deed.called call).accepted? <;> simp [acceptedCommands, h]
          rw [hcons, ih]
          exact (hcons _).symm

theorem step_send {c : Command} {answer : Answer Unit}
    (h : link.Step s (.called (.send c answer)) s') :
    answer = (s.send c).answer ∧ s' = (s.send c).line := by
  cases h with
  | send => exact ⟨rfl, rfl⟩
  | callback _ hcall => cases hcall

/-- What is left behind by a session that made these calls and ended well. -/
structure LeftAtRest (withMotion : Bool) (calls : List Call) (before after : Simulator) : Prop where
  resting : Resting after.state
  idle : withMotion = true → after.state.robotMode = .idle
  /-- The last command on record is the only last command of the session. -/
  recorded : ∃ earlier last, Finished withMotion calls earlier last ∧
    after.record.sent.toList =
      before.record.sent.toList ++ acceptedCommands (earlier.map .called) ++ [last]

/-- A history that ends with a last command, with injections after it at most. -/
theorem left_at_rest {withMotion : Bool} {calls earlier : List Call} {last : Command}
    (h : link.History start deeds s) (hdeeds : deeds.filterMap Deed.call? = calls)
    (hfinished : Finished withMotion calls earlier last) :
    LeftAtRest withMotion calls start s := by
  obtain rfl := hdeeds
  have hcalls := hfinished.calls
  obtain ⟨before, rest, rfl, -, hrest⟩ := List.filterMap_eq_append_iff.mp hcalls
  obtain ⟨between, deed, after, rfl, -, hdeed, hafter⟩ := List.filterMap_eq_cons_iff.mp hrest
  obtain rfl : deed = .called (.send last (.value ())) := by
    cases deed with
    | called call => exact congrArg Deed.called (Option.some.inj hdeed)
    | injected injection => cases hdeed
  have hsent := history_sent h
  rw [accepted_commands_calls, hcalls] at hsent
  rw [← List.append_assoc] at h
  obtain ⟨middle, next, -, hstep, hlater⟩ := h.visits
  obtain ⟨hanswer, rfl⟩ := step_send hstep
  obtain ⟨hstate, -⟩ := history_untouched hlater hafter
  rw [send_accepted hanswer.symm] at hstate
  obtain ⟨hresting, hidle⟩ := apply_last_command middle.drain.state middle.drain.period.toSeconds
    hfinished.lastCycle
  rw [← hstate] at hresting hidle
  refine ⟨hresting, fun hmotion => hidle (hfinished.motion.trans hmotion), earlier, last,
    hfinished, ?_⟩
  rw [hsent, List.map_append, List.append_assoc]
  simp [acceptedCommands, Deed.accepted?]

end Simulator

/-! ## The main theorem -/

/-- Whatever state a simulated controller was left in, whatever its callbacks do and whatever is
injected meanwhile, a control session that ends well leaves the arm at rest, and idle if a motion
was followed. The last command on record is the only one of the session that says that it is the
last. -/
theorem sessions_end_at_rest (r : Robot σ) {held : σ → Simulator}
    (hhosts : Simulator.Hosts r.driver.link held) (limit : Nat) (use : ProgramUse μ α)
    (hcontrol : use.isControl = true) {s s' : Station σ μ} {a : α}
    (hrun : use.run r limit s = .ok (.ok a) s') :
    Simulator.LeftAtRest use.followsMotion (use.trace r limit s) (held s.line) (held s'.line) := by
  -- A session that was refused does not end well, so no other one had the driver.
  have hfree : s.held = false := by
    cases hheld : s.held with
    | false => rfl
    | true =>
        rw [use.run_busy r limit hheld] at hrun
        cases hrun
  obtain ⟨outcome, after, hconduct, houtcome⟩ := use_conduct r limit use ⟨s, hfree⟩
  have hresult : Ending.result outcome after = Ending.result (.ok a) s' :=
    houtcome.symm.trans hrun
  have hok := (Ending.result_inj hresult).1
  obtain ⟨earlier, last, hfinished⟩ := hconduct.last_command hcontrol hok
  obtain ⟨deeds, hhistory, hdeeds⟩ := Simulator.use_retold r hhosts limit use s
  have hafter : (use.run r limit).after s = s' := by
    unfold Task.after
    rw [hrun]
  rw [hafter] at hhistory
  exact Simulator.left_at_rest hhistory hdeeds hfinished

/-- Whether a call ended with a value. -/
def endedWell : EStateM.Result Halt (Station σ μ) (Except RobotError α) → Bool
  | .ok (.ok _) _ => true
  | .ok (.error _) _ | .error _ _ => false

theorem of_ended_well {result : EStateM.Result Halt (Station σ μ) (Except RobotError α)}
    (h : endedWell result = true) : ∃ a s', result = .ok (.ok a) s' := by
  cases result with
  | ok answer s' =>
      cases answer with
      | ok a => exact ⟨a, s', rfl⟩
      | error error => cases h
  | error cause s' => cases h

/-- A robot over a simulated controller into which others inject. -/
def Simulator.meddledRobot : Robot Simulator.Meddled :=
  { driver := ⟨Simulator.meddledLink, {}, 5⟩, settings := { realtime := .ignore } }

/-- Others bring the robot into a reflex when the session begins, and make it move when it ends. -/
def Simulator.meddledStation : Station Simulator.Meddled Nat :=
  .fresh ({}, [[.robotMode .reflex], [], [], [], [], [.robotMode .move]]) 0 #[]

/-- Holding the arm still ends at rest, with nobody else there and although others inject modes of
the robot. -/
theorem meddled_session_ends_at_rest :
    (∃ s', ProgramUse.holdStill.run Simulator.robot 2 (.fresh {} 0 #[]) = .ok (.ok ()) s' ∧
      Simulator.LeftAtRest true (ProgramUse.holdStill.trace Simulator.robot 2 (.fresh {} 0 #[])) {}
        s'.line) ∧
    ∃ s', ProgramUse.holdStill.run Simulator.meddledRobot 2 Simulator.meddledStation =
        .ok (.ok ()) s' ∧
      Simulator.LeftAtRest true
        (ProgramUse.holdStill.trace Simulator.meddledRobot 2 Simulator.meddledStation) {}
        s'.line.1 := by
  have hended :
      endedWell (ProgramUse.holdStill.run Simulator.robot 2 (.fresh {} 0 #[])) = true := by
    decide +kernel
  have hmeddled : endedWell
      (ProgramUse.holdStill.run Simulator.meddledRobot 2 Simulator.meddledStation) = true := by
    decide +kernel
  obtain ⟨⟨⟩, s, hrun⟩ := of_ended_well hended
  obtain ⟨⟨⟩, s', hrun'⟩ := of_ended_well hmeddled
  exact ⟨⟨s, hrun, sessions_end_at_rest Simulator.robot Simulator.link_hosts 2
      ProgramUse.holdStill rfl hrun⟩,
    s', hrun', sessions_end_at_rest Simulator.meddledRobot Simulator.meddled_link_hosts 2
      ProgramUse.holdStill rfl hrun'⟩

end ArmControl
