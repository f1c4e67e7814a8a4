import ArmControl.Proofs.Control.Exchanges
import ArmControl.Proofs.Control.Faults
import ArmControl.Proofs.Robot.Conduct

/-!
# The protocol of a call

What a controller can rely on, whichever call is made on a robot that no session has. Without
real-time priority where it is a must, nothing is done at all. A mode is requested once and before
anything else, nothing comes after a request that was not granted, and once it was, the first state
in another mode is the last thing that happens. A call that asks for no mode makes no request unless
it is one, and only control sessions send commands. `use_protocol` is the main theorem.
-/

namespace ArmControl

universe u

/-! ## What a use asks for -/

namespace RobotUse

variable {τ ι κ : Type u} {α : Type}

/-- Whether the use is a control session. -/
def isControl : RobotUse τ ι κ α → Bool
  | controlTorques _ | controlTorquesWithMotion _ _ | controlMotion _ _ => true
  | read _ _ | readOnce | execute _ => false

/-- Whether the use is nothing but a request. -/
def isExecute : RobotUse τ ι κ α → Bool
  | execute _ => true
  | controlTorques _ | controlTorquesWithMotion _ _ | controlMotion _ _ => false
  | read _ _ | readOnce => false

/-- The controller mode that the use asks for. -/
def mode? : RobotUse τ ι κ α → Option ControllerMode
  | controlMotion _ mode => some mode
  | read mode _ => mode
  | controlTorques _ | controlTorquesWithMotion _ _ | readOnce | execute _ => none

end RobotUse

variable {σ μ α β : Type}

namespace Call

/-- Whether the call makes a request. -/
def isRequest : Call → Bool
  | request _ _ => true
  | receive _ | send _ _ | torque _ _ _ | motion _ _ _ | predicate _ _ => false

/-- Whether the call sends a command. -/
def isSend : Call → Bool
  | send _ _ => true
  | receive _ | request _ _ | torque _ _ _ | motion _ _ _ | predicate _ _ => false

end Call

/-! ## Modes -/

/-- Every state received in these calls reports the mode. -/
def InMode (mode : ReportedMode) (calls : List Call) : Prop :=
  ∀ state, .receive (.value state) ∈ calls → state.controllerMode = mode

/-- In calls that come after some number of states, the first state in another mode is the last
call, and the outcome is the fault that this is. -/
inductive Supervised (mode : ReportedMode) (cycle : Nat) : List Call → Except Ending α → Prop
  | kept {calls : List Call} {outcome : Except Ending α} :
      InMode mode calls → Supervised mode cycle calls outcome
  | broken (earlier : List Call) {state : ArmState} :
      InMode mode earlier → state.controllerMode ≠ mode →
      Supervised mode cycle (earlier ++ [.receive (.value state)])
        (.error (.fault (.control
          ⟨mode, state.controllerMode, cycle + earlier.countP Call.isReceive + 1⟩)))

section Supervised

variable {mode : ReportedMode} {cycle : Nat} {calls more : List Call} {outcome : Except Ending α}

theorem in_mode_append : InMode mode (calls ++ more) ↔ InMode mode calls ∧ InMode mode more := by
  simp [InMode, or_imp, forall_and]

theorem in_mode_cons {state : ArmState} :
    InMode mode (.receive (.value state) :: calls) ↔
      state.controllerMode = mode ∧ InMode mode calls := by
  simp [InMode, or_imp, forall_and]

/-- Calls that do not go to the link receive nothing. -/
theorem in_mode_of_filter (h : calls.filter Call.isExchange = []) : InMode mode calls := by
  intro state hmem
  have hfilter : Call.receive (.value state) ∈ calls.filter Call.isExchange :=
    List.mem_filter.mpr ⟨hmem, rfl⟩
  rw [h] at hfilter
  simp at hfilter

theorem Supervised.after (calls : List Call) (hcalls : InMode mode calls)
    (h : Supervised mode (cycle + calls.countP Call.isReceive) more outcome) :
    Supervised mode cycle (calls ++ more) outcome := by
  cases h with
  | kept hmore => exact .kept (in_mode_append.mpr ⟨hcalls, hmore⟩)
  | broken earlier hearlier hmode =>
      rw [Nat.add_assoc cycle, ← List.countP_append, ← List.append_assoc]
      exact .broken (calls ++ earlier) (in_mode_append.mpr ⟨hcalls, hearlier⟩) hmode

theorem Supervised.map (h : Supervised mode cycle calls outcome) (f : α → β) :
    Supervised mode cycle calls (outcome.map f) := by
  cases h with
  | kept hcalls => exact .kept hcalls
  | broken earlier hearlier hmode => exact .broken earlier hearlier hmode

end Supervised

/-- An answer without a state is in every mode. -/
theorem in_mode_of_outcome {mode : ReportedMode} {answer : Answer ArmState} {e : Ending}
    (h : answer.outcome = .error e) : InMode mode [.receive answer] := by
  intro state hmem
  obtain rfl : Answer.value state = answer := by simpa using hmem
  cases h

/-! ## Supervised loops -/

/-- The mode stays the expected one when a state has passed. -/
theorem Supervisor.observe_expected {s : Supervisor} {mode : ReportedMode} {state : ArmState}
    {cycle : Nat} (hexpected : s.expected? = some mode)
    (h : (s.observe state.controllerMode cycle).verdict = .ok ()) :
    (s.observe state.controllerMode cycle).supervisor.expected? = some mode ∧
      (s.observe state.controllerMode cycle).supervisor.isFaulted = false := by
  obtain ⟨hfaulted, hmode⟩ := observe_ok_iff.mp h
  have hmode := hmode mode hexpected
  cases s with
  | idle latch => cases hexpected
  | requested expected | confirmed expected =>
      cases hexpected
      simp [observe, hmode, expected?, isFaulted]
  | faulted fault => cases hfaulted

/-- A reading session that expects a mode. -/
theorem Reading.Course.supervised {supervisor : Supervisor} {cycle : Nat} {calls : List Call}
    {outcome : Except Ending Nat} {mode : ReportedMode} (h : Course supervisor cycle calls outcome)
    (hexpected : supervisor.expected? = some mode) (hfaulted : supervisor.isFaulted = false) :
    Supervised mode cycle calls outcome := by
  induction h with
  | unfinished supervisor cycle => exact .kept (by simp [InMode])
  | unanswered answer hanswer => exact .kept (in_mode_of_outcome hanswer)
  | mismatched state hverdict =>
      obtain ⟨expected, hexpected', hne, rfl⟩ := Supervisor.observe_error hverdict hfaulted
      obtain rfl : mode = expected := Option.some.inj (hexpected.symm.trans hexpected')
      exact .broken [] (by simp [InMode]) hne.symm
  | stopped state hverdict =>
      have hmode := (Supervisor.observe_ok_iff.mp hverdict).2 mode hexpected
      exact .kept (in_mode_cons.mpr ⟨hmode, by simp [InMode]⟩)
  | wentOn state hverdict _ ih =>
      have hmode := (Supervisor.observe_ok_iff.mp hverdict).2 mode hexpected
      obtain ⟨hexpected, hfaulted⟩ := Supervisor.observe_expected hexpected hverdict
      exact .after [.receive (.value state), .predicate state true]
        (in_mode_cons.mpr ⟨hmode, by simp [InMode]⟩) (ih hexpected hfaulted)

namespace Control

variable {mode : ControllerMode} {nominal : Duration} {withTorque withMotion : Bool}
  {rounds : List Round} {p p' : Progress} {calls : List Call}

/-- A round whose state passed its checks. -/
theorem Advance.in_mode {r : Round}
    (h : Enforced (.requested mode) nominal withTorque withMotion rounds p)
    (hadvance : Advance withTorque withMotion p r p') (answer : Answer Unit) :
    InMode mode.reported (r.calls answer) := by
  refine in_mode_cons.mpr ⟨(Fit.of_check h hadvance.checked).mode mode.reported rfl, ?_⟩
  refine in_mode_append.mpr ⟨in_mode_of_filter ?_, by simp [InMode]⟩
  unfold Round.turns
  rw [List.filter_append, turn_calls_filter _ (fun _ => rfl), turn_calls_filter _ (fun _ => rfl)]
  rfl

theorem Rounds.in_mode
    (h : Rounds withTorque withMotion
      (.opening (.forMode mode) nominal withTorque withMotion) rounds p) :
    InMode mode.reported (rounds.flatMap Round.accepted) := by
  induction h with
  | nil => simp [InMode]
  | snoc hrounds hadvance _ ih =>
      rw [List.flatMap_append]
      have hstanding : Enforced (.requested mode) nominal withTorque withMotion _ _ :=
        hrounds.standing
      exact in_mode_append.mpr ⟨ih, by simpa using hadvance.in_mode hstanding (.value ())⟩

/-- Waiting for a state and checking it, where that ends the session. -/
theorem Opening.supervised {e : Ending}
    (h : Enforced (.requested mode) nominal withTorque withMotion rounds p)
    (hopening : Opening p calls (.error e)) :
    Supervised (α := α) mode.reported rounds.length calls (.error e) := by
  generalize houtcome : Except.error e = outcome at hopening
  cases hopening with
  | unanswered answer e hanswer => exact .kept (in_mode_of_outcome hanswer)
  | answered state =>
      have hexpected : p.supervisor.expected? = some mode.reported := by
        rw [h.supervisor, Supervisor.seen_expected]
        rfl
      rcases Progress.check_error houtcome.symm with ⟨fault, hverdict, rfl⟩ | ⟨hverdict, -⟩
      · have hfaulted : p.supervisor.isFaulted = false := by
          rw [h.supervisor, Supervisor.seen_is_faulted]
          rfl
        obtain ⟨expected, hexpected', hne, rfl⟩ := Supervisor.observe_error hverdict hfaulted
        obtain rfl : mode.reported = expected := Option.some.inj (hexpected.symm.trans hexpected')
        rw [h.cycle]
        exact .broken [] (by simp [InMode]) hne.symm
      · have hmode := (Supervisor.observe_ok_iff.mp hverdict).2 _ hexpected
        exact .kept (in_mode_cons.mpr ⟨hmode, by simp [InMode]⟩)

/-- An ordinary cycle that ends the session. -/
theorem Faltering.supervised {e : Ending}
    (h : Enforced (.requested mode) nominal withTorque withMotion rounds p)
    (hfaltering : Faltering withTorque withMotion p calls e) :
    Supervised (α := α) mode.reported rounds.length calls (.error e) := by
  cases hfaltering with
  | unopened hopening => exact hopening.supervised h
  | torqueFailed hcheck hturn =>
      have hmode := (Fit.of_check h hcheck).mode mode.reported rfl
      exact .kept (in_mode_cons.mpr ⟨hmode, in_mode_of_filter (hturn.filter fun _ => rfl)⟩)
  | motionFailed hcheck _ hturn =>
      have hmode := (Fit.of_check h hcheck).mode mode.reported rfl
      refine .kept (in_mode_cons.mpr ⟨hmode, in_mode_append.mpr ⟨?_, ?_⟩⟩)
      · exact in_mode_of_filter (turn_calls_filter _ (fun _ => rfl) _)
      · exact in_mode_of_filter (hturn.filter fun _ => rfl)
  | unsent hadvance _ => exact .kept (hadvance.in_mode h _)

/-- The terminal cycle. -/
theorem Closing.supervised {last : Command} {outcome : Except Ending Nat}
    (h : Enforced (.requested mode) nominal withTorque withMotion rounds p)
    (hclosing : Closing p last calls outcome) :
    Supervised mode.reported rounds.length calls outcome := by
  cases hclosing with
  | unopened hopening => exact hopening.supervised h
  | unsent hcheck _ | closed hcheck =>
      have hmode := (Fit.of_check h hcheck).mode mode.reported rfl
      exact .kept (in_mode_cons.mpr ⟨hmode, by simp [InMode]⟩)

/-- A control session that expects a mode. -/
theorem Course.supervised {outcome : Except Ending Nat}
    (h : Course withTorque withMotion (.opening (.forMode mode) nominal withTorque withMotion)
      calls outcome) :
    Supervised mode.reported 0 calls outcome := by
  have hstanding {rounds : List Round} {p : Progress}
      (hrounds : Rounds withTorque withMotion
        (.opening (.forMode mode) nominal withTorque withMotion) rounds p) :
      Enforced (.requested mode) nominal withTorque withMotion rounds p := hrounds.standing
  -- All rounds before the last cycle were in the mode, so only that one can break it.
  cases h with
  | unfinished hrounds => exact .kept hrounds.in_mode
  | faltered hrounds hfaltering =>
      refine .after _ hrounds.in_mode ?_
      rw [rounds_received, Nat.zero_add]
      exact hfaltering.supervised (hstanding hrounds)
  | terminal hrounds hadvance hfinished hclosing =>
      refine .after _ ?_ ?_
      · rw [List.flatMap_append]
        have hround := hadvance.in_mode (hstanding hrounds) (.value ())
        exact in_mode_append.mpr ⟨hrounds.in_mode, by simpa using hround⟩
      · rw [rounds_received, Nat.zero_add]
        exact hclosing.supervised ((hstanding hrounds).advance hadvance)

end Control

/-! ## What a loop leaves alone -/

/-- The loop of a control session makes no request. -/
theorem Control.Course.requestless {supervisor : Supervisor} {nominal : Duration}
    {withTorque withMotion : Bool} {calls : List Call} {outcome : Except Ending Nat}
    (h : Course withTorque withMotion (.opening supervisor nominal withTorque withMotion) calls
      outcome) :
    ∀ call ∈ calls, call.isRequest = false := by
  -- Whatever goes to the link in a control session is part of an exchange, and no exchange holds a
  -- request.
  obtain ⟨exchanges, waiting, hexchanges⟩ : ∃ (exchanges : List Exchange)
      (waiting : Option (Answer ArmState)), calls.filter Call.isExchange =
        exchanges.flatMap Exchange.calls ++ (waiting.map .receive).toList := by
    cases outcome with
    | ok n =>
        obtain ⟨exchanges, hcompleted⟩ := h.completed
        exact ⟨exchanges, none, by simpa using hcompleted.calls⟩
    | error e =>
        obtain ⟨exchanges, waiting, hcut⟩ := h.cut_short
        exact ⟨exchanges, waiting, hcut.calls⟩
  intro call hmem
  cases call with
  | request q answer =>
      have hfilter : Call.request q answer ∈ calls.filter Call.isExchange :=
        List.mem_filter.mpr ⟨hmem, rfl⟩
      rw [hexchanges] at hfilter
      simp [Exchange.calls] at hfilter
  | receive _ | send _ _ | torque _ _ _ | motion _ _ _ | predicate _ _ => rfl

/-- A reading session waits for states and calls its predicate, and makes no other calls. -/
theorem Reading.Course.only_reads {supervisor : Supervisor} {cycle : Nat} {calls : List Call}
    {outcome : Except Ending Nat} (h : Course supervisor cycle calls outcome) :
    ∀ call ∈ calls, call.isRequest = false ∧ call.isSend = false := by
  induction h with
  | unfinished supervisor cycle => simp
  | unanswered answer _ => simp [Call.isRequest, Call.isSend]
  | mismatched state _ => simp [Call.isRequest, Call.isSend]
  | stopped state _ => simp [Call.isRequest, Call.isSend]
  | wentOn state _ _ ih =>
      intro call hmem
      rcases List.mem_cons.mp hmem with rfl | hmem
      · exact ⟨rfl, rfl⟩
      · rcases List.mem_cons.mp hmem with rfl | hmem
        · exact ⟨rfl, rfl⟩
        · exact ih call hmem

/-! ## The main theorem -/

/-- What comes of a call that requests a mode: the request is the first call. When it fails or is
rejected it is the only one, and the outcome says so. When it succeeds no request follows, and the
mode is supervised from the first state on. -/
inductive ModeFirst (mode : ControllerMode) : List Call → Except Ending α → Prop
  | failed (error : LinkError) :
      ModeFirst mode [.request (.setControllerMode mode) (.failure error)]
        (.error (.fault (.communication (.link error))))
  | rejected (reason : Refusal) :
      ModeFirst mode [.request (.setControllerMode mode) (.value (.rejected reason))]
        (.error (.fault (.configRejected (Request.setControllerMode mode).name reason)))
  | overflow :
      ModeFirst mode [.request (.setControllerMode mode) .overflow] (.error (.halt .clockOverflow))
  | granted (reply : Reply) {calls : List Call} {outcome : Except Ending α} :
      (∀ call ∈ calls, call.isRequest = false) → Supervised mode.reported 0 calls outcome →
      ModeFirst mode (.request (.setControllerMode mode) (.value (.success reply)) :: calls) outcome

/-- The protocol that a call on a robot keeps to. -/
structure Protocol (r : Robot σ) (use : ProgramUse μ α) (calls : List Call)
    (outcome : Except Ending α) : Prop where
  enforced : use.isControl = true → r.settings.realtime = .enforce →
    ∀ reason, r.priority = .error reason →
      calls = [] ∧ outcome = .error (.fault (.realtime reason))
  moded : ∀ mode ∈ use.mode?, use.isControl = false ∨ r.MayControl →
    ModeFirst mode calls outcome
  requestless : use.mode? = none → use.isExecute = false →
    ∀ call ∈ calls, call.isRequest = false
  sendless : use.isControl = false → ∀ call ∈ calls, call.isSend = false

/-- A mode that is requested first, before calls that make no request and keep to it. -/
theorem Moded.mode_first {mode : ControllerMode} {P : List Call → Except Ending α → Prop}
    {calls : List Call} {outcome : Except Ending α} (h : Moded mode P calls outcome)
    (hrequest : ∀ calls outcome, P calls outcome → ∀ call ∈ calls, call.isRequest = false)
    (hmode : ∀ calls outcome, P calls outcome → Supervised mode.reported 0 calls outcome) :
    ModeFirst mode calls outcome := by
  cases h with
  | refused answer hrefused =>
      cases answer with
      | failure error =>
          cases hrefused
          exact .failed error
      | overflow =>
          cases hrefused
          exact .overflow
      | value response =>
          cases response with
          | success reply => cases hrefused
          | rejected reason =>
              cases hrefused
              exact .rejected reason
  | entered reply hp => exact .granted reply (hrequest _ _ hp) (hmode _ _ hp)

/-- The calls of a control session make no request. -/
theorem ProgramUse.ControlConduct.requestless {r : Robot σ} {supervisor : Supervisor}
    {withTorque withMotion : Bool} {calls : List Call} {outcome : Except Ending Unit}
    (h : ControlConduct r supervisor withTorque withMotion calls outcome) :
    ∀ call ∈ calls, call.isRequest = false := by
  obtain ⟨hcourse⟩ := h
  exact hcourse.requestless

/-- A control session whose mode is implied keeps to the protocol. -/
theorem Prioritised.protocol {r : Robot σ} {use : ProgramUse μ α}
    {P : List Call → Except Ending α → Prop} {calls : List Call} {outcome : Except Ending α}
    (h : Prioritised r P calls outcome) (hcontrol : use.isControl = true)
    (hmoded : ∀ mode ∈ use.mode?, P calls outcome → ModeFirst mode calls outcome)
    (hrequest : use.mode? = none → P calls outcome → ∀ call ∈ calls, call.isRequest = false) :
    Protocol r use calls outcome := by
  cases h with
  | refused henforce hfailed =>
      refine ⟨fun _ _ reason hreason => ?_, fun mode _ hgranted => ?_, by simp, by simp⟩
      · cases hfailed.symm.trans hreason
        exact ⟨rfl, rfl⟩
      · have hmay := hgranted.resolve_left (by simp [hcontrol])
        exact absurd hmay (Robot.not_may_control henforce hfailed)
  | allowed hmay hp =>
      refine ⟨fun _ henforce reason hfailed => ?_, fun mode hmode _ => hmoded mode hmode hp,
        fun hmode _ => hrequest hmode hp, fun hother => ?_⟩
      · exact absurd hmay (Robot.not_may_control henforce hfailed)
      · rw [hcontrol] at hother
        cases hother

/-- Every use that is conducted as it should be keeps to the protocol. -/
theorem ProgramUse.Conduct.protocol {r : Robot σ} {use : ProgramUse μ α} {calls : List Call}
    {outcome : Except Ending α} (h : use.Conduct r calls outcome) :
    Protocol r use calls outcome := by
  cases use with
  | controlTorques torque =>
      exact Prioritised.protocol h rfl (fun _ hmode => nomatch hmode)
        fun _ hcontrol => hcontrol.requestless
  | controlTorquesWithMotion torque motion =>
      exact Prioritised.protocol h rfl (fun _ hmode => nomatch hmode)
        fun _ hcontrol => hcontrol.requestless
  | controlMotion motion mode =>
      refine Prioritised.protocol h rfl (fun mode' hmode hmoded => ?_) fun hmode => nomatch hmode
      obtain rfl := Option.mem_some.mp hmode
      refine hmoded.mode_first (fun _ _ hcontrol => hcontrol.requestless) fun _ _ hcontrol => ?_
      obtain ⟨hcourse⟩ := hcontrol
      exact hcourse.supervised.map _
  | read mode keepOn =>
      cases mode with
      | none =>
          obtain ⟨hcourse⟩ := h
          exact ⟨nofun, nofun, fun _ _ call hmem => (hcourse.only_reads call hmem).1,
            fun _ call hmem => (hcourse.only_reads call hmem).2⟩
      | some mode =>
          refine ⟨nofun, fun mode' hmode _ => ?_, nofun, fun _ => ?_⟩
          · obtain rfl := Option.mem_some.mp hmode
            refine Moded.mode_first h (fun _ _ hread => ?_) fun _ _ hread => ?_
            · obtain ⟨hcourse⟩ := hread
              exact fun call hmem => (hcourse.only_reads call hmem).1
            · obtain ⟨hcourse⟩ := hread
              exact (hcourse.supervised rfl rfl).map _
          · cases h with
            | refused answer _ => simp [Call.isSend]
            | entered reply hread =>
                obtain ⟨hcourse⟩ := hread
                intro call hmem
                rcases List.mem_cons.mp hmem with rfl | hmem
                · rfl
                · exact (hcourse.only_reads call hmem).2
  | readOnce =>
      obtain ⟨answer, rfl, -⟩ := h
      exact ⟨nofun, nofun, by simp [Call.isRequest], by simp [Call.isSend]⟩
  | execute request =>
      refine ⟨nofun, nofun, nofun, fun _ => ?_⟩
      cases h with
      | refused _ => simp
      | made answer _ => simp [Call.isSend]

/-- Whichever call is made on a robot that no session has, whatever the link answers and the
callbacks do, it keeps to the protocol. -/
theorem use_protocol (r : Robot σ) (limit : Nat) (use : ProgramUse μ α) (s : Vacant σ μ) :
    ∃ outcome s', Protocol r use (use.trace r limit s.station) outcome ∧
      use.run r limit s.station = Ending.result outcome s' := by
  obtain ⟨outcome, s', hconduct, hrun⟩ := use_conduct r limit use s
  exact ⟨outcome, s', hconduct.protocol, hrun⟩

end ArmControl
