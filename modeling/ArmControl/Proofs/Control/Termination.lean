import ArmControl.Proofs.Control.Plan
import ArmControl.Proofs.Robot.Limit

/-!
# Sessions that come to an end

Nothing counts the cycles of a control session: it goes on as long as a callback that is present has
not finished. In every such cycle that callback is called once more, so it is the callbacks that
bring a session to its end, whatever the link does. `session_terminates` is the main theorem: when
each callback finishes or fails at some call at the latest, then the greater of the two numbers of
calls bounds the cycles of the session, with one more for the terminal cycle.
-/

namespace ArmControl

variable {σ μ α : Type}

/-- Whether the callback ended with this call: it failed, or said that it has finished. -/
def Invocation.ends (invocation : Invocation α) : Bool :=
  match invocation.output with
  | .ok flow => flow.isFinished
  | .error _ => true

/-- The callback ends at its `n`-th call at the latest, if it is called so often. -/
def EndsBy (n : Nat) (invocations : List (Invocation α)) : Prop :=
  n ≤ invocations.length → ∃ invocation ∈ invocations.take n, invocation.ends = true

instance (n : Nat) (invocations : List (Invocation α)) : Decidable (EndsBy n invocations) :=
  inferInstanceAs (Decidable (_ → _))

namespace Control

/-! ## The calls of one callback -/

/-- A callback that is called only if it is present, and no more after a call that ended it. -/
structure Spent (present : Bool) (invocations : List (Invocation α)) : Prop where
  absent : present = false → invocations = []
  ongoing : ∀ invocation ∈ invocations.dropLast, invocation.ends = false

/-- A callback is not called more often than it takes to end it. -/
theorem Spent.length_le {present : Bool} {invocations : List (Invocation α)} {n : Nat}
    (h : Spent present invocations) (hends : present = true → EndsBy n invocations) :
    invocations.length ≤ n := by
  cases hpresent : present with
  | false => simp [h.absent hpresent]
  | true =>
      refine Nat.le_of_not_lt fun hlt => ?_
      obtain ⟨invocation, hmem, hend⟩ := hends hpresent (Nat.le_of_lt hlt)
      have hearlier : invocation ∈ invocations.dropLast := by
        rw [List.dropLast_eq_take]
        exact List.take_subset_take_left invocations (Nat.le_sub_one_of_lt hlt) hmem
      rw [h.ongoing invocation hearlier] at hend
      cases hend

/-- What a callback gives in a cycle: nothing, or one output when it has its turn. -/
inductive Taken (due : Bool) : List (Invocation α) → Prop
  | none : Taken due []
  | one (invocation : Invocation α) : due = true → Taken due [invocation]

/-- How often a callback was called in these rounds: in each of them, as long as it has not
finished. -/
structure Called (present : Bool) (output : Round → Option (Flow α)) (rounds : List Round) :
    Prop where
  spent : Spent present (rounds.filterMap (invoked output))
  sustained : present = true → hasFinished output rounds = false →
    (rounds.filterMap (invoked output)).length = rounds.length

section Callback

variable {present : Bool} {output : Round → Option (Flow α)} {rounds : List Round} {r : Round}
  {slot slot' : Slot α} {validate : α → Except ValueError Unit} {more : List (Invocation α)}

/-- A callback that has not finished went on after each of its calls. -/
theorem ongoing_of_unfinished (h : hasFinished output rounds = false) :
    ∀ invocation ∈ rounds.filterMap (invoked output), invocation.ends = false := by
  intro invocation hmem
  obtain ⟨r, hr, hinvoked⟩ := List.mem_filterMap.mp hmem
  obtain ⟨flow, hflow, rfl⟩ := Option.map_eq_some_iff.mp hinvoked
  have hround := List.any_eq_false.mp h r hr
  simpa [Invocation.ends, hflow] using hround

theorem Called.nil (present : Bool) (output : Round → Option (Flow α)) :
    Called present output [] :=
  ⟨⟨fun _ => rfl, by simp⟩, fun _ _ => rfl⟩

/-- A callback has its turn only after rounds in which it went on. -/
theorem Called.after (h : Called present output rounds) (hholds : Holds present output rounds slot)
    (hmore : Taken (slot.isDue present) more) :
    Spent present (rounds.filterMap (invoked output) ++ more) := by
  cases hmore with
  | none =>
      rw [List.append_nil]
      exact h.spent
  | one invocation hdue =>
      rw [hholds.is_due, Bool.and_eq_true, Bool.not_eq_true'] at hdue
      obtain ⟨hpresent, hfinished⟩ := hdue
      refine ⟨fun habsent => ?_, ?_⟩
      · rw [hpresent] at habsent
        cases habsent
      · rw [List.dropLast_concat]
        exact ongoing_of_unfinished hfinished

theorem Fills.taken (h : Fills present validate slot (output r) slot') :
    Taken (slot.isDue present) (invoked output r).toList := by
  have hdue := h.called
  cases houtput : output r with
  | none => simpa [invoked, houtput] using Taken.none
  | some flow =>
      rw [houtput] at hdue
      simpa [invoked, houtput] using Taken.one _ hdue.symm

/-- A callback that has not finished is called in the next round. -/
theorem Called.next (h : Called present output rounds) (hholds : Holds present output rounds slot)
    (hfills : Fills present validate slot (output r) slot') (hpresent : present = true)
    (hunfinished : hasFinished output rounds = false) :
    ((rounds ++ [r]).filterMap (invoked output)).length = rounds.length + 1 := by
  have hdue := hfills.called
  rw [hholds.is_due, hpresent, hunfinished] at hdue
  obtain ⟨flow, hflow⟩ := Option.isSome_iff_exists.mp hdue
  simp [h.sustained hpresent hunfinished, invoked, hflow]

/-- One more round. -/
theorem Called.fills (h : Called present output rounds) (hholds : Holds present output rounds slot)
    (hfills : Fills present validate slot (output r) slot') :
    Called present output (rounds ++ [r]) := by
  refine ⟨?_, fun hpresent hunfinished => ?_⟩
  · have hround : [r].filterMap (invoked output) = (invoked output r).toList := by
      cases hinvoked : invoked output r <;> simp [hinvoked]
    rw [List.filterMap_append, hround]
    exact h.after hholds hfills.taken
  · rw [has_finished_snoc, Bool.or_eq_false_iff] at hunfinished
    rw [h.next hholds hfills hpresent hunfinished.1, List.length_append, List.length_singleton]

end Callback

/-! ## The calls of a session -/

variable {withTorque withMotion : Bool} {supervisor : Supervisor} {nominal : Duration}
  {rounds : List Round} {p p' : Progress} {calls : List Call}

/-- What is known of the callbacks after some rounds. -/
structure BothCalled (withTorque withMotion : Bool) (rounds : List Round) : Prop where
  torque : Called withTorque Round.torque rounds
  motion : Called withMotion Round.motion rounds

theorem Rounds.called
    (h : Rounds withTorque withMotion (.opening supervisor nominal withTorque withMotion) rounds
      p) : BothCalled withTorque withMotion rounds := by
  induction h with
  | nil => exact ⟨.nil _ _, .nil _ _⟩
  | snoc hrounds hadvance _ ih =>
      have hstanding := hrounds.standing
      exact ⟨ih.torque.fills hstanding.torque hadvance.torque,
        ih.motion.fills hstanding.motion hadvance.motion⟩

/-- A session that goes on after some rounds does so for a callback that has not finished. -/
theorem Rounds.awaits
    (h : Rounds withTorque withMotion (.opening supervisor nominal withTorque withMotion) rounds p)
    (hpresent : withTorque = true ∨ withMotion = true) :
    withTorque = true ∧ hasFinished Round.torque rounds = false ∨
      withMotion = true ∧ hasFinished Round.motion rounds = false := by
  cases h with
  | nil => exact hpresent.imp (⟨·, rfl⟩) (⟨·, rfl⟩)
  | snoc hrounds hadvance hunfinished =>
      rw [(hrounds.standing.advance hadvance).finished, Bool.and_eq_false_iff] at hunfinished
      simpa using hunfinished

/-- A callback that is present was called in each of these rounds. -/
def Sustained (withTorque withMotion : Bool) (rounds : List Round) : Prop :=
  withTorque = true ∧ (rounds.filterMap (invoked Round.torque)).length = rounds.length ∨
    withMotion = true ∧ (rounds.filterMap (invoked Round.motion)).length = rounds.length

theorem Rounds.sustained
    (h : Rounds withTorque withMotion (.opening supervisor nominal withTorque withMotion) rounds p)
    (hpresent : withTorque = true ∨ withMotion = true) : Sustained withTorque withMotion rounds :=
  (h.awaits hpresent).imp (fun hdue => ⟨hdue.1, h.called.torque.sustained hdue.1 hdue.2⟩)
    fun hdue => ⟨hdue.1, h.called.motion.sustained hdue.1 hdue.2⟩

/-- One more round is sustained by the callback for which the session went on. -/
theorem Rounds.sustained_next {r : Round}
    (h : Rounds withTorque withMotion (.opening supervisor nominal withTorque withMotion) rounds p)
    (hadvance : Advance withTorque withMotion p r p')
    (hpresent : withTorque = true ∨ withMotion = true) :
    Sustained withTorque withMotion (rounds ++ [r]) := by
  have hstanding := h.standing
  unfold Sustained
  rw [List.length_append, List.length_singleton]
  exact (h.awaits hpresent).imp
    (fun hdue => ⟨hdue.1, h.called.torque.next hstanding.torque hadvance.torque hdue.1 hdue.2⟩)
    fun hdue => ⟨hdue.1, h.called.motion.next hstanding.motion hadvance.motion hdue.1 hdue.2⟩

/-- The turn of a callback calls it once, if it has its turn. -/
theorem Turn.gives {kind : CallbackKind} {call : Except String (Flow α) → Call} {present : Bool}
    {validate : α → Except ValueError Unit} {slot : Slot α} {cycle : Nat}
    {outcome : Except Ending (Slot α)} {which : Call → Option (Invocation α)} {period : Duration}
    (h : Turn kind call present validate slot cycle calls outcome)
    (hwhich : ∀ output, which (call output) = some ⟨period, output⟩) :
    Taken (slot.isDue present) (calls.filterMap which) := by
  cases h with
  | taken flow slot' hfills =>
      have hdue := hfills.called
      cases flow with
      | none => exact .none
      | some flow => simpa [turnCalls, hwhich] using Taken.one _ hdue.symm
  | failed reason hdue => simpa [hwhich] using Taken.one _ hdue
  | invalid flow error hdue _ => simpa [hwhich] using Taken.one _ hdue

/-- The turn of the other callback. -/
theorem Turn.gives_none {β : Type} {kind : CallbackKind} {call : Except String (Flow β) → Call}
    {present : Bool} {validate : β → Except ValueError Unit} {slot : Slot β} {cycle : Nat}
    {outcome : Except Ending (Slot β)} {which : Call → Option (Invocation α)}
    (h : Turn kind call present validate slot cycle calls outcome)
    (hwhich : ∀ output, which (call output) = none) : calls.filterMap which = [] := by
  cases h with
  | taken flow slot' hfills => cases flow <;> simp [turnCalls, hwhich]
  | failed reason _ => simp [hwhich]
  | invalid flow error _ _ => simp [hwhich]

/-- In a cycle that ends the session, each callback is called once at most, when it has its turn. -/
theorem Faltering.gives {e : Ending} (h : Faltering withTorque withMotion p calls e) :
    Taken (p.torque.isDue withTorque) (calls.filterMap Call.torque?) ∧
      Taken (p.motion.isDue withMotion) (calls.filterMap Call.motion?) := by
  cases h with
  | unopened hopening =>
      obtain ⟨answer, rfl⟩ := hopening.receives
      exact ⟨.none, .none⟩
  | @torqueFailed _ _ _ calls _ _ hturn =>
      have hnone : calls.filterMap Call.motion? = [] := hturn.gives_none fun _ => rfl
      refine ⟨hturn.gives fun _ => rfl, ?_⟩
      rw [List.filterMap_cons_none rfl, hnone]
      exact .none
  | @motionFailed state period p' torque slot calls _ _ hfills hturn =>
      have htorque : Turn .torque (.torque state period) withTorque Torques.validate p.torque
          p'.cycle (turnCalls (.torque state period) torque) (.ok slot) := .taken torque slot hfills
      have hnone : calls.filterMap Call.torque? = [] := hturn.gives_none fun _ => rfl
      have hnone' : (turnCalls (.torque state period) torque).filterMap Call.motion? = [] :=
        htorque.gives_none fun _ => rfl
      rw [List.cons_append, List.filterMap_cons_none rfl, List.filterMap_cons_none rfl,
        List.filterMap_append, List.filterMap_append, hnone, hnone', List.append_nil,
        List.nil_append]
      exact ⟨htorque.gives fun _ => rfl, hturn.gives fun _ => rfl⟩
  | unsent hadvance _ =>
      rw [calls_torque, calls_motion]
      exact ⟨hadvance.torque.taken, hadvance.motion.taken⟩

/-- No callback is called in the terminal cycle. -/
theorem Closing.gives_none {last : Command} {outcome : Except Ending Nat}
    (h : Closing p last calls outcome) :
    calls.filterMap Call.torque? = [] ∧ calls.filterMap Call.motion? = [] := by
  cases h with
  | unopened hopening =>
      obtain ⟨answer, rfl⟩ := hopening.receives
      exact ⟨rfl, rfl⟩
  | unsent _ _ | closed _ => exact ⟨rfl, rfl⟩

/-! ### Exchanges -/

/-- Calls of a cycle, in which a state is waited for and a command is sent once at most. -/
structure OneCycle (calls : List Call) : Prop where
  received : calls.countP Call.isReceive ≤ 1
  sent : calls.countP Call.isSend ≤ 1

/-- Only calls to the link are counted. -/
theorem count_exchanges {counted : Call → Bool}
    (h : ∀ call, counted call = true → call.isExchange = true) (calls : List Call) :
    (calls.filter Call.isExchange).countP counted = calls.countP counted := by
  rw [List.countP_filter]
  exact List.countP_congr fun call _ => by simpa using h call

theorem OneCycle.of_filter (h : OneCycle (calls.filter Call.isExchange)) : OneCycle calls := by
  obtain ⟨hreceived, hsent⟩ := h
  rw [count_exchanges fun call => by cases call <;> simp [Call.isReceive, Call.isExchange]]
    at hreceived
  rw [count_exchanges fun call => by cases call <;> simp [Call.isSend, Call.isExchange]] at hsent
  exact ⟨hreceived, hsent⟩

theorem Faltering.one_cycle {e : Ending} (h : Faltering withTorque withMotion p calls e) :
    OneCycle calls := by
  refine .of_filter ?_
  rcases h.sent with ⟨answer, hcalls⟩ | ⟨r, _, answer, -, -, rfl⟩
  · rw [hcalls]
    exact ⟨Nat.le_refl 1, Nat.zero_le 1⟩
  · rw [Round.calls_filter]
    exact ⟨Nat.le_refl 1, Nat.le_refl 1⟩

theorem Closing.one_cycle {last : Command} {outcome : Except Ending Nat}
    (h : Closing p last calls outcome) : OneCycle calls := by
  cases h with
  | unopened hopening =>
      obtain ⟨answer, rfl⟩ := hopening.receives
      exact ⟨Nat.le_refl 1, Nat.zero_le 1⟩
  | unsent _ _ | closed _ => exact ⟨Nat.le_refl 1, Nat.le_refl 1⟩

theorem rounds_sent (rounds : List Round) :
    (rounds.flatMap Round.accepted).countP Call.isSend = rounds.length :=
  rounds_count Call.isSend (fun _ _ _ => rfl) (fun _ _ _ => rfl) (fun _ _ => rfl) rounds

/-! ### The measure -/

/-- The calls of a session measured by those of its callbacks: in all cycles but one at most, a
callback that is present was called. -/
structure Measured (withTorque withMotion : Bool) (calls : List Call) : Prop where
  torque : Spent withTorque (calls.filterMap Call.torque?)
  motion : Spent withMotion (calls.filterMap Call.motion?)
  cycles : ∃ n, calls.countP Call.isReceive ≤ n + 1 ∧ calls.countP Call.isSend ≤ n + 1 ∧
    (withTorque = true ∧ n ≤ (calls.filterMap Call.torque?).length ∨
      withMotion = true ∧ n ≤ (calls.filterMap Call.motion?).length)

/-- Rounds, and calls of one more cycle. -/
theorem Measured.of_rounds (hone : OneCycle calls)
    (htorque : Spent withTorque
      (rounds.filterMap (invoked Round.torque) ++ calls.filterMap Call.torque?))
    (hmotion : Spent withMotion
      (rounds.filterMap (invoked Round.motion) ++ calls.filterMap Call.motion?))
    (hsustained : Sustained withTorque withMotion rounds) :
    Measured withTorque withMotion (rounds.flatMap Round.accepted ++ calls) := by
  rw [← rounds_invocations calls_torque, ← List.filterMap_append] at htorque
  rw [← rounds_invocations calls_motion, ← List.filterMap_append] at hmotion
  refine ⟨htorque, hmotion, rounds.length, ?_, ?_, ?_⟩
  · rw [List.countP_append, rounds_received]
    exact Nat.add_le_add_left hone.received _
  · rw [List.countP_append, rounds_sent]
    exact Nat.add_le_add_left hone.sent _
  · rw [List.filterMap_append, List.filterMap_append, rounds_invocations calls_torque,
      rounds_invocations calls_motion, List.length_append, List.length_append]
    exact hsustained.imp
      (And.imp_right fun h => Nat.le_add_right_of_le (Nat.le_of_eq h.symm))
      (And.imp_right fun h => Nat.le_add_right_of_le (Nat.le_of_eq h.symm))

theorem Course.measured {outcome : Except Ending Nat}
    (h : Course withTorque withMotion (.opening supervisor nominal withTorque withMotion) calls
      outcome)
    (hpresent : withTorque = true ∨ withMotion = true) :
    Measured withTorque withMotion calls := by
  cases h with
  | unfinished hrounds =>
      have hcalled := hrounds.called
      rw [← List.append_nil (List.flatMap _ _)]
      refine .of_rounds ⟨Nat.zero_le 1, Nat.zero_le 1⟩ ?_ ?_ (hrounds.sustained hpresent)
      · simpa using hcalled.torque.spent
      · simpa using hcalled.motion.spent
  | faltered hrounds hfaltering =>
      have hcalled := hrounds.called
      have hstanding := hrounds.standing
      obtain ⟨htorque, hmotion⟩ := hfaltering.gives
      exact .of_rounds hfaltering.one_cycle (hcalled.torque.after hstanding.torque htorque)
        (hcalled.motion.after hstanding.motion hmotion) (hrounds.sustained hpresent)
  | terminal hrounds hadvance _ hclosing =>
      have hcalled := hrounds.called
      have hstanding := hrounds.standing
      obtain ⟨htorque, hmotion⟩ := hclosing.gives_none
      refine .of_rounds hclosing.one_cycle ?_ ?_ (hrounds.sustained_next hadvance hpresent)
      · rw [htorque, List.append_nil]
        exact (hcalled.torque.fills hstanding.torque hadvance.torque).spent
      · rw [hmotion, List.append_nil]
        exact (hcalled.motion.fills hstanding.motion hadvance.motion).spent

/-- A session that was not followed to its end was sustained by a callback that went on after each
of its calls. -/
theorem Course.ongoing
    (h : Course withTorque withMotion (.opening supervisor nominal withTorque withMotion) calls
      (.error (.halt .unfinished)))
    (hpresent : withTorque = true ∨ withMotion = true) :
    (withTorque = true ∧ (calls.filterMap Call.torque?).length = calls.countP Call.isAccepted ∧
        ∀ invocation ∈ calls.filterMap Call.torque?, invocation.ends = false) ∨
      (withMotion = true ∧ (calls.filterMap Call.motion?).length = calls.countP Call.isAccepted ∧
        ∀ invocation ∈ calls.filterMap Call.motion?, invocation.ends = false) := by
  generalize houtcome : (.error (.halt .unfinished) : Except Ending Nat) = outcome at h
  cases h with
  | unfinished hrounds =>
      rw [rounds_accepted_count, rounds_invocations calls_torque, rounds_invocations calls_motion]
      have hcalled := hrounds.called
      exact (hrounds.awaits hpresent).imp
        (fun h => ⟨h.1, hcalled.torque.sustained h.1 h.2, ongoing_of_unfinished h.2⟩)
        fun h => ⟨h.1, hcalled.motion.sustained h.1 h.2, ongoing_of_unfinished h.2⟩
  | faltered _ hfaltering =>
      cases houtcome
      exact absurd rfl hfaltering.ended
  | terminal _ _ _ hclosing =>
      exact absurd houtcome.symm hclosing.ended

/-- A control session takes its course, and has used up its limit when it was not followed to its
end. -/
theorem session_course_exhausts (r : Robot σ) (supervisor : Supervisor) (scripts : Scripts μ)
    (limit : Nat) (s : Occupied σ μ) :
    ∃ outcome s',
      (Course scripts.torque.isSome scripts.motion.isSome
          (.opening supervisor r.driver.timing.controlPeriod scripts.torque.isSome
            scripts.motion.isSome)
          (trace r supervisor scripts limit s.station) outcome ∧
        Exhausts limit (trace r supervisor scripts limit s.station) outcome) ∧
      Outcome s.station outcome s' (session r supervisor scripts limit s.station) := by
  have hexhausts := run_exhausts r.driver supervisor (scripts_answering r scripts limit) limit
  exact Outcome.of_follows ((scripts_follow r supervisor scripts limit).and hexhausts)
    (session_mirrors r supervisor scripts limit) s

/-- Whatever the link answers, when the callbacks that are present, one at least, end at their
`n`-th and at their `m`-th call at the latest, the session waits for a state and sends a command
once for each of these calls and once more at most, and it comes to an end. -/
theorem session_terminates (r : Robot σ) (supervisor : Supervisor) (scripts : Scripts μ)
    (limit n m : Nat) (s : Occupied σ μ)
    (hpresent : scripts.torque.isSome = true ∨ scripts.motion.isSome = true)
    (htorque : scripts.torque.isSome = true → EndsBy n
      ((trace r supervisor scripts limit s.station).filterMap Call.torque?))
    (hmotion : scripts.motion.isSome = true → EndsBy m
      ((trace r supervisor scripts limit s.station).filterMap Call.motion?)) :
    let calls := trace r supervisor scripts limit s.station
    calls.countP Call.isReceive ≤ max n m + 1 ∧
      calls.countP Call.isSend ≤ max n m + 1 ∧
      (calls.filterMap Call.torque?).length ≤ n ∧
      (calls.filterMap Call.motion?).length ≤ m ∧
      (max n m ≤ limit →
        ∀ s', session r supervisor scripts limit s.station ≠ .error .unfinished s') := by
  obtain ⟨outcome, s', ⟨hcourse, hexhausts⟩, houtcome⟩ :=
    session_course_exhausts r supervisor scripts limit s
  obtain ⟨htorques, hmotions, k, hreceived, hsent, hcalled⟩ := hcourse.measured hpresent
  have hn := htorques.length_le htorque
  have hm := hmotions.length_le hmotion
  have hcycles : k ≤ max n m := by
    rcases hcalled with ⟨-, hk⟩ | ⟨-, hk⟩
    · exact Nat.le_trans hk (Nat.le_trans hn (Nat.le_max_left n m))
    · exact Nat.le_trans hk (Nat.le_trans hm (Nat.le_max_right n m))
  refine ⟨by omega, by omega, hn, hm, fun hlimit s'' hunfinished => ?_⟩
  rw [houtcome.result] at hunfinished
  have hended : Ending.result outcome s' = Ending.result (.error (.halt .unfinished)) s'' :=
    hunfinished
  obtain ⟨rfl, -⟩ := Ending.result_inj hended
  have hlimit := Nat.le_trans hlimit (hexhausts rfl)
  -- A callback has then been called as often as it takes to end it, and has not ended.
  rcases hcourse.ongoing hpresent with ⟨hpresent, hlength, hongoing⟩ | ⟨hpresent, hlength, hongoing⟩
  · obtain ⟨invocation, hmem, hend⟩ := htorque hpresent (by omega)
    rw [hongoing invocation (List.mem_of_mem_take hmem)] at hend
    cases hend
  · obtain ⟨invocation, hmem, hend⟩ := hmotion hpresent (by omega)
    rw [hongoing invocation (List.mem_of_mem_take hmem)] at hend
    cases hend

end Control

/-- Callbacks for states that are numbered from one: the first finishes at its second call, and the
second fails at its third. -/
def Scripts.brief : Scripts Unit where
  torque := some fun state _ =>
    .done (.ok (if state.messageId = 2 then .finished {} else .continue {}))
  motion := some fun state _ => .done <|
    if state.messageId = 3 then .error "out of reach"
    else .ok (.continue (.jointVelocities (.replicate _ 0)))

/-- The station of a session over a line on which nothing goes wrong. -/
def Prepared.engaged : Occupied Prepared Unit where
  station := { Station.fresh {} () #[] with held := true }
  held := rfl

/-- The session ends in its third cycle. -/
theorem brief_session_terminates :
    (EndsBy 2 ((Control.trace Prepared.robot .unenforced .brief 3
        Prepared.engaged.station).filterMap Call.torque?) ∧
      EndsBy 3 ((Control.trace Prepared.robot .unenforced .brief 3
        Prepared.engaged.station).filterMap Call.motion?)) ∧
    let calls := Control.trace Prepared.robot .unenforced .brief 3 Prepared.engaged.station
    calls.countP Call.isReceive ≤ 4 ∧ calls.countP Call.isSend ≤ 4 ∧
      (calls.filterMap Call.torque?).length ≤ 2 ∧ (calls.filterMap Call.motion?).length ≤ 3 ∧
      ∀ s', Control.session Prepared.robot .unenforced .brief 3 Prepared.engaged.station ≠
        .error .unfinished s' := by
  have htorque : EndsBy 2 ((Control.trace Prepared.robot .unenforced .brief 3
      Prepared.engaged.station).filterMap Call.torque?) := by decide +kernel
  have hmotion : EndsBy 3 ((Control.trace Prepared.robot .unenforced .brief 3
      Prepared.engaged.station).filterMap Call.motion?) := by decide +kernel
  obtain ⟨hreceived, hsent, hn, hm, hended⟩ := Control.session_terminates Prepared.robot .unenforced
    .brief 3 2 3 Prepared.engaged (.inl rfl) (fun _ => htorque) fun _ => hmotion
  exact ⟨⟨htorque, hmotion⟩, hreceived, hsent, hn, hm, hended (Nat.le_refl 3)⟩

end ArmControl
