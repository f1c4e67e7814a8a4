import ArmControl.Proofs.Control.Departure
import Mathlib.Data.List.Induction

/-!
# Keeping time

The clock of a session adds up differences of times, so its sum telescopes. `CycleClock.Reckons`
says what a clock makes of one more state, in terms of the states that it has accepted, and
`after_reckons` shows it of a clock after any states at all. In a session every state but the last
was accepted, and the callbacks are told the lengths that this clock gives, which `Timed` says of
calls. `sessions_keep_time` is the main theorem; it needs a nominal length that is not zero, which
is what the check of the times is for.
-/

namespace ArmControl

variable {σ μ α : Type}

/-- A control period that passes its check is not zero. -/
theorem Timing.control_period_pos {t : Timing} (h : t.validate = .ok ()) :
    0 < t.controlPeriod.nanos := by
  have hne : t.controlPeriodUs ≠ 0 := by
    intro hzero
    simp [validate, check, hzero, Except.mapError] at h
  have hpos : 0 < t.controlPeriodUs.toNat :=
    Nat.pos_of_ne_zero fun hzero => hne (UInt64.toNat_inj.mp hzero)
  exact Nat.mul_pos hpos (by decide)

/-- The length of the cycle of a state that comes after these. -/
def cycleLength (nominal : Duration) (states : List ArmState) (state : ArmState) : Duration :=
  match states.getLast? with
  | none => nominal
  | some last => state.time.since last.time

/-- The nanoseconds of all cycles up to that of a state that comes after these: a nominal length
and the time since the first state. -/
def span (nominal : Duration) (states : List ArmState) (state : ArmState) : Nat :=
  nominal.nanos + (state.time.nanos - (states.headD state).time.nanos)

namespace CycleClock

variable {nominal : Duration} {states : List ArmState} {clock : CycleClock} {state : ArmState}

/-! ## The clock by itself -/

/-- The clock after one more state. Where it stalls it stays as it is, and where the sum of the
lengths overflows there is no clock any more. -/
def take (c : CycleClock) (state : ArmState) : Option CycleClock :=
  match c.tick state.time with
  | .advanced _ next => some next
  | .stalled _ => some c
  | .overflow => none

/-- The clock after these states. -/
def after (nominal : Duration) (states : List ArmState) : Option CycleClock :=
  states.foldlM take (.start nominal)

/-- The states at which a clock does not stall: those that are later than the last such state. -/
def accepted (states : List ArmState) : List ArmState :=
  states.foldl
    (fun kept state =>
      if ∀ last ∈ kept.getLast?, last.time < state.time then kept ++ [state] else kept) []

theorem after_snoc (nominal : Duration) (states : List ArmState) (state : ArmState) :
    after nominal (states ++ [state]) =
      (after nominal states).bind fun clock => clock.take state := by
  simp [after, List.foldlM_append]

theorem accepted_snoc (states : List ArmState) (state : ArmState) :
    accepted (states ++ [state]) =
      if ∀ last ∈ (accepted states).getLast?, last.time < state.time then
        accepted states ++ [state]
      else accepted states := by
  simp [accepted, List.foldl_append]

/-- What a clock that has accepted these states makes of one more: in which case it goes on, in
which it stalls, and in which it overflows; and when it goes on, how long the cycle is and what the
lengths add up to. -/
structure Reckons (nominal : Duration) (states : List ArmState) (clock : CycleClock)
    (state : ArmState) : Prop where
  advances : (∃ period next, clock.tick state.time = .advanced period next) ↔
    (∀ last ∈ states.getLast?, last.time < state.time) ∧
      span nominal states state < UInt64.size * 1000000000
  stalls : ∀ previous, clock.tick state.time = .stalled previous ↔
    ∃ last, states.getLast? = some last ∧ previous = last.time ∧ ¬ last.time < state.time
  overflows : clock.tick state.time = .overflow ↔
    (∃ last, states.getLast? = some last ∧ last.time < state.time) ∧
      UInt64.size * 1000000000 ≤ span nominal states state
  advanced : ∀ period next, clock.tick state.time = .advanced period next →
    period = cycleLength nominal states state ∧ 0 < period.nanos ∧
      next.elapsed.nanos = span nominal states state ∧ clock.elapsed < next.elapsed

/-- The clock goes on. -/
theorem Reckons.of_advanced {period : Duration} {next : CycleClock}
    (htick : clock.tick state.time = .advanced period next)
    (hlater : ∀ last ∈ states.getLast?, last.time < state.time)
    (hshort : span nominal states state < UInt64.size * 1000000000)
    (hnext : period = cycleLength nominal states state ∧ 0 < period.nanos ∧
      next.elapsed.nanos = span nominal states state ∧ clock.elapsed < next.elapsed) :
    Reckons nominal states clock state where
  advances := ⟨fun _ => ⟨hlater, hshort⟩, fun _ => ⟨period, next, htick⟩⟩
  stalls previous := by
    rw [htick]
    refine ⟨nofun, ?_⟩
    rintro ⟨last, hlast, -, hstalled⟩
    exact absurd (hlater last hlast) hstalled
  overflows := by
    rw [htick]
    refine ⟨nofun, ?_⟩
    rintro ⟨-, hlong⟩
    omega
  advanced period' next' h := by
    rw [htick] at h
    cases h
    exact hnext

/-- The clock stalls. -/
theorem Reckons.of_stalled {last : ArmState} (hlast : states.getLast? = some last)
    (hstalled : ¬ last.time < state.time) (htick : clock.tick state.time = .stalled last.time) :
    Reckons nominal states clock state where
  advances := by
    rw [htick]
    refine ⟨nofun, ?_⟩
    rintro ⟨hlater, -⟩
    exact absurd (hlater last hlast) hstalled
  stalls previous := by
    rw [htick]
    simp [hlast, hstalled, eq_comm]
  overflows := by
    rw [htick]
    simp [hlast, hstalled]
  advanced period next h := by
    rw [htick] at h
    cases h

/-- The clock overflows. -/
theorem Reckons.of_overflow {last : ArmState} (hlast : states.getLast? = some last)
    (hlater : last.time < state.time)
    (hlong : UInt64.size * 1000000000 ≤ span nominal states state)
    (htick : clock.tick state.time = .overflow) : Reckons nominal states clock state where
  advances := by
    rw [htick]
    refine ⟨nofun, ?_⟩
    rintro ⟨-, hshort⟩
    omega
  stalls previous := by
    rw [htick]
    simp [hlast, hlater]
  overflows := ⟨fun _ => ⟨⟨last, hlast, hlater⟩, hlong⟩, fun _ => htick⟩
  advanced period next h := by
    rw [htick] at h
    cases h

/-- The first state. -/
theorem Tracks.reckons_first (h : Tracks nominal [] clock) (hpos : 0 < nominal.nanos)
    (state : ArmState) : Reckons nominal [] clock state := by
  have hspan : span nominal [] state = nominal.nanos := by simp [span]
  refine .of_advanced h.tick_fresh (by simp) ?_ ⟨rfl, hpos, hspan.symm, ?_⟩
  · rw [hspan]
    exact nominal.isLt
  · show clock.elapsed.nanos < nominal.nanos
    rw [h.fresh rfl]
    exact hpos

/-- Any later state. -/
theorem Tracks.reckons_later {first last : ArmState} (h : Tracks nominal states clock)
    (hfirst : states.head? = some first) (hlast : states.getLast? = some last)
    (state : ArmState) : Reckons nominal states clock state := by
  obtain ⟨hle, hsum⟩ := h.elapsed first hfirst last hlast
  have hle : first.time.nanos ≤ last.time.nanos := hle
  have htick : clock.tick state.time = _ := h.tick_later hfirst hlast
  have hspan : span nominal states state =
      nominal.nanos + (state.time.since first.time).nanos := by
    simp [span, List.headD_eq_head?_getD, hfirst, Duration.since]
  by_cases hlt : last.time < state.time
  · rw [if_pos hlt] at htick
    have hlt' : last.time.nanos < state.time.nanos := hlt
    cases hadd : nominal.add? (state.time.since first.time) with
    | none =>
        rw [hadd] at htick
        refine .of_overflow hlast hlt ?_ htick
        rw [hspan]
        exact Duration.add_eq_none hadd
    | some elapsed =>
        rw [hadd] at htick
        have helapsed : elapsed.nanos = span nominal states state := by
          rw [hspan]
          exact Duration.add_eq_some_iff.mp hadd
        have hlater : ∀ last' ∈ states.getLast?, last'.time < state.time := by
          intro last' hlast'
          obtain rfl := Option.some.inj (hlast.symm.trans hlast')
          exact hlt
        refine .of_advanced htick hlater ?_
          ⟨by simp [cycleLength, hlast], Nat.sub_pos_of_lt hlt', helapsed, ?_⟩
        · rw [← helapsed]
          exact elapsed.isLt
        · -- The sums before and after differ by the time between the last two states.
          show clock.elapsed.nanos < elapsed.nanos
          rw [helapsed, hspan, hsum]
          simp only [Duration.since]
          omega
  · rw [if_neg hlt] at htick
    exact .of_stalled hlast hlt htick

theorem Tracks.reckons (h : Tracks nominal states clock) (hpos : 0 < nominal.nanos)
    (state : ArmState) : Reckons nominal states clock state := by
  by_cases hnil : states = []
  · subst hnil
    exact h.reckons_first hpos state
  · obtain ⟨first, last, hfirst, hlast⟩ := ends_of_ne_nil hnil
    exact h.reckons_later hfirst hlast state

/-- A clock follows the states that it accepts and no others. -/
theorem after_tracks (h : after nominal states = some clock) :
    Tracks nominal (accepted states) clock := by
  induction states using List.reverseRecOn generalizing clock with
  | nil =>
      cases h
      exact .start nominal
  | append_singleton states state ih =>
      rw [after_snoc, Option.bind_eq_some_iff] at h
      obtain ⟨before, hbefore, htake⟩ := h
      have htracks := ih hbefore
      rw [accepted_snoc]
      unfold take at htake
      split at htake
      next period next htick =>
        cases htake
        have hlater := ((htracks.tick_advanced_iff state).mp ⟨period, clock, htick⟩).1
        rw [if_pos hlater]
        exact htracks.advanced htick
      next previous htick =>
        cases htake
        obtain ⟨last, hlast, -, hstalled⟩ := htracks.tick_stalled htick
        rw [if_neg fun hlater => hstalled (hlater last hlast)]
        exact htracks
      next => cases htake

/-- A clock after any states reckons from those that it has accepted. -/
theorem after_reckons (hpos : 0 < nominal.nanos) (h : after nominal states = some clock)
    (state : ArmState) : Reckons nominal (accepted states) clock state :=
  (after_tracks h).reckons hpos state

end CycleClock

/-! ## Calls in order -/

/-- Each of the calls is as it should be, after these states and those received in the calls before
it. -/
def InOrder (P : List ArmState → Call → Prop) (states : List ArmState) (calls : List Call) : Prop :=
  ∀ earlier call later, calls = earlier ++ call :: later → P (states ++ received earlier) call

section InOrder

variable {P : List ArmState → Call → Prop} {states : List ArmState} {call : Call}
  {calls more : List Call}

theorem in_order_nil : InOrder P states [] := by
  intro earlier call later heq
  simp at heq

theorem InOrder.cons (hcall : P states call) (hmore : InOrder P (states ++ received [call]) more) :
    InOrder P states (call :: more) := by
  intro earlier call' later heq
  cases earlier with
  | nil =>
      obtain ⟨rfl, -⟩ := List.cons.inj heq
      simpa [received] using hcall
  | cons first earlier =>
      obtain ⟨rfl, rfl⟩ := List.cons.inj heq
      have hrest := hmore earlier call' later rfl
      rwa [List.append_assoc, ← received_append] at hrest

theorem InOrder.append (h : InOrder P states calls)
    (hmore : InOrder P (states ++ received calls) more) : InOrder P states (calls ++ more) := by
  induction calls generalizing states with
  | nil => simpa [received] using hmore
  | cons call calls ih =>
      have hcall : P states call := by simpa [received] using h [] call calls rfl
      refine .cons hcall (ih ?_ ?_)
      · intro earlier call' later heq
        have hrest := h (call :: earlier) call' later (by rw [heq, List.cons_append])
        rwa [← List.singleton_append, received_append, ← List.append_assoc] at hrest
      · rwa [List.append_assoc, ← received_append]

/-- Calls that receive no state. -/
theorem in_order_of_forall (h : ∀ call ∈ calls, call.received? = none ∧ P states call) :
    InOrder P states calls := by
  induction calls with
  | nil => exact in_order_nil
  | cons call calls ih =>
      obtain ⟨hnone, hcall⟩ := h call List.mem_cons_self
      refine .cons hcall ?_
      have hreceived : received [call] = [] := by simp [received, hnone]
      rw [hreceived, List.append_nil]
      exact ih fun call' hmem => h call' (List.mem_cons_of_mem _ hmem)

end InOrder

namespace Control

/-- A call is in time: a state that is received is accepted by the clock, and a callback is told the
length of the cycle of the last state, which is not zero. -/
def Timely (nominal : Duration) (states : List ArmState) : Call → Prop
  | .receive (.value state) => ∃ clock next, CycleClock.after nominal states = some clock ∧
      clock.Reckons nominal states state ∧
        clock.tick state.time = .advanced (cycleLength nominal states state) next
  | .torque state period _ | .motion state period _ => ∃ earlier, states = earlier ++ [state] ∧
      period = cycleLength nominal earlier state ∧ 0 < period.nanos
  | .receive (.failure _) | .receive .overflow | .send _ _ | .request _ _ | .predicate _ _ => True

/-! ## Sessions -/

/-- Why a state was the last one: its mode, which is looked at first, or its time. -/
inductive Refused (supervisor : Supervisor) (clock : CycleClock) (states : List ArmState)
    (state : ArmState) : Except Ending Nat → Prop
  | mode (fault : ModeMismatch) :
      ((supervisor.seen states).observe state.controllerMode (states.length + 1)).verdict =
        .error fault →
      Refused supervisor clock states state (.error (.fault (.control fault)))
  | stalled (previous : Duration) :
      ((supervisor.seen states).observe state.controllerMode (states.length + 1)).verdict =
        .ok () →
      clock.tick state.time = .stalled previous →
      Refused supervisor clock states state
        (.error (.fault (.communication (.clockStalled previous state.time))))
  | overflow :
      ((supervisor.seen states).observe state.controllerMode (states.length + 1)).verdict =
        .ok () →
      clock.tick state.time = .overflow →
      Refused supervisor clock states state (.error (.halt .clockOverflow))

/-- Whether a session ended because its clock stalled. -/
def Stalled (outcome : Except Ending α) : Prop :=
  ∃ previous current,
    outcome = .error (.fault (.communication (.clockStalled previous current)))

/-- The calls after these states keep time: either they all are in time and the session did not end
because its clock stalled, or the last of them received a state that was refused. -/
inductive Timed (supervisor : Supervisor) (nominal : Duration) (states : List ArmState)
    (calls : List Call) (outcome : Except Ending Nat) : Prop
  | kept : InOrder (Timely nominal) states calls → ¬ Stalled outcome →
      Timed supervisor nominal states calls outcome
  | refused (earlier : List Call) (state : ArmState) (clock : CycleClock) :
      calls = earlier ++ [.receive (.value state)] → InOrder (Timely nominal) states earlier →
      CycleClock.after nominal (states ++ received earlier) = some clock →
      clock.Reckons nominal (states ++ received earlier) state →
      Refused supervisor clock (states ++ received earlier) state outcome →
      Timed supervisor nominal states calls outcome

variable {supervisor : Supervisor} {nominal period : Duration} {withTorque withMotion : Bool}
  {rounds : List Round} {p p' : Progress} {calls front : List Call} {states : List ArmState}
  {state : ArmState} {outcome : Except Ending Nat}

/-- Calls that are in time, before calls that keep time. -/
theorem Timed.after (h : Timed supervisor nominal (states ++ received front) calls outcome)
    (hfront : InOrder (Timely nominal) states front) :
    Timed supervisor nominal states (front ++ calls) outcome := by
  cases h with
  | kept hcalls houtcome => exact .kept (hfront.append hcalls) houtcome
  | refused earlier state clock hcalls hearlier hclock hreckons hrefused =>
      subst hcalls
      rw [List.append_assoc, ← received_append] at hclock hreckons hrefused
      exact .refused (front ++ earlier) state clock (List.append_assoc ..).symm
        (hfront.append hearlier) hclock hreckons hrefused

/-- A progress of a session whose clock has run through the states of its rounds. -/
structure OnTime (supervisor : Supervisor) (nominal : Duration) (withTorque withMotion : Bool)
    (rounds : List Round) (p : Progress) : Prop where
  standing : Standing supervisor nominal withTorque withMotion rounds p
  clock : CycleClock.after nominal (rounds.map Round.state) = some p.clock

theorem OnTime.reckons (h : OnTime supervisor nominal withTorque withMotion rounds p)
    (hpos : 0 < nominal.nanos) (state : ArmState) :
    p.clock.Reckons nominal (rounds.map Round.state) state :=
  h.standing.clock.reckons hpos state

/-- A state that passed its checks was accepted by the clock, and its cycle has the length that the
clock gives. -/
theorem OnTime.checked (h : OnTime supervisor nominal withTorque withMotion rounds p)
    (hpos : 0 < nominal.nanos) (hcheck : p.check state = .ok (⟨state, period⟩, p')) :
    Timely nominal (rounds.map Round.state) (.receive (.value state)) ∧
      period = cycleLength nominal (rounds.map Round.state) state ∧ 0 < period.nanos := by
  obtain ⟨-, period', clock, htick, hnow, -⟩ := Progress.check_ok hcheck
  cases hnow
  have hreckons := h.reckons hpos state
  obtain ⟨hperiod, hlong, -, -⟩ := hreckons.advanced period clock htick
  refine ⟨⟨p.clock, clock, h.clock, hreckons, ?_⟩, hperiod, hlong⟩
  rw [htick, hperiod]

/-- One more round. -/
theorem OnTime.advance {r : Round} (h : OnTime supervisor nominal withTorque withMotion rounds p)
    (hadvance : Advance withTorque withMotion p r p') :
    OnTime supervisor nominal withTorque withMotion (rounds ++ [r]) p' := by
  refine ⟨h.standing.advance hadvance, ?_⟩
  obtain ⟨-, period, clock, htick, -, heq⟩ := Progress.check_ok hadvance.checked
  have hclock : p'.clock = clock := congrArg Progress.clock heq
  rw [List.map_append, List.map_singleton, CycleClock.after_snoc, h.clock, hclock]
  simp [CycleClock.take, htick]

theorem Rounds.on_time
    (h : Rounds withTorque withMotion (.opening supervisor nominal withTorque withMotion) rounds
      p) :
    OnTime supervisor nominal withTorque withMotion rounds p := by
  induction h with
  | nil => exact ⟨.start supervisor nominal withTorque withMotion, rfl⟩
  | snoc _ hadvance _ ih => exact ih.advance hadvance

/-! ## The calls of a session -/

/-- A call that receives no state is in time. -/
def Within (nominal : Duration) (states : List ArmState) (call : Call) : Prop :=
  call.received? = none ∧ Timely nominal states call

/-- The calls of a turn that does no harm. -/
theorem turn_calls_within {call : Except String (Flow α) → Call}
    (hcall : ∀ output, Within nominal states (call output)) (flow : Option (Flow α)) :
    ∀ c ∈ turnCalls call flow, Within nominal states c := by
  cases flow <;> simp [turnCalls, hcall]

theorem Turn.within {kind : CallbackKind} {call : Except String (Flow α) → Call} {present : Bool}
    {validate : α → Except ValueError Unit} {slot : Slot α} {cycle : Nat}
    {outcome : Except Ending (Slot α)}
    (h : Turn kind call present validate slot cycle calls outcome)
    (hcall : ∀ output, Within nominal states (call output)) :
    ∀ c ∈ calls, Within nominal states c := by
  cases h with
  | taken flow slot' _ => exact turn_calls_within hcall flow
  | failed reason _ => simp [hcall]
  | invalid flow error _ _ => simp [hcall]

/-- A turn ends a session with an error of its own. -/
theorem Turn.not_stalled {kind : CallbackKind} {call : Except String (Flow α) → Call}
    {present : Bool} {validate : α → Except ValueError Unit} {slot : Slot α} {cycle : Nat}
    {e : Ending} (h : Turn kind call present validate slot cycle calls (.error e)) :
    ¬ Stalled (.error e : Except Ending Nat) := by
  rintro ⟨previous, current, heq⟩
  cases h <;> cases heq

/-- An answer ends a session with an error of the link. -/
theorem not_stalled_of_answer {β : Type} {answer : Answer β} {e : Ending}
    (h : answer.outcome = .error e) : ¬ Stalled (.error e : Except Ending Nat) := by
  rintro ⟨previous, current, heq⟩
  cases heq
  obtain ⟨_, -, heq⟩ := Answer.outcome_fault h
  cases heq

/-- A cycle whose state passed its checks, up to any further calls. -/
theorem OnTime.cycle {rest : List Call}
    (h : OnTime supervisor nominal withTorque withMotion rounds p) (hpos : 0 < nominal.nanos)
    (hcheck : p.check state = .ok (⟨state, period⟩, p'))
    (hrest : (∀ output, Within nominal (rounds.map Round.state ++ [state])
        (.torque state period output)) →
      (∀ output, Within nominal (rounds.map Round.state ++ [state])
        (.motion state period output)) →
      ∀ call ∈ rest, Within nominal (rounds.map Round.state ++ [state]) call) :
    InOrder (Timely nominal) (rounds.map Round.state) (.receive (.value state) :: rest) := by
  obtain ⟨hreceive, hlength⟩ := h.checked hpos hcheck
  exact .cons hreceive <| in_order_of_forall <| hrest
    (fun _ => ⟨rfl, rounds.map Round.state, rfl, hlength⟩)
    (fun _ => ⟨rfl, rounds.map Round.state, rfl, hlength⟩)

/-- The calls of a round. -/
theorem OnTime.round {r : Round} (h : OnTime supervisor nominal withTorque withMotion rounds p)
    (hpos : 0 < nominal.nanos) (hadvance : Advance withTorque withMotion p r p')
    (answer : Answer Unit) :
    InOrder (Timely nominal) (rounds.map Round.state) (r.calls answer) := by
  refine h.cycle hpos hadvance.checked fun htorque hmotion call hmem => ?_
  rcases List.mem_append.mp hmem with hmem | hmem
  · rcases List.mem_append.mp hmem with hmem | hmem
    · exact turn_calls_within htorque r.torque call hmem
    · exact turn_calls_within hmotion r.motion call hmem
  · rw [List.mem_singleton.mp hmem]
    exact ⟨rfl, trivial⟩

theorem Rounds.timely (hpos : 0 < nominal.nanos)
    (h : Rounds withTorque withMotion (.opening supervisor nominal withTorque withMotion) rounds
      p) :
    InOrder (Timely nominal) [] (rounds.flatMap Round.accepted) := by
  induction h with
  | nil => exact in_order_nil
  | snoc hrounds hadvance _ ih =>
      rw [List.flatMap_append]
      refine ih.append ?_
      rw [List.nil_append, received, rounds_received_states]
      simpa using hrounds.on_time.round hpos hadvance (.value ())

/-- Waiting for a state in vain, or for one that is refused. -/
theorem Opening.timed {e : Ending} (hpos : 0 < nominal.nanos)
    (h : OnTime supervisor nominal withTorque withMotion rounds p)
    (hopening : Opening p calls (.error e)) :
    Timed supervisor nominal (rounds.map Round.state) calls (.error e) := by
  generalize houtcome : (Except.error e : Except Ending (Cycle × Progress)) = outcome at hopening
  cases hopening with
  | unanswered answer e' hanswer =>
      cases houtcome
      refine .kept (.cons ?_ in_order_nil) (not_stalled_of_answer hanswer)
      cases answer with
      | value state => cases hanswer
      | failure | overflow => trivial
  | answered state =>
      have hseen := Progress.check_error houtcome.symm
      have hlength : p.cycle = (rounds.map Round.state).length := by
        rw [h.standing.cycle, List.length_map]
      rw [h.standing.supervisor, hlength] at hseen
      refine .refused [] state p.clock rfl in_order_nil ?_ ?_ ?_
      · simpa [received] using h.clock
      · simpa [received] using h.reckons hpos state
      · rw [received, List.filterMap_nil, List.append_nil]
        rcases hseen with ⟨fault, hverdict, rfl⟩ |
          ⟨hverdict, ⟨previous, htick, rfl⟩ | ⟨htick, rfl⟩⟩
        · exact .mode fault hverdict
        · exact .stalled previous hverdict htick
        · exact .overflow hverdict htick

/-- An ordinary cycle in which the session ends. -/
theorem Faltering.timed {e : Ending} (hpos : 0 < nominal.nanos)
    (h : OnTime supervisor nominal withTorque withMotion rounds p)
    (hfaltering : Faltering withTorque withMotion p calls e) :
    Timed supervisor nominal (rounds.map Round.state) calls (.error e) := by
  cases hfaltering with
  | unopened hopening => exact hopening.timed hpos h
  | torqueFailed hcheck hturn =>
      exact .kept (h.cycle hpos hcheck fun htorque _ => hturn.within htorque) hturn.not_stalled
  | @motionFailed state period _ torque _ _ _ hcheck _ hturn =>
      refine .kept (h.cycle hpos hcheck fun htorque hmotion call hmem => ?_) hturn.not_stalled
      rcases List.mem_append.mp hmem with hmem | hmem
      · exact turn_calls_within htorque torque call hmem
      · exact hturn.within hmotion call hmem
  | unsent hadvance hanswer =>
      exact .kept (h.round hpos hadvance _) (not_stalled_of_answer hanswer)

/-- The terminal cycle. -/
theorem Closing.timed {last : Command} (hpos : 0 < nominal.nanos)
    (h : OnTime supervisor nominal withTorque withMotion rounds p)
    (hclosing : Closing p last calls outcome) :
    Timed supervisor nominal (rounds.map Round.state) calls outcome := by
  -- The command of this cycle is all that comes after its state.
  have hsent {state : ArmState} {now : Cycle} {p' : Progress} (c : Command)
      (answer : Answer Unit) (hcheck : p.check state = .ok (now, p')) :
      InOrder (Timely nominal) (rounds.map Round.state)
        [.receive (.value state), .send c answer] := by
    obtain ⟨-, period, clock, -, rfl, -⟩ := Progress.check_ok hcheck
    refine h.cycle hpos hcheck fun _ _ call hmem => ?_
    rw [List.mem_singleton.mp hmem]
    exact ⟨rfl, trivial⟩
  cases hclosing with
  | unopened hopening => exact hopening.timed hpos h
  | unsent hcheck hanswer => exact .kept (hsent _ _ hcheck) (not_stalled_of_answer hanswer)
  | closed hcheck => exact .kept (hsent _ _ hcheck) nofun

/-- Every course keeps time. -/
theorem Course.timed (hpos : 0 < nominal.nanos)
    (h : Course withTorque withMotion (.opening supervisor nominal withTorque withMotion) calls
      outcome) :
    Timed supervisor nominal [] calls outcome := by
  cases h with
  | unfinished hrounds => exact .kept (hrounds.timely hpos) nofun
  | faltered hrounds hfaltering =>
      refine .after ?_ (hrounds.timely hpos)
      rw [List.nil_append, received, rounds_received_states]
      exact hfaltering.timed hpos hrounds.on_time
  | @terminal rounds _ _ r _ _ hrounds hadvance _ hclosing =>
      have hround : InOrder (Timely nominal) [] ((rounds ++ [r]).flatMap Round.accepted) := by
        rw [List.flatMap_append]
        refine (hrounds.timely hpos).append ?_
        rw [List.nil_append, received, rounds_received_states]
        simpa using hrounds.on_time.round hpos hadvance (.value ())
      refine .after ?_ hround
      rw [List.nil_append, received, rounds_received_states]
      exact hclosing.timed hpos (hrounds.on_time.advance hadvance)

/-- Control sessions keep time when their times pass the check. The clock reckons as it should after
any states, the clock of a session runs through the states of its rounds, and the calls of a session
are in time, up to a state that the session refuses. -/
theorem sessions_keep_time (r : Robot σ) (supervisor : Supervisor) (scripts : Scripts μ)
    (limit : Nat) (s : Occupied σ μ) (hvalid : r.driver.timing.validate = .ok ()) :
    (∀ states clock, CycleClock.after r.driver.timing.controlPeriod states = some clock →
      ∀ state, clock.Reckons r.driver.timing.controlPeriod (CycleClock.accepted states) state) ∧
    (∀ rounds p, Rounds scripts.torque.isSome scripts.motion.isSome
        (.opening supervisor r.driver.timing.controlPeriod scripts.torque.isSome
          scripts.motion.isSome) rounds p →
      CycleClock.after r.driver.timing.controlPeriod (rounds.map Round.state) = some p.clock) ∧
    ∃ outcome s', session r supervisor scripts limit s.station = Ending.result outcome s' ∧
      Timed supervisor r.driver.timing.controlPeriod []
        (trace r supervisor scripts limit s.station) outcome := by
  have hpos := Timing.control_period_pos hvalid
  obtain ⟨outcome, s', hcourse, houtcome⟩ := session_course r supervisor scripts limit s
  exact ⟨fun _ _ hclock state => CycleClock.after_reckons hpos hclock state,
    fun _ _ hrounds => hrounds.on_time.clock, outcome, s', houtcome.result, hcourse.timed hpos⟩

end Control

/-- The station of a session over a line whose third state is not later than its second. -/
def Prepared.halting : Occupied Prepared Unit where
  station :=
    { Station.fresh
        { states :=
            [.state (some (.ofMillis 10)) id, .state (some (.ofMillis 12)) id,
              .state (some (.ofMillis 12)) id] } () #[] with
      held := true }
  held := rfl

/-- A callback that gives no torques and never finishes. -/
def Scripts.idle : Scripts Unit := ⟨some fun _ _ => .done (.ok (.continue {})), none⟩

/-- A session of three cycles ends with the time that stands still. -/
theorem halting_session_keeps_time :
    (received (Control.trace Prepared.robot .unenforced Scripts.idle 3
      Prepared.halting.station)).map ArmState.time = [.ofMillis 10, .ofMillis 12, .ofMillis 12] ∧
    Prepared.robot.driver.timing.validate = .ok () ∧
    ∃ outcome s', Control.session Prepared.robot .unenforced Scripts.idle 3
        Prepared.halting.station = Ending.result outcome s' ∧
      Control.Timed .unenforced (.ofMicros 1000) []
        (Control.trace Prepared.robot .unenforced Scripts.idle 3 Prepared.halting.station)
        outcome :=
  ⟨by decide +kernel, rfl, (Control.sessions_keep_time Prepared.robot .unenforced Scripts.idle 3
    Prepared.halting rfl).2.2⟩

end ArmControl
