import ArmControl.Proofs.Control.Course

/-!
# Where a session stands

All that a session remembers from one cycle to the next can be read off its rounds so far: the
outputs that it holds are the latest ones, a callback has finished when one of its outputs said so,
and the mode and the time to expect come from the states. `Standing` says this of a progress, and
`Rounds.standing` shows it of every progress that a session reaches.
-/

namespace ArmControl

namespace Supervisor

/-- The supervisor after states that it had nothing against. -/
def seen : Supervisor → List ArmState → Supervisor
  | s, [] => s
  | idle false, _ :: _ => idle false
  | idle true, first :: _ => confirmed first.controllerMode
  | requested expected, _ :: _ => confirmed expected
  | confirmed expected, _ :: _ => confirmed expected
  | faulted fault, _ :: _ => faulted fault

/-- The mode that is expected of a state after these: none at all, that of the first state, or the
one asked for. -/
def expecting (s : Supervisor) (states : List ArmState) : Option ReportedMode :=
  match s with
  | idle false => none
  | idle true => states.head?.map ArmState.controllerMode
  | requested expected | confirmed expected => some expected
  | faulted fault => some fault.expected

/-- Whether the supervisor repeats an old fault. -/
def isFaulted : Supervisor → Bool
  | faulted _ => true
  | _ => false

theorem seen_expected (s : Supervisor) (states : List ArmState) :
    (s.seen states).expected? = s.expecting states := by
  cases s with
  | idle latch => cases latch <;> cases states <;> rfl
  | requested expected | confirmed expected | faulted fault => cases states <;> rfl

theorem seen_is_faulted (s : Supervisor) (states : List ArmState) :
    (s.seen states).isFaulted = s.isFaulted := by
  cases s with
  | idle latch => cases latch <;> cases states <;> rfl
  | requested expected | confirmed expected | faulted fault => cases states <;> rfl

/-- A mode passes when it is the expected one, if any mode is expected. -/
theorem observe_ok_iff {s : Supervisor} {mode : ReportedMode} {cycle : Nat} :
    (s.observe mode cycle).verdict = .ok () ↔
      s.isFaulted = false ∧ ∀ expected ∈ s.expected?, mode = expected := by
  cases s with
  | idle latch => cases latch <;> simp [observe, isFaulted, expected?]
  | requested expected | confirmed expected =>
      by_cases hmode : expected = mode
      · simp [observe, isFaulted, expected?, hmode]
      · simp [observe, isFaulted, expected?, hmode, fail, Ne.symm hmode]
  | faulted fault => simp [observe, isFaulted]

/-- The fault of a supervisor that was in order so far. -/
theorem observe_error {s : Supervisor} {mode : ReportedMode} {cycle : Nat} {fault : ModeMismatch}
    (h : (s.observe mode cycle).verdict = .error fault) (hs : s.isFaulted = false) :
    ∃ expected, s.expected? = some expected ∧ expected ≠ mode ∧
      fault = ⟨expected, mode, cycle⟩ := by
  cases s with
  | idle latch => cases latch <;> cases h
  | requested expected | confirmed expected =>
      by_cases hmode : expected = mode
      · simp [observe, hmode] at h
      · simp only [observe, hmode, if_false, fail, Except.error.injEq] at h
        exact ⟨expected, rfl, hmode, h.symm⟩
  | faulted fault => cases hs

/-- One more state that the supervisor has nothing against. -/
theorem seen_snoc {s : Supervisor} {states : List ArmState} {state : ArmState} {cycle : Nat}
    (h : ((s.seen states).observe state.controllerMode cycle).verdict = .ok ()) :
    ((s.seen states).observe state.controllerMode cycle).supervisor =
      s.seen (states ++ [state]) := by
  have hmode := (observe_ok_iff.mp h).2
  rw [seen_expected] at hmode
  cases s with
  | idle latch =>
      cases latch with
      | false => cases states <;> rfl
      | true =>
          cases states with
          | nil => rfl
          | cons first rest =>
              have hfirst : state.controllerMode = first.controllerMode := hmode _ rfl
              simp [seen, observe, hfirst]
  | requested expected | confirmed expected =>
      have hexpected : state.controllerMode = expected := hmode _ rfl
      cases states <;> simp [seen, observe, hexpected]
  | faulted fault => cases states <;> rfl

end Supervisor

namespace Duration

/-- The sum is what it should be, whenever there is one. -/
theorem add_eq_some_iff {a b sum : Duration} :
    a.add? b = some sum ↔ sum.nanos = a.nanos + b.nanos := by
  obtain ⟨nanos, hlt⟩ := sum
  unfold add? ofNanos?
  split
  next hsum => simp [eq_comm]
  next hsum =>
    simp only [reduceCtorEq, false_iff]
    omega

/-- There is no sum past the greatest duration. -/
theorem add_eq_none {a b : Duration} (h : a.add? b = none) :
    UInt64.size * 1000000000 ≤ a.nanos + b.nanos := by
  unfold add? ofNanos? at h
  split at h
  next => cases h
  next hge => exact Nat.not_lt.mp hge

/-- Whether there is a sum depends on its nanoseconds only. -/
theorem add_congr {a b a' b' : Duration} (h : a.nanos + b.nanos = a'.nanos + b'.nanos) :
    a.add? b = a'.add? b' := by
  unfold add?
  rw [h]

end Duration

namespace CycleClock

/-- A clock that was started with a nominal length and has taken in these states. -/
structure Tracks (nominal : Duration) (states : List ArmState) (clock : CycleClock) : Prop where
  unchanged : clock.nominal = nominal
  previous : clock.previous = states.getLast?.map ArmState.time
  elapsed : ∀ first ∈ states.head?, ∀ last ∈ states.getLast?, first.time ≤ last.time ∧
    clock.elapsed.nanos = nominal.nanos + (last.time.nanos - first.time.nanos)
  fresh : states = [] → clock.elapsed = .zero

variable {nominal period : Duration} {states : List ArmState} {clock next : CycleClock}
  {state : ArmState}

theorem Tracks.start (nominal : Duration) : Tracks nominal [] (.start nominal) :=
  ⟨rfl, rfl, by simp, fun _ => rfl⟩

/-- The first state always has its time taken. -/
theorem Tracks.tick_fresh (h : Tracks nominal [] clock) :
    clock.tick state.time =
      .advanced nominal { clock with previous := some state.time, elapsed := nominal } := by
  have hsum : clock.elapsed.add? nominal = some nominal := by
    rw [Duration.add_eq_some_iff, h.fresh rfl]
    simp [Duration.zero]
  simp [tick, advance, h.previous, h.unchanged, hsum]

/-- The time of a later state counts from the one before it, and the sum of all lengths from the
first one. -/
theorem Tracks.tick_later {first last : ArmState} (h : Tracks nominal states clock)
    (hfirst : states.head? = some first) (hlast : states.getLast? = some last) :
    clock.tick state.time =
      if last.time < state.time then
        match nominal.add? (state.time.since first.time) with
        | some elapsed => .advanced (state.time.since last.time)
            { clock with previous := some state.time, elapsed }
        | none => .overflow
      else .stalled last.time := by
  obtain ⟨hle, hsum⟩ := h.elapsed first hfirst last hlast
  simp only [tick, h.previous, hlast, Option.map_some]
  split
  next hlt =>
    have hle : first.time.nanos ≤ last.time.nanos := hle
    have hlt : last.time.nanos < state.time.nanos := hlt
    -- The lengths so far reach from the first state to the last, and this one takes over there.
    have hadd : clock.elapsed.add? (state.time.since last.time) =
        nominal.add? (state.time.since first.time) := by
      apply Duration.add_congr
      simp only [Duration.since]
      omega
    cases hsum : nominal.add? (state.time.since first.time) <;>
      simp only [advance, hadd, hsum]
  next => rfl

/-- There are a first and a last state as soon as there are any. -/
theorem ends_of_ne_nil (h : states ≠ []) :
    ∃ first last, states.head? = some first ∧ states.getLast? = some last :=
  ⟨states.head h, states.getLast h, List.head?_eq_some_head h, List.getLast?_eq_some_getLast h⟩

/-- Taking in a state gives its cycle a length when the state is later than the one before it, and
all lengths together are no longer than a duration can be. -/
theorem Tracks.tick_advanced_iff (h : Tracks nominal states clock) (state : ArmState) :
    (∃ period next, clock.tick state.time = .advanced period next) ↔
      (∀ last ∈ states.getLast?, last.time < state.time) ∧
        ∀ first ∈ states.head?, (nominal.add? (state.time.since first.time)).isSome = true := by
  by_cases hnil : states = []
  · subst hnil
    simp [h.tick_fresh]
  · obtain ⟨first, last, hfirst, hlast⟩ := ends_of_ne_nil hnil
    rw [h.tick_later hfirst hlast]
    by_cases hlt : last.time < state.time
    · cases hsum : nominal.add? (state.time.since first.time) <;> simp [hfirst, hlast, hlt, hsum]
    · simp [hlast, hlt]

/-- The clock stalls at a state that is not later than the one before it. -/
theorem Tracks.tick_stalled {previous : Duration} (h : Tracks nominal states clock)
    (hstalled : clock.tick state.time = .stalled previous) :
    ∃ last, states.getLast? = some last ∧ previous = last.time ∧ ¬ last.time < state.time := by
  by_cases hnil : states = []
  · subst hnil
    rw [h.tick_fresh] at hstalled
    cases hstalled
  · obtain ⟨first, last, hfirst, hlast⟩ := ends_of_ne_nil hnil
    rw [h.tick_later hfirst hlast] at hstalled
    by_cases hlt : last.time < state.time
    · rw [if_pos hlt] at hstalled
      split at hstalled <;> cases hstalled
    · rw [if_neg hlt] at hstalled
      cases hstalled
      exact ⟨last, hlast, rfl, hlt⟩

/-- The clock afterwards has taken in that state too. -/
theorem Tracks.advanced (h : Tracks nominal states clock)
    (htick : clock.tick state.time = .advanced period next) :
    Tracks nominal (states ++ [state]) next := by
  by_cases hnil : states = []
  · subst hnil
    rw [h.tick_fresh] at htick
    cases htick
    exact ⟨h.unchanged, rfl, by simp; exact Nat.le_refl _, by simp⟩
  · obtain ⟨first, last, hfirst, hlast⟩ := ends_of_ne_nil hnil
    have hle : first.time.nanos ≤ last.time.nanos := (h.elapsed first hfirst last hlast).1
    rw [h.tick_later hfirst hlast] at htick
    by_cases hlt : last.time < state.time
    · rw [if_pos hlt] at htick
      split at htick
      next elapsed hsum =>
        cases htick
        have hlt : last.time.nanos < state.time.nanos := hlt
        refine ⟨h.unchanged, by simp, ?_, by simp⟩
        simp only [List.head?_append, hfirst, List.getLast?_append, List.getLast?_singleton,
          Option.mem_def, Option.some_or, Option.some.injEq, forall_eq']
        exact ⟨Nat.le_of_lt (Nat.lt_of_le_of_lt hle hlt), Duration.add_eq_some_iff.mp hsum⟩
      next => cases htick
    · rw [if_neg hlt] at htick
      cases htick

end CycleClock

namespace Control

/-! ## Outputs -/

/-- The latest output of a callback in these rounds. -/
def latest {α : Type} (output : Round → Option (Flow α)) (rounds : List Round) : Option α :=
  (rounds.filterMap output).getLast?.map Flow.value

/-- Whether a callback said in one of these rounds that it has finished. -/
def hasFinished {α : Type} (output : Round → Option (Flow α)) (rounds : List Round) : Bool :=
  rounds.any fun r => (output r).any Flow.isFinished

/-- A slot that holds what a callback gave in these rounds. -/
structure Holds {α : Type} (present : Bool) (output : Round → Option (Flow α))
    (rounds : List Round) (slot : Slot α) : Prop where
  held : slot.held = latest output rounds
  given : slot.held.isSome = (present && !rounds.isEmpty)
  finished : slot.finished = (!present || hasFinished output rounds)

section Holds

variable {α : Type} {present : Bool} {output : Round → Option (Flow α)} {rounds : List Round}
  {slot slot' : Slot α} {r : Round}

theorem Holds.start (present : Bool) (output : Round → Option (Flow α)) :
    Holds present output [] (.start present) :=
  ⟨rfl, by simp [Slot.start], by simp [Slot.start, hasFinished]⟩

/-- A callback has its turn when it is present and has not finished. -/
theorem Holds.is_due (h : Holds present output rounds slot) :
    slot.isDue present = (present && !hasFinished output rounds) := by
  cases hpresent : present <;> simp [Slot.isDue, h.finished, hpresent]

/-- A callback is called in a round exactly when it has its turn. -/
theorem Fills.called {validate : α → Except ValueError Unit} {flow : Option (Flow α)}
    (h : Fills present validate slot flow slot') : flow.isSome = slot.isDue present := by
  cases h with
  | kept hdue => exact hdue.symm
  | filled flow hdue _ => exact hdue.symm

theorem latest_snoc (output : Round → Option (Flow α)) (rounds : List Round) (r : Round) :
    latest output (rounds ++ [r]) = ((output r).map Flow.value).or (latest output rounds) := by
  cases houtput : output r <;> simp [latest, houtput]

theorem has_finished_snoc (output : Round → Option (Flow α)) (rounds : List Round) (r : Round) :
    hasFinished output (rounds ++ [r]) =
      (hasFinished output rounds || (output r).any Flow.isFinished) := by
  simp [hasFinished]

/-- A callback that has finished did so in some round. -/
theorem ne_nil_of_has_finished (h : hasFinished output rounds = true) : rounds.isEmpty = false := by
  cases rounds with
  | nil => cases h
  | cons r rest => rfl

/-- The slot after one more round. -/
theorem Holds.fills {validate : α → Except ValueError Unit}
    (h : Holds present output rounds slot)
    (hfills : Fills present validate slot (output r) slot') :
    Holds present output (rounds ++ [r]) slot' := by
  have hdue := h.is_due
  generalize houtput : output r = flow at hfills
  cases hfills with
  | kept hkept =>
      rw [hkept] at hdue
      refine ⟨?_, ?_, ?_⟩
      · rw [latest_snoc, houtput, h.held]
        rfl
      · -- A callback that is present and has no turn has finished, and so it gave something.
        rw [h.given]
        cases hpresent : present with
        | false => rfl
        | true =>
            have hfinished : hasFinished output rounds = true := by simpa [hpresent] using hdue
            simp [ne_nil_of_has_finished hfinished]
      · rw [has_finished_snoc, houtput, h.finished]
        simp
  | filled flow hcalled _ =>
      rw [hcalled, eq_comm, Bool.and_eq_true] at hdue
      obtain ⟨hpresent, hfinished⟩ := hdue
      refine ⟨?_, ?_, ?_⟩
      · rw [latest_snoc, houtput]
        rfl
      · simp [Slot.accept, hpresent]
      · rw [has_finished_snoc, houtput]
        simp only [Bool.not_eq_true'] at hfinished
        simp [Slot.accept, hpresent, hfinished]

end Holds

/-! ## The progress -/

/-- A progress after these rounds. -/
structure Standing (supervisor : Supervisor) (nominal : Duration) (withTorque withMotion : Bool)
    (rounds : List Round) (p : Progress) : Prop where
  cycle : p.cycle = rounds.length
  supervisor : p.supervisor = supervisor.seen (rounds.map Round.state)
  clock : p.clock.Tracks nominal (rounds.map Round.state)
  torque : Holds withTorque Round.torque rounds p.torque
  motion : Holds withMotion Round.motion rounds p.motion

variable {supervisor : Supervisor} {nominal : Duration} {withTorque withMotion : Bool}
  {rounds : List Round} {p p' : Progress} {r : Round}

theorem Standing.start (supervisor : Supervisor) (nominal : Duration)
    (withTorque withMotion : Bool) :
    Standing supervisor nominal withTorque withMotion []
      (.opening supervisor nominal withTorque withMotion) where
  cycle := rfl
  supervisor := by cases supervisor <;> rfl
  clock := .start nominal
  torque := .start withTorque Round.torque
  motion := .start withMotion Round.motion

/-- One more round. -/
theorem Standing.advance (h : Standing supervisor nominal withTorque withMotion rounds p)
    (hadvance : Advance withTorque withMotion p r p') :
    Standing supervisor nominal withTorque withMotion (rounds ++ [r]) p' := by
  obtain ⟨hverdict, period, clock, htick, -, heq⟩ := Progress.check_ok hadvance.checked
  refine ⟨?_, ?_, ?_, h.torque.fills hadvance.torque, h.motion.fills hadvance.motion⟩
  · have hcycle : p'.cycle = p.cycle + 1 := congrArg Progress.cycle heq
    rw [hcycle, h.cycle]
    simp
  · have hsupervisor : p'.supervisor =
        (p.supervisor.observe r.state.controllerMode (p.cycle + 1)).supervisor :=
      congrArg Progress.supervisor heq
    rw [h.supervisor] at hsupervisor hverdict
    rw [hsupervisor, Supervisor.seen_snoc hverdict]
    simp
  · have hclock : p'.clock = clock := congrArg Progress.clock heq
    rw [hclock, List.map_append]
    exact h.clock.advanced htick

/-- Every progress that a session reaches. -/
theorem Rounds.standing
    (h : Rounds withTorque withMotion (.opening supervisor nominal withTorque withMotion) rounds
      p) :
    Standing supervisor nominal withTorque withMotion rounds p := by
  induction h with
  | nil => exact .start supervisor nominal withTorque withMotion
  | snoc _ hadvance _ ih => exact ih.advance hadvance

/-- What a round has wherever the session stands, each round has after those before it. -/
theorem Rounds.forall_split {P : List Round → Round → Prop}
    (h : Rounds withTorque withMotion (.opening supervisor nominal withTorque withMotion) rounds p)
    (hround : ∀ {rounds : List Round} {p p' : Progress} {r : Round},
      Standing supervisor nominal withTorque withMotion rounds p →
      Advance withTorque withMotion p r p' → P rounds r) :
    ∀ earlier r later, rounds = earlier ++ r :: later → P earlier r := by
  induction h with
  | nil => simp
  | snoc hrounds hadvance _ ih => exact forall_split_snoc ih (hround hrounds.standing hadvance)

/-- A session has finished when every callback that is present has. -/
theorem Standing.finished (h : Standing supervisor nominal withTorque withMotion rounds p) :
    p.finished = ((!withTorque || hasFinished Round.torque rounds) &&
      (!withMotion || hasFinished Round.motion rounds)) := by
  rw [Progress.finished, h.torque.finished, h.motion.finished]

/-- A state passes its checks after these: its mode is the expected one, if any is expected, it is
later than the state before it, and the session is not too long for a duration. -/
structure Passes (supervisor : Supervisor) (nominal : Duration) (states : List ArmState)
    (state : ArmState) : Prop where
  supervised : supervisor.isFaulted = false
  mode : ∀ expected ∈ supervisor.expecting states, state.controllerMode = expected
  later : ∀ last ∈ states.getLast?, last.time < state.time
  measurable : ∀ first ∈ states.head?, (nominal.add? (state.time.since first.time)).isSome = true

/-- When a state passes its checks. -/
theorem Standing.check_ok_iff (h : Standing supervisor nominal withTorque withMotion rounds p)
    (state : ArmState) :
    (∃ next, p.check state = .ok next) ↔
      Passes supervisor nominal (rounds.map Round.state) state := by
  have hmode : (p.supervisor.observe state.controllerMode (p.cycle + 1)).verdict = .ok () ↔
      supervisor.isFaulted = false ∧
        ∀ expected ∈ supervisor.expecting (rounds.map Round.state),
          state.controllerMode = expected := by
    rw [Supervisor.observe_ok_iff, h.supervisor, Supervisor.seen_is_faulted,
      Supervisor.seen_expected]
  have htick := h.clock.tick_advanced_iff state
  constructor
  · intro hpassed
    obtain ⟨⟨now, next⟩, hcheck⟩ := hpassed
    obtain ⟨hverdict, period, clock, hadvanced, -, -⟩ := Progress.check_ok hcheck
    obtain ⟨hsupervised, hexpected⟩ := hmode.mp hverdict
    obtain ⟨hlater, hmeasurable⟩ := htick.mp ⟨period, clock, hadvanced⟩
    exact ⟨hsupervised, hexpected, hlater, hmeasurable⟩
  · intro hpasses
    have hverdict := hmode.mpr ⟨hpasses.supervised, hpasses.mode⟩
    obtain ⟨period, clock, hadvanced⟩ := htick.mpr ⟨hpasses.later, hpasses.measurable⟩
    simp [Progress.check, hverdict, hadvanced]

end Control

end ArmControl
