import ArmControl.Proofs.Control.Adherence
import ArmControl.Proofs.Control.Standing

/-!
# The exchanges of a session

What the controller sees of a control session: states go out and commands come in, one command for
each state. `session_exchanges` says how the two alternate and how the flags of the commands tell
the controller that the session is about to end. All flags are fixed by one number, the number of
ordinary cycles, and `Pattern` says how; a session that fails leaves the beginning of such a
pattern.
-/

namespace ArmControl

namespace Control

/-- A state, the command that answers it, and what the link makes of the command. -/
structure Exchange where
  state : ArmState
  command : Command
  answer : Answer Unit

namespace Exchange

/-- The calls of an exchange. -/
def calls (e : Exchange) : List Call := [.receive (.value e.state), .send e.command e.answer]

end Exchange

/-- The commands of a session with `n` ordinary cycles. Each answers the state of its cycle; the
last ordinary one says that the motion is finished, and the one after it, and only that one, says
that it is the last. -/
structure Pattern (n : Nat) (exchanges : List Exchange) : Prop where
  paired : ∀ e ∈ exchanges, e.command.messageId = e.state.messageId
  motionFinished : ∀ (i : Nat) (h : i < exchanges.length),
    exchanges[i].command.motionFinished = decide (n ≤ i + 1)
  lastCycle : ∀ (i : Nat) (h : i < exchanges.length),
    exchanges[i].command.lastCycle = decide (i = n)

/-- What holds of every element of a list and its place, when the list grows at its end. -/
theorem forall_get_snoc {α : Type} {P : Nat → α → Prop} {xs : List α} {x : α}
    (h : ∀ (i : Nat) (hi : i < xs.length), P i xs[i]) (hlast : P xs.length x) (i : Nat)
    (hi : i < (xs ++ [x]).length) : P i (xs ++ [x])[i] := by
  rcases Nat.lt_or_ge i xs.length with hlt | hge
  · rw [List.getElem_append_left hlt]
    exact h i hlt
  · have heq : i = xs.length := by
      rw [List.length_append, List.length_singleton] at hi
      omega
    subst heq
    simpa using hlast

namespace Pattern

theorem nil (n : Nat) : Pattern n [] := ⟨by simp, by simp, by simp⟩

/-- A pattern goes on with a command that has the flags of its place. -/
theorem snoc {n : Nat} {exchanges : List Exchange} {e : Exchange} (h : Pattern n exchanges)
    (hpaired : e.command.messageId = e.state.messageId)
    (hfinished : e.command.motionFinished = decide (n ≤ exchanges.length + 1))
    (hlast : e.command.lastCycle = decide (exchanges.length = n)) :
    Pattern n (exchanges ++ [e]) where
  paired := by
    intro e' he'
    rcases List.mem_append.mp he' with he' | he'
    · exact h.paired e' he'
    · rw [List.mem_singleton.mp he', hpaired]
  motionFinished :=
    forall_get_snoc (P := fun i (e : Exchange) => e.command.motionFinished = decide (n ≤ i + 1))
      h.motionFinished hfinished
  lastCycle :=
    forall_get_snoc (P := fun i (e : Exchange) => e.command.lastCycle = decide (i = n))
      h.lastCycle hlast

end Pattern

/-- The calls to the link in a session that ends after `n` ordinary cycles. -/
structure Completed (n : Nat) (calls : List Call) (exchanges : List Exchange) : Prop where
  positive : 1 ≤ n
  count : exchanges.length = n + 1
  calls : calls = exchanges.flatMap Exchange.calls
  accepted : ∀ e ∈ exchanges, e.answer = .value ()
  pattern : Pattern n exchanges

/-- The calls to the link in a session that fails: some exchanges in a row, and perhaps a state, or
a failed attempt to receive one, that no command answers. -/
structure CutShort (calls : List Call) (exchanges : List Exchange)
    (waiting : Option (Answer ArmState)) : Prop where
  calls : calls = exchanges.flatMap Exchange.calls ++ (waiting.map .receive).toList
  accepted : ∀ (i : Nat) (h : i < exchanges.length),
    i + 1 < exchanges.length ∨ waiting.isSome = true → exchanges[i].answer = .value ()
  pattern : ∃ n, 1 ≤ n ∧ exchanges.length + waiting.toList.length ≤ n + 1 ∧ Pattern n exchanges
  lastCycle : ∀ (i : Nat) (h : i < exchanges.length), exchanges[i].command.lastCycle = true →
    i + 1 = exchanges.length ∧ ∃ (j : Nat) (hj : j < exchanges.length), j + 1 = i ∧
      exchanges[j].answer = .value () ∧ exchanges[j].command.motionFinished = true ∧
      exchanges[j].command.lastCycle = false

/-- A part of a pattern with nothing after its last command is a session cut short. -/
theorem Pattern.cut_short {n : Nat} {calls : List Call} {exchanges : List Exchange}
    {waiting : Option (Answer ArmState)} (h : Pattern n exchanges) (hn : 1 ≤ n)
    (hcount : exchanges.length + waiting.toList.length ≤ n + 1)
    (hcalls : calls = exchanges.flatMap Exchange.calls ++ (waiting.map .receive).toList)
    (haccepted : ∀ (i : Nat) (h : i < exchanges.length),
      i + 1 < exchanges.length ∨ waiting.isSome = true → exchanges[i].answer = .value ()) :
    CutShort calls exchanges waiting where
  calls := hcalls
  accepted := haccepted
  pattern := ⟨n, hn, hcount, h⟩
  lastCycle := by
    intro i hi hlast
    -- Only the command in place `n` is the last one, and the one before it is the one that says
    -- that the motion is finished.
    have hin : i = n := by simpa [h.lastCycle i hi] using hlast
    refine ⟨by omega, n - 1, by omega, by omega, haccepted _ _ (.inl (by omega)), ?_, ?_⟩
    · rw [h.motionFinished]
      simp
      omega
    · rw [h.lastCycle]
      simp
      omega

/-! ## The exchanges of a course -/

/-- The exchange of a round. -/
def Round.exchange (answer : Answer Unit) (r : Round) : Exchange := ⟨r.state, r.command, answer⟩

theorem Round.calls_filter (answer : Answer Unit) (r : Round) :
    (r.calls answer).filter Call.isExchange = (r.exchange answer).calls := by
  have htorque := turn_calls_filter (.torque r.state r.period) (fun _ => rfl) r.torque
  have hmotion := turn_calls_filter (.motion r.state r.period) (fun _ => rfl) r.motion
  simp only [Round.calls, Round.turns, List.cons_append, List.filter_cons, List.filter_append,
    htorque, hmotion]
  rfl

theorem rounds_filter (rounds : List Round) :
    (rounds.flatMap Round.accepted).filter Call.isExchange =
      (rounds.map (Round.exchange (.value ()))).flatMap Exchange.calls := by
  induction rounds with
  | nil => rfl
  | cons r rest ih =>
      simp only [List.flatMap_cons, List.map_cons, List.filter_append, ih]
      rw [Round.calls_filter]

variable {withTorque withMotion : Bool}

/-- A round goes on with a pattern when its flag is the one of its place. -/
theorem Pattern.round {n : Nat} {exchanges : List Exchange} {p p' : Progress} {r : Round}
    (h : Pattern n exchanges) (answer : Answer Unit)
    (hadvance : Advance withTorque withMotion p r p')
    (hfinished : p'.finished = decide (n ≤ exchanges.length + 1)) (hn : exchanges.length < n) :
    Pattern n (exchanges ++ [r.exchange answer]) := by
  refine h.snoc ?_ ?_ ?_
  · simp [Round.exchange, hadvance.command, buildCommand]
  · simp [Round.exchange, hadvance.command, buildCommand, hfinished]
  · simp [Round.exchange, hadvance.command, buildCommand]
    omega

/-- Rounds after which the session goes on are the beginning of every longer pattern. -/
theorem Rounds.pattern {start p : Progress} {rounds : List Round}
    (h : Rounds withTorque withMotion start rounds p) {n : Nat} (hn : rounds.length < n) :
    Pattern n (rounds.map (Round.exchange (.value ()))) := by
  induction h with
  | nil => exact .nil n
  | snoc _ hadvance hfinished ih =>
      rw [List.length_append, List.length_singleton] at hn
      rw [List.map_append]
      refine (ih (by omega)).round (.value ()) hadvance ?_ (by simp; omega)
      rw [hfinished]
      simp
      omega

/-- Exchanges of which all but the last are known to be accepted. -/
theorem accepted_snoc {exchanges : List Exchange} {e : Exchange}
    (h : ∀ e ∈ exchanges, e.answer = .value ()) (i : Nat) (hi : i < (exchanges ++ [e]).length)
    (hlt : i + 1 < (exchanges ++ [e]).length) : (exchanges ++ [e])[i].answer = .value () := by
  rw [List.length_append, List.length_singleton] at hlt
  rw [List.getElem_append_left (by omega)]
  exact h _ (List.getElem_mem _)

theorem rounds_accepted (rounds : List Round) :
    ∀ e ∈ rounds.map (Round.exchange (.value ())), e.answer = .value () := by
  intro e he
  obtain ⟨r, -, rfl⟩ := List.mem_map.mp he
  rfl

/-- The rounds of a session whose callbacks have all finished, and only just. -/
theorem Rounds.finished_pattern {start p p' : Progress} {rounds : List Round} {r : Round}
    (h : Rounds withTorque withMotion start rounds p)
    (hadvance : Advance withTorque withMotion p r p') (hfinished : p'.finished = true)
    (answer : Answer Unit) :
    Pattern (rounds.length + 1)
      (rounds.map (Round.exchange (.value ())) ++ [r.exchange answer]) := by
  have hpattern := h.pattern (Nat.lt_succ_self rounds.length)
  exact hpattern.round answer hadvance (by simp [hfinished]) (by simp)

/-- The terminal command takes the last place of a pattern. -/
theorem Pattern.terminal {n : Nat} {exchanges : List Exchange} (h : Pattern n exchanges)
    (hcount : exchanges.length = n) (last : Command) (state : ArmState) (answer : Answer Unit) :
    Pattern n (exchanges ++ [⟨state, last.terminal state.messageId, answer⟩]) := by
  refine h.snoc ?_ ?_ ?_
  · rfl
  · simp [Command.terminal, hcount]
  · simp [Command.terminal, hcount]

/-- The exchanges of a course that comes to no result. -/
theorem Course.cut_short {start : Progress} {calls : List Call} {e : Ending}
    (h : Course withTorque withMotion start calls (.error e)) :
    ∃ exchanges waiting, CutShort (calls.filter Call.isExchange) exchanges waiting := by
  cases h with
  | @unfinished rounds p hrounds =>
      have haccepted := rounds_accepted rounds
      refine ⟨rounds.map (Round.exchange (.value ())), none,
        (hrounds.pattern (Nat.lt_succ_self _)).cut_short (by simp) (by simp; omega) ?_ ?_⟩
      · rw [rounds_filter]
        simp
      · exact fun i hi _ => haccepted _ (List.getElem_mem hi)
  | @faltered rounds p calls _ hrounds hfaltering =>
      have haccepted := rounds_accepted rounds
      rcases hfaltering.sent with ⟨answer, hwaiting⟩ | ⟨r, p', answer, hadvance, -, rfl⟩
      · refine ⟨rounds.map (Round.exchange (.value ())), some answer,
          (hrounds.pattern (Nat.lt_succ_self _)).cut_short (by simp) (by simp) ?_ ?_⟩
        · rw [List.filter_append, rounds_filter, hwaiting]
          rfl
        · exact fun i hi _ => haccepted _ (List.getElem_mem hi)
      · -- The flag of the rejected command says which number the pattern is for.
        obtain ⟨n, hn, hcount, hpattern⟩ : ∃ n, 1 ≤ n ∧ rounds.length + 1 ≤ n ∧
            Pattern n (rounds.map (Round.exchange (.value ())) ++ [r.exchange answer]) := by
          cases hfinished : p'.finished with
          | true =>
              exact ⟨_, by omega, Nat.le_refl _, hrounds.finished_pattern hadvance hfinished answer⟩
          | false =>
              have hpattern := hrounds.pattern (n := rounds.length + 2) (by omega)
              refine ⟨_, by omega, by omega, hpattern.round answer hadvance ?_ (by simp)⟩
              simp [hfinished]
        refine ⟨_, none, hpattern.cut_short hn (by simp; omega) ?_ ?_⟩
        · rw [List.filter_append, rounds_filter, Round.calls_filter]
          simp
        · intro i hi hlater
          rcases hlater with hlt | hwaiting
          · exact accepted_snoc haccepted i hi hlt
          · cases hwaiting
  | @terminal rounds p p' r calls _ hrounds hadvance hfinished hclosing =>
      have hpattern := hrounds.finished_pattern hadvance hfinished (.value ())
      rw [← List.map_singleton, ← List.map_append] at hpattern
      have haccepted := rounds_accepted (rounds ++ [r])
      cases hclosing with
      | unopened hopening =>
          obtain ⟨answer, rfl⟩ := hopening.receives
          refine ⟨_, some answer, hpattern.cut_short (by omega) (by simp) ?_ ?_⟩
          · rw [List.filter_append, rounds_filter]
            rfl
          · exact fun i hi _ => haccepted _ (List.getElem_mem hi)
      | @unsent state now p'' answer _ _ _ =>
          refine ⟨_, none, (hpattern.terminal (by simp) r.command state answer).cut_short (by omega)
            (by simp) ?_ ?_⟩
          · rw [List.filter_append, rounds_filter, List.flatMap_append, List.append_assoc]
            rfl
          · intro i hi hlater
            rcases hlater with hlt | hwaiting
            · exact accepted_snoc haccepted i hi hlt
            · cases hwaiting

/-- The exchanges of a course with a result. -/
theorem Course.completed {supervisor : Supervisor} {nominal : Duration} {calls : List Call}
    {n : Nat}
    (h : Course withTorque withMotion (.opening supervisor nominal withTorque withMotion) calls
      (.ok n)) :
    ∃ exchanges, Completed n (calls.filter Call.isExchange) exchanges := by
  cases h with
  | @terminal rounds p p' r _ _ hrounds hadvance hfinished hclosing =>
      have hpattern := hrounds.finished_pattern hadvance hfinished (.value ())
      rw [← List.map_singleton, ← List.map_append] at hpattern
      cases hclosing with
      | @closed state now p'' hcheck =>
          have hcycle : p'.cycle = rounds.length + 1 := by
            rw [(hrounds.standing.advance hadvance).cycle]
            simp
          have hresult : p''.cycle - 1 = rounds.length + 1 := by
            obtain ⟨-, _, _, -, -, rfl⟩ := Progress.check_ok hcheck
            simp [hcycle]
          rw [hresult]
          refine ⟨_, by omega, ?_, ?_, ?_,
            hpattern.terminal (by simp) r.command state (.value ())⟩
          · simp
          · rw [List.filter_append, rounds_filter, List.flatMap_append]
            rfl
          · intro e he
            rcases List.mem_append.mp he with he | he
            · exact rounds_accepted _ e he
            · rw [List.mem_singleton.mp he]

/-- The calls to the link in a control session, whatever the link answers, whatever mode is
expected and whatever the callbacks do: as many commands as states in turn when it ends with a
number of cycles, and the beginning of such a series when it fails. -/
theorem session_exchanges {σ μ : Type} (r : Robot σ) (supervisor : Supervisor) (scripts : Scripts μ)
    (limit : Nat) (s : Occupied σ μ) :
    match session r supervisor scripts limit s.station with
    | .ok (.ok n) _ => ∃ exchanges,
        Completed n ((trace r supervisor scripts limit s.station).filter Call.isExchange) exchanges
    | _ => ∃ exchanges waiting,
        CutShort ((trace r supervisor scripts limit s.station).filter Call.isExchange) exchanges
          waiting := by
  obtain ⟨outcome, s', hcourse, houtcome⟩ := session_course r supervisor scripts limit s
  rw [houtcome.result]
  cases outcome with
  | ok n => exact hcourse.completed
  | error e => cases e <;> exact hcourse.cut_short

end Control

end ArmControl
