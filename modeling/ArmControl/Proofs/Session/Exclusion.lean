import ArmControl.Proofs.Coupling.Session

/-!
# One session at a time

Whoever looks at a robot, at whatever point of whatever program, sees at most one session, and sees
it exactly while the program is inside a callback of a call that holds the driver. To say so a
program is made to look at the robot before each of its steps and after each of its calls, and to
keep what it saw: this is `Program.watch`. `session_exclusion` is the main theorem. It says that
watching changes nothing in what the program does, that every sight is in order, and that the driver
is free when the program has ended.
-/

namespace ArmControl

variable {σ μ α β : Type}

/-! ## Watching -/

/-- When a program looks at the robot: before a step, before a call, or after a call that ended
with an error or without one. -/
inductive Moment
  | step
  | call
  | answer (error : Option RobotError)

/-- What is seen of a robot at one point of a program, either inside a callback or outside. -/
structure Sight where
  inside : Bool
  moment : Moment
  view : View

/-- Whether a call is about to be made from outside any callback. -/
def Sight.isOutermost (sight : Sight) : Bool :=
  match sight.inside, sight.moment with
  | false, .call => true
  | _, _ => false

/-- The memory of a program that is watched: its own, and what was seen so far. -/
structure Watched (μ : Type) where
  memory : μ
  sights : List Sight := []

namespace Program

/-- Looks at the robot and goes on. -/
def look (inside : Bool) (moment : Moment) (next : Program (Watched μ) α) :
    Program (Watched μ) α :=
  inspect fun view => recollect fun w =>
    remember { w with sights := w.sights ++ [⟨inside, moment, view⟩] } next

/-- Looks at the robot after a call. -/
def lookBack (inside : Bool) (next : Except RobotError β → Program (Watched μ) α)
    (result : Except RobotError β) : Program (Watched μ) α :=
  match result with
  | .ok _ => look inside (.answer none) (next result)
  | .error error => look inside (.answer (some error)) (next result)

/-- The program that looks at the robot before each step, before each call and after it, and does
the same in its callbacks, and otherwise does what the program does. -/
def watch : {α : Type} → (inside : Bool) → Program μ α → Program (Watched μ) α
  | _, inside, done a => look inside .step (done a)
  | _, inside, recollect next =>
      look inside .step (recollect fun w => (next w.memory).watch inside)
  | _, inside, remember memory next =>
      look inside .step (recollect fun w => remember { w with memory } (next.watch inside))
  | _, inside, inject injection next => look inside .step (inject injection (next.watch inside))
  | _, inside, inspect next => look inside .step (inspect fun view => (next view).watch inside)
  | _, inside, controlTorques torque next =>
      look inside .call (controlTorques (fun state period => (torque state period).watch true)
        (lookBack inside fun result => (next result).watch inside))
  | _, inside, controlTorquesWithMotion torque motion next =>
      look inside .call (controlTorquesWithMotion
        (fun state period => (torque state period).watch true)
        (fun state period => (motion state period).watch true)
        (lookBack inside fun result => (next result).watch inside))
  | _, inside, controlMotion motion mode next =>
      look inside .call (controlMotion (fun state period => (motion state period).watch true) mode
        (lookBack inside fun result => (next result).watch inside))
  | _, inside, read mode keepOn next =>
      look inside .call (read mode (fun state => (keepOn state).watch true)
        (lookBack inside fun result => (next result).watch inside))
  | _, inside, readOnce next =>
      look inside .call (readOnce (lookBack inside fun result => (next result).watch inside))
  | _, inside, execute request next =>
      look inside .call (execute request (lookBack inside fun result => (next result).watch inside))

theorem watch_call (inside : Bool) (use : ProgramUse μ β)
    (next : Except RobotError β → Program μ α) :
    (call use next).watch inside = look inside .call (call (use.mapProgram (watch true))
      (lookBack inside fun result => (next result).watch inside)) := by
  cases use <;> rfl

end Program

/-! ## What is seen -/

/-- What should be seen of a robot after this many calls were begun from outside: that a session is
active inside the callbacks and only there, that the counters agree on that, and that a call made
inside was refused. -/
structure Sight.Orderly (begun : Nat) (sight : Sight) : Prop where
  active : sight.view.active = sight.inside
  started : sight.view.metrics.sessionsStarted = UInt64.ofNat begun
  balance : sight.view.metrics.sessionsStarted =
    sight.view.metrics.sessionsReleased + if sight.view.active then 1 else 0
  activeSessions : begun < UInt64.size →
    sight.view.metrics.activeSessions = if sight.view.active then 1 else 0
  busy : ∀ error, sight.moment = .answer error → sight.inside = true → error = some .sessionBusy

namespace Watched

/-- How many calls were begun from outside any callback. -/
def begun (w : Watched μ) : Nat := w.sights.countP Sight.isOutermost

/-- Everything that was seen is in order. -/
def Orderly (w : Watched μ) : Prop :=
  ∀ earlier sight later, w.sights = earlier ++ sight :: later →
    sight.Orderly (earlier.countP Sight.isOutermost)

theorem Orderly.snoc {w : Watched μ} {sight : Sight} (h : w.Orderly)
    (hsight : sight.Orderly w.begun) : Orderly { w with sights := w.sights ++ [sight] } :=
  forall_split_snoc h hsight

end Watched

/-- The lock and the counters after this many sessions were started, with the last of them still
active or not. -/
structure Balanced (active : Bool) (begun : Nat) (s : Station σ μ) : Prop where
  held : s.held = active
  started : s.metrics.sessionsStarted = UInt64.ofNat begun
  balance : s.metrics.sessionsStarted = s.metrics.sessionsReleased + if active then 1 else 0
  positive : active = true → 0 < begun

namespace Balanced

variable {active : Bool} {n : Nat} {s : Station σ μ}

theorem active_sessions (h : Balanced active n s) (hn : n < UInt64.size) :
    s.metrics.activeSessions = if active then 1 else 0 := by
  have hbalance := h.balance
  unfold Metrics.activeSessions
  cases active with
  | false =>
      rw [hbalance]
      simp
  | true =>
      have hpositive := h.positive rfl
      have hstarted := congrArg UInt64.toNat h.started
      have hreleased := congrArg UInt64.toNat hbalance
      rw [UInt64.toNat_ofNat_of_lt' hn] at hstarted
      rw [if_pos rfl, UInt64.toNat_add, UInt64.toNat_one] at hreleased
      have hlt := s.metrics.sessionsReleased.toNat_lt
      -- The sum of the released sessions and the active one is positive, so it did not wrap.
      have hle : s.metrics.sessionsReleased ≤ s.metrics.sessionsStarted :=
        UInt64.le_iff_toNat_le.mpr (by omega)
      rw [if_pos hle, hbalance, if_pos rfl, UInt64.add_comm, UInt64.add_sub_cancel]

/-- Nothing but the lock and the counters of sessions matters. -/
theorem congr {s' : Station σ μ} (h : Balanced active n s) (hheld : s'.held = s.held)
    (hstarted : s'.metrics.sessionsStarted = s.metrics.sessionsStarted)
    (hreleased : s'.metrics.sessionsReleased = s.metrics.sessionsReleased) :
    Balanced active n s' where
  held := hheld.trans h.held
  started := hstarted.trans h.started
  balance := by rw [hstarted, hreleased, h.balance]
  positive := h.positive

theorem acquired (h : Balanced false n s) (kind : SessionKind) :
    Balanced true (n + 1) (s.acquired kind) where
  held := rfl
  started := by
    show s.metrics.sessionsStarted + 1 = _
    rw [h.started, UInt64.ofNat_add, UInt64.ofNat_one]
  balance := by
    show s.metrics.sessionsStarted + 1 = s.metrics.sessionsReleased + 1
    rw [h.balance, if_neg Bool.false_ne_true, UInt64.add_zero]
  positive _ := n.succ_pos

theorem released (h : Balanced true n s) (kind : SessionKind) :
    Balanced false n (s.released kind) where
  held := rfl
  started := h.started
  balance := by
    show s.metrics.sessionsStarted = s.metrics.sessionsReleased + 1 + 0
    rw [h.balance, if_pos rfl, UInt64.add_zero]
  positive h := nomatch h

end Balanced

namespace Station

/-- What a program sees of the station. -/
def sight (r : Robot σ) (inside : Bool) (moment : Moment) (s : Station σ μ) : Sight :=
  ⟨inside, moment, s.view r⟩

/-- The station after its program looked at it. -/
def seen (r : Robot σ) (inside : Bool) (moment : Moment) (s : Station σ (Watched μ)) :
    Station σ (Watched μ) :=
  { s with memory.sights := s.memory.sights ++ [s.sight r inside moment] }

/-- The station without what was seen. -/
def unwatched (s : Station σ (Watched μ)) : Station σ μ := { s with memory := s.memory.memory }

end Station

/-- What is seen of a balanced station is in order. -/
theorem Balanced.sight {inside : Bool} {n : Nat} {s : Station σ μ} (h : Balanced inside n s)
    (r : Robot σ) {moment : Moment}
    (hbusy : ∀ error, moment = .answer error → inside = true → error = some .sessionBusy) :
    (s.sight r inside moment).Orderly n where
  active := h.held
  started := h.started
  balance := by
    show s.metrics.sessionsStarted = s.metrics.sessionsReleased + if s.held then 1 else 0
    rw [h.held, h.balance]
  activeSessions hn := by
    show s.metrics.activeSessions = if s.held then 1 else 0
    rw [h.held, h.active_sessions hn]
  busy := hbusy

/-! ## Watching goes along -/

/-- A watched station goes with the station that it is, at a point inside a session or outside. -/
structure Watches (inside : Bool) (s : Station σ (Watched μ)) (s' : Station σ μ) : Prop where
  unwatched : s.unwatched = s'
  orderly : s.memory.Orderly
  balanced : Balanced inside s.memory.begun s

/-- A watched station goes with the station that it is, when a call was just announced. -/
structure Calling (s : Station σ (Watched μ)) (s' : Station σ μ) : Prop where
  unwatched : s.unwatched = s'
  orderly : s.memory.Orderly
  balanced : ∃ n, s.memory.begun = n + 1 ∧ Balanced false n s

namespace Watches

variable {inside : Bool} {s : Station σ (Watched μ)} {s' : Station σ μ}

/-- Looking is not noticed. -/
theorem seen (h : Watches inside s s') (r : Robot σ) {moment : Moment}
    (hmoment : moment = .call → inside = true)
    (hbusy : ∀ error, moment = .answer error → inside = true → error = some .sessionBusy) :
    Watches inside (s.seen r inside moment) s' where
  unwatched := h.unwatched
  orderly := h.orderly.snoc (h.balanced.sight r hbusy)
  balanced := by
    -- No call begins here from outside, so the number of calls begun stays the same.
    have hbegun : (s.seen r inside moment).memory.begun = s.memory.begun := by
      have hinner : (s.sight r inside moment).isOutermost = false := by
        cases inside <;> cases moment <;> simp_all [Station.sight, Sight.isOutermost]
      simp [Watched.begun, Station.seen, hinner]
    rw [hbegun]
    exact h.balanced.congr rfl rfl rfl

theorem calling (h : Watches false s s') (r : Robot σ) : Calling (s.seen r false .call) s' where
  unwatched := h.unwatched
  orderly := h.orderly.snoc (h.balanced.sight r fun _ hmoment => nomatch hmoment)
  balanced := by
    refine ⟨s.memory.begun, ?_, h.balanced.congr rfl rfl rfl⟩
    simp [Watched.begun, Station.seen, Station.sight, Sight.isOutermost]

/-- A change that is made alike and leaves the lock and the counters of sessions alone. -/
theorem congr (h : Watches inside s s') {t : Station σ (Watched μ)} {t' : Station σ μ}
    (hunwatched : t.unwatched = t') (hsights : t.memory.sights = s.memory.sights)
    (hheld : t.held = s.held) (hstarted : t.metrics.sessionsStarted = s.metrics.sessionsStarted)
    (hreleased : t.metrics.sessionsReleased = s.metrics.sessionsReleased) :
    Watches inside t t' where
  unwatched := hunwatched
  orderly := by
    unfold Watched.Orderly
    rw [hsights]
    exact h.orderly
  balanced := by
    unfold Watched.begun
    rw [hsights]
    exact h.balanced.congr hheld hstarted hreleased

end Watches

/-- A driver keeps the lock and the counters of sessions as they are. -/
theorem watched_coupling (d : Driver σ) :
    Coupling (μ := Watched μ) d d (Watches true) fun _ => Watches true where
  timing := rfl
  receive timeout s s' h := by
    obtain rfl := h.unwatched
    exact ⟨rfl, h.congr rfl rfl rfl rfl rfl⟩
  send c s s' h := by
    obtain rfl := h.unwatched
    exact ⟨rfl, h.congr rfl rfl rfl rfl rfl⟩
  request q timeout s s' h := by
    obtain rfl := h.unwatched
    exact ⟨rfl, h.congr rfl rfl rfl rfl rfl⟩
  count hchange s _ h := by
    obtain rfl := h.unwatched
    exact h.congr rfl rfl rfl (hchange.sessionsStarted s.metrics)
      (hchange.sessionsReleased s.metrics)
  report events _ _ h := by
    obtain rfl := h.unwatched
    exact h.congr rfl rfl rfl rfl rfl
  publish state _ _ h := by
    obtain rfl := h.unwatched
    exact h.congr rfl rfl rfl rfl rfl
  report_known events _ _ _ h := by
    obtain rfl := h.unwatched
    exact h.congr rfl rfl rfl rfl rfl
  known h := h

/-- Where a program stands when it has halted: outside, unless a session was not followed to its
end. -/
def Halt.inside : Halt → Bool
  | clockOverflow => false
  | unfinished => true

/-- A session is started and released once, however it ends. -/
theorem watched_bracket (kind : SessionKind) :
    Bracket (σ := σ) (μ := Watched μ) kind (fun cause => Watches cause.inside) Calling
      (Watches true) (Watches false) where
  held h := by rw [← h.unwatched]; rfl
  refuse h hheld := by
    obtain ⟨n, -, hbalanced⟩ := h.balanced
    exact absurd (hbalanced.held.symm.trans hheld) Bool.false_ne_true
  acquire {s _} h _ := by
    obtain ⟨n, hbegun, hbalanced⟩ := h.balanced
    refine ⟨congrArg (Station.acquired kind) h.unwatched, h.orderly, ?_⟩
    show Balanced true s.memory.begun (s.acquired kind)
    rw [hbegun]
    exact hbalanced.acquired kind
  release h :=
    ⟨congrArg (Station.released kind) h.unwatched, h.orderly, h.balanced.released kind⟩
  overflow h :=
    ⟨congrArg (Station.released kind) h.unwatched, h.orderly, h.balanced.released kind⟩
  unfinished h := h

section Programs

variable (r : Robot σ) (limit : Nat) {inside : Bool}
  {E : Halt → Pairing σ (Watched μ) σ μ} {P P' : Pairing σ (Watched μ) σ μ}
  {Q : α → Pairing σ (Watched μ) σ μ}

theorem coupled_look {moment : Moment} {next : Program (Watched μ) α} {t : Task σ μ α}
    (hseen : ∀ s s', P s s' → P' (s.seen r inside moment) s')
    (hnext : Coupled E P' (next.run r limit) t Q) :
    Coupled E P ((Program.look inside moment next).run r limit) t Q :=
  fun s s' hs => hnext (s.seen r inside moment) s' (hseen s s' hs)

/-- Looking before a step. -/
theorem coupled_step {next : Program (Watched μ) α} {t : Task σ μ α}
    (hnext : Coupled E (Watches inside) (next.run r limit) t Q) :
    Coupled E (Watches inside) ((Program.look inside .step next).run r limit) t Q :=
  coupled_look r limit (fun _ _ hs => hs.seen r (fun h => nomatch h) fun _ h => nomatch h) hnext

/-- Looking after a call, which was refused if it was made inside. -/
theorem coupled_answer {next : Except RobotError β → Program (Watched μ) α}
    {result : Except RobotError β} {t : Task σ μ α}
    (hbusy : inside = true → result = .error .sessionBusy)
    (hnext : Coupled E (Watches inside) ((next result).run r limit) t Q) :
    Coupled E (Watches inside) ((Program.lookBack inside next result).run r limit) t Q := by
  have hseen (error : Option RobotError) (herror : inside = true → error = some .sessionBusy)
      (s : Station σ (Watched μ)) (s' : Station σ μ) (hs : Watches inside s s') :
      Watches inside (s.seen r inside (.answer error)) s' :=
    hs.seen r (fun h => nomatch h) fun _ hmoment hinside => by
      cases hmoment
      exact herror hinside
  cases result with
  | ok b => exact coupled_look r limit (hseen none fun h => nomatch hbusy h) hnext
  | error error =>
      refine coupled_look r limit (hseen (some error) fun h => ?_) hnext
      cases hbusy h
      rfl

/-- Inside a session two calls of the same kind are both refused. -/
theorem coupled_busy {use : ProgramUse (Watched μ) β} {use' : ProgramUse μ β}
    (hkind : use.kind = use'.kind) :
    Coupled E (Watches true) (use.run r limit) (use'.run r limit) fun result s s' =>
      result = .error .sessionBusy ∧ Watches true s s' := by
  intro s s' hs
  obtain rfl := hs.unwatched
  have hheld := hs.balanced.held
  refine .inl ⟨_, _, _, use.run_busy r limit hheld, use'.run_busy r limit hheld, rfl, ?_⟩
  rw [hkind]
  exact hs.congr rfl rfl rfl rfl rfl

/-- A watched program does what the program does, and what it sees is in order. Inside a session it
does not halt. -/
theorem watch_coupled (program : Program μ α)
    (hhalt : inside = false → ∀ cause s s', Watches cause.inside s s' → E cause s s') :
    Coupled E (Watches inside) ((program.watch inside).run r limit) (program.run r limit)
      fun _ => Watches inside := by
  induction program using Program.induction_calls generalizing inside E with
  | done a => exact coupled_step r limit (.pure fun _ _ hs => hs)
  | recollect next ih =>
      refine coupled_step r limit fun s s' hs => ?_
      obtain rfl := hs.unwatched
      exact ih s.memory.memory hhalt s _ hs
  | remember memory next ih =>
      refine coupled_step r limit fun s s' hs => ?_
      obtain rfl := hs.unwatched
      exact ih hhalt _ _ (hs.congr rfl rfl rfl rfl rfl)
  | inject injection next ih =>
      refine coupled_step r limit fun s s' hs => ?_
      obtain rfl := hs.unwatched
      exact ih hhalt _ _ (hs.congr rfl rfl rfl rfl rfl)
  | inspect next ih =>
      refine coupled_step r limit fun s s' hs => ?_
      obtain rfl := hs.unwatched
      exact ih _ hhalt s _ hs
  | call use next iheach ih =>
      rw [Program.watch_call]
      cases inside with
      | true =>
          -- The session that is running has the driver, so the callbacks of this call never run.
          refine coupled_look r limit
            (fun _ _ hs => hs.seen r (fun _ => rfl) fun _ h => nomatch h) ?_
          rw [Program.run_call, Program.run_call]
          refine .bind (coupled_busy r limit (by cases use <;> rfl)) fun result s s' hs => ?_
          exact coupled_answer r limit (fun _ => hs.1) (ih result hhalt) s s' hs.2
      | false =>
          refine coupled_look r limit (fun _ _ hs => hs.calling r) ?_
          rw [Program.run_call, Program.run_call]
          -- The callbacks run inside, where every call is refused and nothing can halt.
          have huse : UseCoupled (Watches true) (fun _ => Watches true)
              ((use.mapProgram (Program.watch true)).mapTask (Program.run r limit))
              (use.mapTask (Program.run r limit)) := by
            rw [Program.ProgramUse.map_task_map_program]
            exact .of_each iheach fun program h _ => h fun hinside => nomatch hinside
          have hrun :=
            use_coupled r r (watched_coupling r.driver) rfl rfl huse (watched_bracket _) limit
          refine .bind (hrun.mono (fun _ _ hs => hs) (fun _ _ _ hs => hs) (hhalt rfl)) ?_
          exact fun result => coupled_answer r limit (fun h => nomatch h) (ih result hhalt)

end Programs

/-! ## The main theorem -/

namespace Station

/-- No session runs, and as many were released as were started. -/
structure Idle (s : Station σ μ) : Prop where
  held : s.held = false
  balance : s.metrics.sessionsStarted = s.metrics.sessionsReleased

/-- A session runs, and one more was started than were released. -/
structure Engaged (s : Station σ μ) : Prop where
  held : s.held = true
  balance : s.metrics.sessionsStarted = s.metrics.sessionsReleased + 1

end Station

theorem Balanced.idle {n : Nat} {s : Station σ μ} (h : Balanced false n s) : s.Idle where
  held := h.held
  balance := h.balance.trans (UInt64.add_zero _)

theorem Balanced.engaged {n : Nat} {s : Station σ μ} (h : Balanced true n s) : s.Engaged where
  held := h.held
  balance := h.balance

theorem watches_fresh (line : σ) (memory : μ) (journal : Array Event) :
    Watches false (.fresh line ⟨memory, []⟩ journal) (.fresh line memory journal) where
  unwatched := rfl
  orderly earlier sight later h := absurd h (by simp [Station.fresh])
  balanced := ⟨rfl, rfl, rfl, fun h => nomatch h⟩

/-- From when a robot is connected, at most one session runs at any time. Whatever program uses
the robot, with further calls in its callbacks and with any outcome of each call: watching it
changes nothing else, at every point the lock and the counters say that a session is active when
one is and not otherwise, a call made meanwhile is refused, and outside no session is left over.
Only a session that was not followed to its end still has the driver. -/
theorem session_exclusion (r : Robot σ) (limit : Nat) (program : Program μ α) (line : σ)
    (memory : μ) (journal : Array Event) :
    match (program.watch false).run r limit (.fresh line ⟨memory, []⟩ journal) with
    | .ok a s =>
        program.run r limit (.fresh line memory journal) = .ok a s.unwatched ∧
          s.memory.Orderly ∧ s.Idle
    | .error .clockOverflow s =>
        program.run r limit (.fresh line memory journal) = .error .clockOverflow s.unwatched ∧
          s.memory.Orderly ∧ s.Idle
    | .error .unfinished s =>
        program.run r limit (.fresh line memory journal) = .error .unfinished s.unwatched ∧
          s.memory.Orderly ∧ s.Engaged := by
  rcases watch_coupled r limit (E := fun cause => Watches cause.inside) program
    (fun _ _ _ _ h => h) _ _ (watches_fresh line memory journal) with
    ⟨a, s, s', hwatch, hrun, hs⟩ | ⟨cause, s, s', hwatch, hrun, hs⟩
  · obtain rfl := hs.unwatched
    rw [hwatch]
    exact ⟨hrun, hs.orderly, hs.balanced.idle⟩
  · obtain rfl := hs.unwatched
    rw [hwatch]
    cases cause with
    | clockOverflow => exact ⟨hrun, hs.orderly, hs.balanced.idle⟩
    | unfinished => exact ⟨hrun, hs.orderly, hs.balanced.engaged⟩

end ArmControl
