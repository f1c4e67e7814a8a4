import ArmControl.Proofs.Commands
import ArmControl.Proofs.Robot.Anew
import ArmControl.Proofs.Robot.Protocol
import ArmControl.Proofs.Session.Exclusion
import ArmControl.Proofs.Upkeep

/-!
# Every call is counted once

The counters of a driver account for the calls to its link, and for the errors of the calls on its
robot: `Accounts` says which counter stands for what. One more call or error is entered once, by
`Accounts.snoc` and `Accounts.erred`, and so the books are kept by all that a driver and the loops
do. `metrics_account_for_calls` is the main theorem. It follows programs from when a robot was
connected, and says besides that what fails without a call counts for nothing.
-/

namespace ArmControl

variable {σ μ α β : Type}

/-! ## What is counted -/

namespace Call

/-- Whether a state was received. -/
def isReceived : Call → Bool
  | receive (.value _) => true
  | _ => false

/-- Whether a request was rejected by the controller. -/
def isRejected : Call → Bool
  | request _ (.value (.rejected _)) => true
  | _ => false

/-- Whether the link stayed silent for too long. -/
def isTimedOut (call : Call) : Bool := call.failure?.any LinkError.isTimeout

/-- Whether the link failed in any other way. -/
def isBroken (call : Call) : Bool := call.failure?.any fun error => !error.isTimeout

/-- Whether the call came to what it was made for. Callbacks are not judged. -/
def isSuccessful : Call → Bool
  | receive (.value _) | send _ (.value ()) | request _ (.value (.success _)) => true
  | receive _ | send _ _ | request _ _ => false
  | torque _ _ _ | motion _ _ _ | predicate _ _ => true

end Call

namespace Metrics

/-- The counters after one more call to the link, with each raised by what it counts. -/
def recording (call : Call) (m : Metrics) : Metrics :=
  { m with
    statesReceived := m.statesReceived + if call.isReceived then 1 else 0
    commandsSent := m.commandsSent + if call.isAccepted then 1 else 0
    receiveTimeouts := m.receiveTimeouts + if call.isTimedOut then 1 else 0
    transportErrors := m.transportErrors + if call.isBroken then 1 else 0
    requestsSent := m.requestsSent + if call.isRequest then 1 else 0
    requestsRejected := m.requestsRejected + if call.isRejected then 1 else 0 }

/-- The counters after one more error of a call on the robot. -/
def charging (error : RobotError) (m : Metrics) : Metrics :=
  { m with
    controlFaults := m.controlFaults + if error.isControl then 1 else 0
    numericFaults := m.numericFaults + if error.isNumeric then 1 else 0 }

theorem recording_received (state : ArmState) (m : Metrics) :
    m.recording (.receive (.value state)) = { m with statesReceived := m.statesReceived + 1 } := by
  simp [recording, Call.isReceived, Call.isAccepted, Call.isTimedOut, Call.isBroken, Call.failure?,
    Call.isRequest, Call.isRejected]

theorem recording_accepted (c : Command) (m : Metrics) :
    m.recording (.send c (.value ())) = { m with commandsSent := m.commandsSent + 1 } := by
  simp [recording, Call.isReceived, Call.isAccepted, Call.isTimedOut, Call.isBroken, Call.failure?,
    Call.isRequest, Call.isRejected]

theorem recording_granted (q : Request) (reply : Reply) (m : Metrics) :
    m.recording (.request q (.value (.success reply))) =
      { m with requestsSent := m.requestsSent + 1 } := by
  simp [recording, Call.isReceived, Call.isAccepted, Call.isTimedOut, Call.isBroken, Call.failure?,
    Call.isRequest, Call.isRejected]

theorem recording_rejected (q : Request) (reason : Refusal) (m : Metrics) :
    m.recording (.request q (.value (.rejected reason))) =
      { m with
        requestsSent := m.requestsSent + 1
        requestsRejected := m.requestsRejected + 1 } := by
  simp [recording, Call.isReceived, Call.isAccepted, Call.isTimedOut, Call.isBroken, Call.failure?,
    Call.isRequest, Call.isRejected]

/-- Only a request is counted before it is answered. -/
theorem asked_nothing {call : Call} (h : call.isRequest = false) (m : Metrics) :
    { m with requestsSent := m.requestsSent + if call.isRequest then 1 else 0 } = m := by
  simp [h]

/-- When a clock overflows, only the request that was made is counted. -/
theorem recording_overflow {call : Call} (hreceived : call.isReceived = false)
    (haccepted : call.isAccepted = false) (hrejected : call.isRejected = false)
    (hfailure : call.failure? = none) (m : Metrics) :
    m.recording call =
      { m with requestsSent := m.requestsSent + if call.isRequest then 1 else 0 } := by
  simp [recording, Call.isTimedOut, Call.isBroken, hreceived, haccepted, hrejected, hfailure]

/-- A call that failed is counted as a failure of its kind, and besides only if it is a request. -/
theorem recording_failure {call : Call} {error : LinkError} (hfailure : call.failure? = some error)
    (m : Metrics) :
    m.recording call =
      failing error
        { m with requestsSent := m.requestsSent + if call.isRequest then 1 else 0 } := by
  have htimeout : call.isTimedOut = error.isTimeout := by simp [Call.isTimedOut, hfailure]
  have hbroken : call.isBroken = !error.isTimeout := by simp [Call.isBroken, hfailure]
  have hvalue : call.isReceived = false ∧ call.isAccepted = false ∧ call.isRejected = false := by
    unfold Call.failure? at hfailure
    split at hfailure <;> first | exact ⟨rfl, rfl, rfl⟩ | cases hfailure
  obtain ⟨hreceived, haccepted, hrejected⟩ := hvalue
  unfold recording failing
  rw [htimeout, hbroken, hreceived, haccepted, hrejected]
  cases error.isTimeout <;> simp

theorem charging_control (fault : ModeMismatch) :
    charging (.control fault) = fun m => { m with controlFaults := m.controlFaults + 1 } := by
  funext m
  simp [charging, RobotError.isControl, RobotError.isNumeric]

theorem charging_numeric (fault : NumericFault) :
    charging (.numeric fault) = fun m => { m with numericFaults := m.numericFaults + 1 } := by
  funext m
  simp [charging, RobotError.isControl, RobotError.isNumeric]

/-- Only faults of mode and number are entered. -/
theorem charging_calm {error : RobotError} (hcontrol : error.isControl = false)
    (hnumeric : error.isNumeric = false) (m : Metrics) : m.charging error = m := by
  simp [charging, hcontrol, hnumeric]

end Metrics

/-- The counters stand for these calls and errors, from when they were at `base`. Like them, the
numbers of calls start again at zero past the greatest number of 64 bits. -/
structure Accounts (base : Metrics) (calls : List Call) (errors : List RobotError) (m : Metrics) :
    Prop where
  statesReceived :
    m.statesReceived = base.statesReceived + .ofNat (calls.countP Call.isReceived)
  commandsSent : m.commandsSent = base.commandsSent + .ofNat (calls.countP Call.isAccepted)
  receiveTimeouts : m.receiveTimeouts = base.receiveTimeouts + .ofNat (calls.countP Call.isTimedOut)
  transportErrors : m.transportErrors = base.transportErrors + .ofNat (calls.countP Call.isBroken)
  requestsSent : m.requestsSent = base.requestsSent + .ofNat (calls.countP Call.isRequest)
  requestsRejected :
    m.requestsRejected = base.requestsRejected + .ofNat (calls.countP Call.isRejected)
  controlFaults : m.controlFaults = base.controlFaults + .ofNat (errors.countP RobotError.isControl)
  numericFaults : m.numericFaults = base.numericFaults + .ofNat (errors.countP RobotError.isNumeric)

/-- One more element is counted, or not. -/
theorem count_snoc {γ : Type} {counter counter' base : UInt64} {counted : γ → Bool} {xs : List γ}
    {x : γ} (h : counter = base + .ofNat (xs.countP counted))
    (hcounter : counter' = counter + if counted x then 1 else 0) :
    counter' = base + .ofNat ((xs ++ [x]).countP counted) := by
  rw [hcounter, h, List.countP_append, List.countP_singleton, UInt64.ofNat_add, UInt64.add_assoc]
  cases counted x <;> rfl

namespace Accounts

variable {base m : Metrics} {calls : List Call} {errors : List RobotError}

theorem start (base : Metrics) : Accounts base [] [] base := by
  constructor <;> simp

/-- The counters of sessions are no matter of calls to the link. -/
theorem of_sessions (h : Accounts base calls errors m) (started released rejected : UInt64) :
    Accounts base calls errors
      { m with
        sessionsStarted := started
        sessionsReleased := released
        sessionsRejected := rejected } :=
  ⟨h.statesReceived, h.commandsSent, h.receiveTimeouts, h.transportErrors, h.requestsSent,
    h.requestsRejected, h.controlFaults, h.numericFaults⟩

/-- A call to the link is entered once. -/
theorem snoc (h : Accounts base calls errors m) (call : Call) :
    Accounts base (calls ++ [call]) errors (m.recording call) where
  statesReceived := count_snoc h.statesReceived rfl
  commandsSent := count_snoc h.commandsSent rfl
  receiveTimeouts := count_snoc h.receiveTimeouts rfl
  transportErrors := count_snoc h.transportErrors rfl
  requestsSent := count_snoc h.requestsSent rfl
  requestsRejected := count_snoc h.requestsRejected rfl
  controlFaults := h.controlFaults
  numericFaults := h.numericFaults

/-- An error is entered once. -/
theorem erred (h : Accounts base calls errors m) (error : RobotError) :
    Accounts base calls (errors ++ [error]) (m.charging error) where
  statesReceived := h.statesReceived
  commandsSent := h.commandsSent
  receiveTimeouts := h.receiveTimeouts
  transportErrors := h.transportErrors
  requestsSent := h.requestsSent
  requestsRejected := h.requestsRejected
  controlFaults := count_snoc h.controlFaults rfl
  numericFaults := count_snoc h.numericFaults rfl

/-- Calls to callbacks are not entered. -/
theorem noted (h : Accounts base calls errors m) {call : Call} (hcall : call.isExchange = false) :
    Accounts base (calls ++ [call]) errors m := by
  have hrecording : m.recording call = m := by
    cases call with
    | torque | motion | predicate =>
        simp [Metrics.recording, Call.isReceived, Call.isAccepted, Call.isTimedOut, Call.isBroken,
          Call.failure?, Call.isRequest, Call.isRejected]
    | receive | send | request => cases hcall
  rw [← hrecording]
  exact h.snoc call

end Accounts

/-- What is counted as a request that was rejected is counted as a request. -/
theorem Call.rejected_le (calls : List Call) :
    calls.countP Call.isRejected ≤ calls.countP Call.isRequest := by
  refine List.countP_mono_left fun call _ hrejected => ?_
  unfold Call.isRejected at hrejected
  split at hrejected
  next => rfl
  next => cases hrejected

/-- Fewer requests are rejected than are made, as long as their number has 64 bits. -/
theorem Accounts.rejected_le {calls : List Call} {errors : List RobotError} {m : Metrics}
    (h : Accounts {} calls errors m) (hlt : calls.countP Call.isRequest < UInt64.size) :
    m.requestsRejected ≤ m.requestsSent := by
  have hle := Call.rejected_le calls
  rw [h.requestsRejected, h.requestsSent, UInt64.zero_add, UInt64.zero_add, UInt64.le_iff_toNat_le,
    UInt64.toNat_ofNat_of_lt' (by omega), UInt64.toNat_ofNat_of_lt' hlt]
  exact hle

/-! ## Keeping the books -/

/-- The counters of a station account for the calls over its line and for the errors that its
program knows of, and for the error that the call in progress has come to. -/
def Books (base : Metrics) (known : μ → List RobotError) : Invariant (Traced σ) μ :=
  fun pending s => Accounts base s.line.trace (known s.memory ++ pending.toList) s.metrics

section Books

variable {base : Metrics} {known : μ → List RobotError} {s : Station (Traced σ) μ}

/-- Entering the call that an operation is. -/
theorem Books.exchanged (h : Books base known none s) (call : Answer α → Call)
    (operation : σ → LinkStep σ α) :
    Accounts base (s.exchanged (Traced.perform call operation)).line.trace
      (known s.memory ++ []) (s.metrics.recording (call (operation s.line.line).answer)) :=
  h.snoc _

/-- Entering the error that the call in progress has come to. -/
theorem Books.charged (h : Books base known none s) (error : RobotError) :
    Books base known (some error) (s.counted (Metrics.charging error)) := by
  have haccounts : Accounts base s.line.trace (known s.memory ++ []) s.metrics := h
  rw [List.append_nil] at haccounts
  exact haccounts.erred error

/-- An error that changes no counter may be known or not. -/
theorem Books.calm (h : Books base known none s) {error : RobotError}
    (hcontrol : error.isControl = false) (hnumeric : error.isNumeric = false) :
    Books base known (some error) s := by
  have hcharged := h.charged error
  unfold Station.counted at hcharged
  rw [Metrics.charging_calm hcontrol hnumeric] at hcharged
  exact hcharged

/-- No error of a driver is a fault of mode or number. -/
theorem Books.driver (h : Books base known none s) (error : DriverError) :
    Books base known (some (.ofDriver error)) s := by
  cases error <;> exact h.calm rfl rfl

variable (base known) in
/-- A driver keeps the books. -/
theorem books_upkeep (d : Driver σ) : Upkeep d.traced (Books base known) where
  receive s h := by
    have hbooks : Accounts base _ _ (s.metrics.recording
        (.receive (d.traced.link.receive d.traced.timing.receiveTimeout s.line).answer)) :=
      h.exchanged .receive (d.link.receive d.timing.receiveTimeout)
    rw [Driver.receive_run]
    cases hanswer : (d.traced.link.receive d.traced.timing.receiveTimeout s.line).answer with
    | value state =>
        rw [hanswer, Metrics.recording_received] at hbooks
        exact hbooks
    | failure error =>
        rw [hanswer, Metrics.recording_failure rfl, Metrics.asked_nothing rfl] at hbooks
        refine Books.driver ?_ (.link error)
        exact hbooks
    | overflow =>
        rw [hanswer, Metrics.recording_overflow rfl rfl rfl rfl,
          Metrics.asked_nothing rfl] at hbooks
        exact hbooks
  send c s h := by
    have hbooks : Accounts base _ _ (s.metrics.recording
        (.send c (d.traced.link.send c s.line).answer)) :=
      h.exchanged (.send c) (d.link.send c)
    rw [Driver.send_run]
    cases c.validate with
    | error error => exact h.driver (.value error)
    | ok =>
        cases hanswer : (d.traced.link.send c s.line).answer with
        | value =>
            rw [hanswer, Metrics.recording_accepted] at hbooks
            exact hbooks
        | failure error =>
            rw [hanswer, Metrics.recording_failure rfl, Metrics.asked_nothing rfl] at hbooks
            refine Books.driver ?_ (.link error)
            exact hbooks
        | overflow =>
            rw [hanswer, Metrics.recording_overflow rfl rfl rfl rfl,
              Metrics.asked_nothing rfl] at hbooks
            exact hbooks
  execute q s h := by
    have hbooks : Accounts base _ _ (s.metrics.recording
        (.request q (d.traced.link.request q d.traced.timing.requestTimeout s.line).answer)) :=
      h.exchanged (.request q) (d.link.request q d.timing.requestTimeout)
    rw [Driver.execute_run]
    cases hanswer : (d.traced.link.request q d.traced.timing.requestTimeout s.line).answer with
    | value response =>
        cases response with
        | success reply =>
            rw [hanswer, Metrics.recording_granted] at hbooks
            exact hbooks
        | rejected reason =>
            rw [hanswer, Metrics.recording_rejected] at hbooks
            refine Books.driver ?_ (.rejected q.name reason)
            exact hbooks
    | failure error =>
        rw [hanswer, Metrics.recording_failure rfl] at hbooks
        refine Books.driver ?_ (.link error)
        exact hbooks
    | overflow =>
        rw [hanswer, Metrics.recording_overflow rfl rfl rfl rfl] at hbooks
        exact hbooks
  report _ _ _ h := h
  fail _ _ hcontrol hnumeric h := h.calm hcontrol hnumeric
  controlFault fault s h := by
    have hcharged := h.charged (.control fault)
    rw [Metrics.charging_control] at hcharged
    exact hcharged
  numericFault fault s h := by
    have hcharged := h.charged (.numeric fault)
    rw [Metrics.charging_numeric] at hcharged
    exact hcharged

/-- Sessions begin and end without an entry, and a refusal is none either. -/
theorem books_enclosure (kind : SessionKind) :
    Enclosure kind (Books base known none) (Books (σ := σ) (μ := μ) base known)
      (Books base known) where
  refuse {s} h _ := Books.calm (s := s.refused kind) (h.of_sessions _ _ _) rfl rfl
  acquire h _ := h.of_sessions _ _ _
  release h := h.of_sessions _ _ _
  unfinished h := h

end Books

/-! ## Programs -/

/-- The error that is seen at that moment. -/
def Moment.error? : Moment → Option RobotError
  | answer error => error
  | step | call => none

/-- The errors with which calls on the robot were seen to end. -/
def Watched.errors (w : Watched μ) : List RobotError :=
  w.sights.filterMap fun sight => sight.moment.error?

section Programs

variable {base : Metrics} (r : Robot σ) (limit : Nat)

/-- An error is known once it was seen. -/
theorem Books.seen (inside : Bool) (moment : Moment) {s : Station (Traced σ) (Watched μ)}
    (h : Books base Watched.errors moment.error? s) :
    Books base Watched.errors none (s.seen r.traced inside moment) := by
  have herrors : (s.seen r.traced inside moment).memory.errors =
      s.memory.errors ++ moment.error?.toList := by
    show (s.memory.sights ++ [s.sight r.traced inside moment]).filterMap _ = _
    rw [List.filterMap_append]
    cases hmoment : moment.error? <;> simp [Watched.errors, Station.sight, hmoment]
  show Accounts base s.line.trace _ s.metrics
  rw [herrors, Option.toList_none, List.append_nil]
  exact h

/-- A watched program keeps the books, with every error that it sees. -/
theorem watch_keeps_books (program : Program μ α) (inside : Bool) :
    Maintains (Books base Watched.errors none) ((program.watch inside).run r.traced limit) := by
  induction program using Program.induction_calls generalizing inside with
  | done a => exact fun s hs => hs.seen r inside .step
  | recollect next ih =>
      exact fun s hs => ih s.memory.memory inside _ (hs.seen r inside .step)
  | remember memory next ih => exact fun s hs => ih inside _ (hs.seen r inside .step)
  | inject injection next ih => exact fun s hs => ih inside _ (hs.seen r inside .step)
  | inspect next ih => exact fun s hs => ih _ inside _ (hs.seen r inside .step)
  | call use next iheach ih =>
      intro s hs
      rw [Program.watch_call]
      have hcalls : ((use.mapProgram (Program.watch true)).mapTask
          (Program.run r.traced limit)).Each (Maintains (Books base Watched.errors none)) := by
        rw [Program.ProgramUse.map_task_map_program]
        exact TaskUse.each_of_program iheach fun program h => h true
      have hsettled := (books_upkeep base Watched.errors r.driver).use_settles (r := r.traced) limit
        (books_enclosure _) hcalls (hs.seen r inside .call)
      show Books _ _ _ (Task.after (Program.run r.traced limit (Program.call _ _)) _)
      rw [Program.run_call]
      exact hsettled.bind
        (fun b s' hs' => ih (.ok b) inside _ (hs'.seen r inside (.answer none)))
        (fun error s' hs' => ih (.error error) inside _ (hs'.seen r inside (.answer (some error))))
        fun _ hs' => hs'

end Programs

/-! ## Drivers and single calls -/

/-- An error that is no fault of mode or number need not be known. -/
theorem Accounts.forget {base m : Metrics} {calls : List Call} {errors : List RobotError}
    {error : RobotError} (h : Accounts base calls (errors ++ [error]) m)
    (hcontrol : error.isControl = false) (hnumeric : error.isNumeric = false) :
    Accounts base calls errors m :=
  { h with
    controlFaults := by
      rw [h.controlFaults, List.countP_append, List.countP_singleton, hcontrol]
      rfl
    numericFaults := by
      rw [h.numericFaults, List.countP_append, List.countP_singleton, hnumeric]
      rfl }

section Alone

variable {base : Metrics}

/-- What is done with a driver costs only what its calls cost. -/
theorem driver_keeps_books {t : Task (Traced σ) μ (Except DriverError α)}
    (ht : ∀ s, Books base (fun _ => []) none s →
      DriverSettled (Books base fun _ => []) (t s)) :
    Maintains (Books base (fun _ => []) none) (t >>= fun _ => pure ()) := by
  refine .bind (fun s hs => ?_) fun _ => .pure ()
  have hsettled := ht s hs
  unfold Task.after
  cases hrun : t s with
  | ok answer s' =>
      rw [hrun] at hsettled
      cases answer with
      | ok a => exact hsettled
      | error error => cases error <;> exact Accounts.forget hsettled rfl rfl
  | error cause s' =>
      rw [hrun] at hsettled
      exact hsettled

theorem use_all_keeps_books (d : Driver σ) (uses : List DriverUse) :
    Maintains (Books (μ := μ) base (fun _ => []) none) (d.traced.useAll uses) := by
  have h := books_upkeep (μ := μ) base (fun _ => []) d
  induction uses with
  | nil => exact .pure ()
  | cons use rest ih =>
      refine .bind ?_ fun _ => ih
      cases use with
      | receive => exact driver_keeps_books h.receive
      | send command => exact driver_keeps_books (h.send command)
      | execute request => exact driver_keeps_books (h.execute request)

/-- A call on a robot costs what its calls to the link cost, and the error that it ends with. -/
theorem use_keeps_books (r : Robot σ) (limit : Nat) (use : ProgramUse μ α)
    {s : Station (Traced σ) μ} (hs : Books base (fun _ => []) none s) :
    Settled (Books base fun _ => []) (use.traced r limit s) := by
  refine (books_upkeep base (fun _ => []) r.driver).traced_use books_enclosure ?_ ?_ limit use hs
  · intro s s' hstir hs
    cases hstir with
    | remember memory => exact hs
    | inject injection => exact hs
    | refuse kind => exact hs.of_sessions _ _ _
  · exact fun call s hcall hs => hs.noted hcall

end Alone

/-! ## A clock that stands still -/

/-- Every call to the link came to what it was made for. -/
def Successful (calls : List Call) : Prop := ∀ call ∈ calls, call.isSuccessful = true

/-- The end is that the time of a state was not later than the time before. -/
def Ending.Stalls (e : Ending) : Prop :=
  ∃ previous current, e = .fault (.communication (.clockStalled previous current))

theorem successful_append {calls more : List Call} :
    Successful (calls ++ more) ↔ Successful calls ∧ Successful more := by
  simp [Successful, or_imp, forall_and]

theorem successful_received (state : ArmState) : Successful [.receive (.value state)] := by
  simp [Successful, Call.isSuccessful]

/-- No answer of the link is about a clock. -/
theorem Answer.not_stalls {answer : Answer α} {e : Ending} (h : answer.outcome = .error e) :
    ¬ e.Stalls := by
  rintro ⟨previous, current, rfl⟩
  obtain ⟨e, -, he⟩ := Answer.outcome_fault h
  cases he

theorem Answer.settled_not_stalls {q : Request} {answer : Answer Response} {e : Ending}
    (h : answer.settled q.settle = .error e) : ¬ e.Stalls := by
  rintro ⟨previous, current, rfl⟩
  cases answer with
  | value response => cases response <;> cases h
  | failure error => cases h
  | overflow => cases h

namespace Control

variable {withTorque withMotion : Bool} {start p : Progress} {calls : List Call} {e : Ending}

theorem rounds_successful (rounds : List Round) :
    Successful (rounds.flatMap Round.accepted) := by
  induction rounds with
  | nil => simp [Successful]
  | cons r rest ih =>
      rw [List.flatMap_cons, successful_append]
      refine ⟨?_, ih⟩
      cases htorque : r.torque <;> cases hmotion : r.motion <;>
        simp [Successful, Round.calls, Round.turns, turnCalls, htorque, hmotion, Call.isSuccessful]

theorem Opening.successful (h : Opening p calls (.error e)) (hstalls : e.Stalls) :
    Successful calls := by
  generalize houtcome : (Except.error e : Except Ending (Cycle × Progress)) = outcome at h
  cases h with
  | unanswered answer _ hanswer =>
      cases houtcome
      exact absurd hstalls (Answer.not_stalls hanswer)
  | answered state => exact successful_received state

theorem Turn.not_stalls {kind : CallbackKind} {call : Except String (Flow α) → Call}
    {present : Bool} {validate : α → Except ValueError Unit} {slot : Slot α} {cycle : Nat}
    (h : Turn kind call present validate slot cycle calls (.error e)) : ¬ e.Stalls := by
  rintro ⟨previous, current, rfl⟩
  cases h

/-- A session that ends because a clock stood still had only successful calls. -/
theorem Course.successful (h : Course withTorque withMotion start calls (.error e))
    (hstalls : e.Stalls) : Successful calls := by
  cases h with
  | unfinished _ => exact rounds_successful _
  | faltered _ hfaltering =>
      refine successful_append.mpr ⟨rounds_successful _, ?_⟩
      cases hfaltering with
      | unopened hopening => exact hopening.successful hstalls
      | torqueFailed _ hturn => exact absurd hstalls hturn.not_stalls
      | motionFailed _ _ hturn => exact absurd hstalls hturn.not_stalls
      | unsent _ hanswer => exact absurd hstalls (Answer.not_stalls hanswer)
  | terminal _ _ _ hclosing =>
      refine successful_append.mpr ⟨rounds_successful _, ?_⟩
      cases hclosing with
      | unopened hopening => exact hopening.successful hstalls
      | unsent _ hanswer => exact absurd hstalls (Answer.not_stalls hanswer)

end Control

/-- A reading session does not look at clocks. -/
theorem Reading.Course.not_stalls {supervisor : Supervisor} {cycle : Nat} {calls : List Call}
    {outcome : Except Ending Nat} (h : Course supervisor cycle calls outcome) {e : Ending}
    (houtcome : outcome = .error e) : ¬ e.Stalls := by
  induction h with
  | unanswered answer hanswer =>
      cases houtcome
      exact Answer.not_stalls hanswer
  | unfinished | mismatched =>
      rintro ⟨previous, current, rfl⟩
      cases houtcome
  | stopped => cases houtcome
  | wentOn _ _ _ ih => exact ih houtcome

section Conduct

variable {calls : List Call} {e : Ending}

theorem Prioritised.successful {r : Robot σ} {P : List Call → Except Ending α → Prop}
    (h : Prioritised r P calls (.error e)) (hstalls : e.Stalls)
    (hp : P calls (.error e) → Successful calls) : Successful calls := by
  cases h with
  | refused _ => simp [Successful]
  | allowed _ hcalls => exact hp hcalls

theorem Moded.successful {mode : ControllerMode} {P : List Call → Except Ending α → Prop}
    (h : Moded mode P calls (.error e)) (hstalls : e.Stalls)
    (hp : ∀ calls, P calls (.error e) → Successful calls) : Successful calls := by
  cases h with
  | refused answer hrefused => exact absurd hstalls (Answer.settled_not_stalls hrefused)
  | entered reply hcalls =>
      have hrequest :
          Successful [.request (.setControllerMode mode) (.value (.success reply))] := by
        simp [Successful, Call.isSuccessful]
      exact successful_append.mpr ⟨hrequest, hp _ hcalls⟩

theorem Concluded.error {P : List Call → Except Ending Nat → Prop}
    (h : Concluded P calls (.error e)) : P calls (.error e) := by
  generalize houtcome : (Except.error e : Except Ending Unit) = outcome at h
  cases h with
  | @of outcome hcalls =>
      cases outcome with
      | ok n => cases houtcome
      | error e' =>
          cases houtcome
          exact hcalls

/-- A call on a robot that ends because a clock stood still had only successful calls. -/
theorem ProgramUse.Conduct.successful {r : Robot σ} {use : ProgramUse μ α}
    (h : use.Conduct r calls (.error e)) (hstalls : e.Stalls) : Successful calls := by
  have hcontrol {supervisor : Supervisor} {withTorque withMotion : Bool} (calls : List Call)
      (h : ControlConduct r supervisor withTorque withMotion calls (.error e)) :
      Successful calls := (Concluded.error h).successful hstalls
  cases use with
  | controlTorques torque => exact Prioritised.successful h hstalls (hcontrol _)
  | controlTorquesWithMotion torque motion =>
      exact Prioritised.successful h hstalls (hcontrol _)
  | controlMotion motion mode =>
      exact Prioritised.successful h hstalls fun h => h.successful hstalls hcontrol
  | read mode keepOn =>
      have hreading {supervisor : Supervisor} (calls : List Call)
          (h : Concluded (Reading.Course supervisor 0) calls (.error e)) : Successful calls :=
        absurd hstalls (h.error.not_stalls rfl)
      cases mode with
      | none => exact hreading _ h
      | some mode => exact Moded.successful h hstalls hreading
  | readOnce =>
      obtain ⟨answer, -, houtcome⟩ := h
      exact absurd hstalls (Answer.not_stalls houtcome.symm)
  | execute request =>
      generalize houtcome : (Except.error e : Except Ending Reply) = outcome at h
      cases h with
      | refused _ => simp [Successful]
      | made answer _ => exact absurd hstalls (Answer.settled_not_stalls houtcome.symm)

end Conduct

/-! ## The main theorem -/

/-- The counters stand for these calls and errors from when the robot was connected, and so fewer
requests were rejected than made. -/
structure Audited (calls : List Call) (errors : List RobotError) (m : Metrics) : Prop where
  accounts : Accounts {} calls errors m
  rejected_le : calls.countP Call.isRequest < UInt64.size → m.requestsRejected ≤ m.requestsSent

/-- Between these counters only calls to the link were made that succeeded. -/
structure OnlySuccesses (before : Metrics) (calls : List Call) (after : Metrics) : Prop where
  successful : Successful calls
  accounts : Accounts before calls [] after
  receiveTimeouts : after.receiveTimeouts = before.receiveTimeouts
  transportErrors : after.transportErrors = before.transportErrors
  requestsRejected : after.requestsRejected = before.requestsRejected

theorem Accounts.audited {calls : List Call} {errors : List RobotError} {m : Metrics}
    (h : Accounts {} calls errors m) : Audited calls errors m := ⟨h, h.rejected_le⟩

/-- No call is counted that only a call without success can be. -/
theorem Successful.count {calls : List Call} (h : Successful calls) {counted : Call → Bool}
    (hcounted : ∀ call, counted call = true → call.isSuccessful = false) :
    calls.countP counted = 0 := by
  refine List.countP_eq_zero.mpr fun call hmem hcall => ?_
  have hsuccess := h call hmem
  rw [hcounted call hcall] at hsuccess
  cases hsuccess

theorem Call.unsuccessful_of_failure {call : Call} {test : LinkError → Bool}
    (h : call.failure?.any test = true) : call.isSuccessful = false := by
  unfold Call.failure? at h
  split at h <;> first | rfl | cases h

theorem Call.unsuccessful_of_rejected {call : Call} (h : call.isRejected = true) :
    call.isSuccessful = false := by
  unfold Call.isRejected at h
  split at h
  next => rfl
  next => cases h

theorem Accounts.only_successes {before after : Metrics} {calls : List Call}
    (h : Accounts before calls [] after) (hsuccess : Successful calls) :
    OnlySuccesses before calls after := by
  have htimeouts : calls.countP Call.isTimedOut = 0 :=
    hsuccess.count fun _ => Call.unsuccessful_of_failure
  have hbroken : calls.countP Call.isBroken = 0 :=
    hsuccess.count fun _ => Call.unsuccessful_of_failure
  have hrejected : calls.countP Call.isRejected = 0 :=
    hsuccess.count fun _ => Call.unsuccessful_of_rejected
  refine ⟨hsuccess, h, ?_, ?_, ?_⟩
  · rw [h.receiveTimeouts, htimeouts]
    exact UInt64.add_zero _
  · rw [h.transportErrors, hbroken]
    exact UInt64.add_zero _
  · rw [h.requestsRejected, hrejected]
    exact UInt64.add_zero _

theorem Books.audited {known : μ → List RobotError} {s : Station (Traced σ) μ}
    (h : Books {} known none s) : Audited s.line.trace (known s.memory) s.metrics := by
  have haccounts : Accounts {} s.line.trace (known s.memory ++ []) s.metrics := h
  rw [List.append_nil] at haccounts
  exact haccounts.audited

/-- Two tasks of which one mirrors the other leave the same station. -/
theorem Mirrors.after {t : Task (Traced σ) μ α} {u : Task σ μ α} (h : Mirrors t u)
    (s : Station (Traced σ) μ) : (t.after s).untraced = u.after s.untraced := by
  have hrun := h s
  unfold Task.after
  rw [← hrun]
  cases t s <;> rfl

/-- A program that is watched over a traced line does what the program does. -/
theorem watched_trace_run (r : Robot σ) (limit : Nat) (program : Program μ α) (line : σ)
    (memory : μ) (journal : Array Event) :
    program.run r limit (.fresh line memory journal) =
      match (program.watch false).run r.traced limit (.fresh ⟨line, []⟩ ⟨memory, []⟩ journal) with
      | .ok a s => .ok a s.unwatched.untraced
      | .error cause s => .error cause s.unwatched.untraced := by
  have hmirrors := program_mirrors r limit program (.fresh ⟨line, []⟩ memory journal)
  rcases watch_coupled r.traced limit (E := fun cause => Watches cause.inside) program
    (fun _ _ _ _ h => h) _ _ (watches_fresh ⟨line, []⟩ memory journal) with
    ⟨a, s, s', hwatch, hrun, hs⟩ | ⟨cause, s, s', hwatch, hrun, hs⟩
  · obtain rfl := hs.unwatched
    rw [hrun] at hmirrors
    rw [hwatch]
    exact hmirrors.symm
  · obtain rfl := hs.unwatched
    rw [hrun] at hmirrors
    rw [hwatch]
    exact hmirrors.symm

/-- A call that ends because a clock stood still costs what its calls to the link cost, which all
succeeded. -/
theorem stalled_use_counts (r : Robot σ) (limit : Nat) (use : ProgramUse μ α) (s : Station σ μ) :
    match use.run r limit s with
    | .ok (.error (.communication (.clockStalled _ _))) s' =>
        OnlySuccesses s.metrics (use.trace r limit s) s'.metrics
    | _ => True := by
  split
  next previous current s' hrun =>
    -- A call that was refused does not end like this, so no session had the driver.
    have hfree : s.held = false := by
      cases hheld : s.held with
      | false => rfl
      | true =>
          rw [use.run_busy r limit hheld] at hrun
          cases hrun
    obtain ⟨outcome, s₁, hconduct, houtcome⟩ := use_conduct r limit use ⟨s, hfree⟩
    have hbooks := use_keeps_books r limit use (s := s.traced) (Accounts.start s.metrics)
    have hends := Ending.result_error (houtcome.symm.trans hrun)
    subst hends
    have hsuccess := hconduct.successful ⟨previous, current, rfl⟩
    rw [use_untraced] at hrun
    unfold ProgramUse.trace Task.after at hsuccess ⊢
    cases htraced : use.traced r limit s.traced with
    | ok answer s₂ =>
        rw [htraced] at hrun hbooks hsuccess
        cases hrun
        exact (Accounts.forget hbooks rfl rfl).only_successes hsuccess
    | error cause s₂ =>
        rw [htraced] at hrun
        cases hrun
  next => trivial

/-- A request that fails its own check is not made, and only a session begins and ends. -/
theorem invalid_request_counts (r : Robot σ) (limit : Nat) (q : Request) (s : Vacant σ μ) :
    match q.validate with
    | .error error =>
        ProgramUse.run r limit (.execute q) s.station =
            .ok (.error (.ofValue error)) ((s.station.acquired .command).released .command) ∧
          ProgramUse.trace r limit (.execute q) s.station = []
    | .ok () => True := by
  cases hvalid : q.validate with
  | ok => trivial
  | error error =>
      refine ⟨?_, ?_⟩
      · show Session.hold .command (r.dispatch q).run s.station = _
        rw [hold_free _ _ s.held]
        unfold Robot.dispatch
        rw [hvalid]
        rfl
      · obtain ⟨outcome, s', hconduct, -⟩ := use_conduct r limit (.execute q) s
        generalize ProgramUse.trace r limit (.execute q) s.station = calls at hconduct ⊢
        cases hconduct with
        | refused _ => rfl
        | made answer h =>
            rw [hvalid] at h
            cases h

/-- The counters account for every call to the link exactly once. From when a robot is connected,
whatever program uses it, with further calls in its callbacks and any outcome of each, the same
holds as without anyone watching, and the counters stand for the calls over the line and for the
errors of the calls on the robot, however the program ends; and so they do for whatever is done
with a driver alone. What fails without a call to the link counts for nothing: an invalid command
leaves the station as it is, an invalid request only begins and ends a session, and a clock that
stands still costs what the successful calls before it cost. -/
theorem metrics_account_for_calls (r : Robot σ) (limit : Nat) :
    (∀ (program : Program μ α) (line : σ) (memory : μ) (journal : Array Event),
      match (program.watch false).run r.traced limit (.fresh ⟨line, []⟩ ⟨memory, []⟩ journal) with
      | .ok a s =>
          program.run r limit (.fresh line memory journal) = .ok a s.unwatched.untraced ∧
            Audited s.line.trace s.memory.errors s.metrics
      | .error cause s =>
          program.run r limit (.fresh line memory journal) = .error cause s.unwatched.untraced ∧
            Audited s.line.trace s.memory.errors s.metrics) ∧
      (∀ (uses : List DriverUse) (line : σ) (memory : μ) (journal : Array Event),
        Audited (r.driver.trace uses (.fresh line memory journal)) []
          (Task.after (r.driver.useAll uses) (.fresh line memory journal)).metrics) ∧
      (∀ (c : Command) (s : Station σ μ),
        match c.validate with
        | .error error => r.driver.send c s = .ok (.error (.value error)) s
        | .ok () => True) ∧
      (∀ (q : Request) (s : Vacant σ μ),
        match q.validate with
        | .error error =>
            ProgramUse.run r limit (.execute q) s.station =
                .ok (.error (.ofValue error)) ((s.station.acquired .command).released .command) ∧
              ProgramUse.trace r limit (.execute q) s.station = []
        | .ok () => True) ∧
      ∀ (use : ProgramUse μ α) (s : Station σ μ),
        match use.run r limit s with
        | .ok (.error (.communication (.clockStalled _ _))) s' =>
            OnlySuccesses s.metrics (use.trace r limit s) s'.metrics
        | _ => True := by
  refine ⟨fun program line memory journal => ?_, fun uses line memory journal => ?_,
    fun c s => ?_, invalid_request_counts r limit, stalled_use_counts r limit⟩
  · have hrun := watched_trace_run r limit program line memory journal
    have hbooks := watch_keeps_books r limit program false (.fresh ⟨line, []⟩ ⟨memory, []⟩ journal)
      (Accounts.start {})
    unfold Task.after at hbooks
    cases hwatch :
        (program.watch false).run r.traced limit (.fresh ⟨line, []⟩ ⟨memory, []⟩ journal) with
    | ok a s =>
        rw [hwatch] at hrun hbooks
        exact ⟨hrun, hbooks.audited⟩
    | error cause s =>
        rw [hwatch] at hrun hbooks
        exact ⟨hrun, hbooks.audited⟩
  · have hbooks := use_all_keeps_books r.driver uses (Station.traced (.fresh line memory journal))
      (Accounts.start {})
    have hafter : (Task.after (r.driver.traced.useAll uses) _).untraced =
        Task.after (r.driver.useAll uses) (.fresh line memory journal) :=
      (use_all_mirrors r.driver uses).after (Station.traced (.fresh line memory journal))
    rw [← hafter]
    exact hbooks.audited
  · rw [Driver.send_run]
    cases c.validate with
    | error error => rfl
    | ok => trivial

end ArmControl
