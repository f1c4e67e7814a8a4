import ArmControl.Proofs.History
import ArmControl.Simulator.Basic

/-!
# What becomes of injections

Whatever is injected into a simulated controller takes effect once, and where it belongs.
`injections_take_effect` is the main theorem: what the next operation gives is told by how often
each kind was injected and returned so far. Read `Pending` and `Ledger` first. `Pending` is what was
injected and has not taken effect, and `Ledger` balances it against what happened.
-/

namespace ArmControl

namespace LinkError

/-- Whether a message was damaged. -/
def isMalformed : LinkError → Bool
  | malformed _ => true
  | timeout _ | sendFailed _ | closed | device _ => false

/-- Whether a command did not get through. -/
def isSendFailed : LinkError → Bool
  | sendFailed _ => true
  | timeout _ | malformed _ | closed | device _ => false

end LinkError

/-! ## What happened -/

namespace Deed

/-- Whether this was injected. -/
def isInjection (injection : Injection) : Deed → Bool
  | injected i => i = injection
  | called _ => false

theorem is_injection_iff {injection : Injection} {deed : Deed} :
    deed.isInjection injection = true ↔ .injected injection = deed := by
  cases deed with
  | injected i => simp [isInjection, eq_comm]
  | called call => simp [isInjection]

/-- Whether a call failed in such a way. -/
def isFailure (kind : LinkError → Bool) : Deed → Bool
  | injected _ => false
  | called call => call.failure?.any kind

/-- The reason of the rejection that was injected. -/
def reason? : Deed → Option Refusal
  | injected (.reject reason) => some reason
  | _ => none

end Deed

/-- How often this was injected. -/
def injections (injection : Injection) (deeds : List Deed) : Nat :=
  deeds.countP (Deed.isInjection injection)

/-- How many calls failed in such a way. -/
def failures (kind : LinkError → Bool) (deeds : List Deed) : Nat :=
  deeds.countP (Deed.isFailure kind)

/-- The reasons of the rejections that were injected, in their order. -/
def reasons (deeds : List Deed) : List Refusal := deeds.filterMap Deed.reason?

/-- The rejections that were injected: the reasons that requests were given for them, and those
that wait. -/
structure Docket where
  given : List Refusal := []
  waiting : List Refusal := []

namespace Docket

/-- A rejection waits from when it is injected. It is over when a request is rejected. -/
def after (d : Docket) : Deed → Docket
  | .injected (.reject reason) => { d with waiting := d.waiting ++ [reason] }
  | .called (.request _ (.value (.rejected reason))) =>
      match d.waiting with
      | [] => d
      | _ :: rest => ⟨d.given ++ [reason], rest⟩
  | _ => d

end Docket

/-- The rejections after all that happened. -/
def docket (deeds : List Deed) : Docket := deeds.foldl Docket.after {}

namespace Simulator

/-- A simulator to which nothing has happened. -/
def create (period : Duration) (version : UInt16) (walls : List Wall) (state : ArmState) :
    Simulator :=
  { period, version, walls, state }

/-! ## What is pending -/

/-- What was injected and has not taken effect. A close stays. -/
structure Pending where
  timeouts : Nat := 0
  malformed : Nat := 0
  sendFailures : Nat := 0
  rejections : List Refusal := []
  closed : Bool := false

namespace Pending

/-- With one more injection. Modes take effect at once. -/
def add (p : Pending) : Injection → Pending
  | .controllerMode _ | .robotMode _ => p
  | .receiveTimeout => { p with timeouts := p.timeouts + 1 }
  | .malformedState => { p with malformed := p.malformed + 1 }
  | .sendFailure => { p with sendFailures := p.sendFailures + 1 }
  | .reject reason => { p with rejections := p.rejections ++ [reason] }
  | .close => { p with closed := true }

/-- After a call has given that. -/
def settle (p : Pending) : Call → Pending
  | .receive (.failure (.timeout _)) => { p with timeouts := p.timeouts - 1 }
  | .receive (.failure (.malformed _)) => { p with malformed := p.malformed - 1 }
  | .send _ (.failure (.sendFailed _)) => { p with sendFailures := p.sendFailures - 1 }
  | .request _ (.value (.rejected _)) => { p with rejections := p.rejections.tail }
  | _ => p

end Pending

/-- What is pending, with what waits in the queue. -/
def pending (s : Simulator) : Pending :=
  ⟨s.drain.timeouts, s.drain.malformed, s.drain.sendFailures, s.drain.rejections, s.drain.closed⟩

theorem foldl_absorb_queue (injections : List Injection) (queue : Array Injection)
    (s : Simulator) :
    injections.foldl absorb { s with queue } = { injections.foldl absorb s with queue } := by
  induction injections generalizing s with
  | nil => rfl
  | cons i rest ih =>
      have habsorb : absorb { s with queue } i = { s.absorb i with queue } := by cases i <;> rfl
      rw [List.foldl_cons, List.foldl_cons, habsorb, ih]

/-- What is injected is taken in after all that was injected before. -/
theorem drain_inject (i : Injection) (s : Simulator) : (s.inject i).drain = s.drain.absorb i := by
  unfold drain inject
  rw [foldl_absorb_queue, Array.toList_push, List.foldl_append]
  cases i <;> rfl

theorem drain_of_empty {s : Simulator} (h : s.queue = #[]) : s.drain = s := by
  cases s
  subst h
  rfl

theorem pending_inject (i : Injection) (s : Simulator) :
    (s.inject i).pending = s.pending.add i := by
  unfold pending
  rw [drain_inject]
  cases i <;> rfl

/-- What no injection changes is the same when those that wait were taken in. -/
theorem drain_keeps {β : Type} (f : Simulator → β) (habsorb : ∀ s i, f (absorb s i) = f s)
    (hqueue : ∀ s : Simulator, f { s with queue := #[] } = f s) (s : Simulator) :
    f s.drain = f s := by
  have hfold (injections : List Injection) (s : Simulator) :
      f (injections.foldl absorb s) = f s := by
    induction injections generalizing s with
    | nil => rfl
    | cons i rest ih => rw [List.foldl_cons, ih, habsorb]
  exact (hqueue _).trans (hfold s.queue.toList s)

/-- Taking in injections records nothing. -/
theorem drain_record (s : Simulator) : s.drain.record = s.record :=
  drain_keeps Simulator.record (fun _ i => by cases i <;> rfl) (fun _ => rfl) s

/-! ## What operations do -/

variable {s : Simulator} {deeds : List Deed} {time : Duration}

/-- The state that a receive hands out at that time. -/
def advanced (s : Simulator) (time : Duration) : ArmState :=
  { s.drain.state with messageId := s.drain.state.messageId + 1, time }

theorem receive_closed (h : s.pending.closed) (timeout : Duration) :
    s.receive timeout = ⟨s.drain, s.drainEvents, .failure .closed⟩ := if_pos h

theorem receive_silent (hopen : s.pending.closed = false) (h : 0 < s.pending.timeouts)
    (timeout : Duration) :
    s.receive timeout =
      ⟨{ s.drain with timeouts := s.drain.timeouts - 1 }, s.drainEvents,
        .failure (.timeout timeout)⟩ :=
  (if_neg (ne_true_of_eq_false hopen)).trans (if_pos h)

theorem receive_damaged (hopen : s.pending.closed = false) (htimeouts : s.pending.timeouts = 0)
    (h : 0 < s.pending.malformed) (timeout : Duration) :
    s.receive timeout =
      ⟨{ s.drain with malformed := s.drain.malformed - 1 }, s.drainEvents,
        .failure (.malformed "state message size mismatch")⟩ :=
  (if_neg (ne_true_of_eq_false hopen)).trans <|
    (if_neg (Nat.not_lt.mpr (Nat.le_of_eq htimeouts))).trans (if_pos h)

/-- With nothing against it, a receive depends on the clock alone. -/
theorem receive_undisturbed (hopen : s.pending.closed = false) (htimeouts : s.pending.timeouts = 0)
    (hmalformed : s.pending.malformed = 0) (timeout : Duration) :
    s.receive timeout =
      match s.drain.state.time.add? s.drain.period with
      | none => ⟨s.drain, s.drainEvents, .overflow⟩
      | some time =>
          ⟨{ s.drain with state := s.advanced time, record := s.drain.record.addState },
            s.drainEvents ++ [.stateProduced (s.advanced time).messageId],
            .value (s.advanced time)⟩ :=
  (if_neg (ne_true_of_eq_false hopen)).trans <|
    (if_neg (Nat.not_lt.mpr (Nat.le_of_eq htimeouts))).trans <|
      if_neg (Nat.not_lt.mpr (Nat.le_of_eq hmalformed))

theorem send_closed (h : s.pending.closed) (c : Command) :
    s.send c = ⟨s.drain, s.drainEvents, .failure .closed⟩ := if_pos h

theorem send_failed (hopen : s.pending.closed = false) (h : 0 < s.pending.sendFailures)
    (c : Command) :
    s.send c =
      ⟨{ s.drain with sendFailures := s.drain.sendFailures - 1 }, s.drainEvents,
        .failure (.sendFailed "injected send failure")⟩ :=
  (if_neg (ne_true_of_eq_false hopen)).trans (if_pos h)

theorem send_undisturbed (hopen : s.pending.closed = false) (h : s.pending.sendFailures = 0)
    (c : Command) :
    s.send c =
      ⟨{ s.drain with
          state := applyCommand s.drain.state c s.drain.period.toSeconds
          record := s.drain.record.addCommand c }, s.drainEvents, .value ()⟩ :=
  (if_neg (ne_true_of_eq_false hopen)).trans (if_neg (Nat.not_lt.mpr (Nat.le_of_eq h)))

/-- What the controller itself does with a request: it checks the arguments first. -/
def decided (s : Simulator) (q : Request) : ArmState × Response :=
  match q.validate with
  | .error error => (s.drain.state, .rejected (.invalidArgument error.message))
  | .ok () => s.drain.perform q

theorem request_closed (h : s.pending.closed) (q : Request) :
    s.request q = ⟨s.drain, s.drainEvents, .failure .closed⟩ := if_pos h

theorem request_rejected (hopen : s.pending.closed = false) {reason : Refusal}
    {rest : List Refusal} (h : s.pending.rejections = reason :: rest) (q : Request) :
    s.request q =
      ⟨{ s.drain with rejections := rest, record := s.drain.record.addRequest q },
        s.drainEvents ++ [.requestAnswered q.name (.rejected reason)],
        .value (.rejected reason)⟩ := by
  refine (if_neg (ne_true_of_eq_false hopen)).trans ?_
  have hrejections : s.drain.rejections = reason :: rest := h
  simp only [hrejections]

theorem request_undisturbed (hopen : s.pending.closed = false) (h : s.pending.rejections = [])
    (q : Request) :
    s.request q =
      ⟨{ s.drain with
          state := (s.decided q).1
          record := s.drain.record.addRequest q },
        s.drainEvents ++ [.requestAnswered q.name (s.decided q).2],
        .value (s.decided q).2⟩ := by
  refine (if_neg (ne_true_of_eq_false hopen)).trans ?_
  have hrejections : s.drain.rejections = [] := h
  simp only [hrejections, decided]
  cases q.validate with
  | error error => rfl
  | ok => rfl

/-- While the line is open, a receive reports silence first, then damage. -/
theorem receive_answer (hopen : s.pending.closed = false) (timeout : Duration) :
    (s.receive timeout).answer =
      if 0 < s.pending.timeouts then .failure (.timeout timeout)
      else if 0 < s.pending.malformed then .failure (.malformed "state message size mismatch")
      else
        match s.drain.state.time.add? s.drain.period with
        | none => .overflow
        | some time => .value (s.advanced time) := by
  split
  case isTrue h => rw [receive_silent hopen h]
  case isFalse htimeouts =>
      have htimeouts := Nat.eq_zero_of_not_pos htimeouts
      split
      case isTrue h => rw [receive_damaged hopen htimeouts h]
      case isFalse hmalformed =>
          rw [receive_undisturbed hopen htimeouts (Nat.eq_zero_of_not_pos hmalformed)]
          cases s.drain.state.time.add? s.drain.period <;> rfl

theorem send_answer (hopen : s.pending.closed = false) (c : Command) :
    (s.send c).answer =
      if 0 < s.pending.sendFailures then .failure (.sendFailed "injected send failure")
      else .value () := by
  split
  case isTrue h => rw [send_failed hopen h]
  case isFalse h => rw [send_undisturbed hopen (Nat.eq_zero_of_not_pos h)]

/-- While the line is open, a rejection that was injected comes before all else. -/
theorem request_answer (hopen : s.pending.closed = false) (q : Request) :
    (s.request q).answer =
      match s.pending.rejections with
      | reason :: _ => .value (.rejected reason)
      | [] => .value (s.decided q).2 := by
  cases h : s.pending.rejections with
  | cons reason rest => rw [request_rejected hopen h]
  | nil => rw [request_undisturbed hopen h]

/-! An operation uses up what it answers with, and nothing of another kind. -/

theorem receive_pending (s : Simulator) (timeout : Duration) :
    (s.receive timeout).line.pending =
      s.pending.settle (.receive (s.receive timeout).answer) := by
  cases hclosed : s.pending.closed with
  | true => rw [receive_closed hclosed]; rfl
  | false =>
      rcases Nat.eq_zero_or_pos s.pending.timeouts with htimeouts | htimeouts
      · rcases Nat.eq_zero_or_pos s.pending.malformed with hmalformed | hmalformed
        · rw [receive_undisturbed hclosed htimeouts hmalformed]
          cases s.drain.state.time.add? s.drain.period <;> rfl
        · rw [receive_damaged hclosed htimeouts hmalformed]; rfl
      · rw [receive_silent hclosed htimeouts]; rfl

theorem send_pending (s : Simulator) (c : Command) :
    (s.send c).line.pending = s.pending.settle (.send c (s.send c).answer) := by
  cases hclosed : s.pending.closed with
  | true => rw [send_closed hclosed]; rfl
  | false =>
      rcases Nat.eq_zero_or_pos s.pending.sendFailures with hfailures | hfailures
      · rw [send_undisturbed hclosed hfailures]; rfl
      · rw [send_failed hclosed hfailures]; rfl

theorem request_pending (s : Simulator) (q : Request) :
    (s.request q).line.pending = s.pending.settle (.request q (s.request q).answer) := by
  cases hclosed : s.pending.closed with
  | true => rw [request_closed hclosed]; rfl
  | false =>
      cases hrejections : s.pending.rejections with
      | cons reason rest =>
          rw [request_rejected hclosed hrejections]
          show _ = { s.pending with rejections := s.pending.rejections.tail }
          rw [hrejections]
          rfl
      | nil =>
          have htail : { s.pending with rejections := s.pending.rejections.tail } = s.pending := by
            rw [hrejections, List.tail_nil, ← hrejections]
          rw [request_undisturbed hclosed hrejections]
          cases (s.decided q).2 with
          | rejected reason => exact htail.symm
          | success reply => rfl

end Simulator

/-! ## The balance -/

/-- What is pending is what was injected and not yet returned. -/
structure Ledger (deeds : List Deed) (p : Simulator.Pending) : Prop where
  timeouts : p.timeouts + failures LinkError.isTimeout deeds = injections .receiveTimeout deeds
  malformed : p.malformed + failures LinkError.isMalformed deeds = injections .malformedState deeds
  sendFailures :
    p.sendFailures + failures LinkError.isSendFailed deeds = injections .sendFailure deeds
  rejections : p.rejections = (docket deeds).waiting
  given : (docket deeds).given ++ (docket deeds).waiting = reasons deeds
  closed : p.closed ↔ .injected .close ∈ deeds

@[simp] theorem injections_snoc (injection : Injection) (deeds : List Deed) (deed : Deed) :
    injections injection (deeds ++ [deed]) =
      injections injection deeds + (deed.isInjection injection).toNat := by
  cases h : deed.isInjection injection <;> simp [injections, List.countP_append, h]

@[simp] theorem failures_snoc (kind : LinkError → Bool) (deeds : List Deed) (deed : Deed) :
    failures kind (deeds ++ [deed]) = failures kind deeds + (deed.isFailure kind).toNat := by
  cases h : deed.isFailure kind <;> simp [failures, List.countP_append, h]

@[simp] theorem docket_snoc (deeds : List Deed) (deed : Deed) :
    docket (deeds ++ [deed]) = (docket deeds).after deed := by
  simp [docket]

@[simp] theorem reasons_snoc (deeds : List Deed) (deed : Deed) :
    reasons (deeds ++ [deed]) = reasons deeds ++ deed.reason?.toList := by
  rw [reasons, List.filterMap_append]
  cases h : deed.reason? <;> simp [reasons, h]

namespace Ledger

variable {s : Simulator} {deeds : List Deed} {p : Simulator.Pending}

/-- What happens keeps the balance if what is pending changes by as much as was injected or
returned. -/
theorem snoc (h : Ledger deeds p) {deed : Deed} {next : Simulator.Pending}
    (htimeouts : next.timeouts + (deed.isFailure LinkError.isTimeout).toNat =
      p.timeouts + (deed.isInjection .receiveTimeout).toNat)
    (hmalformed : next.malformed + (deed.isFailure LinkError.isMalformed).toNat =
      p.malformed + (deed.isInjection .malformedState).toNat)
    (hfailures : next.sendFailures + (deed.isFailure LinkError.isSendFailed).toNat =
      p.sendFailures + (deed.isInjection .sendFailure).toNat)
    (hrejections : next.rejections = ((docket deeds).after deed).waiting)
    (hgiven : ((docket deeds).after deed).given ++ ((docket deeds).after deed).waiting =
      reasons deeds ++ deed.reason?.toList)
    (hclosed : next.closed = (deed.isInjection .close || p.closed)) :
    Ledger (deeds ++ [deed]) next where
  timeouts := by
    have hbalance := h.timeouts
    rw [failures_snoc, injections_snoc]
    omega
  malformed := by
    have hbalance := h.malformed
    rw [failures_snoc, injections_snoc]
    omega
  sendFailures := by
    have hbalance := h.sendFailures
    rw [failures_snoc, injections_snoc]
    omega
  rejections := by rw [docket_snoc]; exact hrejections
  given := by rw [docket_snoc, reasons_snoc]; exact hgiven
  closed := by
    rw [hclosed, Bool.or_eq_true, h.closed, Deed.is_injection_iff, List.mem_append,
      List.mem_singleton, or_comm]

theorem add (h : Ledger deeds p) (i : Injection) :
    Ledger (deeds ++ [.injected i]) (p.add i) := by
  have hgiven := h.given.trans (List.append_nil _).symm
  cases i with
  | controllerMode | robotMode | receiveTimeout | malformedState | sendFailure | close =>
      exact h.snoc rfl rfl rfl h.rejections hgiven rfl
  | reject reason =>
      refine h.snoc rfl rfl rfl (congrArg (· ++ [reason]) h.rejections) ?_ rfl
      show (docket deeds).given ++ ((docket deeds).waiting ++ [reason]) = reasons deeds ++ [reason]
      rw [← List.append_assoc, h.given]

/-- A call keeps the balance if what it returned is pending once less. -/
theorem called (h : Ledger deeds p) {call : Call} {next : Simulator.Pending}
    (htimeouts : next.timeouts + (call.failure?.any LinkError.isTimeout).toNat = p.timeouts)
    (hmalformed : next.malformed + (call.failure?.any LinkError.isMalformed).toNat = p.malformed)
    (hfailures : next.sendFailures + (call.failure?.any LinkError.isSendFailed).toNat =
      p.sendFailures)
    (hrejections : next.rejections = ((docket deeds).after (.called call)).waiting)
    (hgiven : ((docket deeds).after (.called call)).given ++
      ((docket deeds).after (.called call)).waiting = reasons deeds)
    (hclosed : next.closed = p.closed) : Ledger (deeds ++ [.called call]) next :=
  h.snoc htimeouts hmalformed hfailures hrejections (hgiven.trans (List.append_nil _).symm) hclosed

theorem receive (h : Ledger deeds s.pending) (timeout : Duration) :
    Ledger (deeds ++ [.called (.receive (s.receive timeout).answer)])
      (s.receive timeout).line.pending := by
  rw [s.receive_pending]
  cases hopen : s.pending.closed with
  | true =>
      rw [Simulator.receive_closed hopen]
      exact h.called rfl rfl rfl h.rejections h.given rfl
  | false =>
      rw [Simulator.receive_answer hopen]
      split
      case isTrue htimeouts =>
          exact h.called (Nat.sub_add_cancel htimeouts) rfl rfl h.rejections h.given rfl
      case isFalse =>
          split
          case isTrue hmalformed =>
              exact h.called rfl (Nat.sub_add_cancel hmalformed) rfl h.rejections h.given rfl
          case isFalse =>
              split <;> exact h.called rfl rfl rfl h.rejections h.given rfl

theorem send (h : Ledger deeds s.pending) (c : Command) :
    Ledger (deeds ++ [.called (.send c (s.send c).answer)]) (s.send c).line.pending := by
  rw [s.send_pending]
  cases hopen : s.pending.closed with
  | true =>
      rw [Simulator.send_closed hopen]
      exact h.called rfl rfl rfl h.rejections h.given rfl
  | false =>
      rw [Simulator.send_answer hopen]
      split
      case isTrue hfailures =>
          exact h.called rfl rfl (Nat.sub_add_cancel hfailures) h.rejections h.given rfl
      case isFalse => exact h.called rfl rfl rfl h.rejections h.given rfl

theorem request (h : Ledger deeds s.pending) (q : Request) :
    Ledger (deeds ++ [.called (.request q (s.request q).answer)]) (s.request q).line.pending := by
  rw [s.request_pending]
  cases hopen : s.pending.closed with
  | true =>
      rw [Simulator.request_closed hopen]
      exact h.called rfl rfl rfl h.rejections h.given rfl
  | false =>
      rw [Simulator.request_answer hopen]
      have hwaiting := h.rejections
      cases hrejections : s.pending.rejections with
      | cons reason rest =>
          refine h.called rfl rfl rfl ?_ ?_ rfl
          · simp [Simulator.Pending.settle, Docket.after, ← hwaiting, hrejections]
          · simp [Docket.after, ← hwaiting, hrejections, ← h.given]
      | nil =>
          show Ledger (deeds ++ [.called (.request q (.value (s.decided q).2))])
            (s.pending.settle (.request q (.value (s.decided q).2)))
          cases (s.decided q).2 with
          | success reply => exact h.called rfl rfl rfl h.rejections h.given rfl
          | rejected reason =>
              refine h.called rfl rfl rfl ?_ ?_ rfl
              · simp [Simulator.Pending.settle, Docket.after, ← hwaiting, hrejections]
              · simp [Docket.after, ← hwaiting, hrejections, ← h.given]

end Ledger

/-- Whatever happens, the balance is kept. -/
theorem Ledger.step {s s' : Simulator} {deeds : List Deed} {deed : Deed}
    (h : Ledger deeds s.pending) (hstep : Simulator.link.Step s deed s') :
    Ledger (deeds ++ [deed]) s'.pending := by
  cases hstep with
  | inject i => exact s.pending_inject i ▸ h.add i
  | receive timeout => exact h.receive timeout
  | send c => exact h.send c
  | request q timeout => exact h.request q
  | callback call hcall =>
      cases call <;> first | exact h.called rfl rfl rfl h.rejections h.given rfl | cases hcall

theorem Ledger.of_history {start s : Simulator} {deeds : List Deed}
    (hstart : Ledger [] start.pending) (h : Simulator.link.History start deeds s) :
    Ledger deeds s.pending := by
  induction h with
  | start => exact hstart
  | snoc _ hstep ih => exact ih.step hstep

namespace Ledger

variable {deeds : List Deed} {p : Simulator.Pending}

theorem opened (h : Ledger deeds p) (hopen : .injected .close ∉ deeds) : p.closed = false :=
  Bool.eq_false_iff.mpr (mt h.closed.mp hopen)

theorem timeouts_pos (h : Ledger deeds p) :
    0 < p.timeouts ↔ failures LinkError.isTimeout deeds < injections .receiveTimeout deeds := by
  have hbalance := h.timeouts
  omega

theorem malformed_pos (h : Ledger deeds p) :
    0 < p.malformed ↔ failures LinkError.isMalformed deeds < injections .malformedState deeds := by
  have hbalance := h.malformed
  omega

theorem sendFailures_pos (h : Ledger deeds p) :
    0 < p.sendFailures ↔ failures LinkError.isSendFailed deeds < injections .sendFailure deeds := by
  have hbalance := h.sendFailures
  omega

/-- The next rejection is the first one that was not given yet. -/
theorem next_reason (h : Ledger deeds p) :
    (reasons deeds)[(docket deeds).given.length]? = p.rejections.head? := by
  rw [← h.given, List.getElem?_append_right (Nat.le_refl _), Nat.sub_self, h.rejections,
    List.head?_eq_getElem?]

end Ledger

/-! ## The next operation -/

namespace Simulator

/-- What the next operation does, told by what happened so far. -/
structure Heeds (deeds : List Deed) (s : Simulator) : Prop where
  /-- After a close every operation says so. It hands out nothing and records nothing. -/
  closed : .injected .close ∈ deeds → ∀ timeout c q,
    s.receive timeout = ⟨s.drain, s.drainEvents, .failure .closed⟩ ∧
    s.send c = ⟨s.drain, s.drainEvents, .failure .closed⟩ ∧
    s.request q = ⟨s.drain, s.drainEvents, .failure .closed⟩ ∧
    s.drain.record = s.record
  /-- Before, a state comes when all the silence and then all the damage was returned. -/
  receive : .injected .close ∉ deeds → ∀ timeout,
    (s.receive timeout).answer =
      if failures LinkError.isTimeout deeds < injections .receiveTimeout deeds then
        .failure (.timeout timeout)
      else if failures LinkError.isMalformed deeds < injections .malformedState deeds then
        .failure (.malformed "state message size mismatch")
      else
        match s.drain.state.time.add? s.drain.period with
        | none => .overflow
        | some time => .value (s.advanced time)
  send : .injected .close ∉ deeds → ∀ c,
    (s.send c).answer =
      if failures LinkError.isSendFailed deeds < injections .sendFailure deeds then
        .failure (.sendFailed "injected send failure")
      else .value ()
  /-- The first rejection that was not given comes before all that the controller decides. -/
  request : .injected .close ∉ deeds → ∀ q,
    (s.request q).answer =
      match (reasons deeds)[(docket deeds).given.length]? with
      | some reason => .value (.rejected reason)
      | none => .value (s.decided q).2
  /-- Rejections are given in the order in which they were injected. -/
  given : (docket deeds).given ++ (docket deeds).waiting = reasons deeds
  /-- An operation uses up what it answers with, and nothing of another kind. -/
  apart : ∀ timeout c q,
    (s.receive timeout).line.pending =
        s.pending.settle (.receive (s.receive timeout).answer) ∧
      (s.send c).line.pending = s.pending.settle (.send c (s.send c).answer) ∧
      (s.request q).line.pending = s.pending.settle (.request q (s.request q).answer)

theorem initial_ledger (period : Duration) (version : UInt16) (walls : List Wall)
    (state : ArmState) : Ledger [] (create period version walls state).pending :=
  ⟨rfl, rfl, rfl, rfl, rfl, by simp [create, pending, drain]⟩

/-- After any injections and operations on a simulator, what the next operation does is told by how
often each kind was injected and how often it was returned. -/
theorem injections_take_effect (period : Duration) (version : UInt16) (walls : List Wall)
    (state : ArmState) (past : link.Past (create period version walls state)) :
    Heeds past.deeds past.line := by
  have h := (initial_ledger period version walls state).of_history past.history
  refine
    { closed := fun hclose timeout c q => ?_
      receive := fun hopen timeout => ?_
      send := fun hopen c => ?_
      request := fun hopen q => ?_
      given := h.given
      apart := fun timeout c q => ⟨receive_pending .., send_pending .., request_pending ..⟩ }
  · have hclosed := h.closed.mpr hclose
    exact ⟨receive_closed hclosed timeout, send_closed hclosed c, request_closed hclosed q,
      drain_record _⟩
  · rw [receive_answer (h.opened hopen)]
    simp only [h.timeouts_pos, h.malformed_pos]
  · rw [send_answer (h.opened hopen)]
    simp only [h.sendFailures_pos]
  · rw [request_answer (h.opened hopen), h.next_reason]
    cases past.line.pending.rejections <;> rfl

end Simulator

end ArmControl
