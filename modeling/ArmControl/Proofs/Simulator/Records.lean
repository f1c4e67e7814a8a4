import ArmControl.Proofs.Simulator.Deeds

/-!
# The clock and the record

A simulated controller numbers the states that it hands out and moves its clock on by one period for
each, and for nothing else. It records the commands that it accepted and the requests that reached
it, in their order. `records_are_exact` is the main theorem, and `Clocked` is what a deed keeps of
it for the clock.
-/

namespace ArmControl

namespace Deed

/-- The request that was made, whatever was answered. -/
def request? : Deed → Option Request
  | called (.request q _) => some q
  | _ => none

end Deed

/-- The states that were handed out, in their order. -/
def handedOut (deeds : List Deed) : List ArmState := deeds.filterMap Deed.state?

/-- The commands that were accepted, in their order. -/
def acceptedCommands (deeds : List Deed) : List Command := deeds.filterMap Deed.accepted?

/-- The requests that were made before the line was closed, in their order. -/
def requestsWhileOpen (deeds : List Deed) : List Request :=
  (deeds.takeWhile fun deed => !deed.isInjection .close).filterMap Deed.request?

@[simp] theorem handed_out_snoc (deeds : List Deed) (deed : Deed) :
    handedOut (deeds ++ [deed]) = handedOut deeds ++ deed.state?.toList := by
  cases h : deed.state? <;> simp [handedOut, List.filterMap_append, h]

@[simp] theorem accepted_commands_snoc (deeds : List Deed) (deed : Deed) :
    acceptedCommands (deeds ++ [deed]) = acceptedCommands deeds ++ deed.accepted?.toList := by
  cases h : deed.accepted? <;> simp [acceptedCommands, List.filterMap_append, h]

/-- Once the line is closed, further requests do not count. -/
theorem requests_while_open_snoc (deeds : List Deed) (deed : Deed) :
    requestsWhileOpen (deeds ++ [deed]) = requestsWhileOpen deeds ++
      if deeds.any (Deed.isInjection .close) then [] else deed.request?.toList := by
  induction deeds with
  | nil =>
      cases deed with
      | injected injection => cases injection <;> rfl
      | called call => cases call <;> rfl
  | cons first rest ih =>
      cases hfirst : first.isInjection .close with
      | true => simp [requestsWhileOpen, hfirst]
      | false =>
          unfold requestsWhileOpen at ih ⊢
          cases hrequest : first.request? <;> simp [hfirst, hrequest, ih]

namespace LinkRecord

variable (record : LinkRecord) (deed : Deed)

theorem after_produced :
    (record.after deed).statesProduced =
      record.statesProduced + .ofNat deed.state?.toList.length := by
  cases deed with
  | injected injection => exact (UInt64.add_zero _).symm
  | called call =>
      cases call with
      | receive answer =>
          cases answer with
          | value received => rfl
          | failure | overflow => exact (UInt64.add_zero _).symm
      | send c answer => cases answer <;> exact (UInt64.add_zero _).symm
      | request q answer => cases answer <;> exact (UInt64.add_zero _).symm
      | torque | motion | predicate => exact (UInt64.add_zero _).symm

theorem after_sent : (record.after deed).sent.toList =
    record.sent.toList ++ deed.accepted?.toList := by
  cases deed with
  | injected injection => exact (List.append_nil _).symm
  | called call =>
      cases call with
      | send c answer =>
          cases answer with
          | value => exact Array.toList_push
          | failure | overflow => exact (List.append_nil _).symm
      | receive answer => cases answer <;> exact (List.append_nil _).symm
      | request q answer => cases answer <;> exact (List.append_nil _).symm
      | torque | motion | predicate => exact (List.append_nil _).symm

variable {record deed}

theorem after_requests (h : deed.request? = none) :
    (record.after deed).requests = record.requests := by
  cases deed with
  | injected injection => rfl
  | called call =>
      cases call with
      | receive answer => cases answer <;> rfl
      | send c answer => cases answer <;> rfl
      | request q answer => cases h
      | torque | motion | predicate => rfl

end LinkRecord

namespace Simulator

variable {start s s' : Simulator} {deeds : List Deed} {deed : Deed}

/-! ## The clock -/

/-- Only a state that is handed out moves the clock on. -/
theorem after_still (period : Duration) (state : ArmState) (h : deed.state? = none) :
    (state.after period deed).messageId = state.messageId ∧
      (state.after period deed).time = state.time := by
  refine ArmState.after_rule (P := fun after => after.messageId = state.messageId ∧
    after.time = state.time) ⟨rfl, rfl⟩ (fun injection => ?_) (fun received hmem => ?_)
    (fun c _ => ?_) (fun q _ => ?_)
  · cases injection <;> exact ⟨rfl, rfl⟩
  · rw [h] at hmem
    cases hmem
  · have hmoved := apply_command_moved state c period.toSeconds
    exact ⟨hmoved.messageId, hmoved.time⟩
  · cases q <;> exact ⟨rfl, rfl⟩

/-- A state that is handed out has the next number. -/
theorem after_counts (period : Duration) (state : ArmState) {received : ArmState}
    (h : deed.state? = some received) :
    (state.after period deed).messageId = state.messageId + 1 := by
  cases deed with
  | injected injection => cases h
  | called call =>
      cases call with
      | receive answer =>
          cases answer with
          | value _ => rfl
          | failure | overflow => cases h
      | send | request | torque | motion | predicate => cases h

/-- Where the clock stands when this many states were handed out since the start. Numbers wrap
around; a time that does not fit is never handed out. -/
structure Reads (start : Simulator) (n : Nat) (state : ArmState) : Prop where
  messageId : state.messageId = .ofNat (start.state.messageId.toNat + n)
  time : state.time.nanos = start.state.time.nanos + n * start.period.nanos

/-- The clock has gone on by one period for each state that was handed out, and each of them shows
the clock as it was then. -/
structure Clocked (start : Simulator) (deeds : List Deed) (s : Simulator) : Prop where
  period : s.period = start.period
  now : start.Reads (handedOut deeds).length s.drain.state
  states : ∀ j state, (handedOut deeds)[j]? = some state → start.Reads (j + 1) state

theorem Clocked.initial (hqueue : start.queue = #[]) : start.Clocked [] start where
  period := rfl
  now := by
    rw [drain_of_empty hqueue]
    exact ⟨by simp [handedOut], by simp [handedOut]⟩
  states := by simp [handedOut]

theorem Clocked.step (h : start.Clocked deeds s) (hleaves : s.Leaves deed s') :
    start.Clocked (deeds ++ [deed]) s' := by
  have hperiod := hleaves.period.trans h.period
  cases hstate : deed.state? with
  | none =>
      obtain ⟨hid, htime⟩ := after_still s.period s.drain.state hstate
      have hsame : handedOut (deeds ++ [deed]) = handedOut deeds := by simp [hstate]
      refine ⟨hperiod, ?_, ?_⟩
      · rw [hsame, hleaves.state]
        exact ⟨hid.trans h.now.messageId, (congrArg Duration.nanos htime).trans h.now.time⟩
      · rw [hsame]
        exact h.states
  | some state =>
      have hmore : handedOut (deeds ++ [deed]) = handedOut deeds ++ [state] := by simp [hstate]
      have hnow : state = s'.drain.state := hleaves.handedOut state hstate
      have hreads : start.Reads ((handedOut deeds).length + 1) state := by
        constructor
        · rw [hnow, hleaves.state, after_counts _ _ hstate, h.now.messageId, ← Nat.add_assoc,
            UInt64.ofNat_add _ 1, UInt64.ofNat_one]
        · rw [Duration.add_eq_some_iff.mp (hleaves.clock state hstate), h.now.time, h.period,
            Nat.add_mul, Nat.one_mul, Nat.add_assoc]
      refine ⟨hperiod, ?_, ?_⟩
      · rw [hmore, List.length_append, List.length_singleton, ← hnow]
        exact hreads
      · rw [hmore]
        exact forall_index_snoc h.states hreads

/-! ## The record -/

/-- A request is recorded unless the line is closed, whatever it is answered. -/
theorem step_requests (h : Simulator.link.Step s deed s') :
    s'.record.requests.toList =
      s.record.requests.toList ++ if s.pending.closed then [] else deed.request?.toList := by
  have hrecord := (step_leaves h).record
  cases hrequest : deed.request? with
  | none => rw [hrecord, LinkRecord.after_requests hrequest]; simp
  | some q =>
      cases h with
      | inject | receive | send => cases hrequest
      | callback call hcall =>
          cases call with
          | request => cases hcall
          | receive | send | torque | motion | predicate => cases hrequest
      | request q' timeout =>
          obtain rfl : q' = q := Option.some.inj hrequest
          rw [hrecord]
          show (s.record.after (.called (.request q' (s.request q').answer))).requests.toList = _
          cases hopen : s.pending.closed with
          | true =>
              rw [request_closed hopen]
              exact (List.append_nil _).symm
          | false =>
              obtain ⟨response, hresponse⟩ :
                  ∃ response, (s.request q').answer = .value response := by
                rw [request_answer hopen]
                split <;> exact ⟨_, rfl⟩
              rw [hresponse]
              exact Array.toList_push

/-- The record tells what happened. -/
structure Tells (record : LinkRecord) (deeds : List Deed) : Prop where
  produced : record.statesProduced = .ofNat (handedOut deeds).length
  sent : record.sent.toList = acceptedCommands deeds
  requests : record.requests.toList = requestsWhileOpen deeds

theorem Tells.step (h : Tells s.record deeds) (hledger : Ledger deeds s.pending)
    (hstep : Simulator.link.Step s deed s') : Tells s'.record (deeds ++ [deed]) where
  produced := by
    rw [(step_leaves hstep).record, LinkRecord.after_produced, h.produced, handed_out_snoc,
      List.length_append, UInt64.ofNat_add]
  sent := by
    rw [(step_leaves hstep).record, LinkRecord.after_sent, h.sent, accepted_commands_snoc]
  requests := by
    have hclosed : deeds.any (Deed.isInjection .close) = s.pending.closed := by
      rw [Bool.eq_iff_iff, hledger.closed, List.any_eq_true]
      simp only [Deed.is_injection_iff, exists_eq_right']
    rw [step_requests hstep, h.requests, requests_while_open_snoc, hclosed]

/-! ## The main theorem -/

/-- The clock and the record of a simulator, told by what it went through. -/
structure Exact (start : Simulator) (deeds : List Deed) (s : Simulator) : Prop where
  /-- The states are numbered on from the start, one period apart. -/
  states : ∀ j state, (handedOut deeds)[j]? = some state → start.Reads (j + 1) state
  record : Tells s.record deeds

/-- After any injections and operations on a simulator, the states that it handed out show the clock
of the start moved on by one each, and its record holds how many they were, the commands that it
accepted, and the requests that reached it while it was open, as they were and in their order. -/
theorem records_are_exact (period : Duration) (version : UInt16) (walls : List Wall)
    (state : ArmState) (past : link.Past (create period version walls state)) :
    Exact (create period version walls state) past.deeds past.line := by
  have hledger {deeds : List Deed} {s : Simulator}
      (h : link.History (create period version walls state) deeds s) : Ledger deeds s.pending :=
    (initial_ledger period version walls state).of_history h
  have hall {deeds : List Deed} {s : Simulator}
      (h : link.History (create period version walls state) deeds s) :
      (create period version walls state).Clocked deeds s ∧ Tells s.record deeds := by
    induction h with
    | start => exact ⟨.initial rfl, rfl, rfl, rfl⟩
    | snoc hhistory hstep ih =>
        exact ⟨ih.1.step (step_leaves hstep), ih.2.step (hledger hhistory) hstep⟩
  obtain ⟨hclocked, htells⟩ := hall past.history
  exact ⟨hclocked.states, htells⟩

end Simulator

end ArmControl
