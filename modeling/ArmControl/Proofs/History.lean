import ArmControl.Proofs.Robot.Trace
import ArmControl.Proofs.Upkeep

/-!
# What a line went through

A `Link.History` tells what happened to a line, in its order: what was injected, and the calls that
were made over it with what they gave. As long as the callbacks of a call on a robot inject nothing,
the trace of the call is such a history, as `use_history` says.
-/

namespace ArmControl

variable {σ μ α : Type}

/-- Something that happens to a line, or beside it. -/
inductive Deed
  | injected (injection : Injection)
  | called (call : Call)

/-- What one deed does to the line. A callback does nothing to it. -/
inductive Link.Step (l : Link σ) (line : σ) : Deed → σ → Prop
  | inject (injection : Injection) : Step l line (.injected injection) (l.inject injection line)
  | receive (timeout : Duration) :
      Step l line (.called (.receive (l.receive timeout line).answer)) (l.receive timeout line).line
  | send (c : Command) :
      Step l line (.called (.send c (l.send c line).answer)) (l.send c line).line
  | request (q : Request) (timeout : Duration) :
      Step l line (.called (.request q (l.request q timeout line).answer))
        (l.request q timeout line).line
  | callback (call : Call) : call.isExchange = false → Step l line (.called call) line

/-- These deeds led the line from its start to where it is. -/
inductive Link.History (l : Link σ) (start : σ) : List Deed → σ → Prop
  | start : History l start [] start
  | snoc {deeds : List Deed} {line line' : σ} {deed : Deed} :
      History l start deeds line → l.Step line deed line' →
      History l start (deeds ++ [deed]) line'

/-- A history may be told from any point in it. -/
theorem Link.History.split {l : Link σ} {start line : σ} {earlier later : List Deed}
    (h : l.History start (earlier ++ later) line) :
    ∃ middle, l.History start earlier middle ∧ l.History middle later line := by
  generalize hdeeds : earlier ++ later = deeds at h
  induction h generalizing later with
  | start =>
      obtain ⟨rfl, rfl⟩ := List.append_eq_nil_iff.mp hdeeds
      exact ⟨start, .start, .start⟩
  | @snoc deeds line line' deed hhistory hstep ih =>
      rcases List.eq_nil_or_concat later with rfl | ⟨later, last, rfl⟩
      · rw [List.append_nil] at hdeeds
        exact ⟨line', hdeeds ▸ hhistory.snoc hstep, .start⟩
      · rw [List.concat_eq_append, ← List.append_assoc] at hdeeds
        obtain ⟨hbefore, hlast⟩ := List.append_inj' hdeeds rfl
        obtain rfl : last = deed := by simpa using hlast
        obtain ⟨middle, hearlier, hlater⟩ := ih hbefore
        rw [List.concat_eq_append]
        exact ⟨middle, hearlier, hlater.snoc hstep⟩

/-- A history of one deed is one step. -/
theorem Link.History.single {l : Link σ} {start line : σ} {deed : Deed}
    (h : l.History start [deed] line) : l.Step start deed line := by
  generalize hdeeds : [deed] = deeds at h
  cases h with
  | start => cases hdeeds
  | @snoc earlier _ _ last hhistory hstep =>
      cases hhistory with
      | start =>
          obtain rfl : deed = last := by simpa using hdeeds
          exact hstep
      | snoc =>
          have hlength := congrArg List.length hdeeds
          simp at hlength

/-- Every deed of a history was one step, from what came before to what came after. -/
theorem Link.History.visits {l : Link σ} {start line : σ} {earlier later : List Deed} {deed : Deed}
    (h : l.History start (earlier ++ deed :: later) line) :
    ∃ before after, l.History start earlier before ∧ l.Step before deed after ∧
      l.History after later line := by
  obtain ⟨before, hearlier, hrest⟩ := h.split
  have hrest : l.History before ([deed] ++ later) line := hrest
  obtain ⟨after, hdeed, hlater⟩ := hrest.split
  exact ⟨before, after, hearlier, hdeed.single, hlater⟩

/-- A line that went through something since its start. -/
structure Link.Past (l : Link σ) (start : σ) where
  deeds : List Deed
  line : σ
  history : l.History start deeds line

/-! ## Uses of a robot -/

/-- A program that injects nothing. Calls that it makes as a callback are refused, so it does not
matter what their own callbacks would do. -/
inductive Program.Peaceful : {α : Type} → Program μ α → Prop
  | done {α : Type} (a : α) : Peaceful (done a)
  | recollect {α : Type} {next : μ → Program μ α} :
      (∀ memory, Peaceful (next memory)) → Peaceful (recollect next)
  | remember {α : Type} (memory : μ) {next : Program μ α} :
      Peaceful next → Peaceful (remember memory next)
  | inspect {α : Type} {next : View → Program μ α} :
      (∀ view, Peaceful (next view)) → Peaceful (inspect next)
  | call {α β : Type} (use : ProgramUse μ β) {next : Except RobotError β → Program μ α} :
      (∀ result, Peaceful (next result)) → Peaceful (call use next)

/-- A peaceful callback leaves the line alone. -/
theorem Program.Peaceful.keeps_line {program : Program μ α} (h : program.Peaceful) (r : Robot σ)
    (limit : Nat) (P : σ → Prop) : Maintains (Along P none) (program.run r limit) := by
  induction h with
  | done a => exact .pure a
  | recollect _ ih => exact fun s hs => ih s.memory s hs
  | remember memory _ ih => exact fun s hs => ih _ hs
  | inspect _ ih => exact fun s hs => ih (s.view r) s hs
  | call use _ ih =>
      intro s hs
      have hrun := use.run_busy r limit hs.1
      show Along P none (Task.after (Program.run r limit (Program.call use _)) s)
      rw [Program.run_call]
      unfold Task.after
      rw [bind_of_ok hrun]
      exact ih _ (s.refused use.kind) hs

/-- The calls over a traced line are the history of the line. -/
def Recorded (l : Link σ) (start : σ) (t : Traced σ) : Prop :=
  l.History start (t.trace.map .called) t.line

theorem Recorded.step {l : Link σ} {start line : σ} {t : Traced σ} {call : Call}
    (h : Recorded l start t) (hstep : l.Step t.line (.called call) line) :
    Recorded l start ⟨line, t.trace ++ [call]⟩ := by
  show l.History start ((t.trace ++ [call]).map .called) line
  rw [List.map_append]
  exact .snoc h hstep

/-- A driver makes history with every call. -/
theorem recorded_upkeep (d : Driver σ) (start : σ) :
    Upkeep (μ := μ) d.traced (Along (Recorded d.link start)) :=
  along_upkeep d.traced (fun _ ht => ht.step (.receive d.timing.receiveTimeout))
    (fun c _ _ ht => ht.step (.send c)) fun q _ ht => ht.step (.request q d.timing.requestTimeout)

/-- The calls of a use with peaceful callbacks are what the line went through. -/
theorem use_history (r : Robot σ) (limit : Nat) {use : ProgramUse μ α}
    (huse : use.Each Program.Peaceful) (s : Station σ μ) :
    r.driver.link.History s.line ((use.trace r limit s).map .called)
      (Task.after (use.traced r limit) s.traced).line.line := by
  have hprograms : (use.mapTask (Program.run r.traced limit)).Each
      (Maintains (Along (Recorded r.driver.link s.line) none)) :=
    TaskUse.each_of_program huse fun program h => h.keeps_line r.traced limit _
  have hcalls := hprograms.noting fun call t hcall ht => .bind ht fun answer =>
    .bind (.modify fun s' hs => ⟨hs.1, hs.2.step (.callback _ (hcall answer))⟩) fun _ =>
      .pure answer
  have hsettled : Settled _ (use.traced r limit s.traced) :=
    (recorded_upkeep r.driver s.line).use_settles (r := r.traced) limit (along_enclosure _ _) hcalls
      .start
  exact hsettled.kept

end ArmControl
