import ArmControl.Link.Prepared
import ArmControl.Robot.Basic
import ArmControl.Toml.Settings

/-!
# Times that can be used

A driver can work with a control period from one microsecond to one second, a jitter of at most one
second and a request timeout of at least one millisecond. `timing_is_judged_alike` is the main
theorem: whoever is given the times, be it a driver, a robot or a configuration text, accepts
exactly these, waits for a state for the period and the jitter together, and each setter keeps the
whole units of a duration.
-/

namespace ArmControl

/-! ## Words of 64 bits -/

theorem saturated_toNat (n : Nat) :
    (Timing.saturated n).toNat = min n (UInt64.size - 1) := by
  have hword : min n (UInt64.size - 1) < UInt64.size :=
    Nat.lt_of_le_of_lt (Nat.min_le_right _ _) (by decide)
  exact UInt64.toNat_ofNat_of_lt' hword

theorem one_le_saturated_iff {n : Nat} : 1 ≤ (Timing.saturated n).toNat ↔ 1 ≤ n := by
  have hsize : 1 ≤ UInt64.size - 1 := by decide
  rw [saturated_toNat]
  omega

theorem saturated_le_iff {n bound : Nat} (h : bound < UInt64.size - 1) :
    (Timing.saturated n).toNat ≤ bound ↔ n ≤ bound := by
  rw [saturated_toNat]
  omega

namespace Timing

/-! ## Times that are accepted -/

/-- Whether a driver can work with the times. -/
structure Usable (t : Timing) : Prop where
  some_period : 1 ≤ t.controlPeriodUs.toNat
  short_period : t.controlPeriodUs.toNat ≤ 1000000
  short_jitter : t.jitterToleranceUs.toNat ≤ 1000000
  some_timeout : 1 ≤ t.requestTimeoutMs.toNat

/-- What a fault says of the times. -/
inductive Breach (t : Timing) : TimingFault → Prop
  | zeroPeriod : t.controlPeriodUs.toNat = 0 → Breach t .zeroPeriod
  | longPeriod : 1000000 < t.controlPeriodUs.toNat →
      Breach t (.longPeriod t.controlPeriodUs maxCycleUs)
  | longJitter : 1000000 < t.jitterToleranceUs.toNat →
      Breach t (.longJitter t.jitterToleranceUs maxCycleUs)
  | zeroRequestTimeout : t.requestTimeoutMs.toNat = 0 → Breach t .zeroRequestTimeout

theorem Breach.not_usable {t : Timing} {fault : TimingFault} (h : t.Breach fault) :
    ¬ t.Usable := by
  intro husable
  have := husable.some_period
  have := husable.short_period
  have := husable.short_jitter
  have := husable.some_timeout
  cases h <;> omega

/-- The check passes times that can be used, and names a bound that others break. -/
theorem check_usable (t : Timing) :
    (t.check = .ok () ∧ t.Usable) ∨ ∃ fault, t.check = .error fault ∧ t.Breach fault := by
  unfold check
  by_cases hzero : t.controlPeriodUs = 0
  · rw [if_pos hzero]
    exact .inr ⟨_, rfl, .zeroPeriod (congrArg UInt64.toNat hzero)⟩
  rw [if_neg hzero]
  by_cases hlong : t.controlPeriodUs > maxCycleUs
  · rw [if_pos hlong]
    exact .inr ⟨_, rfl, .longPeriod (UInt64.lt_iff_toNat_lt.mp hlong)⟩
  rw [if_neg hlong]
  by_cases hjitter : t.jitterToleranceUs > maxCycleUs
  · rw [if_pos hjitter]
    exact .inr ⟨_, rfl, .longJitter (UInt64.lt_iff_toNat_lt.mp hjitter)⟩
  rw [if_neg hjitter]
  by_cases htimeout : t.requestTimeoutMs = 0
  · rw [if_pos htimeout]
    exact .inr ⟨_, rfl, .zeroRequestTimeout (congrArg UInt64.toNat htimeout)⟩
  rw [if_neg htimeout]
  refine .inl ⟨rfl, ?_, ?_, ?_, ?_⟩
  · exact Nat.pos_of_ne_zero fun h => hzero (UInt64.toNat_inj.mp h)
  · exact UInt64.le_iff_toNat_le.mp (UInt64.not_lt.mp hlong)
  · exact UInt64.le_iff_toNat_le.mp (UInt64.not_lt.mp hjitter)
  · exact Nat.pos_of_ne_zero fun h => htimeout (UInt64.toNat_inj.mp h)

theorem validate_ok_iff (t : Timing) : t.validate = .ok () ↔ t.Usable := by
  unfold validate
  obtain ⟨hcheck, husable⟩ | ⟨fault, hcheck, hbreach⟩ := t.check_usable
  · rw [hcheck]
    exact iff_of_true rfl husable
  · rw [hcheck]
    exact iff_of_false (by intro h; cases h) hbreach.not_usable

/-! ## Setting times -/

/-- A word holds the whole units of a duration, or as many as it can. -/
structure Rounds (d : Duration) (unit : Nat) (stored : UInt64) (back : Duration) : Prop where
  stored : stored.toNat = min (d.nanos / unit) (UInt64.size - 1)
  at_most : back ≤ d
  close : d.nanos / unit < UInt64.size → d.nanos < back.nanos + unit

theorem rounds_saturated (d : Duration) {unit : Nat} (hunit : 0 < unit) {back : Duration}
    (hback : back.nanos = (saturated (d.nanos / unit)).toNat * unit) :
    Rounds d unit (saturated (d.nanos / unit)) back := by
  have hstored := saturated_toNat (d.nanos / unit)
  have hdivides := Nat.div_add_mod d.nanos unit
  have hrest := Nat.mod_lt d.nanos hunit
  refine ⟨hstored, ?_, fun hfits => ?_⟩
  · show back.nanos ≤ d.nanos
    rw [hback, hstored]
    calc min (d.nanos / unit) (UInt64.size - 1) * unit ≤ d.nanos / unit * unit :=
          Nat.mul_le_mul_right unit (Nat.min_le_left _ _)
      _ ≤ d.nanos := Nat.div_mul_le_self _ _
  · rw [hback, hstored, Nat.min_eq_left (by omega), Nat.mul_comm]
    omega

theorem validate_ok_iff_bounds (t : Timing) : t.validate = .ok () ↔
    (1 ≤ t.controlPeriodUs.toNat ∧ t.controlPeriodUs.toNat ≤ 1000000) ∧
      t.jitterToleranceUs.toNat ≤ 1000000 ∧ 1 ≤ t.requestTimeoutMs.toNat := by
  rw [validate_ok_iff]
  constructor
  · exact fun h => ⟨⟨h.some_period, h.short_period⟩, h.short_jitter, h.some_timeout⟩
  · exact fun ⟨⟨hsome, hshort⟩, hjitter, htimeout⟩ => ⟨hsome, hshort, hjitter, htimeout⟩

/-- The whole microseconds are few enough when the duration is less than one more than a second. -/
theorem micros_le_iff (d : Duration) :
    (saturated d.micros).toNat ≤ 1000000 ↔ d.nanos < 1000001000 := by
  rw [saturated_le_iff (by decide), Duration.micros]
  omega

/-- A period is accepted from one microsecond up to, but not including, one more than a second. -/
theorem with_control_period_ok_iff (t : Timing) (d : Duration) :
    (t.withControlPeriod d).validate = .ok () ↔ (1000 ≤ d.nanos ∧ d.nanos < 1000001000) ∧
      t.jitterToleranceUs.toNat ≤ 1000000 ∧ 1 ≤ t.requestTimeoutMs.toNat := by
  have hsome : 1 ≤ (saturated d.micros).toNat ↔ 1000 ≤ d.nanos := by
    rw [one_le_saturated_iff, Duration.micros]
    omega
  rw [validate_ok_iff_bounds]
  exact and_congr (and_congr hsome (micros_le_iff d)) Iff.rfl

theorem with_jitter_tolerance_ok_iff (t : Timing) (d : Duration) :
    (t.withJitterTolerance d).validate = .ok () ↔
      (1 ≤ t.controlPeriodUs.toNat ∧ t.controlPeriodUs.toNat ≤ 1000000) ∧
        d.nanos < 1000001000 ∧ 1 ≤ t.requestTimeoutMs.toNat := by
  rw [validate_ok_iff_bounds]
  exact and_congr Iff.rfl (and_congr (micros_le_iff d) Iff.rfl)

theorem with_request_timeout_ok_iff (t : Timing) (d : Duration) :
    (t.withRequestTimeout d).validate = .ok () ↔
      (1 ≤ t.controlPeriodUs.toNat ∧ t.controlPeriodUs.toNat ≤ 1000000) ∧
        t.jitterToleranceUs.toNat ≤ 1000000 ∧ 1000000 ≤ d.nanos := by
  have hsome : 1 ≤ (saturated d.millis).toNat ↔ 1000000 ≤ d.nanos := by
    rw [one_le_saturated_iff, Duration.millis]
    omega
  rw [validate_ok_iff_bounds]
  exact and_congr Iff.rfl (and_congr Iff.rfl hsome)

/-! ## Waiting for a state -/

/-- However great the times are, the wait is a number of microseconds that fits in a word. -/
theorem receive_timeout_nanos (t : Timing) : t.receiveTimeout.nanos =
    min (t.controlPeriodUs.toNat + t.jitterToleranceUs.toNat) (UInt64.size - 1) * 1000 :=
  congrArg (· * 1000) (saturated_toNat _)

theorem Usable.receive_timeout_exact {t : Timing} (h : t.Usable) : t.receiveTimeout.nanos =
    (t.controlPeriodUs.toNat + t.jitterToleranceUs.toNat) * 1000 := by
  have hsum : t.controlPeriodUs.toNat + t.jitterToleranceUs.toNat ≤ 2000000 :=
    Nat.add_le_add h.short_period h.short_jitter
  rw [receive_timeout_nanos, Nat.min_eq_left (Nat.le_trans hsum (by decide))]

/-- A wait covers the period and the jitter, and is two seconds long at most. -/
structure Waits (t : Timing) : Prop where
  exact : t.receiveTimeout.nanos = t.controlPeriod.nanos + t.jitterToleranceUs.toNat * 1000
  at_least : t.controlPeriod ≤ t.receiveTimeout
  at_most : t.receiveTimeout.nanos ≤ 2000000000

theorem Usable.waits {t : Timing} (h : t.Usable) : t.Waits := by
  have hexact := h.receive_timeout_exact
  have hperiod : t.controlPeriod.nanos = t.controlPeriodUs.toNat * 1000 := rfl
  have := h.short_period
  have := h.short_jitter
  refine ⟨?_, ?_, ?_⟩
  · rw [hexact, hperiod, Nat.add_mul]
  · show t.controlPeriod.nanos ≤ t.receiveTimeout.nanos
    rw [hexact, hperiod]
    omega
  · rw [hexact]
    omega

end Timing

/-! ## Who judges the times -/

namespace Settings

/-- A text that gives the settings when it is read in this way. Whether they can be used is left
open. -/
def Written (read : String → Option Settings) (settings : Settings) (text : String) : Prop :=
  read text = some settings

/-- What is written is then judged. -/
theorem Written.judged {read : String → Option Settings} {settings : Settings} {text : String}
    (h : Written read settings text) :
    ofText read text = settings.validate.mapError .invalid >>= fun _ => pure settings := by
  rw [ofText, h]

variable {σ μ : Type}

/-- Whoever is given the settings accepts them. -/
structure Accepted (settings : Settings) (link : Link σ) (priority : Except String Unit)
    (read : String → Option Settings) (text : String) (s : Station σ μ) : Prop where
  times : settings.timing.validate = .ok ()
  driver : ∃ s', Driver.connect link settings.timing s =
    .ok (.ok ⟨link, settings.timing, link.version s.line⟩) s'
  robot : ∃ s', Robot.connect link settings priority s =
    .ok (.ok ⟨⟨link, settings.timing, link.version s.line⟩, settings, priority⟩) s'
  text : Written read settings text → ofText read text = .ok settings

/-- Whoever is given the settings refuses them, for a bound that they break. Nothing else
happens. -/
structure Refused (settings : Settings) (link : Link σ) (priority : Except String Unit)
    (read : String → Option Settings) (text : String) (s : Station σ μ) (fault : TimingFault) :
    Prop where
  breach : settings.timing.Breach fault
  times : settings.timing.validate = .error (.invalidConfig fault)
  driver : Driver.connect link settings.timing s = .ok (.error (.invalidConfig fault)) s
  robot : Robot.connect link settings priority s =
    .ok (.error (.invalidArgument "config" fault.message)) s
  text : Written read settings text →
    ofText read text = .error (.invalid (.invalidArgument "config" fault.message))

variable (settings : Settings) (link : Link σ) (priority : Except String Unit)
  (read : String → Option Settings) (text : String) (s : Station σ μ)

theorem accepted_of_check (h : settings.timing.check = .ok ()) :
    settings.Accepted link priority read text s := by
  have htimes : settings.timing.validate = .ok () := by
    rw [Timing.validate, h]
    rfl
  have hvalid : settings.validate = .ok () := by
    rw [validate, htimes]
    rfl
  have hdriver : ∃ s', Driver.connect link settings.timing s =
      .ok (.ok ⟨link, settings.timing, link.version s.line⟩) s' := by
    unfold Driver.connect
    rw [htimes]
    exact ⟨_, rfl⟩
  refine ⟨htimes, hdriver, ?_, fun hwritten => ?_⟩
  · unfold Robot.connect Driver.connect
    rw [hvalid, htimes]
    exact ⟨_, rfl⟩
  · rw [hwritten.judged, hvalid]
    rfl

theorem refused_of_check {fault : TimingFault} (h : settings.timing.check = .error fault)
    (hbreach : settings.timing.Breach fault) :
    settings.Refused link priority read text s fault := by
  have htimes : settings.timing.validate = .error (.invalidConfig fault) := by
    rw [Timing.validate, h]
    rfl
  have hvalid : settings.validate = .error (.invalidArgument "config" fault.message) := by
    rw [validate, htimes]
    rfl
  refine ⟨hbreach, htimes, ?_, ?_, fun hwritten => ?_⟩
  · unfold Driver.connect
    rw [htimes]
    rfl
  · unfold Robot.connect
    rw [hvalid]
    rfl
  · rw [hwritten.judged, hvalid]
    rfl

/-- A driver, a robot and a text accept the same times, which are those that can be used, and the
robot and the text refuse any others as an invalid argument. The text may be in any language; one
that is read with `Toml.settings?` is judged by `ofToml`. The driver then waits for exactly the
period and the jitter, and with any other times for no longer than a word of microseconds. Setting a
time keeps the whole units of a duration, and when the other times can be used the outcome is
accepted for a period from one microsecond up to less than one more than a second, for a jitter
below the same bound, and for a request timeout from one millisecond. -/
theorem timing_is_judged_alike (t : Timing) (d : Duration) :
    (settings.timing.Usable ∧ settings.Accepted link priority read text s ∨
      ¬ settings.timing.Usable ∧ ∃ fault, settings.Refused link priority read text s fault) ∧
    (t.Usable → t.Waits) ∧
    t.receiveTimeout.nanos =
      min (t.controlPeriodUs.toNat + t.jitterToleranceUs.toNat) (UInt64.size - 1) * 1000 ∧
    Timing.Rounds d 1000 (t.withControlPeriod d).controlPeriodUs
      (t.withControlPeriod d).controlPeriod ∧
    Timing.Rounds d 1000 (t.withJitterTolerance d).jitterToleranceUs
      (.ofMicros (t.withJitterTolerance d).jitterToleranceUs) ∧
    Timing.Rounds d 1000000 (t.withRequestTimeout d).requestTimeoutMs
      (t.withRequestTimeout d).requestTimeout ∧
    ((t.withControlPeriod d).validate = .ok () ↔ (1000 ≤ d.nanos ∧ d.nanos < 1000001000) ∧
      t.jitterToleranceUs.toNat ≤ 1000000 ∧ 1 ≤ t.requestTimeoutMs.toNat) ∧
    ((t.withJitterTolerance d).validate = .ok () ↔
      (1 ≤ t.controlPeriodUs.toNat ∧ t.controlPeriodUs.toNat ≤ 1000000) ∧
        d.nanos < 1000001000 ∧ 1 ≤ t.requestTimeoutMs.toNat) ∧
    ((t.withRequestTimeout d).validate = .ok () ↔
      (1 ≤ t.controlPeriodUs.toNat ∧ t.controlPeriodUs.toNat ≤ 1000000) ∧
        t.jitterToleranceUs.toNat ≤ 1000000 ∧ 1000000 ≤ d.nanos) := by
  refine ⟨?_, Timing.Usable.waits, t.receive_timeout_nanos,
    Timing.rounds_saturated d (by decide) rfl, Timing.rounds_saturated d (by decide) rfl,
    Timing.rounds_saturated d (by decide) rfl, t.with_control_period_ok_iff d,
    t.with_jitter_tolerance_ok_iff d, t.with_request_timeout_ok_iff d⟩
  obtain ⟨hcheck, husable⟩ | ⟨fault, hcheck, hbreach⟩ := settings.timing.check_usable
  · exact .inl ⟨husable, settings.accepted_of_check link priority read text s hcheck⟩
  · exact .inr ⟨hbreach.not_usable, fault,
      settings.refused_of_check link priority read text s hcheck hbreach⟩

/-- A text that asks for a quarter of a millisecond is accepted, and one that asks for no period at
all is refused. -/
theorem written_periods_are_judged :
    let quarter : Settings := { timing := { controlPeriodUs := 250 } }
    let none : Settings := { timing := { controlPeriodUs := 0 } }
    Written Toml.settings? quarter "[driver]\ncontrol_period_us = 250\n" ∧
      ofToml "[driver]\ncontrol_period_us = 250\n" = .ok quarter ∧ quarter.timing.Waits ∧
      Written Toml.settings? none "driver = [0]\n" ∧
      ∃ fault, none.timing.Breach fault ∧
        ofToml "driver = [0]\n" = .error (.invalid (.invalidArgument "config" fault.message)) := by
  intro quarter none
  have hquarter : Written Toml.settings? quarter "[driver]\ncontrol_period_us = 250\n" := by
    unfold Written
    decide +kernel
  have hnone : Written Toml.settings? none "driver = [0]\n" := by
    unfold Written
    decide +kernel
  have hzero : none.timing.Breach .zeroPeriod := .zeroPeriod rfl
  have husable : quarter.timing.Usable := ⟨by decide, by decide, by decide, by decide⟩
  have hfirst := timing_is_judged_alike quarter Prepared.link (.ok ()) Toml.settings?
    "[driver]\ncontrol_period_us = 250\n" { line := {}, memory := () } quarter.timing .zero
  have hsecond := timing_is_judged_alike none Prepared.link (.ok ()) Toml.settings?
    "driver = [0]\n" { line := {}, memory := () } none.timing .zero
  obtain ⟨⟨-, haccepted⟩ | ⟨hnot, -⟩, hwaits, -⟩ := hfirst
  · obtain ⟨⟨hyes, -⟩ | ⟨-, fault, hrefused⟩, -⟩ := hsecond
    · exact absurd hyes hzero.not_usable
    · exact ⟨hquarter, haccepted.text hquarter, hwaits husable, hnone, fault, hrefused.breach,
        hrefused.text hnone⟩
  · exact absurd husable hnot

end Settings

end ArmControl
