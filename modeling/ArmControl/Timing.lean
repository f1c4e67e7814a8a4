import ArmControl.Error.Driver
import ArmControl.Text.Structured

/-!
# Timing configuration

How long a control cycle is, how late a state may be, and how long a request may take. The setters
take any duration and keep its whole units, up to the greatest 64-bit number.
-/

namespace ArmControl

/-- The times that a driver works with. -/
structure Timing where
  controlPeriodUs : UInt64 := 1000
  jitterToleranceUs : UInt64 := 1000
  requestTimeoutMs : UInt64 := 5000
deriving DecidableEq

namespace Timing

instance : Inhabited Timing := ⟨{}⟩

/-- The greatest control period and the greatest jitter tolerance, one second. -/
def maxCycleUs : UInt64 := 1000000

/-- A number of units, or the greatest 64-bit number if there are more. -/
def saturated (n : Nat) : UInt64 := UInt64.ofNat (min n (UInt64.size - 1))

/-- The sum, or the greatest 64-bit number if the sum is greater. -/
def saturatingAdd (a b : UInt64) : UInt64 := saturated (a.toNat + b.toNat)

/-- Sets the control period to the whole microseconds of a duration. -/
def withControlPeriod (t : Timing) (period : Duration) : Timing :=
  { t with controlPeriodUs := saturated period.micros }

/-- Sets the jitter tolerance to the whole microseconds of a duration. -/
def withJitterTolerance (t : Timing) (jitter : Duration) : Timing :=
  { t with jitterToleranceUs := saturated jitter.micros }

/-- Sets the request timeout to the whole milliseconds of a duration. -/
def withRequestTimeout (t : Timing) (timeout : Duration) : Timing :=
  { t with requestTimeoutMs := saturated timeout.millis }

/-- How long a control cycle nominally is. -/
def controlPeriod (t : Timing) : Duration := .ofMicros t.controlPeriodUs

/-- How long to wait for a state: one period and the jitter that is tolerated. -/
def receiveTimeout (t : Timing) : Duration :=
  .ofMicros (saturatingAdd t.controlPeriodUs t.jitterToleranceUs)

/-- How long to wait for a response. -/
def requestTimeout (t : Timing) : Duration := .ofMillis t.requestTimeoutMs

/-- Accepts times that a driver can work with. -/
def check (t : Timing) : Except TimingFault Unit :=
  if t.controlPeriodUs = 0 then .error .zeroPeriod
  else if t.controlPeriodUs > maxCycleUs then .error (.longPeriod t.controlPeriodUs maxCycleUs)
  else if t.jitterToleranceUs > maxCycleUs then
    .error (.longJitter t.jitterToleranceUs maxCycleUs)
  else if t.requestTimeoutMs = 0 then .error .zeroRequestTimeout
  else .ok ()

/-- Accepts times that a driver can work with, as a driver reports it. -/
def validate (t : Timing) : Except DriverError Unit := t.check.mapError .invalidConfig

/-- The times as a record. -/
def structured (t : Timing) : String :=
  recordText "DriverConfig"
    [("control_period_us", toString t.controlPeriodUs),
      ("jitter_tolerance_us", toString t.jitterToleranceUs),
      ("request_timeout_ms", toString t.requestTimeoutMs)]

end Timing

end ArmControl
