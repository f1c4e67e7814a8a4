/-!
# Metrics

Counters of what a driver and its sessions have done. Each counter is a 64-bit number that starts
again at zero past its greatest value.
-/

namespace ArmControl

/-- What has been counted. -/
structure Metrics where
  statesReceived : UInt64 := 0
  commandsSent : UInt64 := 0
  receiveTimeouts : UInt64 := 0
  transportErrors : UInt64 := 0
  requestsSent : UInt64 := 0
  requestsRejected : UInt64 := 0
  sessionsStarted : UInt64 := 0
  sessionsReleased : UInt64 := 0
  sessionsRejected : UInt64 := 0
  controlFaults : UInt64 := 0
  numericFaults : UInt64 := 0
deriving DecidableEq

namespace Metrics

instance : Inhabited Metrics := ⟨{}⟩

/-- How many sessions run at the moment. -/
def activeSessions (m : Metrics) : UInt64 :=
  if m.sessionsReleased ≤ m.sessionsStarted then m.sessionsStarted - m.sessionsReleased else 0

/-- The share of requests that were rejected, in percent, and zero without any request. -/
def rejectionRate (m : Metrics) : Float :=
  if m.requestsSent = 0 then 0
  else m.requestsRejected.toFloat / m.requestsSent.toFloat * 100

end Metrics

end ArmControl
