/-
# Telemetry samples

`domain/telemetry.py`: what a device reports about itself at one instant.
-/

import MetaRne.Domain.Checks

namespace MetaRne

open Python

inductive LinkState
  | up
  | down
  deriving DecidableEq, Repr

def LinkState.value : LinkState → String
  | .up => "up"
  | .down => "down"

inductive BgpState
  | idle
  | connect
  | active
  | openSent
  | openConfirm
  | established
  deriving DecidableEq, Repr

def BgpState.value : BgpState → String
  | .idle => "Idle"
  | .connect => "Connect"
  | .active => "Active"
  | .openSent => "OpenSent"
  | .openConfirm => "OpenConfirm"
  | .established => "Established"

/-- `BGP_DOWN_STATES`: the states of a failed session.  Connect, OpenSent and
OpenConfirm are a session being negotiated. -/
def bgpDownStates : List BgpState := [.idle, .active]

structure InterfaceState where
  name : String
  operState : LinkState
  deriving DecidableEq, Repr

structure BgpSession where
  neighborIp : String
  state : BgpState
  deriving DecidableEq, Repr

/-- One sample of a device.  The names of interfaces and neighbours, and the
error rate, are not checked. -/
structure TelemetrySample where
  deviceId : String
  sampledAt : Timestamp
  cpuUtilizationPct : PyFloat
  memoryUtilizationPct : PyFloat
  interfaceErrorRate : PyFloat
  interfaceStates : List InterfaceState
  bgpSessions : List BgpSession
  deviceId_not_blank : isBlank deviceId = false
  cpu_percentage : isPercentage cpuUtilizationPct = true
  memory_percentage : isPercentage memoryUtilizationPct = true

/-- `TelemetrySample(...)`. -/
def TelemetrySample.new (deviceId : String) (sampledAt : Datetime)
    (cpuUtilizationPct memoryUtilizationPct interfaceErrorRate : PyFloat)
    (interfaceStates : List InterfaceState) (bgpSessions : List BgpSession) :
    Except Error TelemetrySample := do
  let ⟨hid⟩ ← requireNonEmpty deviceId "TelemetrySample.device_id"
  let sampledAt ← requireUtc sampledAt "TelemetrySample.sampled_at"
  let ⟨hcpu⟩ ← requirePercentage cpuUtilizationPct "TelemetrySample.cpu_utilization_pct"
  let ⟨hmem⟩ ← requirePercentage memoryUtilizationPct "TelemetrySample.memory_utilization_pct"
  return ⟨deviceId, sampledAt, cpuUtilizationPct, memoryUtilizationPct, interfaceErrorRate,
    interfaceStates, bgpSessions, hid, hcpu, hmem⟩

/-! The name and the readings of the devices in the examples of the modules that follow. -/

theorem not_isBlank_r1 : isBlank "r1" = false := by decide

theorem not_isBlank_r2 : isBlank "r2" = false := by decide

theorem isPercentage_two : isPercentage (.finite 2) = true := by decide

theorem isPercentage_three : isPercentage (.finite 3) = true := by decide

end MetaRne
