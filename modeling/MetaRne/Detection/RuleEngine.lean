/-
# The telemetry rules

`detection/rule_engine.py`: three rules over a list of samples, in the order the
caller gives them.

* `RULE-CPU-HIGH`: the last two samples of a device are above 90 percent.
* `RULE-LINK-FLAP`: the last four state changes of an interface lie within a
  minute, in order.
* `RULE-BGP-DOWN`: of the last two observations of a neighbour the first is not
  down and the second is.
-/

import Mathlib.Data.List.DropRight
import MetaRne.Domain.Anomaly
import MetaRne.Library.Dict

namespace MetaRne
namespace RuleEngine

open Library Python

/-- `_CPU_HIGH_THRESHOLD_PCT`. -/
def cpuHighThresholdPct : PyFloat := .finite 90

/-- `_LINK_FLAP_TRANSITION_COUNT`. -/
def linkFlapTransitionCount : ℕ := 4

/-- `_LINK_FLAP_WINDOW`: a minute. -/
def linkFlapWindow : ℕ := 60000000

/-- `_BGP_NON_DOWN_STATES`. -/
def bgpNonDownStates : List BgpState := [.established, .connect, .openSent, .openConfirm]

/-- `_samples_by_device_in_encounter_order`. -/
def samplesByDevice (samples : List TelemetrySample) : Dict String (List TelemetrySample) :=
  Dict.group (samples.map fun sample => (sample.deviceId, sample))

/-- `_evaluate_cpu_high`. -/
def evaluateCpuHigh (observedAt : Datetime) (deviceSamples : List TelemetrySample) :
    Except Error (Option Anomaly) :=
  match deviceSamples.rtake 2 with
  | [previous, current] =>
    if [previous, current].all fun sample => cpuHighThresholdPct.lt sample.cpuUtilizationPct then
      some <$> Anomaly.new previous.deviceId .cpuHigh
        (.cpuHigh ⟨[previous, current].map fun sample =>
          ⟨sample.sampledAt, sample.cpuUtilizationPct⟩⟩) observedAt
    else .ok none
  | _ => .ok none

/-- `_interface_observations_by_resource`. -/
def interfaceObservations (samples : List TelemetrySample) :
    Dict (String × String) (List (Timestamp × LinkState)) :=
  Dict.group (samples.flatMap fun sample => sample.interfaceStates.map fun state =>
    ((sample.deviceId, state.name), (sample.sampledAt, state.operState)))

/-- The state changes after a state. -/
def transitionsFrom (previousState : LinkState) :
    List (Timestamp × LinkState) → List InterfaceTransitionEvidence
  | [] => []
  | (timestamp, state) :: rest =>
    if state ≠ previousState then ⟨timestamp, state⟩ :: transitionsFrom state rest
    else transitionsFrom state rest

/-- `_transitions_for_resource`: the first state observed is no change. -/
def transitionsForResource : List (Timestamp × LinkState) → List InterfaceTransitionEvidence
  | [] => []
  | (_, state) :: rest => transitionsFrom state rest

/-- `all(timestamps[i] <= timestamps[i + 1] ...)`. -/
def isNondecreasing (timestamps : List Timestamp) : Bool :=
  (timestamps.zip timestamps.tail).all fun (t, u) => t ≤ u

/-- `_evaluate_link_flap`. -/
def evaluateLinkFlap (observedAt : Datetime) (deviceId interfaceName : String)
    (observations : List (Timestamp × LinkState)) : Except Error (Option Anomaly) :=
  let transitions := transitionsForResource observations
  if transitions.length < linkFlapTransitionCount then .ok none
  else
    let latestFour := transitions.rtake linkFlapTransitionCount
    let timestamps := latestFour.map fun transition => transition.timestamp
    if isNondecreasing timestamps = false then .ok none
    else if linkFlapWindow < timestamps.getLastD 0 - timestamps.headD 0 then .ok none
    else some <$> Anomaly.new deviceId .linkFlap (.linkFlap ⟨interfaceName, latestFour⟩) observedAt

/-- `_bgp_observations_by_resource`. -/
def bgpObservations (samples : List TelemetrySample) :
    Dict (String × String) (List (Timestamp × BgpState)) :=
  Dict.group (samples.flatMap fun sample => sample.bgpSessions.map fun session =>
    ((sample.deviceId, session.neighborIp), (sample.sampledAt, session.state)))

/-- `_evaluate_bgp_down`. -/
def evaluateBgpDown (observedAt : Datetime) (deviceId neighborIp : String)
    (observations : List (Timestamp × BgpState)) : Except Error (Option Anomaly) :=
  match observations.rtake 2 with
  | [(previousTimestamp, previousState), (currentTimestamp, currentState)] =>
    if currentTimestamp < previousTimestamp then .ok none
    else if previousState ∉ bgpNonDownStates then .ok none
    else if currentState ∉ bgpDownStates then .ok none
    else some <$> Anomaly.new deviceId .bgpDown
      (.bgpDown ⟨neighborIp, currentState, some previousState⟩) observedAt
  | _ => .ok none

/-- `RuleEngine.evaluate`. -/
def evaluate (observedAt : Datetime) (recentSamples : List TelemetrySample) :
    Except Error (List Anomaly) := do
  let _ ← requireUtc observedAt "observed_at"
  let cpu ← (samplesByDevice recentSamples).values.mapM fun deviceSamples =>
    evaluateCpuHigh observedAt deviceSamples
  let flaps ← (interfaceObservations recentSamples).entries.mapM
    fun ((deviceId, interfaceName), observations) =>
      evaluateLinkFlap observedAt deviceId interfaceName observations
  let downs ← (bgpObservations recentSamples).entries.mapM
    fun ((deviceId, neighborIp), observations) =>
      evaluateBgpDown observedAt deviceId neighborIp observations
  return (cpu ++ flaps ++ downs).filterMap id

end RuleEngine
end MetaRne
