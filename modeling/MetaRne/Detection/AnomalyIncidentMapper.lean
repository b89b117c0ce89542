/-
# From anomalies to incident candidates

`detection/anomaly_incident_mapper.py`.  The resource of a BGP incident has one
format, which recovery uses too.
-/

import MetaRne.Domain.Incident

namespace MetaRne
namespace AnomalyIncidentMapper

open Python

/-- `bgp_down_affected_resource`. -/
def bgpDownAffectedResource (neighborIp : String) : String := "bgp-neighbor:" ++ neighborIp

/-- A candidate of an anomaly, with what its rule decides. -/
def candidate (anomaly : Anomaly) (affectedResource : String) (severity : Severity)
    (recommendation : String) : Except Error IncidentCandidate :=
  IncidentCandidate.new anomaly.deviceId .anomaly anomaly.ruleId.value affectedResource severity
    (.rule anomaly.evidence) recommendation (.utc anomaly.detectedAt)

/-- `AnomalyIncidentMapper.build_candidate`. -/
def buildCandidate (anomaly : Anomaly) : Except Error IncidentCandidate :=
  match anomaly.ruleId, anomaly.evidence with
  | .cpuHigh, .cpuHigh _ =>
    candidate anomaly "device" .high
      ("Investigate sustained high CPU utilization on " ++ anomaly.deviceId ++ ".")
  | .linkFlap, .linkFlap evidence =>
    candidate anomaly ("interface:" ++ evidence.interfaceName) .high
      ("Investigate unstable link state on " ++ anomaly.deviceId ++ " interface " ++
        evidence.interfaceName ++ ".")
  | .bgpDown, .bgpDown evidence =>
    candidate anomaly (bgpDownAffectedResource evidence.neighborIp) .critical
      ("Investigate BGP session down on " ++ anomaly.deviceId ++ " neighbor " ++
        evidence.neighborIp ++ ".")
  | ruleId, evidence =>
    .error (.valueError "AnomalyIncidentMapper: %s requires %s, got %s"
      [ruleId.value, ruleId.evidenceTypeName, evidence.ruleId.evidenceTypeName])

/-- The resource of an anomaly. -/
def affectedResource (anomaly : Anomaly) : String :=
  match anomaly.evidence with
  | .cpuHigh _ => "device"
  | .linkFlap evidence => "interface:" ++ evidence.interfaceName
  | .bgpDown evidence => bgpDownAffectedResource evidence.neighborIp

/-- What an anomaly is about. -/
def key (anomaly : Anomaly) : FindingKey :=
  ⟨anomaly.deviceId, .anomaly, anomaly.ruleId.value, affectedResource anomaly⟩

theorem not_isBlank_bgpDownAffectedResource (neighborIp : String) :
    isBlank (bgpDownAffectedResource neighborIp) = false :=
  isBlank_append_of_left (by decide) neighborIp

theorem bgpDownAffectedResource_injective : Function.Injective bgpDownAffectedResource := by
  intro a b h
  rwa [bgpDownAffectedResource, bgpDownAffectedResource, String.append_right_inj] at h

/-- A candidate is built from its parts when none is blank. -/
theorem candidate_eq_ok {anomaly : Anomaly} {affectedResource : String} {severity : Severity}
    {recommendation : String} (ha : isBlank affectedResource = false)
    (hr : isBlank recommendation = false) :
    candidate anomaly affectedResource severity recommendation =
      .ok ⟨anomaly.deviceId, .anomaly, anomaly.ruleId.value, affectedResource, severity,
        .rule anomaly.evidence, recommendation, anomaly.detectedAt, anomaly.deviceId_not_blank,
        anomaly.ruleId.not_isBlank_value, ha, hr⟩ := by
  rw [candidate, IncidentCandidate.new, requireNonEmpty_eq_ok (h := ⟨anomaly.deviceId_not_blank⟩),
    requireNonEmpty_eq_ok (h := ⟨anomaly.ruleId.not_isBlank_value⟩),
    requireNonEmpty_eq_ok (h := ⟨ha⟩), requireNonEmpty_eq_ok (h := ⟨hr⟩), requireUtc_utc]
  rfl

/-- **Every anomaly becomes a candidate**, observed when it was detected, about
its own key and with its own evidence. -/
theorem buildCandidate_eq_ok (anomaly : Anomaly) :
    ∃ c, buildCandidate anomaly = .ok c ∧ c.key = key anomaly ∧
      c.evidence = .rule anomaly.evidence ∧ c.observedAt = anomaly.detectedAt := by
  obtain ⟨deviceId, ruleId, evidence, detectedAt, hid, rfl⟩ := anomaly
  cases evidence with
  | cpuHigh evidence =>
      refine ⟨_, candidate_eq_ok (by decide) ?_, rfl, rfl, rfl⟩
      rw [String.append_assoc]
      exact isBlank_append_of_left (by decide) _
  | linkFlap evidence =>
      refine ⟨_, candidate_eq_ok (isBlank_append_of_left (by decide) _) ?_, rfl, rfl, rfl⟩
      simp only [String.append_assoc]
      exact isBlank_append_of_left (by decide) _
  | bgpDown evidence =>
      refine ⟨_, candidate_eq_ok (not_isBlank_bgpDownAffectedResource _) ?_, rfl, rfl, rfl⟩
      simp only [String.append_assoc]
      exact isBlank_append_of_left (by decide) _

end AnomalyIncidentMapper
end MetaRne
