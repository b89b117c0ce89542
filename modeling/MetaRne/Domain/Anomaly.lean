/-
# Anomalies

`domain/anomaly.py`: what a rule found, with the evidence it found it in.  The
evidence is of the type its rule calls for, and every anomaly carries the proof.
-/

import MetaRne.Domain.Telemetry

namespace MetaRne

open Python

inductive RuleId
  | cpuHigh
  | linkFlap
  | bgpDown
  deriving DecidableEq, Repr

def RuleId.value : RuleId → String
  | .cpuHigh => "RULE-CPU-HIGH"
  | .linkFlap => "RULE-LINK-FLAP"
  | .bgpDown => "RULE-BGP-DOWN"

/-- `RuleId(value)`, which raises for any other string. -/
def RuleId.ofValue? (value : String) : Option RuleId :=
  [RuleId.cpuHigh, .linkFlap, .bgpDown].find? fun ruleId => ruleId.value == value

theorem RuleId.ofValue?_value (ruleId : RuleId) : RuleId.ofValue? ruleId.value = some ruleId := by
  cases ruleId <;> decide

theorem RuleId.value_of_ofValue? {value : String} {ruleId : RuleId}
    (h : RuleId.ofValue? value = some ruleId) : ruleId.value = value := by
  unfold RuleId.ofValue? at h
  have hp := List.find?_some h
  exact beq_iff_eq.1 hp

theorem RuleId.value_injective : Function.Injective RuleId.value := by
  intro a b h
  have hb := RuleId.ofValue?_value b
  rw [← h, RuleId.ofValue?_value a, Option.some.injEq] at hb
  exact hb

theorem RuleId.not_isBlank_value (ruleId : RuleId) : isBlank ruleId.value = false := by
  cases ruleId <;> decide

structure CpuSampleEvidence where
  timestamp : Timestamp
  cpuUtilizationPct : PyFloat
  deriving DecidableEq, Repr

structure CpuHighEvidence where
  samples : List CpuSampleEvidence
  deriving DecidableEq, Repr

structure InterfaceTransitionEvidence where
  timestamp : Timestamp
  operState : LinkState
  deriving DecidableEq, Repr

structure LinkFlapEvidence where
  interfaceName : String
  transitions : List InterfaceTransitionEvidence
  deriving DecidableEq, Repr

/-- `previousState` is the state seen before, or `none` where the session was
first seen already down. -/
structure BgpDownEvidence where
  neighborIp : String
  state : BgpState
  previousState : Option BgpState
  deriving DecidableEq, Repr

/-- Evidence of one of the three rules. -/
inductive RuleEvidence
  | cpuHigh (evidence : CpuHighEvidence)
  | linkFlap (evidence : LinkFlapEvidence)
  | bgpDown (evidence : BgpDownEvidence)
  deriving DecidableEq, Repr

/-- `_EVIDENCE_TYPE_BY_RULE_ID`, read backwards: the rule whose evidence this is. -/
def RuleEvidence.ruleId : RuleEvidence → RuleId
  | .cpuHigh _ => .cpuHigh
  | .linkFlap _ => .linkFlap
  | .bgpDown _ => .bgpDown

/-- The name of the evidence class of a rule. -/
def RuleId.evidenceTypeName : RuleId → String
  | .cpuHigh => "CpuHighEvidence"
  | .linkFlap => "LinkFlapEvidence"
  | .bgpDown => "BgpDownEvidence"

/-- A finding of a rule at a device. -/
structure Anomaly where
  deviceId : String
  ruleId : RuleId
  evidence : RuleEvidence
  detectedAt : Timestamp
  deviceId_not_blank : isBlank deviceId = false
  evidence_ruleId : evidence.ruleId = ruleId

/-- `Anomaly(...)`. -/
def Anomaly.new (deviceId : String) (ruleId : RuleId) (evidence : RuleEvidence)
    (detectedAt : Datetime) : Except Error Anomaly := do
  let ⟨hid⟩ ← requireNonEmpty deviceId "Anomaly.device_id"
  let detectedAt ← requireUtc detectedAt "Anomaly.detected_at"
  if h : evidence.ruleId = ruleId then
    return ⟨deviceId, ruleId, evidence, detectedAt, hid, h⟩
  else
    throw (.valueError "Anomaly.evidence must be a %s for rule_id %s, got %s"
      [ruleId.evidenceTypeName, ruleId.value, evidence.ruleId.evidenceTypeName])

/-- At a UTC instant, an anomaly of a named device and a rule's own evidence is built. -/
theorem Anomaly.new_utc {deviceId : String} {ruleId : RuleId} {evidence : RuleEvidence}
    {detectedAt : Timestamp} (hid : isBlank deviceId = false) (hrule : evidence.ruleId = ruleId) :
    Anomaly.new deviceId ruleId evidence (.utc detectedAt) =
      .ok ⟨deviceId, ruleId, evidence, detectedAt, hid, hrule⟩ := by
  rw [Anomaly.new, requireNonEmpty_bind_eq_ok]
  exact ⟨hid, dif_pos hrule⟩

/-- What is built is the anomaly asked for, detected at a UTC instant. -/
theorem Anomaly.eq_of_new {deviceId : String} {ruleId : RuleId} {evidence : RuleEvidence}
    {detectedAt : Datetime} {anomaly : Anomaly}
    (h : Anomaly.new deviceId ruleId evidence detectedAt = .ok anomaly) :
    anomaly.deviceId = deviceId ∧ anomaly.ruleId = ruleId ∧ anomaly.evidence = evidence ∧
      detectedAt = .utc anomaly.detectedAt := by
  rw [Anomaly.new, requireNonEmpty_bind_eq_ok] at h
  obtain ⟨hid, hchecks⟩ := h
  obtain ⟨t, rfl, hbuild⟩ := requireUtc_bind_eq_ok.1 hchecks
  by_cases hrule : evidence.ruleId = ruleId
  · rw [dif_pos hrule] at hbuild
    cases hbuild
    exact ⟨rfl, rfl, rfl, rfl⟩
  · rw [dif_neg hrule] at hbuild
    cases hbuild

end MetaRne
