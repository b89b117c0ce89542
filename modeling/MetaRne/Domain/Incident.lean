/-
# Incidents

`domain/incident.py`: the candidate a detector hands in, the persisted incident
it becomes, and the fingerprint that names what both are about.

An incident is about its `FindingKey`: a device, a source, a rule and a
resource.  The fingerprint is the SHA-256 of the key's JSON text.  The model
keeps the real function; a theorem that needs two keys to have two fingerprints
says so of the keys it is about (`CollisionFree`).

`Incident.new` is the constructor with its checks in the source's order, from
datetimes of any zone.  `Incident.Valid` is what it checks, and
`Incident.new_eq_ok` says that it accepts exactly that.
-/

import MetaRne.Domain.Anomaly
import MetaRne.Domain.Policy
import Mathlib.Data.Set.Function

namespace MetaRne

open Library Library.Effect Python

inductive IncidentSource
  | policyViolation
  | drift
  | anomaly
  deriving DecidableEq, Repr

def IncidentSource.value : IncidentSource → String
  | .policyViolation => "POLICY_VIOLATION"
  | .drift => "DRIFT"
  | .anomaly => "ANOMALY"

inductive IncidentStatus
  | open
  | acknowledged
  | resolved
  deriving DecidableEq, Repr

def IncidentStatus.value : IncidentStatus → String
  | .open => "OPEN"
  | .acknowledged => "ACKNOWLEDGED"
  | .resolved => "RESOLVED"

structure PolicyViolationIncidentEvidence where
  sourceSnapshotId : String
  violationType : ViolationType
  expectedAclName : String
  actualAclName : Option String
  interfaceName : String
  direction : AclDirection
  sourceSnapshotId_not_blank : isBlank sourceSnapshotId = false

/-- `PolicyViolationIncidentEvidence(...)`. -/
def PolicyViolationIncidentEvidence.new (sourceSnapshotId : String) (violationType : ViolationType)
    (expectedAclName : String) (actualAclName : Option String) (interfaceName : String)
    (direction : AclDirection) : Except Error PolicyViolationIncidentEvidence := do
  let ⟨hid⟩ ← requireNonEmpty sourceSnapshotId "PolicyViolationIncidentEvidence.source_snapshot_id"
  return ⟨sourceSnapshotId, violationType, expectedAclName, actualAclName, interfaceName,
    direction, hid⟩

/-- The evidence an incident may carry: of a policy violation or of a rule. -/
inductive IncidentEvidence
  | policyViolation (evidence : PolicyViolationIncidentEvidence)
  | rule (evidence : RuleEvidence)

/-- `type(evidence).__name__`. -/
def IncidentEvidence.typeName : IncidentEvidence → String
  | .policyViolation _ => "PolicyViolationIncidentEvidence"
  | .rule evidence => evidence.ruleId.evidenceTypeName

/-! ### What an incident is about -/

/-- What a finding is about: the four values its fingerprint is computed of. -/
structure FindingKey where
  deviceId : String
  source : IncidentSource
  ruleRef : String
  affectedResource : String
  deriving DecidableEq, Repr

/-- The JSON text of a key. -/
def FindingKey.payload (key : FindingKey) : List Char :=
  jsonDumpsStrings [key.deviceId, key.source.value, key.ruleRef, key.affectedResource]

/-- The fingerprint of a key. -/
def FindingKey.fingerprint (key : FindingKey) : String := sha256Hexdigest key.payload

/-- `compute_fingerprint`. -/
def computeFingerprint (deviceId : String) (source : IncidentSource)
    (ruleRef affectedResource : String) : Except Error String := do
  let _ ← requireNonEmpty deviceId "device_id"
  let _ ← requireNonEmpty ruleRef "rule_ref"
  let _ ← requireNonEmpty affectedResource "affected_resource"
  return FindingKey.fingerprint ⟨deviceId, source, ruleRef, affectedResource⟩

/-- No two of these keys have one fingerprint. -/
def CollisionFree (keys : Set FindingKey) : Prop := Set.InjOn FindingKey.fingerprint keys

theorem CollisionFree.mono {keys keys' : Set FindingKey} (h : CollisionFree keys)
    (hsub : keys' ⊆ keys) : CollisionFree keys' := Set.InjOn.mono hsub h

/-- `compute_fingerprint` on non-blank parts is the fingerprint of the key. -/
theorem computeFingerprint_of_not_blank {deviceId ruleRef affectedResource : String}
    (source : IncidentSource) (hd : isBlank deviceId = false) (hr : isBlank ruleRef = false)
    (ha : isBlank affectedResource = false) :
    computeFingerprint deviceId source ruleRef affectedResource =
      .ok (FindingKey.fingerprint ⟨deviceId, source, ruleRef, affectedResource⟩) := by
  rw [computeFingerprint, requireNonEmpty_eq_ok (h := ⟨hd⟩), requireNonEmpty_eq_ok (h := ⟨hr⟩),
    requireNonEmpty_eq_ok (h := ⟨ha⟩)]
  rfl

/-! ### Candidates -/

/-- A finding handed in to become an incident, or to be counted by one. -/
structure IncidentCandidate where
  deviceId : String
  source : IncidentSource
  ruleRef : String
  affectedResource : String
  severity : Severity
  evidence : IncidentEvidence
  recommendation : String
  observedAt : Timestamp
  deviceId_not_blank : isBlank deviceId = false
  ruleRef_not_blank : isBlank ruleRef = false
  affectedResource_not_blank : isBlank affectedResource = false
  recommendation_not_blank : isBlank recommendation = false

/-- `IncidentCandidate(...)`. -/
def IncidentCandidate.new (deviceId : String) (source : IncidentSource)
    (ruleRef affectedResource : String) (severity : Severity) (evidence : IncidentEvidence)
    (recommendation : String) (observedAt : Datetime) : Except Error IncidentCandidate := do
  let ⟨hd⟩ ← requireNonEmpty deviceId "IncidentCandidate.device_id"
  let ⟨hr⟩ ← requireNonEmpty ruleRef "IncidentCandidate.rule_ref"
  let ⟨ha⟩ ← requireNonEmpty affectedResource "IncidentCandidate.affected_resource"
  let ⟨hc⟩ ← requireNonEmpty recommendation "IncidentCandidate.recommendation"
  let observedAt ← requireUtc observedAt "IncidentCandidate.observed_at"
  return ⟨deviceId, source, ruleRef, affectedResource, severity, evidence, recommendation,
    observedAt, hd, hr, ha, hc⟩

namespace IncidentCandidate

/-- What the candidate is about. -/
def key (c : IncidentCandidate) : FindingKey :=
  ⟨c.deviceId, c.source, c.ruleRef, c.affectedResource⟩

/-- The fingerprint of a candidate. -/
def fingerprint (c : IncidentCandidate) : String := c.key.fingerprint

/-- `compute_fingerprint(candidate.device_id, candidate.source, ...)`, which
cannot raise: the candidate's own checks are the same. -/
theorem computeFingerprint_eq (c : IncidentCandidate) :
    computeFingerprint c.deviceId c.source c.ruleRef c.affectedResource = .ok c.fingerprint :=
  computeFingerprint_of_not_blank c.source c.deviceId_not_blank c.ruleRef_not_blank
    c.affectedResource_not_blank

end IncidentCandidate

/-! ### Incidents -/

/-- The fields of an incident, over datetimes when it is being built and over
timestamps once it is. -/
structure IncidentRecord (τ : Type) where
  incidentId : String
  fingerprint : String
  deviceId : String
  source : IncidentSource
  ruleRef : String
  affectedResource : String
  severity : Severity
  status : IncidentStatus
  evidence : IncidentEvidence
  recommendation : String
  createdAt : τ
  lastSeenAt : τ
  occurrenceCount : ℕ
  updatedAt : τ
  resolvedAt : Option τ

/-- A persisted incident. -/
abbrev Incident := IncidentRecord Timestamp

/-- The same incident with its timestamps as datetimes. -/
def Incident.toDatetimes (i : Incident) : IncidentRecord Datetime :=
  { i with
    createdAt := .utc i.createdAt
    lastSeenAt := .utc i.lastSeenAt
    updatedAt := .utc i.updatedAt
    resolvedAt := i.resolvedAt.map .utc }

theorem Incident.toDatetimes_injective : Function.Injective Incident.toDatetimes := by
  rintro ⟨⟩ ⟨⟩ h
  simp only [Incident.toDatetimes, IncidentRecord.mk.injEq, Datetime.utc_inj,
    (Option.map_injective Datetime.utc_injective).eq_iff] at h
  simp only [IncidentRecord.mk.injEq]
  exact h

namespace Incident

/-- What the incident is about. -/
def key (i : Incident) : FindingKey := ⟨i.deviceId, i.source, i.ruleRef, i.affectedResource⟩

/-- The checks of `resolved_at`, which is looked at only where it is set. -/
def requireResolvedAt (resolvedAt : Option Datetime) (updatedAt : Timestamp) :
    Except Error (Option Timestamp) :=
  match resolvedAt with
  | none => .ok none
  | some resolvedAt => do
    let resolvedAt ← requireUtc resolvedAt "Incident.resolved_at"
    raiseIf (updatedAt < resolvedAt) (.valueError
      "Incident.resolved_at must not be later than Incident.updated_at" [])
    return some resolvedAt

/-- `Incident(...)`: the constructor's checks, in the source's order. -/
def new (r : IncidentRecord Datetime) : Except Error Incident := do
  let _ ← requireNonEmpty r.incidentId "Incident.incident_id"
  let _ ← requireNonEmpty r.deviceId "Incident.device_id"
  let _ ← requireNonEmpty r.ruleRef "Incident.rule_ref"
  let _ ← requireNonEmpty r.affectedResource "Incident.affected_resource"
  let _ ← requireNonEmpty r.recommendation "Incident.recommendation"
  let createdAt ← requireUtc r.createdAt "Incident.created_at"
  let lastSeenAt ← requireUtc r.lastSeenAt "Incident.last_seen_at"
  let updatedAt ← requireUtc r.updatedAt "Incident.updated_at"
  raiseIf (isSha256Hexdigest r.fingerprint = false) (.valueError
    "Incident.fingerprint must be a lowercase 64-character hexadecimal SHA-256 digest" [])
  raiseIf (r.occurrenceCount < 1) (.valueError "Incident.occurrence_count must be >= 1" [])
  raiseIf (lastSeenAt < createdAt) (.valueError
    "Incident.last_seen_at must not precede Incident.created_at" [])
  raiseIf (updatedAt < lastSeenAt) (.valueError
    "Incident.updated_at must not precede Incident.last_seen_at" [])
  let resolvedAt ← requireResolvedAt r.resolvedAt updatedAt
  raiseIf (r.status = .resolved ∧ resolvedAt = none) (.valueError
    "Incident.resolved_at must be set when Incident.status is RESOLVED" [])
  raiseIf (r.status ≠ .resolved ∧ resolvedAt ≠ none) (.valueError
    "Incident.resolved_at must be None unless Incident.status is RESOLVED" [])
  return { r with createdAt, lastSeenAt, updatedAt, resolvedAt }

/-- What the constructor checks of an incident. -/
structure Valid (i : Incident) : Prop where
  incidentId_not_blank : isBlank i.incidentId = false
  deviceId_not_blank : isBlank i.deviceId = false
  ruleRef_not_blank : isBlank i.ruleRef = false
  affectedResource_not_blank : isBlank i.affectedResource = false
  recommendation_not_blank : isBlank i.recommendation = false
  fingerprint_hex : isSha256Hexdigest i.fingerprint = true
  one_le_occurrenceCount : 1 ≤ i.occurrenceCount
  createdAt_le : i.createdAt ≤ i.lastSeenAt
  lastSeenAt_le : i.lastSeenAt ≤ i.updatedAt
  resolvedAt_le : ∀ t, i.resolvedAt = some t → t ≤ i.updatedAt
  resolved_iff : i.status = .resolved ↔ i.resolvedAt.isSome

theorem requireResolvedAt_eq_ok {resolvedAt : Option Datetime} {updatedAt : Timestamp}
    {o : Option Timestamp} :
    requireResolvedAt resolvedAt updatedAt = .ok o ↔
      resolvedAt = o.map .utc ∧ ∀ t, o = some t → t ≤ updatedAt := by
  cases resolvedAt with
  | none =>
      simp only [requireResolvedAt, Except.ok.injEq]
      refine ⟨?_, fun h => (Option.map_eq_none_iff.1 h.1.symm).symm⟩
      rintro rfl
      exact ⟨rfl, nofun⟩
  | some d =>
      simp only [requireResolvedAt, requireUtc_bind_eq_ok, raiseIf_bind_eq_ok, pure, Except.pure,
        Except.ok.injEq, not_lt]
      constructor
      · rintro ⟨t, rfl, hle, rfl⟩
        exact ⟨rfl, fun u hu => by rwa [← Option.some.inj hu]⟩
      · rintro ⟨hd, hle⟩
        obtain ⟨t, rfl, rfl⟩ := Option.map_eq_some_iff.1 hd.symm
        exact ⟨t, rfl, hle t rfl, rfl⟩

/-- **The constructor accepts exactly the valid incidents**, given as UTC datetimes. -/
theorem new_eq_ok {r : IncidentRecord Datetime} {i : Incident} :
    new r = .ok i ↔ r = i.toDatetimes ∧ i.Valid := by
  simp only [new, requireNonEmpty_bind_eq_ok, requireUtc_bind_eq_ok, raiseIf_bind_eq_ok,
    exists_prop, not_lt, Bool.not_eq_false]
  constructor
  · rintro ⟨hid, hdev, hrule, hres, hrec, c, hc, l, hl, u, hu, hfp, hocc, hcl, hlu, h⟩
    obtain ⟨o, ho, h⟩ := except_bind_eq_ok.1 h
    obtain ⟨hro, hou⟩ := requireResolvedAt_eq_ok.1 ho
    simp only [raiseIf_bind_eq_ok, not_and, pure, Except.pure, Except.ok.injEq] at h
    obtain ⟨hset, hunset, rfl⟩ := h
    refine ⟨?_, ⟨hid, hdev, hrule, hres, hrec, hfp, hocc, hcl, hlu, hou, ?_⟩⟩
    · rw [Incident.toDatetimes, ← hc, ← hl, ← hu, ← hro]
    · rw [Option.isSome_iff_ne_none]
      exact ⟨hset, fun hne => by_contra fun hst => hunset hst hne⟩
  · rintro ⟨rfl, hv⟩
    refine ⟨hv.incidentId_not_blank, hv.deviceId_not_blank, hv.ruleRef_not_blank,
      hv.affectedResource_not_blank, hv.recommendation_not_blank, i.createdAt, rfl, i.lastSeenAt,
      rfl, i.updatedAt, rfl, hv.fingerprint_hex, hv.one_le_occurrenceCount, hv.createdAt_le,
      hv.lastSeenAt_le, ?_⟩
    have hiff := hv.resolved_iff
    rw [Option.isSome_iff_ne_none] at hiff
    refine except_bind_eq_ok.2
      ⟨i.resolvedAt, requireResolvedAt_eq_ok.2 ⟨rfl, hv.resolvedAt_le⟩, ?_⟩
    simp only [raiseIf_bind_eq_ok, not_and, pure, Except.pure, Except.ok.injEq]
    exact ⟨hiff.1, fun hst hne => hst (hiff.2 hne), rfl⟩

/-- Rebuilding an incident from its own fields gives it back, if it is valid. -/
theorem new_toDatetimes_eq_ok {i j : Incident} :
    new i.toDatetimes = .ok j ↔ j = i ∧ i.Valid := by
  rw [new_eq_ok, toDatetimes_injective.eq_iff]
  constructor
  · rintro ⟨rfl, hv⟩
    exact ⟨rfl, hv⟩
  · rintro ⟨rfl, hv⟩
    exact ⟨rfl, hv⟩

end Incident

/-- `Incident.resolve`: an open incident is resolved, a resolved one returned as it is. -/
def Incident.resolve (i : Incident) (resolvedAt : Datetime) : Except Error Incident :=
  if i.status = .resolved then .ok i
  else if i.status ≠ .open then
    .error (.valueError
      "Incident.resolve is only valid from OPEN (or a no-op from RESOLVED), not %s"
      [i.status.value])
  else do
    let t ← requireUtc resolvedAt "Incident.resolved_at"
    -- against `updatedAt`, not `lastSeenAt`: an open incident may have been updated since
    raiseIf (t < i.updatedAt) (.valueError
      "Incident.resolve's resolved_at must not precede Incident.updated_at" [])
    Incident.new { i.toDatetimes with
      status := .resolved, resolvedAt := some resolvedAt, updatedAt := resolvedAt }

namespace Incident

/-- The incident resolved at `t`: its status and two timestamps change. -/
def resolvedAs (i : Incident) (t : Timestamp) : Incident :=
  { i with status := .resolved, resolvedAt := some t, updatedAt := t }

theorem Valid.resolvedAs {i : Incident} (h : i.Valid) {t : Timestamp} (ht : i.updatedAt ≤ t) :
    (i.resolvedAs t).Valid :=
  { h with
    lastSeenAt_le := h.lastSeenAt_le.trans ht
    resolvedAt_le := fun _ hu => (Option.some.inj hu).ge
    resolved_iff := ⟨fun _ => rfl, fun _ => rfl⟩ }

/-- **What `resolve` returns**: a resolved incident itself, an open one resolved
at a UTC instant no earlier than its last update. -/
theorem resolve_ok {i j : Incident} {resolvedAt : Datetime} (h : i.resolve resolvedAt = .ok j) :
    (i.status = .resolved ∧ j = i) ∨
      (i.status = .open ∧ ∃ t, resolvedAt = .utc t ∧ i.updatedAt ≤ t ∧ j = i.resolvedAs t) := by
  unfold resolve at h
  split_ifs at h with hr ho
  · exact Or.inl ⟨hr, (Except.ok.inj h).symm⟩
  · simp only [requireUtc_bind_eq_ok, raiseIf_bind_eq_ok, not_lt, new_eq_ok] at h
    obtain ⟨t, rfl, hle, hj, -⟩ := h
    refine Or.inr ⟨not_not.1 ho, t, rfl, hle, ?_⟩
    exact (toDatetimes_injective (show (i.resolvedAs t).toDatetimes = j.toDatetimes from hj)).symm

/-- A valid open incident resolves at every UTC instant from its last update on. -/
theorem resolve_of_open {i : Incident} (hi : i.Valid) (ho : i.status = .open) {t : Timestamp}
    (ht : i.updatedAt ≤ t) : i.resolve (.utc t) = .ok (i.resolvedAs t) := by
  have hr : i.status ≠ .resolved := by
    rw [ho]
    nofun
  rw [resolve, if_neg hr, if_neg (not_not.2 ho), requireUtc_bind_eq_ok]
  refine ⟨t, rfl, raiseIf_bind_eq_ok.2 ⟨not_lt.2 ht, new_eq_ok.2 ⟨rfl, hi.resolvedAs ht⟩⟩⟩

end Incident

inductive IncidentUpsertOutcome
  | created
  | updated
  deriving DecidableEq, Repr

structure IncidentUpsertResult where
  incident : Incident
  outcome : IncidentUpsertOutcome

end MetaRne
