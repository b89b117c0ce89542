/-
# Incidents in the client

`api/types.ts` and `api/incidents.ts`: an incident as `GET /incidents` and the resolve
call answer it, and the guards it has to pass.  The severities, statuses and sources
are any texts: a word that the client does not know is shown as it is.  The evidence
stays the JSON it came as.

A guard changes nothing: what the client holds of an incident that the backend
answered is `servedIncident`, if it holds anything (`incidentResponse?_served`).
-/

import MetaRne.Api.IncidentSchemas
import MetaRne.Frontend.Guards

namespace MetaRne
namespace Frontend

open Api Python

structure IncidentResponse where
  incidentId : String
  fingerprint : String
  deviceId : String
  source : String
  ruleRef : String
  affectedResource : String
  severity : String
  status : String
  evidence : Json
  recommendation : String
  createdAt : String
  lastSeenAt : String
  occurrenceCount : ℕ
  updatedAt : String
  resolvedAt : Option String

/-! ### Guards -/

/-- `isNullableString`. -/
def nullableString? : Json → Option (Option String) := nullable string?

/-- `isFiniteNumber`; an integer too great for a double is read as an infinity. -/
def isFiniteNumber : Json → Bool
  | .int n => (floatOfInt n).isSome
  | .float (.finite _) => true
  | _ => false

/-- A property that a guard accepts. -/
def hasProperty {α : Type} (guard? : Json → Option α) (key : String) (value : Json) : Bool :=
  ((field value key).bind guard?).isSome

/-- A property that is an array of what a guard accepts. -/
def hasArray (guard : Json → Bool) (key : String) (value : Json) : Bool :=
  match field value key with
  | some (.arr items) => items.all guard
  | _ => false

/-- `isPolicyViolationIncidentEvidenceResponse`. -/
def isPolicyViolationIncidentEvidenceResponse (value : Json) : Bool :=
  hasProperty nonEmptyString? "source_snapshot_id" value &&
    hasProperty nonEmptyString? "violation_type" value &&
    hasProperty nonEmptyString? "expected_acl_name" value &&
    hasProperty nullableString? "actual_acl_name" value &&
    hasProperty nonEmptyString? "interface_name" value &&
    hasProperty nonEmptyString? "direction" value

/-- `isCpuSampleEvidenceResponse`. -/
def isCpuSampleEvidenceResponse (value : Json) : Bool :=
  hasProperty nonEmptyString? "timestamp" value &&
    (field value "cpu_utilization_pct").any isFiniteNumber

/-- `isCpuHighEvidenceResponse`. -/
def isCpuHighEvidenceResponse (value : Json) : Bool :=
  hasArray isCpuSampleEvidenceResponse "samples" value

/-- `isInterfaceTransitionEvidenceResponse`. -/
def isInterfaceTransitionEvidenceResponse (value : Json) : Bool :=
  hasProperty nonEmptyString? "timestamp" value && hasProperty nonEmptyString? "oper_state" value

/-- `isLinkFlapEvidenceResponse`. -/
def isLinkFlapEvidenceResponse (value : Json) : Bool :=
  hasProperty nonEmptyString? "interface_name" value &&
    hasArray isInterfaceTransitionEvidenceResponse "transitions" value

/-- `isBgpDownEvidenceResponse`. -/
def isBgpDownEvidenceResponse (value : Json) : Bool :=
  hasProperty nonEmptyString? "neighbor_ip" value &&
    hasProperty (nullable nonEmptyString?) "previous_state" value &&
    hasProperty nonEmptyString? "state" value

/-- `isIncidentEvidenceResponse`: any of the four shapes. -/
def incidentEvidenceResponse? (value : Json) : Option Json :=
  if isPolicyViolationIncidentEvidenceResponse value || isCpuHighEvidenceResponse value ||
      isLinkFlapEvidenceResponse value || isBgpDownEvidenceResponse value then some value
  else none

/-- `isIncidentResponse`. -/
def incidentResponse? (value : Json) : Option IncidentResponse := do
  let incidentId ← nonEmptyString? (← field value "incident_id")
  let fingerprint ← nonEmptyString? (← field value "fingerprint")
  let deviceId ← nonEmptyString? (← field value "device_id")
  let source ← nonEmptyString? (← field value "source")
  let ruleRef ← nonEmptyString? (← field value "rule_ref")
  let affectedResource ← nonEmptyString? (← field value "affected_resource")
  let severity ← nonEmptyString? (← field value "severity")
  let status ← nonEmptyString? (← field value "status")
  let evidence ← incidentEvidenceResponse? (← field value "evidence")
  let recommendation ← string? (← field value "recommendation")
  let createdAt ← nonEmptyString? (← field value "created_at")
  let lastSeenAt ← nonEmptyString? (← field value "last_seen_at")
  let occurrenceCount ← nonNegativeInteger? (← field value "occurrence_count")
  let updatedAt ← nonEmptyString? (← field value "updated_at")
  let resolvedAt ← nullable nonEmptyString? (← field value "resolved_at")
  return ⟨incidentId, fingerprint, deviceId, source, ruleRef, affectedResource, severity, status,
    evidence, recommendation, createdAt, lastSeenAt, occurrenceCount, updatedAt, resolvedAt⟩

/-- `hasEvidenceConsistentWithRule`. -/
def hasEvidenceConsistentWithRule (incident : IncidentResponse) : Bool :=
  if incident.source ≠ "ANOMALY" then
    isPolicyViolationIncidentEvidenceResponse incident.evidence
  else if incident.ruleRef = "RULE-CPU-HIGH" then isCpuHighEvidenceResponse incident.evidence
  else if incident.ruleRef = "RULE-LINK-FLAP" then isLinkFlapEvidenceResponse incident.evidence
  else if incident.ruleRef = "RULE-BGP-DOWN" then isBgpDownEvidenceResponse incident.evidence
  else false

/-- `fetchIncidents`, of the body that was answered; `none` where it throws. -/
def fetchIncidents (body : Json) : Option (List IncidentResponse) := do
  let incidents ← arrayOf incidentResponse? body
  if incidents.all hasEvidenceConsistentWithRule then some incidents else none

/-! ### What is served -/

/-- What the client holds of an incident of the backend. -/
def servedIncident (incident : Incident) : IncidentResponse where
  incidentId := incident.incidentId
  fingerprint := incident.fingerprint
  deviceId := incident.deviceId
  source := incident.source.value
  ruleRef := incident.ruleRef
  affectedResource := incident.affectedResource
  severity := incident.severity.value
  status := incident.status.value
  evidence := Api.incidentEvidenceResponse incident.evidence
  recommendation := incident.recommendation
  createdAt := jsonText incident.createdAt
  lastSeenAt := jsonText incident.lastSeenAt
  occurrenceCount := incident.occurrenceCount
  updatedAt := jsonText incident.updatedAt
  resolvedAt := incident.resolvedAt.map jsonText

/-- A text that is accepted is the one that was sent. -/
theorem nonEmptyString?_inj {s text : String} (h : nonEmptyString? (.str s) = some text) :
    s = text := by
  simp only [nonEmptyString?] at h
  split_ifs at h
  exact Option.some.inj h

/-- Past the guard of a property. -/
theorem of_guarded {α β : Type} {value sent : Json} {key : String} {guard? : Json → Option α}
    {f : α → Option β} {a : α} {b : β}
    (h : ((field value key).bind fun j => (guard? j).bind f) = some b)
    (hsent : field value key = some sent) (hguard : ∀ a', guard? sent = some a' → a = a') :
    f a = some b := by
  rw [hsent, Option.bind_some] at h
  obtain ⟨a', ha', hf⟩ := Option.bind_eq_some_iff.1 h
  rw [hguard a' ha']
  exact hf

theorem incidentEvidenceResponse?_inj {value accepted : Json}
    (h : incidentEvidenceResponse? value = some accepted) : value = accepted := by
  unfold incidentEvidenceResponse? at h
  split_ifs at h
  exact Option.some.inj h

/-- A time of resolution that is accepted is the one that was sent. -/
theorem nullable_datetimeJson {resolvedAt : Option Timestamp} {text : Option String}
    (h : nullable nonEmptyString? (Json.ofOption datetimeJson resolvedAt) = some text) :
    resolvedAt.map jsonText = text := by
  cases resolvedAt with
  | none => exact Option.some.inj h
  | some t =>
      obtain ⟨s, hs, rfl⟩ := Option.map_eq_some_iff.1 h
      rw [← nonEmptyString?_inj hs]
      rfl

/-- **The guard changes nothing.**  Of an incident of the backend the client holds what
was served. -/
theorem incidentResponse?_served {incident : Incident} {r : IncidentResponse}
    (h : incidentResponse? (incidentResponse incident) = some r) :
    r = servedIncident incident := by
  unfold incidentResponse? at h
  -- Each fact is what the guards from that property on accept.
  have hfingerprint := of_guarded h rfl fun _ => nonEmptyString?_inj
  have hdevice := of_guarded hfingerprint rfl fun _ => nonEmptyString?_inj
  have hsource := of_guarded hdevice rfl fun _ => nonEmptyString?_inj
  have hrule := of_guarded hsource rfl fun _ => nonEmptyString?_inj
  have hresource := of_guarded hrule rfl fun _ => nonEmptyString?_inj
  have hseverity := of_guarded hresource rfl fun _ => nonEmptyString?_inj
  have hstatus := of_guarded hseverity rfl fun _ => nonEmptyString?_inj
  have hevidence := of_guarded hstatus rfl fun _ => nonEmptyString?_inj
  have hrecommendation := of_guarded hevidence rfl fun _ => incidentEvidenceResponse?_inj
  have hcreated := of_guarded hrecommendation rfl fun _ => Option.some.inj
  have hlastSeen := of_guarded hcreated rfl fun _ => nonEmptyString?_inj
  have hcount := of_guarded hlastSeen rfl fun _ => nonEmptyString?_inj
  have hupdated := of_guarded hcount rfl fun _ hn =>
    Option.some.inj ((nonNegativeInteger?_ofNat _).symm.trans hn)
  have hresolved := of_guarded hupdated rfl fun _ => nonEmptyString?_inj
  have hr := of_guarded hresolved rfl fun _ => nullable_datetimeJson
  exact (Option.some.inj hr).symm

/-- An array that is accepted element by element. -/
theorem eq_map_of_arrayOf {α β : Type} {guard? : Json → Option β} {encode : α → Json} {f : α → β}
    (hguard : ∀ x b, guard? (encode x) = some b → b = f x) {xs : List α} {ys : List β}
    (h : arrayOf guard? (.arr (xs.map encode)) = some ys) : ys = xs.map f := by
  change (xs.map encode).mapM guard? = some ys at h
  induction xs generalizing ys with
  | nil => exact (Option.some.inj h).symm
  | cons x xs ih =>
      rw [List.map_cons, List.mapM_cons] at h
      obtain ⟨y, hy, h⟩ := Option.bind_eq_some_iff.1 h
      obtain ⟨zs, hzs, h⟩ := Option.bind_eq_some_iff.1 h
      rw [← Option.some.inj h, hguard x y hy, ih hzs, List.map_cons]

/-- **The client's list is the backend's**, incident by incident. -/
theorem fetchIncidents_served {incidents : List Incident} {response : List IncidentResponse}
    (h : fetchIncidents (incidentListResponse incidents) = some response) :
    response = incidents.map servedIncident := by
  obtain ⟨accepted, harray, hconsistent⟩ := Option.bind_eq_some_iff.1 h
  have haccepted : accepted = incidents.map servedIncident :=
    eq_map_of_arrayOf (fun _ _ => incidentResponse?_served) harray
  split_ifs at hconsistent
  rw [← Option.some.inj hconsistent, haccepted]

end Frontend
end MetaRne
