/-
# The network diagnosis query

`application/network_diagnosis_query.py`: diagnose the latest state of a lab,
and attach to each diagnosis the open incidents of its symptoms.  The incidents
never change a diagnosis.

An open incident that was seen after the fabric was collected belongs to a later
observation and is not linked.
-/

import MetaRne.Diagnosis.Engine
import MetaRne.Persistence.Memory.IncidentRepository
import MetaRne.Persistence.Memory.UnitOfWork
import MetaRne.Persistence.OperationalStateRepository

namespace MetaRne

open Library Library.Effect Python

/-- `IncidentReference`: what the response shows of a linked incident. -/
structure IncidentReference where
  incidentId : String
  deviceId : String
  affectedResource : String
  severity : Severity
  status : IncidentStatus
  createdAt : Timestamp
  lastSeenAt : Timestamp
  occurrenceCount : ℕ

/-- `IncidentReference.from_incident`. -/
def IncidentReference.fromIncident (incident : Incident) : IncidentReference where
  incidentId := incident.incidentId
  deviceId := incident.deviceId
  affectedResource := incident.affectedResource
  severity := incident.severity
  status := incident.status
  createdAt := incident.createdAt
  lastSeenAt := incident.lastSeenAt
  occurrenceCount := incident.occurrenceCount

/-- `CorrelatedDiagnosis`. -/
structure CorrelatedDiagnosis where
  diagnosis : Diagnosis
  linkedIncidents : List IncidentReference

/-- `NetworkDiagnosisResult`. -/
structure NetworkDiagnosisResult where
  collectionId : String
  collectedAt : Timestamp
  diagnoses : List CorrelatedDiagnosis

namespace GetNetworkDiagnosis

/-- The open incident of a symptom, if there is one that was not seen later. -/
def linkSymptom (collectedAt : Timestamp) (key : SymptomKey) :
    Action (Option IncidentReference) := do
  let fingerprint ← computeFingerprint key.deviceId .anomaly RuleId.bgpDown.value
    key.affectedResource
  match ← Memory.getOpenByFingerprint fingerprint with
  | none => return none
  | some incident =>
    if collectedAt < incident.lastSeenAt then return none
    else return some (.fromIncident incident)

/-- `linked.setdefault(incident_id, reference)`. -/
def setdefault (linked : Dict String IncidentReference) (reference : IncidentReference) :
    Dict String IncidentReference :=
  if (linked.get? reference.incidentId).isSome then linked
  else linked.set reference.incidentId reference

/-- A diagnosis with the incidents of its symptoms. -/
def correlate (collectedAt : Timestamp) (diagnosis : Diagnosis) : Action CorrelatedDiagnosis := do
  let found ← diagnosis.symptomKeys.mapM (linkSymptom collectedAt)
  return ⟨diagnosis, ((found.filterMap id).foldl setdefault .empty).values⟩

/-- What the unit of work does. -/
def body (labName : String) : Action NetworkDiagnosisResult := do
  match ← getLatestOperationalState labName with
  | none => throw (Error.operationalStateNotFound labName)
  | some fabric =>
    let correlated ← (DiagnosisEngine.diagnose fabric).mapM (correlate fabric.collectedAt)
    return ⟨fabric.collectionId, fabric.collectedAt, correlated⟩

/-- `GetNetworkDiagnosisService.get`. -/
def get (labName : String) : Service NetworkDiagnosisResult := reading (body labName)

end GetNetworkDiagnosis
end MetaRne
