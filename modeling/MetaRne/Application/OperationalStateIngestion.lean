/-
# Operational-state ingestion

`application/operational_state_ingestion.py`: keep a fabric as its lab's latest
state, hand every failed session in as an incident, and resolve the open
incident of every session that was observed Established.  Nothing else resolves
an incident: a session that was not observed is not a recovered one.

A fabric that is already stored is a replay and changes nothing.
-/

import MetaRne.Application.TelemetryIngestion
import MetaRne.Detection.OperationalStateDetector
import MetaRne.Persistence.OperationalStateRepository

namespace MetaRne

open Library Library.Effect Python

/-- `OperationalStateIngestionResult`. -/
structure OperationalStateIngestionResult where
  collectionId : String
  anomalies : List Anomaly
  upserts : List IncidentUpsertResult
  stateOutcome : OperationalStateSaveOutcome
  incidentsCreated : ℕ
  incidentsUpdated : ℕ
  resolvedIncidents : List Incident
  incidentsResolved : ℕ

namespace OperationalStateIngestion

/-- An anomaly's device is registered. -/
def requireDevice (deviceId : String) : Action Unit := do
  let device ← Memory.getDevice deviceId
  raiseIf device.isNone (Error.deviceNotFound deviceId)

/-- Resolve the open incident of one neighbour that was observed Established,
unless the same fabric saw it fail. -/
def recoverNeighbor (collectedAt : Timestamp) (failing : List String) (deviceId : String)
    (neighbor : BgpNeighborObservation) : Action (Option Incident) := do
  if neighbor.state ≠ .established then
    return none
  else
    let fingerprint ← computeFingerprint deviceId .anomaly RuleId.bgpDown.value
      (AnomalyIncidentMapper.bgpDownAffectedResource neighbor.neighborIp)
    if fingerprint ∈ failing then
      return none
    else
      match ← Memory.getOpenByFingerprint fingerprint with
      | none => return none
      | some openIncident =>
        raiseIf (collectedAt < openIncident.lastSeenAt) (Error.valueError
          ("stale observation: collected_at precedes the existing OPEN " ++
            "incident's last_seen_at") [])
        match ← Memory.resolve openIncident.incidentId (.utc collectedAt) with
        | none => throw (Error.incidentNotFound openIncident.incidentId)
        | some resolved => return some resolved

/-- `LAB1_NODE_DEVICE_IDS[node_id]`. -/
def requireDeviceId (nodeId : String) : Except Error String :=
  match lab1DeviceId? nodeId with
  | none => .error (.keyError nodeId)
  | some deviceId => .ok deviceId

/-- The recoveries of one node. -/
def recoverNode (collectedAt : Timestamp) (failing : List String)
    (node : NormalizedOperationalState) : Action (List (Option Incident)) := do
  if node.role ≠ .router then
    return []
  else
    match node.bgp with
    | none => return []
    | some bgp =>
      let deviceId ← requireDeviceId node.nodeId
      bgp.neighbors.mapM (recoverNeighbor collectedAt failing deviceId)

/-- `_recover`. -/
def recover (fabric : FabricOperationalState) (upserts : List IncidentUpsertResult) :
    Action (List Incident) := do
  let failing := upserts.map fun upsert => upsert.incident.fingerprint
  let recovered ← fabric.nodes.mapM (recoverNode fabric.collectedAt failing)
  return recovered.flatten.filterMap id

/-- What one ingestion did. -/
structure Ingested where
  anomalies : List Anomaly
  stateOutcome : OperationalStateSaveOutcome
  upserts : List IncidentUpsertResult
  resolved : List Incident

/-- What the unit of work does. -/
def body (ids : IdFactory) (fabric : FabricOperationalState) : Action Ingested := do
  let _ ← deriveFabricSource fabric
  let anomalies ← OperationalStateDetector.detect fabric
  let _ ← (anomalies.map fun anomaly => anomaly.deviceId).dedup.mapM requireDevice
  let stateOutcome ← Memory.saveLatest fabric
  if stateOutcome = .unchanged then
    return ⟨anomalies, stateOutcome, [], []⟩
  else
    let upserts ← anomalies.mapM (TelemetryIngestion.upsertAnomaly ids)
    let resolved ← recover fabric upserts
    return ⟨anomalies, stateOutcome, upserts, resolved⟩

/-- `IncidentLogEvent.from_resolved`: the event of a resolved incident, which is
built outside the best-effort part. -/
def requireResolved (incident : Incident) : Except Error Unit :=
  raiseIf (incident.status ≠ .resolved ∨ incident.resolvedAt = none) (.valueError
    "IncidentLogEvent.from_resolved requires a RESOLVED incident" [])

/-- What is built after the commit. -/
def finish (fabric : FabricOperationalState) (ingested : Ingested) :
    Except Error OperationalStateIngestionResult := do
  let _ ← ingested.resolved.mapM requireResolved
  return {
    collectionId := fabric.collectionId
    anomalies := ingested.anomalies
    upserts := ingested.upserts
    stateOutcome := ingested.stateOutcome
    incidentsCreated := ingested.upserts.countP fun upsert => upsert.outcome == .created
    incidentsUpdated := ingested.upserts.countP fun upsert => upsert.outcome == .updated
    resolvedIncidents := ingested.resolved
    incidentsResolved := ingested.resolved.length }

/-- `OperationalStateIngestionService.ingest`. -/
def ingest (ids : IdFactory) (fabric : FabricOperationalState) :
    Service OperationalStateIngestionResult :=
  writing (body ids fabric) (finish fabric)

end OperationalStateIngestion
end MetaRne
