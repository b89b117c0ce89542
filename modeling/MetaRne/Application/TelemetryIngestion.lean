/-
# Telemetry ingestion

`application/telemetry_ingestion.py`: keep a sample of a device, evaluate the
rules over what is retained with it, and hand the anomalies in as incidents.

The samples evaluated are those that the repository will retain once the sample
is saved, computed before it is: a later sample that is already stored counts
against the cap, but is not evaluated.
-/

import MetaRne.Detection.AnomalyIncidentMapper
import MetaRne.Detection.RuleEngine
import MetaRne.Persistence.Memory.DeviceRepository
import MetaRne.Persistence.Memory.IncidentRepository
import MetaRne.Persistence.Memory.UnitOfWork
import MetaRne.Persistence.TelemetryRepository

namespace MetaRne

open Library Library.Effect Python

/-- `TelemetryIngestionCommand`. -/
structure TelemetryIngestionCommand where
  deviceId : String
  sample : TelemetrySample
  observedAt : Timestamp
  deviceId_not_blank : isBlank deviceId = false
  deviceId_eq : deviceId = sample.deviceId

/-- `TelemetryIngestionResult`. -/
structure TelemetryIngestionResult where
  sample : TelemetrySample
  anomalies : List Anomaly

/-- An anomaly of a result is of the sample's device. -/
def requireSameDevice (sample : TelemetrySample) (anomaly : Anomaly) : Except Error Unit :=
  raiseIf (anomaly.deviceId ≠ sample.deviceId) (.valueError
    "TelemetryIngestionResult anomaly.device_id %r does not match sample.device_id %r"
    [anomaly.deviceId, sample.deviceId])

/-- `TelemetryIngestionResult(...)`. -/
def TelemetryIngestionResult.new (sample : TelemetrySample) (anomalies : List Anomaly) :
    Except Error TelemetryIngestionResult := do
  let _ ← anomalies.mapM (requireSameDevice sample)
  return ⟨sample, anomalies⟩

namespace TelemetryIngestion

/-- `_EvaluationEntry`: a sample, and whether it is the one being ingested. -/
structure EvaluationEntry where
  sample : TelemetrySample
  isCurrent : Bool

/-- The order of the stable sort: by time. -/
def bySampledAt (a b : EvaluationEntry) : Prop := a.sample.sampledAt ≤ b.sample.sampledAt

instance : DecidableRel bySampledAt := fun _ _ => inferInstanceAs (Decidable (_ ≤ _))

/-- `_build_evaluation_sequence`. -/
def buildEvaluationSequence (history : List TelemetrySample) (currentSample : TelemetrySample) :
    List TelemetrySample :=
  let entries := (history.map fun row => ⟨row, false⟩) ++ [EvaluationEntry.mk currentSample true]
  let entries := (entries.insertionSort bySampledAt).rtake retentionCap
  let evaluationHistory := entries.filter fun entry =>
    entry.sample.sampledAt ≤ currentSample.sampledAt && !entry.isCurrent
  (evaluationHistory.map fun entry => entry.sample) ++ [currentSample]

/-- Hand one anomaly in. -/
def upsertAnomaly (ids : IdFactory) (anomaly : Anomaly) : Action IncidentUpsertResult := do
  let candidate ← AnomalyIncidentMapper.buildCandidate anomaly
  let fingerprint ← computeFingerprint candidate.deviceId candidate.source candidate.ruleRef
    candidate.affectedResource
  Memory.upsertOpenIncident ids candidate fingerprint (.utc candidate.observedAt)

/-- The newest time there is once the sample is stored. -/
def effectiveWatermark (existingLatest : Option TelemetrySample) (currentSample : TelemetrySample) :
    Timestamp :=
  max ((existingLatest.map fun sample => sample.sampledAt).getD currentSample.sampledAt)
    currentSample.sampledAt

/-- What one ingestion evaluated, found and handed in. -/
structure Ingested where
  evaluationSequence : List TelemetrySample
  anomalies : List Anomaly
  upserts : List IncidentUpsertResult

/-- What the unit of work does, over the repository it has for samples. -/
def body (samples : TelemetryRepository) (ids : IdFactory) (command : TelemetryIngestionCommand) :
    Action Ingested := do
  let device ← Memory.getDevice command.deviceId
  raiseIf device.isNone (Error.deviceNotFound command.deviceId)
  let existingLatest ← samples.getLatest command.deviceId
  let cutoff ← subtractDelta (effectiveWatermark existingLatest command.sample) retentionWindow
  let history ← samples.getRecent command.deviceId cutoff
  let evaluationSequence := buildEvaluationSequence history command.sample
  samples.save command.deviceId command.sample
  let anomalies ← RuleEngine.evaluate (.utc command.observedAt) evaluationSequence
  let upserts ← anomalies.mapM (upsertAnomaly ids)
  return ⟨evaluationSequence, anomalies, upserts⟩

/-- `TelemetryIngestionService.ingest`, over the in-memory repositories. -/
def ingest (ids : IdFactory) (command : TelemetryIngestionCommand) :
    Service TelemetryIngestionResult :=
  writing (body Memory.telemetryRepository ids command) fun ingested =>
    TelemetryIngestionResult.new command.sample ingested.anomalies

end TelemetryIngestion
end MetaRne
