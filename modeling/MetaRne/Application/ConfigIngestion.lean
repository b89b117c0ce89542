/-
# Configuration ingestion

`application/config_ingestion.py`: parse a submitted text, keep it as a snapshot
of its device, hold it against the device's policies and hand the violations in
as incidents.  Everything before the unit of work is `prepare`, which draws the
snapshot id once the text has parsed.

The adapters are the service's constructor argument, and a parameter here.
-/

import MetaRne.Detection.PolicyEvaluator
import MetaRne.Persistence.Memory.DeviceRepository
import MetaRne.Persistence.Memory.IncidentRepository
import MetaRne.Persistence.Memory.UnitOfWork

namespace MetaRne

open Library Library.Effect Python

/-- `VendorConfigAdapter`.  A rejection is a value that `parse` returns; that it does
not raise is not in its type. -/
structure VendorConfigAdapter where
  vendorId : String
  parse : String → Except Error (NormalizedConfiguration ⊕ ParseError)

/-- `AdapterRegistry`: the adapters by vendor id, the later of two with one id. -/
structure AdapterRegistry where
  adapters : List VendorConfigAdapter

/-- `AdapterRegistry.resolve`. -/
def AdapterRegistry.resolve (registry : AdapterRegistry) (vendor : String) :
    Except Error VendorConfigAdapter :=
  match registry.adapters.reverse.find? fun adapter => adapter.vendorId == vendor with
  | some adapter => .ok adapter
  | none => .error (.unsupportedVendor vendor)

/-- `VendorType(value)`. -/
def VendorType.ofValue (value : String) : Except Error VendorType :=
  match [VendorType.ciscoIosXe, .aristaEos, .frr].find? fun vendor => vendor.value == value with
  | some vendor => .ok vendor
  | none => .error (.valueError "%r is not a valid VendorType" [value])

/-- `IngestConfigurationCommand`. -/
structure IngestConfigurationCommand where
  deviceId : String
  vendor : String
  rawConfigText : String
  observedAt : Timestamp
  deviceId_not_blank : isBlank deviceId = false
  vendor_not_blank : isBlank vendor = false
  rawConfigText_ne_empty : rawConfigText ≠ ""

/-- `ConfigIngestionResult`. -/
structure ConfigIngestionResult where
  deviceId : String
  snapshotId : String
  normalizedConfig : NormalizedConfiguration
  violationsDetected : ℕ
  incidentsCreated : ℕ
  incidentsUpdated : ℕ

/-- `ConfigIngestionResult(...)`. -/
def ConfigIngestionResult.new (r : ConfigIngestionResult) : Except Error ConfigIngestionResult := do
  let _ ← requireNonEmpty r.deviceId "ConfigIngestionResult.device_id"
  let _ ← requireNonEmpty r.snapshotId "ConfigIngestionResult.snapshot_id"
  raiseIf (r.incidentsCreated + r.incidentsUpdated ≠ r.violationsDetected) (.valueError
    ("ConfigIngestionResult.incidents_created + incidents_updated must equal " ++
      "violations_detected") [])
  return r

namespace ConfigIngestion

/-- `_PreparedIngestion`. -/
structure PreparedIngestion where
  deviceId : String
  canonicalVendor : VendorType
  snapshot : ConfigurationSnapshot

/-- `snapshot_id_factory()`. -/
def drawSnapshotId (ids : IdFactory) : Service String :=
  modifyGet fun p =>
    (ids.next p.snapshotIdsDrawn, { p with snapshotIdsDrawn := p.snapshotIdsDrawn + 1 })

/-- The adapter's verdict on a text, as a value or an exception. -/
def requireParsed (parsed : NormalizedConfiguration ⊕ ParseError) :
    Except Error NormalizedConfiguration :=
  match parsed with
  | .inl config => .ok config
  | .inr parseError => .error (.configurationParse parseError)

/-- `_prepare`. -/
def prepare (registry : AdapterRegistry) (snapshotIds : IdFactory)
    (command : IngestConfigurationCommand) : Service PreparedIngestion := do
  let adapter ← registry.resolve command.vendor
  let verdict ← adapter.parse command.rawConfigText
  let parsed ← requireParsed verdict
  let canonicalVendor ← VendorType.ofValue adapter.vendorId
  let snapshotId ← drawSnapshotId snapshotIds
  raiseIf (isBlank snapshotId = true)
    (Error.valueError "generated snapshot_id must not be empty or whitespace-only" [])
  let snapshot ← ConfigurationSnapshot.new snapshotId command.deviceId canonicalVendor
    command.rawConfigText (computeRawTextHash command.rawConfigText) parsed
    (.utc command.observedAt)
  return ⟨command.deviceId, canonicalVendor, snapshot⟩

/-- `_persist_device_and_snapshot`: an unknown device is saved before its
snapshot, which refers to it, and again with the snapshot. -/
def persistDeviceAndSnapshot (prepared : PreparedIngestion) (observedAt : Timestamp) :
    Action Unit := do
  match ← Memory.getDevice prepared.deviceId with
  | none =>
    let bare ← Device.new prepared.deviceId prepared.canonicalVendor none none
      (.utc observedAt) (.utc observedAt)
    Memory.saveDevice bare
    Memory.addSnapshot prepared.snapshot
    let device ← Device.new prepared.deviceId prepared.canonicalVendor
      (some prepared.snapshot.snapshotId) (some prepared.snapshot.snapshotId)
      (.utc observedAt) (.utc observedAt)
    Memory.saveDevice device
  | some existing =>
    Memory.addSnapshot prepared.snapshot
    let device ← Device.new existing.deviceId prepared.canonicalVendor
      (some prepared.snapshot.snapshotId) existing.baselineSnapshotId
      (.utc existing.createdAt) (.utc observedAt)
    Memory.saveDevice device

/-- Hand one violation in. -/
def upsertViolation (ids : IdFactory) (observedAt : Timestamp)
    (violation : ConfigurationViolation) : Action IncidentUpsertResult := do
  let candidate ← IncidentFactory.buildCandidate violation
  let fingerprint ← computeFingerprint candidate.deviceId candidate.source candidate.ruleRef
    candidate.affectedResource
  Memory.upsertOpenIncident ids candidate fingerprint (.utc observedAt)

/-- `_evaluate_and_upsert_incidents`: the violations handed in, with the results. -/
def evaluateAndUpsertIncidents (ids : IdFactory) (prepared : PreparedIngestion)
    (observedAt : Timestamp) : Action (ℕ × List IncidentUpsertResult) := do
  let policies ← Memory.getApplicableToDevice prepared.deviceId
  let violations ← PolicyEvaluator.evaluate prepared.deviceId prepared.snapshot.snapshotId
    (.utc observedAt) prepared.snapshot.normalizedConfig policies
  let results ← violations.mapM (upsertViolation ids observedAt)
  return (violations.length, results)

/-- How many results are of an outcome. -/
def countOutcome (outcome : IncidentUpsertOutcome) (results : List IncidentUpsertResult) : ℕ :=
  results.countP fun result => result.outcome == outcome

/-- What the unit of work does. -/
def body (ids : IdFactory) (command : IngestConfigurationCommand) (prepared : PreparedIngestion) :
    Action (ℕ × List IncidentUpsertResult) := do
  persistDeviceAndSnapshot prepared command.observedAt
  evaluateAndUpsertIncidents ids prepared command.observedAt

/-- What is built after the commit.  Event emission is best effort and raises nothing. -/
def finish (prepared : PreparedIngestion) (done : ℕ × List IncidentUpsertResult) :
    Except Error ConfigIngestionResult :=
  ConfigIngestionResult.new
    { deviceId := prepared.deviceId
      snapshotId := prepared.snapshot.snapshotId
      normalizedConfig := prepared.snapshot.normalizedConfig
      violationsDetected := done.1
      incidentsCreated := countOutcome .created done.2
      incidentsUpdated := countOutcome .updated done.2 }

/-- `ConfigIngestionService.ingest`. -/
def ingest (registry : AdapterRegistry) (snapshotIds incidentIds : IdFactory)
    (command : IngestConfigurationCommand) : Service ConfigIngestionResult := do
  let prepared ← prepare registry snapshotIds command
  writing (body incidentIds command prepared) (finish prepared)

end ConfigIngestion
end MetaRne
