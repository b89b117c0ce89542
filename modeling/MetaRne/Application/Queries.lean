/-
# The read-only queries

`application/device_drift.py`, `device_queries.py`, `incident_queries.py` and
`telemetry_query.py`.  Each runs one unit of work that it does not commit.

A device that is not an FRR router has a baseline and a current snapshot, and
both exist: a query that finds otherwise raises a `RuntimeError`.
-/

import MetaRne.Detection.DriftDetector
import MetaRne.Persistence.Memory.DeviceRepository
import MetaRne.Persistence.Memory.UnitOfWork
import MetaRne.Persistence.TelemetryRepository

namespace MetaRne

open Library Library.Effect Python

namespace Memory

/-- `InMemoryIncidentRepository.list_all`. -/
def listIncidents : Action (List Incident) := do
  let s ← get
  return s.store.incidents.values.insertionSort fun a b =>
    a.createdAt < b.createdAt ∨ (a.createdAt = b.createdAt ∧ a.incidentId ≤ b.incidentId)

end Memory

namespace Sql

/-- `SqlAlchemyIncidentRepository.list_all`, ordered by the two columns. -/
def listIncidents : Action (List Incident) := do
  let s ← get
  return s.store.incidents.values.insertionSort fun a b =>
    a.createdAt < b.createdAt ∨ (a.createdAt = b.createdAt ∧ a.incidentId ≤ b.incidentId)

end Sql

namespace ListIncidents

/-- `ListIncidentsService.list_all`. -/
def listAll : Service (List Incident) := reading Memory.listIncidents

end ListIncidents

namespace ListDevices

/-- `ListDevicesService.list_all`. -/
def listAll : Service (List Device) := reading Memory.listDevices

end ListDevices

namespace GetRecentTelemetry

/-- `GetRecentTelemetryService.get`. -/
def get (deviceId : String) (since : Datetime) : Service (List TelemetrySample) := do
  match since.utcoffset with
  | some 0 =>
    reading do
      let device ← Memory.getDevice deviceId
      raiseIf device.isNone (Error.deviceNotFound deviceId)
      Memory.getRecentTelemetry deviceId since.wall
  | _ => throw (.valueError "since must be timezone-aware UTC" [])

end GetRecentTelemetry

namespace GetDeviceDrift

/-- The pointer to a snapshot that a device must have set. -/
def requirePointer (deviceId fieldName : String) (snapshotId : Option String) :
    Except Error String :=
  match snapshotId with
  | some snapshotId => .ok snapshotId
  | none => .error (.runtimeError ("Device %r exists but has no %s; a persisted device must " ++
      "have one set (see ConfigIngestionService)") [deviceId, fieldName])

@[simp] theorem requirePointer_some (deviceId fieldName snapshotId : String) :
    requirePointer deviceId fieldName (some snapshotId) = .ok snapshotId := rfl

/-- The snapshot that a pointer must lead to. -/
def requireSnapshot (deviceId which snapshotId : String) : Action ConfigurationSnapshot := do
  match ← Memory.getSnapshot snapshotId with
  | some snapshot => return snapshot
  | none => throw (.runtimeError "Device %r references a %s snapshot that does not exist: %r"
      [deviceId, which, snapshotId])

/-- What the unit of work does. -/
def body (deviceId : String) : Action DriftReport := do
  match ← Memory.getDevice deviceId with
  | none => throw (Error.deviceNotFound deviceId)
  | some device =>
    raiseIf (device.vendor = .frr) (Error.driftNotApplicable deviceId)
    let baselineId ← requirePointer deviceId "baseline_snapshot_id" device.baselineSnapshotId
    let currentId ← requirePointer deviceId "current_snapshot_id" device.currentSnapshotId
    let baseline ← requireSnapshot deviceId "baseline" baselineId
    let current ← requireSnapshot deviceId "current" currentId
    DriftDetector.compare baseline.normalizedConfig current.normalizedConfig

/-- `GetDeviceDriftService.get_drift`. -/
def getDrift (deviceId : String) : Service DriftReport := reading (body deviceId)

end GetDeviceDrift

/-- `DeviceDetailResult`. -/
structure DeviceDetailResult where
  device : Device
  normalizedConfig : Option NormalizedConfiguration

namespace GetDeviceDetail

/-- `_detail_from_current_snapshot`. -/
def detailFromCurrentSnapshot (device : Device) : Action DeviceDetailResult := do
  let snapshotId ← GetDeviceDrift.requirePointer device.deviceId "current_snapshot_id"
    device.currentSnapshotId
  let snapshot ← GetDeviceDrift.requireSnapshot device.deviceId "current" snapshotId
  raiseIf (snapshot.deviceId ≠ device.deviceId) (Error.runtimeError
    "Device %r current snapshot %r belongs to a different device_id: %r"
    [device.deviceId, snapshotId, snapshot.deviceId])
  raiseIf (snapshot.vendor ≠ device.vendor) (Error.runtimeError
    "Device %r current snapshot %r vendor %r differs from device vendor %r"
    [device.deviceId, snapshotId, snapshot.vendor.value, device.vendor.value])
  return ⟨device, some snapshot.normalizedConfig⟩

/-- What the unit of work does. -/
def body (deviceId : String) : Action DeviceDetailResult := do
  match ← Memory.getDevice deviceId with
  | none => throw (Error.deviceNotFound deviceId)
  | some device =>
    if device.vendor = .frr then
      return ⟨device, none⟩
    else
      detailFromCurrentSnapshot device

/-- `GetDeviceDetailService.get`. -/
def get (deviceId : String) : Service DeviceDetailResult := reading (body deviceId)

end GetDeviceDetail
end MetaRne
