/-
# Registering the lab's routers

`application/lab_device_registration.py`: the four fixed routers of Lab 1 become
devices without snapshots.  A router that is there already is left alone; an id
that is there as anything else stops the registration before it writes.
-/

import MetaRne.Application.ConfigIngestion
import MetaRne.Detection.OperationalStateDetector

namespace MetaRne

open Library Library.Effect Python

/-- `LAB1_ROUTER_DEVICE_IDS`. -/
def lab1RouterDeviceIds : List String := lab1NodeDeviceIds.map Prod.snd

/-- `LabDeviceRegistrationResult`. -/
structure LabDeviceRegistrationResult where
  registered : List String
  alreadyRegistered : List String

namespace LabDeviceRegistration

/-- `_check_existing`. -/
def checkExisting (existing : Device) : Except Error Unit := do
  raiseIf (existing.vendor ≠ .frr) (.labDeviceConflict existing.deviceId
    ("already registered with vendor '" ++ existing.vendor.value ++ "', expected '" ++
      VendorType.frr.value ++ "'"))
  raiseIf (existing.currentSnapshotId ≠ none ∨ existing.baselineSnapshotId ≠ none)
    (.labDeviceConflict existing.deviceId
      "already registered with a configuration snapshot reference")

/-- Whether a router is missing; a device in its place must be the router. -/
def isMissing (deviceId : String) : Action Bool := do
  match ← Memory.getDevice deviceId with
  | none => return true
  | some existing =>
    checkExisting existing
    return false

/-- Register one router. -/
def registerRouter (observedAt : Datetime) (deviceId : String) : Action Unit := do
  let device ← Device.new deviceId .frr none none observedAt observedAt
  Memory.saveDevice device

/-- What the unit of work does: which routers it registered. -/
def body (observedAt : Datetime) : Action (List String) := do
  let missing ← lab1RouterDeviceIds.mapM isMissing
  let registered := (lab1RouterDeviceIds.zip missing).filterMap fun (deviceId, isNew) =>
    if isNew then some deviceId else none
  let _ ← registered.mapM (registerRouter observedAt)
  return registered

/-- `RegisterLabDevicesService.register`. -/
def register (observedAt : Datetime) : Service LabDeviceRegistrationResult := do
  let _ ← requireUtc observedAt "observed_at"
  writing (body observedAt) fun registered => .ok
    { registered
      alreadyRegistered := lab1RouterDeviceIds.filter fun deviceId => deviceId ∉ registered }

end LabDeviceRegistration
end MetaRne
