/-
# The in-memory repositories of devices, snapshots and policies

`persistence/memory/device_repository.py`, `snapshot_repository.py` and
`policy_repository.py`.  A device keeps its vendor, its creation time and its
baseline once set, and refers to snapshots that exist; a snapshot is written
once; a policy is seeded once, and a batch with a conflicting policy is turned
away whole.
-/

import Mathlib.Data.List.Sort
import MetaRne.Persistence.Store

namespace MetaRne
namespace Memory

open Library Library.Effect Python

/-! ### Devices -/

/-- `_validate_transition`. -/
def validateTransition (existing candidate : Device) : Except Error Unit := do
  raiseIf (candidate.vendor ≠ existing.vendor) (.deviceConflict
    "Device %r vendor may not change (%r -> %r)"
    [candidate.deviceId, existing.vendor.value, candidate.vendor.value])
  raiseIf (candidate.createdAt ≠ existing.createdAt) (.deviceConflict
    "Device %r created_at may not change" [candidate.deviceId])
  raiseIf (candidate.updatedAt < existing.updatedAt) (.deviceConflict
    "Device %r updated_at may not move backward" [candidate.deviceId])
  raiseIf (existing.baselineSnapshotId ≠ none ∧
      candidate.baselineSnapshotId ≠ existing.baselineSnapshotId) (.deviceConflict
    "Device %r baseline_snapshot_id is already set and may not be replaced" [candidate.deviceId])
  raiseIf (existing.currentSnapshotId ≠ none ∧ candidate.currentSnapshotId = none)
    (.deviceConflict "Device %r current_snapshot_id may not be cleared" [candidate.deviceId])

/-- The checks against the stored device, if there is one. -/
def validateAgainst (existing : Option Device) (candidate : Device) : Except Error Unit :=
  match existing with
  | none => .ok ()
  | some existing => validateTransition existing candidate

/-- A snapshot that a device refers to exists. -/
def requireSnapshot (snapshots : Dict String ConfigurationSnapshot) (deviceId : String)
    (snapshotId : Option String) : Except Error Unit :=
  match snapshotId with
  | none => .ok ()
  | some snapshotId =>
    raiseIf (snapshots.get? snapshotId).isNone (.deviceConflict
      "Device %r references a snapshot that does not exist: %r" [deviceId, snapshotId])

/-- `InMemoryDeviceRepository.get_by_id`. -/
def getDevice (deviceId : String) : Action (Option Device) := do
  let s ← get
  return s.store.devices.get? deviceId

/-- `InMemoryDeviceRepository.save`. -/
def saveDevice (device : Device) : Action Unit := do
  let s ← get
  validateAgainst (s.store.devices.get? device.deviceId) device
  requireSnapshot s.store.snapshots device.deviceId device.currentSnapshotId
  requireSnapshot s.store.snapshots device.deviceId device.baselineSnapshotId
  modify fun s => s.setDevice device

/-- `InMemoryDeviceRepository.list_all`. -/
def listDevices : Action (List Device) := do
  let s ← get
  return s.store.devices.values.insertionSort fun a b =>
    a.createdAt < b.createdAt ∨ (a.createdAt = b.createdAt ∧ a.deviceId ≤ b.deviceId)

/-! ### Snapshots -/

/-- `InMemoryConfigurationSnapshotRepository.get_by_id`. -/
def getSnapshot (snapshotId : String) : Action (Option ConfigurationSnapshot) := do
  let s ← get
  return s.store.snapshots.get? snapshotId

/-- `InMemoryConfigurationSnapshotRepository.add`. -/
def addSnapshot (snapshot : ConfigurationSnapshot) : Action Unit := do
  let s ← get
  raiseIf (s.store.snapshots.get? snapshot.snapshotId).isSome
    (Error.snapshotAlreadyExists snapshot.snapshotId)
  raiseIf (s.store.devices.get? snapshot.deviceId).isNone
    (Error.referencedDeviceNotFound snapshot.deviceId)
  modify fun s => s.setSnapshot snapshot

/-! ### Policies -/

/-- `_semantically_equal`: the creation time is not compared. -/
def semanticallyEqual (existing candidate : ConfigurationPolicy) : Bool :=
  existing.appliesTo == candidate.appliesTo && existing.requiredAcls == candidate.requiredAcls

/-- `get_applicable_to_device`. -/
def getApplicableToDevice (deviceId : String) : Action (List ConfigurationPolicy) := do
  let s ← get
  let found := s.store.policies.values.filter fun policy => policy.appliesTo == deviceId
  return found.insertionSort fun a b => a.policyId ≤ b.policyId

/-- The check of one policy of a batch. -/
def validateSeed (policies : Dict String ConfigurationPolicy) (policy : ConfigurationPolicy) :
    Except Error Unit :=
  match policies.get? policy.policyId with
  | none => .ok ()
  | some existing =>
    raiseIf (semanticallyEqual existing policy = false) (.policySeedConflict policy.policyId)

/-- Write a policy whose id is not in use. -/
def seedPolicy (policy : ConfigurationPolicy) : Action Unit := do
  let s ← get
  if (s.store.policies.get? policy.policyId).isNone then
    modify fun s => s.setPolicy policy

/-- `seed_if_missing`: every policy is checked before the first is written. -/
def seedIfMissing (policies : List ConfigurationPolicy) : Action Unit := do
  let s ← get
  let _ ← (policies.mapM (validateSeed s.store.policies) : Except Error (List Unit))
  let _ ← policies.mapM seedPolicy

/-! ### What the operations do -/

variable {s s' : Session}

/-- A device may replace the stored one. -/
structure DeviceSucceeds (existing candidate : Device) : Prop where
  vendor : candidate.vendor = existing.vendor
  createdAt : candidate.createdAt = existing.createdAt
  updatedAt_le : existing.updatedAt ≤ candidate.updatedAt
  baseline : existing.baselineSnapshotId ≠ none →
    candidate.baselineSnapshotId = existing.baselineSnapshotId
  current : existing.currentSnapshotId ≠ none → candidate.currentSnapshotId ≠ none

theorem validateTransition_eq_ok {existing candidate : Device} {u : Unit} :
    validateTransition existing candidate = .ok u ↔ DeviceSucceeds existing candidate := by
  simp only [validateTransition, raiseIf_bind_eq_ok, raiseIf_eq_ok, not_not, not_lt, not_and]
  exact ⟨fun ⟨h₁, h₂, h₃, h₄, h₅⟩ => ⟨h₁, h₂, h₃, h₄, h₅⟩,
    fun h => ⟨h.vendor, h.createdAt, h.updatedAt_le, h.baseline, h.current⟩⟩

theorem requireSnapshot_eq_ok {snapshots : Dict String ConfigurationSnapshot} {deviceId : String}
    {snapshotId : Option String} {u : Unit} :
    requireSnapshot snapshots deviceId snapshotId = .ok u ↔
      ∀ id, snapshotId = some id → (snapshots.get? id).isSome := by
  cases snapshotId with
  | none => exact iff_of_true rfl nofun
  | some snapshotId =>
      simp only [requireSnapshot, raiseIf_eq_ok, Option.some.injEq, forall_eq',
        Bool.not_eq_true, Option.isNone_eq_false_iff]

/-- **What saving a device does**: the device succeeds the stored one, refers to
snapshots that exist, and is written. -/
theorem saveDevice_ok {device : Device} (h : (saveDevice device).run s = .ok () s') :
    (∀ existing, s.store.devices.get? device.deviceId = some existing →
        DeviceSucceeds existing device) ∧
      (∀ id, device.currentSnapshotId = some id → (s.store.snapshots.get? id).isSome) ∧
      (∀ id, device.baselineSnapshotId = some id → (s.store.snapshots.get? id).isSome) ∧
      s' = s.setDevice device := by
  simp only [saveDevice, get_bind, check_bind_eq_ok] at h
  obtain ⟨_, hval, _, hcur, _, hbase, h⟩ := h
  refine ⟨fun existing hex => ?_, requireSnapshot_eq_ok.1 hcur, requireSnapshot_eq_ok.1 hbase, ?_⟩
  · rw [hex] at hval
    exact validateTransition_eq_ok.1 hval
  · cases h
    rfl

/-- **What adding a snapshot does**: its id is new, its device known, and it is written. -/
theorem addSnapshot_ok {snapshot : ConfigurationSnapshot}
    (h : (addSnapshot snapshot).run s = .ok () s') :
    s.store.snapshots.get? snapshot.snapshotId = none ∧
      (s.store.devices.get? snapshot.deviceId).isSome ∧ s' = s.setSnapshot snapshot := by
  simp only [addSnapshot, get_bind, check_bind_eq_ok, raiseIf_eq_ok] at h
  obtain ⟨_, hnew, _, hdev, h⟩ := h
  cases h
  exact ⟨Option.not_isSome_iff_eq_none.1 hnew, Dict.isSome_of_not_isNone hdev, rfl⟩

end Memory
end MetaRne
