/-
# Devices and snapshots

`domain/device.py` and `domain/snapshot.py`: a device, and one configuration a
device was submitted with.  An FRR device has no snapshots and no snapshot is
of an FRR device.
-/

import MetaRne.Domain.Checks
import MetaRne.Domain.Config
import MetaRne.Library.Effect

namespace MetaRne

open Library.Effect Python

structure Device where
  deviceId : String
  vendor : VendorType
  currentSnapshotId : Option String
  baselineSnapshotId : Option String
  createdAt : Timestamp
  updatedAt : Timestamp
  deviceId_not_blank : isBlank deviceId = false
  frr_no_snapshots : vendor = .frr → currentSnapshotId = none ∧ baselineSnapshotId = none
  createdAt_le : createdAt ≤ updatedAt

/-- `Device(...)`. -/
def Device.new (deviceId : String) (vendor : VendorType)
    (currentSnapshotId baselineSnapshotId : Option String) (createdAt updatedAt : Datetime) :
    Except Error Device := do
  let ⟨hid⟩ ← requireNonEmpty deviceId "Device.device_id"
  let createdAt ← requireUtc createdAt "Device.created_at"
  let updatedAt ← requireUtc updatedAt "Device.updated_at"
  if hfrr : vendor = .frr → currentSnapshotId = none ∧ baselineSnapshotId = none then
    if hle : createdAt ≤ updatedAt then
      return ⟨deviceId, vendor, currentSnapshotId, baselineSnapshotId, createdAt, updatedAt, hid,
        hfrr, hle⟩
    else
      throw (.valueError "Device.updated_at must not precede Device.created_at" [])
  else
    throw (.valueError ("Device with vendor 'frr' must not reference configuration snapshots " ++
      "(FRR configuration snapshots are not supported)") [])

/-- What is built is the device asked for. -/
theorem Device.eq_of_new {deviceId : String} {vendor : VendorType}
    {currentSnapshotId baselineSnapshotId : Option String} {createdAt updatedAt : Datetime}
    {device : Device} (h : Device.new deviceId vendor currentSnapshotId baselineSnapshotId createdAt
      updatedAt = .ok device) :
    device.deviceId = deviceId ∧ device.vendor = vendor ∧
      device.currentSnapshotId = currentSnapshotId ∧
      device.baselineSnapshotId = baselineSnapshotId := by
  obtain ⟨hid, hchecks⟩ := requireNonEmpty_bind_eq_ok.1 h
  obtain ⟨created, rfl, hrest⟩ := requireUtc_bind_eq_ok.1 hchecks
  obtain ⟨updated, rfl, hbuild⟩ := requireUtc_bind_eq_ok.1 hrest
  by_cases hfrr : vendor = .frr → currentSnapshotId = none ∧ baselineSnapshotId = none
  · rw [dif_pos hfrr] at hbuild
    by_cases hle : created ≤ updated
    · rw [dif_pos hle] at hbuild
      cases hbuild
      exact ⟨rfl, rfl, rfl, rfl⟩
    · rw [dif_neg hle] at hbuild
      cases hbuild
  · rw [dif_neg hfrr] at hbuild
    cases hbuild

/-- `compute_raw_text_hash`. -/
def computeRawTextHash (rawConfigText : String) : String := sha256Hexdigest rawConfigText.toList

structure ConfigurationSnapshot where
  snapshotId : String
  deviceId : String
  vendor : VendorType
  rawConfigText : String
  rawTextHash : String
  normalizedConfig : NormalizedConfiguration
  submittedAt : Timestamp
  snapshotId_not_blank : isBlank snapshotId = false
  vendor_ne_frr : vendor ≠ .frr
  deviceId_not_blank : isBlank deviceId = false
  rawConfigText_not_blank : isBlank rawConfigText = false
  rawTextHash_eq : rawTextHash = computeRawTextHash rawConfigText

/-- `ConfigurationSnapshot(...)`. -/
def ConfigurationSnapshot.new (snapshotId deviceId : String) (vendor : VendorType)
    (rawConfigText rawTextHash : String) (normalizedConfig : NormalizedConfiguration)
    (submittedAt : Datetime) : Except Error ConfigurationSnapshot := do
  let ⟨hid⟩ ← requireNonEmpty snapshotId "ConfigurationSnapshot.snapshot_id"
  if hvendor : vendor = .frr then
    throw (.valueError ("ConfigurationSnapshot.vendor 'frr' is not supported: FRR has no " ++
      "configuration adapter and FRR configuration snapshots are not stored") [])
  else
    let ⟨hdev⟩ ← requireNonEmpty deviceId "ConfigurationSnapshot.device_id"
    let ⟨htext⟩ ← requireNonEmpty rawConfigText "ConfigurationSnapshot.raw_config_text"
    let submittedAt ← requireUtc submittedAt "ConfigurationSnapshot.submitted_at"
    raiseIf (isSha256Hexdigest rawTextHash = false) (.valueError
      ("ConfigurationSnapshot.raw_text_hash must be a lowercase 64-character " ++
        "hexadecimal SHA-256 digest") [])
    if hhash : rawTextHash = computeRawTextHash rawConfigText then
      return ⟨snapshotId, deviceId, vendor, rawConfigText, rawTextHash, normalizedConfig,
        submittedAt, hid, hvendor, hdev, htext, hhash⟩
    else
      throw (.valueError ("ConfigurationSnapshot.raw_text_hash does not match " ++
        "compute_raw_text_hash(raw_config_text)") [])

/-- What is built is the snapshot asked for. -/
theorem ConfigurationSnapshot.eq_of_new {snapshotId deviceId : String} {vendor : VendorType}
    {rawConfigText rawTextHash : String} {normalizedConfig : NormalizedConfiguration}
    {submittedAt : Datetime} {snapshot : ConfigurationSnapshot}
    (h : ConfigurationSnapshot.new snapshotId deviceId vendor rawConfigText rawTextHash
      normalizedConfig submittedAt = .ok snapshot) :
    snapshot.deviceId = deviceId ∧ snapshot.vendor = vendor ∧
      snapshot.rawConfigText = rawConfigText ∧ snapshot.normalizedConfig = normalizedConfig ∧
      submittedAt = .utc snapshot.submittedAt := by
  rw [ConfigurationSnapshot.new, requireNonEmpty_bind_eq_ok] at h
  obtain ⟨hid, hvendorCheck⟩ := h
  dsimp only at hvendorCheck
  by_cases hvendor : vendor = .frr
  · rw [dif_pos hvendor] at hvendorCheck
    cases hvendorCheck
  · rw [dif_neg hvendor] at hvendorCheck
    obtain ⟨hdev, hchecks⟩ := requireNonEmpty_bind_eq_ok.1 hvendorCheck
    obtain ⟨htext, hchecks⟩ := requireNonEmpty_bind_eq_ok.1 hchecks
    obtain ⟨t, rfl, hchecks⟩ := requireUtc_bind_eq_ok.1 hchecks
    obtain ⟨-, hbuild⟩ := raiseIf_bind_eq_ok.1 hchecks
    by_cases hhash : rawTextHash = computeRawTextHash rawConfigText
    · rw [dif_pos hhash] at hbuild
      cases hbuild
      exact ⟨rfl, rfl, rfl, rfl, rfl⟩
    · rw [dif_neg hhash] at hbuild
      cases hbuild

end MetaRne
