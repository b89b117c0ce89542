/-
# Telemetry repositories

`persistence/memory/telemetry_repository.py` keeps of each device the samples of
the five minutes before its newest one, at most a hundred, and forgets the rest.
`persistence/sqlalchemy/telemetry_repository.py` keeps every sample and orders
them when asked.  Both number samples as they come in, and order them by time,
then number.

A service takes either as a `TelemetryRepository`.
-/

import Mathlib.Data.List.DropRight
import Mathlib.Data.List.Sort
import MetaRne.Persistence.Store

namespace MetaRne

open Library Library.Effect Python

/-- Five minutes. -/
def retentionWindow : ℕ := 300000000

/-- The most samples of a device that are kept. -/
def retentionCap : ℕ := 100

/-- `t - timedelta(...)`, which does not reach before year 1. -/
def subtractDelta (t : Timestamp) (delta : ℕ) : Except Error Timestamp :=
  if t < delta then .error (.overflowError "date value out of range") else .ok (t - delta)

theorem subtractDelta_eq_ok {t cutoff : Timestamp} {delta : ℕ} :
    subtractDelta t delta = .ok cutoff ↔ delta ≤ t ∧ cutoff = t - delta := by
  unfold subtractDelta
  split_ifs with hlt
  · exact iff_of_false nofun fun h => absurd h.1 hlt.not_ge
  · rw [Except.ok.injEq]
    exact ⟨fun h => ⟨not_lt.1 hlt, h.symm⟩, fun h => h.2.symm⟩

/-- `_canonical_order`: by time, then in the order of arrival. -/
def canonicalOrder (a b : StoredTelemetrySample) : Prop :=
  a.sample.sampledAt < b.sample.sampledAt ∨
    (a.sample.sampledAt = b.sample.sampledAt ∧ a.insertionSequence ≤ b.insertionSequence)

instance : DecidableRel canonicalOrder := fun _ _ => inferInstanceAs (Decidable (_ ∨ _))

/-- The port a service reads and writes samples through. -/
structure TelemetryRepository where
  save : String → TelemetrySample → Action Unit
  getLatest : String → Action (Option TelemetrySample)
  getRecent : String → Timestamp → Action (List TelemetrySample)

/-- The samples stored for a device. -/
def samplesOf (store : Store) (deviceId : String) : List StoredTelemetrySample :=
  (store.telemetrySamples.get? deviceId).getD []

theorem samplesOf_filed {store : Store} {deviceId : String} :
    ∀ entry ∈ samplesOf store deviceId, entry.sample.deviceId = deviceId := by
  unfold samplesOf
  cases h : store.telemetrySamples.get? deviceId with
  | none => exact nofun
  | some entries => exact store.samples_filed deviceId entries h

namespace Memory

/-- What is kept of a device's samples: those from the cutoff on, at most a hundred. -/
def retained (cutoff : Timestamp) (entries : List StoredTelemetrySample) :
    List StoredTelemetrySample :=
  (entries.filter fun entry => cutoff ≤ entry.sample.sampledAt).rtake retentionCap

/-- The samples of a device with a new one in its place. -/
def withSample (store : Store) (sample : TelemetrySample) : List StoredTelemetrySample :=
  (samplesOf store sample.deviceId ++
    [StoredTelemetrySample.mk sample store.telemetrySequence]).insertionSort canonicalOrder

/-- The time of the newest sample. -/
def watermark (store : Store) (sample : TelemetrySample) : Timestamp :=
  ((withSample store sample).getLast?.map fun entry => entry.sample.sampledAt).getD 0

theorem retained_filed {store : Store} {sample : TelemetrySample} (cutoff : Timestamp) :
    ∀ entry ∈ retained cutoff (withSample store sample),
      entry.sample.deviceId = sample.deviceId := by
  intro entry h
  have hmem := List.mem_of_mem_filter (List.mem_of_mem_drop h)
  rw [withSample, List.mem_insertionSort, List.mem_append, List.mem_singleton] at hmem
  rcases hmem with hold | rfl
  · exact samplesOf_filed entry hold
  · rfl

/-- `InMemoryTelemetryRepository.save`.  The sample is numbered before anything
that could raise, and an overflow of the cutoff comes after. -/
def saveTelemetry (deviceId : String) (sample : TelemetrySample) : Action Unit := do
  raiseIf (deviceId ≠ sample.deviceId) (Error.valueError
    "device_id %r does not match sample.device_id %r" [deviceId, sample.deviceId])
  let s ← get
  modify fun s => s.countTelemetry
  let cutoff ← subtractDelta (watermark s.store sample) retentionWindow
  modify fun s₁ => s₁.setTelemetry sample.deviceId (retained cutoff (withSample s.store sample))
    (retained_filed cutoff)

/-- `InMemoryTelemetryRepository.get_latest`. -/
def getLatestTelemetry (deviceId : String) : Action (Option TelemetrySample) := do
  let s ← get
  return (samplesOf s.store deviceId).getLast?.map fun entry => entry.sample

/-- `InMemoryTelemetryRepository.get_recent`. -/
def getRecentTelemetry (deviceId : String) (since : Timestamp) : Action (List TelemetrySample) := do
  let s ← get
  let recent := (samplesOf s.store deviceId).filter fun entry => since ≤ entry.sample.sampledAt
  return recent.map fun entry => entry.sample

/-- `InMemoryTelemetryRepository`. -/
def telemetryRepository : TelemetryRepository where
  save := saveTelemetry
  getLatest := getLatestTelemetry
  getRecent := getRecentTelemetry

end Memory

namespace Sql

/-- `SqlAlchemyTelemetryRepository.save`: a row is added under the next id. -/
def saveTelemetry (deviceId : String) (sample : TelemetrySample) : Action Unit := do
  raiseIf (deviceId ≠ sample.deviceId) (Error.valueError
    "device_id %r does not match sample.device_id %r" [deviceId, sample.deviceId])
  let s ← get
  raiseIf (s.store.devices.get? deviceId).isNone (Error.referencedDeviceNotFound deviceId)
  modify fun s => s.countTelemetry
  modify fun s₁ => s₁.setTelemetry sample.deviceId
    (samplesOf s.store sample.deviceId ++ [⟨sample, s.store.telemetrySequence⟩])
    fun entry h => by
      rcases List.mem_append.1 h with hold | hnew
      · exact samplesOf_filed entry hold
      · rw [List.mem_singleton.1 hnew]

/-- The rows of a device, `ORDER BY sampled_at, id`. -/
def orderedRows (store : Store) (deviceId : String) : List StoredTelemetrySample :=
  (samplesOf store deviceId).insertionSort canonicalOrder

/-- `SqlAlchemyTelemetryRepository.get_latest`. -/
def getLatestTelemetry (deviceId : String) : Action (Option TelemetrySample) := do
  let s ← get
  return (orderedRows s.store deviceId).getLast?.map fun entry => entry.sample

/-- `SqlAlchemyTelemetryRepository.get_recent`. -/
def getRecentTelemetry (deviceId : String) (since : Timestamp) : Action (List TelemetrySample) := do
  let s ← get
  let recent := (orderedRows s.store deviceId).filter fun entry => since ≤ entry.sample.sampledAt
  return recent.map fun entry => entry.sample

/-- `SqlAlchemyTelemetryRepository`, over a table that takes every row: an
unbounded repository. -/
def telemetryRepository : TelemetryRepository where
  save := saveTelemetry
  getLatest := getLatestTelemetry
  getRecent := getRecentTelemetry

end Sql
end MetaRne
