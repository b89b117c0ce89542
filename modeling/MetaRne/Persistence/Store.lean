/-
# The store

`persistence/memory/store.py`: the seven collections of a store, which are also
the tables of the database.  Every telemetry sample is filed under its own
device, and the store carries the proof.

A repository operation is an `Action`: it runs in a `Session`, the store it
works on together with how many ids the id factories have handed out.  An
action that raises keeps what it wrote before, as the objects of the source do;
taking it back is the unit of work's business.
-/

import MetaRne.Domain.Device
import MetaRne.Domain.Incident
import MetaRne.Domain.OperationalState
import MetaRne.Library.Dict

namespace MetaRne

open Library Python

/-- `_StoredTelemetrySample`: a sample with the number it was stored under. -/
structure StoredTelemetrySample where
  sample : TelemetrySample
  insertionSequence : ℕ

/-- `InMemoryStore`, without its locks. -/
structure Store where
  devices : Dict String Device
  snapshots : Dict String ConfigurationSnapshot
  policies : Dict String ConfigurationPolicy
  incidents : Dict String Incident
  telemetrySamples : Dict String (List StoredTelemetrySample)
  telemetrySequence : ℕ
  operationalStates : Dict String FabricOperationalState
  samples_filed : ∀ deviceId entries, telemetrySamples.get? deviceId = some entries →
    ∀ entry ∈ entries, entry.sample.deviceId = deviceId

/-- The empty store. -/
def Store.empty : Store where
  devices := .empty
  snapshots := .empty
  policies := .empty
  incidents := .empty
  telemetrySamples := .empty
  telemetrySequence := 0
  operationalStates := .empty
  samples_filed := nofun

/-- `incident_id_factory` or `snapshot_id_factory`: the ids it hands out, in
order.  They are fresh and not blank. -/
structure IdFactory where
  next : ℕ → String
  injective : Function.Injective next
  not_blank : ∀ n, isBlank (next n) = false

/-- A stem followed by as many tally marks as ids went before: fresh and not blank. -/
def tallyIds (stem : Char) (h : isSpace stem = false := by decide) : IdFactory where
  next n := String.ofList (stem :: List.replicate n '1')
  injective := fun m n hmn => by
    have hlist := congrArg String.toList hmn
    simp only [String.toList_ofList, List.cons.injEq, true_and] at hlist
    have hlen := congrArg List.length hlist
    rwa [List.length_replicate, List.length_replicate] at hlen
  not_blank := fun n => by
    rw [isBlank, String.toList_ofList, List.all_cons, h, Bool.false_and]

/-- A working store, and how many ids have been handed out. -/
structure Session where
  store : Store
  incidentIdsDrawn : ℕ
  snapshotIdsDrawn : ℕ

/-- What a repository does. -/
abbrev Action (α : Type) := EStateM Error Session α

namespace Session

/-- Write an incident under a key. -/
def setIncident (s : Session) (key : String) (incident : Incident) : Session :=
  { s with store := { s.store with incidents := s.store.incidents.set key incident } }

/-- Write a device under its id. -/
def setDevice (s : Session) (device : Device) : Session :=
  { s with store := { s.store with devices := s.store.devices.set device.deviceId device } }

/-- Write a snapshot under its id. -/
def setSnapshot (s : Session) (snapshot : ConfigurationSnapshot) : Session :=
  { s with store :=
      { s.store with snapshots := s.store.snapshots.set snapshot.snapshotId snapshot } }

/-- Write a policy under its id. -/
def setPolicy (s : Session) (policy : ConfigurationPolicy) : Session :=
  { s with store := { s.store with policies := s.store.policies.set policy.policyId policy } }

/-- Write the latest state of a lab. -/
def setOperationalState (s : Session) (labName : String) (fabric : FabricOperationalState) :
    Session :=
  { s with store :=
      { s.store with operationalStates := s.store.operationalStates.set labName fabric } }

/-- Count one telemetry sample as numbered. -/
def countTelemetry (s : Session) : Session :=
  { s with store := { s.store with telemetrySequence := s.store.telemetrySequence + 1 } }

/-- Replace the samples of a device by samples of that device. -/
def setTelemetry (s : Session) (deviceId : String) (entries : List StoredTelemetrySample)
    (h : ∀ entry ∈ entries, entry.sample.deviceId = deviceId) : Session :=
  { s with store :=
      { s.store with
        telemetrySamples := s.store.telemetrySamples.set deviceId entries
        samples_filed := fun deviceId' entries' hget => by
          rw [Dict.get?_set] at hget
          split_ifs at hget with hid
          · rw [← Option.some.inj hget, hid]
            exact h
          · exact s.store.samples_filed deviceId' entries' hget } }

/-- Count one incident id as handed out. -/
def drawIncidentId (s : Session) : Session := { s with incidentIdsDrawn := s.incidentIdsDrawn + 1 }

end Session

/-- `incident_id_factory()`. -/
def drawIncidentId (ids : IdFactory) : Action String :=
  modifyGet fun s => (ids.next s.incidentIdsDrawn, s.drawIncidentId)

@[simp] theorem drawIncidentId_bind (ids : IdFactory) {β : Type} (f : String → Action β)
    (s : Session) :
    (drawIncidentId ids >>= f).run s = (f (ids.next s.incidentIdsDrawn)).run s.drawIncidentId :=
  rfl

end MetaRne
