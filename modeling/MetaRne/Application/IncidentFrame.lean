/-
# What the incident repository does not see

The incident repository reads the incidents, the devices and the number of ids
drawn, and writes the incidents.  It is blind to every change of the session
that spares these (`SparesIncidents`): to other telemetry, or to the latest
states of the labs.
-/

import MetaRne.Application.TelemetryIngestion

namespace MetaRne

open Library Library.Effect Python

/-- A change of the session that spares what the incident repository reads, and
that can as well be made after it wrote. -/
structure SparesIncidents (g : Session → Session) : Prop where
  incidents : ∀ s, (g s).store.incidents = s.store.incidents
  devices : ∀ s, (g s).store.devices = s.store.devices
  drawn : ∀ s, (g s).incidentIdsDrawn = s.incidentIdsDrawn
  draw : ∀ s, (g s).drawIncidentId = g s.drawIncidentId
  setIncident : ∀ s id i, (g s).setIncident id i = g (s.setIncident id i)

namespace SparesIncidents

variable {g : Session → Session} (hg : SparesIncidents g)

include hg

theorem blind_drawIncidentId (ids : IdFactory) : Blind g (drawIncidentId ids) := fun s => by
  change EStateM.Result.ok (ids.next (g s).incidentIdsDrawn) (g s).drawIncidentId =
    .ok (ids.next s.incidentIdsDrawn) (g s.drawIncidentId)
  rw [hg.drawn, hg.draw]

theorem blind_getOpenByFingerprint (fingerprint : String) :
    Blind g (Memory.getOpenByFingerprint fingerprint) := by
  refine blind_get_bind (fun s => ?_) fun _ => blind_pure _
  rw [hg.incidents]

theorem blind_upsertOpenIncident (ids : IdFactory) (candidate : IncidentCandidate)
    (fingerprint : String) (observedAt : Datetime) :
    Blind g (Memory.upsertOpenIncident ids candidate fingerprint observedAt) := by
  refine (blind_check _).bind fun _ => blind_get_bind (fun s => ?_) fun s => ?_
  · rw [hg.incidents, hg.devices]
  cases findOpenByFingerprint s.store.incidents fingerprint with
  | none =>
      refine (blind_check _).bind fun _ => (hg.blind_drawIncidentId ids).bind fun _ => ?_
      refine (blind_check _).bind fun _ => (blind_check _).bind fun _ => ?_
      exact blind_modify_bind (fun s => hg.setIncident s _ _) (blind_pure _)
  | some existing =>
      refine (blind_check _).bind fun _ => (blind_check _).bind fun _ => ?_
      refine (blind_check _).bind fun _ => ?_
      exact blind_modify_bind (fun s => hg.setIncident s _ _) (blind_pure _)

theorem blind_resolve (incidentId : String) (resolvedAt : Datetime) :
    Blind g (Memory.resolve incidentId resolvedAt) := by
  refine blind_get_bind (fun s => ?_) fun s => ?_
  · rw [hg.incidents]
  cases s.store.incidents.get? incidentId with
  | none => exact blind_pure _
  | some existing =>
      refine (blind_check _).bind fun _ => ?_
      exact blind_modify_bind (fun s => hg.setIncident s _ _) (blind_pure _)

theorem blind_upsertAnomaly (ids : IdFactory) (anomaly : Anomaly) :
    Blind g (TelemetryIngestion.upsertAnomaly ids anomaly) :=
  (blind_check _).bind fun _ => (blind_check _).bind fun _ => hg.blind_upsertOpenIncident ids _ _ _

end SparesIncidents
end MetaRne
