/-
# Resolving an incident

`application/incident_resolution.py`: an incident that is resolved already is
returned as it is, without reading the clock and without a commit.
-/

import MetaRne.Persistence.Memory.IncidentRepository
import MetaRne.Persistence.Memory.UnitOfWork

namespace MetaRne
namespace IncidentResolution

open Library Library.Effect Python

/-- `InMemoryIncidentRepository.get_by_id`. -/
def getById (incidentId : String) : Action (Option Incident) := do
  let s ← get
  return s.store.incidents.get? incidentId

/-- What the unit of work does: the incident, and whether it was written. -/
def body (incidentId : String) (now : Datetime) : Action (Incident × Bool) := do
  match ← getById incidentId with
  | none => throw (Error.incidentNotFound incidentId)
  | some incident =>
    if incident.status = .resolved then
      return (incident, false)
    else
      match ← Memory.resolve incidentId now with
      | none => throw (Error.incidentNotFound incidentId)
      | some resolved => return (resolved, true)

/-- `ResolveIncidentService.resolve`, the clock reading `now`. -/
def resolve (incidentId : String) (now : Datetime) : Service Incident :=
  unitOfWork Prod.snd (body incidentId now) fun done => .ok done.1

end IncidentResolution
end MetaRne
