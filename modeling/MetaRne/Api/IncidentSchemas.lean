/-
# The bodies of the incident routes

`api/schemas.py`: `IncidentResponse.from_domain` and the evidence responses, as the JSON
they are written as, and the array that `GET /incidents` answers.

A float that is no number in JSON is written as null.
-/

import MetaRne.Api.NetworkStateSchemas
import MetaRne.Domain.Incident

namespace MetaRne
namespace Api

open Python

/-- A `float` of a response. -/
def floatJson : PyFloat → Json
  | .finite q => .float (.finite q)
  | _ => .null

/-- `PolicyViolationIncidentEvidenceResponse.from_domain`. -/
def policyViolationIncidentEvidenceResponse (evidence : PolicyViolationIncidentEvidence) : Json :=
  .obj [("source_snapshot_id", .str evidence.sourceSnapshotId),
    ("violation_type", .str evidence.violationType.value),
    ("expected_acl_name", .str evidence.expectedAclName),
    ("actual_acl_name", textJson evidence.actualAclName),
    ("interface_name", .str evidence.interfaceName),
    ("direction", .str evidence.direction.value)]

/-- `CpuSampleEvidenceResponse`. -/
def cpuSampleEvidenceResponse (sample : CpuSampleEvidence) : Json :=
  .obj [("timestamp", datetimeJson sample.timestamp),
    ("cpu_utilization_pct", floatJson sample.cpuUtilizationPct)]

/-- `CpuHighEvidenceResponse.from_domain`. -/
def cpuHighEvidenceResponse (evidence : CpuHighEvidence) : Json :=
  .obj [("samples", listJson cpuSampleEvidenceResponse evidence.samples)]

/-- `InterfaceTransitionEvidenceResponse`. -/
def interfaceTransitionEvidenceResponse (transition : InterfaceTransitionEvidence) : Json :=
  .obj [("timestamp", datetimeJson transition.timestamp),
    ("oper_state", .str transition.operState.value)]

/-- `LinkFlapEvidenceResponse.from_domain`. -/
def linkFlapEvidenceResponse (evidence : LinkFlapEvidence) : Json :=
  .obj [("interface_name", .str evidence.interfaceName),
    ("transitions", listJson interfaceTransitionEvidenceResponse evidence.transitions)]

/-- `BgpDownEvidenceResponse.from_domain`. -/
def bgpDownEvidenceResponse (evidence : BgpDownEvidence) : Json :=
  .obj [("neighbor_ip", .str evidence.neighborIp),
    ("previous_state", textJson (evidence.previousState.map BgpState.value)),
    ("state", .str evidence.state.value)]

/-- The evidence of a response, by the type of the incident's evidence. -/
def incidentEvidenceResponse : IncidentEvidence → Json
  | .policyViolation evidence => policyViolationIncidentEvidenceResponse evidence
  | .rule (.cpuHigh evidence) => cpuHighEvidenceResponse evidence
  | .rule (.linkFlap evidence) => linkFlapEvidenceResponse evidence
  | .rule (.bgpDown evidence) => bgpDownEvidenceResponse evidence

/-- `IncidentResponse.from_domain`. -/
def incidentResponse (incident : Incident) : Json :=
  .obj [("incident_id", .str incident.incidentId), ("fingerprint", .str incident.fingerprint),
    ("device_id", .str incident.deviceId), ("source", .str incident.source.value),
    ("rule_ref", .str incident.ruleRef), ("affected_resource", .str incident.affectedResource),
    ("severity", .str incident.severity.value), ("status", .str incident.status.value),
    ("evidence", incidentEvidenceResponse incident.evidence),
    ("recommendation", .str incident.recommendation),
    ("created_at", datetimeJson incident.createdAt),
    ("last_seen_at", datetimeJson incident.lastSeenAt),
    ("occurrence_count", .int incident.occurrenceCount),
    ("updated_at", datetimeJson incident.updatedAt),
    ("resolved_at", Json.ofOption datetimeJson incident.resolvedAt)]

/-- The body of `GET /incidents`. -/
def incidentListResponse (incidents : List Incident) : Json := listJson incidentResponse incidents

end Api
end MetaRne
