/-
# The body of `GET /network/diagnosis`

`api/schemas.py`: `NetworkDiagnosisResponse.from_domain` and the responses it is made
of, as the JSON they are written as.
-/

import MetaRne.Api.NetworkStateSchemas
import MetaRne.Application.NetworkDiagnosis

namespace MetaRne
namespace Api

open Python

/-- A `bool | None` of a response. -/
def flagJson : Option Bool → Json := Json.ofOption .bool

/-- `DiagnosisEndpointResponse`. -/
def diagnosisEndpointResponse (nodeId interface : String) : Json :=
  .obj [("node_id", .str nodeId), ("interface", .str interface)]

/-- `DiagnosisResourceResponse.from_domain`. -/
def diagnosisResourceResponse (link : LinkRef) : Json :=
  .obj [("resource_id", .str link.resourceId),
    ("endpoint_a", diagnosisEndpointResponse link.aNode link.aInterface),
    ("endpoint_b", diagnosisEndpointResponse link.bNode link.bInterface)]

/-- `_observed_from_domain`. -/
def observedFromDomain : EvidenceObservation → Json
  | .interfaceState observed =>
    .obj [("interface_name", .str observed.interfaceName), ("state", .str observed.state.value)]
  | .bgpSession observed =>
    .obj [("neighbor_ip", .str observed.neighborIp), ("state", .str observed.state.value),
      ("raw_state", textJson observed.rawState)]
  | .addressMatch observed =>
    .obj [("interface_name", .str observed.interfaceName),
      ("declared_address", .str observed.declaredAddress),
      ("observed_addresses", listJson .str observed.observedAddresses),
      ("matches", flagJson observed.matched)]
  | .routeNextHop observed =>
    .obj [("next_hop_ip", .str observed.nextHopIp),
      ("interface_name", .str observed.interfaceName),
      ("active_route_count", countJson observed.activeRouteCount)]
  | .ecmpPaths observed =>
    .obj [("prefix", .str observed.prefixText),
      ("observed_paths", countJson observed.observedPathCount),
      ("expected_paths", .int observed.expectedPathCount),
      ("link_next_hop_ip", .str observed.linkNextHopIp),
      ("link_next_hop_present", flagJson observed.linkPathPresent)]
  | .reachability observed =>
    .obj [("target", .str observed.target), ("sent", countJson observed.sent),
      ("received", countJson observed.received)]

/-- `DiagnosisEvidenceResponse.from_domain`. -/
def diagnosisEvidenceResponse (item : EvidenceItem) : Json :=
  .obj [("kind", .str item.kind.value), ("role", .str item.role.value),
    ("node_id", .str item.nodeId), ("subject", .str item.subject),
    ("observed", observedFromDomain item.observed)]

/-- `DiagnosisSymptomKeyResponse.from_domain`. -/
def diagnosisSymptomKeyResponse (key : SymptomKey) : Json :=
  .obj [("device_id", .str key.deviceId), ("affected_resource", .str key.affectedResource)]

/-- `LinkedIncidentResponse.from_domain`. -/
def linkedIncidentResponse (reference : IncidentReference) : Json :=
  .obj [("incident_id", .str reference.incidentId), ("device_id", .str reference.deviceId),
    ("affected_resource", .str reference.affectedResource),
    ("severity", .str reference.severity.value), ("status", .str reference.status.value),
    ("created_at", datetimeJson reference.createdAt),
    ("last_seen_at", datetimeJson reference.lastSeenAt),
    ("occurrence_count", .int reference.occurrenceCount)]

/-- `NetworkDiagnosisItemResponse.from_domain`. -/
def networkDiagnosisItemResponse (correlated : CorrelatedDiagnosis) : Json :=
  .obj [("diagnosis_type", .str correlated.diagnosis.diagnosisType.value),
    ("confidence",
      Json.ofOption (fun confidence => .str confidence.value) correlated.diagnosis.confidence),
    ("resource", diagnosisResourceResponse correlated.diagnosis.resource),
    ("evidence", listJson diagnosisEvidenceResponse correlated.diagnosis.evidence),
    ("symptom_keys", listJson diagnosisSymptomKeyResponse correlated.diagnosis.symptomKeys),
    ("linked_incidents", listJson linkedIncidentResponse correlated.linkedIncidents)]

/-- `NetworkDiagnosisResponse.from_domain`. -/
def networkDiagnosisResponse (result : NetworkDiagnosisResult) : Json :=
  .obj [("collection_id", .str result.collectionId),
    ("collected_at", datetimeJson result.collectedAt),
    ("diagnoses", listJson networkDiagnosisItemResponse result.diagnoses)]

end Api
end MetaRne
