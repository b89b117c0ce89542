/-
# `GET /network/diagnosis` in the client

`api/networkDiagnosisTypes.ts`: the response as the client uses it, and the guards
that accept a JSON body as one.  Each kind of evidence has the one shape of what was
observed that its guard accepts (`observedGuard?`).
-/

import MetaRne.Domain.Diagnosis
import MetaRne.Frontend.Guards

namespace MetaRne
namespace Frontend

open Python

/-- `DIAGNOSIS_TYPES`. -/
def diagnosisTypes : List (String × DiagnosisType) :=
  [("PHYSICAL_LINK_FAILURE", .physicalLinkFailure), ("BGP_SESSION_FAILURE", .bgpSessionFailure),
    ("INSUFFICIENT_EVIDENCE", .insufficientEvidence)]

/-- `DIAGNOSIS_CONFIDENCES`. -/
def diagnosisConfidences : List (String × DiagnosisConfidence) :=
  [("HIGH", .high), ("MEDIUM", .medium), ("LOW", .low)]

/-- `EVIDENCE_ROLES`. -/
def evidenceRoles : List (String × EvidenceRole) :=
  [("SUPPORTS", .supports), ("CONTRADICTS", .contradicts), ("UNKNOWN", .unknown)]

/-- `EVIDENCE_KINDS`. -/
def evidenceKinds : List (String × EvidenceKind) :=
  [("INTERFACE_STATE", .interfaceState), ("BGP_SESSION", .bgpSession),
    ("ADDRESS_MATCH", .addressMatch), ("ROUTE_NEXT_HOP", .routeNextHop),
    ("ECMP_PATHS", .ecmpPaths), ("REACHABILITY", .reachability)]

/-- `ENDPOINT_INTERFACE_STATES`. -/
def endpointInterfaceStates : List (String × EndpointInterfaceState) :=
  [("UP", .up), ("DOWN", .down), ("UNKNOWN", .unknown)]

/-- `ENDPOINT_BGP_STATES`. -/
def endpointBgpStates : List (String × EndpointBgpState) :=
  [("DOWN", .down), ("ESTABLISHED", .established), ("OTHER", .other), ("UNKNOWN", .unknown)]

structure DiagnosisEndpoint where
  nodeId : String
  interface : String
  deriving DecidableEq

structure DiagnosisResource where
  resourceId : String
  endpointA : DiagnosisEndpoint
  endpointB : DiagnosisEndpoint
  deriving DecidableEq

structure SymptomKey where
  deviceId : String
  affectedResource : String
  deriving DecidableEq

structure LinkedIncident where
  incidentId : String
  deviceId : String
  affectedResource : String
  severity : String
  status : String
  createdAt : ParseableTimestamp
  lastSeenAt : ParseableTimestamp
  occurrenceCount : ℕ
  deriving DecidableEq

/-- An item of evidence; what was observed has the shape of its kind. -/
structure DiagnosisEvidence where
  kind : EvidenceKind
  role : EvidenceRole
  nodeId : String
  subject : String
  observed : EvidenceObservation

/-- `confidence` is `none` exactly for insufficient evidence. -/
structure Diagnosis where
  diagnosisType : DiagnosisType
  confidence : Option DiagnosisConfidence
  resource : DiagnosisResource
  evidence : List DiagnosisEvidence
  symptomKeys : List SymptomKey
  linkedIncidents : List LinkedIncident

structure NetworkDiagnosisResponse where
  collectionId : String
  collectedAt : ParseableTimestamp
  diagnoses : List Diagnosis

/-! ### Guards -/

def endpoint? (value : Json) : Option DiagnosisEndpoint := do
  let nodeId ← (← field value "node_id") |> nonEmptyString?
  let interface ← (← field value "interface") |> nonEmptyString?
  return ⟨nodeId, interface⟩

def resource? (value : Json) : Option DiagnosisResource := do
  let resourceId ← (← field value "resource_id") |> nonEmptyString?
  let endpointA ← (← field value "endpoint_a") |> endpoint?
  let endpointB ← (← field value "endpoint_b") |> endpoint?
  return ⟨resourceId, endpointA, endpointB⟩

def interfaceStateObserved? (o : Json) : Option InterfaceStateObserved := do
  let interfaceName ← (← field o "interface_name") |> nonEmptyString?
  let state ← (← field o "state") |> oneOf endpointInterfaceStates
  return ⟨interfaceName, state⟩

def bgpSessionObserved? (o : Json) : Option BgpSessionObserved := do
  let neighborIp ← (← field o "neighbor_ip") |> nonEmptyString?
  let state ← (← field o "state") |> oneOf endpointBgpStates
  let rawState ← (← field o "raw_state") |> nullable string?
  return ⟨neighborIp, state, rawState⟩

def addressObserved? (o : Json) : Option AddressObserved := do
  let interfaceName ← (← field o "interface_name") |> nonEmptyString?
  let declaredAddress ← (← field o "declared_address") |> nonEmptyString?
  let observedAddresses ← (← field o "observed_addresses") |> arrayOf nonEmptyString?
  let matched ← (← field o "matches") |> nullable boolean?
  return ⟨interfaceName, declaredAddress, observedAddresses, matched⟩

def nextHopObserved? (o : Json) : Option NextHopObserved := do
  let nextHopIp ← (← field o "next_hop_ip") |> nonEmptyString?
  let interfaceName ← (← field o "interface_name") |> nonEmptyString?
  let activeRouteCount ← (← field o "active_route_count") |> nullable nonNegativeInteger?
  return ⟨nextHopIp, interfaceName, activeRouteCount⟩

def ecmpPathsObserved? (o : Json) : Option EcmpPathsObserved := do
  let prefixText ← (← field o "prefix") |> nonEmptyString?
  let observedPaths ← (← field o "observed_paths") |> nullable nonNegativeInteger?
  let expectedPaths ← (← field o "expected_paths") |> nonNegativeInteger?
  let linkNextHopIp ← (← field o "link_next_hop_ip") |> nonEmptyString?
  let linkNextHopPresent ← (← field o "link_next_hop_present") |> nullable boolean?
  return ⟨prefixText, observedPaths, expectedPaths, linkNextHopIp, linkNextHopPresent⟩

def reachabilityObserved? (o : Json) : Option ReachabilityObserved := do
  let target ← (← field o "target") |> nonEmptyString?
  let sent ← (← field o "sent") |> nullable nonNegativeInteger?
  let received ← (← field o "received") |> nullable nonNegativeInteger?
  return ⟨target, sent, received⟩

/-- `OBSERVED_GUARDS`. -/
def observedGuard? : EvidenceKind → Json → Option EvidenceObservation
  | .interfaceState, o => (interfaceStateObserved? o).map .interfaceState
  | .bgpSession, o => (bgpSessionObserved? o).map .bgpSession
  | .addressMatch, o => (addressObserved? o).map .addressMatch
  | .routeNextHop, o => (nextHopObserved? o).map .routeNextHop
  | .ecmpPaths, o => (ecmpPathsObserved? o).map .ecmpPaths
  | .reachability, o => (reachabilityObserved? o).map .reachability

def diagnosisEvidence? (value : Json) : Option DiagnosisEvidence := do
  let kind ← (← field value "kind") |> oneOf evidenceKinds
  let role ← (← field value "role") |> oneOf evidenceRoles
  let nodeId ← (← field value "node_id") |> nonEmptyString?
  let subject ← (← field value "subject") |> nonEmptyString?
  let observed ← (← field value "observed") |> observedGuard? kind
  return ⟨kind, role, nodeId, subject, observed⟩

def symptomKey? (value : Json) : Option SymptomKey := do
  let deviceId ← (← field value "device_id") |> nonEmptyString?
  let affectedResource ← (← field value "affected_resource") |> nonEmptyString?
  return ⟨deviceId, affectedResource⟩

def linkedIncident? (value : Json) : Option LinkedIncident := do
  let incidentId ← (← field value "incident_id") |> nonEmptyString?
  let deviceId ← (← field value "device_id") |> nonEmptyString?
  let affectedResource ← (← field value "affected_resource") |> nonEmptyString?
  let severity ← (← field value "severity") |> nonEmptyString?
  let status ← (← field value "status") |> nonEmptyString?
  let createdAt ← (← field value "created_at") |> parseableTimestamp?
  let lastSeenAt ← (← field value "last_seen_at") |> parseableTimestamp?
  let occurrenceCount ← (← field value "occurrence_count") |> nonNegativeInteger?
  return ⟨incidentId, deviceId, affectedResource, severity, status, createdAt, lastSeenAt,
    occurrenceCount⟩

/-- The confidence of a type: null exactly for insufficient evidence. -/
def confidence? : DiagnosisType → Json → Option (Option DiagnosisConfidence)
  | .insufficientEvidence, .null => some none
  | .insufficientEvidence, _ => none
  | _, value => (oneOf diagnosisConfidences value).map some

def diagnosis? (value : Json) : Option Diagnosis := do
  let diagnosisType ← (← field value "diagnosis_type") |> oneOf diagnosisTypes
  let confidence ← (← field value "confidence") |> confidence? diagnosisType
  let resource ← (← field value "resource") |> resource?
  let evidence ← (← field value "evidence") |> arrayOf diagnosisEvidence?
  let symptomKeys ← (← field value "symptom_keys") |> arrayOf symptomKey?
  let linkedIncidents ← (← field value "linked_incidents") |> arrayOf linkedIncident?
  return ⟨diagnosisType, confidence, resource, evidence, symptomKeys, linkedIncidents⟩

def networkDiagnosisResponse? (value : Json) : Option NetworkDiagnosisResponse := do
  let collectionId ← (← field value "collection_id") |> nonEmptyString?
  let collectedAt ← (← field value "collected_at") |> parseableTimestamp?
  let diagnoses ← (← field value "diagnoses") |> arrayOf diagnosis?
  return ⟨collectionId, collectedAt, diagnoses⟩

/-- `isNetworkDiagnosisResponse`. -/
def isNetworkDiagnosisResponse (value : Json) : Bool := (networkDiagnosisResponse? value).isSome

end Frontend
end MetaRne
