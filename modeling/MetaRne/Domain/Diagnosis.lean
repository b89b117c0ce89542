/-
# Diagnoses

`domain/diagnosis.py`: the attribution of observed symptoms to one declared
physical link and a class of fault.  A diagnosis is computed from one fabric and
never stored.

The role of an item of evidence is relative to the diagnosis it belongs to: it
argues for it, against it, or for neither.
-/

import Mathlib.Data.List.Sort
import MetaRne.Domain.Checks

namespace MetaRne

open Python

inductive DiagnosisType
  | physicalLinkFailure
  | bgpSessionFailure
  | insufficientEvidence
  deriving DecidableEq, Repr

def DiagnosisType.value : DiagnosisType → String
  | .physicalLinkFailure => "PHYSICAL_LINK_FAILURE"
  | .bgpSessionFailure => "BGP_SESSION_FAILURE"
  | .insufficientEvidence => "INSUFFICIENT_EVIDENCE"

inductive DiagnosisConfidence
  | high
  | medium
  | low
  deriving DecidableEq, Repr

def DiagnosisConfidence.value : DiagnosisConfidence → String
  | .high => "HIGH"
  | .medium => "MEDIUM"
  | .low => "LOW"

inductive EndpointInterfaceState
  | up
  | down
  | unknown
  deriving DecidableEq, Repr

def EndpointInterfaceState.value : EndpointInterfaceState → String
  | .up => "UP"
  | .down => "DOWN"
  | .unknown => "UNKNOWN"

/-- `down` is an observed Idle or Active, `other` an observed state on the way to
Established. -/
inductive EndpointBgpState
  | down
  | established
  | other
  | unknown
  deriving DecidableEq, Repr

def EndpointBgpState.value : EndpointBgpState → String
  | .down => "DOWN"
  | .established => "ESTABLISHED"
  | .other => "OTHER"
  | .unknown => "UNKNOWN"

/-- The order of the constructors is the order of the evidence. -/
inductive EvidenceKind
  | interfaceState
  | bgpSession
  | addressMatch
  | routeNextHop
  | ecmpPaths
  | reachability
  deriving DecidableEq, Repr

def EvidenceKind.value : EvidenceKind → String
  | .interfaceState => "INTERFACE_STATE"
  | .bgpSession => "BGP_SESSION"
  | .addressMatch => "ADDRESS_MATCH"
  | .routeNextHop => "ROUTE_NEXT_HOP"
  | .ecmpPaths => "ECMP_PATHS"
  | .reachability => "REACHABILITY"

/-- `_KIND_ORDER`. -/
def EvidenceKind.order : EvidenceKind → ℕ
  | .interfaceState => 0
  | .bgpSession => 1
  | .addressMatch => 2
  | .routeNextHop => 3
  | .ecmpPaths => 4
  | .reachability => 5

inductive EvidenceRole
  | supports
  | contradicts
  | unknown
  deriving DecidableEq, Repr

def EvidenceRole.value : EvidenceRole → String
  | .supports => "SUPPORTS"
  | .contradicts => "CONTRADICTS"
  | .unknown => "UNKNOWN"

/-- A declared link, its ends in canonical order. -/
structure LinkRef where
  aNode : String
  aInterface : String
  bNode : String
  bInterface : String
  aNode_not_blank : isBlank aNode = false
  aInterface_not_blank : isBlank aInterface = false
  bNode_not_blank : isBlank bNode = false
  bInterface_not_blank : isBlank bInterface = false
  canonical : aNode < bNode ∨ (aNode = bNode ∧ aInterface < bInterface)

/-- `LinkRef(...)`. -/
def LinkRef.new (aNode aInterface bNode bInterface : String) : Except Error LinkRef := do
  let ⟨haNode⟩ ← requireNonEmpty aNode "LinkRef.a_node"
  let ⟨haInterface⟩ ← requireNonEmpty aInterface "LinkRef.a_interface"
  let ⟨hbNode⟩ ← requireNonEmpty bNode "LinkRef.b_node"
  let ⟨hbInterface⟩ ← requireNonEmpty bInterface "LinkRef.b_interface"
  if h : aNode < bNode ∨ (aNode = bNode ∧ aInterface < bInterface) then
    return ⟨aNode, aInterface, bNode, bInterface, haNode, haInterface, hbNode, hbInterface, h⟩
  else
    throw (.valueError "LinkRef endpoints must be in canonical (node, interface) order" [])

theorem LinkRef.new_eq_ok (link : LinkRef) :
    LinkRef.new link.aNode link.aInterface link.bNode link.bInterface = .ok link := by
  refine requireNonEmpty_bind_eq_ok.2 ⟨link.aNode_not_blank, requireNonEmpty_bind_eq_ok.2
    ⟨link.aInterface_not_blank, requireNonEmpty_bind_eq_ok.2 ⟨link.bNode_not_blank,
      requireNonEmpty_bind_eq_ok.2 ⟨link.bInterface_not_blank, ?_⟩⟩⟩⟩
  exact dif_pos link.canonical

/-- `resource_id`. -/
def LinkRef.resourceId (link : LinkRef) : String :=
  link.aNode ++ ":" ++ link.aInterface ++ "--" ++ link.bNode ++ ":" ++ link.bInterface

/-- What the incident of a symptom would be about. -/
structure SymptomKey where
  deviceId : String
  affectedResource : String
  deviceId_not_blank : isBlank deviceId = false
  affectedResource_not_blank : isBlank affectedResource = false

/-- What a symptom key is compared by. -/
def SymptomKey.fields (key : SymptomKey) : String × String := (key.deviceId, key.affectedResource)

theorem SymptomKey.fields_injective : Function.Injective SymptomKey.fields := by
  rintro ⟨_, _, _, _⟩ ⟨_, _, _, _⟩ h
  cases h
  rfl

instance : DecidableEq SymptomKey := SymptomKey.fields_injective.decidableEq

/-- `SymptomKey(...)`. -/
def SymptomKey.new (deviceId affectedResource : String) : Except Error SymptomKey := do
  let ⟨hdevice⟩ ← requireNonEmpty deviceId "SymptomKey.device_id"
  let ⟨hresource⟩ ← requireNonEmpty affectedResource "SymptomKey.affected_resource"
  return ⟨deviceId, affectedResource, hdevice, hresource⟩

theorem SymptomKey.new_eq_ok (key : SymptomKey) :
    SymptomKey.new key.deviceId key.affectedResource = .ok key :=
  requireNonEmpty_bind_eq_ok.2 ⟨key.deviceId_not_blank,
    requireNonEmpty_bind_eq_ok.2 ⟨key.affectedResource_not_blank, rfl⟩⟩

structure InterfaceStateObserved where
  interfaceName : String
  state : EndpointInterfaceState

structure BgpSessionObserved where
  neighborIp : String
  state : EndpointBgpState
  rawState : Option String

/-- `matched` is `none` when there was nothing to compare. -/
structure AddressObserved where
  interfaceName : String
  declaredAddress : String
  observedAddresses : List String
  matched : Option Bool

/-- How many active routes list the next hop; `none` when routes were not observed. -/
structure NextHopObserved where
  nextHopIp : String
  interfaceName : String
  activeRouteCount : Option ℕ

structure EcmpPathsObserved where
  prefixText : String
  observedPathCount : Option ℕ
  expectedPathCount : ℕ
  linkNextHopIp : String
  linkPathPresent : Option Bool

/-- The counts are `none` when the probe was not observed. -/
structure ReachabilityObserved where
  target : String
  sent : Option ℕ
  received : Option ℕ

/-- `EvidenceObservation`: what was observed, one record for each kind. -/
inductive EvidenceObservation
  | interfaceState (observed : InterfaceStateObserved)
  | bgpSession (observed : BgpSessionObserved)
  | addressMatch (observed : AddressObserved)
  | routeNextHop (observed : NextHopObserved)
  | ecmpPaths (observed : EcmpPathsObserved)
  | reachability (observed : ReachabilityObserved)

/-- `_OBSERVATION_TYPE_BY_KIND`, read from the record to its kind. -/
def EvidenceObservation.kind : EvidenceObservation → EvidenceKind
  | .interfaceState _ => .interfaceState
  | .bgpSession _ => .bgpSession
  | .addressMatch _ => .addressMatch
  | .routeNextHop _ => .routeNextHop
  | .ecmpPaths _ => .ecmpPaths
  | .reachability _ => .reachability

/-- The name of the record of a kind. -/
def EvidenceKind.recordName : EvidenceKind → String
  | .interfaceState => "InterfaceStateObserved"
  | .bgpSession => "BgpSessionObserved"
  | .addressMatch => "AddressObserved"
  | .routeNextHop => "NextHopObserved"
  | .ecmpPaths => "EcmpPathsObserved"
  | .reachability => "ReachabilityObserved"

structure EvidenceItem where
  kind : EvidenceKind
  nodeId : String
  subject : String
  observed : EvidenceObservation
  role : EvidenceRole
  nodeId_not_blank : isBlank nodeId = false
  subject_not_blank : isBlank subject = false
  kind_eq : observed.kind = kind

/-- `EvidenceItem(...)`. -/
def EvidenceItem.new (kind : EvidenceKind) (nodeId subject : String)
    (observed : EvidenceObservation) (role : EvidenceRole) : Except Error EvidenceItem := do
  let ⟨hnode⟩ ← requireNonEmpty nodeId "EvidenceItem.node_id"
  let ⟨hsubject⟩ ← requireNonEmpty subject "EvidenceItem.subject"
  if h : observed.kind = kind then
    return ⟨kind, nodeId, subject, observed, role, hnode, hsubject, h⟩
  else
    throw (.valueError "EvidenceItem.observed must be a %s for kind %s, got %s"
      [kind.recordName, kind.value, observed.kind.recordName])

theorem EvidenceItem.new_eq_ok (item : EvidenceItem) :
    EvidenceItem.new item.kind item.nodeId item.subject item.observed item.role = .ok item := by
  refine requireNonEmpty_bind_eq_ok.2 ⟨item.nodeId_not_blank, requireNonEmpty_bind_eq_ok.2
    ⟨item.subject_not_blank, ?_⟩⟩
  exact dif_pos item.kind_eq

/-- `confidence` is `none` exactly for insufficient evidence. -/
structure Diagnosis where
  diagnosisType : DiagnosisType
  resource : LinkRef
  confidence : Option DiagnosisConfidence
  evidence : List EvidenceItem
  symptomKeys : List SymptomKey
  collectionId : String
  collectedAt : Timestamp
  collectionId_not_blank : isBlank collectionId = false
  confidence_none_iff : confidence = none ↔ diagnosisType = .insufficientEvidence
  evidence_ne_nil : evidence ≠ []

/-- `Diagnosis(...)`. -/
def Diagnosis.new (diagnosisType : DiagnosisType) (resource : LinkRef)
    (confidence : Option DiagnosisConfidence) (evidence : List EvidenceItem)
    (symptomKeys : List SymptomKey) (collectionId : String) (collectedAt : Datetime) :
    Except Error Diagnosis := do
  let ⟨hcollection⟩ ← requireNonEmpty collectionId "Diagnosis.collection_id"
  let collectedAt ← requireUtc collectedAt "Diagnosis.collected_at"
  if hconfidence : confidence = none ↔ diagnosisType = .insufficientEvidence then
    if hevidence : evidence = [] then
      throw (.valueError "Diagnosis.evidence must not be empty" [])
    else
      return ⟨diagnosisType, resource, confidence, evidence, symptomKeys, collectionId,
        collectedAt, hcollection, hconfidence, hevidence⟩
  else if diagnosisType = .insufficientEvidence then
    throw (.valueError "Diagnosis.confidence must be None for INSUFFICIENT_EVIDENCE" [])
  else throw (.valueError "Diagnosis.confidence is required for %s" [diagnosisType.value])

theorem Diagnosis.new_eq_ok (diagnosis : Diagnosis) :
    Diagnosis.new diagnosis.diagnosisType diagnosis.resource diagnosis.confidence
      diagnosis.evidence diagnosis.symptomKeys diagnosis.collectionId
      (.utc diagnosis.collectedAt) = .ok diagnosis := by
  refine requireNonEmpty_bind_eq_ok.2 ⟨diagnosis.collectionId_not_blank,
    requireUtc_bind_eq_ok.2 ⟨diagnosis.collectedAt, rfl, ?_⟩⟩
  exact (dif_pos diagnosis.confidence_none_iff).trans (dif_neg diagnosis.evidence_ne_nil)

end MetaRne
