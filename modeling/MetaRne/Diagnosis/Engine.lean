/-
# The diagnosis engine

`diagnosis/engine.py`: what one fabric says about each declared link between
routers.  Four facts are read at the ends of a link, the state of each interface
and of each session to the peer's declared address; what was not observed is
unknown, never down and never up.

A link is diagnosed if a failure is observed at one of its ends, an interface or
a session that is down.  The class and the confidence depend on those four facts
and on whether an observed address contradicts the declared one; everything else
is evidence that moves neither.
-/

import MetaRne.Detection.AnomalyIncidentMapper
import MetaRne.Diagnosis.Topology
import MetaRne.Domain.Diagnosis

namespace MetaRne

open Python

/-- `_INTERFACE_STATE`. -/
def InterfaceOperState.toEndpoint : InterfaceOperState → EndpointInterfaceState
  | .up => .up
  | .down => .down
  | .unknown => .unknown

/-- `_BGP_STATE`. -/
def BgpSessionState.toEndpoint : BgpSessionState → EndpointBgpState
  | .idle => .down
  | .active => .down
  | .established => .established
  | .connect => .other
  | .openSent => .other
  | .openConfirm => .other
  | .unknown => .unknown

namespace DiagnosisEngine

/-- `bgp_neighbor_resource`. -/
def bgpNeighborResource (neighborIp : String) : String := "bgp-neighbor:" ++ neighborIp

/-- The format is duplicated on purpose, and the same. -/
theorem bgpNeighborResource_eq (neighborIp : String) :
    bgpNeighborResource neighborIp = AnomalyIncidentMapper.bgpDownAffectedResource neighborIp := rfl

/-- `_EndView`: one end of a link between routers, with what the fabric observed there. -/
structure EndView where
  endpoint : TopologyEndpoint
  peer : TopologyEndpoint
  node : Option NormalizedOperationalState
  interface : Option InterfaceObservation
  interfaceState : EndpointInterfaceState
  neighbor : Option BgpNeighborObservation
  bgpState : EndpointBgpState
  device_known : (lab1DeviceId? endpoint.nodeId).isSome = true

/-- `_view`. -/
def view (fabric : FabricOperationalState) (endpoint peer : TopologyEndpoint)
    (device_known : (lab1DeviceId? endpoint.nodeId).isSome = true) : EndView :=
  let node := fabric.node? endpoint.nodeId
  let interface := node.bind fun node =>
    if node.isUnavailable .interfaces then none
    else node.interfaces.find? fun item => item.name == endpoint.interfaceName
  let neighbor := node.bind fun node => node.bgp.bind fun bgp =>
    bgp.neighbors.find? fun item => item.neighborIp == peer.address
  { endpoint
    peer
    node
    interface
    interfaceState := match interface with
      | some interface => interface.operState.toEndpoint
      | none => .unknown
    neighbor
    bgpState := match neighbor with
      | some neighbor => neighbor.state.toEndpoint
      | none => .unknown
    device_known }

/-- `_observed_ipv4`. -/
def observedIpv4 (interface : InterfaceObservation) : List String :=
  (interface.addresses.filterMap ipv4InterfaceIp?).insertionSort fun a b => a ≤ b

/-- `_address_matches`: nothing observed is no conflict. -/
def addressMatches (view : EndView) : List String × Option Bool :=
  match view.interface with
  | none => ([], none)
  | some interface =>
    match observedIpv4 interface with
    | [] => ([], none)
    | observed => (observed, some (observed.contains view.endpoint.address))

/-! ### Evidence -/

/-- `_interface_role`. -/
def interfaceRole : DiagnosisType → EndpointInterfaceState → EvidenceRole
  | .physicalLinkFailure, .down => .supports
  | .physicalLinkFailure, .up => .contradicts
  | .physicalLinkFailure, .unknown => .unknown
  | .bgpSessionFailure, .up => .supports
  | .bgpSessionFailure, .down => .contradicts
  | .bgpSessionFailure, .unknown => .unknown
  | .insufficientEvidence, .down => .supports
  | .insufficientEvidence, _ => .unknown

/-- `_bgp_role`. -/
def bgpRole : EndpointBgpState → EvidenceRole
  | .down => .supports
  | .established => .contradicts
  | _ => .unknown

/-- `_interface_item`. -/
def interfaceItem (dtype : DiagnosisType) (view : EndView) : EvidenceItem where
  kind := .interfaceState
  nodeId := view.endpoint.nodeId
  subject := view.endpoint.interfaceName
  observed := .interfaceState ⟨view.endpoint.interfaceName, view.interfaceState⟩
  role := interfaceRole dtype view.interfaceState
  nodeId_not_blank := view.endpoint.valid.1
  subject_not_blank := view.endpoint.valid.2.1
  kind_eq := rfl

/-- `_bgp_item`. -/
def bgpItem (view : EndView) : EvidenceItem where
  kind := .bgpSession
  nodeId := view.endpoint.nodeId
  subject := bgpNeighborResource view.peer.address
  observed := .bgpSession ⟨view.peer.address, view.bgpState,
    view.neighbor.bind fun neighbor => neighbor.rawState⟩
  role := bgpRole view.bgpState
  nodeId_not_blank := view.endpoint.valid.1
  subject_not_blank := AnomalyIncidentMapper.not_isBlank_bgpDownAffectedResource _
  kind_eq := rfl

/-- `_address_item`. -/
def addressItem (view : EndView) : EvidenceItem :=
  let compared := addressMatches view
  { kind := .addressMatch
    nodeId := view.endpoint.nodeId
    subject := view.endpoint.interfaceName
    observed := .addressMatch ⟨view.endpoint.interfaceName, view.endpoint.address, compared.1,
      compared.2⟩
    role := match compared.2 with
      | none => .unknown
      | some true => .supports
      | some false => .contradicts
    nodeId_not_blank := view.endpoint.valid.1
    subject_not_blank := view.endpoint.valid.2.1
    kind_eq := rfl }

/-- `_next_hop_item`: how many routes list the peer as a next hop. -/
def nextHopItem (view : EndView) : EvidenceItem :=
  let count := view.node.bind fun node =>
    if node.isUnavailable .routes then none
    else some (node.routes.countP fun route =>
      route.nextHops.any fun nextHop => nextHop.ip == some view.peer.address)
  { kind := .routeNextHop
    nodeId := view.endpoint.nodeId
    subject := "next-hop:" ++ view.peer.address
    observed := .routeNextHop ⟨view.peer.address, view.endpoint.interfaceName, count⟩
    role := if count = some 0 then .supports else .unknown
    nodeId_not_blank := view.endpoint.valid.1
    subject_not_blank := isBlank_append_of_left (by decide) _
    kind_eq := rfl }

/-- The item of an expectation, given the next hop it loses with the link. -/
def ecmpItem (fabric : FabricOperationalState) (expectation : EcmpExpectation)
    (linkNextHop : String) : EvidenceItem :=
  let routes := (fabric.node? expectation.nodeId).bind fun node =>
    if node.isUnavailable .routes then none
    else some (node.routes.filter fun route =>
      route.prefixText == expectation.prefixText && route.protocol == "bgp")
  let count := routes.map fun routes => (routes.map fun route => route.nextHops.length).sum
  let pathPresent := routes.map fun routes => routes.any fun route =>
    route.nextHops.any fun nextHop => nextHop.ip == some linkNextHop
  { kind := .ecmpPaths
    nodeId := expectation.nodeId
    subject := expectation.prefixText
    observed := .ecmpPaths ⟨expectation.prefixText, count, expectation.expectedPathCount,
      linkNextHop, pathPresent⟩
    role := if pathPresent = some false then .supports else .unknown
    nodeId_not_blank := expectation.valid.1
    subject_not_blank := not_isBlank_of_isIpv4Network expectation.valid.2.2.2.1
    kind_eq := rfl }

/-- `_ecmp_items`: an expectation is context only for a link that it loses a path with. -/
def ecmpItems (fabric : FabricOperationalState) (link : PhysicalLink) : List EvidenceItem :=
  lab1EcmpExpectations.filterMap fun expectation =>
    (ecmpNextHopLostWithLink expectation link).map (ecmpItem fabric expectation)

/-- The item of a host whose probes were not observed. -/
def unobservedReachabilityItem (hostId : String) (h : isBlank hostId = false) : EvidenceItem where
  kind := .reachability
  nodeId := hostId
  subject := "reachability"
  observed := .reachability ⟨"", none, none⟩
  role := .unknown
  nodeId_not_blank := h
  subject_not_blank := by decide
  kind_eq := rfl

/-- The item of a probe: a loss is a consequence, a healthy probe is neutral. -/
def probeItem (hostId : String) (h : isBlank hostId = false) (probe : ReachabilityObservation) :
    EvidenceItem where
  kind := .reachability
  nodeId := hostId
  subject := probe.target
  observed := .reachability ⟨probe.target, some probe.sent, some probe.received⟩
  role := if probe.succeeded then .unknown else .supports
  nodeId_not_blank := h
  subject_not_blank := not_isBlank_of_isIpAddress probe.target_valid
  kind_eq := rfl

/-- The items of one host. -/
def hostReachabilityItems (fabric : FabricOperationalState) (hostId : String)
    (h : isBlank hostId = false) : List EvidenceItem :=
  match fabric.node? hostId with
  | none => [unobservedReachabilityItem hostId h]
  | some node =>
    if node.isUnavailable .reachability || node.reachability.isEmpty then
      [unobservedReachabilityItem hostId h]
    else node.reachability.map (probeItem hostId h)

theorem lab1HostNodeIds_not_blank : ∀ hostId ∈ lab1HostNodeIds, isBlank hostId = false := by decide

/-- `_reachability_items`. -/
def reachabilityItems (fabric : FabricOperationalState) : List EvidenceItem :=
  lab1HostNodeIds.attach.flatMap fun hostId =>
    hostReachabilityItems fabric hostId.1 (lab1HostNodeIds_not_blank hostId.1 hostId.2)

/-! ### Classification -/

/-- `_physical_confidence`. -/
def physicalConfidence (interfaces : List EndpointInterfaceState) (bgp : List EndpointBgpState) :
    DiagnosisConfidence :=
  let bgpDown := bgp.contains .down
  if interfaces.count .down = 2 then
    if bgpDown then .high else .medium
  else if bgpDown then .medium else .low

/-- `_session_confidence`. -/
def sessionConfidence (bgp : List EndpointBgpState) : DiagnosisConfidence :=
  if bgp.all fun state => state == .down then .high else .medium

/-- `_cap_at_medium`. -/
def capAtMedium : DiagnosisConfidence → DiagnosisConfidence
  | .high => .medium
  | confidence => confidence

/-- The class of a diagnosis and its confidence, from the four facts. -/
def classify (interfaces : List EndpointInterfaceState) (bgp : List EndpointBgpState) :
    DiagnosisType × Option DiagnosisConfidence :=
  let established := bgp.contains .established
  if interfaces.contains .down && !established then
    (.physicalLinkFailure, some (physicalConfidence interfaces bgp))
  else if (interfaces.all fun state => state == .up) && bgp.contains .down && !established then
    (.bgpSessionFailure, some (sessionConfidence bgp))
  else (.insufficientEvidence, none)

/-- The confidence is missing exactly when the evidence is insufficient. -/
theorem classify_none_iff (interfaces : List EndpointInterfaceState)
    (bgp : List EndpointBgpState) :
    (classify interfaces bgp).2 = none ↔ (classify interfaces bgp).1 = .insufficientEvidence := by
  unfold classify
  dsimp only
  split_ifs
  · exact iff_of_false nofun nofun
  · exact iff_of_false nofun nofun
  · exact iff_of_true rfl rfl

/-- An observed address contradicts the declared one. -/
def addressConflict (evidence : List EvidenceItem) : Bool :=
  evidence.any fun item => item.kind == .addressMatch && item.role == .contradicts

/-- The symptom of an end: what the incident of its session would be about. -/
def symptomKey (view : EndView) : SymptomKey where
  deviceId := (lab1DeviceId? view.endpoint.nodeId).get view.device_known
  affectedResource := bgpNeighborResource view.peer.address
  deviceId_not_blank := not_isBlank_of_lab1DeviceId? (Option.some_get view.device_known).symm
  affectedResource_not_blank := AnomalyIncidentMapper.not_isBlank_bgpDownAffectedResource _

/-- The symptom keys of the ends whose session is down: each once, in order. -/
def symptomKeys (views : List EndView) : List SymptomKey :=
  ((views.filter fun view => view.bgpState == .down).map symptomKey).dedup.insertionSort
    fun a b => a.deviceId < b.deviceId ∨
      (a.deviceId = b.deviceId ∧ a.affectedResource ≤ b.affectedResource)

/-- The order of the evidence. -/
def evidenceLe (a b : EvidenceItem) : Prop :=
  a.kind.order < b.kind.order ∨ (a.kind.order = b.kind.order ∧
    (a.nodeId < b.nodeId ∨ (a.nodeId = b.nodeId ∧ a.subject ≤ b.subject)))

instance : DecidableRel evidenceLe := fun a b => by
  unfold evidenceLe
  infer_instance

/-- The evidence about the ends themselves. -/
def endEvidence (dtype : DiagnosisType) (a b : EndView) : List EvidenceItem :=
  [interfaceItem dtype a, interfaceItem dtype b, bgpItem a, bgpItem b, addressItem a,
    addressItem b]

/-- The evidence of a diagnosis, before it is put in order. -/
def evidence (fabric : FabricOperationalState) (link : PhysicalLink) (dtype : DiagnosisType)
    (a b : EndView) : List EvidenceItem :=
  endEvidence dtype a b ++
    if dtype ≠ .insufficientEvidence then
      [nextHopItem a, nextHopItem b] ++ ecmpItems fabric link ++ reachabilityItems fabric
    else []

theorem evidence_ne_nil (fabric : FabricOperationalState) (link : PhysicalLink)
    (dtype : DiagnosisType) (a b : EndView) : evidence fabric link dtype a b ≠ [] := by
  rw [evidence, endEvidence, List.cons_append]
  exact List.cons_ne_nil _ _

/-- The link a diagnosis is about. -/
def linkRef (link : PhysicalLink) : LinkRef where
  aNode := link.endpointA.nodeId
  aInterface := link.endpointA.interfaceName
  bNode := link.endpointB.nodeId
  bInterface := link.endpointB.interfaceName
  aNode_not_blank := link.endpointA.valid.1
  aInterface_not_blank := link.endpointA.valid.2.1
  bNode_not_blank := link.endpointB.valid.1
  bInterface_not_blank := link.endpointB.valid.2.1
  canonical := Or.inl link.canonical

/-- The views of a link's ends. -/
def views (fabric : FabricOperationalState) (link : RouterLink) : EndView × EndView :=
  have known := Bool.and_eq_true_iff.1 link.2
  (view fabric link.1.endpointA link.1.endpointB known.1,
    view fabric link.1.endpointB link.1.endpointA known.2)

/-- A failure is observed at one of the ends. -/
def isSymptomatic (a b : EndView) : Bool :=
  [a.interfaceState, b.interfaceState].contains .down || [a.bgpState, b.bgpState].contains .down

/-- `_diagnose_link`. -/
def diagnoseLink (fabric : FabricOperationalState) (link : RouterLink) : Option Diagnosis :=
  let a := (views fabric link).1
  let b := (views fabric link).2
  if isSymptomatic a b = false then none
  else
    let classified := classify [a.interfaceState, b.interfaceState] [a.bgpState, b.bgpState]
    let dtype := classified.1
    some {
      diagnosisType := dtype
      resource := linkRef link.1
      confidence :=
        if addressConflict (endEvidence dtype a b) then classified.2.map capAtMedium
        else classified.2
      evidence := (evidence fabric link.1 dtype a b).insertionSort evidenceLe
      symptomKeys := symptomKeys [a, b]
      collectionId := fabric.collectionId
      collectedAt := fabric.collectedAt
      collectionId_not_blank := fabric.collectionId_not_blank
      confidence_none_iff := by
        rw [← classify_none_iff]
        split_ifs
        · exact Option.map_eq_none_iff
        · exact Iff.rfl
      evidence_ne_nil := fun h => by
        have hperm := List.perm_insertionSort evidenceLe (evidence fabric link.1 dtype a b)
        rw [h] at hperm
        exact evidence_ne_nil fabric link.1 dtype a b hperm.nil_eq.symm }

/-- `DeterministicDiagnosisEngine.diagnose`. -/
def diagnose (fabric : FabricOperationalState) : List Diagnosis :=
  (lab1RouterLinks.filterMap (diagnoseLink fabric)).insertionSort fun a b =>
    a.resource.resourceId ≤ b.resource.resourceId

end DiagnosisEngine
end MetaRne
