/-
# The dashboard and the diagnosis engine agree

The state of a link is decided twice: by the engine over the fabric, and by the
client over the served response, with its own copy of the topology.  Both come down
to what the fabric shows of four places (`interfaceSeen`, `sessionSeen`): a link that
the engine diagnoses is shown down, or its adjacency degraded, and so the network is
degraded; and where the dashboard says healthy there is nothing to diagnose.
-/

import MetaRne.Application.DiagnosisAgreement
import MetaRne.Diagnosis.Locality
import MetaRne.Frontend.Derive
import MetaRne.Frontend.NetworkStateServed
import MetaRne.Persistence.SaveAgreement

namespace MetaRne
namespace Frontend

open Api Library.Effect Python

/-! ### What is accepted is served -/

/-- A fabric with a source names one, with texts that are not blank. -/
theorem source_not_blank {fabric : FabricOperationalState} {source : FabricSourceIdentity}
    (h : deriveFabricSource fabric = .ok source) :
    isBlank source.collector = false ∧ isBlank source.labName = false := by
  unfold deriveFabricSource at h
  split at h
  · cases h
  · next first rest _ =>
    split_ifs at h
    cases h
    exact ⟨first.source.collector_not_blank, first.source.labName_not_blank⟩

/-- The routers of a fabric that detection went through are registered. -/
theorem registered_of_detect {fabric : FabricOperationalState} {anomalies : List Anomaly}
    (h : OperationalStateDetector.detect fabric = .ok anomalies) :
    ∀ node ∈ fabric.nodes, Registered node := by
  intro node hnode hrole
  obtain ⟨found, hfound, -⟩ := except_bind_eq_ok.1 h
  obtain ⟨_, -, hdetected⟩ := exists_right_of_forall₂ (except_mapM_eq_ok.1 hfound) hnode
  rw [OperationalStateDetector.detectNode, if_neg (not_not.2 hrole)] at hdetected
  cases hdevice : lab1DeviceId? node.nodeId with
  | some deviceId => rfl
  | none =>
      rw [hdevice] at hdetected
      cases hdetected

/-- What ingestion accepts has a source and registered routers. -/
theorem servable_of_ingest {ids : IdFactory} {p p' : Platform} {fabric : FabricOperationalState}
    {result : OperationalStateIngestionResult}
    (h : (OperationalStateIngestion.ingest ids fabric).run p = .ok result p') :
    ∃ source, deriveFabricSource fabric = .ok source ∧
      ∀ node ∈ fabric.nodes, Registered node := by
  obtain ⟨ingested, s, hbody, -, -⟩ := OperationalStateIngestion.ingest_ok h
  obtain ⟨source, hsource, -⟩ := check_bind_eq_ok.1 hbody
  obtain ⟨hdetect, -⟩ := OperationalStateIngestion.body_ok hbody
  exact ⟨source, hsource, registered_of_detect hdetect⟩

/-! ### What the client shows of an end -/

section Ends

variable {fabric : FabricOperationalState} {state : NetworkStateResponse}

/-- The client finds the node that the fabric has. -/
theorem findNode_served (hnodes : state.nodes = fabric.nodes.map Served.node) (nodeId : String) :
    findNode (some state) nodeId = (fabric.node? nodeId).map Served.node := by
  show state.nodes.find? _ = _
  rw [hnodes, List.find?_map, FabricOperationalState.node?]
  rfl

/-- What the client shows of an interface is what the fabric shows of it. -/
theorem observeEndpointInterface_served (hnodes : state.nodes = fabric.nodes.map Served.node)
    (endpoint : TopologyEndpoint) :
    (observeEndpointInterface (some state) endpoint).state =
      ((fabric.interfaceSeen endpoint.node endpoint.interface).map Prod.fst).getD .unknown := by
  rw [observeEndpointInterface, findNode_served hnodes, FabricOperationalState.interfaceSeen]
  cases fabric.node? endpoint.node with
  | none => rfl
  | some node =>
      simp only [Option.map_some, Option.bind_some, Served.node, servedInterfaces, facetData]
      by_cases hunavailable : node.isUnavailable .interfaces = true
      · simp only [hunavailable, if_true, Option.map_none, Option.getD_none]
      · simp only [hunavailable, Bool.false_eq_true, if_false, Option.map_some, List.find?_map]
        cases hfind : node.interfaces.find? fun item => item.name == endpoint.interface with
        | none =>
            have hnone : node.interfaces.find?
                ((fun i => i.name == endpoint.interface) ∘ Served.interface) = none := hfind
            simp only [hnone, Option.map_none]
            rfl
        | some item =>
            have hsome : node.interfaces.find?
                ((fun i => i.name == endpoint.interface) ∘ Served.interface) = some item := hfind
            simp only [hsome, Option.map_some]
            rfl

/-- The state of a session that was observed. -/
def BgpEndpointState.seen : BgpEndpointState → Option BgpSessionState
  | .observed state _ => some state
  | _ => none

/-- What the client shows of a session is what the fabric shows of it. -/
theorem observeBgpEndpoint_served (hnodes : state.nodes = fabric.nodes.map Served.node)
    (endpoint peer : TopologyEndpoint) :
    (observeBgpEndpoint (some state) endpoint peer).observation.seen =
      fabric.sessionSeen endpoint.node peer.address := by
  rw [observeBgpEndpoint, findNode_served hnodes, FabricOperationalState.sessionSeen]
  cases fabric.node? endpoint.node with
  | none => rfl
  | some node =>
      simp only [Option.map_some, Option.bind_some, Served.node]
      cases node.bgp with
      | none => rfl
      | some bgp =>
          simp only [Option.map_some, Option.bind_some, Served.bgp, List.find?_map]
          cases hfind : bgp.neighbors.find? fun item => item.neighborIp == peer.address with
          | none =>
              have hnone : bgp.neighbors.find?
                  ((fun n => n.neighborIp == peer.address) ∘ Served.bgpNeighbor) = none := hfind
              simp only [hnone, Option.map_none]
              rfl
          | some neighbor =>
              have hsome : bgp.neighbors.find?
                  ((fun n => n.neighborIp == peer.address) ∘ Served.bgpNeighbor) =
                    some neighbor := hfind
              simp only [hsome, Option.map_some]
              rfl

theorem combinePhysicalState_down {a b : PhysicalLinkState} (h : a = .down ∨ b = .down) :
    combinePhysicalState a b = .down :=
  if_pos h

/-- A session on the way to Established, or away from it, degrades the adjacency. -/
theorem combineBgpEndpoints_degraded {a b : BgpEndpointState} {state : BgpSessionState}
    (hstate : state ≠ .established ∧ state ≠ .unknown) (h : a.seen = some state ∨ b.seen = some state) :
    combineBgpEndpoints a b = .degraded := by
  have hknown : ∀ o : BgpEndpointState, o.seen = some state →
      isEstablished o = false ∧ isKnownNonEstablished o = true := by
    intro o ho
    cases o with
    | observed s raw =>
        cases ho
        simp only [isEstablished, isKnownNonEstablished, Bool.and_eq_true, bne_iff_ne,
          beq_eq_false_iff_ne]
        exact ⟨hstate.1, hstate⟩
    | _ => cases ho
  rw [combineBgpEndpoints]
  rcases h with h | h
  · obtain ⟨hnot, hdown⟩ := hknown a h
    rw [hnot, hdown]
    rfl
  · obtain ⟨hnot, hdown⟩ := hknown b h
    rw [hnot, hdown, Bool.and_false, Bool.or_true]
    rfl

end Ends

/-! ### The two copies of the topology -/

/-- A link of the client has the ends that a link of the backend has. -/
structure SameLink (link : TopologyLink) (declared : PhysicalLink) : Prop where
  aNode : link.a.node = declared.endpointA.nodeId
  aInterface : link.a.interface = declared.endpointA.interfaceName
  aAddress : link.a.address = declared.endpointA.address
  bNode : link.b.node = declared.endpointB.nodeId
  bInterface : link.b.interface = declared.endpointB.interfaceName
  bAddress : link.b.address = declared.endpointB.address

theorem sameLink_iff {link : TopologyLink} {declared : PhysicalLink} :
    SameLink link declared ↔
      (link.a.node, link.a.interface, link.a.address) =
          (declared.endpointA.nodeId, declared.endpointA.interfaceName,
            declared.endpointA.address) ∧
        (link.b.node, link.b.interface, link.b.address) =
          (declared.endpointB.nodeId, declared.endpointB.interfaceName,
            declared.endpointB.address) := by
  simp only [Prod.mk.injEq]
  constructor
  · rintro ⟨h₁, h₂, h₃, h₄, h₅, h₆⟩
    exact ⟨⟨h₁, h₂, h₃⟩, h₄, h₅, h₆⟩
  · rintro ⟨⟨h₁, h₂, h₃⟩, h₄, h₅, h₆⟩
    exact ⟨h₁, h₂, h₃, h₄, h₅, h₆⟩

instance (link : TopologyLink) (declared : PhysicalLink) : Decidable (SameLink link declared) :=
  decidable_of_iff _ sameLink_iff.symm

/-- Every link that is diagnosed is a fabric link of the client. -/
theorem exists_sameLink : ∀ declared ∈ lab1RouterLinks,
    ∃ link ∈ fabricLinks, SameLink link declared.1 := by
  decide +kernel

theorem mem_topologyLinks {link : TopologyLink} (h : link ∈ fabricLinks) : link ∈ topologyLinks :=
  (List.mem_filter.1 h).1

/-! ### One link -/

section Link

variable {fabric : FabricOperationalState} {state : NetworkStateResponse}

/-- An interface that the engine takes for down was reported down. -/
theorem down_of_toEndpoint {seen : Option (InterfaceOperState × List String)}
    (h : (seen.map fun seen => seen.1.toEndpoint).getD .unknown = .down) :
    (seen.map Prod.fst).getD .unknown = .down := by
  cases seen with
  | none => cases h
  | some seen =>
      obtain ⟨operState, addresses⟩ := seen
      cases operState with
      | down => rfl
      | _ => cases h

/-- A session that the engine takes for down was reported Idle or Active. -/
theorem session_of_toEndpoint {seen : Option BgpSessionState}
    (h : (seen.map fun state => state.toEndpoint).getD .unknown = .down) :
    ∃ state : BgpSessionState, seen = some state ∧ state ≠ .established ∧ state ≠ .unknown := by
  cases seen with
  | none => cases h
  | some state =>
      refine ⟨state, rfl, ?_⟩
      rcases DiagnosisEngine.isDown_of_toEndpoint h with rfl | rfl
      · exact ⟨by decide, by decide⟩
      · exact ⟨by decide, by decide⟩

/-- **A link that is diagnosed is shown down, or its adjacency degraded.** -/
theorem shown_of_diagnoseLink (hnodes : state.nodes = fabric.nodes.map Served.node)
    {declared : RouterLink} {diagnosis : MetaRne.Diagnosis}
    (h : DiagnosisEngine.diagnoseLink fabric declared = some diagnosis) {link : TopologyLink}
    (hlink : SameLink link declared.1) :
    (derivePhysicalLink (some state) link).state = .down ∨
      (deriveBgpAdjacency (some state) link).state = .degraded := by
  have known := Bool.and_eq_true_iff.1 declared.2
  have hsymptomatic := (DiagnosisEngine.isDiagnosisOf h).symptomatic
  have hia := observeEndpointInterface_served hnodes link.a
  have hib := observeEndpointInterface_served hnodes link.b
  have hba := observeBgpEndpoint_served hnodes link.a link.b
  have hbb := observeBgpEndpoint_served hnodes link.b link.a
  rw [hlink.aNode, hlink.aInterface] at hia
  rw [hlink.bNode, hlink.bInterface] at hib
  rw [hlink.aNode, hlink.bAddress] at hba
  rw [hlink.bNode, hlink.aAddress] at hbb
  rw [DiagnosisEngine.isSymptomatic, Bool.or_eq_true, List.contains_iff_mem,
    List.contains_iff_mem, List.mem_pair, List.mem_pair] at hsymptomatic
  rcases hsymptomatic with (hdown | hdown) | (hdown | hdown)
  · left
    have hseen := down_of_toEndpoint
      ((DiagnosisEngine.view_interfaceState known.1).symm.trans hdown.symm)
    exact combinePhysicalState_down (.inl (hia.trans hseen))
  · left
    have hseen := down_of_toEndpoint
      ((DiagnosisEngine.view_interfaceState known.2).symm.trans hdown.symm)
    exact combinePhysicalState_down (.inr (hib.trans hseen))
  · right
    obtain ⟨session, hseen, hstate⟩ := session_of_toEndpoint
      ((DiagnosisEngine.view_bgpState known.1).symm.trans hdown.symm)
    exact combineBgpEndpoints_degraded hstate (.inl (hba.trans hseen))
  · right
    obtain ⟨session, hseen, hstate⟩ := session_of_toEndpoint
      ((DiagnosisEngine.view_bgpState known.2).symm.trans hdown.symm)
    exact combineBgpEndpoints_degraded hstate (.inr (hbb.trans hseen))

end Link

/-- The link of a diagnosis, as the client names it. -/
def IsLinkOf (link : TopologyLink) (resource : LinkRef) : Prop :=
  (link.a.node, link.a.interface) = (resource.aNode, resource.aInterface) ∧
    (link.b.node, link.b.interface) = (resource.bNode, resource.bInterface)

/-- Every diagnosis is of a link that the client shows down or degraded. -/
theorem shown_of_diagnose {fabric : FabricOperationalState} {state : NetworkStateResponse}
    (hnodes : state.nodes = fabric.nodes.map Served.node) {diagnosis : MetaRne.Diagnosis}
    (h : diagnosis ∈ DiagnosisEngine.diagnose fabric) :
    ∃ link ∈ fabricLinks, IsLinkOf link diagnosis.resource ∧
      ((derivePhysicalLink (some state) link).state = .down ∨
        (deriveBgpAdjacency (some state) link).state = .degraded) := by
  obtain ⟨declared, hdeclared, hdiagnosed⟩ := DiagnosisEngine.mem_diagnose.1 h
  obtain ⟨link, hmem, hlink⟩ := exists_sameLink declared hdeclared
  have hresource := (DiagnosisEngine.isDiagnosisOf hdiagnosed).resource
  refine ⟨link, hmem, ?_, shown_of_diagnoseLink hnodes hdiagnosed hlink⟩
  rw [IsLinkOf, hresource, hlink.aNode, hlink.aInterface, hlink.bNode, hlink.bInterface]
  exact ⟨rfl, rfl⟩

/-- **The dashboard agrees with the engine.**  The body served for a fabric that
ingestion accepts is accepted by the client; each link that the engine diagnoses is
shown down or its adjacency degraded, and the network is degraded; and where the
network is healthy the engine returns no diagnosis. -/
theorem dashboard_agrees {ids : IdFactory} {p p' : Platform}
    {result : OperationalStateIngestionResult} (fabric : DatedFabric) {retrievedAt : Timestamp}
    (hretrieved : retrievedAt ≤ maxTimestamp)
    (h : (OperationalStateIngestion.ingest ids fabric.1).run p = .ok result p') :
    ∃ source body state, deriveFabricSource fabric.1 = .ok source ∧
      networkStateResponse ⟨fabric.1, source, retrievedAt⟩ = .ok body ∧
      isNetworkStateResponse body = true ∧ networkStateResponse? body = some state ∧
      (∀ diagnosis ∈ DiagnosisEngine.diagnose fabric.1,
        (∃ link ∈ fabricLinks, IsLinkOf link diagnosis.resource ∧
          ((derivePhysicalLink (some state) link).state = .down ∨
            (deriveBgpAdjacency (some state) link).state = .degraded)) ∧
        ∀ incidents, (deriveNetworkSummary (some state) incidents).status = .degraded) ∧
      ∀ incidents, (deriveNetworkSummary (some state) incidents).status = .healthy →
        DiagnosisEngine.diagnose fabric.1 = [] := by
  obtain ⟨source, hsource, hrouters⟩ := servable_of_ingest h
  obtain ⟨body, state, hbody, hstate, -, -, -, hnodes⟩ :=
    @networkStateResponse?_served ⟨fabric.1, source, retrievedAt⟩ hrouters
      (source_not_blank hsource) fabric.2 hretrieved
  have hshown : ∀ diagnosis ∈ DiagnosisEngine.diagnose fabric.1,
      (∃ link ∈ fabricLinks, IsLinkOf link diagnosis.resource ∧
        ((derivePhysicalLink (some state) link).state = .down ∨
          (deriveBgpAdjacency (some state) link).state = .degraded)) ∧
      ∀ incidents, (deriveNetworkSummary (some state) incidents).status = .degraded := by
    intro diagnosis hdiagnosis
    obtain ⟨link, hmem, hlink, hshown⟩ := shown_of_diagnose hnodes hdiagnosis
    refine ⟨⟨link, hmem, hlink, hshown⟩, fun incidents => status_of_anyDegraded ?_ incidents⟩
    rcases hshown with hdown | hdegraded
    · exact anyDegraded_of_down (mem_topologyLinks hmem) hdown
    · exact anyDegraded_of_degraded hmem hdegraded
  refine ⟨source, body, state, hsource, hbody, ?_, hstate, hshown, fun incidents hhealthy => ?_⟩
  · rw [isNetworkStateResponse, hstate]
    rfl
  · rw [List.eq_nil_iff_forall_not_mem]
    intro diagnosis hdiagnosis
    have hdegraded := (hshown diagnosis hdiagnosis).2 incidents
    rw [hhealthy] at hdegraded
    cases hdegraded

set_option maxRecDepth 20000 in
/-- A fabric of Lab 1 with one session down: it is accepted, has a diagnosis, and the
network is shown degraded. -/
theorem dashboard_agrees_uplink :
    (DiagnosisEngine.diagnose uplinkDown).length = 1 ∧
      ∃ source body state, networkStateResponse ⟨uplinkDown, source, 6⟩ = .ok body ∧
        networkStateResponse? body = some state ∧
        (deriveNetworkSummary (some state) none).status = .degraded := by
  have hone : (DiagnosisEngine.diagnose uplinkDown).length = 1 := by decide +kernel
  refine ⟨hone, ?_⟩
  have haccepted : (match (OperationalStateIngestion.ingest labDeployment.incidentIds
      uplinkDown).run labPlatform with
      | .ok _ _ => true
      | .error _ _ => false) = true := by decide +kernel
  cases h : (OperationalStateIngestion.ingest labDeployment.incidentIds uplinkDown).run
      labPlatform with
  | error e p' =>
      rw [h] at haccepted
      cases haccepted
  | ok result p' =>
      obtain ⟨source, body, state, -, hbody, -, hstate, hshown, -⟩ :=
        dashboard_agrees ⟨uplinkDown, by decide⟩ (by decide : 6 ≤ maxTimestamp) h
      obtain ⟨diagnosis, hdiagnosis⟩ := List.exists_mem_of_length_pos (hone.symm ▸ Nat.one_pos)
      exact ⟨source, body, state, hbody, hstate, (hshown diagnosis hdiagnosis).2 none⟩

end Frontend
end MetaRne
