/-
# The order of a fabric's parts does not matter

A collector lists nodes, interfaces, addresses, neighbours, routes, next hops and probes
in any order.  The engine finds what it reads by names that occur once, counts and sums
the rest, and sorts what it lists; so the diagnoses of two fabrics that differ in these
orders alone are the same (`diagnose_eq_of_reorders`).

The last sort is by the keys of the evidence, and no two items of one diagnosis have one
key where a host's probes have distinct targets (`apart_evidence`).
-/

import Mathlib.Data.List.Perm.Basic
import MetaRne.Diagnosis.CheckedEngine
import MetaRne.Diagnosis.EvidenceOrder
import MetaRne.Diagnosis.Locality
import MetaRne.Library.Reordering

namespace MetaRne

open Library Library.Reordering Python

/-- The interface, its addresses in another order. -/
def InterfaceObservation.Reorders (a b : InterfaceObservation) : Prop :=
  a.name = b.name ∧ a.operState = b.operState ∧ a.addresses.Perm b.addresses

/-- The BGP facet, its neighbours in another order. -/
def BgpObservation.Reorders (a b : BgpObservation) : Prop :=
  a.localAs = b.localAs ∧ a.routerId = b.routerId ∧ a.neighbors.Perm b.neighbors

/-- The route, its next hops in another order. -/
def RouteObservation.Reorders (a b : RouteObservation) : Prop :=
  a.prefixText = b.prefixText ∧ a.protocol = b.protocol ∧ a.nextHops.Perm b.nextHops

/-- The node, its parts in another order. -/
structure NormalizedOperationalState.Reorders (a b : NormalizedOperationalState) : Prop where
  nodeId : a.nodeId = b.nodeId
  role : a.role = b.role
  collectedAt : a.collectedAt = b.collectedAt
  source : a.source = b.source
  interfaces : Reordering.Reorders InterfaceObservation.Reorders a.interfaces b.interfaces
  bgp : Option.Rel BgpObservation.Reorders a.bgp b.bgp
  routes : Reordering.Reorders RouteObservation.Reorders a.routes b.routes
  reachability : a.reachability.Perm b.reachability
  unavailable : a.unavailable = b.unavailable

/-- The fabric, its parts in another order. -/
structure FabricOperationalState.Reorders (a b : FabricOperationalState) : Prop where
  collectionId : a.collectionId = b.collectionId
  collectedAt : a.collectedAt = b.collectedAt
  nodes : Reordering.Reorders NormalizedOperationalState.Reorders a.nodes b.nodes

namespace NormalizedOperationalState

variable {a b : NormalizedOperationalState}

theorem Reorders.isUnavailable (h : a.Reorders b) (facet : ObservationFacet) :
    a.isUnavailable facet = b.isUnavailable facet := by
  unfold NormalizedOperationalState.isUnavailable
  rw [h.unavailable]

end NormalizedOperationalState

namespace DiagnosisEngine

variable {a b : FabricOperationalState}

theorem node?_reorders (h : a.Reorders b) (nodeId : String) :
    Option.Rel NormalizedOperationalState.Reorders (a.node? nodeId) (b.node? nodeId) :=
  h.nodes.find? (fun _ _ hnode => hnode.nodeId) a.nodes_nodup nodeId

/-! ### The views -/

section Views

variable {endpoint peer : TopologyEndpoint}
  (known : (lab1DeviceId? endpoint.nodeId).isSome = true)

theorem view_interface_reorders (h : a.Reorders b) :
    Option.Rel InterfaceObservation.Reorders (view a endpoint peer known).interface
      (view b endpoint peer known).interface := by
  refine rel_bind (node?_reorders h endpoint.nodeId) fun node node' hnode => ?_
  rw [hnode.isUnavailable]
  split_ifs
  · exact .none
  · exact hnode.interfaces.find? (fun _ _ hitem => hitem.1) node.interfaces_nodup _

theorem view_neighbor_reorders (h : a.Reorders b) :
    (view a endpoint peer known).neighbor = (view b endpoint peer known).neighbor := by
  refine bind_eq_of_rel (fun node node' hnode => ?_) (node?_reorders h endpoint.nodeId)
  refine bind_eq_of_rel (fun bgp bgp' hbgp => ?_) hnode.bgp
  exact find?_eq_of_perm bgp.neighbors_nodup hbgp.2.2 peer.address

/-- Observed addresses are listed in order. -/
theorem observedIpv4_reorders {interface interface' : InterfaceObservation}
    (h : interface.Reorders interface') : observedIpv4 interface = observedIpv4 interface' :=
  Sorting.insertionSort_eq_of_perm (fun (_ _ : String) => Iff.rfl) (h.2.2.filterMap _)
    fun _ _ _ _ hsame => hsame

theorem addressMatches_reorders {view view' : EndView} (hendpoint : view.endpoint = view'.endpoint)
    (h : Option.Rel InterfaceObservation.Reorders view.interface view'.interface) :
    addressMatches view = addressMatches view' := by
  unfold addressMatches
  rw [hendpoint]
  generalize view.interface = observed, view'.interface = observed' at h ⊢
  cases h with
  | none => rfl
  | some hitem => simp only [observedIpv4_reorders hitem]

theorem interfaceState_eq {fabric : FabricOperationalState} :
    (view fabric endpoint peer known).interfaceState =
      ((view fabric endpoint peer known).interface.map fun item =>
        item.operState.toEndpoint).getD .unknown := by
  rw [view_interfaceState, ← @view_interface_seen fabric endpoint peer known, Option.map_map]
  rfl

/-- The engine reads the same at an end. -/
theorem sameReading_of_reorders (h : a.Reorders b) :
    SameReading (view a endpoint peer known) (view b endpoint peer known) where
  endpoint := rfl
  peer := rfl
  interfaceState := by
    have hstate := map_eq_of_rel (f := fun item => item.operState.toEndpoint)
      (fun _ _ hitem => congrArg InterfaceOperState.toEndpoint hitem.2.1)
      (@view_interface_reorders a b endpoint peer known h)
    rw [interfaceState_eq, interfaceState_eq, hstate]
  bgpState := by
    rw [view_bgpState, view_bgpState, ← view_neighbor_seen known, ← view_neighbor_seen known,
      view_neighbor_reorders known h]
  addresses := addressMatches_reorders rfl (view_interface_reorders known h)

end Views

/-! ### Evidence -/

section Evidence

/-- Whether a route lists an address as next hop. -/
theorem listsNextHop_reorders (nextHopIp : String) {route route' : RouteObservation}
    (h : route.Reorders route') :
    (route.nextHops.any fun nextHop => nextHop.ip == some nextHopIp) =
      route'.nextHops.any fun nextHop => nextHop.ip == some nextHopIp :=
  any_eq_of_perm h.2.2

theorem endEvidence_reorders (h : a.Reorders b) (dtype : DiagnosisType)
    {endpoint peer endpoint' peer' : TopologyEndpoint}
    (known : (lab1DeviceId? endpoint.nodeId).isSome = true)
    (known' : (lab1DeviceId? endpoint'.nodeId).isSome = true) :
    endEvidence dtype (view a endpoint peer known) (view a endpoint' peer' known') =
      endEvidence dtype (view b endpoint peer known) (view b endpoint' peer' known') := by
  have hitems : ∀ {endpoint peer : TopologyEndpoint}
      (known : (lab1DeviceId? endpoint.nodeId).isSome = true),
      interfaceItem dtype (view a endpoint peer known) =
          interfaceItem dtype (view b endpoint peer known) ∧
        bgpItem (view a endpoint peer known) = bgpItem (view b endpoint peer known) ∧
        addressItem (view a endpoint peer known) = addressItem (view b endpoint peer known) := by
    intro endpoint peer known
    have hreading := @sameReading_of_reorders a b endpoint peer known h
    have hneighbor := @view_neighbor_reorders a b endpoint peer known h
    refine ⟨?_, ?_, ?_⟩
    · simp only [interfaceItem, hreading.interfaceState, hreading.endpoint]
    · simp only [bgpItem, hreading.bgpState, hneighbor, hreading.endpoint, hreading.peer]
    · simp only [addressItem, hreading.addresses, hreading.endpoint]
  obtain ⟨hinterface, hbgp, haddress⟩ := @hitems endpoint peer known
  obtain ⟨hinterface', hbgp', haddress'⟩ := @hitems endpoint' peer' known'
  rw [endEvidence, endEvidence, hinterface, hinterface', hbgp, hbgp', haddress, haddress']

theorem nextHopItem_reorders (h : a.Reorders b) {endpoint peer : TopologyEndpoint}
    (known : (lab1DeviceId? endpoint.nodeId).isSome = true) :
    nextHopItem (view a endpoint peer known) = nextHopItem (view b endpoint peer known) := by
  have hcount : ((view a endpoint peer known).node.bind fun node =>
      if node.isUnavailable .routes then none
      else some (node.routes.countP fun route =>
        route.nextHops.any fun nextHop => nextHop.ip == some peer.address)) =
      (view b endpoint peer known).node.bind fun node =>
        if node.isUnavailable .routes then none
        else some (node.routes.countP fun route =>
          route.nextHops.any fun nextHop => nextHop.ip == some peer.address) := by
    refine bind_eq_of_rel (fun node node' hnode => ?_) (node?_reorders h endpoint.nodeId)
    rw [hnode.isUnavailable,
      hnode.routes.countP fun _ _ hroute => listsNextHop_reorders peer.address hroute]
  unfold nextHopItem
  dsimp only [view] at hcount ⊢
  rw [hcount]

/-- The routes of an expectation. -/
theorem ecmpItem_reorders (h : a.Reorders b) (expectation : EcmpExpectation)
    (linkNextHop : String) :
    ecmpItem a expectation linkNextHop = ecmpItem b expectation linkNextHop := by
  have hroutes : Option.Rel (Reordering.Reorders RouteObservation.Reorders)
      ((a.node? expectation.nodeId).bind fun node =>
        if node.isUnavailable .routes then none
        else some (node.routes.filter fun route =>
          route.prefixText == expectation.prefixText && route.protocol == "bgp"))
      ((b.node? expectation.nodeId).bind fun node =>
        if node.isUnavailable .routes then none
        else some (node.routes.filter fun route =>
          route.prefixText == expectation.prefixText && route.protocol == "bgp")) := by
    refine rel_bind (node?_reorders h expectation.nodeId) fun node node' hnode => ?_
    rw [hnode.isUnavailable]
    split_ifs
    · exact .none
    · exact .some (hnode.routes.filter fun _ _ hroute => by rw [hroute.1, hroute.2.1])
  have hcount := map_eq_of_rel (f := fun routes : List RouteObservation =>
    (routes.map fun route => route.nextHops.length).sum) (fun _ _ hsame =>
      (hsame.map_perm fun _ _ hroute => hroute.2.2.length_eq).sum_nat) hroutes
  have hpresent := map_eq_of_rel (f := fun routes : List RouteObservation => routes.any fun route =>
    route.nextHops.any fun nextHop => nextHop.ip == some linkNextHop) (fun _ _ hsame =>
      hsame.any fun _ _ hroute => listsNextHop_reorders linkNextHop hroute) hroutes
  unfold ecmpItem
  simp only [hcount, hpresent]

theorem hostReachabilityItems_reorders (h : a.Reorders b) {hostId : String}
    (hid : isBlank hostId = false) :
    (hostReachabilityItems a hostId hid).Perm (hostReachabilityItems b hostId hid) := by
  have hnode := node?_reorders h hostId
  unfold hostReachabilityItems
  generalize a.node? hostId = node?, b.node? hostId = node?' at hnode ⊢
  cases hnode with
  | none => exact List.Perm.refl _
  | some hnode =>
      dsimp only
      rw [hnode.isUnavailable, hnode.reachability.isEmpty_eq]
      split_ifs
      · exact List.Perm.refl _
      · exact hnode.reachability.map _

theorem evidence_reorders (h : a.Reorders b) (link : RouterLink) (dtype : DiagnosisType) :
    (evidence a link.1 dtype (views a link).1 (views a link).2).Perm
      (evidence b link.1 dtype (views b link).1 (views b link).2) := by
  have known := Bool.and_eq_true_iff.1 link.2
  have hends : endEvidence dtype (views a link).1 (views a link).2 =
      endEvidence dtype (views b link).1 (views b link).2 :=
    endEvidence_reorders h dtype known.1 known.2
  have hnextHops : [nextHopItem (views a link).1, nextHopItem (views a link).2] =
      [nextHopItem (views b link).1, nextHopItem (views b link).2] :=
    congrArg₂ (fun first second => [first, second]) (nextHopItem_reorders h known.1)
      (nextHopItem_reorders h known.2)
  have hpaths : ecmpItems a link.1 = ecmpItems b link.1 :=
    List.filterMap_congr fun expectation _ => congrArg (Option.map · _)
      (funext fun nextHop => ecmpItem_reorders h expectation nextHop)
  have hprobes : (reachabilityItems a).Perm (reachabilityItems b) :=
    List.Perm.flatMap_left _ fun _ _ => hostReachabilityItems_reorders h _
  unfold evidence
  rw [hends, hnextHops, hpaths]
  refine List.Perm.append_left _ ?_
  split_ifs
  · exact List.Perm.append_left _ hprobes
  · exact List.Perm.refl _

end Evidence

/-! ### Diagnoses -/

/-- A diagnosis is what it says of its link, the link, the evidence and the collection. -/
theorem eq_of_verdict {diagnosis diagnosis' : Diagnosis} (hverdict : verdict diagnosis = verdict diagnosis')
    (hresource : diagnosis.resource = diagnosis'.resource)
    (hevidence : diagnosis.evidence = diagnosis'.evidence)
    (hcollection : diagnosis.collectionId = diagnosis'.collectionId)
    (hcollectedAt : diagnosis.collectedAt = diagnosis'.collectedAt) : diagnosis = diagnosis' := by
  obtain ⟨_, _, _, _, _, _, _, _, _, _⟩ := diagnosis
  obtain ⟨_, _, _, _, _, _, _, _, _, _⟩ := diagnosis'
  obtain ⟨htype, hconfidence, hkeys⟩ := Verdict.mk.inj hverdict
  cases htype
  cases hconfidence
  cases hkeys
  cases hresource
  cases hevidence
  cases hcollection
  cases hcollectedAt
  rfl

theorem diagnoseLink_reorders (h : a.Reorders b) (hdistinct : a.DistinctTargets)
    (link : RouterLink) : diagnoseLink a link = diagnoseLink b link := by
  have known := Bool.and_eq_true_iff.1 link.2
  have hverdict : (diagnoseLink a link).map verdict = (diagnoseLink b link).map verdict := by
    rw [verdict_diagnoseLink, verdict_diagnoseLink]
    exact verdictFrom_congr (sameReading_of_reorders known.1 h) (sameReading_of_reorders known.2 h)
  cases ha : diagnoseLink a link with
  | none =>
      rw [ha, Option.map_none] at hverdict
      exact (Option.map_eq_none_iff.1 hverdict.symm).symm
  | some diagnosis =>
      rw [ha, Option.map_some] at hverdict
      obtain ⟨diagnosis', hb, hsame⟩ := Option.map_eq_some_iff.1 hverdict.symm
      have hof := isDiagnosisOf ha
      have hof' := isDiagnosisOf hb
      have htype : diagnosis'.diagnosisType = diagnosis.diagnosisType :=
        congrArg Verdict.diagnosisType hsame
      have hends : (views a link).1.endpoint.nodeId ≠ (views a link).2.endpoint.nodeId :=
        ne_of_lt link.1.canonical
      rw [hb]
      refine congrArg some (eq_of_verdict hsame.symm ?_ ?_ ?_ ?_)
      · rw [hof.resource, hof'.resource]
      · rw [hof.evidence, hof'.evidence, htype]
        exact Sorting.insertionSort_eq_of_perm evidenceLe_iff (evidence_reorders h link _)
          (apart_evidence hdistinct link.1 _ hends)
      · rw [hof.collectionId, hof'.collectionId, h.collectionId]
      · rw [hof.collectedAt, hof'.collectedAt, h.collectedAt]

/-- **The diagnosis engine is total and order-insensitive.**  On every fabric it returns; the
diagnoses come strictly in the order of their links' ids, each one's evidence in the order of
kind, node and subject; and where the probes of a node have distinct targets, a fabric whose
parts are reordered has the same diagnoses. -/
theorem diagnose_total (fabric : FabricOperationalState) :
    buildDiagnoses fabric = .ok (diagnose fabric) ∧
      ((diagnose fabric).Pairwise fun a b => a.resource.resourceId < b.resource.resourceId) ∧
      (∀ diagnosis ∈ diagnose fabric, diagnosis.evidence.Pairwise evidenceLe) ∧
      (fabric.DistinctTargets → ∀ reordered : FabricOperationalState,
        fabric.Reorders reordered → diagnose reordered = diagnose fabric) := by
  refine ⟨buildDiagnoses_eq_ok fabric, diagnose_sorted fabric,
    fun diagnosis hmem => evidence_sorted hmem, fun hdistinct reordered hreorders => ?_⟩
  unfold diagnose
  rw [List.filterMap_congr fun link _ => diagnoseLink_reorders hreorders hdistinct link]

/-- The fabric of the uplinks, listed the other way round. -/
def reversedUplinks : FabricOperationalState :=
  { uplinksFabric .down .up with
    nodes := [{ uplinksReport .down .up with
      interfaces := (uplinksReport .down .up).interfaces.reverse
      interfaces_nodup := show ["eth2", "eth1"].Nodup by decide
      interfaces_unavailable := fun h => absurd h Bool.false_ne_true }]
    nodes_nodup := List.nodup_singleton _
    nodes_collectedAt := fun _ hmem => congrArg _ (List.mem_singleton.1 hmem)
    nodes_collectionId := fun _ hmem => congrArg (·.source.collectionId) (List.mem_singleton.1 hmem) }

/-- The uplink that is down is diagnosed in either order. -/
theorem diagnose_total_uplinks :
    diagnose reversedUplinks = diagnose (uplinksFabric .down .up) ∧
      (diagnose (uplinksFabric .down .up)).length = 1 := by
  obtain ⟨-, -, -, hinsensitive⟩ := diagnose_total (uplinksFabric .down .up)
  refine ⟨hinsensitive (List.forall_mem_singleton.2 List.nodup_nil) reversedUplinks ?_,
    by decide +kernel⟩
  refine ⟨rfl, rfl, .of_forall₂ (.cons ?_ .nil)⟩
  refine ⟨rfl, rfl, rfl, rfl, ⟨_, (List.reverse_perm _).symm, ?_⟩, .none, .of_forall₂ .nil,
    List.Perm.refl _, rfl⟩
  exact List.forall₂_same.2 fun item _ => ⟨rfl, rfl, List.Perm.refl _⟩

end DiagnosisEngine
end MetaRne
