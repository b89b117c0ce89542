/-
# What the verdict on a link depends on

A diagnosis carries evidence from all over the fabric: the routes of both ends,
the paths of two leaves, the probes of the hosts.  None of it moves the verdict.
What is diagnosed of a link, whether it is at all, the class, the confidence and
the symptoms, is a function of what the fabric shows of four places: the
interface at each end, and each end's neighbour at the address of its peer.

No two links share one of their four places, so an observation that concerns one
link never changes the verdict on another.
-/

import MetaRne.Diagnosis.LinkDiagnoses

namespace MetaRne

open Python

/-- What a fabric shows of an interface, if it was observed: its state and addresses. -/
def FabricOperationalState.interfaceSeen (fabric : FabricOperationalState)
    (nodeId interfaceName : String) : Option (InterfaceOperState × List String) :=
  (fabric.node? nodeId).bind fun node =>
    if node.isUnavailable .interfaces then none
    else (node.interfaces.find? fun item => item.name == interfaceName).map fun item =>
      (item.operState, item.addresses)

/-- What a fabric shows of the session to an address, if it was observed: its state. -/
def FabricOperationalState.sessionSeen (fabric : FabricOperationalState)
    (nodeId neighborIp : String) : Option BgpSessionState :=
  (fabric.node? nodeId).bind fun node => node.bgp.bind fun bgp =>
    (bgp.neighbors.find? fun item => item.neighborIp == neighborIp).map fun item => item.state

namespace DiagnosisEngine

/-- What is said of a link, apart from the evidence. -/
structure Verdict where
  diagnosisType : DiagnosisType
  confidence : Option DiagnosisConfidence
  symptomKeys : List SymptomKey

/-- The verdict of a diagnosis. -/
def verdict (diagnosis : Diagnosis) : Verdict :=
  ⟨diagnosis.diagnosisType, diagnosis.confidence, diagnosis.symptomKeys⟩

/-- What `diagnose` says of a link, if anything. -/
def verdictOn (fabric : FabricOperationalState) (link : RouterLink) : Option Verdict :=
  ((diagnose fabric).find? fun diagnosis =>
    diagnosis.resource.resourceId == link.1.linkId).map verdict

/-- Two fabrics show the same at an end of a link. -/
structure SameAtEnd (fabric fabric' : FabricOperationalState) (endpoint peer : TopologyEndpoint) :
    Prop where
  interface : fabric.interfaceSeen endpoint.nodeId endpoint.interfaceName =
    fabric'.interfaceSeen endpoint.nodeId endpoint.interfaceName
  session : fabric.sessionSeen endpoint.nodeId peer.address =
    fabric'.sessionSeen endpoint.nodeId peer.address

/-- Two fabrics show the same at both ends of a link. -/
structure SameAtEnds (fabric fabric' : FabricOperationalState) (link : PhysicalLink) : Prop where
  atA : SameAtEnd fabric fabric' link.endpointA link.endpointB
  atB : SameAtEnd fabric fabric' link.endpointB link.endpointA

/-- Two fabrics differ in what they show at the ends of one link at most. -/
structure SameButFor (fabric fabric' : FabricOperationalState) (link : PhysicalLink) : Prop where
  interfaces : ∀ nodeId interfaceName,
    (nodeId, interfaceName) ≠ (link.endpointA.nodeId, link.endpointA.interfaceName) →
    (nodeId, interfaceName) ≠ (link.endpointB.nodeId, link.endpointB.interfaceName) →
      fabric.interfaceSeen nodeId interfaceName = fabric'.interfaceSeen nodeId interfaceName
  sessions : ∀ nodeId neighborIp,
    (nodeId, neighborIp) ≠ (link.endpointA.nodeId, link.endpointB.address) →
    (nodeId, neighborIp) ≠ (link.endpointB.nodeId, link.endpointA.address) →
      fabric.sessionSeen nodeId neighborIp = fabric'.sessionSeen nodeId neighborIp

/-! ### One end -/

section Ends

variable {fabric fabric' : FabricOperationalState} {endpoint peer : TopologyEndpoint}
variable (known : (lab1DeviceId? endpoint.nodeId).isSome = true)

theorem view_interface_seen :
    (view fabric endpoint peer known).interface.map (fun item => (item.operState, item.addresses)) =
      fabric.interfaceSeen endpoint.nodeId endpoint.interfaceName := by
  rw [view, FabricOperationalState.interfaceSeen, Option.map_bind]
  refine congrArg _ (funext fun node => ?_)
  rw [Function.comp_apply]
  split_ifs <;> rfl

theorem view_neighbor_seen :
    (view fabric endpoint peer known).neighbor.map (fun item => item.state) =
      fabric.sessionSeen endpoint.nodeId peer.address := by
  rw [view, FabricOperationalState.sessionSeen, Option.map_bind]
  refine congrArg _ (funext fun node => ?_)
  rw [Function.comp_apply, Option.map_bind]
  rfl

theorem view_interfaceState :
    (view fabric endpoint peer known).interfaceState =
      ((fabric.interfaceSeen endpoint.nodeId endpoint.interfaceName).map fun seen =>
        seen.1.toEndpoint).getD .unknown := by
  have hseen := @view_interface_seen fabric endpoint peer known
  rw [← hseen, Option.map_map]
  simp only [view]
  split
  · next interface hsome =>
    rw [hsome]
    rfl
  · next hnone =>
    rw [hnone]
    rfl

theorem view_bgpState :
    (view fabric endpoint peer known).bgpState =
      ((fabric.sessionSeen endpoint.nodeId peer.address).map fun state =>
        state.toEndpoint).getD .unknown := by
  rw [← view_neighbor_seen known, Option.map_map]
  simp only [view]
  split
  · next neighbor hsome =>
    rw [hsome]
    rfl
  · next hnone =>
    rw [hnone]
    rfl

/-- The comparison of addresses reads the addresses of the interface alone. -/
theorem addressMatches_congr {a a' : EndView} (hendpoint : a.endpoint = a'.endpoint)
    (hseen : a.interface.map (fun item => (item.operState, item.addresses)) =
      a'.interface.map fun item => (item.operState, item.addresses)) :
    addressMatches a = addressMatches a' := by
  unfold addressMatches
  cases hi : a.interface with
  | none =>
      rw [hi, Option.map_none] at hseen
      rw [Option.map_eq_none_iff.1 hseen.symm]
  | some i =>
      rw [hi, Option.map_some] at hseen
      obtain ⟨i', hi', hsame⟩ := Option.map_eq_some_iff.1 hseen.symm
      have haddresses : i'.addresses = i.addresses := congrArg Prod.snd hsame
      simp only [hi', observedIpv4, haddresses, hendpoint]

/-- Two views agree in all that the verdict depends on. -/
structure SameReading (a a' : EndView) : Prop where
  endpoint : a.endpoint = a'.endpoint
  peer : a.peer = a'.peer
  interfaceState : a.interfaceState = a'.interfaceState
  bgpState : a.bgpState = a'.bgpState
  addresses : addressMatches a = addressMatches a'

/-- **What the engine reads at an end.**  Two fabrics that show the same there give
views that agree in all that the verdict depends on. -/
theorem SameAtEnd.sameReading (h : SameAtEnd fabric fabric' endpoint peer) :
    SameReading (view fabric endpoint peer known) (view fabric' endpoint peer known) where
  endpoint := rfl
  peer := rfl
  interfaceState := by rw [view_interfaceState, view_interfaceState, h.interface]
  bgpState := by rw [view_bgpState, view_bgpState, h.session]
  addresses := addressMatches_congr rfl (by
    rw [view_interface_seen, view_interface_seen, h.interface])

end Ends

/-! ### One link -/

/-- Only the comparison of addresses can be a conflict of addresses. -/
theorem addressConflict_endEvidence (dtype : DiagnosisType) (a b : EndView) :
    addressConflict (endEvidence dtype a b) =
      ((addressItem a).role == .contradicts || (addressItem b).role == .contradicts) := by
  have hinterface : (EvidenceKind.interfaceState == .addressMatch) = false := rfl
  have hbgp : (EvidenceKind.bgpSession == .addressMatch) = false := rfl
  have haddress : ∀ view, (addressItem view).kind = .addressMatch := fun _ => rfl
  simp only [addressConflict, endEvidence, List.any_cons, List.any_nil, Bool.or_false, haddress,
    beq_self_eq_true, Bool.true_and]
  simp only [interfaceItem, bgpItem, hinterface, hbgp, Bool.false_and, Bool.false_or]

/-- The role of the comparison is read from its outcome. -/
theorem addressItem_role_congr {a a' : EndView} (h : addressMatches a = addressMatches a') :
    (addressItem a).role = (addressItem a').role := by
  simp only [addressItem, h]

/-- The verdict on a link, from the views of its ends. -/
def verdictFrom (a b : EndView) : Option Verdict :=
  let classified := classify [a.interfaceState, b.interfaceState] [a.bgpState, b.bgpState]
  if isSymptomatic a b = false then none
  else some {
    diagnosisType := classified.1
    confidence :=
      if addressConflict (endEvidence classified.1 a b) then classified.2.map capAtMedium
      else classified.2
    symptomKeys := symptomKeys [a, b] }

/-- The symptom of an end is that of its endpoint and its peer. -/
theorem symptomKey_congr {a a' : EndView} (hendpoint : a.endpoint = a'.endpoint)
    (hpeer : a.peer = a'.peer) : symptomKey a = symptomKey a' := by
  obtain ⟨endpoint, peer, _, _, _, _, _, _⟩ := a
  obtain ⟨endpoint', peer', _, _, _, _, _, _⟩ := a'
  cases hendpoint
  cases hpeer
  rfl

/-- The verdict on a link is a function of what is read at its ends. -/
theorem verdictFrom_congr {a a' b b' : EndView} (ha : SameReading a a') (hb : SameReading b b') :
    verdictFrom a b = verdictFrom a' b' := by
  have hkeys : symptomKeys [a, b] = symptomKeys [a', b'] := by
    simp only [symptomKeys, List.filter_cons, ha.bgpState, hb.bgpState]
    split_ifs <;> simp only [List.filter_nil, List.map_cons, List.map_nil,
      symptomKey_congr ha.endpoint ha.peer, symptomKey_congr hb.endpoint hb.peer]
  simp only [verdictFrom, hkeys]
  simp only [isSymptomatic, addressConflict_endEvidence, ha.interfaceState, hb.interfaceState,
    ha.bgpState, hb.bgpState, addressItem_role_congr ha.addresses,
    addressItem_role_congr hb.addresses]

variable {fabric fabric' : FabricOperationalState} {link : RouterLink}

theorem verdict_diagnoseLink : (diagnoseLink fabric link).map verdict =
    verdictFrom (views fabric link).1 (views fabric link).2 := by
  unfold diagnoseLink verdictFrom
  dsimp only
  split_ifs <;> rfl

/-- The verdict on a link is a function of what is shown at its ends. -/
theorem verdict_diagnoseLink_congr (h : SameAtEnds fabric fabric' link.1) :
    (diagnoseLink fabric link).map verdict = (diagnoseLink fabric' link).map verdict := by
  have known := Bool.and_eq_true_iff.1 link.2
  rw [verdict_diagnoseLink, verdict_diagnoseLink]
  exact verdictFrom_congr (h.atA.sameReading known.1) (h.atB.sameReading known.2)

/-! ### The engine -/

/-- What is said of a declared link is what the engine finds at its ends. -/
theorem verdictOn_eq (hlink : link ∈ lab1RouterLinks) :
    verdictOn fabric link = (diagnoseLink fabric link).map verdict := by
  rw [verdictOn]
  congr 1
  cases hfind : (diagnose fabric).find? fun diagnosis =>
      diagnosis.resource.resourceId == link.1.linkId with
  | some diagnosis =>
      have hid := List.find?_some hfind
      exact ((mem_diagnose_iff hlink).1 ⟨List.mem_of_find?_eq_some hfind, hid⟩).symm
  | none =>
      symm
      rw [Option.eq_none_iff_forall_not_mem]
      intro diagnosis hdiagnosed
      obtain ⟨hmem, hid⟩ := (mem_diagnose_iff hlink).2 hdiagnosed
      exact List.find?_eq_none.1 hfind diagnosis hmem hid

/-- The places that decide the verdicts on two links are different ones. -/
theorem places_disjoint {link other : RouterLink} (hlink : link ∈ lab1RouterLinks)
    (hother : other ∈ lab1RouterLinks) (hne : other.1.linkId ≠ link.1.linkId) :
    ∀ ends ∈ [(other.1.endpointA, other.1.endpointB), (other.1.endpointB, other.1.endpointA)],
      ∀ ends' ∈ [(link.1.endpointA, link.1.endpointB), (link.1.endpointB, link.1.endpointA)],
        (ends.1.nodeId, ends.1.interfaceName) ≠ (ends'.1.nodeId, ends'.1.interfaceName) ∧
          (ends.1.nodeId, ends.2.address) ≠ (ends'.1.nodeId, ends'.2.address) := by
  have hall : ∀ link ∈ lab1RouterLinks, ∀ other ∈ lab1RouterLinks,
      other.1.linkId ≠ link.1.linkId →
      ∀ ends ∈ [(other.1.endpointA, other.1.endpointB), (other.1.endpointB, other.1.endpointA)],
        ∀ ends' ∈ [(link.1.endpointA, link.1.endpointB), (link.1.endpointB, link.1.endpointA)],
          (ends.1.nodeId, ends.1.interfaceName) ≠ (ends'.1.nodeId, ends'.1.interfaceName) ∧
            (ends.1.nodeId, ends.2.address) ≠ (ends'.1.nodeId, ends'.2.address) := by
    decide +kernel
  exact hall link hlink other hother hne

/-- Fabrics that differ at the ends of one link agree at the ends of every other. -/
theorem SameButFor.sameAtEnds {other : RouterLink} (h : SameButFor fabric fabric' link.1)
    (hlink : link ∈ lab1RouterLinks) (hother : other ∈ lab1RouterLinks)
    (hne : other.1.linkId ≠ link.1.linkId) : SameAtEnds fabric fabric' other.1 := by
  have hplaces := places_disjoint hlink hother hne
  simp only [List.forall_mem_cons] at hplaces
  obtain ⟨⟨haa, hab, -⟩, ⟨hba, hbb, -⟩, -⟩ := hplaces
  exact ⟨⟨h.interfaces _ _ haa.1 hab.1, h.sessions _ _ haa.2 hab.2⟩,
    ⟨h.interfaces _ _ hba.1 hbb.1, h.sessions _ _ hba.2 hbb.2⟩⟩

/-- **Diagnosis is local.**  The presence, class, confidence and symptoms of what
is diagnosed of a declared link are the same in any two fabrics that show the
same at its ends; so fabrics that differ at the ends of one link alone have the
same verdict on every other. -/
theorem diagnose_local (hlink : link ∈ lab1RouterLinks) :
    (SameAtEnds fabric fabric' link.1 → verdictOn fabric link = verdictOn fabric' link) ∧
      (SameButFor fabric fabric' link.1 → ∀ other ∈ lab1RouterLinks,
        other.1.linkId ≠ link.1.linkId → verdictOn fabric other = verdictOn fabric' other) := by
  have hends : ∀ other ∈ lab1RouterLinks, SameAtEnds fabric fabric' other.1 →
      verdictOn fabric other = verdictOn fabric' other := by
    intro other hother h
    rw [verdictOn_eq hother, verdictOn_eq hother, verdict_diagnoseLink_congr h]
  exact ⟨hends link hlink, fun h other hother hne =>
    hends other hother (h.sameAtEnds hlink hother hne)⟩

/-! The two uplinks of a leaf: one down in both fabrics, the other in one of them. -/

/-- An interface of a leaf, in a state, with no address observed. -/
def uplinkInterface (name : String) (operState : InterfaceOperState) (h : isBlank name = false) :
    InterfaceObservation where
  name := name
  operState := operState
  addresses := []
  name_not_blank := h
  addresses_valid := List.forall_mem_nil _
  addresses_nodup := List.nodup_nil

/-- The uplinks of `leaf-2`, and nothing of its sessions. -/
def uplinksReport (first second : InterfaceOperState) : NormalizedOperationalState where
  nodeId := "leaf-2"
  role := .router
  collectedAt := 3
  source := ⟨"gnmi", "uplinks", "first", by decide, by decide, by decide⟩
  interfaces := [uplinkInterface "eth1" first (by decide), uplinkInterface "eth2" second (by decide)]
  bgp := none
  routes := []
  reachability := []
  unavailable := [⟨.bgp, "timeout", by decide⟩]
  nodeId_not_blank := by decide
  interfaces_nodup := show ["eth1", "eth2"].Nodup by decide
  routes_nodup := List.nodup_nil
  unavailable_nodup := List.nodup_singleton _
  interfaces_unavailable := fun h => absurd h (Bool.false_ne_true)
  routes_unavailable := fun _ => rfl
  reachability_unavailable := fun _ => rfl
  host_bgp := fun h => absurd h NodeRole.noConfusion
  router_bgp := fun _ => ⟨fun _ => rfl, fun _ => rfl⟩

/-- The fabric of that one report. -/
def uplinksFabric (first second : InterfaceOperState) : FabricOperationalState where
  collectionId := "first"
  collectedAt := 3
  nodes := [uplinksReport first second]
  collectionId_not_blank := (uplinksReport first second).source.collectionId_not_blank
  nodes_nodup := List.nodup_singleton _
  nodes_collectedAt := fun _ hmem => congrArg _ (List.mem_singleton.1 hmem)
  nodes_collectionId := fun _ hmem =>
    congrArg (·.source.collectionId) (List.mem_singleton.1 hmem)

theorem length_lab1RouterLinks : lab1RouterLinks.length = 4 := by decide +kernel

/-- The link from `leaf-2` to `spine-1`. -/
def firstUplink : RouterLink := lab1RouterLinks.get ⟨2, by rw [length_lab1RouterLinks]; decide⟩

set_option maxRecDepth 20000 in
theorem diagnose_local_uplinks :
    ((verdictOn (uplinksFabric .down .up) firstUplink).map fun verdict =>
        verdict.diagnosisType) = some .physicalLinkFailure ∧
      verdictOn (uplinksFabric .down .up) firstUplink =
        verdictOn (uplinksFabric .down .down) firstUplink := by
  have hlink : firstUplink ∈ lab1RouterLinks := List.get_mem _ _
  refine ⟨by decide +kernel, (diagnose_local hlink).1 ?_⟩
  exact ⟨⟨by decide +kernel, by decide +kernel⟩, ⟨by decide +kernel, by decide +kernel⟩⟩

end DiagnosisEngine
end MetaRne
