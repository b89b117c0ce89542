/-
# Losing observations never creates a diagnosis

A fabric is degraded by losing nodes, interfaces, neighbours, routes or probes, by
marking facets unavailable, and by turning the state of an interface or a neighbour
into unknown.  What the engine reads at the ends of a link then turns unknown or stays
(`Degrades.view`), so a failure that is observed in the degraded fabric is observed in
the other.
-/

import MetaRne.Diagnosis.Locality
import MetaRne.Library.Weakening

namespace MetaRne

open Library.Weakening Python

/-- The interface, or the same with an unknown state. -/
def InterfaceObservation.Degrades (weaker item : InterfaceObservation) : Prop :=
  weaker.name = item.name ∧ weaker.addresses = item.addresses ∧
    Weakens .unknown weaker.operState item.operState

/-- The neighbour, or the same with an unknown state, and then without the counts of an
established session. -/
def BgpNeighborObservation.Degrades (weaker item : BgpNeighborObservation) : Prop :=
  weaker = item ∨ (weaker.neighborIp = item.neighborIp ∧ weaker.remoteAs = item.remoteAs ∧
    weaker.state = .unknown)

/-- Neighbours are lost or degraded. -/
def BgpObservation.Degrades (weaker item : BgpObservation) : Prop :=
  weaker.localAs = item.localAs ∧ weaker.routerId = item.routerId ∧
    Fewer BgpNeighborObservation.Degrades weaker.neighbors item.neighbors

/-- Parts of a node are lost or degraded, and facets are marked unavailable. -/
structure NormalizedOperationalState.Degrades (weaker node : NormalizedOperationalState) :
    Prop where
  nodeId : weaker.nodeId = node.nodeId
  role : weaker.role = node.role
  collectedAt : weaker.collectedAt = node.collectedAt
  source : weaker.source = node.source
  interfaces : Fewer InterfaceObservation.Degrades weaker.interfaces node.interfaces
  bgp : FewerOption BgpObservation.Degrades weaker.bgp node.bgp
  routes : weaker.routes ⊆ node.routes
  reachability : weaker.reachability ⊆ node.reachability
  unavailable : ∀ facet, node.isUnavailable facet = true → weaker.isUnavailable facet = true

/-- Nodes of a fabric are lost or degraded. -/
structure FabricOperationalState.Degrades (weaker fabric : FabricOperationalState) : Prop where
  collectionId : weaker.collectionId = fabric.collectionId
  collectedAt : weaker.collectedAt = fabric.collectedAt
  nodes : Fewer NormalizedOperationalState.Degrades weaker.nodes fabric.nodes

/-! ### Degradation is a preorder -/

theorem InterfaceObservation.Degrades.refl (item : InterfaceObservation) : item.Degrades item :=
  ⟨rfl, rfl, Weakens.refl _ _⟩

theorem InterfaceObservation.Degrades.trans {a b c : InterfaceObservation} (h : a.Degrades b)
    (h' : b.Degrades c) : a.Degrades c :=
  ⟨h.1.trans h'.1, h.2.1.trans h'.2.1, h.2.2.trans h'.2.2⟩

theorem BgpNeighborObservation.Degrades.refl (neighbor : BgpNeighborObservation) :
    neighbor.Degrades neighbor :=
  Or.inl rfl

theorem BgpNeighborObservation.Degrades.trans {a b c : BgpNeighborObservation} (h : a.Degrades b)
    (h' : b.Degrades c) : a.Degrades c := by
  rcases h with rfl | ⟨hip, has, hstate⟩
  · exact h'
  rcases h' with rfl | ⟨hip', has', -⟩
  · exact Or.inr ⟨hip, has, hstate⟩
  · exact Or.inr ⟨hip.trans hip', has.trans has', hstate⟩

theorem BgpObservation.Degrades.refl (bgp : BgpObservation) : bgp.Degrades bgp :=
  ⟨rfl, rfl, Fewer.refl BgpNeighborObservation.Degrades.refl _⟩

theorem BgpObservation.Degrades.trans {a b c : BgpObservation} (h : a.Degrades b)
    (h' : b.Degrades c) : a.Degrades c :=
  ⟨h.1.trans h'.1, h.2.1.trans h'.2.1, h.2.2.trans h'.2.2 fun _ _ _ =>
    BgpNeighborObservation.Degrades.trans⟩

theorem NormalizedOperationalState.Degrades.refl (node : NormalizedOperationalState) :
    node.Degrades node :=
  ⟨rfl, rfl, rfl, rfl, Fewer.refl InterfaceObservation.Degrades.refl _,
    FewerOption.refl BgpObservation.Degrades.refl _, fun _ h => h, fun _ h => h, fun _ h => h⟩

theorem NormalizedOperationalState.Degrades.trans {a b c : NormalizedOperationalState}
    (h : a.Degrades b) (h' : b.Degrades c) : a.Degrades c where
  nodeId := h.nodeId.trans h'.nodeId
  role := h.role.trans h'.role
  collectedAt := h.collectedAt.trans h'.collectedAt
  source := h.source.trans h'.source
  interfaces := h.interfaces.trans h'.interfaces fun _ _ _ => InterfaceObservation.Degrades.trans
  bgp := h.bgp.trans h'.bgp fun _ _ _ => BgpObservation.Degrades.trans
  routes := fun _ hmem => h'.routes (h.routes hmem)
  reachability := fun _ hmem => h'.reachability (h.reachability hmem)
  unavailable := fun facet hmarked => h.unavailable facet (h'.unavailable facet hmarked)

namespace FabricOperationalState

variable {weaker fabric : FabricOperationalState}

theorem Degrades.refl (fabric : FabricOperationalState) : fabric.Degrades fabric :=
  ⟨rfl, rfl, Fewer.refl NormalizedOperationalState.Degrades.refl _⟩

theorem Degrades.trans {a b c : FabricOperationalState} (h : a.Degrades b) (h' : b.Degrades c) :
    a.Degrades c :=
  ⟨h.collectionId.trans h'.collectionId, h.collectedAt.trans h'.collectedAt,
    h.nodes.trans h'.nodes fun _ _ _ => NormalizedOperationalState.Degrades.trans⟩

/-! ### What is seen -/

theorem Degrades.node? (h : weaker.Degrades fabric) (nodeId : String) :
    FewerOption NormalizedOperationalState.Degrades (weaker.node? nodeId)
      (fabric.node? nodeId) :=
  h.nodes.find? (fun _ _ hnode => hnode.nodeId) fabric.nodes_nodup nodeId

/-- What is seen of an interface weakens: an unavailable facet has no interfaces. -/
theorem Degrades.interfaceSeen (h : weaker.Degrades fabric) (nodeId interfaceName : String) :
    FewerOption (fun seen seen' => Weakens .unknown seen.1 seen'.1)
      (weaker.interfaceSeen nodeId interfaceName) (fabric.interfaceSeen nodeId interfaceName) := by
  refine (h.node? nodeId).bind fun node node' hnode => ?_
  have hfound := hnode.interfaces.find? (fun _ _ hitem => hitem.1) node'.interfaces_nodup
    interfaceName
  intro seen hseen
  split_ifs at hseen with hweaker
  · cases hseen
  obtain ⟨item, hitem, rfl⟩ := Option.map_eq_some_iff.1 hseen
  obtain ⟨item', hitem', hdegrades⟩ := hfound item hitem
  have havailable : ¬ node'.isUnavailable .interfaces = true := fun hmarked =>
    hweaker (hnode.unavailable .interfaces hmarked)
  rw [if_neg havailable]
  exact ⟨_, Option.map_eq_some_iff.2 ⟨item', hitem', rfl⟩, hdegrades.2.2⟩

/-- What is seen of a session weakens. -/
theorem Degrades.sessionSeen (h : weaker.Degrades fabric) (nodeId neighborIp : String) :
    FewerOption (Weakens .unknown) (weaker.sessionSeen nodeId neighborIp)
      (fabric.sessionSeen nodeId neighborIp) := by
  refine (h.node? nodeId).bind fun node node' hnode => ?_
  refine hnode.bgp.bind fun bgp bgp' hbgp => ?_
  have hname : ∀ x y : BgpNeighborObservation, x.Degrades y → x.neighborIp = y.neighborIp := by
    rintro x y (rfl | ⟨hip, -⟩)
    · rfl
    · exact hip
  have hfound := hbgp.2.2.find? hname bgp'.neighbors_nodup neighborIp
  intro state hstate
  obtain ⟨item, hitem, rfl⟩ := Option.map_eq_some_iff.1 hstate
  obtain ⟨item', hitem', hdegrades⟩ := hfound item hitem
  refine ⟨_, Option.map_eq_some_iff.2 ⟨item', hitem', rfl⟩, ?_⟩
  rcases hdegrades with rfl | ⟨-, -, hunknown⟩
  · exact Weakens.refl _ _
  · exact Or.inl hunknown

end FabricOperationalState

namespace DiagnosisEngine

variable {weaker fabric : FabricOperationalState}

/-- **What the engine reads at an end** turns unknown or stays. -/
theorem degraded_view (h : weaker.Degrades fabric) {endpoint peer : TopologyEndpoint}
    (known : (lab1DeviceId? endpoint.nodeId).isSome = true) :
    Weakens .unknown (view weaker endpoint peer known).interfaceState
        (view fabric endpoint peer known).interfaceState ∧
      Weakens .unknown (view weaker endpoint peer known).bgpState
        (view fabric endpoint peer known).bgpState := by
  rw [view_interfaceState, view_interfaceState, view_bgpState, view_bgpState]
  constructor
  · exact (h.interfaceSeen _ _).weakens fun _ _ hseen => hseen.map InterfaceOperState.toEndpoint
  · exact (h.sessionSeen _ _).weakens fun _ _ hseen => hseen.map BgpSessionState.toEndpoint

/-- The ends of a link in the degraded fabric are ends of it in the other: with the same
symptom key, and down wherever they were down. -/
theorem exists_view_of_degrades (h : weaker.Degrades fabric) {link : RouterLink} :
    ∀ end_ ∈ [(views weaker link).1, (views weaker link).2],
      ∃ end_' ∈ [(views fabric link).1, (views fabric link).2],
        symptomKey end_ = symptomKey end_' ∧
        (end_.interfaceState = .down → end_'.interfaceState = .down) ∧
        (end_.bgpState = .down → end_'.bgpState = .down) := by
  have hdown : ∀ {known known' : EndView},
      Weakens .unknown known.interfaceState known'.interfaceState ∧
        Weakens .unknown known.bgpState known'.bgpState →
      (known.interfaceState = .down → known'.interfaceState = .down) ∧
        (known.bgpState = .down → known'.bgpState = .down) := by
    rintro end_ end_' ⟨hinterface, hbgp⟩
    refine ⟨fun hdown => ?_, fun hdown => ?_⟩
    · rw [← hinterface.eq (by rw [hdown]; decide), hdown]
    · rw [← hbgp.eq (by rw [hdown]; decide), hdown]
  have known := Bool.and_eq_true_iff.1 link.2
  intro end_ hend
  rcases List.mem_pair.1 hend with rfl | rfl
  · exact ⟨_, List.mem_pair.2 (Or.inl rfl), rfl, hdown (degraded_view h known.1)⟩
  · exact ⟨_, List.mem_pair.2 (Or.inr rfl), rfl, hdown (degraded_view h known.2)⟩

/-- A link that is diagnosed in the degraded fabric is diagnosed in the other. -/
theorem exists_diagnoseLink_of_degrades (h : weaker.Degrades fabric) {link : RouterLink}
    {diagnosis : Diagnosis} (hdiagnosed : diagnoseLink weaker link = some diagnosis) :
    ∃ diagnosis', diagnoseLink fabric link = some diagnosis' := by
  obtain ⟨end_, hend, hfailure⟩ := isSymptomatic_iff.1 (isDiagnosisOf hdiagnosed).symptomatic
  obtain ⟨end_', hend', -, hinterface, hbgp⟩ := exists_view_of_degrades h end_ hend
  exact exists_diagnoseLink (isSymptomatic_iff.2 ⟨end_', hend', hfailure.imp hinterface hbgp⟩)

/-- The symptoms of a link in the degraded fabric are symptoms of it in the other. -/
theorem symptomKeys_subset_of_degrades (h : weaker.Degrades fabric) {link : RouterLink}
    {diagnosis diagnosis' : Diagnosis} (hdiagnosed : diagnoseLink weaker link = some diagnosis)
    (hdiagnosed' : diagnoseLink fabric link = some diagnosis') :
    diagnosis.symptomKeys ⊆ diagnosis'.symptomKeys := by
  intro key hkey
  rw [(isDiagnosisOf hdiagnosed).symptomKeys] at hkey
  rw [(isDiagnosisOf hdiagnosed').symptomKeys]
  obtain ⟨end_, hend, hdown, rfl⟩ := mem_symptomKeys.1 hkey
  obtain ⟨end_', hend', hsame, -, hbgp⟩ := exists_view_of_degrades h end_ hend
  exact mem_symptomKeys.2 ⟨end_', hend', hbgp hdown, hsame.symm⟩

/-- **Losing observations never creates a diagnosis.**  Every link that is diagnosed in a
degraded fabric is diagnosed in the fabric itself, and every symptom of it there is a symptom
of it here. -/
theorem diagnose_degraded (h : weaker.Degrades fabric) :
    ∀ diagnosis ∈ diagnose weaker,
      (∃ diagnosis' ∈ diagnose fabric, diagnosis'.resource = diagnosis.resource) ∧
      ∀ diagnosis' ∈ diagnose fabric, diagnosis'.resource = diagnosis.resource →
        diagnosis.symptomKeys ⊆ diagnosis'.symptomKeys := by
  intro diagnosis hmem
  obtain ⟨link, hlink, hdiagnosed⟩ := mem_diagnose.1 hmem
  refine ⟨?_, fun diagnosis' hmem' hsame => ?_⟩
  · obtain ⟨diagnosis', hdiagnosed'⟩ := exists_diagnoseLink_of_degrades h hdiagnosed
    refine ⟨diagnosis', mem_diagnose.2 ⟨link, hlink, hdiagnosed'⟩, ?_⟩
    rw [(isDiagnosisOf hdiagnosed).resource, (isDiagnosisOf hdiagnosed').resource]
  · have hid : diagnosis'.resource.resourceId = link.1.linkId := by
      rw [hsame, resourceId_of_diagnoseLink hdiagnosed]
    have hdiagnosed' := (mem_diagnose_iff hlink).1 ⟨hmem', beq_iff_eq.2 hid⟩
    exact symptomKeys_subset_of_degrades h hdiagnosed hdiagnosed'

/-- Of the two uplinks that are down, one turns unknown; the other is still diagnosed, and is
diagnosed where both are down. -/
theorem diagnose_degraded_uplinks :
    (diagnose (uplinksFabric .down .unknown)).length = 1 ∧
      ∀ diagnosis ∈ diagnose (uplinksFabric .down .unknown),
        ∃ diagnosis' ∈ diagnose (uplinksFabric .down .down),
          diagnosis'.resource = diagnosis.resource := by
  have hdegrades : (uplinksFabric .down .unknown).Degrades (uplinksFabric .down .down) := by
    refine ⟨rfl, rfl, List.forall_mem_singleton.2 ⟨_, List.mem_singleton_self _, ?_⟩⟩
    refine ⟨rfl, rfl, rfl, rfl, ?_, FewerOption.refl BgpObservation.Degrades.refl _, fun _ h => h,
      fun _ h => h, fun _ h => h⟩
    refine List.forall_mem_cons.2 ⟨⟨_, List.mem_cons_self .., ⟨rfl, rfl, Or.inr rfl⟩⟩, ?_⟩
    exact List.forall_mem_singleton.2 ⟨_, List.mem_cons_of_mem _ (List.mem_singleton_self _),
      ⟨rfl, rfl, Or.inl rfl⟩⟩
  exact ⟨by decide +kernel, fun diagnosis hmem => (diagnose_degraded hdegrades diagnosis hmem).1⟩

end DiagnosisEngine
end MetaRne
