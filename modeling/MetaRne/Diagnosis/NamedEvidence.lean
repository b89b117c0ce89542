/-
# Evidence and its texts

An observation names what it is about: an interface, an address, a prefix, a target.
All evidence of the engine does (`EvidenceObservation.Named`) but the item of a host
whose probes were not observed, which has no target to name.  Such an item is part of
every diagnosis of a class (`untargeted_mem_evidence`), and of none that is short of
evidence (`named_of_mem_evidence`).
-/

import MetaRne.Diagnosis.LinkDiagnoses

namespace MetaRne

open Python

/-- What was observed has all of its texts. -/
def EvidenceObservation.Named : EvidenceObservation → Prop
  | .interfaceState observed => observed.interfaceName ≠ ""
  | .bgpSession observed => observed.neighborIp ≠ ""
  | .addressMatch observed => observed.interfaceName ≠ "" ∧ observed.declaredAddress ≠ "" ∧
      ∀ address ∈ observed.observedAddresses, address ≠ ""
  | .routeNextHop observed => observed.nextHopIp ≠ "" ∧ observed.interfaceName ≠ ""
  | .ecmpPaths observed => observed.prefixText ≠ "" ∧ observed.linkNextHopIp ≠ ""
  | .reachability observed => observed.target ≠ ""

theorem ipv4Text_ne_empty (n : ℕ) : ipv4Text n ≠ "" := by
  intro h
  have hlength := congrArg String.length h
  simp only [ipv4Text, String.length_append] at hlength
  have hdot : ".".length = 1 := rfl
  have hempty : "".length = 0 := rfl
  omega

/-- The next hop that an expectation loses with a link is the address of a spine. -/
theorem isIpAddress_of_ecmpNextHopLostWithLink {expectation : EcmpExpectation}
    {link : PhysicalLink} {address : String}
    (h : ecmpNextHopLostWithLink expectation link = some address) : isIpAddress address = true := by
  unfold ecmpNextHopLostWithLink at h
  dsimp only at h
  split at h
  · cases h
  · split at h
    · split at h
      · obtain ⟨ends, -, hends⟩ := List.exists_of_findSome?_eq_some h
        split at hends
        · rw [← Option.some.inj hends]
          exact ends.2.valid.2.2
        · cases hends
      · cases h
    · cases h

namespace DiagnosisEngine

variable {fabric : FabricOperationalState} {item : EvidenceItem}

/-- The probes of a host were observed. -/
def ProbesObserved (fabric : FabricOperationalState) (hostId : String) : Prop :=
  ∃ node, fabric.node? hostId = some node ∧ node.isUnavailable .reachability = false ∧
    node.reachability ≠ []

theorem named_addressItem (view : EndView) : (addressItem view).observed.Named := by
  refine ⟨ne_empty_of_not_isBlank view.endpoint.valid.2.1,
    ne_empty_of_isIpAddress view.endpoint.valid.2.2, fun address haddress => ?_⟩
  change address ∈ (addressMatches view).1 at haddress
  unfold addressMatches at haddress
  split at haddress
  · exact absurd haddress List.not_mem_nil
  · next interface _ =>
    split at haddress
    · exact absurd haddress List.not_mem_nil
    · have hmem : address ∈ observedIpv4 interface := haddress
      rw [observedIpv4, List.mem_insertionSort] at hmem
      obtain ⟨text, -, hparsed⟩ := List.mem_filterMap.1 hmem
      obtain ⟨parsed, -, rfl⟩ := Option.map_eq_some_iff.1 hparsed
      exact ipv4Text_ne_empty _

/-- The evidence about the ends of a link is named. -/
theorem named_endEvidence {dtype : DiagnosisType} {a b : EndView}
    (h : item ∈ endEvidence dtype a b) : item.observed.Named := by
  have hinterface (view : EndView) : (interfaceItem dtype view).observed.Named :=
    ne_empty_of_not_isBlank view.endpoint.valid.2.1
  have hbgp (view : EndView) : (bgpItem view).observed.Named :=
    ne_empty_of_isIpAddress view.peer.valid.2.2
  rw [endEvidence] at h
  simp only [List.mem_cons, List.not_mem_nil, or_false] at h
  rcases h with rfl | rfl | rfl | rfl | rfl | rfl
  · exact hinterface a
  · exact hinterface b
  · exact hbgp a
  · exact hbgp b
  · exact named_addressItem a
  · exact named_addressItem b

theorem named_nextHopItem (view : EndView) : (nextHopItem view).observed.Named :=
  ⟨ne_empty_of_isIpAddress view.peer.valid.2.2, ne_empty_of_not_isBlank view.endpoint.valid.2.1⟩

theorem named_ecmpItems {link : PhysicalLink} (h : item ∈ ecmpItems fabric link) :
    item.observed.Named := by
  obtain ⟨expectation, -, hitem⟩ := List.mem_filterMap.1 h
  obtain ⟨address, haddress, rfl⟩ := Option.map_eq_some_iff.1 hitem
  exact ⟨ne_empty_of_not_isBlank (not_isBlank_of_isIpv4Network expectation.valid.2.2.2.1),
    ne_empty_of_isIpAddress (isIpAddress_of_ecmpNextHopLostWithLink haddress)⟩

/-! ### Hosts -/

/-- An item that has no target to name. -/
def Untargeted (item : EvidenceItem) : Prop := item.observed = .reachability ⟨"", none, none⟩

section Host

variable {hostId : String} {hblank : isBlank hostId = false}

/-- Where the probes of a host were observed, each item is about one of them. -/
theorem named_hostReachabilityItems (hobserved : ProbesObserved fabric hostId)
    (h : item ∈ hostReachabilityItems fabric hostId hblank) : item.observed.Named := by
  obtain ⟨node, hnode, havailable, hprobes⟩ := hobserved
  have hempty : node.reachability.isEmpty = false := by
    rw [List.isEmpty_eq_false_iff]
    exact hprobes
  rw [hostReachabilityItems, hnode] at h
  dsimp only at h
  rw [havailable, hempty, if_neg (by decide)] at h
  obtain ⟨probe, -, rfl⟩ := List.mem_map.1 h
  exact ne_empty_of_isIpAddress probe.target_valid

/-- Where they were not, there is one item, without a target. -/
theorem untargeted_of_not_observed (hobserved : ¬ProbesObserved fabric hostId) :
    hostReachabilityItems fabric hostId hblank = [unobservedReachabilityItem hostId hblank] := by
  unfold hostReachabilityItems
  cases hnode : fabric.node? hostId with
  | none => rfl
  | some node =>
      dsimp only
      rw [if_pos]
      by_contra hprobes
      rw [Bool.or_eq_true, not_or, Bool.not_eq_true, Bool.not_eq_true,
        List.isEmpty_eq_false_iff] at hprobes
      exact hobserved ⟨node, hnode, hprobes.1, hprobes.2⟩

end Host

/-- The items of the hosts are named where the probes of all were observed. -/
theorem named_reachabilityItems (h : ∀ hostId ∈ lab1HostNodeIds, ProbesObserved fabric hostId)
    (hitem : item ∈ reachabilityItems fabric) : item.observed.Named := by
  obtain ⟨hostId, -, hitem⟩ := List.mem_flatMap.1 hitem
  exact named_hostReachabilityItems (h hostId.1 hostId.2) hitem

theorem exists_untargeted {hostId : String} (hhost : hostId ∈ lab1HostNodeIds)
    (h : ¬ProbesObserved fabric hostId) : ∃ item ∈ reachabilityItems fabric, Untargeted item := by
  refine ⟨unobservedReachabilityItem hostId (lab1HostNodeIds_not_blank hostId hhost),
    List.mem_flatMap.2 ⟨⟨hostId, hhost⟩, List.mem_attach _ _, ?_⟩, rfl⟩
  rw [untargeted_of_not_observed h]
  exact List.mem_singleton_self _

/-! ### Diagnoses -/

section Diagnose

variable {diagnosis : Diagnosis}

/-- The evidence of a diagnosis is named where it is short of evidence, or the probes of
all hosts were observed. -/
theorem named_of_mem_evidence (hdiagnosis : diagnosis ∈ diagnose fabric)
    (h : diagnosis.diagnosisType = .insufficientEvidence ∨
      ∀ hostId ∈ lab1HostNodeIds, ProbesObserved fabric hostId)
    (hitem : item ∈ diagnosis.evidence) : item.observed.Named := by
  obtain ⟨link, -, hlink⟩ := mem_diagnose.1 hdiagnosis
  rw [(isDiagnosisOf hlink).evidence, List.mem_insertionSort, evidence, List.mem_append] at hitem
  rcases hitem with hitem | hitem
  · exact named_endEvidence hitem
  · split at hitem
    · next htype =>
      rcases List.mem_append.1 hitem with hitem | hitem
      · rcases List.mem_append.1 hitem with hitem | hitem
        · rcases List.mem_pair.1 hitem with rfl | rfl
          · exact named_nextHopItem _
          · exact named_nextHopItem _
        · exact named_ecmpItems hitem
      · exact named_reachabilityItems (h.resolve_left htype) hitem
    · exact absurd hitem List.not_mem_nil

/-- A diagnosis of a class has an item of each host, so one without a target for a host
whose probes were not observed. -/
theorem untargeted_mem_evidence (hdiagnosis : diagnosis ∈ diagnose fabric)
    (htype : diagnosis.diagnosisType ≠ .insufficientEvidence) {hostId : String}
    (hhost : hostId ∈ lab1HostNodeIds) (h : ¬ProbesObserved fabric hostId) :
    ∃ item ∈ diagnosis.evidence, Untargeted item := by
  obtain ⟨link, -, hlink⟩ := mem_diagnose.1 hdiagnosis
  obtain ⟨item, hitem, huntargeted⟩ := exists_untargeted hhost h
  refine ⟨item, ?_, huntargeted⟩
  rw [(isDiagnosisOf hlink).evidence, List.mem_insertionSort, evidence, if_pos htype]
  exact List.mem_append_right _ (List.mem_append_right _ hitem)

end Diagnose

end DiagnosisEngine
end MetaRne
