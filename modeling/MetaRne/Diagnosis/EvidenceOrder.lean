/-
# The order of diagnoses and of their evidence

Diagnoses are sorted by the id of their link, and no two have one; the evidence of a
diagnosis is sorted by kind, node and subject (`evidence_sorted`).  An item of evidence
is told by these three from every other one of its diagnosis, where the probes of a host
have distinct targets (`apart_evidence`).
-/

import Mathlib.Data.Prod.Lex
import MetaRne.Diagnosis.LinkDiagnoses
import MetaRne.Library.Sorting

namespace MetaRne

open Library Python

/-- The probes of each node have distinct targets. -/
def FabricOperationalState.DistinctTargets (fabric : FabricOperationalState) : Prop :=
  ∀ node ∈ fabric.nodes, (node.reachability.map ReachabilityObservation.target).Nodup

namespace DiagnosisEngine

variable {fabric : FabricOperationalState}

/-- Diagnoses come in the order of their links, no two of one link. -/
theorem diagnose_sorted (fabric : FabricOperationalState) :
    (diagnose fabric).Pairwise fun a b => a.resource.resourceId < b.resource.resourceId := by
  refine Sorting.pairwise_lt_insertionSort (fun _ _ => Iff.rfl) ?_
  have hnodup : (lab1RouterLinks.map fun link => link.1.linkId).Nodup := by decide +kernel
  exact hnodup.sublist (Sorting.sublist_map_filterMap fun link _ diagnosis hdiagnosed =>
    resourceId_of_diagnoseLink hdiagnosed)

/-! ### Keys -/

/-- What evidence is sorted by. -/
def evidenceKey (item : EvidenceItem) : ℕ ×ₗ String ×ₗ String :=
  toLex (item.kind.order, toLex (item.nodeId, item.subject))

theorem evidenceLe_iff (a b : EvidenceItem) : evidenceLe a b ↔ evidenceKey a ≤ evidenceKey b := by
  unfold evidenceLe evidenceKey
  rw [Prod.Lex.toLex_le_toLex, Prod.Lex.toLex_le_toLex]

theorem evidenceKey_eq_iff {a b : EvidenceItem} : evidenceKey a = evidenceKey b ↔
    a.kind.order = b.kind.order ∧ a.nodeId = b.nodeId ∧ a.subject = b.subject := by
  unfold evidenceKey
  rw [EmbeddingLike.apply_eq_iff_eq, Prod.mk.injEq, EmbeddingLike.apply_eq_iff_eq, Prod.mk.injEq]

/-- The evidence of a diagnosis is in order. -/
theorem evidence_sorted {diagnosis : Diagnosis} (h : diagnosis ∈ diagnose fabric) :
    diagnosis.evidence.Pairwise evidenceLe := by
  obtain ⟨link, -, hdiagnosed⟩ := mem_diagnose.1 h
  rw [(isDiagnosisOf hdiagnosed).evidence]
  exact Sorting.pairwise_insertionSort_of_key evidenceLe_iff _

/-- Items are told apart by their keys. -/
def Apart (items : List EvidenceItem) : Prop :=
  ∀ x ∈ items, ∀ y ∈ items, evidenceKey x = evidenceKey y → x = y

theorem Apart.append {xs ys : List EvidenceItem} (hx : Apart xs) (hy : Apart ys) (n : ℕ)
    (hlow : ∀ x ∈ xs, x.kind.order < n) (hhigh : ∀ y ∈ ys, n ≤ y.kind.order) :
    Apart (xs ++ ys) := by
  intro x hxmem y hymem hkey
  have horder := (evidenceKey_eq_iff.1 hkey).1
  rcases List.mem_append.1 hxmem with hx' | hx' <;> rcases List.mem_append.1 hymem with hy' | hy'
  · exact hx x hx' y hy' hkey
  · have := hlow x hx'
    have := hhigh y hy'
    omega
  · have := hlow y hy'
    have := hhigh x hx'
    omega
  · exact hy x hx' y hy' hkey

/-- Two items about different nodes. -/
theorem apart_pair {x y : EvidenceItem} (h : x.nodeId ≠ y.nodeId) : Apart [x, y] := by
  intro x' hx' y' hy' hkey
  have hnode := (evidenceKey_eq_iff.1 hkey).2.1
  rcases List.mem_pair.1 hx' with rfl | rfl <;> rcases List.mem_pair.1 hy' with rfl | rfl
  · rfl
  · exact absurd hnode h
  · exact absurd hnode.symm h
  · rfl

/-! ### The evidence of a diagnosis -/

theorem order_of_mem_endEvidence {dtype : DiagnosisType} {a b : EndView} :
    ∀ item ∈ endEvidence dtype a b, item.kind.order < 3 := by
  have hzero : 0 < 3 := by omega
  have hone : 1 < 3 := by omega
  have htwo : 2 < 3 := by omega
  exact List.forall_mem_cons.2 ⟨hzero, List.forall_mem_cons.2 ⟨hzero, List.forall_mem_cons.2 ⟨hone,
    List.forall_mem_cons.2 ⟨hone, List.forall_mem_cons.2 ⟨htwo, List.forall_mem_singleton.2 htwo⟩⟩⟩⟩⟩

theorem apart_endEvidence (dtype : DiagnosisType) {a b : EndView}
    (h : a.endpoint.nodeId ≠ b.endpoint.nodeId) : Apart (endEvidence dtype a b) := by
  have hinterfaces : Apart [interfaceItem dtype a, interfaceItem dtype b] := apart_pair h
  have hsessions : Apart [bgpItem a, bgpItem b] := apart_pair h
  have haddresses : Apart [addressItem a, addressItem b] := apart_pair h
  have hone : 1 < 2 := by omega
  have htwo : 1 ≤ 2 := by omega
  have hlater : Apart ([bgpItem a, bgpItem b] ++ [addressItem a, addressItem b]) :=
    hsessions.append haddresses 2
      (List.forall_mem_cons.2 ⟨hone, List.forall_mem_singleton.2 hone⟩)
      (List.forall_mem_cons.2 ⟨le_refl 2, List.forall_mem_singleton.2 (le_refl 2)⟩)
  exact hinterfaces.append hlater 1
    (List.forall_mem_cons.2 ⟨zero_lt_one, List.forall_mem_singleton.2 zero_lt_one⟩)
    (List.forall_mem_cons.2 ⟨le_refl 1, List.forall_mem_cons.2 ⟨le_refl 1, List.forall_mem_cons.2
      ⟨htwo, List.forall_mem_singleton.2 htwo⟩⟩⟩)

/-- Each expectation is of another node. -/
theorem apart_ecmpItems (fabric : FabricOperationalState) (link : PhysicalLink) :
    Apart (ecmpItems fabric link) := by
  have hnodup : (lab1EcmpExpectations.map EcmpExpectation.nodeId).Nodup := by decide
  intro x hx y hy hkey
  obtain ⟨expectation, hmem, hitem⟩ := List.mem_filterMap.1 hx
  obtain ⟨expectation', hmem', hitem'⟩ := List.mem_filterMap.1 hy
  obtain ⟨nextHop, hlost, rfl⟩ := Option.map_eq_some_iff.1 hitem
  obtain ⟨nextHop', hlost', rfl⟩ := Option.map_eq_some_iff.1 hitem'
  have hnode : expectation.nodeId = expectation'.nodeId := (evidenceKey_eq_iff.1 hkey).2.1
  obtain rfl := List.inj_on_of_nodup_map hnodup hmem hmem' hnode
  rw [Option.some.inj (hlost.symm.trans hlost')]

theorem order_of_mem_ecmpItems {link : PhysicalLink} :
    ∀ item ∈ ecmpItems fabric link, item.kind.order = 4 := by
  intro item hitem
  obtain ⟨expectation, -, hitem⟩ := List.mem_filterMap.1 hitem
  obtain ⟨nextHop, -, rfl⟩ := Option.map_eq_some_iff.1 hitem
  rfl

/-- The items of a host are about the host. -/
theorem of_mem_hostReachabilityItems {hostId : String} {h : isBlank hostId = false}
    {item : EvidenceItem} (hitem : item ∈ hostReachabilityItems fabric hostId h) :
    item.kind.order = 5 ∧ item.nodeId = hostId := by
  unfold hostReachabilityItems at hitem
  split at hitem
  · rw [List.mem_singleton.1 hitem]
    exact ⟨rfl, rfl⟩
  · split_ifs at hitem
    · rw [List.mem_singleton.1 hitem]
      exact ⟨rfl, rfl⟩
    · obtain ⟨probe, -, rfl⟩ := List.mem_map.1 hitem
      exact ⟨rfl, rfl⟩

/-- The probes of a host are told apart by their targets. -/
theorem apart_hostReachabilityItems (hdistinct : fabric.DistinctTargets) {hostId : String}
    (h : isBlank hostId = false) : Apart (hostReachabilityItems fabric hostId h) := by
  have hsingle : Apart [unobservedReachabilityItem hostId h] := by
    intro x hx y hy _
    rw [List.mem_singleton.1 hx, List.mem_singleton.1 hy]
  unfold hostReachabilityItems
  cases hnode : fabric.node? hostId with
  | none => exact hsingle
  | some node =>
      dsimp only
      split_ifs
      · exact hsingle
      · intro x hx y hy hkey
        obtain ⟨probe, hprobe, rfl⟩ := List.mem_map.1 hx
        obtain ⟨probe', hprobe', rfl⟩ := List.mem_map.1 hy
        have htarget : probe.target = probe'.target := (evidenceKey_eq_iff.1 hkey).2.2
        have htargets := hdistinct node (FabricOperationalState.mem_of_node? hnode).1
        rw [List.inj_on_of_nodup_map htargets hprobe hprobe' htarget]

theorem apart_reachabilityItems (hdistinct : fabric.DistinctTargets) :
    Apart (reachabilityItems fabric) := by
  intro x hx y hy hkey
  obtain ⟨⟨hostId, hmem⟩, -, hitem⟩ := List.mem_flatMap.1 hx
  obtain ⟨⟨hostId', hmem'⟩, -, hitem'⟩ := List.mem_flatMap.1 hy
  have hnode : x.nodeId = y.nodeId := (evidenceKey_eq_iff.1 hkey).2.1
  obtain rfl : hostId = hostId' := (of_mem_hostReachabilityItems hitem).2.symm.trans
    (hnode.trans (of_mem_hostReachabilityItems hitem').2)
  exact apart_hostReachabilityItems hdistinct _ x hitem y hitem' hkey

/-- **No two items of a diagnosis have one key.** -/
theorem apart_evidence (hdistinct : fabric.DistinctTargets) (link : PhysicalLink)
    (dtype : DiagnosisType) {a b : EndView} (h : a.endpoint.nodeId ≠ b.endpoint.nodeId) :
    Apart (evidence fabric link dtype a b) := by
  have hends := apart_endEvidence dtype h
  have hnextHops : Apart [nextHopItem a, nextHopItem b] := apart_pair h
  have hthree : 3 < 4 := by omega
  have hprobes : ∀ item ∈ reachabilityItems fabric, 5 ≤ item.kind.order := by
    intro item hitem
    obtain ⟨_, -, hhost⟩ := List.mem_flatMap.1 hitem
    exact (of_mem_hostReachabilityItems hhost).1.ge
  have hcontext : Apart ([nextHopItem a, nextHopItem b] ++ ecmpItems fabric link) :=
    hnextHops.append (apart_ecmpItems fabric link) 4
      (List.forall_mem_cons.2 ⟨hthree, List.forall_mem_singleton.2 hthree⟩)
      fun item hitem => (order_of_mem_ecmpItems item hitem).ge
  have hbefore : ∀ item ∈ [nextHopItem a, nextHopItem b] ++ ecmpItems fabric link,
      3 ≤ item.kind.order ∧ item.kind.order < 5 := by
    intro item hitem
    rcases List.mem_append.1 hitem with hitem | hitem
    · rcases List.mem_pair.1 hitem with rfl | rfl
      · exact ⟨le_refl 3, Nat.lt_of_lt_of_le hthree (Nat.le_succ 4)⟩
      · exact ⟨le_refl 3, Nat.lt_of_lt_of_le hthree (Nat.le_succ 4)⟩
    · rw [order_of_mem_ecmpItems item hitem]
      omega
  unfold evidence
  split_ifs
  · refine hends.append (hcontext.append (apart_reachabilityItems hdistinct) 5
      (fun item hitem => (hbefore item hitem).2) hprobes) 3 order_of_mem_endEvidence ?_
    intro item hitem
    rcases List.mem_append.1 hitem with hitem | hitem
    · exact (hbefore item hitem).1
    · have hfive := hprobes item hitem
      omega
  · rw [List.append_nil]
    exact hends

end DiagnosisEngine
end MetaRne
