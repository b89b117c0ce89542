/-
# The diagnosis of one link

What `diagnose` returns is the diagnoses of the declared links between routers, each
link's own.  What a diagnosis says of its link is stated here once
(`IsDiagnosisOf`), so that no proof about diagnoses opens the engine again.
-/

import Mathlib.Data.List.Dedup
import MetaRne.Diagnosis.Engine

namespace MetaRne
namespace DiagnosisEngine

open Python

variable {fabric : FabricOperationalState} {link : RouterLink} {diagnosis : Diagnosis}

/-- What the engine says of a link that it diagnoses. -/
structure IsDiagnosisOf (fabric : FabricOperationalState) (link : RouterLink)
    (diagnosis : Diagnosis) : Prop where
  symptomatic : isSymptomatic (views fabric link).1 (views fabric link).2 = true
  resource : diagnosis.resource = linkRef link.1
  evidence : diagnosis.evidence =
    (evidence fabric link.1 diagnosis.diagnosisType (views fabric link).1
      (views fabric link).2).insertionSort evidenceLe
  symptomKeys : diagnosis.symptomKeys = symptomKeys [(views fabric link).1, (views fabric link).2]
  collectionId : diagnosis.collectionId = fabric.collectionId
  collectedAt : diagnosis.collectedAt = fabric.collectedAt

theorem isDiagnosisOf (h : diagnoseLink fabric link = some diagnosis) :
    IsDiagnosisOf fabric link diagnosis := by
  unfold diagnoseLink at h
  dsimp only at h
  split at h
  · cases h
  · next hsymptomatic =>
    rw [← Option.some.inj h]
    exact ⟨Bool.not_eq_false _ |>.mp hsymptomatic, rfl, rfl, rfl, rfl, rfl⟩

/-- Where a failure is observed at an end, there is a diagnosis. -/
theorem exists_diagnoseLink
    (h : isSymptomatic (views fabric link).1 (views fabric link).2 = true) :
    ∃ diagnosis, diagnoseLink fabric link = some diagnosis := by
  unfold diagnoseLink
  dsimp only
  rw [if_neg (by rw [h]; decide)]
  exact ⟨_, rfl⟩

/-- A failure is an interface or a session that is down, at either end. -/
theorem isSymptomatic_iff {a b : EndView} : isSymptomatic a b = true ↔
    ∃ view ∈ [a, b], view.interfaceState = .down ∨ view.bgpState = .down := by
  rw [isSymptomatic, Bool.or_eq_true, List.contains_iff_mem, List.contains_iff_mem, List.mem_pair,
    List.mem_pair]
  constructor
  · rintro ((h | h) | (h | h))
    · exact ⟨a, List.mem_pair.2 (Or.inl rfl), Or.inl h.symm⟩
    · exact ⟨b, List.mem_pair.2 (Or.inr rfl), Or.inl h.symm⟩
    · exact ⟨a, List.mem_pair.2 (Or.inl rfl), Or.inr h.symm⟩
    · exact ⟨b, List.mem_pair.2 (Or.inr rfl), Or.inr h.symm⟩
  · rintro ⟨view, hview, hdown⟩
    rcases List.mem_pair.1 hview with rfl | rfl
    · exact hdown.imp (fun h => Or.inl h.symm) fun h => Or.inl h.symm
    · exact hdown.imp (fun h => Or.inr h.symm) fun h => Or.inr h.symm

theorem mem_symptomKeys {key : SymptomKey} {views : List EndView} :
    key ∈ symptomKeys views ↔ ∃ view ∈ views, view.bgpState = .down ∧ symptomKey view = key := by
  rw [symptomKeys, List.mem_insertionSort, List.mem_dedup, List.mem_map]
  simp only [List.mem_filter, beq_iff_eq, and_assoc]

theorem nodup_symptomKeys (views : List EndView) : (symptomKeys views).Nodup :=
  (List.perm_insertionSort _ _).nodup_iff.2 (List.nodup_dedup _)

/-! ### Among all links -/

theorem mem_diagnose :
    diagnosis ∈ diagnose fabric ↔ ∃ link ∈ lab1RouterLinks, diagnoseLink fabric link = some diagnosis := by
  rw [diagnose, List.mem_insertionSort, List.mem_filterMap]

/-- The diagnosis of a link names the link. -/
theorem resourceId_of_diagnoseLink (h : diagnoseLink fabric link = some diagnosis) :
    diagnosis.resource.resourceId = link.1.linkId := by
  rw [(isDiagnosisOf h).resource]
  rfl

theorem linkId_injOn {a b : RouterLink} (ha : a ∈ lab1RouterLinks) (hb : b ∈ lab1RouterLinks)
    (h : a.1.linkId = b.1.linkId) : a = b := by
  have hnodup : (lab1RouterLinks.map fun link => link.1.linkId).Nodup := by decide +kernel
  exact List.inj_on_of_nodup_map hnodup ha hb h

/-- The diagnoses that name a declared link are the one of that link. -/
theorem mem_diagnose_iff (hlink : link ∈ lab1RouterLinks) :
    (diagnosis ∈ diagnose fabric ∧ (diagnosis.resource.resourceId == link.1.linkId) = true) ↔
      diagnoseLink fabric link = some diagnosis := by
  rw [mem_diagnose, beq_iff_eq]
  constructor
  · rintro ⟨⟨other, hother, hdiagnosed⟩, hid⟩
    rw [resourceId_of_diagnoseLink hdiagnosed] at hid
    rwa [← linkId_injOn hother hlink hid]
  · intro h
    exact ⟨⟨link, hlink, h⟩, resourceId_of_diagnoseLink h⟩

end DiagnosisEngine
end MetaRne
