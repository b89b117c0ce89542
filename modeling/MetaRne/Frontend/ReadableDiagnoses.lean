/-
# When a diagnosis reaches the operator

The engine, the store and the client's guards together.  The query answers for every
platform that requests can reach and links only what the store keeps
(`correlate_reads`); what it answers is then read by the client, whole and in order,
or not at all.

The client reads it exactly if no link is diagnosed with a class while the probes of a
host were not observed (`diagnosis_read_iff`): a host that reported nothing blanks the
diagnosis of a link that failed elsewhere.
-/

import MetaRne.Application.DiagnosisAgreement
import MetaRne.Diagnosis.Locality
import MetaRne.Frontend.NetworkDiagnosisServed

namespace MetaRne

open Library Library.Effect Python

namespace GetNetworkDiagnosis

variable {ids : IdFactory} {s : Session} {t : Timestamp}

/-- A reference to an incident of the store that was not seen after a time. -/
def RefersTo (s : Session) (t : Timestamp) (reference : IncidentReference) : Prop :=
  ∃ id i, s.store.incidents.get? id = some i ∧ i.lastSeenAt ≤ t ∧ reference = .fromIncident i

/-- What is linked has the texts and the dates of a valid incident. -/
theorem kept_of_refersTo (hs : LedgerInvariant ids s) (ht : t ≤ maxTimestamp)
    {reference : IncidentReference} (h : RefersTo s t reference) : reference.Kept := by
  obtain ⟨id, i, hi, hseen, rfl⟩ := h
  have hvalid := (hs.well_kept hi).valid
  have hdated := hseen.trans ht
  exact ⟨hvalid.incidentId_not_blank, hvalid.deviceId_not_blank,
    hvalid.affectedResource_not_blank, hvalid.createdAt_le.trans hdated, hdated⟩

/-- Looking up a symptom returns, and finds at most an incident that it may link. -/
theorem linkSymptom_reads (hs : LedgerInvariant ids s) (key : SymptomKey) :
    ∃ found, (linkSymptom t key).run s = .ok found s ∧
      ∀ reference ∈ found, RefersTo s t reference := by
  rw [linkSymptom, check_bind_of_ok key.computeFingerprint_eq]
  cases hopen : findOpenByFingerprint s.store.incidents key.findingKey.fingerprint with
  | none =>
      refine ⟨none, bind_eq_ok.2 ⟨none, s, ?_, pure_eq_ok.2 ⟨rfl, rfl⟩⟩, fun _ h => by cases h⟩
      change EStateM.Result.ok (findOpenByFingerprint s.store.incidents _) s = _
      rw [hopen]
  | some i =>
      have hread : (Memory.getOpenByFingerprint key.findingKey.fingerprint).run s =
          .ok (some i) s := by
        change EStateM.Result.ok (findOpenByFingerprint s.store.incidents _) s = _
        rw [hopen]
      by_cases hlater : t < i.lastSeenAt
      · refine ⟨none, bind_eq_ok.2 ⟨some i, s, hread, ?_⟩, fun _ h => by cases h⟩
        dsimp only
        rw [if_pos hlater]
        exact pure_eq_ok.2 ⟨rfl, rfl⟩
      · refine ⟨some (.fromIncident i), bind_eq_ok.2 ⟨some i, s, hread, ?_⟩, fun _ h => ?_⟩
        · dsimp only
          rw [if_neg hlater]
          exact pure_eq_ok.2 ⟨rfl, rfl⟩
        · exact ⟨_, i, (hs.get?_of_findOpen hopen).1, not_lt.1 hlater, (Option.some.inj h).symm⟩

/-- A reference that is set is one that was there or one that came. -/
theorem mem_foldl_setdefault {references : List IncidentReference}
    {linked : Dict String IncidentReference} {reference : IncidentReference}
    (h : reference ∈ (references.foldl setdefault linked).values) :
    reference ∈ linked.values ∨ reference ∈ references := by
  induction references generalizing linked with
  | nil => exact Or.inl h
  | cons first references ih =>
      rcases ih h with h | h
      · rw [setdefault] at h
        split_ifs at h
        · exact Or.inl h
        · rcases Dict.mem_values_set h with rfl | h
          · exact Or.inr List.mem_cons_self
          · exact Or.inl h
      · exact Or.inr (List.mem_cons_of_mem first h)

/-- A diagnosis is correlated, with references to the store. -/
theorem correlate_reads (hs : LedgerInvariant ids s) (diagnosis : Diagnosis) :
    ∃ correlated, (correlate t diagnosis).run s = .ok correlated s ∧
      correlated.diagnosis = diagnosis ∧
      ∀ reference ∈ correlated.linkedIncidents, RefersTo s t reference := by
  have hround : ∀ key ∈ diagnosis.symptomKeys, ∃ found, (linkSymptom t key).run s = .ok found s ∧
      ∀ reference ∈ found, RefersTo s t reference := fun key _ => linkSymptom_reads hs key
  obtain ⟨found, hfound, hall⟩ := mapM_of_reads hround
  refine ⟨_, bind_eq_ok.2 ⟨found, s, hfound, pure_eq_ok.2 ⟨rfl, rfl⟩⟩, rfl, ?_⟩
  intro reference hreference
  rcases mem_foldl_setdefault hreference with h | h
  · exact absurd h List.not_mem_nil
  · obtain ⟨o, ho, hreads⟩ := List.mem_filterMap.1 h
    obtain ⟨key, -, hrefers⟩ := exists_left_of_forall₂ hall ho
    exact hrefers reference hreads

/-- Diagnoses are correlated one for one, with incidents that the store keeps. -/
theorem mapM_correlate_reads (hs : LedgerInvariant ids s) (ht : t ≤ maxTimestamp)
    (diagnoses : List Diagnosis) :
    ∃ correlated, (diagnoses.mapM (correlate t)).run s = .ok correlated s ∧
      correlated.map (fun item => item.diagnosis) = diagnoses ∧
      ∀ item ∈ correlated, ∀ reference ∈ item.linkedIncidents, reference.Kept := by
  have hround : ∀ diagnosis ∈ diagnoses, ∃ item, (correlate t diagnosis).run s = .ok item s ∧
      item.diagnosis = diagnosis ∧ ∀ reference ∈ item.linkedIncidents, RefersTo s t reference :=
    fun diagnosis _ => correlate_reads hs diagnosis
  obtain ⟨correlated, hrun, hall⟩ := mapM_of_reads hround
  refine ⟨correlated, hrun, ?_, ?_⟩
  · clear hrun hround
    induction hall with
    | nil => rfl
    | cons hhead _ ih => exact congrArg₂ List.cons hhead.1 ih
  · intro item hitem reference hreference
    obtain ⟨diagnosis, -, -, hrefers⟩ := exists_left_of_forall₂ hall hitem
    exact kept_of_refersTo hs ht (hrefers reference hreference)

end GetNetworkDiagnosis

namespace Frontend

open Api DiagnosisEngine

/-- No link is diagnosed with a class, or the probes of both hosts were observed. -/
def Readable (fabric : FabricOperationalState) : Prop :=
  (∀ diagnosis ∈ diagnose fabric, diagnosis.diagnosisType = .insufficientEvidence) ∨
    ∀ hostId ∈ lab1HostNodeIds, ProbesObserved fabric hostId

variable {d : Deployment} {p : Platform} {labName : String} {fabric : FabricOperationalState}

section Answer

variable {result : NetworkDiagnosisResult}

/-- What answers with the diagnoses of a readable fabric is read. -/
theorem read_of_readable (h : Readable fabric)
    (hdiagnoses : result.diagnoses.map (fun correlated => correlated.diagnosis) = diagnose fabric)
    (hkept : ∀ correlated ∈ result.diagnoses, ∀ reference ∈ correlated.linkedIncidents,
      reference.Kept)
    (hid : isBlank result.collectionId = false) (hdated : result.collectedAt ≤ maxTimestamp) :
    ∃ response, networkDiagnosisResponse? (networkDiagnosisResponse result) = some response ∧
      ReadsResult result response := by
  refine networkDiagnosisResponse?_served hid hdated (fun correlated hmem item hitem => ?_) hkept
  have hdiagnosed : correlated.diagnosis ∈ diagnose fabric :=
    hdiagnoses ▸ List.mem_map_of_mem hmem
  exact named_of_mem_evidence hdiagnosed (h.imp_left fun h => h _ hdiagnosed) hitem

/-- What answers with those of any other fabric is not. -/
theorem eq_none_of_not_readable (h : ¬Readable fabric)
    (hdiagnoses : result.diagnoses.map (fun correlated => correlated.diagnosis) = diagnose fabric)
    (hid : isBlank result.collectionId = false) (hdated : result.collectedAt ≤ maxTimestamp) :
    networkDiagnosisResponse? (networkDiagnosisResponse result) = none := by
  simp only [Readable, not_or, not_forall] at h
  obtain ⟨⟨diagnosis, hdiagnosis, htype⟩, hostId, hhost, hunobserved⟩ := h
  obtain ⟨item, hitem, huntargeted⟩ :=
    untargeted_mem_evidence hdiagnosis htype hhost hunobserved
  rw [← hdiagnoses] at hdiagnosis
  obtain ⟨correlated, hmem, rfl⟩ := List.mem_map.1 hdiagnosis
  exact networkDiagnosisResponse?_eq_none hid hdated hmem hitem
    (diagnosisEvidence?_eq_none huntargeted)

end Answer

/-- **A diagnosis reaches the operator whole or not at all.**  On every platform that
requests can reach, the query answers with the diagnoses of the latest fabric of a lab;
the client reads the answer if and only if no link is diagnosed with a class, or the
probes of both hosts were observed; and what it reads is what was answered, in order. -/
theorem diagnosis_read_iff (hp : Reachable d p)
    (hlatest : p.committed.operationalStates.get? labName = some fabric)
    (hdated : fabric.collectedAt ≤ maxTimestamp) :
    ∃ result, (GetNetworkDiagnosis.get labName).run p = .ok result p ∧
      result.diagnoses.map (fun correlated => correlated.diagnosis) = diagnose fabric ∧
      (isNetworkDiagnosisResponse (networkDiagnosisResponse result) = true ↔ Readable fabric) ∧
      ∀ response, networkDiagnosisResponse? (networkDiagnosisResponse result) = some response →
        ReadsResult result response := by
  obtain ⟨correlated, hrun, hmap, hkept⟩ := GetNetworkDiagnosis.mapM_correlate_reads
    (reachable_ledger hp) hdated (diagnose fabric)
  let result : NetworkDiagnosisResult := ⟨fabric.collectionId, fabric.collectedAt, correlated⟩
  have hread (h : Readable fabric) : ∃ response,
      networkDiagnosisResponse? (networkDiagnosisResponse result) = some response ∧
        ReadsResult result response :=
    read_of_readable h hmap hkept fabric.collectionId_not_blank hdated
  have hblank (h : ¬Readable fabric) :
      networkDiagnosisResponse? (networkDiagnosisResponse result) = none :=
    eq_none_of_not_readable h hmap fabric.collectionId_not_blank hdated
  refine ⟨result, reading_ok (GetNetworkDiagnosis.body_of_latest hlatest hrun), hmap, ?_, ?_⟩
  · constructor
    · intro haccepted
      by_contra h
      rw [isNetworkDiagnosisResponse, hblank h] at haccepted
      cases haccepted
    · intro h
      obtain ⟨response, hresponse, -⟩ := hread h
      rw [isNetworkDiagnosisResponse, hresponse]
      rfl
  · intro response hresponse
    by_cases h : Readable fabric
    · obtain ⟨response', hresponse', hreads⟩ := hread h
      rw [hresponse'] at hresponse
      rwa [← Option.some.inj hresponse]
    · rw [hblank h] at hresponse
      cases hresponse

/-- One uplink of `leaf-2` is down, and no host reported anything. -/
def oneUplinkDown : FabricOperationalState := uplinksFabric .down .up

theorem not_readable_oneUplinkDown : ¬Readable oneUplinkDown := by
  rintro (h | h)
  · have hclass : (diagnose oneUplinkDown).all (fun diagnosis =>
        diagnosis.diagnosisType == .insufficientEvidence) = false := by decide +kernel
    rw [List.all_eq_true.2 fun diagnosis hdiagnosis => beq_iff_eq.2 (h diagnosis hdiagnosis)]
      at hclass
    cases hclass
  · obtain ⟨node, hnode, -⟩ := h "host-1" (by decide)
    have hnone : (oneUplinkDown.node? "host-1").isSome = false := by decide +kernel
    rw [hnode] at hnone
    cases hnone

set_option maxRecDepth 20000 in
/-- It is accepted, and the client rejects what is then served. -/
theorem diagnosis_read_iff_oneUplinkDown :
    ∃ outcome p', (OperationalStateIngestion.ingest labDeployment.incidentIds oneUplinkDown).run
        .initial = .ok outcome p' ∧
      ∃ result, (GetNetworkDiagnosis.get "uplinks").run p' = .ok result p' ∧
        isNetworkDiagnosisResponse (networkDiagnosisResponse result) = false := by
  have hcreated : (match (OperationalStateIngestion.ingest labDeployment.incidentIds
      oneUplinkDown).run .initial with
      | .ok outcome _ => decide (outcome.stateOutcome = .created)
      | .error _ _ => false) = true := by decide +kernel
  cases h : (OperationalStateIngestion.ingest labDeployment.incidentIds oneUplinkDown).run
      .initial with
  | error e p' =>
      rw [h] at hcreated
      cases hcreated
  | ok outcome p' =>
      rw [h] at hcreated
      have hinitial : Reachable labDeployment .initial := ⟨[], rfl⟩
      have hreach := hinitial.respond (.ingestOperationalState oneUplinkDown)
      rw [respond_of_ingest h] at hreach
      have hlatest := latest_of_ingest hinitial h (Or.inl (of_decide_eq_true hcreated))
        (by decide +kernel : oneUplinkDown.labName? = some "uplinks")
      obtain ⟨result, hresult, -, hread, -⟩ := diagnosis_read_iff hreach hlatest (by decide)
      exact ⟨outcome, p', rfl, result, hresult,
        Bool.not_eq_true _ |>.mp (mt hread.1 not_readable_oneUplinkDown)⟩

end Frontend
end MetaRne
