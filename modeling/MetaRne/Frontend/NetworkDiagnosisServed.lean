/-
# What the client makes of a served diagnosis

The backend writes `GET /network/diagnosis` from its diagnoses, and the client's guards
read it.  They take every text of an observation to be there
(`EvidenceObservation.Named`): where all are, the response is read whole and in order
(`networkDiagnosisResponse?_served`), and where one item of evidence is not read, nothing
of the response is (`networkDiagnosisResponse?_eq_none`).
-/

import MetaRne.Api.NetworkDiagnosisSchemas
import MetaRne.Diagnosis.NamedEvidence
import MetaRne.Frontend.NetworkDiagnosisTypes
import MetaRne.Frontend.NetworkStateServed

namespace MetaRne

open Python

/-- What the store keeps of an incident that it links: texts, and dates of a datetime. -/
structure IncidentReference.Kept (reference : IncidentReference) : Prop where
  incidentId_not_blank : isBlank reference.incidentId = false
  deviceId_not_blank : isBlank reference.deviceId = false
  affectedResource_not_blank : isBlank reference.affectedResource = false
  createdAt_le : reference.createdAt ≤ maxTimestamp
  lastSeenAt_le : reference.lastSeenAt ≤ maxTimestamp

namespace Frontend

open Api Library.Effect

/-! ### What the client has -/

namespace Served

def resource (link : LinkRef) : DiagnosisResource :=
  ⟨link.resourceId, ⟨link.aNode, link.aInterface⟩, ⟨link.bNode, link.bInterface⟩⟩

def evidence (item : EvidenceItem) : DiagnosisEvidence :=
  ⟨item.kind, item.role, item.nodeId, item.subject, item.observed⟩

def symptomKey (key : MetaRne.SymptomKey) : SymptomKey := ⟨key.deviceId, key.affectedResource⟩

end Served

/-- A linked incident as the client has it. -/
structure ReadsIncident (reference : IncidentReference) (incident : LinkedIncident) : Prop where
  incidentId : incident.incidentId = reference.incidentId
  deviceId : incident.deviceId = reference.deviceId
  affectedResource : incident.affectedResource = reference.affectedResource
  severity : incident.severity = reference.severity.value
  status : incident.status = reference.status.value
  createdAt : incident.createdAt.instant = instantOf reference.createdAt
  lastSeenAt : incident.lastSeenAt.instant = instantOf reference.lastSeenAt
  occurrenceCount : incident.occurrenceCount = reference.occurrenceCount

/-- A diagnosis as the client has it. -/
structure ReadsDiagnosis (correlated : CorrelatedDiagnosis) (diagnosis : Diagnosis) : Prop where
  diagnosisType : diagnosis.diagnosisType = correlated.diagnosis.diagnosisType
  confidence : diagnosis.confidence = correlated.diagnosis.confidence
  resource : diagnosis.resource = Served.resource correlated.diagnosis.resource
  evidence : diagnosis.evidence = correlated.diagnosis.evidence.map Served.evidence
  symptomKeys : diagnosis.symptomKeys = correlated.diagnosis.symptomKeys.map Served.symptomKey
  linkedIncidents : List.Forall₂ ReadsIncident correlated.linkedIncidents diagnosis.linkedIncidents

/-- A response as the client has it. -/
structure ReadsResult (result : NetworkDiagnosisResult) (response : NetworkDiagnosisResponse) :
    Prop where
  collectionId : response.collectionId = result.collectionId
  collectedAt : response.collectedAt.instant = instantOf result.collectedAt
  diagnoses : List.Forall₂ ReadsDiagnosis result.diagnoses response.diagnoses

/-! ### The words -/

theorem oneOf_diagnosisType (dtype : DiagnosisType) :
    oneOf diagnosisTypes (.str dtype.value) = some dtype := by
  cases dtype <;> decide

theorem oneOf_diagnosisConfidence (confidence : DiagnosisConfidence) :
    oneOf diagnosisConfidences (.str confidence.value) = some confidence := by
  cases confidence <;> decide

theorem oneOf_evidenceRole (role : EvidenceRole) :
    oneOf evidenceRoles (.str role.value) = some role := by
  cases role <;> decide

theorem oneOf_evidenceKind (kind : EvidenceKind) :
    oneOf evidenceKinds (.str kind.value) = some kind := by
  cases kind <;> decide

theorem oneOf_endpointInterfaceState (state : EndpointInterfaceState) :
    oneOf endpointInterfaceStates (.str state.value) = some state := by
  cases state <;> decide

theorem oneOf_endpointBgpState (state : EndpointBgpState) :
    oneOf endpointBgpStates (.str state.value) = some state := by
  cases state <;> decide

theorem nonEmptyString?_severity (severity : Severity) :
    nonEmptyString? (.str severity.value) = some severity.value := by
  cases severity <;> decide

theorem nonEmptyString?_status (status : IncidentStatus) :
    nonEmptyString? (.str status.value) = some status.value := by
  cases status <;> decide

theorem nullable_flagJson (flag : Option Bool) : nullable boolean? (flagJson flag) = some flag := by
  cases flag with
  | none => rfl
  | some b => rfl

/-! ### Lists -/

section Lists

variable {α β : Type} {guard? : Json → Option β} {encode : α → Json} {xs : List α}

/-- A list is read if each of its elements is, as what stands in `R` to it. -/
theorem arrayOf_listJson_reads {R : α → β → Prop}
    (h : ∀ x ∈ xs, ∃ y, guard? (encode x) = some y ∧ R x y) :
    ∃ ys, arrayOf guard? (listJson encode xs) = some ys ∧ List.Forall₂ R xs ys := by
  change ∃ ys, (xs.map encode).mapM guard? = some ys ∧ _
  induction xs with
  | nil => exact ⟨[], rfl, .nil⟩
  | cons x xs ih =>
      obtain ⟨y, hy, hR⟩ := h x List.mem_cons_self
      obtain ⟨ys, hys, hall⟩ := ih fun z hz => h z (List.mem_cons_of_mem x hz)
      refine ⟨y :: ys, ?_, .cons hR hall⟩
      rw [List.map_cons, List.mapM_cons, hy, hys]
      rfl

/-- A list is not read if one of its elements is not. -/
theorem arrayOf_listJson_eq_none {x : α} (hx : x ∈ xs) (h : guard? (encode x) = none) :
    arrayOf guard? (listJson encode xs) = none := by
  change (xs.map encode).mapM guard? = none
  induction xs with
  | nil => exact absurd hx List.not_mem_nil
  | cons y ys ih =>
      rw [List.map_cons, List.mapM_cons]
      rcases List.mem_cons.1 hx with rfl | hx
      · rw [h]
        rfl
      · rw [ih hx]
        cases guard? (encode y) with
        | none => rfl
        | some b => rfl

end Lists

/-! ### The records -/

/-- **An observation with all of its texts is read** by the guard of its kind. -/
theorem observedGuard?_served {observed : EvidenceObservation} (h : observed.Named) :
    observedGuard? observed.kind (observedFromDomain observed) = some observed := by
  cases observed with
  | interfaceState observed =>
      simp (disch := decide) only [EvidenceObservation.kind, observedGuard?, interfaceStateObserved?,
        observedFromDomain, field_cons_self, field_cons_of_ne, nonEmptyString?_str h,
        oneOf_endpointInterfaceState, Option.bind_eq_bind, Option.bind_some]
      rfl
  | bgpSession observed =>
      simp (disch := decide) only [EvidenceObservation.kind, observedGuard?, bgpSessionObserved?,
        observedFromDomain, field_cons_self, field_cons_of_ne, nonEmptyString?_str h,
        oneOf_endpointBgpState, nullable_textJson, Option.bind_eq_bind, Option.bind_some]
      rfl
  | addressMatch observed =>
      have haddresses : arrayOf nonEmptyString? (listJson .str observed.observedAddresses) =
          some observed.observedAddresses := by
        rw [arrayOf_listJson (f := fun s => s) fun s hs => nonEmptyString?_str (h.2.2 s hs),
          List.map_id']
      simp (disch := decide) only [EvidenceObservation.kind, observedGuard?, addressObserved?,
        observedFromDomain, field_cons_self, field_cons_of_ne, nonEmptyString?_str h.1,
        nonEmptyString?_str h.2.1, haddresses, nullable_flagJson, Option.bind_eq_bind,
        Option.bind_some]
      rfl
  | routeNextHop observed =>
      simp (disch := decide) only [EvidenceObservation.kind, observedGuard?, nextHopObserved?,
        observedFromDomain, field_cons_self, field_cons_of_ne, nonEmptyString?_str h.1,
        nonEmptyString?_str h.2, nullable_countJson, Option.bind_eq_bind, Option.bind_some]
      rfl
  | ecmpPaths observed =>
      simp (disch := decide) only [EvidenceObservation.kind, observedGuard?, ecmpPathsObserved?,
        observedFromDomain, field_cons_self, field_cons_of_ne, nonEmptyString?_str h.1,
        nonEmptyString?_str h.2, nullable_countJson, nullable_flagJson, nonNegativeInteger?_ofNat,
        Option.bind_eq_bind, Option.bind_some]
      rfl
  | reachability observed =>
      simp (disch := decide) only [EvidenceObservation.kind, observedGuard?, reachabilityObserved?,
        observedFromDomain, field_cons_self, field_cons_of_ne, nonEmptyString?_str h,
        nullable_countJson, Option.bind_eq_bind, Option.bind_some]
      rfl

theorem diagnosisEvidence?_served {item : EvidenceItem} (h : item.observed.Named) :
    diagnosisEvidence? (diagnosisEvidenceResponse item) = some (Served.evidence item) := by
  have hobserved := observedGuard?_served h
  rw [item.kind_eq] at hobserved
  simp (disch := decide) only [diagnosisEvidence?, diagnosisEvidenceResponse, field_cons_self,
    field_cons_of_ne, oneOf_evidenceKind, oneOf_evidenceRole,
    nonEmptyString?_of_not_blank item.nodeId_not_blank,
    nonEmptyString?_of_not_blank item.subject_not_blank, hobserved, Option.bind_eq_bind,
    Option.bind_some, Served.evidence]
  rfl

/-- An item about the probes of no target is not read. -/
theorem diagnosisEvidence?_eq_none {item : EvidenceItem} {sent received : Option ℕ}
    (h : item.observed = .reachability ⟨"", sent, received⟩) :
    diagnosisEvidence? (diagnosisEvidenceResponse item) = none := by
  have hkind : item.kind = .reachability := by
    rw [← item.kind_eq, h]
    rfl
  have hobserved : observedGuard? .reachability (observedFromDomain item.observed) = none := by
    rw [h]
    rfl
  simp (disch := decide) only [diagnosisEvidence?, diagnosisEvidenceResponse, field_cons_self,
    field_cons_of_ne, oneOf_evidenceKind, oneOf_evidenceRole, hkind,
    nonEmptyString?_of_not_blank item.nodeId_not_blank,
    nonEmptyString?_of_not_blank item.subject_not_blank, hobserved, Option.bind_eq_bind,
    Option.bind_some, Option.bind_none]

theorem resource?_served (link : LinkRef) :
    resource? (diagnosisResourceResponse link) = some (Served.resource link) := by
  have hid : nonEmptyString? (.str link.resourceId) = some link.resourceId :=
    nonEmptyString?_of_not_blank (isBlank_append_of_left (isBlank_append_of_left
      (isBlank_append_of_left (isBlank_append_of_left (isBlank_append_of_left
        (isBlank_append_of_left link.aNode_not_blank _) _) _) _) _) _)
  simp (disch := decide) only [resource?, endpoint?, diagnosisResourceResponse,
    diagnosisEndpointResponse, field_cons_self, field_cons_of_ne, hid,
    nonEmptyString?_of_not_blank link.aNode_not_blank,
    nonEmptyString?_of_not_blank link.aInterface_not_blank,
    nonEmptyString?_of_not_blank link.bNode_not_blank,
    nonEmptyString?_of_not_blank link.bInterface_not_blank, Option.bind_eq_bind,
    Option.bind_some, Served.resource]
  rfl

theorem symptomKey?_served (key : MetaRne.SymptomKey) :
    symptomKey? (diagnosisSymptomKeyResponse key) = some (Served.symptomKey key) := by
  simp (disch := decide) only [symptomKey?, diagnosisSymptomKeyResponse, field_cons_self,
    field_cons_of_ne, nonEmptyString?_of_not_blank key.deviceId_not_blank,
    nonEmptyString?_of_not_blank key.affectedResource_not_blank, Option.bind_eq_bind,
    Option.bind_some, Served.symptomKey]
  rfl

theorem linkedIncident?_served {reference : IncidentReference} (h : reference.Kept) :
    ∃ incident, linkedIncident? (linkedIncidentResponse reference) = some incident ∧
      ReadsIncident reference incident := by
  obtain ⟨createdAt, hcreatedAt, hcreated⟩ := parseableTimestamp?_jsonText h.createdAt_le
  obtain ⟨lastSeenAt, hlastSeenAt, hseen⟩ := parseableTimestamp?_jsonText h.lastSeenAt_le
  refine ⟨⟨reference.incidentId, reference.deviceId, reference.affectedResource,
    reference.severity.value, reference.status.value, createdAt, lastSeenAt,
    reference.occurrenceCount⟩, ?_, ⟨rfl, rfl, rfl, rfl, rfl, hcreated, hseen, rfl⟩⟩
  simp (disch := decide) only [linkedIncident?, linkedIncidentResponse, field_cons_self,
    field_cons_of_ne, nonEmptyString?_of_not_blank h.incidentId_not_blank,
    nonEmptyString?_of_not_blank h.deviceId_not_blank,
    nonEmptyString?_of_not_blank h.affectedResource_not_blank, nonEmptyString?_severity,
    nonEmptyString?_status, datetimeJson, hcreatedAt, hlastSeenAt, nonNegativeInteger?_ofNat,
    Option.bind_eq_bind, Option.bind_some]
  rfl

/-- The confidence is read: it is missing exactly where the guard wants it to be. -/
theorem confidence?_served (diagnosis : MetaRne.Diagnosis) :
    confidence? diagnosis.diagnosisType
      (Json.ofOption (fun confidence => .str confidence.value) diagnosis.confidence) =
        some diagnosis.confidence := by
  have hiff := diagnosis.confidence_none_iff
  cases hconfidence : diagnosis.confidence with
  | none =>
      rw [hiff.1 hconfidence]
      rfl
  | some confidence =>
      have hread := congrArg (Option.map some) (oneOf_diagnosisConfidence confidence)
      cases htype : diagnosis.diagnosisType with
      | insufficientEvidence =>
          rw [hiff.2 htype] at hconfidence
          cases hconfidence
      | physicalLinkFailure => exact hread
      | bgpSessionFailure => exact hread

section Diagnosis

variable {correlated : CorrelatedDiagnosis}

/-- **A diagnosis is read whole** where all of its evidence is. -/
theorem diagnosis?_served (hnamed : ∀ item ∈ correlated.diagnosis.evidence, item.observed.Named)
    (hkept : ∀ reference ∈ correlated.linkedIncidents, reference.Kept) :
    ∃ diagnosis, diagnosis? (networkDiagnosisItemResponse correlated) = some diagnosis ∧
      ReadsDiagnosis correlated diagnosis := by
  obtain ⟨incidents, hincidents, hreads⟩ := arrayOf_listJson_reads fun reference hreference =>
    linkedIncident?_served (hkept reference hreference)
  have hevidence := arrayOf_listJson fun item hitem => diagnosisEvidence?_served (hnamed item hitem)
  have hkeys : arrayOf symptomKey?
      (listJson diagnosisSymptomKeyResponse correlated.diagnosis.symptomKeys) =
      some (correlated.diagnosis.symptomKeys.map Served.symptomKey) :=
    arrayOf_listJson fun key _ => symptomKey?_served key
  refine ⟨⟨correlated.diagnosis.diagnosisType, correlated.diagnosis.confidence,
    Served.resource correlated.diagnosis.resource,
    correlated.diagnosis.evidence.map Served.evidence,
    correlated.diagnosis.symptomKeys.map Served.symptomKey, incidents⟩, ?_,
    ⟨rfl, rfl, rfl, rfl, rfl, hreads⟩⟩
  simp (disch := decide) only [diagnosis?, networkDiagnosisItemResponse, field_cons_self,
    field_cons_of_ne, oneOf_diagnosisType, confidence?_served, resource?_served, hevidence, hkeys,
    hincidents, Option.bind_eq_bind, Option.bind_some]
  rfl

/-- A diagnosis with an item of evidence that is not read is not read. -/
theorem diagnosis?_eq_none {item : EvidenceItem} (hitem : item ∈ correlated.diagnosis.evidence)
    (h : diagnosisEvidence? (diagnosisEvidenceResponse item) = none) :
    diagnosis? (networkDiagnosisItemResponse correlated) = none := by
  have hevidence := arrayOf_listJson_eq_none hitem h
  simp (disch := decide) only [diagnosis?, networkDiagnosisItemResponse, field_cons_self,
    field_cons_of_ne, oneOf_diagnosisType, confidence?_served, resource?_served, hevidence,
    Option.bind_eq_bind, Option.bind_some, Option.bind_none]

end Diagnosis

section Response

variable {result : NetworkDiagnosisResult}

/-- **A response is read whole** where all of its evidence is. -/
theorem networkDiagnosisResponse?_served (hid : isBlank result.collectionId = false)
    (hdated : result.collectedAt ≤ maxTimestamp)
    (hnamed : ∀ correlated ∈ result.diagnoses, ∀ item ∈ correlated.diagnosis.evidence,
      item.observed.Named)
    (hkept : ∀ correlated ∈ result.diagnoses, ∀ reference ∈ correlated.linkedIncidents,
      reference.Kept) :
    ∃ response, networkDiagnosisResponse? (networkDiagnosisResponse result) = some response ∧
      ReadsResult result response := by
  obtain ⟨collectedAt, hcollectedAt, hinstant⟩ := parseableTimestamp?_jsonText hdated
  obtain ⟨diagnoses, hdiagnoses, hreads⟩ := arrayOf_listJson_reads fun correlated hmem =>
    diagnosis?_served (hnamed correlated hmem) (hkept correlated hmem)
  refine ⟨⟨result.collectionId, collectedAt, diagnoses⟩, ?_, ⟨rfl, hinstant, hreads⟩⟩
  simp (disch := decide) only [networkDiagnosisResponse?, networkDiagnosisResponse,
    field_cons_self, field_cons_of_ne, nonEmptyString?_of_not_blank hid, datetimeJson,
    hcollectedAt, hdiagnoses, Option.bind_eq_bind, Option.bind_some]
  rfl

/-- **One item of evidence that is not read** blanks the whole response. -/
theorem networkDiagnosisResponse?_eq_none (hid : isBlank result.collectionId = false)
    (hdated : result.collectedAt ≤ maxTimestamp) {correlated : CorrelatedDiagnosis}
    (hmem : correlated ∈ result.diagnoses) {item : EvidenceItem}
    (hitem : item ∈ correlated.diagnosis.evidence)
    (h : diagnosisEvidence? (diagnosisEvidenceResponse item) = none) :
    networkDiagnosisResponse? (networkDiagnosisResponse result) = none := by
  obtain ⟨collectedAt, hcollectedAt, -⟩ := parseableTimestamp?_jsonText hdated
  have hdiagnoses := arrayOf_listJson_eq_none hmem (diagnosis?_eq_none hitem h)
  simp (disch := decide) only [networkDiagnosisResponse?, networkDiagnosisResponse,
    field_cons_self, field_cons_of_ne, nonEmptyString?_of_not_blank hid, datetimeJson,
    hcollectedAt, hdiagnoses, Option.bind_eq_bind, Option.bind_some, Option.bind_none]

end Response

end Frontend
end MetaRne
