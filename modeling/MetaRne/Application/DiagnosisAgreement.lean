/-
# Diagnoses and incidents agree

Two pipelines read one fabric.  On the way in, detection hands every session
that is down in as an incident; on the way out, the engine reads the same
sessions again, and the query looks up the incident of each by the fingerprint
of a resource it formats itself.

A session that the engine takes for down is one that a router reported Idle or
Active (`symptom_reported`), so right after a fabric was accepted each symptom
of each diagnosis has exactly one open incident, seen at the collection: the one
the query links (`diagnosis_links_symptoms`).
-/

import Mathlib.Data.List.Dedup
import MetaRne.Application.LatestObservation
import MetaRne.Application.NetworkDiagnosis
import MetaRne.Application.SessionReconciliation
import MetaRne.Diagnosis.LinkDiagnoses

namespace MetaRne

open Library Library.Effect Library.Runs Python

/-- What the incident of a symptom is about. -/
def SymptomKey.findingKey (key : SymptomKey) : FindingKey :=
  ⟨key.deviceId, .anomaly, RuleId.bgpDown.value, key.affectedResource⟩

theorem SymptomKey.findingKey_injective : Function.Injective SymptomKey.findingKey := by
  intro key key' h
  simp only [findingKey, FindingKey.mk.injEq, true_and] at h
  exact fields_injective (Prod.ext h.1 h.2)

theorem SymptomKey.computeFingerprint_eq (key : SymptomKey) :
    computeFingerprint key.deviceId .anomaly RuleId.bgpDown.value key.affectedResource =
      .ok key.findingKey.fingerprint :=
  computeFingerprint_of_not_blank .anomaly key.deviceId_not_blank
    RuleId.bgpDown.not_isBlank_value key.affectedResource_not_blank

/-! ### The symptoms of a diagnosis -/

namespace DiagnosisEngine

variable {fabric : FabricOperationalState} {key : SymptomKey}

theorem isDown_of_toEndpoint {state : BgpSessionState} (h : state.toEndpoint = .down) :
    state = .idle ∨ state = .active := by
  cases state with
  | idle => exact Or.inl rfl
  | active => exact Or.inr rfl
  | _ => cases h

/-- One neighbour that a router of the fabric reported Idle or Active. -/
structure ReportedDown (fabric : FabricOperationalState) (key : FindingKey) : Prop where
  session : ∃ node ∈ fabric.nodes, node.role = .router ∧ ∃ deviceId bgp neighbor,
    lab1DeviceId? node.nodeId = some deviceId ∧ node.bgp = some bgp ∧ neighbor ∈ bgp.neighbors ∧
      (neighbor.state = .idle ∨ neighbor.state = .active) ∧
      key = sessionKey deviceId neighbor.neighborIp

/-- **A session that the engine takes for down** is one that its router reported so. -/
theorem reportedDown_of_view {endpoint peer : TopologyEndpoint}
    {known : (lab1DeviceId? endpoint.nodeId).isSome = true}
    (h : (view fabric endpoint peer known).bgpState = .down) :
    ReportedDown fabric (symptomKey (view fabric endpoint peer known)).findingKey := by
  unfold view at h
  dsimp only at h
  split at h
  · next neighbor hneighbor =>
    obtain ⟨node, hnode, hneighbor⟩ := Option.bind_eq_some_iff.1 hneighbor
    obtain ⟨bgp, hbgp, hfind⟩ := Option.bind_eq_some_iff.1 hneighbor
    obtain ⟨hmem, hid⟩ := FabricOperationalState.mem_of_node? hnode
    have haddress := List.find?_some hfind
    have hip : neighbor.neighborIp = peer.address := beq_iff_eq.1 haddress
    have hrole : node.role = .router := by
      cases hr : node.role with
      | router => rfl
      | host =>
          rw [(node.host_bgp hr).1] at hbgp
          cases hbgp
    obtain ⟨deviceId, hdevice⟩ := Option.isSome_iff_exists.1 known
    refine ⟨node, hmem, hrole, deviceId, bgp, neighbor, by rw [hid, hdevice], hbgp,
      List.mem_of_find?_eq_some hfind, isDown_of_toEndpoint h, ?_⟩
    have hget : (lab1DeviceId? endpoint.nodeId).get known = deviceId := by
      simp only [hdevice, Option.get_some]
    change FindingKey.mk ((lab1DeviceId? endpoint.nodeId).get known) _ _ _ = _
    rw [hget, hip]
    rfl
  · cases h

/-- The symptoms of a diagnosis are all different. -/
theorem symptomKeys_nodup {diagnosis : Diagnosis} (h : diagnosis ∈ diagnose fabric) :
    diagnosis.symptomKeys.Nodup := by
  obtain ⟨link, -, hlink⟩ := mem_diagnose.1 h
  rw [(isDiagnosisOf hlink).symptomKeys]
  exact nodup_symptomKeys _

/-- **Every symptom of a diagnosis is a session that was reported down.** -/
theorem symptom_reported {diagnosis : Diagnosis} (h : diagnosis ∈ diagnose fabric)
    (hkey : key ∈ diagnosis.symptomKeys) : ReportedDown fabric key.findingKey := by
  obtain ⟨link, -, hlink⟩ := mem_diagnose.1 h
  rw [(isDiagnosisOf hlink).symptomKeys, mem_symptomKeys] at hkey
  obtain ⟨end_, hend, hdown, rfl⟩ := hkey
  rcases List.mem_pair.1 hend with rfl | rfl
  · exact reportedDown_of_view hdown
  · exact reportedDown_of_view hdown

end DiagnosisEngine

/-! ### The query -/

namespace GetNetworkDiagnosis

variable {ids : IdFactory} {s : Session} {t : Timestamp} {key : SymptomKey}
  {incidentId : String} {i : Incident}

/-- The one open incident about a key is what its fingerprint finds. -/
theorem findOpenByFingerprint_of_onlyOpen (hs : LedgerInvariant ids s) {about : FindingKey}
    (h : OnlyOpen s.store.incidents about incidentId i) :
    findOpenByFingerprint s.store.incidents about.fingerprint = some i := by
  have hfp : i.fingerprint = about.fingerprint := by
    rw [(hs.well_kept h.stored).fingerprint_eq, h.about]
  cases hfound : findOpenByFingerprint s.store.incidents about.fingerprint with
  | none => exact absurd hfp (findOpenByFingerprint_eq_none.1 hfound _ i h.stored h.status)
  | some j =>
      obtain ⟨hj, hopen, hjfp⟩ := hs.get?_of_findOpen hfound
      rw [hs.unique_open hj h.stored hopen h.status (hjfp.trans hfp.symm)]

/-- A symptom with one open incident that was not seen later is linked to it. -/
theorem linkSymptom_of_onlyOpen (hs : LedgerInvariant ids s)
    (h : OnlyOpen s.store.incidents key.findingKey incidentId i) (hle : i.lastSeenAt ≤ t) :
    (linkSymptom t key).run s = .ok (some (.fromIncident i)) s := by
  rw [linkSymptom, check_bind_of_ok key.computeFingerprint_eq]
  have hread : (Memory.getOpenByFingerprint key.findingKey.fingerprint).run s = .ok (some i) s := by
    change EStateM.Result.ok (findOpenByFingerprint s.store.incidents _) s = _
    rw [findOpenByFingerprint_of_onlyOpen hs h]
  rw [bind_eq_ok]
  refine ⟨some i, s, hread, ?_⟩
  dsimp only
  rw [if_neg (not_lt.2 hle)]
  exact pure_eq_ok.2 ⟨rfl, rfl⟩

/-- References with different ids, none of which is linked yet, are linked in order. -/
theorem values_foldl_setdefault {references : List IncidentReference}
    {linked : Dict String IncidentReference}
    (hnew : ∀ reference ∈ references, linked.get? reference.incidentId = none)
    (hnodup : (references.map fun reference => reference.incidentId).Nodup) :
    (references.foldl setdefault linked).values = linked.values ++ references := by
  induction references generalizing linked with
  | nil => exact (List.append_nil _).symm
  | cons reference references ih =>
      rw [List.map_cons, List.nodup_cons] at hnodup
      have hnone := hnew reference (List.mem_cons_self ..)
      have hset : setdefault linked reference = linked.set reference.incidentId reference := by
        rw [setdefault, hnone]
        rfl
      rw [List.foldl_cons, hset, ih ?_ hnodup.2, Dict.values_set_of_get?_none _ hnone,
        List.append_assoc, List.singleton_append]
      intro other hother
      rw [Dict.get?_set_of_ne]
      · exact hnew other (List.mem_cons_of_mem _ hother)
      · intro hid
        exact hnodup.1 (hid ▸ List.mem_map_of_mem hother)

/-- The incident of a symptom: the one open incident about it, seen at `t`. -/
def IncidentOf (incidents : Dict String Incident) (t : Timestamp) (key : SymptomKey)
    (reference : IncidentReference) : Prop :=
  ∃ i, OnlyOpen incidents key.findingKey reference.incidentId i ∧ i.lastSeenAt = t ∧
    reference = .fromIncident i

/-- **The linked incidents correspond to the symptoms**, one to one and in order:
each is the one open incident of its symptom. -/
structure Corresponds (incidents : Dict String Incident) (t : Timestamp)
    (correlated : CorrelatedDiagnosis) : Prop where
  linked : List.Forall₂ (IncidentOf incidents t) correlated.diagnosis.symptomKeys
    correlated.linkedIncidents
  symptoms_nodup : correlated.diagnosis.symptomKeys.Nodup
  incidents_nodup : (correlated.linkedIncidents.map fun reference => reference.incidentId).Nodup

/-- Different symptoms have different incidents. -/
theorem nodup_of_incidentOf {incidents : Dict String Incident} {keys : List SymptomKey}
    {references : List IncidentReference} (h : List.Forall₂ (IncidentOf incidents t) keys references)
    (hnodup : keys.Nodup) : (references.map fun reference => reference.incidentId).Nodup := by
  induction h with
  | nil => exact List.nodup_nil
  | @cons key reference keys references hhead htail ih =>
      rw [List.nodup_cons] at hnodup
      rw [List.map_cons, List.nodup_cons]
      refine ⟨fun hmem => hnodup.1 ?_, ih hnodup.2⟩
      obtain ⟨other, hother, hid⟩ := List.mem_map.1 hmem
      obtain ⟨key', hkey', j, hj, -⟩ := exists_left_of_forall₂ htail hother
      obtain ⟨i, hi, -⟩ := hhead
      have hstored := hj.stored
      rw [hid, hi.stored, Option.some.injEq] at hstored
      have habout : key'.findingKey = key.findingKey := by rw [← hj.about, ← hi.about, hstored]
      rw [← SymptomKey.findingKey_injective habout]
      exact hkey'

/-- What was found for each symptom, when something was found for each. -/
theorem filterMap_of_found {R : SymptomKey → IncidentReference → Prop} {keys : List SymptomKey}
    {found : List (Option IncidentReference)}
    (h : List.Forall₂ (fun key o => ∃ reference, o = some reference ∧ R key reference) keys found) :
    List.Forall₂ R keys (found.filterMap id) := by
  induction h with
  | nil => exact .nil
  | @cons key o keys found hhead _ ih =>
      obtain ⟨reference, rfl, hR⟩ := hhead
      exact .cons hR ih

/-- **One diagnosis**: if every symptom has one open incident, seen at the
collection, these are the linked ones. -/
theorem correlate_ok (hs : LedgerInvariant ids s) {diagnosis : Diagnosis}
    (hnodup : diagnosis.symptomKeys.Nodup)
    (h : ∀ key ∈ diagnosis.symptomKeys, ∃ incidentId i,
      OnlyOpen s.store.incidents key.findingKey incidentId i ∧ i.lastSeenAt = t) :
    ∃ correlated, (correlate t diagnosis).run s = .ok correlated s ∧
      correlated.diagnosis = diagnosis ∧ Corresponds s.store.incidents t correlated := by
  have hround : ∀ key ∈ diagnosis.symptomKeys, ∃ o, (linkSymptom t key).run s = .ok o s ∧
      ∃ reference, o = some reference ∧ IncidentOf s.store.incidents t key reference := by
    intro key hkey
    obtain ⟨incidentId, i, honly, hseen⟩ := h key hkey
    refine ⟨_, linkSymptom_of_onlyOpen hs honly hseen.le, _, rfl, i, ?_, hseen, rfl⟩
    change OnlyOpen _ _ i.incidentId i
    rw [hs.filed honly.stored]
    exact honly
  obtain ⟨found, hfound, hall⟩ := mapM_of_reads hround
  have hlinked := filterMap_of_found hall
  have hids := nodup_of_incidentOf hlinked hnodup
  have hvalues : ((found.filterMap id).foldl setdefault .empty).values = found.filterMap id :=
    values_foldl_setdefault (fun _ _ => rfl) hids
  refine ⟨⟨diagnosis, _⟩, bind_eq_ok.2 ⟨found, s, hfound, pure_eq_ok.2 ⟨rfl, rfl⟩⟩, rfl, ?_⟩
  refine ⟨?_, hnodup, ?_⟩
  · rw [hvalues]
    exact hlinked
  · rw [hvalues]
    exact hids

/-- The query over a lab whose latest state is stored. -/
theorem body_of_latest {labName : String} {fabric : FabricOperationalState}
    {correlated : List CorrelatedDiagnosis}
    (hlatest : s.store.operationalStates.get? labName = some fabric)
    (h : ((DiagnosisEngine.diagnose fabric).mapM (correlate fabric.collectedAt)).run s =
      .ok correlated s) :
    (body labName).run s = .ok ⟨fabric.collectionId, fabric.collectedAt, correlated⟩ s := by
  have hread : (getLatestOperationalState labName).run s = .ok (some fabric) s := by
    change EStateM.Result.ok (s.store.operationalStates.get? labName) s = _
    rw [hlatest]
  rw [body, bind_eq_ok]
  refine ⟨some fabric, s, hread, ?_⟩
  dsimp only
  rw [bind_eq_ok]
  exact ⟨correlated, s, h, pure_eq_ok.2 ⟨rfl, rfl⟩⟩

end GetNetworkDiagnosis

/-! ### Right after an ingestion -/

section Ingest

variable {d : Deployment} {p p' : Platform} {fabric : FabricOperationalState} {labName : String}
  {result : OperationalStateIngestionResult}

theorem respond_of_ingest
    (h : (OperationalStateIngestion.ingest d.incidentIds fabric).run p = .ok result p') :
    respond d (.ingestOperationalState fabric) p = (.ok (.operationalState result), p') := by
  refine attempt_of_ok ?_
  change (Reply.operationalState <$> OperationalStateIngestion.ingest d.incidentIds fabric).run p = _
  rw [run_map_eq, h]

/-- A fabric that was accepted is its lab's latest state. -/
theorem latest_of_ingest (hp : Reachable d p)
    (h : (OperationalStateIngestion.ingest d.incidentIds fabric).run p = .ok result p')
    (hout : result.stateOutcome = .created ∨ result.stateOutcome = .replaced)
    (hlab : fabric.labName? = some labName) :
    p'.committed.operationalStates.get? labName = some fabric := by
  have htakes : Takes (fun stored incoming => incoming.Supersedes stored)
      (p.committed.operationalStates.get? labName) _ _ :=
    respond_takes hp (.ingestOperationalState fabric)
  have haccepted : isAccepted (.ok result.stateOutcome) = true := by
    rcases hout with hout | hout <;> rw [hout] <;> rfl
  rw [respond_of_ingest h, acceptedIngest, acceptedSave, if_pos ⟨haccepted, hlab⟩] at htakes
  generalize hheld : p'.committed.operationalStates.get? labName = held at htakes
  cases htakes with
  | taken _ => rfl

/-- **Diagnoses and incidents agree.**  Right after a fabric was accepted, on any
platform that requests can reach, the query returns the diagnoses of that
fabric, and the incidents linked to each of them correspond one to one to its
symptoms, if the keys at hand have distinct fingerprints. -/
theorem diagnosis_links_symptoms (hp : Reachable d p)
    (h : (OperationalStateIngestion.ingest d.incidentIds fabric).run p = .ok result p')
    (hout : result.stateOutcome = .created ∨ result.stateOutcome = .replaced)
    (hlab : fabric.labName? = some labName)
    (hfree : CollisionFree (storedKeys p.committed.incidents ∪ fabric.sessionKeys)) :
    ∃ answer, (GetNetworkDiagnosis.get labName).run p' = .ok answer p' ∧
      answer.diagnoses.map (fun correlated => correlated.diagnosis) =
        DiagnosisEngine.diagnose fabric ∧
      ∀ correlated ∈ answer.diagnoses, GetNetworkDiagnosis.Corresponds p'.committed.incidents
        fabric.collectedAt correlated := by
  have hreconciled := ingest_reconciles_sessions hp h hout hfree
  have hledger : LedgerInvariant d.incidentIds p'.openUnitOfWork := by
    have hreach := hp.respond (.ingestOperationalState fabric)
    rw [respond_of_ingest h] at hreach
    exact reachable_ledger hreach
  have hround : ∀ diagnosis ∈ DiagnosisEngine.diagnose fabric, ∃ correlated,
      (GetNetworkDiagnosis.correlate fabric.collectedAt diagnosis).run p'.openUnitOfWork =
          .ok correlated p'.openUnitOfWork ∧
        correlated.diagnosis = diagnosis ∧
        GetNetworkDiagnosis.Corresponds p'.committed.incidents fabric.collectedAt correlated := by
    intro diagnosis hmem
    refine GetNetworkDiagnosis.correlate_ok hledger (DiagnosisEngine.symptomKeys_nodup hmem) ?_
    intro key hkey
    obtain ⟨node, hnode, hrole, deviceId, bgp, neighbor, hdevice, hbgp, hneighbor, hstate, hsession⟩ :=
      (DiagnosisEngine.symptom_reported hmem hkey).session
    obtain ⟨incidentId, i, honly, hseen, -⟩ :=
      hreconciled.down hnode hrole hdevice hbgp hneighbor hstate
    rw [← hsession] at honly
    exact ⟨incidentId, i, honly, hseen⟩
  obtain ⟨correlated, hrun, hall⟩ := mapM_of_reads hround
  refine ⟨_, reading_ok (GetNetworkDiagnosis.body_of_latest (latest_of_ingest hp h hout hlab) hrun),
    ?_, fun c hc => ?_⟩
  · clear hrun hround
    generalize DiagnosisEngine.diagnose fabric = diagnoses at hall
    induction hall with
    | nil => rfl
    | cons hhead _ ih => exact congrArg₂ List.cons hhead.1 ih
  · obtain ⟨_, -, -, hcorresponds⟩ := exists_left_of_forall₂ hall hc
    exact hcorresponds

end Ingest

theorem no_remoteAs : ∀ n ∈ (none : Option ℕ), 0 < n := fun _ h => by cases h

/-- `spine-1` as a neighbour of `leaf-1`, in a state. -/
def uplinkNeighbor (state : BgpSessionState) : BgpNeighborObservation where
  neighborIp := "10.255.0.0"
  remoteAs := none
  state := state
  rawState := none
  prefixesReceived := none
  uptimeMs := none
  neighborIp_valid := by decide
  remoteAs_pos := no_remoteAs
  counts_established := fun _ => ⟨rfl, rfl⟩

/-- What `leaf-1` of a lab reports: its session to `spine-1`, in a state. -/
def uplinkReport (labName collectionId : String) (hlab : isBlank labName = false)
    (hid : isBlank collectionId = false) (collectedAt : Timestamp) (state : BgpSessionState) :
    NormalizedOperationalState :=
  { quietReport collectionId collectedAt hid with
    source := { labSource with
      labName := labName
      labName_not_blank := hlab
      collectionId := collectionId
      collectionId_not_blank := hid }
    bgp := some ⟨65001, "::1", [uplinkNeighbor state], quiet_localAs, quiet_routerId,
      List.nodup_singleton _⟩
    host_bgp := nofun
    router_bgp := fun _ => ⟨nofun, nofun⟩ }

/-- The fabric of that one report. -/
def uplinkFabric (labName collectionId : String) (collectedAt : Timestamp)
    (state : BgpSessionState) (hlab : isBlank labName = false := by decide)
    (hid : isBlank collectionId = false := by decide) : FabricOperationalState where
  collectionId := collectionId
  collectedAt := collectedAt
  nodes := [uplinkReport labName collectionId hlab hid collectedAt state]
  collectionId_not_blank := hid
  nodes_nodup := List.nodup_singleton _
  nodes_collectedAt := fun _ hmem => by rw [List.mem_singleton.1 hmem]; rfl
  nodes_collectionId := fun _ hmem => by rw [List.mem_singleton.1 hmem]; rfl

/-- `leaf-1` of Lab 1 reports its session to `spine-1` Active. -/
def uplinkDown : FabricOperationalState :=
  uplinkFabric lab1LabName "uplink" 5 .active labSource.labName_not_blank

set_option maxRecDepth 20000 in
/-- Its one diagnosis has one symptom, and the query links its incident. -/
theorem diagnosis_links_symptoms_uplink :
    (DiagnosisEngine.diagnose uplinkDown).map (fun diagnosis => diagnosis.symptomKeys.length) = [1] ∧
      ∃ result p', (OperationalStateIngestion.ingest labDeployment.incidentIds uplinkDown).run
          labPlatform = .ok result p' ∧
        ∃ answer, (GetNetworkDiagnosis.get lab1LabName).run p' = .ok answer p' ∧
          answer.diagnoses.map (fun correlated => correlated.diagnosis) =
            DiagnosisEngine.diagnose uplinkDown ∧
          ∀ correlated ∈ answer.diagnoses, GetNetworkDiagnosis.Corresponds p'.committed.incidents
            uplinkDown.collectedAt correlated := by
  refine ⟨by decide +kernel, ?_⟩
  have hcreated : (match (OperationalStateIngestion.ingest labDeployment.incidentIds
      uplinkDown).run labPlatform with
      | .ok result _ => decide (result.stateOutcome = .created)
      | .error _ _ => false) = true := by decide +kernel
  cases h : (OperationalStateIngestion.ingest labDeployment.incidentIds uplinkDown).run
      labPlatform with
  | error e p' =>
      rw [h] at hcreated
      cases hcreated
  | ok result p' =>
      rw [h] at hcreated
      have hreach : Reachable labDeployment labPlatform := ⟨_, rfl⟩
      have hlab : uplinkDown.labName? = some lab1LabName := by decide +kernel
      refine ⟨result, p', rfl, diagnosis_links_symptoms hreach h
        (Or.inl (of_decide_eq_true hcreated)) hlab ?_⟩
      refine (Set.subsingleton_singleton (a := sessionKey "lab1-leaf-1" "10.255.0.0")).anti ?_
        |>.injOn _
      rintro key (⟨id, i, hi, -⟩ | ⟨state, hmem⟩)
      · rw [labPlatform_incidents] at hi
        cases hi
      · have hsessions : uplinkDown.sessions =
            [(sessionKey "lab1-leaf-1" "10.255.0.0", .active)] := by decide +kernel
        rw [hsessions, List.mem_singleton] at hmem
        exact congrArg Prod.fst hmem

end MetaRne
