/-
# Labs are isolated, but for the sessions of shared node ids

The latest state is kept by lab, but detection and recovery know a device by the
id of its node alone.  So a fabric of another lab never touches the state of
Lab 1, and touches the incident of a session exactly through what it reports of
a node with the id of a router of Lab 1: a session that it decides, by observing
it down or established.

A fabric of another lab that decides no session leaves nothing behind that
Lab 1 could see, wherever it comes in a run (`labs_isolated`).
-/

import MetaRne.Application.DiagnosisAgreement
import MetaRne.Application.LabUnawareness

namespace MetaRne

open Library Library.Effect Library.Runs Python

/-- The fabric is of one lab, and that is not Lab 1. -/
def FabricOperationalState.isForeign (fabric : FabricOperationalState) : Bool :=
  match fabric.labName? with
  | some labName => labName != lab1LabName
  | none => false

/-- The sessions that a fabric decides: those observed down and those established. -/
def FabricOperationalState.decided (fabric : FabricOperationalState) : Set FindingKey :=
  fabric.failing ∪ fabric.recovered

/-- A request to ingest a fabric of another lab. -/
def Request.isForeign : Request → Bool
  | .ingestOperationalState fabric => fabric.isForeign
  | _ => false

theorem isForeign_iff {fabric : FabricOperationalState} :
    fabric.isForeign = true ↔
      ∃ source, deriveFabricSource fabric = .ok source ∧ source.labName ≠ lab1LabName := by
  rw [FabricOperationalState.isForeign, FabricOperationalState.labName?]
  cases deriveFabricSource fabric with
  | error e =>
      constructor
      · intro h
        cases h
      · rintro ⟨_, h, -⟩
        cases h
  | ok source =>
      change (source.labName != lab1LabName) = true ↔ _
      rw [bne_iff_ne]
      constructor
      · exact fun h => ⟨source, rfl, h⟩
      · rintro ⟨source', h, hne⟩
        rw [Except.ok.inj h]
        exact hne

/-! ### Fabrics that decide nothing -/

section Quiet

variable {ids : IdFactory} {labName : String} {fabric : FabricOperationalState}

theorem detect_of_undecided {anomalies : List Anomaly} (h : fabric.decided = ∅)
    (hdetect : OperationalStateDetector.detect fabric = .ok anomalies) : anomalies = [] := by
  have hfailing : fabric.failing = ∅ := (Set.union_empty_iff.1 h).1
  rw [← (OperationalStateDetector.detect_keys hdetect).2] at hfailing
  cases anomalies with
  | nil => rfl
  | cons anomaly anomalies =>
      have hmem : AnomalyIncidentMapper.key anomaly ∈
          (anomaly :: anomalies).map AnomalyIncidentMapper.key := List.mem_cons_self ..
      exact absurd hmem (Set.eq_empty_iff_forall_notMem.1 hfailing _)

namespace OperationalStateIngestion

theorem lab1DeviceId?_of_requireDeviceId {nodeId deviceId : String}
    (h : requireDeviceId nodeId = .ok deviceId) : lab1DeviceId? nodeId = some deviceId := by
  unfold requireDeviceId at h
  split at h
  · cases h
  · next found hfound =>
    rw [hfound, Except.ok.inj h]

/-- Without an established session there is nothing to recover. -/
theorem recover_respects_of_undecided (h : fabric.decided = ∅)
    (upserts : List IncidentUpsertResult) : Respects Eq (recover fabric upserts) := by
  have hrecovered : fabric.recovered = ∅ := (Set.union_empty_iff.1 h).2
  refine Respects.bind (R := Eq) (fun _ _ _ => Eq.trans) ?_ fun _ => respects_pure (fun _ => rfl) _
  refine Respects.mapM (fun _ => rfl) (fun _ _ _ => Eq.trans) _ fun node hnode => ?_
  unfold recoverNode
  split_ifs with hrole
  · exact respects_pure (fun _ => rfl) _
  · cases hbgp : node.bgp with
    | none => exact respects_pure (fun _ => rfl) _
    | some bgp =>
        refine respects_check_bind (fun _ => rfl) fun deviceId hdevice => ?_
        refine Respects.mapM (fun _ => rfl) (fun _ _ _ => Eq.trans) _ fun neighbor hneighbor => ?_
        have hdevice' := lab1DeviceId?_of_requireDeviceId hdevice
        have hstate : neighbor.state ≠ .established := fun hstate =>
          Set.eq_empty_iff_forall_notMem.1 hrecovered (sessionKey deviceId neighbor.neighborIp)
            (mem_sessions.2 ⟨node, hnode, mem_node_sessions.2 ⟨not_not.1 hrole, deviceId, bgp,
              neighbor, hdevice', hbgp, hneighbor, rfl, hstate⟩⟩)
        unfold recoverNeighbor
        rw [if_pos hstate]
        exact respects_pure (fun _ => rfl) _

/-- **A fabric of another lab that decides nothing** is not seen from within a lab. -/
theorem body_respects_of_undecided {source : FabricSourceIdentity}
    (hsource : deriveFabricSource fabric = .ok source) (hne : source.labName ≠ labName)
    (h : fabric.decided = ∅) : Respects (SameLab labName) (body ids fabric) := by
  have htrans : ∀ s t u : Session, SameLab labName s t → SameLab labName t u →
      SameLab labName s u := fun _ _ _ => SameLab.trans
  have hsame : ∀ s t : Session, s = t → SameLab labName s t := fun s t hst => hst ▸ .refl s
  refine respects_check_bind .refl fun _ _ => respects_check_bind .refl fun anomalies hdetect => ?_
  obtain rfl := detect_of_undecided h hdetect
  refine Respects.bind htrans ?_ fun _ => ?_
  · refine Respects.mono (Respects.mapM (fun _ => rfl) (fun _ _ _ => Eq.trans) _
      fun deviceId _ => requireDevice_respects deviceId) hsame
  refine Respects.bind htrans ?_ fun outcome => ?_
  · refine respects_of_cases (fun s outcome s' hrun => ?_) fun s e s' hrun => ?_
    · have hset := SameLab.setOperationalState hne s fabric
      cases Memory.saveLatest_ok hrun with
      | created hsource' _ =>
          rw [hsource, Except.ok.injEq] at hsource'
          rw [← hsource']
          exact hset
      | replaced hsource' _ _ _ =>
          rw [hsource, Except.ok.injEq] at hsource'
          rw [← hsource']
          exact hset
      | unchanged _ _ => exact .refl s
    · rw [Memory.saveLatest_error hrun]
      exact .refl s
  split
  · exact respects_pure .refl _
  · refine Respects.bind htrans (respects_pure .refl _) fun upserts => ?_
    refine Respects.bind htrans ?_ fun _ => respects_pure .refl _
    exact (recover_respects_of_undecided h upserts).mono hsame

end OperationalStateIngestion

/-- Handling it leaves a platform that cannot be told from the one it found. -/
theorem respond_of_undecided {d : Deployment} (hforeign : fabric.isForeign = true)
    (h : fabric.decided = ∅) (p : Platform) :
    SamePlatform lab1LabName p (respond d (.ingestOperationalState fabric) p).2 := by
  obtain ⟨source, hsource, hne⟩ := isForeign_iff.1 hforeign
  have hbody : Respects (SameLab lab1LabName)
      (OperationalStateIngestion.body d.incidentIds fabric) :=
    OperationalStateIngestion.body_respects_of_undecided hsource hne h
  have hself : SamePlatform lab1LabName p p := SameLab.refl _
  rw [respond_snd]
  change SamePlatform lab1LabName p
    (final (Reply.operationalState <$> OperationalStateIngestion.ingest d.incidentIds fabric) p)
  rw [final_map]
  cases hrun : (OperationalStateIngestion.ingest d.incidentIds fabric).run p with
  | ok result p' =>
      rw [final_of_ok hrun]
      obtain ⟨ingested, s, hrun', -, rfl⟩ := unitOfWork_ok hrun
      exact hself.ended (hbody.of_ok hrun') true
  | error e p' =>
      rw [final_of_error hrun]
      obtain ⟨s, hrun', rfl⟩ | ⟨ingested, s, hrun', -, rfl⟩ := unitOfWork_error hrun
      · exact hself.ended (hbody.of_error hrun') false
      · exact hself.ended (hbody.of_ok hrun') true

end Quiet

/-! ### The incidents of other sessions -/

/-- A ledger's incidents but for those of some fingerprints: every other incident is
kept as it is, resolved ones of these fingerprints included, and no other is new. -/
structure Spared (fingerprints : Set String) (d d' : Dict String Incident) : Prop where
  kept : ∀ {id i}, d.get? id = some i → (i.status = .open → i.fingerprint ∉ fingerprints) →
    d'.get? id = some i
  old : ∀ {id i}, d'.get? id = some i → i.fingerprint ∉ fingerprints → d.get? id = some i

namespace Spared

variable {fingerprints : Set String} {d d' d'' : Dict String Incident}

theorem refl (d : Dict String Incident) : Spared fingerprints d d := ⟨fun h _ => h, fun h _ => h⟩

theorem trans (h : Spared fingerprints d d') (h' : Spared fingerprints d' d'') :
    Spared fingerprints d d'' :=
  ⟨fun hi hfp => h'.kept (h.kept hi hfp) hfp, fun hi hfp => h.old (h'.old hi hfp) hfp⟩

/-- Writing an incident of one of the fingerprints, anew or over an open one. -/
theorem set {incidentId : String} {j : Incident} (hnew : j.fingerprint ∈ fingerprints)
    (hover : ∀ i, d.get? incidentId = some i →
      i.status = .open ∧ i.fingerprint ∈ fingerprints) :
    Spared fingerprints d (d.set incidentId j) := by
  constructor
  · intro id i hi hfp
    by_cases hid : id = incidentId
    · rw [hid] at hi
      obtain ⟨hopen, hmem⟩ := hover i hi
      exact absurd hmem (hfp hopen)
    · rw [Dict.get?_set_of_ne _ _ hid]
      exact hi
  · intro id i hi hfp
    by_cases hid : id = incidentId
    · rw [hid, Dict.get?_set, if_pos rfl, Option.some.injEq] at hi
      exact absurd (hi ▸ hnew) hfp
    · rwa [Dict.get?_set_of_ne _ _ hid] at hi

end Spared

/-- A ledger on the way from `d`, of which only incidents of some fingerprints were
touched so far. -/
structure SparedSoFar (ids : IdFactory) (fingerprints : Set String) (d : Dict String Incident)
    (s : Session) : Prop where
  ledger : LedgerInvariant ids s
  spared : Spared fingerprints d s.store.incidents

section Loops

variable {ids : IdFactory} {fingerprints : Set String} {d : Dict String Incident}
  {s s' : Session} {fabric : FabricOperationalState}

theorem SparedSoFar.upsert (h : SparedSoFar ids fingerprints d s) {c : IncidentCandidate}
    {r : IncidentUpsertResult} (hstep : UpsertStep ids c s r s')
    (hmem : c.fingerprint ∈ fingerprints) : SparedSoFar ids fingerprints d s' := by
  refine ⟨hstep.invariant h.ledger, h.spared.trans ?_⟩
  cases hstep with
  | created hnone hdevice =>
      refine Spared.set hmem fun i hi => ?_
      have hfresh := h.ledger.get?_next
      rw [show s.store.incidents.get? _ = some i from hi] at hfresh
      cases hfresh
  | updated existing s₁ hdrawn hfound hle =>
      obtain ⟨hstored, hopen, hfp⟩ := h.ledger.get?_of_findOpen hfound
      have hseen : (existing.seenAgain c).fingerprint ∈ fingerprints := by
        change existing.fingerprint ∈ fingerprints
        rw [hfp]
        exact hmem
      have hset : Spared fingerprints s.store.incidents
          (s.store.incidents.set existing.incidentId (existing.seenAgain c)) := by
        refine Spared.set hseen fun i hi => ?_
        rw [hstored, Option.some.injEq] at hi
        rw [← hi]
        exact ⟨hopen, hseen⟩
      rw [← SameStore.store_eq hdrawn] at hset
      exact SameStore.store_eq hdrawn ▸ hset

theorem SparedSoFar.recover (h : SparedSoFar ids fingerprints d s) {t : Timestamp}
    {failing : List String} {key : FindingKey} {state : BgpSessionState} {r : Option Incident}
    (hstep : OperationalStateIngestion.RecoverStep t failing key state s r s')
    (hmem : state = .established → key.fingerprint ∈ fingerprints) :
    SparedSoFar ids fingerprints d s' := by
  cases hstep with
  | notEstablished hstate => exact h
  | failing hmem => exact h
  | notOpen hnone => exact h
  | resolved hstate hfound hle hresolve =>
      refine ⟨hresolve.invariant h.ledger, h.spared.trans ?_⟩
      obtain ⟨hstored, hopen, hfp⟩ := h.ledger.get?_of_findOpen hfound
      cases hresolve with
      | already existing hsome hresolved => exact .refl _
      | resolved existing t' hinstant hsome hopen' hle' =>
          rw [hstored, Option.some.injEq] at hsome
          subst hsome
          have hfp' := hmem hstate
          rw [← hfp] at hfp'
          refine Spared.set hfp' fun i hi => ?_
          rw [hstored, Option.some.injEq] at hi
          rw [← hi]
          exact ⟨hopen, hfp'⟩

namespace OperationalStateIngestion

/-- **What an ingestion does to the incidents**: it touches those of the sessions
that the fabric decides. -/
theorem body_spared {ingested : Ingested} (hs : LedgerInvariant ids s)
    (h : (body ids fabric).run s = .ok ingested s') :
    Spared (FindingKey.fingerprint '' fabric.decided) s.store.incidents s'.store.incidents := by
  obtain ⟨hdetect, s₁, hsave, hrest⟩ := body_ok h
  have hstart : SparedSoFar ids (FindingKey.fingerprint '' fabric.decided) s.store.incidents s₁ := by
    refine ⟨hs.later hsave.later hsave.incidents_eq, ?_⟩
    rw [hsave.incidents_eq]
    exact .refl _
  obtain ⟨-, -, -, rfl⟩ | ⟨-, s₂, hupserts, hrecover⟩ := hrest
  · exact hstart.spared
  have hreported : SparedSoFar ids (FindingKey.fingerprint '' fabric.decided) s.store.incidents
      s₂ := by
    refine mapM_invariant (fun _ _ s₁ => SparedSoFar ids _ s.store.incidents s₁) hupserts hstart ?_
    rintro done _ anomaly r s₃ s₄ ⟨rest, hsplit⟩ hdone hupsert
    obtain ⟨c, hkey, -, -, -, hstep⟩ := TelemetryIngestion.upsertAnomaly_ok hupsert
    refine hdone.upsert hstep ⟨c.key, Or.inl ?_, rfl⟩
    rw [hkey, ← (OperationalStateDetector.detect_keys hdetect).2, ← hsplit]
    refine List.mem_map_of_mem ?_
    simp only [List.mem_append, List.mem_singleton, or_true, true_or]
  obtain ⟨found, s₃, hloop, hreturn⟩ := bind_eq_ok.1 hrecover
  obtain ⟨-, rfl⟩ := pure_eq_ok.1 hreturn
  refine (mapM_invariant (fun _ _ s₁ => SparedSoFar ids _ s.store.incidents s₁) hloop hreported
    ?_).spared
  rintro done _ node r s₃ s₄ ⟨rest, hsplit⟩ hdone hnode
  have hmem : node ∈ fabric.nodes := by
    rw [← hsplit]
    simp only [List.mem_append, List.mem_singleton, or_true, true_or]
  unfold recoverNode at hnode
  split_ifs at hnode with hrole
  · obtain ⟨-, rfl⟩ := pure_eq_ok.1 hnode
    exact hdone
  cases hbgp : node.bgp with
  | none =>
      rw [hbgp] at hnode
      obtain ⟨-, rfl⟩ := pure_eq_ok.1 hnode
      exact hdone
  | some bgp =>
      rw [hbgp] at hnode
      obtain ⟨deviceId, hdevice, hneighbors⟩ := check_bind_eq_ok.1 hnode
      have hdevice' := lab1DeviceId?_of_requireDeviceId hdevice
      refine mapM_invariant (fun _ _ s₁ => SparedSoFar ids _ s.store.incidents s₁) hneighbors
        hdone ?_
      rintro before _ neighbor r s₅ s₆ ⟨after, hsplit'⟩ hbefore hneighbor
      refine hbefore.recover (recoverNeighbor_ok (not_isBlank_of_lab1DeviceId? hdevice') hneighbor)
        fun hstate => ⟨_, Or.inr ?_, rfl⟩
      refine mem_sessions.2 ⟨node, hmem, mem_node_sessions.2
        ⟨not_not.1 hrole, deviceId, bgp, neighbor, hdevice', hbgp, ?_, rfl, hstate⟩⟩
      rw [← hsplit']
      simp only [List.mem_append, List.mem_singleton, or_true, true_or]

end OperationalStateIngestion
end Loops

/-! ### The query -/

/-- What a result says of the lab itself: which collection, and the diagnoses of it. -/
def NetworkDiagnosisResult.diagnosed (result : NetworkDiagnosisResult) :
    String × Timestamp × List Diagnosis :=
  (result.collectionId, result.collectedAt,
    result.diagnoses.map fun correlated => correlated.diagnosis)

namespace GetNetworkDiagnosis

variable {s : Session} {p q : Platform} {labName : String}

/-- Looking for the incident of a symptom always returns. -/
theorem linkSymptom_returns (t : Timestamp) (key : SymptomKey) (s : Session) :
    ∃ o, (linkSymptom t key).run s = .ok o s := by
  rw [linkSymptom, check_bind_of_ok key.computeFingerprint_eq]
  simp only [bind_eq_ok]
  cases hfound : findOpenByFingerprint s.store.incidents key.findingKey.fingerprint with
  | none => exact ⟨none, none, s, congrArg (EStateM.Result.ok · s) hfound, rfl⟩
  | some incident =>
      by_cases hlater : t < incident.lastSeenAt
      · refine ⟨none, some incident, s, congrArg (EStateM.Result.ok · s) hfound, ?_⟩
        dsimp only
        rw [if_pos hlater]
        rfl
      · refine ⟨some (.fromIncident incident), some incident, s,
          congrArg (EStateM.Result.ok · s) hfound, ?_⟩
        dsimp only
        rw [if_neg hlater]
        rfl

/-- So does correlating a diagnosis, which stays what it is. -/
theorem correlate_returns (t : Timestamp) (diagnosis : Diagnosis) (s : Session) :
    ∃ correlated, (correlate t diagnosis).run s = .ok correlated s ∧
      diagnosis = correlated.diagnosis := by
  have hround : ∀ key ∈ diagnosis.symptomKeys, ∃ o, (linkSymptom t key).run s = .ok o s ∧ True :=
    fun key _ => (linkSymptom_returns t key s).imp fun _ h => ⟨h, trivial⟩
  obtain ⟨found, hfound, -⟩ := mapM_of_reads (R := fun _ _ => True) hround
  exact ⟨_, bind_eq_ok.2 ⟨found, s, hfound, rfl⟩, rfl⟩

/-- **The diagnoses are those of the latest state**, whatever the incidents. -/
theorem get_diagnosed (labName : String) (p : Platform) :
    (attempt (get labName) p).1.map NetworkDiagnosisResult.diagnosed =
      match p.committed.operationalStates.get? labName with
      | none => .error (.operationalStateNotFound labName)
      | some fabric =>
        .ok (fabric.collectionId, fabric.collectedAt, DiagnosisEngine.diagnose fabric) := by
  cases hlatest : p.committed.operationalStates.get? labName with
  | none =>
      have hbody : (body labName).run p.openUnitOfWork =
          .error (.operationalStateNotFound labName) p.openUnitOfWork := by
        rw [body, bind_eq_error]
        exact Or.inr ⟨none, _, congrArg (EStateM.Result.ok · p.openUnitOfWork) hlatest, rfl⟩
      have hrun : (get labName).run p = .error (.operationalStateNotFound labName) p := by
        change unitOfWork (fun _ => false) (body labName) .ok p = _
        simp only [unitOfWork, hbody]
        rfl
      rw [attempt_of_error hrun]
      rfl
  | some fabric =>
      obtain ⟨correlated, hrun, hall⟩ := mapM_of_reads
        (fun diagnosis (_ : diagnosis ∈ DiagnosisEngine.diagnose fabric) =>
          correlate_returns fabric.collectedAt diagnosis p.openUnitOfWork)
      have hget : (get labName).run p =
          .ok ⟨fabric.collectionId, fabric.collectedAt, correlated⟩ p :=
        reading_ok (body_of_latest hlatest hrun)
      rw [attempt_of_ok hget]
      have hdiagnoses : correlated.map (fun c => c.diagnosis) = DiagnosisEngine.diagnose fabric := by
        clear hrun hget
        generalize DiagnosisEngine.diagnose fabric = diagnoses at hall
        induction hall with
        | nil => rfl
        | cons hhead _ ih => exact congrArg₂ List.cons hhead.symm ih
      change Except.ok (fabric.collectionId, fabric.collectedAt, _) = _
      rw [hdiagnoses]

/-- The query for a lab looks at that lab's state and at the incidents alone. -/
theorem unaware_get (labName : String) : Unaware (SamePlatform labName) (get labName) := by
  unfold get reading
  refine unaware_unitOfWork ?_
  refine Unaware.bind (fun s t h => ?_) fun latest => ?_
  · change Alike _ _ (.ok (s.store.operationalStates.get? labName) s)
      (.ok (t.store.operationalStates.get? labName) t)
    rw [h.latest]
    exact .ok _ h
  · cases latest with
    | none => exact fun s t h => .error rfl h
    | some fabric =>
        refine (Unaware.mapM _ fun diagnosis _ => unaware_of_blind fun states => ?_).bind
          fun _ => unaware_pure _
        refine (Blind.mapM (fun key => ?_) _).bind fun _ => blind_pure _
        refine (blind_check _).bind fun fingerprint => ?_
        refine (sparesIncidents_withStates.blind_getOpenByFingerprint _).bind fun found => ?_
        cases found with
        | none => exact blind_pure _
        | some incident =>
            dsimp only
            split
            · exact blind_pure _
            · exact blind_pure _

end GetNetworkDiagnosis

/-! ### Isolation -/

/-- What an ingestion leaves alone of a lab: its latest state, every incident but
those of some fingerprints, and the diagnoses. -/
structure KeepsLab (labName : String) (fingerprints : Set String) (p p' : Platform) : Prop where
  latest : p'.committed.operationalStates.get? labName = p.committed.operationalStates.get? labName
  incidents : Spared fingerprints p.committed.incidents p'.committed.incidents
  diagnoses : (attempt (GetNetworkDiagnosis.get labName) p').1.map NetworkDiagnosisResult.diagnosed =
    (attempt (GetNetworkDiagnosis.get labName) p).1.map NetworkDiagnosisResult.diagnosed

/-- Two platforms that show the same of a lab: its latest state, the incidents and
what the diagnosis query answers. -/
structure ShowsSame (labName : String) (p q : Platform) : Prop where
  latest : q.committed.operationalStates.get? labName = p.committed.operationalStates.get? labName
  incidents : q.committed.incidents = p.committed.incidents
  diagnosis : (attempt (GetNetworkDiagnosis.get labName) p).1 =
    (attempt (GetNetworkDiagnosis.get labName) q).1

theorem SamePlatform.showsSame {labName : String} {p q : Platform}
    (h : SamePlatform labName p q) : ShowsSame labName p q where
  latest := h.latest
  incidents := by
    have hincidents := congrArg (fun s : Session => s.store.incidents) h.rest
    exact hincidents
  diagnosis := ((GetNetworkDiagnosis.unaware_get labName).attempt h).1

/-- Lab 1 accepts no fabric of another lab. -/
theorem acceptedIngest_of_foreign {fabric : FabricOperationalState} {source : FabricSourceIdentity}
    (hsource : deriveFabricSource fabric = .ok source) (hne : source.labName ≠ lab1LabName)
    (reply : Except Error Reply) :
    acceptedIngest lab1LabName (.ingestOperationalState fabric, reply) = none := by
  have hlab : fabric.labName? ≠ some lab1LabName := by
    rw [FabricOperationalState.labName?, hsource]
    exact fun h => hne (Option.some.inj h)
  unfold acceptedIngest
  split
  · next hcall =>
    cases hcall
    exact if_neg fun h => hlab h.2
  · rfl

theorem labName_of_not_foreign {request : Request} {other : String}
    (h : request.isForeign = false) (hother : request.labName? = some other) :
    other = lab1LabName := by
  cases request with
  | ingestOperationalState fabric =>
      have hlab : fabric.labName? = some other := hother
      rw [Request.isForeign, FabricOperationalState.isForeign, hlab] at h
      exact bne_eq_false_iff_eq.1 h
  | _ => cases hother

/-- One ingestion of a fabric of another lab. -/
theorem foreign_keepsLab {d : Deployment} {p : Platform} {fabric : FabricOperationalState}
    (hp : Reachable d p) (hforeign : fabric.isForeign = true) :
    KeepsLab lab1LabName (FindingKey.fingerprint '' fabric.decided) p
      (respond d (.ingestOperationalState fabric) p).2 := by
  obtain ⟨source, hsource, hne⟩ := isForeign_iff.1 hforeign
  have hlatest : (respond d (.ingestOperationalState fabric) p).2.committed.operationalStates.get?
      lab1LabName = p.committed.operationalStates.get? lab1LabName := by
    have htakes : Takes (fun stored incoming => incoming.Supersedes stored)
        (p.committed.operationalStates.get? lab1LabName) _ _ :=
      respond_takes hp (.ingestOperationalState fabric)
    rw [acceptedIngest_of_foreign hsource hne] at htakes
    generalize (respond d (.ingestOperationalState fabric) p).2.committed.operationalStates.get?
      lab1LabName = held at htakes
    cases htakes with
    | kept => rfl
  refine ⟨hlatest, ?_, ?_⟩
  · rw [respond_snd]
    change Spared _ p.committed.incidents (final (Reply.operationalState <$>
      OperationalStateIngestion.ingest d.incidentIds fabric) p).committed.incidents
    rw [final_map]
    cases hrun : (OperationalStateIngestion.ingest d.incidentIds fabric).run p with
    | ok result p' =>
        rw [final_of_ok hrun]
        obtain ⟨ingested, s, hbody, -, rfl⟩ := OperationalStateIngestion.ingest_ok hrun
        exact OperationalStateIngestion.body_spared (reachable_ledger hp) hbody
    | error e p' =>
        rw [final_of_error hrun]
        have hkept := (allOrNothing_writing fun ingested s hbody =>
          OperationalStateIngestion.finish_ok hp.incidentsValid hbody).raised e p' hrun
        rw [hkept]
        exact .refl _
  · rw [GetNetworkDiagnosis.get_diagnosed, GetNetworkDiagnosis.get_diagnosed, hlatest]

/-- **Labs are isolated but for shared sessions.**  On any platform that requests
can reach, a fabric of another lab leaves the latest state and the diagnoses of
Lab 1 as they were, and every incident but the open ones of the sessions that it
decides itself.  Runs that differ only in fabrics of other labs, none of which
decides a session, show the same of Lab 1. -/
theorem labs_isolated (d : Deployment) :
    (∀ p fabric, Reachable d p → fabric.isForeign = true →
      KeepsLab lab1LabName (FindingKey.fingerprint '' fabric.decided) p
        (respond d (.ingestOperationalState fabric) p).2) ∧
    ∀ requests requests' : List Request,
      (∀ fabric, .ingestOperationalState fabric ∈ requests ++ requests' →
        fabric.isForeign = true → fabric.decided = ∅) →
      (requests.filter fun request => !request.isForeign) =
        (requests'.filter fun request => !request.isForeign) →
      ShowsSame lab1LabName (platformAfter d requests) (platformAfter d requests') := by
  refine ⟨fun p fabric hp hforeign => foreign_keepsLab hp hforeign, ?_⟩
  intro requests requests' hundecided hsame
  have hview : ∀ calls : List Request, (∀ fabric, .ingestOperationalState fabric ∈ calls →
      fabric.isForeign = true → fabric.decided = ∅) →
      SamePlatform lab1LabName (platformAfter d calls)
        (platformAfter d (calls.filter fun request => !request.isForeign)) := by
    intro calls hcalls
    refine serve_filter calls (fun call _ hvisible p q h => ?_) (fun call hmem hhidden p q h => ?_)
      (SameLab.refl _)
    · refine ((unaware_handle fun other hother => ?_).attempt h).2
      exact labName_of_not_foreign (by simpa using hvisible) hother
    · cases call with
      | ingestOperationalState fabric =>
          have hforeign : fabric.isForeign = true := by simpa [Request.isForeign] using hhidden
          exact (respond_of_undecided hforeign (hcalls fabric hmem hforeign) p).symm.trans h
      | _ => cases hhidden
  have hleft := hview requests fun fabric hmem => hundecided fabric (List.mem_append_left _ hmem)
  have hright := hview requests' fun fabric hmem => hundecided fabric (List.mem_append_right _ hmem)
  rw [hsame] at hleft
  exact SamePlatform.showsSame (hleft.trans hright.symm)

/-- Another lab has a `leaf-1` too, and its session to `10.255.0.0` is established. -/
def otherLabUp : FabricOperationalState := uplinkFabric "other-lab" "elsewhere" 6 .established

/-- `leaf-1` of Lab 1 has an open incident. -/
def uplinkPlatform : Platform :=
  platformAfter labDeployment [.registerLabDevices (.utc 0), .ingestOperationalState uplinkDown]

set_option maxRecDepth 20000 in
/-- The other lab's fabric resolves the incident of Lab 1. -/
theorem labs_not_isolated : ¬∀ (d : Deployment) (p : Platform) (fabric : FabricOperationalState),
    Reachable d p → fabric.isForeign = true →
      ∀ id i, p.committed.incidents.get? id = some i → i.deviceId ∈ lab1RouterDeviceIds →
        (respond d (.ingestOperationalState fabric) p).2.committed.incidents.get? id = some i := by
  intro h
  obtain ⟨hopen, hresolved⟩ :
      (uplinkPlatform.committed.incidents.get? "I").map (fun i => (i.deviceId, i.status)) =
        some ("lab1-leaf-1", .open) ∧
      ((respond labDeployment (.ingestOperationalState otherLabUp)
        uplinkPlatform).2.committed.incidents.get? "I").map (fun i => i.status) =
          some .resolved := by decide +kernel
  obtain ⟨i, hi, hstatus⟩ := Option.map_eq_some_iff.1 hopen
  injection hstatus with hdevice hstatus
  have hreach : Reachable labDeployment uplinkPlatform := ⟨_, rfl⟩
  rw [h labDeployment uplinkPlatform otherLabUp hreach (by decide +kernel) "I" i hi
    (by rw [hdevice]; decide), Option.map_some, hstatus] at hresolved
  cases hresolved

end MetaRne
