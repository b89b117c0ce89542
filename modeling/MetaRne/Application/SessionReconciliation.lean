/-
# What a fabric does to the incidents

An accepted fabric is held against the incidents session by session: detection
hands every session that is down in as an incident, recovery resolves the open
incident of every session that is established.  The two read the same fabric
and meet in the session's key, so between them the incidents are `Reconciled`
with the fabric (`body_reconciled`).

`ingest_reconciles_sessions` says what that is for each neighbour of a router
and for every other incident.
-/

import MetaRne.Application.Requests
import MetaRne.Detection.FabricSessions
import MetaRne.Persistence.IncidentReconciliation

namespace MetaRne

open Library Library.Effect Python

section Steps

variable {ids : IdFactory} {s s' : Session}

/-- **What handing one anomaly in does**: an upsert step of a candidate about its key. -/
theorem TelemetryIngestion.upsertAnomaly_ok {anomaly : Anomaly} {r : IncidentUpsertResult}
    (h : (TelemetryIngestion.upsertAnomaly ids anomaly).run s = .ok r s') :
    ∃ c : IncidentCandidate, c.key = AnomalyIncidentMapper.key anomaly ∧
      c.evidence = .rule anomaly.evidence ∧ c.observedAt = anomaly.detectedAt ∧
      EvidenceMatches c.source c.ruleRef c.evidence ∧ UpsertStep ids c s r s' := by
  obtain ⟨c, hc, h⟩ := check_bind_eq_ok.1 h
  obtain ⟨c', hc', hkey, hevidence, hat⟩ := AnomalyIncidentMapper.buildCandidate_eq_ok anomaly
  rw [hc', Except.ok.injEq] at hc
  subst hc
  obtain ⟨fingerprint, -, h⟩ := check_bind_eq_ok.1 h
  obtain ⟨-, hmatch, hstep⟩ := Memory.upsertOpenIncident_ok h
  exact ⟨c', hkey, hevidence, hat, hmatch, hstep⟩

/-- The incident an upsert returns has the fingerprint of its candidate. -/
theorem UpsertStep.fingerprint_eq {c : IncidentCandidate} {r : IncidentUpsertResult}
    (h : UpsertStep ids c s r s') : r.incident.fingerprint = c.fingerprint := by
  cases h with
  | created hnone hdevice => rfl
  | updated existing s₁ hdrawn hopen hle =>
      have hp := List.find?_some (show List.find? _ _ = some existing from hopen)
      rw [Bool.and_eq_true, beq_iff_eq, beq_iff_eq] at hp
      exact hp.2

namespace OperationalStateIngestion

/-- What recovery does with one neighbour. -/
inductive RecoverStep (t : Timestamp) (failing : List String) (key : FindingKey)
    (state : BgpSessionState) (s : Session) : Option Incident → Session → Prop
  | notEstablished (hstate : state ≠ .established) : RecoverStep t failing key state s none s
  | failing (hmem : key.fingerprint ∈ failing) : RecoverStep t failing key state s none s
  | notOpen (hnone : findOpenByFingerprint s.store.incidents key.fingerprint = none) :
      RecoverStep t failing key state s none s
  | resolved {existing resolved : Incident} {s' : Session} (hstate : state = .established)
      (hfound : findOpenByFingerprint s.store.incidents key.fingerprint = some existing)
      (hle : existing.lastSeenAt ≤ t)
      (hstep : ResolveStep existing.incidentId (.utc t) s (some resolved) s') :
      RecoverStep t failing key state s (some resolved) s'

theorem recoverNeighbor_ok {t : Timestamp} {failing : List String} {deviceId : String}
    {neighbor : BgpNeighborObservation} {r : Option Incident} (hdev : isBlank deviceId = false)
    (h : (recoverNeighbor t failing deviceId neighbor).run s = .ok r s') :
    RecoverStep t failing (sessionKey deviceId neighbor.neighborIp) neighbor.state s r s' := by
  unfold recoverNeighbor at h
  split_ifs at h with hstate
  · obtain ⟨rfl, rfl⟩ := pure_eq_ok.1 h
    exact .notEstablished hstate
  obtain ⟨fingerprint, hfp, h⟩ := check_bind_eq_ok.1 h
  rw [computeFingerprint_of_not_blank _ hdev RuleId.bgpDown.not_isBlank_value
    (AnomalyIncidentMapper.not_isBlank_bgpDownAffectedResource _), Except.ok.injEq] at hfp
  subst hfp
  split_ifs at h with hmem
  · obtain ⟨rfl, rfl⟩ := pure_eq_ok.1 h
    exact .failing hmem
  unfold Memory.getOpenByFingerprint at h
  simp only [bind_assoc, get_bind, pure_bind] at h
  cases hfind : findOpenByFingerprint s.store.incidents
      (sessionKey deviceId neighbor.neighborIp).fingerprint with
  | none =>
      rw [sessionKey] at hfind
      simp only [hfind] at h
      obtain ⟨rfl, rfl⟩ := pure_eq_ok.1 h
      exact .notOpen hfind
  | some existing =>
      rw [sessionKey] at hfind
      simp only [hfind, check_bind_eq_ok, raiseIf_eq_ok, not_lt] at h
      obtain ⟨_, hle, h⟩ := h
      obtain ⟨resolved, s₁, hres, h⟩ := bind_eq_ok.1 h
      cases resolved with
      | none => exact absurd h throw_ne_ok
      | some resolved =>
          obtain ⟨rfl, rfl⟩ := pure_eq_ok.1 h
          exact .resolved (not_not.1 hstate) hfind hle (Memory.resolve_ok hres)

/-- Looking a device up changes nothing. -/
theorem requireDevice_respects (deviceId : String) : Respects Eq (requireDevice deviceId) := by
  intro s
  unfold requireDevice Memory.getDevice
  cases hget : s.store.devices.get? deviceId with
  | none =>
      refine (final_of_error (e := Error.deviceNotFound deviceId) ?_).symm
      simp only [bind_assoc, get_bind, pure_bind, hget]
      rfl
  | some device =>
      refine (final_of_ok (a := ()) ?_).symm
      simp only [bind_assoc, get_bind, pure_bind, hget]
      rfl

/-- What the body does, phase by phase. -/
theorem body_ok {fabric : FabricOperationalState} {ingested : Ingested}
    (h : (body ids fabric).run s = .ok ingested s') :
    OperationalStateDetector.detect fabric = .ok ingested.anomalies ∧
      ∃ s₁, SaveStep fabric s ingested.stateOutcome s₁ ∧
        ((ingested.stateOutcome = .unchanged ∧ ingested.upserts = [] ∧ ingested.resolved = [] ∧
            s' = s₁) ∨
          (ingested.stateOutcome ≠ .unchanged ∧
            ∃ s₂, (ingested.anomalies.mapM (TelemetryIngestion.upsertAnomaly ids)).run s₁ =
                .ok ingested.upserts s₂ ∧
              (recover fabric ingested.upserts).run s₂ = .ok ingested.resolved s')) := by
  obtain ⟨_, -, h⟩ := check_bind_eq_ok.1 h
  obtain ⟨anomalies, hdetect, h⟩ := check_bind_eq_ok.1 h
  obtain ⟨_, s₀, hdevices, h⟩ := bind_eq_ok.1 h
  have hs₀ : s = s₀ :=
    Respects.of_ok (Respects.mapM (fun _ => rfl) (fun _ _ _ => Eq.trans) _
      fun deviceId _ => requireDevice_respects deviceId) hdevices
  subst hs₀
  obtain ⟨outcome, s₁, hsave, h⟩ := bind_eq_ok.1 h
  have hstep := Memory.saveLatest_ok hsave
  split_ifs at h with hun
  · obtain ⟨rfl, rfl⟩ := pure_eq_ok.1 h
    exact ⟨hdetect, s₁, hstep, Or.inl ⟨hun, rfl, rfl, rfl⟩⟩
  · obtain ⟨upserts, s₂, hupserts, h⟩ := bind_eq_ok.1 h
    obtain ⟨resolved, s₃, hrecover, h⟩ := bind_eq_ok.1 h
    obtain ⟨rfl, rfl⟩ := pure_eq_ok.1 h
    exact ⟨hdetect, s₁, hstep, Or.inr ⟨hun, s₂, hupserts, hrecover⟩⟩

end OperationalStateIngestion

end Steps

/-! ### The loops -/

namespace OperationalStateIngestion

/-- **An ingestion that returns** ran its body, committed, and reports its outcome. -/
theorem ingest_ok {ids : IdFactory} {p p' : Platform} {fabric : FabricOperationalState}
    {result : OperationalStateIngestionResult} (h : (ingest ids fabric).run p = .ok result p') :
    ∃ ingested s, (body ids fabric).run p.openUnitOfWork = .ok ingested s ∧
      result.stateOutcome = ingested.stateOutcome ∧ p' = p.commit s := by
  obtain ⟨ingested, s, hbody, hfinish, rfl⟩ := unitOfWork_ok h
  obtain ⟨_, -, hreturn⟩ := except_bind_eq_ok.1 hfinish
  obtain rfl := Except.ok.inj hreturn
  exact ⟨ingested, s, hbody, rfl, rfl⟩

section Loops

variable {ids : IdFactory} {s s' : Session} {fabric : FabricOperationalState}
  {d : Dict String Incident} {keys : Set FindingKey}

/-- Detection's loop counts every failing key once. -/
theorem upserts_reconciled {anomalies : List Anomaly} {upserts : List IncidentUpsertResult}
    (hs : LedgerInvariant ids s) (hfree : CollisionFree keys)
    (hstored : storedKeys s.store.incidents ⊆ keys) (hfailing : fabric.failing ⊆ keys)
    (hdetect : OperationalStateDetector.detect fabric = .ok anomalies)
    (h : (anomalies.mapM (TelemetryIngestion.upsertAnomaly ids)).run s = .ok upserts s') :
    LedgerInvariant ids s' ∧
      Reconciled fabric.collectedAt fabric.failing ∅ s.store.incidents s'.store.incidents ∧
      upserts.map (·.incident.fingerprint) =
        anomalies.map fun anomaly => (AnomalyIncidentMapper.key anomaly).fingerprint := by
  obtain ⟨hnodup, hset⟩ := OperationalStateDetector.detect_keys hdetect
  have hat := (OperationalStateDetector.detect_eq_ok hdetect).2.2
  have hmem : ∀ anomaly ∈ anomalies, AnomalyIncidentMapper.key anomaly ∈ fabric.failing :=
    fun anomaly ha => by
      rw [← hset]
      exact List.mem_map_of_mem ha
  rw [← hset]
  refine mapM_invariant (fun done results s₁ => LedgerInvariant ids s₁ ∧
    Reconciled fabric.collectedAt {key | key ∈ done.map AnomalyIncidentMapper.key} ∅
      s.store.incidents s₁.store.incidents ∧
    results.map (·.incident.fingerprint) =
      done.map fun anomaly => (AnomalyIncidentMapper.key anomaly).fingerprint) h ?_ ?_
  · refine ⟨hs, ?_, rfl⟩
    have hempty : {key | key ∈ [].map AnomalyIncidentMapper.key} = (∅ : Set FindingKey) := by
      ext key
      simp only [List.map_nil, List.not_mem_nil, Set.mem_ofPred_eq, Set.mem_empty_iff_false]
    rw [hempty]
    exact .refl _ _
  · rintro done results anomaly r s₁ s₂ ⟨rest, hsplit⟩ ⟨hs₁, hrec, hfps⟩ hrun
    obtain ⟨c, hkey, -, hobs, -, hstep⟩ := TelemetryIngestion.upsertAnomaly_ok hrun
    have hin : anomaly ∈ anomalies := by
      rw [← hsplit]
      simp only [List.mem_append, List.mem_singleton, or_true, true_or]
    have hdone : {key | key ∈ done.map AnomalyIncidentMapper.key} ⊆ keys := by
      intro key hk
      obtain ⟨a, ha, rfl⟩ := List.mem_map.1 hk
      refine hfailing (hmem a ?_)
      rw [← hsplit]
      exact List.mem_append_left _ (List.mem_append_left _ ha)
    -- the anomalies' keys are distinct, so this one has not been counted yet
    have hnew : c.key ∉ {key | key ∈ done.map AnomalyIncidentMapper.key} := by
      rw [hkey]
      intro hdup
      rw [← hsplit, List.map_append, List.map_append] at hnodup
      refine (List.nodup_append.1 (List.nodup_append.1 hnodup).1).2.2 _ hdup _ ?_ rfl
      exact List.mem_map_of_mem (List.mem_singleton_self anomaly)
    have hset' : {key | key ∈ (done ++ [anomaly]).map AnomalyIncidentMapper.key} =
        insert c.key {key | key ∈ done.map AnomalyIncidentMapper.key} := by
      ext key
      rw [hkey]
      simp only [List.map_append, List.map_cons, List.map_nil, List.mem_append,
        List.mem_singleton, Set.mem_ofPred_eq, Set.mem_insert_iff, or_comm]
    refine ⟨hstep.invariant hs₁, ?_, ?_⟩
    · rw [hset']
      refine hrec.upsert hs₁ hfree hstored hdone hstep ?_ hnew (Set.notMem_empty _)
        (hobs.trans (hat anomaly hin))
      rw [hkey]
      exact hfailing (hmem anomaly hin)
    · rw [List.map_append, List.map_append, hfps, List.map_singleton, List.map_singleton,
        hstep.fingerprint_eq, IncidentCandidate.fingerprint, hkey]

/-- What recovery has done when it has looked at some sessions. -/
structure RecoveredSoFar (ids : IdFactory) (fabric : FabricOperationalState)
    (d : Dict String Incident) (recovered : Set FindingKey) (s : Session) : Prop where
  ledger : LedgerInvariant ids s
  reconciled : Reconciled fabric.collectedAt fabric.failing recovered d s.store.incidents

/-- One look of recovery at a session of the fabric. -/
theorem RecoveredSoFar.step {failing : List String} {key : FindingKey} {state : BgpSessionState}
    {recovered : Set FindingKey} {r : Option Incident}
    (h : RecoveredSoFar ids fabric d recovered s) (hfree : CollisionFree keys)
    (hstored : storedKeys d ⊆ keys) (hsessions : fabric.sessionKeys ⊆ keys)
    (hmem : (key, state) ∈ fabric.sessions)
    (hfailing : ∀ fingerprint ∈ failing, ∃ k ∈ fabric.failing, k.fingerprint = fingerprint)
    (hstep : RecoverStep fabric.collectedAt failing key state s r s') :
    RecoveredSoFar ids fabric d ({k | k = key ∧ state = .established} ∪ recovered) s' := by
  have hkey : key ∈ keys := hsessions ⟨state, hmem⟩
  have hsub : fabric.failing ⊆ keys := fun k ⟨st, hk, _⟩ => hsessions ⟨st, hk⟩
  by_cases hstate : state = .established
  · subst hstate
    have hnot : key ∉ fabric.failing := fun hf => failing_disjoint_recovered hf hmem
    have hset : {k | k = key ∧ BgpSessionState.established = .established} ∪ recovered =
        insert key recovered := by
      ext k
      simp only [and_true, Set.mem_union, Set.mem_ofPred_eq, Set.mem_insert_iff]
    rw [hset]
    cases hstep with
    | notEstablished hstate => exact absurd rfl hstate
    | failing hmem =>
        obtain ⟨k, hk, hfp⟩ := hfailing _ hmem
        rw [hfree (hsub hk) hkey hfp] at hk
        exact absurd hk hnot
    | notOpen hnone => exact ⟨h.ledger, h.reconciled.recover_none h.ledger hnot hnone⟩
    | resolved hstate hfound hle hstep =>
        refine ⟨hstep.invariant h.ledger, ?_⟩
        have hopened := h.ledger.get?_of_findOpen hfound
        have hrec := h.reconciled.recover_open h.ledger hfree hstored hsub hkey hnot hfound
        cases hstep with
        | already other hsome hresolved =>
            rw [hopened.1, Option.some.injEq] at hsome
            rw [← hsome, hopened.2.1] at hresolved
            cases hresolved
        | resolved other t hinstant hsome hopen hle =>
            rw [hopened.1, Option.some.injEq] at hsome
            rw [Datetime.instant?_utc, Option.some.injEq, Int.ofNat_inj] at hinstant
            subst hsome hinstant
            exact hrec
  · have hset : {k | k = key ∧ state = .established} ∪ recovered = recovered := by
      ext k
      simp only [hstate, and_false, Set.mem_union, Set.mem_ofPred_eq, false_or]
    rw [hset]
    cases hstep with
    | notEstablished hstate => exact h
    | failing hmem => exact h
    | notOpen hnone => exact h
    | resolved hest hfound hle hstep => exact absurd hest hstate

/-- Recovery of one node looks at all its sessions. -/
theorem RecoveredSoFar.node {failing : List String} {recovered : Set FindingKey}
    {node : NormalizedOperationalState} {r : List (Option Incident)}
    (h : RecoveredSoFar ids fabric d recovered s) (hfree : CollisionFree keys)
    (hstored : storedKeys d ⊆ keys) (hsessions : fabric.sessionKeys ⊆ keys)
    (hnode : node ∈ fabric.nodes)
    (hfailing : ∀ fingerprint ∈ failing, ∃ k ∈ fabric.failing, k.fingerprint = fingerprint)
    (hrun : (recoverNode fabric.collectedAt failing node).run s = .ok r s') :
    RecoveredSoFar ids fabric d ({k | (k, .established) ∈ node.sessions} ∪ recovered) s' := by
  have hnone : (∀ k, (k, .established) ∉ node.sessions) →
      {k | (k, .established) ∈ node.sessions} ∪ recovered = recovered := fun hno => by
    ext k
    simp only [Set.mem_union, Set.mem_ofPred_eq, hno k, false_or]
  unfold recoverNode at hrun
  split_ifs at hrun with hrole
  · obtain ⟨-, rfl⟩ := pure_eq_ok.1 hrun
    rw [hnone fun k hk => hrole (mem_node_sessions.1 hk).1]
    exact h
  cases hbgp : node.bgp with
  | none =>
      rw [hbgp] at hrun
      obtain ⟨-, rfl⟩ := pure_eq_ok.1 hrun
      rw [hnone fun k hk => ?_]
      · exact h
      · obtain ⟨-, _, _, _, -, hsome, -⟩ := mem_node_sessions.1 hk
        rw [hbgp] at hsome
        cases hsome
  | some bgp =>
      simp only [hbgp] at hrun
      obtain ⟨deviceId, hdev, hrun⟩ := check_bind_eq_ok.1 hrun
      have hdev' : lab1DeviceId? node.nodeId = some deviceId := by
        unfold requireDeviceId at hdev
        split at hdev
        · cases hdev
        · next hsome => rw [hsome, Except.ok.inj hdev]
      have hloop := mapM_invariant (fun done _ s₁ => RecoveredSoFar ids fabric d
        ({k | ∃ neighbor ∈ done, k = sessionKey deviceId neighbor.neighborIp ∧
          neighbor.state = .established} ∪ recovered) s₁) hrun ?_ ?_
      · convert hloop using 2
        ext k
        simp only [Set.mem_ofPred_eq, mem_node_sessions, hdev', hbgp, Option.some.injEq]
        constructor
        · rintro ⟨-, _, _, neighbor, rfl, rfl, hmem, rfl, hstate⟩
          exact ⟨neighbor, hmem, rfl, hstate⟩
        · rintro ⟨neighbor, hmem, rfl, hstate⟩
          exact ⟨not_not.1 hrole, deviceId, bgp, neighbor, rfl, rfl, hmem, rfl, hstate⟩
      · convert h
        ext k
        simp only [List.not_mem_nil, false_and, exists_false, Set.mem_union, Set.mem_ofPred_eq,
          false_or]
      · rintro done _ neighbor _ s₁ s₂ ⟨rest, hsplit⟩ hdone hneighbor
        have hmem : neighbor ∈ bgp.neighbors := by
          rw [← hsplit]
          simp only [List.mem_append, List.mem_singleton, or_true, true_or]
        have hsession : (sessionKey deviceId neighbor.neighborIp, neighbor.state) ∈
            fabric.sessions := mem_sessions.2 ⟨node, hnode, mem_node_sessions.2
          ⟨not_not.1 hrole, deviceId, bgp, neighbor, hdev', hbgp, hmem, rfl, rfl⟩⟩
        have hstep := hdone.step hfree hstored hsessions hsession hfailing
          (recoverNeighbor_ok (not_isBlank_of_lab1DeviceId? hdev') hneighbor)
        convert hstep using 1
        ext k
        simp only [List.mem_append, List.mem_singleton, or_and_right, exists_or,
          exists_eq_left, Set.mem_union, Set.mem_ofPred_eq, ← or_assoc]
        exact or_congr_left or_comm

/-- **Recovery resolves every session that is established** and touches no other. -/
theorem recover_reconciled {upserts : List IncidentUpsertResult} {resolved : List Incident}
    (h : RecoveredSoFar ids fabric d ∅ s) (hfree : CollisionFree keys)
    (hstored : storedKeys d ⊆ keys) (hsessions : fabric.sessionKeys ⊆ keys)
    (hfailing : ∀ upsert ∈ upserts, ∃ k ∈ fabric.failing,
      k.fingerprint = upsert.incident.fingerprint)
    (hrun : (recover fabric upserts).run s = .ok resolved s') :
    RecoveredSoFar ids fabric d fabric.recovered s' := by
  obtain ⟨found, s₁, hloop, hreturn⟩ := bind_eq_ok.1 hrun
  obtain ⟨-, rfl⟩ := pure_eq_ok.1 hreturn
  have hfps : ∀ fingerprint ∈ upserts.map (·.incident.fingerprint), ∃ k ∈ fabric.failing,
      k.fingerprint = fingerprint := by
    intro fingerprint hmem
    obtain ⟨upsert, hupsert, rfl⟩ := List.mem_map.1 hmem
    exact hfailing upsert hupsert
  have hall := mapM_invariant (fun done _ s₁ => RecoveredSoFar ids fabric d
    {k | ∃ node ∈ done, (k, .established) ∈ node.sessions} s₁) hloop ?_ ?_
  · convert hall using 2
    ext k
    exact mem_sessions
  · convert h using 1
    ext k
    simp only [List.not_mem_nil, false_and, exists_false, Set.mem_ofPred_eq,
      Set.mem_empty_iff_false]
  · rintro done _ node _ s₁ s₂ ⟨rest, hsplit⟩ hdone hnode
    have hmem : node ∈ fabric.nodes := by
      rw [← hsplit]
      simp only [List.mem_append, List.mem_singleton, or_true, true_or]
    have hstep := hdone.node hfree hstored hsessions hmem hfps hnode
    convert hstep using 1
    ext k
    simp only [List.mem_append, List.mem_singleton, or_and_right, exists_or, exists_eq_left,
      Set.mem_union, Set.mem_ofPred_eq]
    exact or_comm

/-- **An accepted fabric reconciles the incidents with itself.** -/
theorem body_reconciled {ingested : Ingested} (hs : LedgerInvariant ids s)
    (hfree : CollisionFree (storedKeys s.store.incidents ∪ fabric.sessionKeys))
    (h : (body ids fabric).run s = .ok ingested s') (hout : ingested.stateOutcome ≠ .unchanged) :
    LedgerInvariant ids s' ∧ Reconciled fabric.collectedAt fabric.failing fabric.recovered
      s.store.incidents s'.store.incidents := by
  obtain ⟨hdetect, s₁, hsave, hrest⟩ := body_ok h
  obtain ⟨hun, -⟩ | ⟨-, s₂, hupserts, hrecover⟩ := hrest
  · exact absurd hun hout
  have hs₁ : LedgerInvariant ids s₁ := hs.later hsave.later hsave.incidents_eq
  have hsub : fabric.failing ⊆ storedKeys s.store.incidents ∪ fabric.sessionKeys :=
    fun k ⟨state, hk, _⟩ => Or.inr ⟨state, hk⟩
  obtain ⟨hs₂, hrec, hfps⟩ := upserts_reconciled hs₁ hfree
    (by rw [hsave.incidents_eq]; exact Set.subset_union_left) hsub hdetect hupserts
  rw [hsave.incidents_eq] at hrec
  have hdone := recover_reconciled ⟨hs₂, hrec⟩ hfree Set.subset_union_left
    Set.subset_union_right (fun upsert hmem => ?_) hrecover
  · exact ⟨hdone.ledger, hdone.reconciled⟩
  · have hfp : upsert.incident.fingerprint ∈ ingested.anomalies.map
        fun anomaly => (AnomalyIncidentMapper.key anomaly).fingerprint := by
      rw [← hfps]
      exact List.mem_map_of_mem hmem
    obtain ⟨anomaly, hanomaly, hkey⟩ := List.mem_map.1 hfp
    refine ⟨AnomalyIncidentMapper.key anomaly, ?_, hkey⟩
    rw [← (OperationalStateDetector.detect_keys hdetect).2]
    exact List.mem_map_of_mem hanomaly

end Loops
end OperationalStateIngestion

/-! ### Session by session -/

/-- The one open incident about a key, and its id. -/
structure OnlyOpen (incidents : Dict String Incident) (key : FindingKey) (id : String)
    (i : Incident) : Prop where
  stored : incidents.get? id = some i
  status : i.status = .open
  about : i.key = key
  only : ∀ id' j, incidents.get? id' = some j → j.status = .open → j.key = key → id' = id

/-- No incident about a key is open. -/
def NoneOpen (incidents : Dict String Incident) (key : FindingKey) : Prop :=
  ∀ id i, incidents.get? id = some i → i.status = .open → i.key ≠ key

/-- **What an accepted fabric does to the incidents**, session by session. -/
structure SessionsReconciled (fabric : FabricOperationalState)
    (before after : Dict String Incident) : Prop where
  /-- Every router of the fabric is a device. -/
  device : ∀ node ∈ fabric.nodes, node.role = .router →
    ∃ deviceId, lab1DeviceId? node.nodeId = some deviceId
  /-- A neighbour observed Idle or Active has one open incident, seen at the
  collection and counting one more than before. -/
  down : ∀ {node deviceId bgp neighbor}, node ∈ fabric.nodes → node.role = .router →
    lab1DeviceId? node.nodeId = some deviceId → node.bgp = some bgp →
    neighbor ∈ bgp.neighbors → neighbor.state = .idle ∨ neighbor.state = .active →
    ∃ id i', OnlyOpen after (sessionKey deviceId neighbor.neighborIp) id i' ∧
      i'.lastSeenAt = fabric.collectedAt ∧
      ((∃ i, OnlyOpen before (sessionKey deviceId neighbor.neighborIp) id i ∧
          i'.occurrenceCount = i.occurrenceCount + 1) ∨
        (NoneOpen before (sessionKey deviceId neighbor.neighborIp) ∧ i'.occurrenceCount = 1))
  /-- A neighbour observed Established has no open incident, and the one it had
  was resolved at the collection. -/
  established : ∀ {node deviceId bgp neighbor}, node ∈ fabric.nodes → node.role = .router →
    lab1DeviceId? node.nodeId = some deviceId → node.bgp = some bgp →
    neighbor ∈ bgp.neighbors → neighbor.state = .established →
    NoneOpen after (sessionKey deviceId neighbor.neighborIp) ∧
      ∀ id i, OnlyOpen before (sessionKey deviceId neighbor.neighborIp) id i →
        ∃ i', after.get? id = some i' ∧ i'.status = .resolved ∧
          i'.resolvedAt = some fabric.collectedAt
  /-- Every other incident is unchanged. -/
  unchanged : ∀ {id i}, before.get? id = some i →
    (i.status = .open → i.key ∉ fabric.failing ∧ i.key ∉ fabric.recovered) →
    after.get? id = some i
  /-- A new incident is about a neighbour observed Idle or Active. -/
  fresh : ∀ {id i'}, before.get? id = none → after.get? id = some i' → i'.key ∈ fabric.failing

section

variable {ids : IdFactory} {s s' : Session} {fabric : FabricOperationalState}

theorem LedgerInvariant.id_unique {key : FindingKey} {id id' : String} {i j : Incident}
    (hs : LedgerInvariant ids s) (hi : s.store.incidents.get? id = some i)
    (hj : s.store.incidents.get? id' = some j) (hio : i.status = .open) (hjo : j.status = .open)
    (hik : i.key = key) (hjk : j.key = key) : id' = id := by
  have hfp : i.fingerprint = j.fingerprint := by
    rw [(hs.well_kept hi).fingerprint_eq, (hs.well_kept hj).fingerprint_eq, hik, hjk]
  rw [← hs.filed hi, ← hs.filed hj, hs.unique_open hi hj hio hjo hfp]

theorem SessionsReconciled.of_reconciled (hs : LedgerInvariant ids s)
    (hs' : LedgerInvariant ids s')
    (hdevice : ∀ node ∈ fabric.nodes, node.role = .router →
      ∃ deviceId, lab1DeviceId? node.nodeId = some deviceId)
    (h : Reconciled fabric.collectedAt fabric.failing fabric.recovered s.store.incidents
      s'.store.incidents) :
    SessionsReconciled fabric s.store.incidents s'.store.incidents where
  device := hdevice
  down := by
    intro node deviceId bgp neighbor hnode hrole hdev hbgp hmem hstate
    have hfailing : sessionKey deviceId neighbor.neighborIp ∈ fabric.failing := by
      refine ⟨neighbor.state, mem_sessions.2 ⟨node, hnode, mem_node_sessions.2
        ⟨hrole, deviceId, bgp, neighbor, hdev, hbgp, hmem, rfl, rfl⟩⟩, ?_⟩
      rcases hstate with hstate | hstate <;> rw [hstate] <;> rfl
    obtain ⟨id, i', hi', hopen', hkey'⟩ := h.reported _ hfailing
    have honly : OnlyOpen s'.store.incidents (sessionKey deviceId neighbor.neighborIp) id i' :=
      ⟨hi', hopen', hkey', fun id' j hj hjo hjk => hs'.id_unique hi' hj hopen' hjo hkey' hjk⟩
    refine ⟨id, i', honly, ?_⟩
    cases hbefore : s.store.incidents.get? id with
    | none =>
        obtain ⟨c, -, hat, rfl⟩ := h.fresh hbefore hi'
        refine ⟨hat, Or.inr ⟨fun id' j hj hjo hjk => ?_, rfl⟩⟩
        obtain ⟨c', -, hj'⟩ := h.counted hj hjo (by rw [hjk]; exact hfailing)
        rw [honly.only id' _ hj' hjo hjk, hbefore] at hj
        cases hj
    | some i =>
        have hio : i.status = .open := by
          by_contra hno
          have hkept := h.kept hbefore fun ho => absurd ho hno
          rw [hi', Option.some.injEq] at hkept
          exact hno (hkept ▸ hopen')
        have hik : i.key = sessionKey deviceId neighbor.neighborIp := by
          rcases h.origin hi' with ⟨hnone, -⟩ | ⟨j, hj, hjk, -⟩
          · rw [hnone] at hbefore
            cases hbefore
          · rw [hbefore, Option.some.injEq] at hj
            rw [hj, hjk, hkey']
        obtain ⟨c, hat, hc⟩ := h.counted hbefore hio (by rw [hik]; exact hfailing)
        rw [hi', Option.some.injEq] at hc
        subst hc
        exact ⟨hat, Or.inl ⟨i, ⟨hbefore, hio, hik, fun id' j hj hjo hjk =>
          hs.id_unique hbefore hj hio hjo hik hjk⟩, rfl⟩⟩
  established := by
    intro node deviceId bgp neighbor hnode hrole hdev hbgp hmem hstate
    have hrec : sessionKey deviceId neighbor.neighborIp ∈ fabric.recovered :=
      mem_sessions.2 ⟨node, hnode, mem_node_sessions.2
        ⟨hrole, deviceId, bgp, neighbor, hdev, hbgp, hmem, rfl, hstate⟩⟩
    constructor
    · intro id j hj hjo hjk
      refine (h.of_open hj hjo fun hf => ?_).2 (by rw [hjk]; exact hrec)
      exact failing_disjoint_recovered hf (by rw [hjk]; exact hrec)
    · intro id i hi
      exact ⟨_, h.resolved hi.stored hi.status (by rw [hi.about]; exact hrec), rfl, rfl⟩
  unchanged := h.kept
  fresh := fun hnone hi' => by
    obtain ⟨c, hkey, -, rfl⟩ := h.fresh hnone hi'
    exact hkey

end

/-- **What an accepted fabric does.**  On any platform that requests can reach,
an ingestion that creates or replaces the lab's state reconciles the incidents
with it, session by session, if the keys at hand have distinct fingerprints. -/
theorem ingest_reconciles_sessions {d : Deployment} {p p' : Platform}
    {fabric : FabricOperationalState} {result : OperationalStateIngestionResult}
    (hp : Reachable d p)
    (h : (OperationalStateIngestion.ingest d.incidentIds fabric).run p = .ok result p')
    (hout : result.stateOutcome = .created ∨ result.stateOutcome = .replaced)
    (hfree : CollisionFree (storedKeys p.committed.incidents ∪ fabric.sessionKeys)) :
    SessionsReconciled fabric p.committed.incidents p'.committed.incidents := by
  obtain ⟨ingested, s, hbody, houtcome, rfl⟩ := OperationalStateIngestion.ingest_ok h
  have hchanged : ingested.stateOutcome ≠ .unchanged := by
    rw [← houtcome]
    rcases hout with hout | hout <;> rw [hout] <;> nofun
  obtain ⟨hs', hrec⟩ :=
    OperationalStateIngestion.body_reconciled (reachable_ledger hp) hfree hbody hchanged
  obtain ⟨hdetect, -⟩ := OperationalStateIngestion.body_ok hbody
  exact .of_reconciled (reachable_ledger hp) hs'
    (OperationalStateDetector.detect_eq_ok hdetect).1 hrec

/-! The routers are registered, and `leaf-1` reports its neighbour Idle. -/

/-- A deployment without adapters. -/
def labDeployment : Deployment where
  registry := ⟨[]⟩
  snapshotIds := tallyIds 'S'
  incidentIds := tallyIds 'I'

/-- Where the fabrics below come from. -/
def labSource : CollectionSource where
  collector := "frr"
  labName := lab1LabName
  collectionId := "c"
  collector_not_blank := by decide
  labName_not_blank := by decide
  collectionId_not_blank := by decide

/-- What `leaf-1` reports: one neighbour, Idle. -/
def leafDown : NormalizedOperationalState where
  nodeId := "leaf-1"
  role := .router
  collectedAt := 5
  source := labSource
  interfaces := []
  bgp := some ⟨65001, "::1", [⟨"::1", none, .idle, none, none, none, by decide, nofun,
    fun _ => ⟨rfl, rfl⟩⟩], by decide, by decide, List.nodup_singleton _⟩
  routes := []
  reachability := []
  unavailable := []
  nodeId_not_blank := by decide
  interfaces_nodup := List.nodup_nil
  routes_nodup := List.nodup_nil
  unavailable_nodup := List.nodup_nil
  interfaces_unavailable := nofun
  routes_unavailable := nofun
  reachability_unavailable := nofun
  host_bgp := nofun
  router_bgp := fun _ => ⟨nofun, nofun⟩

/-- The fabric of that one report. -/
def fabricDown : FabricOperationalState where
  collectionId := "c"
  collectedAt := 5
  nodes := [leafDown]
  collectionId_not_blank := by decide
  nodes_nodup := List.nodup_singleton _
  nodes_collectedAt := fun _ h => by rw [List.mem_singleton.1 h]; rfl
  nodes_collectionId := fun _ h => by rw [List.mem_singleton.1 h]; rfl

/-- The platform with the lab's routers. -/
def labPlatform : Platform := platformAfter labDeployment [.registerLabDevices (.utc 0)]

set_option maxRecDepth 20000 in
/-- Registering devices opens no incident. -/
theorem labPlatform_incidents : labPlatform.committed.incidents = .empty :=
  Dict.eq_empty_of_keys (by decide +kernel)

set_option maxRecDepth 20000 in
theorem ingest_reconciles_sessions_down :
    SessionsReconciled fabricDown labPlatform.committed.incidents
      (final (OperationalStateIngestion.ingest labDeployment.incidentIds fabricDown)
        labPlatform).committed.incidents := by
  have hcreated : (match (OperationalStateIngestion.ingest labDeployment.incidentIds
      fabricDown).run labPlatform with
      | .ok result _ => decide (result.stateOutcome = .created)
      | .error _ _ => false) = true := by decide +kernel
  cases h : (OperationalStateIngestion.ingest labDeployment.incidentIds fabricDown).run
      labPlatform with
  | error e p' =>
      rw [h] at hcreated
      cases hcreated
  | ok result p' =>
      rw [h] at hcreated
      rw [final_of_ok h]
      refine ingest_reconciles_sessions ⟨_, rfl⟩ h (Or.inl (of_decide_eq_true hcreated)) ?_
      refine (Set.subsingleton_singleton (a := sessionKey "lab1-leaf-1" "::1")).anti ?_ |>.injOn _
      rintro key (⟨id, i, hi, -⟩ | ⟨state, hmem⟩)
      · rw [labPlatform_incidents] at hi
        cases hi
      · have hsessions : fabricDown.sessions = [(sessionKey "lab1-leaf-1" "::1", .idle)] := by
          decide +kernel
        rw [hsessions, List.mem_singleton] at hmem
        exact congrArg Prod.fst hmem

end MetaRne
