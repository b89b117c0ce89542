/-
# A configuration's findings, counted

One ingestion of a configuration hands its findings in one after the other.  Each
is counted once, and keeps its evidence, exactly where no two of them are about
the same: where no policy has two unsatisfied rules for one slot
(`findings_kept_apart_iff`).
-/

import MetaRne.Application.AllOrNothing
import MetaRne.Detection.PolicyFindings
import MetaRne.Persistence.UpsertTally

namespace MetaRne

open Library Library.Effect Python

namespace ConfigIngestion

variable {ids : IdFactory} {s s' : Session} {p p' : Platform}

/-- `get_applicable_to_device` over a dictionary of policies. -/
def applicablePolicies (policies : Dict String ConfigurationPolicy) (deviceId : String) :
    List ConfigurationPolicy :=
  (policies.values.filter fun policy => policy.appliesTo == deviceId).insertionSort
    fun a b => a.policyId ≤ b.policyId

/-- What an ingestion reports: the rules of the device's policies that the submitted
configuration does not satisfy. -/
def findings (p : Platform) (deviceId : String) (config : NormalizedConfiguration) :
    List (ConfigurationPolicy × RequiredAclRule) :=
  PolicyEvaluator.reported deviceId config (applicablePolicies p.committed.policies deviceId)

/-- What the findings are about. -/
def findingKeys (p : Platform) (deviceId : String) (config : NormalizedConfiguration) :
    Set FindingKey :=
  {key | ∃ finding ∈ findings p deviceId config, PolicyEvaluator.findingKey deviceId finding = key}

/-- **What handing one violation in does**: an upsert step of its candidate. -/
theorem upsertViolation_ok {observedAt : Timestamp} {v : ConfigurationViolation}
    {r : IncidentUpsertResult} (h : (upsertViolation ids observedAt v).run s = .ok r s') :
    ∃ c, IncidentFactory.buildCandidate v = .ok c ∧ UpsertStep ids c s r s' := by
  obtain ⟨c, hc, h⟩ := check_bind_eq_ok.1 h
  obtain ⟨fingerprint, -, h⟩ := check_bind_eq_ok.1 h
  obtain ⟨-, -, hstep⟩ := Memory.upsertOpenIncident_ok h
  exact ⟨c, hc, hstep⟩

/-- The loop over the violations upserts their candidates in order. -/
theorem upsertViolations_ok {observedAt : Timestamp} {violations : List ConfigurationViolation}
    {results : List IncidentUpsertResult}
    (h : (violations.mapM (upsertViolation ids observedAt)).run s = .ok results s') :
    ∃ cs, List.Forall₂ (fun v c => IncidentFactory.buildCandidate v = .ok c) violations cs ∧
      Upserts ids cs s s' := by
  refine mapM_invariant (fun done _ s₁ => ∃ cs, List.Forall₂
    (fun v c => IncidentFactory.buildCandidate v = .ok c) done cs ∧ Upserts ids cs s s₁) h
    ⟨[], .nil, .nil s⟩ ?_
  rintro done results v r s₁ s₂ - ⟨cs, hcs, hupserts⟩ hrun
  obtain ⟨c, hc, hstep⟩ := upsertViolation_ok hrun
  exact ⟨cs ++ [c], List.rel_append hcs (.cons hc .nil), hupserts.concat hstep⟩

/-- **What an ingestion that returns did**: it evaluated the configuration under the
policies of its device and upserted the candidates of the violations. -/
theorem ingest_ok {registry : AdapterRegistry} {snapshotIds : IdFactory}
    {command : IngestConfigurationCommand} {result : ConfigIngestionResult}
    (h : (ingest registry snapshotIds ids command).run p = .ok result p') :
    ∃ violations cs s₁ s₂,
      PolicyEvaluator.evaluate command.deviceId result.snapshotId (.utc command.observedAt)
        result.normalizedConfig
        (applicablePolicies p.committed.policies command.deviceId) = .ok violations ∧
      List.Forall₂ (fun v c => IncidentFactory.buildCandidate v = .ok c) violations cs ∧
      s₁.store.incidents = p.committed.incidents ∧
      (LedgerInvariant ids p.openUnitOfWork → LedgerInvariant ids s₁) ∧
      Upserts ids cs s₁ s₂ ∧ p'.committed = s₂.store := by
  obtain ⟨prepared, p₁, hprepare, hunit⟩ := bind_eq_ok.1 h
  obtain ⟨hcommitted, hdev, -⟩ := prepare_ok hprepare
  obtain ⟨done, s₂, hbody, hfinish, hp'⟩ := unitOfWork_ok hunit
  obtain ⟨_, s₁, hpersist, hevaluate⟩ := bind_eq_ok.1 hbody
  -- Persisting the device and its snapshot leaves the incidents and the policies alone.
  have hwrites : Writes ids [.devices, .snapshots] p₁.openUnitOfWork s₁ :=
    (onlyWrites_persistDeviceAndSnapshot prepared command.observedAt).of_ok hpersist
  have hincidents : s₁.store.incidents = p.committed.incidents := by
    rw [← hcommitted]
    exact hwrites.same (by decide : Part.incidents ∉ _)
  have hpolicies : s₁.store.policies = p.committed.policies := by
    rw [← hcommitted]
    exact hwrites.same (by decide : Part.policies ∉ _)
  obtain ⟨policies, s', hread, hrest⟩ := bind_eq_ok.1 hevaluate
  obtain ⟨violations, heval, hloop⟩ := check_bind_eq_ok.1 hrest
  obtain ⟨results, s₃, hupserts, hdone⟩ := bind_eq_ok.1 hloop
  obtain ⟨hresults, rfl⟩ := pure_eq_ok.1 hdone
  cases hread
  obtain ⟨cs, hcs, hrun⟩ := upsertViolations_ok hupserts
  have hresult : result.snapshotId = prepared.snapshot.snapshotId ∧
      result.normalizedConfig = prepared.snapshot.normalizedConfig := by
    obtain ⟨_, hchecks⟩ := requireNonEmpty_bind_eq_ok.1 hfinish
    obtain ⟨_, hchecks'⟩ := requireNonEmpty_bind_eq_ok.1 hchecks
    obtain ⟨-, hreturn⟩ := raiseIf_bind_eq_ok.1 hchecks'
    rw [← Except.ok.inj hreturn]
    exact ⟨rfl, rfl⟩
  refine ⟨violations, cs, s₁, s₃, ?_, hcs, hincidents, fun hledger => ?_, hrun, ?_⟩
  · rw [hresult.1, hresult.2, ← hdev, applicablePolicies, ← hpolicies]
    exact heval
  · have hprogress : Progress ids [] p p₁ :=
      (progress_prepare registry snapshotIds command).of_ok hprepare
    exact (hwrites.ledger (hprogress.ledger hledger)).1
  · rw [hp']
    rfl

/-- The candidates of an evaluation are about its findings, in order. -/
theorem map_key_eq {deviceId sourceSnapshotId : String} {observedAt : Datetime}
    {reported : List (ConfigurationPolicy × RequiredAclRule)}
    {violations : List ConfigurationViolation} {cs : List IncidentCandidate}
    (hfindings : List.Forall₂ (PolicyEvaluator.IsFinding deviceId sourceSnapshotId observedAt)
      reported violations)
    (hcs : List.Forall₂ (fun v c => IncidentFactory.buildCandidate v = .ok c) violations cs) :
    cs.map IncidentCandidate.key = reported.map (PolicyEvaluator.findingKey deviceId) := by
  induction hfindings generalizing cs with
  | nil =>
      rw [List.forall₂_nil_left_iff.1 hcs]
      rfl
  | cons hfinding _ ih =>
      obtain ⟨c, cs', hc, hcs', rfl⟩ := List.forall₂_cons_left_iff.1 hcs
      rw [List.map_cons, List.map_cons, hfinding.key_eq hc, ih hcs']

/-- No fingerprint occurs twice exactly when no finding does, where SHA-256 tells
the findings apart. -/
theorem nodup_fingerprints_iff {cs : List IncidentCandidate}
    (hfree : CollisionFree {key | key ∈ cs.map IncidentCandidate.key}) :
    (fingerprints cs).Nodup ↔ (cs.map IncidentCandidate.key).Nodup := by
  have hmap : fingerprints cs = (cs.map IncidentCandidate.key).map FindingKey.fingerprint := by
    rw [List.map_map]
    rfl
  rw [hmap]
  exact ⟨List.Nodup.of_map _, fun hnodup => hnodup.map_on fun _ hmem _ hmem' h =>
    hfree hmem hmem' h⟩

/-- The violations determine their candidates. -/
theorem candidates_unique {violations : List ConfigurationViolation}
    {cs cs' : List IncidentCandidate}
    (hcs : List.Forall₂ (fun v c => IncidentFactory.buildCandidate v = .ok c) violations cs)
    (hcs' : List.Forall₂ (fun v c => IncidentFactory.buildCandidate v = .ok c) violations cs') :
    cs = cs' := by
  have hunique : Relator.RightUnique fun v c => IncidentFactory.buildCandidate v = .ok c :=
    fun _ _ _ hc hc' => Except.ok.inj (hc.symm.trans hc')
  exact hunique.forall₂ hcs hcs'

/-- Two findings for one slot are one, so they want one ACL. -/
theorem slotsNameOneAcl_of_slotsDistinct {deviceId : String} {config : NormalizedConfiguration}
    {policies : List ConfigurationPolicy}
    (h : PolicyEvaluator.SlotsDistinct deviceId config policies) :
    PolicyEvaluator.SlotsNameOneAcl deviceId config policies := by
  intro policy hpolicy happlies rule hrule rule' hrule' hun hun' hslot
  have hsame : rule = rule' := List.inj_on_of_nodup_map (h policy hpolicy happlies)
    (List.mem_filter.2 ⟨hrule, hun⟩) (List.mem_filter.2 ⟨hrule', hun'⟩) hslot
  rw [hsame]

/-- **An ingestion keeps its findings apart**: they have distinct identities, raise no
incident's count by more than one, and each leaves its evidence. -/
structure KeepsFindingsApart (p p' : Platform) (command : IngestConfigurationCommand)
    (result : ConfigIngestionResult) : Prop where
  evaluated : ∀ violations, PolicyEvaluator.evaluate command.deviceId result.snapshotId
    (.utc command.observedAt) result.normalizedConfig
      (applicablePolicies p.committed.policies command.deviceId) = .ok violations →
    PolicyEvaluator.DistinctIdentities violations ∧
      ∀ cs, List.Forall₂ (fun v c => IncidentFactory.buildCandidate v = .ok c) violations cs →
        EvidenceKept cs p'.committed.incidents
  counted : CountedOnce p.committed.incidents p'.committed.incidents

/-- **Distinct findings are kept apart exactly where their rules are for different
slots.**  One evaluation gives two different findings one identity exactly when one
policy has unsatisfied rules that want different ACLs in one slot.  One ingestion
counts an incident twice, or overwrites evidence, exactly when one policy has two
unsatisfied rules for one slot, where SHA-256 tells the findings apart. -/
theorem findings_kept_apart_iff (ids : IdFactory) (registry : AdapterRegistry)
    (snapshotIds : IdFactory) (command : IngestConfigurationCommand) :
    (∀ deviceId sourceSnapshotId observedAt config (policies : List ConfigurationPolicy) violations,
      PolicyEvaluator.evaluate deviceId sourceSnapshotId observedAt config policies =
        .ok violations →
      (policies.map fun policy => policy.policyId).Nodup →
      (PolicyEvaluator.DistinctIdentities violations ↔
        PolicyEvaluator.SlotsNameOneAcl deviceId config policies)) ∧
    (∀ p result p', (ingest registry snapshotIds ids command).run p = .ok result p' →
      LedgerInvariant ids p.openUnitOfWork →
      ((applicablePolicies p.committed.policies command.deviceId).map
        fun policy => policy.policyId).Nodup →
      CollisionFree (findingKeys p command.deviceId result.normalizedConfig) →
      (KeepsFindingsApart p p' command result ↔
        PolicyEvaluator.SlotsDistinct command.deviceId result.normalizedConfig
          (applicablePolicies p.committed.policies command.deviceId))) := by
  refine ⟨fun _ _ _ _ _ _ h hids => PolicyEvaluator.distinctIdentities_iff h hids,
    fun p result p' hingest hledger hids hfree => ?_⟩
  obtain ⟨violations, cs, s₁, s₂, heval, hcs, hincidents, hledger₁, hupserts, hcommitted⟩ :=
    ingest_ok hingest
  obtain ⟨-, hfindings⟩ := PolicyEvaluator.evaluate_ok heval
  have hkeys := map_key_eq hfindings hcs
  have htally := hupserts.tally (hledger₁ hledger)
  have hcounted : CountedOnce p.committed.incidents p'.committed.incidents ↔
      (fingerprints cs).Nodup := by
    rw [← htally.countedOnce_iff, hincidents, hcommitted]
  have hapart : (fingerprints cs).Nodup ↔
      PolicyEvaluator.SlotsDistinct command.deviceId result.normalizedConfig
        (applicablePolicies p.committed.policies command.deviceId) := by
    rw [← PolicyEvaluator.nodup_findingKey_iff hids, ← hkeys]
    refine nodup_fingerprints_iff (hfree.mono fun key hkey => ?_)
    rw [Set.mem_ofPred_eq, hkeys] at hkey
    obtain ⟨finding, hmem, rfl⟩ := List.mem_map.1 hkey
    exact ⟨finding, hmem, rfl⟩
  constructor
  · exact fun h => hapart.1 (hcounted.1 h.counted)
  · intro hslots
    refine ⟨fun violations' heval' => ⟨?_, fun cs' hcs' => ?_⟩, hcounted.2 (hapart.2 hslots)⟩
    · exact (PolicyEvaluator.distinctIdentities_iff heval' hids).2
        (slotsNameOneAcl_of_slotsDistinct hslots)
    · obtain rfl := Except.ok.inj (heval.symm.trans heval')
      rw [candidates_unique hcs' hcs, hcommitted]
      exact hupserts.evidenceKept (hledger₁ hledger) (hapart.2 hslots)

/-- Two ACLs wanted inbound on one interface. -/
def crossedPolicy : ConfigurationPolicy where
  policyId := "p1"
  appliesTo := "edge-1"
  requiredAcls := [⟨"EDGE", "eth0", .in, .high, "apply", by decide, by decide, by decide⟩,
    ⟨"GUARD", "eth0", .in, .high, "apply", by decide, by decide, by decide⟩]
  createdAt := 0
  policyId_not_blank := by decide
  appliesTo_not_blank := by decide

/-- A configuration whose one interface carries no ACL. -/
def bareConfig : NormalizedConfiguration :=
  ⟨"edge-1", [⟨"eth0", none, none, none, .up, none, none⟩], ⟨[]⟩, []⟩

/-- Both ACLs are missing, and the two findings are about the same. -/
theorem not_distinctIdentities_crossed :
    ∃ violations, PolicyEvaluator.evaluate "edge-1" "s1" (.utc 0) bareConfig [crossedPolicy] =
      .ok violations ∧ ([crossedPolicy].map fun policy => policy.policyId).Nodup ∧
      ¬ PolicyEvaluator.DistinctIdentities violations := by
  have heval : ∃ violations, PolicyEvaluator.evaluate "edge-1" "s1" (.utc 0) bareConfig
      [crossedPolicy] = .ok violations := ⟨_, rfl⟩
  obtain ⟨violations, heval⟩ := heval
  have hids : ([crossedPolicy].map fun policy => policy.policyId).Nodup := by decide
  refine ⟨violations, heval, hids, fun hdistinct => ?_⟩
  have hslots := (PolicyEvaluator.distinctIdentities_iff heval hids).1 hdistinct
  have hacl : "EDGE" = "GUARD" := hslots crossedPolicy List.mem_cons_self rfl _
    List.mem_cons_self _ (List.mem_cons_of_mem _ List.mem_cons_self) (by decide) (by decide) rfl
  exact absurd hacl (by decide)

end ConfigIngestion
end MetaRne
