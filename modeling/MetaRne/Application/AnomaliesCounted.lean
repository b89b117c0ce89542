/-
# A sample's anomalies, counted

The telemetry rules over one device, one interface or one neighbour, and the incidents
of one ingestion.  An evaluation reports at most one anomaly of one key, so the
candidates of its anomalies have distinct fingerprints, where SHA-256 tells the keys
apart, and one ingestion counts no incident twice (`anomalies_isolated`).
-/

import MetaRne.Application.FindingsCounted
import MetaRne.Detection.RuleIsolation

namespace MetaRne

open Library Library.Effect Python

namespace TelemetryIngestion

variable {ids : IdFactory} {s s' : Session} {p p' : Platform}

/-- Handing one anomaly in upserts the candidate that is built of it. -/
theorem upsertStep_of_upsertAnomaly {anomaly : Anomaly} {r : IncidentUpsertResult}
    (h : (upsertAnomaly ids anomaly).run s = .ok r s') :
    ∃ c, AnomalyIncidentMapper.buildCandidate anomaly = .ok c ∧ UpsertStep ids c s r s' := by
  obtain ⟨c, hc, h⟩ := check_bind_eq_ok.1 h
  obtain ⟨fingerprint, -, h⟩ := check_bind_eq_ok.1 h
  obtain ⟨-, -, hstep⟩ := Memory.upsertOpenIncident_ok h
  exact ⟨c, hc, hstep⟩

/-- The loop over the anomalies upserts their candidates in order. -/
theorem upsertAnomalies_ok {anomalies : List Anomaly} {results : List IncidentUpsertResult}
    (h : (anomalies.mapM (upsertAnomaly ids)).run s = .ok results s') :
    ∃ cs, List.Forall₂ (fun a c => AnomalyIncidentMapper.buildCandidate a = .ok c) anomalies cs ∧
      Upserts ids cs s s' := by
  refine mapM_invariant (fun done _ s₁ => ∃ cs, List.Forall₂
    (fun a c => AnomalyIncidentMapper.buildCandidate a = .ok c) done cs ∧ Upserts ids cs s s₁) h
    ⟨[], .nil, .nil s⟩ ?_
  rintro done results a r s₁ s₂ - ⟨cs, hcs, hupserts⟩ hrun
  obtain ⟨c, hc, hstep⟩ := upsertStep_of_upsertAnomaly hrun
  exact ⟨cs ++ [c], List.rel_append hcs (.cons hc .nil), hupserts.concat hstep⟩

/-- The candidates are about the keys of their anomalies. -/
theorem candidateKeys_eq {anomalies : List Anomaly} {cs : List IncidentCandidate}
    (hcs : List.Forall₂ (fun a c => AnomalyIncidentMapper.buildCandidate a = .ok c)
      anomalies cs) :
    cs.map IncidentCandidate.key = anomalies.map AnomalyIncidentMapper.key := by
  induction hcs with
  | nil => rfl
  | @cons anomaly c _ _ hc _ ih =>
      obtain ⟨c', hc', hkey, -⟩ := AnomalyIncidentMapper.buildCandidate_eq_ok anomaly
      obtain rfl := Except.ok.inj (hc'.symm.trans hc)
      rw [List.map_cons, List.map_cons, ih, hkey]

/-- Of anomalies with distinct keys, the candidates have distinct fingerprints. -/
theorem nodup_fingerprints {anomalies : List Anomaly} {cs : List IncidentCandidate}
    (hcs : List.Forall₂ (fun a c => AnomalyIncidentMapper.buildCandidate a = .ok c)
      anomalies cs) (hnodup : (anomalies.map AnomalyIncidentMapper.key).Nodup)
    (hfree : CollisionFree {key | key ∈ anomalies.map AnomalyIncidentMapper.key}) :
    (fingerprints cs).Nodup := by
  have hkeys := candidateKeys_eq hcs
  rw [← hkeys] at hnodup hfree
  exact (ConfigIngestion.nodup_fingerprints_iff hfree).2 hnodup

/-- **What an ingestion that returns did**: it evaluated a sequence and upserted the
candidates of the anomalies. -/
theorem ingest_ok {command : TelemetryIngestionCommand} {result : TelemetryIngestionResult}
    (h : (ingest ids command).run p = .ok result p') :
    ∃ sequence cs s₁ s₂,
      RuleEngine.evaluate (.utc command.observedAt) sequence = .ok result.anomalies ∧
      List.Forall₂ (fun a c => AnomalyIncidentMapper.buildCandidate a = .ok c)
        result.anomalies cs ∧
      s₁.store.incidents = p.committed.incidents ∧
      (LedgerInvariant ids p.openUnitOfWork → LedgerInvariant ids s₁) ∧
      Upserts ids cs s₁ s₂ ∧ p'.committed = s₂.store := by
  obtain ⟨ingested, s₂, hbody, hfinish, rfl⟩ := unitOfWork_ok h
  obtain ⟨-, latest, s, cutoff, history, s', s₁, hlatest, -, hrecent, -, hsave, hevaluate,
    hloop⟩ := body_ok hbody
  obtain ⟨rfl, rfl⟩ := pure_eq_ok.1 (show EStateM.run (pure _) p.openUnitOfWork = _ from hlatest)
  obtain ⟨rfl, -⟩ := Memory.mem_of_getRecentTelemetry hrecent
  have hwrites : Writes ids [.telemetry] p.openUnitOfWork s₁ :=
    (onlyWrites_saveTelemetry (by decide) _ _).of_ok hsave
  obtain ⟨cs, hcs, hupserts⟩ := upsertAnomalies_ok hloop
  have hresult : result.anomalies = ingested.anomalies := by
    obtain ⟨_, -, hreturn⟩ := except_bind_eq_ok.1 hfinish
    rw [← Except.ok.inj hreturn]
  refine ⟨_, cs, s₁, s₂, hresult ▸ hevaluate, hresult ▸ hcs,
    hwrites.same (by decide : Part.incidents ∉ _), fun hledger => (hwrites.ledger hledger).1,
    hupserts, rfl⟩

end TelemetryIngestion

open RuleEngine in
/-- **The telemetry rules are isolated.**  What is reported for a device is what is reported
on its samples alone; the anomalies of an interface or of a neighbour are decided by its
observations; one evaluation reports at most one anomaly of one key, so the candidates have
distinct fingerprints; and one ingestion counts no incident twice. -/
theorem anomalies_isolated (ids : IdFactory) :
    (∀ observedAt samples deviceId,
      evaluate observedAt (samples.filter fun sample => sample.deviceId = deviceId) =
        (evaluate observedAt samples).map fun anomalies =>
          anomalies.filter fun anomaly => anomaly.deviceId = deviceId) ∧
    (∀ t samples samples' anomalies anomalies', evaluate (.utc t) samples = .ok anomalies →
      evaluate (.utc t) samples' = .ok anomalies' → ∀ deviceId,
      (∀ interfaceName, observationsOf samples deviceId interfaceName =
          observationsOf samples' deviceId interfaceName →
        ∀ anomaly, AnomalyIncidentMapper.key anomaly = flapKey deviceId interfaceName →
          (anomaly ∈ anomalies ↔ anomaly ∈ anomalies')) ∧
      ∀ neighborIp, neighborObservationsOf samples deviceId neighborIp =
          neighborObservationsOf samples' deviceId neighborIp →
        ∀ anomaly, AnomalyIncidentMapper.key anomaly = downKey deviceId neighborIp →
          (anomaly ∈ anomalies ↔ anomaly ∈ anomalies')) ∧
    (∀ observedAt samples anomalies, evaluate observedAt samples = .ok anomalies →
      (anomalies.map AnomalyIncidentMapper.key).Nodup ∧
      ∀ cs, List.Forall₂ (fun a c => AnomalyIncidentMapper.buildCandidate a = .ok c)
          anomalies cs →
        CollisionFree {key | key ∈ anomalies.map AnomalyIncidentMapper.key} →
        (fingerprints cs).Nodup) ∧
    (∀ command p result p',
      (TelemetryIngestion.ingest ids command).run p = .ok result p' →
      LedgerInvariant ids p.openUnitOfWork →
      CollisionFree {key | key ∈ result.anomalies.map AnomalyIncidentMapper.key} →
      CountedOnce p.committed.incidents p'.committed.incidents) := by
  refine ⟨evaluate_filter, ?_, ?_, ?_⟩
  · intro t samples samples' anomalies anomalies' h h' deviceId
    refine ⟨fun interfaceName hsame anomaly hkey => ?_, fun neighborIp hsame anomaly hkey => ?_⟩
    · rw [← and_iff_left hkey (a := anomaly ∈ anomalies), mem_flap_iff h, hsame, ← mem_flap_iff h',
        and_iff_left hkey]
    · rw [← and_iff_left hkey (a := anomaly ∈ anomalies), mem_down_iff h, hsame, ← mem_down_iff h',
        and_iff_left hkey]
  · intro observedAt samples anomalies h
    exact ⟨nodup_keys h, fun cs hcs hfree =>
      TelemetryIngestion.nodup_fingerprints hcs (nodup_keys h) hfree⟩
  · intro command p result p' hingest hledger hfree
    obtain ⟨sequence, cs, s₁, s₂, hevaluate, hcs, hincidents, hledger₁, hupserts, hcommitted⟩ :=
      TelemetryIngestion.ingest_ok hingest
    rw [← hincidents, hcommitted, (hupserts.tally (hledger₁ hledger)).countedOnce_iff]
    exact TelemetryIngestion.nodup_fingerprints hcs (nodup_keys hevaluate) hfree

/-- A sample of a device whose processor is busy and whose interface is in a state. -/
def busySample (deviceId : String) (hid : isBlank deviceId = false) (sampledAt : Timestamp)
    (state : LinkState) : TelemetrySample :=
  ⟨deviceId, sampledAt, .finite 95, .finite 3, .finite 0, [⟨"eth0", state⟩], [], hid, by decide,
    isPercentage_three⟩

/-- Samples of two devices in turn; the interface of the first is up and down. -/
def busySamples : List TelemetrySample :=
  [LinkState.up, .down, .up, .down, .up].zipIdx.flatMap fun numbered =>
    [busySample "r1" not_isBlank_r1 (1000000 * numbered.2) numbered.1,
      busySample "r2" not_isBlank_r2 (1000000 * numbered.2) .up]

/-- Both are busy, and the first flaps: three anomalies, about three keys. -/
theorem anomalies_isolated_busy : ∃ anomalies,
    RuleEngine.evaluate (.utc 0) busySamples = .ok anomalies ∧ anomalies.length = 3 ∧
      (anomalies.map AnomalyIncidentMapper.key).Nodup ∧
      RuleEngine.evaluate (.utc 0) (busySamples.filter fun sample => sample.deviceId = "r1") =
        .ok (anomalies.filter fun anomaly => anomaly.deviceId = "r1") := by
  obtain ⟨hdevice, -, hone, -⟩ := anomalies_isolated (tallyIds 'I')
  have hevaluate := RuleEngine.evaluate_eq_verdicts 0 busySamples
  refine ⟨_, hevaluate, by decide +kernel, (hone _ _ _ hevaluate).1, ?_⟩
  rw [hdevice, hevaluate]
  rfl

end MetaRne
