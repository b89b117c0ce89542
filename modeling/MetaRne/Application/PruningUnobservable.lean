/-
# Pruning is unobservable

The telemetry service over the in-memory repository, which forgets all but a
window of each device's samples, and over an unbounded one.  What the service
evaluates is cut to the same window, so it is the same on both sides
(`buildEvaluationSequence_rtake`); and nothing else in the service looks at the
samples (`SparesIncidents.blind_upsertAnomaly`).

So the two answer any commands alike, observation by observation
(`pruning_unobservable`).
-/

import MetaRne.Application.IncidentFrame
import MetaRne.Application.SessionReconciliation
import MetaRne.Persistence.TelemetryRetention

namespace MetaRne

open Library Library.Effect Library.Runs Library.Window Python

namespace TelemetryIngestion

/-- `TelemetryIngestionService.ingest` over a repository, with what its unit of work
evaluated, found and handed in beside its result. -/
def ingestOver (samples : TelemetryRepository) (ids : IdFactory)
    (command : TelemetryIngestionCommand) : Service (Ingested × TelemetryIngestionResult) :=
  writing (body samples ids command) fun ingested => do
    let result ← TelemetryIngestionResult.new command.sample ingested.anomalies
    return (ingested, result)

/-- A client sends one command to the service over a repository. -/
def answerOver (samples : TelemetryRepository) (ids : IdFactory)
    (command : TelemetryIngestionCommand) (p : Platform) :
    Except Error (Ingested × TelemetryIngestionResult) × Platform :=
  attempt (ingestOver samples ids command) p

/-- Over the in-memory repository this is the service. -/
theorem ingest_eq_map_ingestOver (ids : IdFactory) (command : TelemetryIngestionCommand) :
    ingest ids command = Prod.snd <$> ingestOver Memory.telemetryRepository ids command := by
  funext p
  refine Eq.trans ?_ (run_map_eq Prod.snd _ p).symm
  unfold ingest ingestOver writing EStateM.run unitOfWork
  cases (body Memory.telemetryRepository ids command).run p.openUnitOfWork with
  | error e s => rfl
  | ok ingested s =>
      cases hnew : TelemetryIngestionResult.new command.sample ingested.anomalies with
      | error e => simp only [hnew]; rfl
      | ok result => simp only [hnew]; rfl

/-! ### The evaluation sequence -/

/-- When the sample of an entry was taken. -/
def EvaluationEntry.sampledAt (entry : EvaluationEntry) : Timestamp := entry.sample.sampledAt

instance : Std.Total bySampledAt where
  total a b := le_total a.sample.sampledAt b.sample.sampledAt

instance : IsTrans EvaluationEntry bySampledAt where
  trans _ _ _ hab hbc := le_trans (show _ ≤ _ from hab) hbc

theorem bySampledAt_refines : Refines EvaluationEntry.sampledAt bySampledAt where
  of_lt := fun h => h.le
  le := fun h => h

/-- The entry of a sample from the history. -/
def historyEntry (sample : TelemetrySample) : EvaluationEntry := ⟨sample, false⟩

/-- **A history is evaluated by its last samples alone.** -/
theorem buildEvaluationSequence_rtake {history : List TelemetrySample}
    (hhistory : Window.InOrder (fun sample => sample.sampledAt) history) (currentSample : TelemetrySample) :
    buildEvaluationSequence (history.rtake retentionCap) currentSample =
      buildEvaluationSequence history currentSample := by
  have hplace : ∀ rows : List TelemetrySample, Window.InOrder (fun sample => sample.sampledAt) rows →
      ((rows.map historyEntry) ++ [EvaluationEntry.mk currentSample true]).insertionSort
          bySampledAt =
        place EvaluationEntry.sampledAt ⟨currentSample, true⟩ (rows.map historyEntry) := by
    intro rows hrows
    rw [insertionSort_concat bySampledAt_refines fun _ _ hle => hle,
      List.Pairwise.insertionSort_eq]
    rw [List.pairwise_map]
    exact hrows
  have hwindow : ∀ entries : List EvaluationEntry,
      entries.rtake retentionCap = window retentionCap (fun _ => true) entries := fun entries => by
    rw [window, List.filter_true]
  have hmap : (history.rtake retentionCap).map historyEntry =
      (history.map historyEntry).rtake retentionCap := by
    rw [List.rtake, List.rtake, List.map_drop, List.length_map]
  have hentries : Window.InOrder EvaluationEntry.sampledAt (history.map historyEntry) := by
    rw [Window.InOrder, List.pairwise_map]
    exact hhistory
  have hkept : ((((history.rtake retentionCap).map historyEntry) ++
        [EvaluationEntry.mk currentSample true]).insertionSort bySampledAt).rtake retentionCap =
      (((history.map historyEntry) ++ [EvaluationEntry.mk currentSample true]).insertionSort
        bySampledAt).rtake retentionCap := by
    have hlast : Window.InOrder (fun sample => sample.sampledAt) (history.rtake retentionCap) :=
      hhistory.drop
    rw [hplace _ hlast, hplace _ hhistory, hmap, hwindow, hwindow, hwindow]
    exact window_place (fun _ _ _ _ => rfl) (fun _ _ _ _ => rfl) (fun _ _ => rfl) hentries _
  unfold buildEvaluationSequence
  exact congrArg (fun entries : List EvaluationEntry => ((entries.filter fun entry =>
    entry.sample.sampledAt ≤ currentSample.sampledAt && !entry.isCurrent).map
      fun entry => entry.sample) ++ [currentSample]) hkept

/-- From a cutoff on that is not earlier than theirs, the pruned rows and all rows
are evaluated to the same sequence. -/
theorem buildEvaluationSequence_pruned {rows : List StoredTelemetrySample}
    (hrows : Window.InOrder StoredTelemetrySample.sampledAt rows) {cutoff : Timestamp}
    (hle : cutoffOf rows ≤ cutoff) (currentSample : TelemetrySample) :
    buildEvaluationSequence (((pruned rows).filter (since cutoff)).map fun entry => entry.sample)
        currentSample =
      buildEvaluationSequence ((rows.filter (since cutoff)).map fun entry => entry.sample)
        currentSample := by
  have hmap : ((rows.filter (since cutoff)).rtake retentionCap).map (fun entry => entry.sample) =
      ((rows.filter (since cutoff)).map fun entry => entry.sample).rtake retentionCap := by
    rw [List.rtake, List.rtake, List.map_drop, List.length_map]
  rw [filter_pruned hrows hle, hmap, buildEvaluationSequence_rtake]
  rw [Window.InOrder, List.pairwise_map]
  exact hrows.filter _

/-! ### Everything else -/

/-- Other telemetry spares what the incident repository reads. -/
theorem sparesIncidents_withTelemetry (t : Session) : SparesIncidents t.withTelemetry :=
  ⟨fun _ => rfl, fun _ => rfl, fun _ => rfl, fun _ => rfl, fun _ _ _ => rfl⟩

/-! ### One command -/

section Body

variable {ids : IdFactory} {command : TelemetryIngestionCommand} {s t : Session}

/-- The body over either repository, once the reads are done. -/
def afterReads (samples : TelemetryRepository) (ids : IdFactory)
    (command : TelemetryIngestionCommand) (evaluationSequence : List TelemetrySample) :
    Action Ingested := do
  samples.save command.deviceId command.sample
  let anomalies ← RuleEngine.evaluate (.utc command.observedAt) evaluationSequence
  let upserts ← anomalies.mapM (upsertAnomaly ids)
  return ⟨evaluationSequence, anomalies, upserts⟩

/-- Two runs agree: the same result and sessions side by side, or the same
exception and sessions that differ in their telemetry alone. -/
def Agree {α : Type} : EStateM.Result Error Session α → EStateM.Result Error Session α → Prop
  | .ok a s, .ok b t => a = b ∧ Prunes s t
  | .error e s, .error e' t => e = e' ∧ t = t.withTelemetry s
  | _, _ => False

theorem agree_afterReads (h : Prunes s t)
    (hdevice : (s.store.devices.get? command.deviceId).isSome)
    (hwindow : retentionWindow ≤ Memory.watermark s.store command.sample)
    (evaluationSequence : List TelemetrySample) :
    Agree ((afterReads Memory.telemetryRepository ids command evaluationSequence).run s)
      ((afterReads Sql.telemetryRepository ids command evaluationSequence).run t) := by
  rw [command.deviceId_eq] at hdevice
  obtain ⟨s₁, t₁, hmemory, hsql, h₁⟩ := h.save hdevice hwindow
  unfold afterReads
  rw [command.deviceId_eq, EStateM.run_bind, EStateM.run_bind,
    show (Memory.telemetryRepository.save command.sample.deviceId command.sample).run s =
      .ok () s₁ from hmemory,
    show (Sql.telemetryRepository.save command.sample.deviceId command.sample).run t =
      .ok () t₁ from hsql]
  dsimp only
  cases hevaluate : RuleEngine.evaluate (.utc command.observedAt) evaluationSequence with
  | error e =>
      rw [check_bind_of_error rfl, check_bind_of_error rfl]
      exact ⟨rfl, h₁.rest⟩
  | ok anomalies =>
      rw [check_bind_of_ok rfl, check_bind_of_ok rfl, EStateM.run_bind, EStateM.run_bind]
      have hblind : (anomalies.mapM (upsertAnomaly ids)).run t₁ =
          mapState t₁.withTelemetry ((anomalies.mapM (upsertAnomaly ids)).run s₁) := by
        have hrun := Blind.mapM
          ((sparesIncidents_withTelemetry t₁).blind_upsertAnomaly ids) anomalies s₁
        rwa [← h₁.rest] at hrun
      rw [hblind]
      cases hupserts : (anomalies.mapM (upsertAnomaly ids)).run s₁ with
      | error e s₂ => exact ⟨rfl, rfl⟩
      | ok upserts s₂ =>
          have hwrites : Writes ids [.incidents] s₁ s₂ := (OnlyWrites.mapM anomalies
            fun anomaly _ => onlyWrites_upsertAnomaly (by decide) anomaly).of_ok hupserts
          exact ⟨rfl, h₁.withTelemetry (hwrites.same (by decide : Part.telemetry ∉ _))⟩

/-- The reads of a command: over rows of its device, the cutoff and the samples
evaluated. -/
theorem body_run (ids : IdFactory) (samples : TelemetryRepository)
    (history : Timestamp → List TelemetrySample) {latest : Option TelemetrySample} {device : Device}
    (hdevice : s.store.devices.get? command.deviceId = some device)
    (hlatest : (samples.getLatest command.deviceId).run s = .ok latest s)
    (hhistory : ∀ cutoff, (samples.getRecent command.deviceId cutoff).run s =
      .ok (history cutoff) s) :
    (body samples ids command).run s =
      match subtractDelta (effectiveWatermark latest command.sample) retentionWindow with
      | .error e => .error e s
      | .ok cutoff => (afterReads samples ids command
          (buildEvaluationSequence (history cutoff) command.sample)).run s := by
  unfold body Memory.getDevice
  simp only [bind_assoc, get_bind, pure_bind, hdevice]
  have hknown : ¬(some device).isNone = true := Bool.false_ne_true
  rw [raiseIf_bind_of_not hknown, EStateM.run_bind, hlatest]
  dsimp only
  cases subtractDelta (effectiveWatermark latest command.sample) retentionWindow with
  | error e => rw [check_bind_of_error rfl]
  | ok cutoff =>
      rw [check_bind_of_ok rfl, EStateM.run_bind, hhistory]
      rfl

/-- A command for a device that is not registered stops before it reads. -/
theorem body_run_of_unregistered (samples : TelemetryRepository)
    (hdevice : s.store.devices.get? command.deviceId = none) :
    (body samples ids command).run s = .error (.deviceNotFound command.deviceId) s := by
  unfold body Memory.getDevice
  simp only [bind_assoc, get_bind, pure_bind, hdevice]
  rfl

/-- **One command over the two repositories**: the bodies agree. -/
theorem agree_body (h : Prunes s t) :
    Agree ((body Memory.telemetryRepository ids command).run s)
      ((body Sql.telemetryRepository ids command).run t) := by
  have hrows := orderedRows_inOrder t.store command.deviceId
  cases hdevice : s.store.devices.get? command.deviceId with
  | none =>
      rw [body_run_of_unregistered _ hdevice,
        body_run_of_unregistered _ (by rw [h.devices_eq, hdevice])]
      exact ⟨rfl, h.rest⟩
  | some device =>
      -- Both see the same newest sample.
      have hlatest : (Memory.getLatestTelemetry command.deviceId).run s =
          .ok ((Sql.orderedRows t.store command.deviceId).getLast?.map fun entry => entry.sample)
            s := by
        rw [← getLast?_pruned hrows, ← h.samples]
        rfl
      have hmemory := body_run ids Memory.telemetryRepository
        (fun cutoff => ((samplesOf s.store command.deviceId).filter (since cutoff)).map
          fun entry => entry.sample) hdevice hlatest fun cutoff => rfl
      have hsql := body_run ids Sql.telemetryRepository
        (fun cutoff => ((Sql.orderedRows t.store command.deviceId).filter (since cutoff)).map
          fun entry => entry.sample) (h.devices_eq ▸ hdevice) rfl fun cutoff => rfl
      rw [hmemory, hsql]
      have hwatermark : effectiveWatermark
          ((Sql.orderedRows t.store command.deviceId).getLast?.map fun entry => entry.sample)
            command.sample = Memory.watermark s.store command.sample := by
        rw [h.watermark_eq, ← command.deviceId_eq, effectiveWatermark, Option.map_map]
        rfl
      rw [hwatermark]
      cases hcutoff : subtractDelta (Memory.watermark s.store command.sample) retentionWindow with
      | error e => exact ⟨rfl, h.rest⟩
      | ok cutoff =>
          obtain ⟨hwindow, hsub⟩ := subtractDelta_eq_ok.1 hcutoff
          have hle : cutoffOf (Sql.orderedRows t.store command.deviceId) ≤ cutoff := by
            rw [hsub, h.watermark_eq, ← command.deviceId_eq]
            refine Nat.sub_le_sub_right ?_ retentionWindow
            cases (Sql.orderedRows t.store command.deviceId).getLast? with
            | none => exact Nat.zero_le _
            | some last => exact le_max_left _ _
          -- Both evaluate the same samples.
          have hsequence := buildEvaluationSequence_pruned hrows hle command.sample
          rw [← h.samples] at hsequence
          dsimp only
          rw [hsequence]
          exact agree_afterReads h (by rw [hdevice]; rfl) hwindow _

end Body

/-! ### Any commands -/

section Runs

variable {ids : IdFactory} {command : TelemetryIngestionCommand} {p q : Platform}

/-- The platforms stand side by side: their units of work would. -/
def PlatformPrunes (p q : Platform) : Prop := Prunes p.openUnitOfWork q.openUnitOfWork

/-- Giving up on units of work that differ in their telemetry alone. -/
theorem PlatformPrunes.abandon (h : PlatformPrunes p q) {s t : Session}
    (hrest : t = t.withTelemetry s) : PlatformPrunes (p.abandon s) (q.abandon t) := by
  have hincident : t.incidentIdsDrawn = s.incidentIdsDrawn := by rw [hrest]; rfl
  have hsnapshot : t.snapshotIdsDrawn = s.snapshotIdsDrawn := by rw [hrest]; rfl
  have hstore : q.openUnitOfWork.store =
      (q.openUnitOfWork.withTelemetry p.openUnitOfWork).store := congrArg Session.store h.rest
  refine ⟨?_, h.sequence, h.numbered, h.samples⟩
  have hsession : (q.abandon t).openUnitOfWork =
      ⟨q.openUnitOfWork.store, t.incidentIdsDrawn, t.snapshotIdsDrawn⟩ := rfl
  rw [hsession, hincident, hsnapshot, hstore]
  rfl

/-- The two stores hold the same incidents. -/
theorem PlatformPrunes.incidents_eq (h : PlatformPrunes p q) :
    q.committed.incidents = p.committed.incidents := by
  have hstore : q.openUnitOfWork.store =
      (q.openUnitOfWork.withTelemetry p.openUnitOfWork).store := congrArg Session.store h.rest
  have hincidents := congrArg Store.incidents hstore
  exact hincidents

/-- **One command over the two repositories**: the same reply, and platforms that
still stand side by side. -/
theorem answerOver_prunes (h : PlatformPrunes p q) :
    (answerOver Memory.telemetryRepository ids command p).1 =
        (answerOver Sql.telemetryRepository ids command q).1 ∧
      PlatformPrunes (answerOver Memory.telemetryRepository ids command p).2
        (answerOver Sql.telemetryRepository ids command q).2 := by
  have hagree : Agree ((body Memory.telemetryRepository ids command).run p.openUnitOfWork)
    ((body Sql.telemetryRepository ids command).run q.openUnitOfWork) := agree_body h
  unfold answerOver ingestOver
  cases hmemory : (body Memory.telemetryRepository ids command).run p.openUnitOfWork with
  | error e s =>
      cases hsql : (body Sql.telemetryRepository ids command).run q.openUnitOfWork with
      | ok b t =>
          rw [hmemory, hsql] at hagree
          exact hagree.elim
      | error e' t =>
          rw [hmemory, hsql] at hagree
          obtain ⟨rfl, hrest⟩ := hagree
          rw [attempt_writing_of_error hmemory, attempt_writing_of_error hsql]
          exact ⟨rfl, h.abandon hrest⟩
  | ok a s =>
      cases hsql : (body Sql.telemetryRepository ids command).run q.openUnitOfWork with
      | error e' t =>
          rw [hmemory, hsql] at hagree
          exact hagree.elim
      | ok b t =>
          rw [hmemory, hsql] at hagree
          obtain ⟨rfl, hprunes⟩ := hagree
          rw [attempt_writing_of_ok hmemory, attempt_writing_of_ok hsql]
          exact ⟨rfl, hprunes⟩

/-- Where nothing is stored, there is nothing to prune. -/
theorem platformPrunes_of_empty (hempty : p.committed.telemetrySamples = .empty) :
    PlatformPrunes p p := by
  have hnone : ∀ id, samplesOf p.openUnitOfWork.store id = [] := fun id => by
    have hget : p.openUnitOfWork.store.telemetrySamples.get? id = none := by
      change p.committed.telemetrySamples.get? id = none
      rw [hempty]
      rfl
    rw [samplesOf, hget]
    rfl
  refine ⟨rfl, rfl, fun id entry hmem => ?_, fun id => ?_⟩
  · rw [hnone] at hmem
    exact absurd hmem List.not_mem_nil
  · rw [Sql.orderedRows, hnone]
    rfl

/-- **Pruning is unobservable.**  From a platform without telemetry, the service
answers any commands over the repository that prunes as over the one that keeps
every sample: at every step the same evaluation sequence, the same anomalies and
the same upserts.  The incidents in the two stores are the same. -/
theorem pruning_unobservable (ids : IdFactory) (hempty : p.committed.telemetrySamples = .empty)
    (commands : List TelemetryIngestionCommand) :
    (serve (answerOver Memory.telemetryRepository ids) commands p).1 =
        (serve (answerOver Sql.telemetryRepository ids) commands p).1 ∧
      (serve (answerOver Memory.telemetryRepository ids) commands p).2.committed.incidents =
        (serve (answerOver Sql.telemetryRepository ids) commands p).2.committed.incidents := by
  have hstep : ∀ (command : TelemetryIngestionCommand) (p q : Platform), PlatformPrunes p q →
      (answerOver Memory.telemetryRepository ids command p).1 =
          (answerOver Sql.telemetryRepository ids command q).1 ∧
        PlatformPrunes (answerOver Memory.telemetryRepository ids command p).2
          (answerOver Sql.telemetryRepository ids command q).2 :=
    fun command p q h => answerOver_prunes h
  have hsides := serve_simulates hstep commands (platformPrunes_of_empty hempty)
  exact ⟨hsides.1, hsides.2.incidents_eq.symm⟩

/-- A quiet sample of `leaf-1`, at a time. -/
def leafSample (sampledAt : Timestamp) : TelemetryIngestionCommand where
  deviceId := "lab1-leaf-1"
  sample := ⟨"lab1-leaf-1", sampledAt, .finite 2, .finite 3, .finite 0, [], [], by decide,
    by decide, by decide⟩
  observedAt := sampledAt
  deviceId_not_blank := by decide
  deviceId_eq := rfl

/-- A sample, and one that comes after it and was taken before. -/
theorem pruning_unobservable_late :
    (serve (answerOver Memory.telemetryRepository labDeployment.incidentIds)
          [leafSample 900000000, leafSample 500000000] labPlatform).1 =
        (serve (answerOver Sql.telemetryRepository labDeployment.incidentIds)
          [leafSample 900000000, leafSample 500000000] labPlatform).1 ∧
      (serve (answerOver Memory.telemetryRepository labDeployment.incidentIds)
          [leafSample 900000000, leafSample 500000000] labPlatform).2.committed.incidents =
        (serve (answerOver Sql.telemetryRepository labDeployment.incidentIds)
          [leafSample 900000000, leafSample 500000000] labPlatform).2.committed.incidents := by
  have hempty : labPlatform.committed.telemetrySamples = .empty :=
    Dict.eq_empty_of_keys (by decide +kernel)
  exact pruning_unobservable labDeployment.incidentIds hempty _

end Runs

end TelemetryIngestion
end MetaRne
