/-
# What is evaluated is what will be retained

The evaluation sequence of a telemetry ingestion is computed before the sample is
saved, from the history that is stored then.  After any run of saves, it is what the
repository holds right after the save, up to the time of the sample and without it,
and then the sample (`evaluates_retained`).

Both place the sample among the rows and cut the same window off the end.  They
differ for a sample that is older than the window: the save drops it first, the
evaluation keeps it until the cut; but then all other rows are later.
-/

import MetaRne.Application.PruningUnobservable
import MetaRne.Persistence.TelemetryHistory

namespace MetaRne
namespace TelemetryIngestion

open Library Library.Effect Library.Window Python

variable {s : Session}

/-- The reads of an ingestion, up to the evaluation sequence. -/
def readEvaluationSequence (samples : TelemetryRepository) (command : TelemetryIngestionCommand) :
    Action (List TelemetrySample) := do
  let existingLatest ← samples.getLatest command.deviceId
  let cutoff ← subtractDelta (effectiveWatermark existingLatest command.sample) retentionWindow
  let history ← samples.getRecent command.deviceId cutoff
  return buildEvaluationSequence history command.sample

/-- A session whose telemetry came about by saves. -/
def Reachable (s : Session) : Prop :=
  ∃ s₀ calls, s₀.store.telemetrySamples = .empty ∧ s = (Memory.saveAll calls s₀).2

/-- The samples of a device are stored in order, under numbers that were drawn. -/
structure Ordered (s : Session) (deviceId : String) : Prop where
  inOrder : (samplesOf s.store deviceId).Pairwise canonicalOrder
  numbered : ∀ entry ∈ samplesOf s.store deviceId,
    entry.insertionSequence < s.store.telemetrySequence

theorem Reachable.ordered (h : Reachable s) (deviceId : String) : Ordered s deviceId := by
  obtain ⟨s₀, calls, hempty, rfl⟩ := h
  have hholds := (Memory.holdsHistory_of_empty hempty).saveAll calls
  refine ⟨?_, fun entry hmem => ?_⟩
  · rw [hholds.samples]
    exact ((List.pairwise_insertionSort canonicalOrder _).filter _).drop
  · rw [hholds.samples] at hmem
    have hlogged := (List.mem_insertionSort canonicalOrder).1 (mem_of_mem_window hmem).1
    exact hholds.numbered entry (List.mem_of_mem_filter hlogged)

/-! ### The two windows -/

/-- A stored entry, as the evaluation tags it. -/
def tagged (current : ℕ) (entry : StoredTelemetrySample) : EvaluationEntry :=
  ⟨entry.sample, entry.insertionSequence == current⟩

/-- An entry that is evaluated before the sample: another one, and not later. -/
def isBefore (sample : TelemetrySample) (current : ℕ) (entry : StoredTelemetrySample) : Bool :=
  entry.sampledAt ≤ sample.sampledAt && entry.insertionSequence != current

/-- What is evaluated, read off the stored rows from the cutoff on. -/
theorem buildEvaluationSequence_stored {rows : List StoredTelemetrySample} {current : ℕ}
    (hrows : Window.InOrder StoredTelemetrySample.sampledAt rows)
    (hnumbered : ∀ entry ∈ rows, entry.insertionSequence < current) (sample : TelemetrySample) :
    buildEvaluationSequence (rows.map fun entry => entry.sample) sample =
      ((((place StoredTelemetrySample.sampledAt ⟨sample, current⟩ rows).rtake retentionCap).filter
        (isBefore sample current)).map fun entry => entry.sample) ++ [sample] := by
  have htagged : (rows.map fun entry => entry.sample).map historyEntry = rows.map (tagged current) := by
    rw [List.map_map]
    refine List.map_congr_left fun entry hmem => ?_
    have hother : (entry.insertionSequence == current) = false :=
      beq_false_of_ne (hnumbered entry hmem).ne
    rw [tagged, hother]
    rfl
  have hplaced : ((rows.map (tagged current)) ++ [EvaluationEntry.mk sample true]).insertionSort
      bySampledAt =
      (place StoredTelemetrySample.sampledAt ⟨sample, current⟩ rows).map (tagged current) := by
    have hsorted : (rows.map (tagged current)).insertionSort bySampledAt =
        rows.map (tagged current) := by
      refine List.Pairwise.insertionSort_eq ?_
      rw [List.pairwise_map]
      exact hrows
    have hcurrent : tagged current ⟨sample, current⟩ = ⟨sample, true⟩ := by
      rw [tagged, beq_self_eq_true]
    have hmap : (place StoredTelemetrySample.sampledAt ⟨sample, current⟩ rows).map
        (tagged current) = place EvaluationEntry.sampledAt (tagged current ⟨sample, current⟩)
          (rows.map (tagged current)) := by
      refine map_place ?_ _ rows
      exact fun _ => rfl
    rw [insertionSort_concat bySampledAt_refines fun _ _ hle => hle, hsorted, hmap, hcurrent]
  unfold buildEvaluationSequence
  dsimp only
  rw [show (rows.map fun entry => entry.sample).map (fun row => EvaluationEntry.mk row false) =
    rows.map (tagged current) from htagged, hplaced]
  have hcut : ((place StoredTelemetrySample.sampledAt ⟨sample, current⟩ rows).map
      (tagged current)).rtake retentionCap =
      ((place StoredTelemetrySample.sampledAt ⟨sample, current⟩ rows).rtake retentionCap).map
        (tagged current) := by
    rw [List.rtake, List.rtake, List.map_drop, List.length_map]
  rw [hcut, List.filter_map, List.map_map]
  rfl

/-- **Cut off before or after the placement**: where the sample is older than the window,
nothing is evaluated before it either way. -/
theorem filter_isBefore_eq {rows : List StoredTelemetrySample} {cutoff : Timestamp} {current : ℕ}
    (hrows : Window.InOrder StoredTelemetrySample.sampledAt rows) (sample : TelemetrySample) :
    ((place StoredTelemetrySample.sampledAt ⟨sample, current⟩
        (rows.filter (since cutoff))).rtake retentionCap).filter (isBefore sample current) =
      (((place StoredTelemetrySample.sampledAt ⟨sample, current⟩ rows).filter
        (since cutoff)).rtake retentionCap).filter (isBefore sample current) := by
  by_cases hkept : since cutoff ⟨sample, current⟩ = true
  · rw [filter_place_of_pos hkept]
  · have hold : since cutoff ⟨sample, current⟩ = false := Bool.eq_false_iff.2 hkept
    have hlater : ∀ entry ∈ rows.filter (since cutoff), isBefore sample current entry = false := by
      intro entry hmem
      have hcutoff : cutoff ≤ entry.sampledAt := of_decide_eq_true (List.mem_filter.1 hmem).2
      have hlt : sample.sampledAt < cutoff := not_le.1 (of_decide_eq_false hold)
      rw [isBefore, decide_eq_false (hlt.trans_le hcutoff).not_ge, Bool.false_and]
    rw [filter_place_of_neg hold hrows]
    refine Eq.trans (List.filter_eq_nil_iff.2 fun entry hmem => ?_)
      (List.filter_eq_nil_iff.2 fun entry hmem => ?_).symm
    · rcases mem_place.1 (List.mem_of_mem_drop hmem) with rfl | hrow
      · rw [isBefore, bne_self_eq_false, Bool.and_false]
        exact Bool.false_ne_true
      · rw [hlater entry hrow]
        exact Bool.false_ne_true
    · rw [hlater entry (List.mem_of_mem_drop hmem)]
      exact Bool.false_ne_true

/-! ### The sequence and the rows after the save -/

/-- The rows held after the save that are evaluated before the sample. -/
def retainedBefore (s s' : Session) (sample : TelemetrySample) : List StoredTelemetrySample :=
  (samplesOf s'.store sample.deviceId).filter (isBefore sample s.store.telemetrySequence)

/-- **The evaluation sequence of a sample**: what is retained after its save of what was
there before, up to its time, and then the sample; in order of time. -/
structure EvaluatesRetained (s s' : Session) (sample : TelemetrySample)
    (sequence : List TelemetrySample) : Prop where
  sequence_eq : sequence = ((retainedBefore s s' sample).map fun entry => entry.sample) ++ [sample]
  inOrder : sequence.Pairwise fun a b => a.sampledAt ≤ b.sampledAt
  notNewer : ∀ evaluated ∈ sequence, evaluated.sampledAt ≤ sample.sampledAt
  storedBefore : ∀ entry ∈ retainedBefore s s' sample,
    entry ∈ samplesOf s.store sample.deviceId ∧
      entry ≠ ⟨sample, s.store.telemetrySequence⟩

theorem withSample_eq_place {sample : TelemetrySample} (h : Ordered s sample.deviceId) :
    Memory.withSample s.store sample = place StoredTelemetrySample.sampledAt
      ⟨sample, s.store.telemetrySequence⟩ (samplesOf s.store sample.deviceId) := by
  unfold Memory.withSample
  rw [insertionSort_concat_newest fun old hold => (h.numbered old hold).le,
    List.Pairwise.insertionSort_eq h.inOrder]

/-- The newest time of the device, before and after the save. -/
theorem effectiveWatermark_eq {sample : TelemetrySample} (h : Ordered s sample.deviceId) :
    effectiveWatermark ((samplesOf s.store sample.deviceId).getLast?.map fun entry => entry.sample)
      sample = Memory.watermark s.store sample := by
  have hrows : Window.InOrder StoredTelemetrySample.sampledAt (samplesOf s.store sample.deviceId) :=
    h.inOrder.imp canonicalOrder_refines.le
  have hplaced := sampledAt_getLast_place hrows ⟨sample, s.store.telemetrySequence⟩
  rw [← withSample_eq_place h] at hplaced
  refine Eq.trans ?_ hplaced.symm
  rw [effectiveWatermark, Option.map_map]
  rfl

/-- The session after the save, where the window begins at the cutoff. -/
def saved (s : Session) (sample : TelemetrySample) (cutoff : Timestamp) : Session :=
  s.countTelemetry.setTelemetry sample.deviceId
    (Memory.retained cutoff (Memory.withSample s.store sample)) (Memory.retained_filed cutoff)

/-- What is retained before the sample, as a window of the rows with it among them. -/
theorem retainedBefore_saved {sample : TelemetrySample} (h : Ordered s sample.deviceId)
    (cutoff : Timestamp) :
    retainedBefore s (saved s sample cutoff) sample =
      (((place StoredTelemetrySample.sampledAt ⟨sample, s.store.telemetrySequence⟩
        (samplesOf s.store sample.deviceId)).filter (since cutoff)).rtake retentionCap).filter
          (isBefore sample s.store.telemetrySequence) := by
  unfold retainedBefore saved
  rw [samplesOf_setTelemetry, if_pos rfl, withSample_eq_place h]
  rfl

/-- An entry that is retained before the sample is another one, and not later. -/
theorem of_mem_retainedBefore {sample : TelemetrySample} (h : Ordered s sample.deviceId)
    {cutoff : Timestamp} {entry : StoredTelemetrySample}
    (hmem : entry ∈ retainedBefore s (saved s sample cutoff) sample) :
    entry.sampledAt ≤ sample.sampledAt ∧ entry ∈ samplesOf s.store sample.deviceId ∧
      entry ≠ ⟨sample, s.store.telemetrySequence⟩ := by
  rw [retainedBefore_saved h] at hmem
  obtain ⟨hkept, htest⟩ := List.mem_filter.1 hmem
  rw [isBefore, Bool.and_eq_true, decide_eq_true_iff, bne_iff_ne] at htest
  have hne : entry ≠ ⟨sample, s.store.telemetrySequence⟩ := by
    rintro rfl
    exact htest.2 rfl
  have hplace := mem_place.1 (List.mem_of_mem_filter (List.mem_of_mem_drop hkept))
  exact ⟨htest.1, hplace.resolve_left hne, hne⟩

/-- **The sequence and the rows**, from the cutoff on. -/
theorem evaluatesRetained_of_ordered {sample : TelemetrySample} (h : Ordered s sample.deviceId)
    (cutoff : Timestamp) :
    EvaluatesRetained s (saved s sample cutoff) sample
      (buildEvaluationSequence (((samplesOf s.store sample.deviceId).filter (since cutoff)).map
        fun entry => entry.sample) sample) := by
  have hrows : Window.InOrder StoredTelemetrySample.sampledAt (samplesOf s.store sample.deviceId) :=
    h.inOrder.imp canonicalOrder_refines.le
  have hsequence : buildEvaluationSequence
      (((samplesOf s.store sample.deviceId).filter (since cutoff)).map fun entry => entry.sample)
      sample = ((retainedBefore s (saved s sample cutoff) sample).map fun entry => entry.sample) ++
        [sample] := by
    have hnumbered : ∀ entry ∈ (samplesOf s.store sample.deviceId).filter (since cutoff),
        entry.insertionSequence < s.store.telemetrySequence :=
      fun entry hmem => h.numbered entry (List.mem_of_mem_filter hmem)
    rw [buildEvaluationSequence_stored (hrows.filter _) hnumbered, filter_isBefore_eq hrows,
      retainedBefore_saved h]
  refine ⟨hsequence, ?_, ?_, fun entry hmem => (of_mem_retainedBefore h hmem).2⟩
  · rw [hsequence, List.pairwise_append]
    refine ⟨?_, List.pairwise_singleton .., fun a ha b hb => ?_⟩
    · rw [List.pairwise_map, retainedBefore_saved h]
      exact (((place_inOrder hrows).filter _).drop).filter _
    · obtain ⟨entry, hmem, rfl⟩ := List.mem_map.1 ha
      rw [List.mem_singleton.1 hb]
      exact (of_mem_retainedBefore h hmem).1
  · intro evaluated hmem
    rw [hsequence] at hmem
    rcases List.mem_append.1 hmem with hmem | hmem
    · obtain ⟨entry, hentry, rfl⟩ := List.mem_map.1 hmem
      exact (of_mem_retainedBefore h hentry).1
    · rw [List.mem_singleton.1 hmem]

/-! ### An ingestion -/

/-- An ingestion evaluates what its reads give. -/
theorem body_eq_readEvaluationSequence (samples : TelemetryRepository) (ids : IdFactory)
    (command : TelemetryIngestionCommand) :
    body samples ids command = (do
      let device ← Memory.getDevice command.deviceId
      raiseIf device.isNone (Error.deviceNotFound command.deviceId)
      let evaluationSequence ← readEvaluationSequence samples command
      afterReads samples ids command evaluationSequence) := by
  unfold body readEvaluationSequence afterReads
  simp only [bind_assoc, pure_bind]

theorem getLatestTelemetry_run (deviceId : String) :
    (Memory.telemetryRepository.getLatest deviceId).run s =
      .ok ((samplesOf s.store deviceId).getLast?.map fun entry => entry.sample) s := rfl

theorem getRecentTelemetry_run (deviceId : String) (cutoff : Timestamp) :
    (Memory.telemetryRepository.getRecent deviceId cutoff).run s =
      .ok (((samplesOf s.store deviceId).filter (since cutoff)).map fun entry => entry.sample)
        s := rfl

/-- **What is evaluated is what will be retained.**  After any run of saves, the evaluation
sequence of a command is what its own save retains up to the time of the sample, and then
the sample; unless the window would begin before year 1, where the save raises as well.
An ingestion evaluates that sequence. -/
theorem evaluates_retained (h : Reachable s) (command : TelemetryIngestionCommand) :
    (∀ ids, body Memory.telemetryRepository ids command = (do
      let device ← Memory.getDevice command.deviceId
      raiseIf device.isNone (Error.deviceNotFound command.deviceId)
      let evaluationSequence ← readEvaluationSequence Memory.telemetryRepository command
      afterReads Memory.telemetryRepository ids command evaluationSequence)) ∧
    ((∃ e, (readEvaluationSequence Memory.telemetryRepository command).run s = .error e s ∧
      (Memory.saveTelemetry command.deviceId command.sample).run s =
        .error e s.countTelemetry) ∨
    ∃ sequence s', (readEvaluationSequence Memory.telemetryRepository command).run s =
        .ok sequence s ∧
      (Memory.saveTelemetry command.deviceId command.sample).run s = .ok () s' ∧
      EvaluatesRetained s s' command.sample sequence) := by
  refine ⟨fun ids => body_eq_readEvaluationSequence _ ids command, ?_⟩
  have hordered := h.ordered command.sample.deviceId
  have hwatermark := effectiveWatermark_eq hordered
  -- The reads come down to the cutoff, and it is the cutoff of the save.
  cases hcutoff : subtractDelta (Memory.watermark s.store command.sample) retentionWindow with
  | error e =>
      refine Or.inl ⟨e, ?_, ?_⟩
      · unfold readEvaluationSequence
        rw [EStateM.run_bind, command.deviceId_eq, getLatestTelemetry_run]
        exact check_bind_of_error (hwatermark ▸ hcutoff) _ s
      · rw [command.deviceId_eq]
        unfold Memory.saveTelemetry
        rw [raiseIf_bind_of_not (not_not.2 rfl), get_bind, modify_bind, check_bind_of_error hcutoff]
  | ok cutoff =>
      refine Or.inr ⟨_, saved s command.sample cutoff, ?_, ?_,
        evaluatesRetained_of_ordered hordered cutoff⟩
      · unfold readEvaluationSequence
        rw [EStateM.run_bind, command.deviceId_eq, getLatestTelemetry_run]
        refine (check_bind_of_ok (hwatermark ▸ hcutoff) _ s).trans ?_
        rw [EStateM.run_bind, getRecentTelemetry_run]
        rfl
      · rw [command.deviceId_eq]
        exact Memory.saveTelemetry_run hcutoff

/-- The session after samples at 15, 5 and 10 minutes. -/
def lateSession : Session :=
  (Memory.saveAll ([900000000, 300000000, 600000000].map fun t =>
    ("lab1-leaf-1", (leafSample t).sample)) ⟨.empty, 0, 0⟩).2

/-- A sample taken before the newest is evaluated with the older one that is kept. -/
theorem evaluates_retained_late : ∃ sequence s',
    (readEvaluationSequence Memory.telemetryRepository (leafSample 700000000)).run lateSession =
        .ok sequence lateSession ∧
      (Memory.saveTelemetry "lab1-leaf-1" (leafSample 700000000).sample).run lateSession =
        .ok () s' ∧
      EvaluatesRetained lateSession s' (leafSample 700000000).sample sequence := by
  refine (evaluates_retained ⟨_, _, rfl, rfl⟩ (leafSample 700000000)).2.resolve_left ?_
  rintro ⟨e, herror, -⟩
  exact nomatch herror

end TelemetryIngestion
end MetaRne
