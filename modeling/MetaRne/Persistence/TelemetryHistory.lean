/-
# Retention does not depend on the history

A run of saves to the in-memory telemetry repository, of any devices in any order
of time, logs the entries whose save returned (`saveAll`).  The repository prunes
after each save; what it holds at the end is what pruning the whole log once would
leave (`retention_historyIndependent`).

The step is `HoldsPruned.retained_eq`: what was forgotten before would be forgotten
again.  A save that raises, of another device's sample or with a window before year
1, keeps what is held.
-/

import MetaRne.Persistence.TelemetryRetention

namespace MetaRne
namespace Memory

open Library Library.Effect Library.Window Python

/-- A run of saves: the entries of those that returned, and the session after all. -/
def saveAll : List (String × TelemetrySample) → Session → List StoredTelemetrySample × Session
  | [], s => ([], s)
  | call :: calls, s =>
    match (saveTelemetry call.1 call.2).run s with
    | .ok () s' =>
      let rest := saveAll calls s'
      (⟨call.2, s.store.telemetrySequence⟩ :: rest.1, rest.2)
    | .error _ s' => saveAll calls s'

/-- The entries of a device. -/
def ofDevice (deviceId : String) (history : List StoredTelemetrySample) :
    List StoredTelemetrySample :=
  history.filter fun entry => entry.sample.deviceId = deviceId

/-- The newest time of some entries. -/
def newest (history : List StoredTelemetrySample) : Timestamp :=
  (history.map StoredTelemetrySample.sampledAt).foldr max 0

/-- The history pruned once: in order, the last hundred of the entries that are not
older than five minutes before the newest. -/
def prunedOnce (history : List StoredTelemetrySample) : List StoredTelemetrySample :=
  ((history.insertionSort canonicalOrder).filter fun entry =>
    newest history ≤ entry.sampledAt + retentionWindow).rtake retentionCap

theorem le_newest {history : List StoredTelemetrySample} {entry : StoredTelemetrySample}
    (h : entry ∈ history) : entry.sampledAt ≤ newest history := by
  induction history with
  | nil => exact absurd h List.not_mem_nil
  | cons first rest ih =>
      rcases List.mem_cons.1 h with rfl | h
      · exact le_max_left _ _
      · exact (ih h).trans (le_max_right _ _)

theorem newest_le {history : List StoredTelemetrySample} {t : Timestamp}
    (h : ∀ entry ∈ history, entry.sampledAt ≤ t) : newest history ≤ t := by
  induction history with
  | nil => exact Nat.zero_le t
  | cons first rest ih =>
      obtain ⟨hfirst, hrest⟩ := List.forall_mem_cons.1 h
      exact max_le hfirst (ih hrest)

/-- The cutoff is taken from the newest entry. -/
theorem cutoffOf_insertionSort (history : List StoredTelemetrySample) :
    cutoffOf (history.insertionSort canonicalOrder) = newest history - retentionWindow := by
  have hsorted : Window.InOrder StoredTelemetrySample.sampledAt
      (history.insertionSort canonicalOrder) := insertionSort_inOrder canonicalOrder_refines history
  have hmem : ∀ entry, entry ∈ history.insertionSort canonicalOrder ↔ entry ∈ history :=
    fun entry => List.mem_insertionSort canonicalOrder
  unfold cutoffOf
  cases hlast : (history.insertionSort canonicalOrder).getLast? with
  | none =>
      have hnil := List.getLast?_eq_none_iff.1 hlast
      have hnone : ∀ entry ∈ history, entry.sampledAt ≤ 0 := fun entry hentry => by
        rw [← hmem, hnil] at hentry
        exact absurd hentry List.not_mem_nil
      rw [Nat.le_zero.1 (newest_le hnone)]
      rfl
  | some last =>
      have hnewest : newest history = last.sampledAt :=
        le_antisymm
          (newest_le fun entry hentry => sampledAt_le_getLast hsorted hlast ((hmem entry).2 hentry))
          (le_newest ((hmem last).1 (List.mem_of_getLast? hlast)))
      rw [hnewest, Option.map_some, Option.getD_some]

theorem prunedOnce_eq_pruned (history : List StoredTelemetrySample) :
    prunedOnce history = pruned (history.insertionSort canonicalOrder) := by
  have htest : since (newest history - retentionWindow) =
      fun entry => decide (newest history ≤ entry.sampledAt + retentionWindow) := by
    funext entry
    unfold since
    rw [decide_eq_decide]
    exact Nat.sub_le_iff_le_add
  unfold prunedOnce pruned window
  rw [cutoffOf_insertionSort, htest]

/-! ### One save -/

/-- What is held after a run of saves with this log. -/
structure HoldsHistory (s : Session) (history : List StoredTelemetrySample) : Prop where
  numbered : ∀ entry ∈ history, entry.insertionSequence < s.store.telemetrySequence
  samples : ∀ deviceId, samplesOf s.store deviceId =
    pruned ((ofDevice deviceId history).insertionSort canonicalOrder)

theorem HoldsHistory.holdsPruned {s : Session} {history : List StoredTelemetrySample}
    (h : HoldsHistory s history) (deviceId : String) :
    HoldsPruned s.store deviceId (ofDevice deviceId history) where
  samples := h.samples deviceId
  numbered := fun entry hmem => h.numbered entry (List.mem_of_mem_filter hmem)

/-- **What a save does**: a save of another device's sample does nothing, and one whose
window would begin before year 1 only takes a number. -/
theorem saveTelemetry_cases (s : Session) (deviceId : String) (sample : TelemetrySample) :
    (∃ e, (saveTelemetry deviceId sample).run s = .error e s) ∨
    (∃ e, (saveTelemetry deviceId sample).run s = .error e s.countTelemetry) ∨
    (deviceId = sample.deviceId ∧ (saveTelemetry deviceId sample).run s =
      .ok () (s.countTelemetry.setTelemetry sample.deviceId
        (retained (watermark s.store sample - retentionWindow) (withSample s.store sample))
        (retained_filed _))) := by
  by_cases hsame : deviceId = sample.deviceId
  · subst hsame
    cases hcutoff : subtractDelta (watermark s.store sample) retentionWindow with
    | ok cutoff =>
        have hrun := saveTelemetry_run hcutoff
        rw [(subtractDelta_eq_ok.1 hcutoff).2] at hrun
        exact Or.inr (Or.inr ⟨rfl, hrun⟩)
    | error e =>
        refine Or.inr (Or.inl ⟨e, ?_⟩)
        unfold saveTelemetry
        rw [raiseIf_bind_of_not (not_not.2 rfl), get_bind, modify_bind, check_bind_of_error hcutoff]
  · exact Or.inl ⟨_, check_bind_of_error (if_pos hsame) _ s⟩

theorem HoldsHistory.countTelemetry {s : Session} {history : List StoredTelemetrySample}
    (h : HoldsHistory s history) : HoldsHistory s.countTelemetry history where
  numbered := fun entry hmem => (h.numbered entry hmem).trans (Nat.lt_succ_self _)
  samples := h.samples

/-- **A save that returns keeps what is held the pruned log.** -/
theorem HoldsHistory.save {s : Session} {history : List StoredTelemetrySample}
    (h : HoldsHistory s history) (sample : TelemetrySample) :
    HoldsHistory (s.countTelemetry.setTelemetry sample.deviceId
        (retained (watermark s.store sample - retentionWindow) (withSample s.store sample))
        (retained_filed _))
      (history ++ [⟨sample, s.store.telemetrySequence⟩]) where
  numbered := by
    intro entry hmem
    show entry.insertionSequence < s.store.telemetrySequence + 1
    rcases List.mem_append.1 hmem with hold | hnew
    · exact (h.numbered entry hold).trans (Nat.lt_succ_self _)
    · rw [List.mem_singleton.1 hnew]
      exact Nat.lt_succ_self _
  samples := by
    intro deviceId
    rw [samplesOf_setTelemetry]
    split_ifs with hdevice
    · subst hdevice
      have hlog : ofDevice sample.deviceId (history ++ [⟨sample, s.store.telemetrySequence⟩]) =
          ofDevice sample.deviceId history ++ [⟨sample, s.store.telemetrySequence⟩] := by
        unfold ofDevice
        rw [List.filter_append, List.filter_singleton, decide_eq_true rfl]
        rfl
      rw [hlog, (h.holdsPruned sample.deviceId).retained_eq]
    · have hlog : ofDevice deviceId (history ++ [⟨sample, s.store.telemetrySequence⟩]) =
          ofDevice deviceId history := by
        unfold ofDevice
        rw [List.filter_append, List.filter_singleton, decide_eq_false (Ne.symm hdevice)]
        exact List.append_nil _
      rw [hlog]
      exact h.samples deviceId

/-! ### Any run -/

/-- What was held stays the pruned log, through any saves. -/
theorem HoldsHistory.saveAll {s : Session} {history : List StoredTelemetrySample}
    (h : HoldsHistory s history) (calls : List (String × TelemetrySample)) :
    HoldsHistory (saveAll calls s).2 (history ++ (saveAll calls s).1) := by
  induction calls generalizing s history with
  | nil =>
      rw [Memory.saveAll, List.append_nil]
      exact h
  | cons call calls ih =>
      unfold Memory.saveAll
      rcases saveTelemetry_cases s call.1 call.2 with ⟨e, hrun⟩ | ⟨e, hrun⟩ | ⟨-, hrun⟩
      · simp only [hrun]
        exact ih h
      · simp only [hrun]
        exact ih h.countTelemetry
      · simp only [hrun]
        have hrest := ih (h.save call.2)
        rw [List.append_assoc] at hrest
        exact hrest

theorem holdsHistory_of_empty {s : Session} (h : s.store.telemetrySamples = .empty) :
    HoldsHistory s [] where
  numbered := nofun
  samples := fun deviceId => by
    rw [samplesOf, h]
    rfl

/-- **Retention is independent of the history.**  From an empty repository, after any
saves, the samples held of each device are those that pruning the whole log once would
leave; and one more save keeps those of every other device. -/
theorem retention_historyIndependent {s : Session} (hempty : s.store.telemetrySamples = .empty)
    (calls : List (String × TelemetrySample)) :
    (∀ deviceId, samplesOf (saveAll calls s).2.store deviceId =
      prunedOnce (ofDevice deviceId (saveAll calls s).1)) ∧
    ∀ (call : String × TelemetrySample) (deviceId : String), deviceId ≠ call.1 →
      samplesOf (final (saveTelemetry call.1 call.2) (saveAll calls s).2).store deviceId =
        samplesOf (saveAll calls s).2.store deviceId := by
  have hholds := (holdsHistory_of_empty hempty).saveAll calls
  rw [List.nil_append] at hholds
  refine ⟨fun deviceId => ?_, fun call deviceId hother => ?_⟩
  · rw [prunedOnce_eq_pruned]
    exact hholds.samples deviceId
  · rcases saveTelemetry_cases (saveAll calls s).2 call.1 call.2 with
      ⟨e, hrun⟩ | ⟨e, hrun⟩ | ⟨hsame, hrun⟩
    · rw [final_of_error hrun]
    · rw [final_of_error hrun]
      rfl
    · rw [final_of_ok hrun, samplesOf_setTelemetry, if_neg (hsame ▸ hother)]
      rfl

/-- A quiet sample of `r1`, at a time. -/
def idleSample (sampledAt : Timestamp) : TelemetrySample :=
  ⟨"r1", sampledAt, .finite 2, .finite 3, .finite 0, [], [], not_isBlank_r1, isPercentage_two,
    isPercentage_three⟩

/-- The second sample is too late to be kept, the third is as old as can be, and the
fourth is filed under another device. -/
def lateSaves : List (String × TelemetrySample) :=
  [("r1", idleSample 900000000), ("r1", idleSample 599999999), ("r1", idleSample 600000000),
    ("r2", idleSample 900000000), ("r1", idleSample 900000000)]

theorem retention_historyIndependent_late :
    (samplesOf (saveAll lateSaves ⟨.empty, 0, 0⟩).2.store "r1").map (·.insertionSequence) =
        [2, 0, 3] ∧
      samplesOf (saveAll lateSaves ⟨.empty, 0, 0⟩).2.store "r1" =
        prunedOnce (ofDevice "r1" (saveAll lateSaves ⟨.empty, 0, 0⟩).1) :=
  ⟨by decide +kernel, (retention_historyIndependent rfl lateSaves).1 "r1"⟩

end Memory
end MetaRne
