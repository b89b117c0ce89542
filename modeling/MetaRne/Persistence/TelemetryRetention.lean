/-
# What the in-memory telemetry repository retains

Of the rows of a device, in order, the in-memory repository holds the window
that ends with the newest one: `pruned`.  `Prunes` relates a session over that
repository to one over an unbounded one, which keeps every row.

Saving a sample on either side keeps the relation (`Prunes.save`), and neither
the newest sample nor any window at least as late as the cutoff tells the two
apart (`getLast?_pruned`, `filter_pruned`).
-/

import MetaRne.Library.Window
import MetaRne.Persistence.TelemetryRepository

namespace MetaRne

open Library Library.Effect Library.Window Python

/-- When a stored sample was taken. -/
def StoredTelemetrySample.sampledAt (entry : StoredTelemetrySample) : Timestamp :=
  entry.sample.sampledAt

instance : Std.Total canonicalOrder where
  total a b := by
    rcases lt_trichotomy a.sample.sampledAt b.sample.sampledAt with hlt | heq | hlt
    · exact Or.inl (Or.inl hlt)
    · exact (le_total a.insertionSequence b.insertionSequence).imp (fun hle => Or.inr ⟨heq, hle⟩)
        fun hle => Or.inr ⟨heq.symm, hle⟩
    · exact Or.inr (Or.inl hlt)

instance : IsTrans StoredTelemetrySample canonicalOrder where
  trans a b c := by
    rintro (hab | ⟨hab, hseq⟩) (hbc | ⟨hbc, hseq'⟩)
    · exact Or.inl (hab.trans hbc)
    · exact Or.inl (hab.trans_eq hbc)
    · exact Or.inl (hab.trans_lt hbc)
    · exact Or.inr ⟨hab.trans hbc, hseq.trans hseq'⟩

theorem canonicalOrder_refines : Refines StoredTelemetrySample.sampledAt canonicalOrder where
  of_lt := fun h => Or.inl h
  le := fun h => h.elim le_of_lt fun heq => heq.1.le

/-- A sample taken at the cutoff or later. -/
def since (cutoff : Timestamp) (entry : StoredTelemetrySample) : Bool :=
  cutoff ≤ entry.sampledAt

theorem since_lasting (cutoff : Timestamp) :
    Lasting StoredTelemetrySample.sampledAt (since cutoff) := fun _ _ hle h =>
  decide_eq_true ((of_decide_eq_true h).trans hle)

theorem since_strict {cutoff cutoff' : Timestamp} (hle : cutoff ≤ cutoff')
    (entry : StoredTelemetrySample) (h : since cutoff' entry = true) : since cutoff entry = true :=
  decide_eq_true (hle.trans (of_decide_eq_true h))

/-- Five minutes before the newest of the rows. -/
def cutoffOf (rows : List StoredTelemetrySample) : Timestamp :=
  ((rows.getLast?.map StoredTelemetrySample.sampledAt).getD 0) - retentionWindow

/-- The window that ends with the newest of the rows. -/
def pruned (rows : List StoredTelemetrySample) : List StoredTelemetrySample :=
  window retentionCap (since (cutoffOf rows)) rows

section Rows

variable {rows : List StoredTelemetrySample} {entry : StoredTelemetrySample}

/-- The newest row of an ordered list is at least as late as any. -/
theorem sampledAt_le_getLast (hrows : InOrder StoredTelemetrySample.sampledAt rows)
    {last : StoredTelemetrySample} (hlast : rows.getLast? = some last)
    (hmem : entry ∈ rows) : entry.sampledAt ≤ last.sampledAt := by
  obtain ⟨front, rfl⟩ := List.getLast?_eq_some_iff.1 hlast
  rcases List.mem_append.1 hmem with hmem | hmem
  · exact (List.pairwise_append.1 hrows).2.2 entry hmem last (List.mem_singleton_self last)
  · rw [List.mem_singleton.1 hmem]

/-- Pruning keeps the newest row. -/
theorem getLast?_pruned (hrows : InOrder StoredTelemetrySample.sampledAt rows) :
    (pruned rows).getLast? = rows.getLast? := by
  cases hlast : rows.getLast? with
  | none =>
      rw [List.getLast?_eq_none_iff.1 hlast]
      rfl
  | some last =>
      obtain ⟨dropped, hsplit, -⟩ :=
        exists_window_append (n := retentionCap) (since_lasting (cutoffOf rows)) hrows
      have hkept : last ∈ rows.filter (since (cutoffOf rows)) := by
        refine List.mem_filter.2 ⟨List.mem_of_getLast? hlast, decide_eq_true ?_⟩
        rw [cutoffOf, hlast]
        exact Nat.sub_le _ _
      have hne : pruned rows ≠ [] := fun hnil => by
        have hlen : (pruned rows).length = 0 := by rw [hnil, List.length_nil]
        have hpos : 0 < (rows.filter (since (cutoffOf rows))).length := List.length_pos_of_mem hkept
        have hcap : 0 < retentionCap := by decide
        rw [pruned, window, List.rtake, List.length_drop] at hlen
        omega
      have hsame : (dropped ++ pruned rows).getLast? = (pruned rows).getLast? :=
        List.getLast?_append_of_ne_nil dropped hne
      rw [← hsame, ← hlast]
      exact congrArg List.getLast? hsplit.symm

/-- From a cutoff on that is not earlier, the pruned rows are the last of all rows. -/
theorem filter_pruned (hrows : InOrder StoredTelemetrySample.sampledAt rows) {cutoff : Timestamp}
    (hle : cutoffOf rows ≤ cutoff) :
    (pruned rows).filter (since cutoff) = (rows.filter (since cutoff)).rtake retentionCap :=
  filter_window (since_lasting _) (since_lasting _) (since_strict hle) hrows

/-- The newest row once another is placed among the rows. -/
theorem sampledAt_getLast_place (hrows : InOrder StoredTelemetrySample.sampledAt rows)
    (entry : StoredTelemetrySample) :
    (((place StoredTelemetrySample.sampledAt entry rows).getLast?).map
        StoredTelemetrySample.sampledAt).getD 0 =
      max ((rows.getLast?.map StoredTelemetrySample.sampledAt).getD entry.sampledAt)
        entry.sampledAt := by
  have hplaced := place_inOrder (x := entry) hrows
  obtain ⟨newest, hnewest⟩ : ∃ newest,
      (place StoredTelemetrySample.sampledAt entry rows).getLast? = some newest :=
    Option.ne_none_iff_exists'.1 fun hnone => by
      rw [List.getLast?_eq_none_iff] at hnone
      exact List.not_mem_nil (hnone ▸ mem_place.2 (Or.inl rfl) : entry ∈ [])
  have hentry := sampledAt_le_getLast hplaced hnewest (mem_place.2 (Or.inl rfl))
  have hmem := mem_place.1 (List.mem_of_getLast? hnewest)
  rw [hnewest, Option.map_some, Option.getD_some]
  cases hlast : rows.getLast? with
  | none =>
      rw [List.getLast?_eq_none_iff.1 hlast] at hmem
      rcases hmem with rfl | hmem
      · exact (max_self _).symm
      · exact absurd hmem List.not_mem_nil
  | some last =>
      have hold := sampledAt_le_getLast hplaced hnewest
        (mem_place.2 (Or.inr (List.mem_of_getLast? hlast)))
      rw [Option.map_some, Option.getD_some]
      refine le_antisymm ?_ (max_le hold hentry)
      rcases hmem with rfl | hmem
      · exact le_max_right _ _
      · exact le_max_of_le_left (sampledAt_le_getLast hrows hlast hmem)

/-- **Pruning again after a placement**: placing an entry among the pruned rows, or
among all of them, leaves the same window up to the newest. -/
theorem window_place_pruned (hrows : InOrder StoredTelemetrySample.sampledAt rows)
    (entry : StoredTelemetrySample) :
    window retentionCap (since (cutoffOf (place StoredTelemetrySample.sampledAt entry rows)))
        (place StoredTelemetrySample.sampledAt entry (pruned rows)) =
      pruned (place StoredTelemetrySample.sampledAt entry rows) := by
  have hle : cutoffOf rows ≤ cutoffOf (place StoredTelemetrySample.sampledAt entry rows) := by
    unfold cutoffOf
    rw [sampledAt_getLast_place hrows]
    refine Nat.sub_le_sub_right ?_ retentionWindow
    cases rows.getLast? with
    | none => exact Nat.zero_le _
    | some last => exact le_max_left _ _
  exact window_place (since_lasting _) (since_lasting _) (since_strict hle) hrows entry

end Rows

/-! ### The two repositories side by side -/

/-- A session with the telemetry of another one. -/
def Session.withTelemetry (t s : Session) : Session :=
  { s with store :=
      { s.store with
        telemetrySamples := t.store.telemetrySamples
        telemetrySequence := t.store.telemetrySequence
        samples_filed := t.store.samples_filed } }

/-- **A session that prunes, and one that keeps every row**: they differ in their
telemetry alone, and of every device the one holds the pruned rows of the other. -/
structure Prunes (s t : Session) : Prop where
  rest : t = t.withTelemetry s
  sequence : s.store.telemetrySequence = t.store.telemetrySequence
  numbered : ∀ id, ∀ entry ∈ samplesOf t.store id,
    entry.insertionSequence < t.store.telemetrySequence
  samples : ∀ id, samplesOf s.store id = pruned (Sql.orderedRows t.store id)

theorem Prunes.devices_eq {s t : Session} (h : Prunes s t) : t.store.devices = s.store.devices := by
  rw [h.rest]
  rfl

/-- Two sessions stay side by side whatever happens to the rest of them alike. -/
theorem Prunes.withTelemetry {s s' t : Session} (h : Prunes s t)
    (hsame : s'.store.telemetrySamples = s.store.telemetrySamples ∧
      s'.store.telemetrySequence = s.store.telemetrySequence) :
    Prunes s' (t.withTelemetry s') where
  rest := rfl
  sequence := hsame.2.trans h.sequence
  numbered := h.numbered
  samples := fun id => by
    rw [samplesOf, hsame.1]
    exact h.samples id

theorem samplesOf_setTelemetry (s : Session) (deviceId : String)
    (entries : List StoredTelemetrySample)
    (h : ∀ entry ∈ entries, entry.sample.deviceId = deviceId) (id : String) :
    samplesOf (s.setTelemetry deviceId entries h).store id =
      if id = deviceId then entries else samplesOf s.store id := by
  change ((s.store.telemetrySamples.set deviceId entries).get? id).getD [] = _
  rw [Dict.get?_set]
  split_ifs <;> rfl

theorem orderedRows_inOrder (store : Store) (id : String) :
    InOrder StoredTelemetrySample.sampledAt (Sql.orderedRows store id) :=
  insertionSort_inOrder canonicalOrder_refines _

/-- Pruned rows are in order already. -/
theorem insertionSort_pruned (rows : List StoredTelemetrySample) :
    (pruned (rows.insertionSort canonicalOrder)).insertionSort canonicalOrder =
      pruned (rows.insertionSort canonicalOrder) := by
  refine List.Pairwise.insertionSort_eq ?_
  exact ((List.pairwise_insertionSort canonicalOrder rows).filter _).drop

/-- A row with a later number goes where `place` puts it. -/
theorem insertionSort_concat_newest {rows : List StoredTelemetrySample}
    {entry : StoredTelemetrySample}
    (h : ∀ old ∈ rows, old.insertionSequence ≤ entry.insertionSequence) :
    (rows ++ [entry]).insertionSort canonicalOrder =
      place StoredTelemetrySample.sampledAt entry (rows.insertionSort canonicalOrder) := by
  refine insertionSort_concat canonicalOrder_refines fun old hold hle => ?_
  rcases lt_or_eq_of_le hle with hlt | heq
  · exact Or.inl hlt
  · exact Or.inr ⟨heq, h old hold⟩

/-! ### The rows with a new sample -/

section WithSample

variable {store : Store} {sample : TelemetrySample} {rows : List StoredTelemetrySample}

/-- What is stored of the sample's device is the pruned rows, all numbered before the next. -/
structure HoldsPruned (store : Store) (deviceId : String) (rows : List StoredTelemetrySample) :
    Prop where
  samples : samplesOf store deviceId = pruned (rows.insertionSort canonicalOrder)
  numbered : ∀ entry ∈ rows, entry.insertionSequence < store.telemetrySequence

/-- The stored rows, with the sample among them. -/
theorem HoldsPruned.withSample_eq (h : HoldsPruned store sample.deviceId rows) :
    Memory.withSample store sample =
      place StoredTelemetrySample.sampledAt ⟨sample, store.telemetrySequence⟩
        (pruned (rows.insertionSort canonicalOrder)) := by
  unfold Memory.withSample
  rw [h.samples, insertionSort_concat_newest, insertionSort_pruned]
  intro old hold
  have hmem := (mem_of_mem_window hold).1
  exact (h.numbered old ((List.mem_insertionSort canonicalOrder).1 hmem)).le

/-- All rows, with the sample among them. -/
theorem HoldsPruned.insertionSort_concat (h : HoldsPruned store sample.deviceId rows) :
    (rows ++ [StoredTelemetrySample.mk sample store.telemetrySequence]).insertionSort
        canonicalOrder =
      place StoredTelemetrySample.sampledAt ⟨sample, store.telemetrySequence⟩
        (rows.insertionSort canonicalOrder) :=
  insertionSort_concat_newest fun old hold => (h.numbered old hold).le

/-- The newest time of the device once the sample is stored. -/
theorem HoldsPruned.watermark_eq (h : HoldsPruned store sample.deviceId rows) :
    Memory.watermark store sample =
      max (((rows.insertionSort canonicalOrder).getLast?.map
        StoredTelemetrySample.sampledAt).getD sample.sampledAt) sample.sampledAt := by
  have hrows := insertionSort_inOrder canonicalOrder_refines rows
  have hpruned : InOrder StoredTelemetrySample.sampledAt
      (pruned (rows.insertionSort canonicalOrder)) := (hrows.filter _).drop
  have hplaced := sampledAt_getLast_place hpruned ⟨sample, store.telemetrySequence⟩
  rw [getLast?_pruned hrows, ← h.withSample_eq] at hplaced
  exact hplaced

/-- **What a save retains** is the pruned rows with the new one. -/
theorem HoldsPruned.retained_eq (h : HoldsPruned store sample.deviceId rows) :
    Memory.retained (Memory.watermark store sample - retentionWindow)
        (Memory.withSample store sample) =
      pruned ((rows ++ [StoredTelemetrySample.mk sample store.telemetrySequence]).insertionSort
        canonicalOrder) := by
  have hrows := insertionSort_inOrder canonicalOrder_refines rows
  rw [h.insertionSort_concat, ← window_place_pruned hrows, h.withSample_eq, h.watermark_eq]
  unfold cutoffOf
  rw [sampledAt_getLast_place hrows]
  rfl

end WithSample

section Save

variable {s t : Session} {sample : TelemetrySample}

theorem Prunes.holdsPruned (h : Prunes s t) (deviceId : String) :
    HoldsPruned s.store deviceId (samplesOf t.store deviceId) where
  samples := h.samples deviceId
  numbered := fun entry hmem => h.sequence ▸ h.numbered deviceId entry hmem

/-- The newest time of a device once the sample is stored. -/
theorem Prunes.watermark_eq (h : Prunes s t) (sample : TelemetrySample) :
    Memory.watermark s.store sample =
      max (((Sql.orderedRows t.store sample.deviceId).getLast?.map
        StoredTelemetrySample.sampledAt).getD sample.sampledAt) sample.sampledAt :=
  (h.holdsPruned sample.deviceId).watermark_eq

theorem Memory.saveTelemetry_run {cutoff : Timestamp}
    (h : subtractDelta (Memory.watermark s.store sample) retentionWindow = .ok cutoff) :
    (Memory.saveTelemetry sample.deviceId sample).run s =
      .ok () (s.countTelemetry.setTelemetry sample.deviceId
        (Memory.retained cutoff (Memory.withSample s.store sample))
        (Memory.retained_filed cutoff)) := by
  unfold Memory.saveTelemetry
  rw [raiseIf_bind_of_not (not_not.2 rfl), get_bind, modify_bind, check_bind_of_ok h]
  rfl

theorem Sql.saveTelemetry_run (h : (t.store.devices.get? sample.deviceId).isSome) :
    ∃ hfiled, (Sql.saveTelemetry sample.deviceId sample).run t =
      .ok () (t.countTelemetry.setTelemetry sample.deviceId
        (samplesOf t.store sample.deviceId ++ [⟨sample, t.store.telemetrySequence⟩]) hfiled) := by
  have hknown : ¬(t.store.devices.get? sample.deviceId).isNone := by
    rw [Bool.not_eq_true, Option.isNone_eq_false_iff]
    exact h
  unfold Sql.saveTelemetry
  rw [raiseIf_bind_of_not (not_not.2 rfl), get_bind, raiseIf_bind_of_not hknown, modify_bind]
  exact ⟨_, rfl⟩

/-- **Saving a sample on both sides keeps them side by side**, unless its window
would begin before year 1. -/
theorem Prunes.save (h : Prunes s t)
    (hdevice : (s.store.devices.get? sample.deviceId).isSome)
    (hwindow : retentionWindow ≤ Memory.watermark s.store sample) :
    ∃ s' t', (Memory.saveTelemetry sample.deviceId sample).run s = .ok () s' ∧
      (Sql.saveTelemetry sample.deviceId sample).run t = .ok () t' ∧ Prunes s' t' := by
  have hcutoff : subtractDelta (Memory.watermark s.store sample) retentionWindow =
      .ok (Memory.watermark s.store sample - retentionWindow) :=
    subtractDelta_eq_ok.2 ⟨hwindow, rfl⟩
  have hdevice' : (t.store.devices.get? sample.deviceId).isSome := by
    rw [h.devices_eq]
    exact hdevice
  obtain ⟨hfiled, hsql⟩ := Sql.saveTelemetry_run hdevice'
  refine ⟨_, _, Memory.saveTelemetry_run hcutoff, hsql, ?_, ?_, fun id entry hmem => ?_,
    fun id => ?_⟩
  · have hrest := congrArg (Session.withTelemetry (t.countTelemetry.setTelemetry _ _ hfiled)) h.rest
    exact hrest
  · exact congrArg (· + 1) h.sequence
  · rw [samplesOf_setTelemetry] at hmem
    split_ifs at hmem
    · rcases List.mem_append.1 hmem with hold | hnew
      · exact (h.numbered _ entry hold).trans (Nat.lt_succ_self _)
      · rw [List.mem_singleton.1 hnew]
        exact Nat.lt_succ_self _
    · exact (h.numbered id entry hmem).trans (Nat.lt_succ_self _)
  · unfold Sql.orderedRows
    rw [samplesOf_setTelemetry, samplesOf_setTelemetry]
    split_ifs with hid
    · have hretained := (h.holdsPruned sample.deviceId).retained_eq
      rw [h.sequence] at hretained
      exact hretained
    · exact h.samples id

end Save

end MetaRne
