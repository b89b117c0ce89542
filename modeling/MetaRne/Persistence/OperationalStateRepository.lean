/-
# The latest operational state of a lab

`persistence/operational_state_semantics.py` and the two implementations of
`save_latest`.  One fabric is kept per lab.  A fabric with another collection id
replaces it when it is strictly newer, the very same fabric changes nothing, and
everything else is a conflict or stale.

`SaveStep` is what a save that returns does, and both implementations do it.
-/

import MetaRne.Persistence.Store

namespace MetaRne

open Library Library.Effect Python

inductive LatestWriteDecision
  | replace
  | unchanged
  deriving DecidableEq, Repr

/-- `decide_latest_write`. -/
def decideLatestWrite (labName : String) (stored incoming : FabricOperationalState) :
    Except Error LatestWriteDecision :=
  if incoming.collectionId = stored.collectionId then
    if incoming.collectedAt ≠ stored.collectedAt then
      .error (.operationalStateConflict labName incoming.collectionId
        "the same collection_id was presented with a different collected_at" [])
    else if incoming ≠ stored then
      .error (.operationalStateConflict labName incoming.collectionId
        "the same collection_id and collected_at were presented with a different state" [])
    else .ok .unchanged
  else if stored.collectedAt < incoming.collectedAt then .ok .replace
  else if incoming.collectedAt < stored.collectedAt then
    .error (.staleOperationalState labName incoming.collectionId stored.collectionId)
  else
    .error (.operationalStateConflict labName incoming.collectionId
      ("distinct collection %r has an identical collected_at, " ++
        "so there is no truthful ordering") [stored.collectionId])

/-- `get_latest` of either repository. -/
def getLatestOperationalState (labName : String) : Action (Option FabricOperationalState) := do
  let s ← get
  return s.store.operationalStates.get? labName

namespace Memory

/-- `InMemoryOperationalStateRepository.save_latest`. -/
def saveLatest (fabric : FabricOperationalState) : Action OperationalStateSaveOutcome := do
  let source ← deriveFabricSource fabric
  let s ← get
  match s.store.operationalStates.get? source.labName with
  | none =>
    modify fun s => s.setOperationalState source.labName fabric
    return .created
  | some stored =>
    let decision ← decideLatestWrite source.labName stored fabric
    if decision = .unchanged then
      return .unchanged
    else
      modify fun s => s.setOperationalState source.labName fabric
      return .replaced

end Memory

namespace Sql

/-- `SqlAlchemyOperationalStateRepository.save_latest`: one conditional upsert,
and a second look at the row when it wrote nothing.  The `state` column holds
the fabric itself. -/
def saveLatest (fabric : FabricOperationalState) : Action OperationalStateSaveOutcome := do
  let source ← deriveFabricSource fabric
  let s ← get
  match s.store.operationalStates.get? source.labName with
  | none =>
    modify fun s => s.setOperationalState source.labName fabric
    return .created
  | some row =>
    if row.collectionId ≠ fabric.collectionId ∧ row.collectedAt < fabric.collectedAt then
      modify fun s => s.setOperationalState source.labName fabric
      return .replaced
    else
      match ← getLatestOperationalState source.labName with
      | none => throw (Error.persistence
          "operational state for lab %r vanished during a conflicting upsert")
      | some stored =>
        let decision ← decideLatestWrite source.labName stored fabric
        if decision = .unchanged then
          return .unchanged
        else
          throw (Error.persistence ("operational state for lab %r is older than the incoming " ++
            "collection but the conditional upsert did not apply it"))

end Sql

/-! ### What a save does -/

/-- What a save that returns does. -/
inductive SaveStep (fabric : FabricOperationalState) (s : Session) :
    OperationalStateSaveOutcome → Session → Prop
  | created {source : FabricSourceIdentity} (hsource : deriveFabricSource fabric = .ok source)
      (hnone : s.store.operationalStates.get? source.labName = none) :
      SaveStep fabric s .created (s.setOperationalState source.labName fabric)
  | replaced {source : FabricSourceIdentity} {stored : FabricOperationalState}
      (hsource : deriveFabricSource fabric = .ok source)
      (hsome : s.store.operationalStates.get? source.labName = some stored)
      (hid : stored.collectionId ≠ fabric.collectionId)
      (hlt : stored.collectedAt < fabric.collectedAt) :
      SaveStep fabric s .replaced (s.setOperationalState source.labName fabric)
  | unchanged {source : FabricSourceIdentity} (hsource : deriveFabricSource fabric = .ok source)
      (hsome : s.store.operationalStates.get? source.labName = some fabric) :
      SaveStep fabric s .unchanged s

theorem decideLatestWrite_replace {labName : String} {stored incoming : FabricOperationalState} :
    decideLatestWrite labName stored incoming = .ok .replace ↔
      stored.collectionId ≠ incoming.collectionId ∧
        stored.collectedAt < incoming.collectedAt := by
  unfold decideLatestWrite
  split_ifs with hid htime hstate hlt hgt
  · exact iff_of_false nofun fun h => h.1 hid.symm
  · exact iff_of_false nofun fun h => h.1 hid.symm
  · exact iff_of_false nofun fun h => h.1 hid.symm
  · exact iff_of_true rfl ⟨fun h => hid h.symm, hlt⟩
  · exact iff_of_false nofun fun h => hlt h.2
  · exact iff_of_false nofun fun h => hlt h.2

theorem decideLatestWrite_unchanged {labName : String} {stored incoming : FabricOperationalState} :
    decideLatestWrite labName stored incoming = .ok .unchanged ↔ incoming = stored := by
  unfold decideLatestWrite
  split_ifs with hid htime hstate hlt hgt
  · exact iff_of_false nofun fun h => htime (by rw [h])
  · exact iff_of_false nofun hstate
  · exact iff_of_true rfl (not_not.1 hstate)
  · exact iff_of_false nofun fun h => hid (by rw [h])
  · exact iff_of_false nofun fun h => hid (by rw [h])
  · exact iff_of_false nofun fun h => hid (by rw [h])

variable {fabric : FabricOperationalState} {s s' : Session}

theorem Memory.saveLatest_ok {outcome : OperationalStateSaveOutcome}
    (h : (Memory.saveLatest fabric).run s = .ok outcome s') : SaveStep fabric s outcome s' := by
  unfold Memory.saveLatest at h
  simp only [check_bind_eq_ok, get_bind] at h
  obtain ⟨source, hsource, h⟩ := h
  cases hget : s.store.operationalStates.get? source.labName with
  | none =>
      simp only [hget, modify_bind] at h
      obtain ⟨rfl, rfl⟩ := pure_eq_ok.1 h
      exact .created hsource hget
  | some stored =>
      simp only [hget, check_bind_eq_ok] at h
      obtain ⟨decision, hdecide, h⟩ := h
      split_ifs at h with hun
      · obtain ⟨rfl, rfl⟩ := pure_eq_ok.1 h
        rw [hun, decideLatestWrite_unchanged] at hdecide
        exact .unchanged hsource (hdecide ▸ hget)
      · rw [modify_bind] at h
        obtain ⟨rfl, rfl⟩ := pure_eq_ok.1 h
        have hrep : decision = .replace := by
          cases decision with
          | replace => rfl
          | unchanged => exact absurd rfl hun
        obtain ⟨hid, hlt⟩ := decideLatestWrite_replace.1 (hrep ▸ hdecide)
        exact .replaced hsource hget hid hlt

theorem Memory.saveLatest_error {e : Error}
    (h : (Memory.saveLatest fabric).run s = .error e s') : s' = s := by
  unfold Memory.saveLatest at h
  simp only [check_bind_eq_error, get_bind] at h
  obtain ⟨-, rfl⟩ | ⟨source, -, h⟩ := h
  · rfl
  cases hget : s.store.operationalStates.get? source.labName with
  | none =>
      simp only [hget, modify_bind] at h
      exact absurd h pure_ne_error
  | some stored =>
      simp only [hget, check_bind_eq_error] at h
      obtain ⟨-, rfl⟩ | ⟨decision, -, h⟩ := h
      · rfl
      · split_ifs at h
        · exact absurd h pure_ne_error
        · rw [modify_bind] at h
          exact absurd h pure_ne_error

theorem Sql.saveLatest_ok {outcome : OperationalStateSaveOutcome}
    (h : (Sql.saveLatest fabric).run s = .ok outcome s') : SaveStep fabric s outcome s' := by
  unfold Sql.saveLatest getLatestOperationalState at h
  simp only [check_bind_eq_ok, get_bind] at h
  obtain ⟨source, hsource, h⟩ := h
  cases hget : s.store.operationalStates.get? source.labName with
  | none =>
      simp only [hget, modify_bind] at h
      obtain ⟨rfl, rfl⟩ := pure_eq_ok.1 h
      exact .created hsource hget
  | some row =>
      simp only [hget] at h
      split_ifs at h with hup
      · rw [modify_bind] at h
        obtain ⟨rfl, rfl⟩ := pure_eq_ok.1 h
        exact .replaced hsource hget hup.1 hup.2
      · simp only [bind_assoc, get_bind, hget, pure_bind, check_bind_eq_ok] at h
        obtain ⟨decision, hdecide, h⟩ := h
        split_ifs at h with hun
        · obtain ⟨rfl, rfl⟩ := pure_eq_ok.1 h
          rw [hun, decideLatestWrite_unchanged] at hdecide
          exact .unchanged hsource (hdecide ▸ hget)
        · exact absurd h throw_ne_ok

theorem Sql.saveLatest_error {e : Error}
    (h : (Sql.saveLatest fabric).run s = .error e s') : s' = s := by
  unfold Sql.saveLatest getLatestOperationalState at h
  simp only [check_bind_eq_error, get_bind] at h
  obtain ⟨-, rfl⟩ | ⟨source, -, h⟩ := h
  · rfl
  cases hget : s.store.operationalStates.get? source.labName with
  | none =>
      simp only [hget, modify_bind] at h
      exact absurd h pure_ne_error
  | some row =>
      simp only [hget] at h
      split_ifs at h with hup
      · rw [modify_bind] at h
        exact absurd h pure_ne_error
      · simp only [bind_assoc, get_bind, hget, pure_bind, check_bind_eq_error] at h
        obtain ⟨-, rfl⟩ | ⟨decision, -, h⟩ := h
        · rfl
        · split_ifs at h
          · exact absurd h pure_ne_error
          · exact (throw_eq_error.1 h).2.symm

end MetaRne
