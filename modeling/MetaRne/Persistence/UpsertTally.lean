/-
# A list of upserts, tallied

What a run of upserts does to each incident: the open incident of a fingerprint
counts the upserts of that fingerprint, and nothing else is counted (`Tally`).
So no incident is counted twice exactly when no fingerprint occurs twice
(`Tally.once_iff`), and then the evidence of each finding is there at the end
(`Upserts.evidence_kept`).
-/

import MetaRne.Persistence.IncidentLedger

namespace MetaRne

open Library Library.Effect Python

variable {ids : IdFactory} {s₀ s s' : Session} {cs : List IncidentCandidate}

/-- The candidates of a list, upserted in order. -/
inductive Upserts (ids : IdFactory) : List IncidentCandidate → Session → Session → Prop
  | nil (s : Session) : Upserts ids [] s s
  | concat {cs : List IncidentCandidate} {s₀ s s' : Session} {c : IncidentCandidate}
      {r : IncidentUpsertResult} (h : Upserts ids cs s₀ s) (hstep : UpsertStep ids c s r s') :
      Upserts ids (cs ++ [c]) s₀ s'

/-- The fingerprints of a list of candidates. -/
def fingerprints (cs : List IncidentCandidate) : List String :=
  cs.map IncidentCandidate.fingerprint

/-- How often the incident of an id was counted. -/
def countAt (incidents : Dict String Incident) (id : String) : ℕ :=
  ((incidents.get? id).map IncidentRecord.occurrenceCount).getD 0

/-- **What a list of upserts has counted.** -/
structure Tally (ids : IdFactory) (seen : List String) (s₀ s : Session) : Prop where
  ledger : LedgerInvariant ids s
  evolves : Evolves s₀.store.incidents s.store.incidents
  /-- Every fingerprint seen has an open incident. -/
  opened : ∀ fp ∈ seen, ∃ id i, s.store.incidents.get? id = some i ∧ i.status = .open ∧
    i.fingerprint = fp
  /-- An open incident counts what was seen of its fingerprint, and no other counts anything. -/
  counted : ∀ id i, s.store.incidents.get? id = some i →
    i.occurrenceCount = countAt s₀.store.incidents id +
      if i.status = .open then seen.count i.fingerprint else 0

theorem Tally.nil (hs : LedgerInvariant ids s) : Tally ids [] s s where
  ledger := hs
  evolves := .refl _
  opened := fun _ h => absurd h List.not_mem_nil
  counted := fun id i hi => by
    rw [countAt, hi, List.count_nil, ite_self]
    rfl

/-- **What one upsert writes**: the open incident of its fingerprint, counted once more. -/
structure CountsOne (c : IncidentCandidate) (d d' : Dict String Incident) (key : String)
    (j : Incident) : Prop where
  set : d' = d.set key j
  isOpen : j.status = .open
  fingerprint : j.fingerprint = c.fingerprint
  evidence : j.evidence = c.evidence
  counted : j.occurrenceCount = countAt d key + 1
  before : ∀ i, d.get? key = some i → i.status = .open ∧ i.fingerprint = c.fingerprint
  only : ∀ id i, d.get? id = some i → i.status = .open → i.fingerprint = c.fingerprint → id = key

theorem UpsertStep.countsOne {c : IncidentCandidate} {r : IncidentUpsertResult}
    (h : UpsertStep ids c s r s') (hs : LedgerInvariant ids s) :
    ∃ key j, CountsOne c s.store.incidents s'.store.incidents key j := by
  cases h with
  | created hnone hdevice =>
      have hfresh := hs.get?_next
      refine ⟨ids.next s.incidentIdsDrawn, c.opened (ids.next s.incidentIdsDrawn), rfl, rfl, rfl,
        rfl, ?_, fun i hi => ?_, fun id i hi ho hfp => ?_⟩
      · rw [countAt, hfresh]
        rfl
      · rw [hfresh] at hi
        cases hi
      · exact absurd hfp (findOpenByFingerprint_eq_none.1 hnone id i hi ho)
  | updated existing s₁ hdrawn hopen hle =>
      obtain ⟨hget, ho, hfp⟩ := hs.get?_of_findOpen hopen
      have hstore : s₁.store = s.store := SameStore.store_eq hdrawn
      refine ⟨existing.incidentId, existing.seenAgain c, ?_, ho, hfp, rfl, ?_, fun i hi => ?_,
        fun id i hi hio hifp => ?_⟩
      · change s₁.store.incidents.set _ _ = _
        rw [hstore]
      · rw [countAt, hget]
        rfl
      · rw [hget, Option.some.injEq] at hi
        rw [← hi]
        exact ⟨ho, hfp⟩
      · have hsame : i = existing := hs.unique_open hi hget hio ho (hifp.trans hfp.symm)
        rw [← hsame, hs.filed hi]

theorem CountsOne.get?_eq {c : IncidentCandidate} {d d' : Dict String Incident} {key : String}
    {j : Incident} (h : CountsOne c d d' key j) (id : String) :
    d'.get? id = if id = key then some j else d.get? id := by
  rw [h.set, Dict.get?_set]

/-- **One more upsert**, tallied. -/
theorem Tally.concat {seen : List String} {c : IncidentCandidate} {r : IncidentUpsertResult}
    (h : Tally ids seen s₀ s) (hstep : UpsertStep ids c s r s') :
    Tally ids (seen ++ [c.fingerprint]) s₀ s' := by
  obtain ⟨key, j, hone⟩ := hstep.countsOne h.ledger
  refine ⟨hstep.invariant h.ledger, h.evolves.trans (hstep.evolves h.ledger), ?_, ?_⟩
  · intro fp hfp
    by_cases hsame : fp = c.fingerprint
    · refine ⟨key, j, ?_, hone.isOpen, hone.fingerprint.trans hsame.symm⟩
      rw [hone.get?_eq, if_pos rfl]
    · have hold : fp ∈ seen := (List.mem_append.1 hfp).resolve_right fun hnew =>
        hsame (List.mem_singleton.1 hnew)
      obtain ⟨id, i, hi, ho, hifp⟩ := h.opened fp hold
      refine ⟨id, i, ?_, ho, hifp⟩
      rw [hone.get?_eq, if_neg, hi]
      rintro rfl
      exact hsame (hifp.symm.trans (hone.before i hi).2)
  · intro id i hi
    rw [hone.get?_eq] at hi
    rw [List.count_append, List.count_singleton]
    split_ifs at hi with hid
    · -- the incident that was written
      obtain rfl := Option.some.inj hi
      subst hid
      have hbefore : countAt s.store.incidents id =
          countAt s₀.store.incidents id + seen.count c.fingerprint := by
        rw [countAt]
        cases hget : s.store.incidents.get? id with
        | some old =>
            obtain ⟨ho, hfp⟩ := hone.before old hget
            have hcount := h.counted id old hget
            rw [if_pos ho, hfp] at hcount
            exact hcount
        | none =>
            have hnew : s₀.store.incidents.get? id = none := by
              rw [Option.eq_none_iff_forall_not_mem]
              intro old hold
              obtain ⟨old', hold', -, -⟩ := h.evolves id old hold
              rw [hget] at hold'
              cases hold'
            have hunseen : seen.count c.fingerprint = 0 := by
              rw [List.count_eq_zero]
              intro hmem
              obtain ⟨id', i', hi', ho', hfp'⟩ := h.opened _ hmem
              rw [hone.only id' i' hi' ho' hfp', hget] at hi'
              cases hi'
            rw [hunseen, countAt, hnew]
            rfl
      rw [if_pos hone.isOpen, hone.counted, hone.fingerprint, hbefore, if_pos (beq_self_eq_true _)]
      omega
    · -- another incident
      rw [h.counted id i hi]
      by_cases ho : i.status = .open
      · have hother : c.fingerprint ≠ i.fingerprint := fun hfp =>
          hid (hone.only id i hi ho hfp.symm)
        rw [if_pos ho, if_pos ho, if_neg (by rwa [beq_iff_eq]), Nat.add_zero]
      · rw [if_neg ho, if_neg ho]

/-- **The tally of a list.** -/
theorem Upserts.tally (h : Upserts ids cs s₀ s) (hs : LedgerInvariant ids s₀) :
    Tally ids (fingerprints cs) s₀ s := by
  induction h with
  | nil s => exact .nil hs
  | concat h hstep ih =>
      rw [fingerprints, List.map_append]
      exact (ih hs).concat hstep

/-- No incident is counted more than once. -/
def CountedOnce (d d' : Dict String Incident) : Prop :=
  ∀ id i, d'.get? id = some i → i.occurrenceCount ≤ countAt d id + 1

/-- Of each finding there is an open incident with its evidence. -/
def EvidenceKept (cs : List IncidentCandidate) (d : Dict String Incident) : Prop :=
  ∀ c ∈ cs, ∃ id i, d.get? id = some i ∧ i.status = .open ∧ i.fingerprint = c.fingerprint ∧
    i.evidence = c.evidence

/-- **No incident is counted twice exactly when no fingerprint occurs twice.** -/
theorem Tally.countedOnce_iff {seen : List String} (h : Tally ids seen s₀ s) :
    CountedOnce s₀.store.incidents s.store.incidents ↔ seen.Nodup := by
  rw [List.nodup_iff_count_le_one]
  constructor
  · intro honce fp
    by_cases hfp : fp ∈ seen
    · obtain ⟨id, i, hi, ho, rfl⟩ := h.opened fp hfp
      have hcount := h.counted id i hi
      have hle := honce id i hi
      rw [if_pos ho] at hcount
      omega
    · rw [List.count_eq_zero.2 hfp]
      exact Nat.zero_le 1
  · intro hseen id i hi
    rw [h.counted id i hi]
    split_ifs
    · exact Nat.add_le_add_left (hseen _) _
    · exact Nat.add_le_add_left (Nat.zero_le 1) _

/-- **The evidence of each finding is there at the end**, if no fingerprint occurs twice. -/
theorem Upserts.evidenceKept (h : Upserts ids cs s₀ s) (hs : LedgerInvariant ids s₀)
    (hnodup : (fingerprints cs).Nodup) : EvidenceKept cs s.store.incidents := by
  induction h with
  | nil s => exact fun c hc => absurd hc List.not_mem_nil
  | @concat cs s₀ s s' c r h hstep ih =>
      obtain ⟨key, j, hone⟩ := hstep.countsOne (h.tally hs).ledger
      rw [fingerprints, List.map_append, List.nodup_append] at hnodup
      obtain ⟨hfront, -, hdisjoint⟩ := hnodup
      intro c' hc'
      rcases List.mem_append.1 hc' with hold | hnew
      · obtain ⟨id, i, hi, ho, hfp, hevidence⟩ := ih hs hfront c' hold
        refine ⟨id, i, ?_, ho, hfp, hevidence⟩
        have hother : id ≠ key := by
          rintro rfl
          have hsame : c'.fingerprint = c.fingerprint := hfp.symm.trans (hone.before i hi).2
          exact hdisjoint _ (List.mem_map_of_mem hold) _ (List.mem_singleton_self _) hsame
        rw [hone.get?_eq, if_neg hother, hi]
      · obtain rfl := List.mem_singleton.1 hnew
        refine ⟨key, j, ?_, hone.isOpen, hone.fingerprint, hone.evidence⟩
        rw [hone.get?_eq, if_pos rfl]

end MetaRne
