/-
# Reconciling a ledger with an observation

An observation of a whole network finds some keys failing and some recovered.
`Reconciled` is what holding a ledger against it should do: each failing key is
counted once, by its open incident or by a new one, each recovered key has its
open incident resolved, and nothing else is touched.

It starts out true of nothing found (`Reconciled.refl`), and one upsert or one
look at a recovered key adds that key to what is found (`Reconciled.upsert`,
`Reconciled.recover_none`, `Reconciled.recover_open`), so a loop over the
findings of an observation adds them all.
-/

import MetaRne.Persistence.IncidentLedger

namespace MetaRne

open Library Library.Effect Python

/-- The keys that the incidents of a ledger are about. -/
def storedKeys (incidents : Dict String Incident) : Set FindingKey :=
  {key | ∃ id i, incidents.get? id = some i ∧ i.key = key}

/-- **A ledger `d` reconciled with an observation** made at `t`, giving `d'`. -/
structure Reconciled (t : Timestamp) (failing recovered : Set FindingKey)
    (d d' : Dict String Incident) : Prop where
  /-- The open incident of a failing key counts the observation. -/
  counted : ∀ {id i}, d.get? id = some i → i.status = .open → i.key ∈ failing →
    ∃ c : IncidentCandidate, c.observedAt = t ∧ d'.get? id = some (i.seenAgain c)
  /-- The open incident of a recovered key is resolved. -/
  resolved : ∀ {id i}, d.get? id = some i → i.status = .open → i.key ∈ recovered →
    d'.get? id = some (i.resolvedAs t)
  /-- Every other incident is as it was. -/
  kept : ∀ {id i}, d.get? id = some i →
    (i.status = .open → i.key ∉ failing ∧ i.key ∉ recovered) → d'.get? id = some i
  /-- A new incident is one that a failing key opened. -/
  fresh : ∀ {id i'}, d.get? id = none → d'.get? id = some i' →
    ∃ c : IncidentCandidate, c.key ∈ failing ∧ c.observedAt = t ∧ i' = c.opened id
  /-- Every failing key has an open incident. -/
  reported : ∀ key ∈ failing, ∃ id i', d'.get? id = some i' ∧ i'.status = .open ∧ i'.key = key

namespace Reconciled

variable {ids : IdFactory} {t : Timestamp} {failing recovered keys : Set FindingKey}
  {d d' : Dict String Incident} {s s' : Session}

theorem refl (t : Timestamp) (d : Dict String Incident) : Reconciled t ∅ ∅ d d where
  counted := fun _ _ hkey => hkey.elim
  resolved := fun _ _ hkey => hkey.elim
  kept := fun h _ => h
  fresh := fun hnone h => by
    rw [hnone] at h
    cases h
  reported := fun _ hkey => hkey.elim

/-- Where an incident of the new ledger comes from. -/
theorem origin (h : Reconciled t failing recovered d d') {id : String} {j : Incident}
    (hj : d'.get? id = some j) :
    (d.get? id = none ∧ ∃ c : IncidentCandidate, c.key ∈ failing ∧ j = c.opened id) ∨
      ∃ i, d.get? id = some i ∧ i.key = j.key ∧
        (j = i ∨ (i.status = .open ∧ i.key ∈ failing) ∨
          (j.status = .resolved ∧ i.key ∈ recovered)) := by
  cases hd : d.get? id with
  | none =>
      obtain ⟨c, hkey, -, rfl⟩ := h.fresh hd hj
      exact Or.inl ⟨rfl, c, hkey, rfl⟩
  | some i =>
      refine Or.inr ⟨i, rfl, ?_⟩
      by_cases hfound : i.status = .open → i.key ∉ failing ∧ i.key ∉ recovered
      · have hsame := h.kept hd hfound
        rw [hj, Option.some.injEq] at hsame
        exact ⟨by rw [hsame], Or.inl hsame⟩
      · rw [Classical.not_imp, not_and_or, not_not, not_not] at hfound
        obtain ⟨hopen, hkey | hkey⟩ := hfound
        · obtain ⟨c, -, hc⟩ := h.counted hd hopen hkey
          rw [hj, Option.some.injEq] at hc
          subst hc
          exact ⟨rfl, Or.inr (Or.inl ⟨hopen, hkey⟩)⟩
        · have hres := h.resolved hd hopen hkey
          rw [hj, Option.some.injEq] at hres
          subst hres
          exact ⟨rfl, Or.inr (Or.inr ⟨rfl, hkey⟩)⟩

/-- An open incident whose key was not found to fail was there before, as it is,
and its key was not found recovered. -/
theorem of_open (h : Reconciled t failing recovered d d') {id : String} {j : Incident}
    (hj : d'.get? id = some j) (hopen : j.status = .open) (hkey : j.key ∉ failing) :
    d.get? id = some j ∧ j.key ∉ recovered := by
  rcases h.origin hj with ⟨-, c, hc, rfl⟩ | ⟨i, hi, hik, rfl | ⟨-, hf⟩ | ⟨hr, -⟩⟩
  · exact absurd hc hkey
  · refine ⟨hi, fun hrec => ?_⟩
    have hres := h.resolved hi hopen hrec
    rw [hj, Option.some.injEq] at hres
    have hstatus : j.status = .resolved := congrArg IncidentRecord.status hres
    rw [hopen] at hstatus
    cases hstatus
  · exact absurd (hik ▸ hf) hkey
  · rw [hopen] at hr
    cases hr

theorem mem_keys (h : Reconciled t failing recovered d d') (hstored : storedKeys d ⊆ keys)
    (hfailing : failing ⊆ keys) {id : String} {j : Incident} (hj : d'.get? id = some j) :
    j.key ∈ keys := by
  rcases h.origin hj with ⟨-, c, hc, rfl⟩ | ⟨i, hi, hik, -⟩
  · exact hfailing hc
  · exact hstored ⟨id, i, hi, hik⟩

/-- **One upsert** adds its key to the failing ones. -/
theorem upsert (h : Reconciled t failing recovered d s.store.incidents)
    (hs : LedgerInvariant ids s) (hfree : CollisionFree keys) (hstored : storedKeys d ⊆ keys)
    (hfailing : failing ⊆ keys) {c : IncidentCandidate} {r : IncidentUpsertResult}
    (hstep : UpsertStep ids c s r s') (hc : c.key ∈ keys) (hnew : c.key ∉ failing)
    (hnot : c.key ∉ recovered) (ht : c.observedAt = t) :
    Reconciled t (insert c.key failing) recovered d s'.store.incidents := by
  -- an open incident of the key is still the one there was before
  have hbefore : ∀ {id i}, d.get? id = some i → i.status = .open → i.key = c.key →
      s.store.incidents.get? id = some i := fun hi _ hik =>
    h.kept hi fun _ => by rw [hik]; exact ⟨hnew, hnot⟩
  cases hstep with
  | created hnone hdevice =>
      have hget : ∀ id, (s.store.incidents.set (ids.next s.incidentIdsDrawn)
          (c.opened (ids.next s.incidentIdsDrawn))).get? id =
          if id = ids.next s.incidentIdsDrawn then some (c.opened id)
          else s.store.incidents.get? id := fun id => by
        rw [Dict.get?_set]
        split_ifs with hid
        · rw [hid]
        · rfl
      have hfresh : ∀ {id i}, s.store.incidents.get? id = some i →
          id ≠ ids.next s.incidentIdsDrawn := fun hi hid => by
        rw [hid, hs.get?_next] at hi
        cases hi
      constructor
      · intro id i hi hopen hkey
        rcases Set.mem_insert_iff.1 hkey with hkey | hkey
        · have hi' := hbefore hi hopen hkey
          refine absurd ?_ (findOpenByFingerprint_eq_none.1 hnone id i hi' hopen)
          rw [(hs.well_kept hi').fingerprint_eq, hkey]
          rfl
        · obtain ⟨c', hc', hi'⟩ := h.counted hi hopen hkey
          refine ⟨c', hc', (hget id).trans ?_⟩
          rw [if_neg (hfresh hi')]
          exact hi'
      · intro id i hi hopen hkey
        have hi' := h.resolved hi hopen hkey
        refine (hget id).trans ?_
        rw [if_neg (hfresh hi')]
        exact hi'
      · intro id i hi hout
        have hi' := h.kept hi fun hopen =>
          ⟨fun hmem => (hout hopen).1 (Set.mem_insert_of_mem _ hmem), (hout hopen).2⟩
        refine (hget id).trans ?_
        rw [if_neg (hfresh hi')]
        exact hi'
      · intro id j hd hj
        have hj' := (hget id).symm.trans hj
        split_ifs at hj' with hid
        · exact ⟨c, Set.mem_insert _ _, ht, (Option.some.inj hj').symm⟩
        · obtain ⟨c', hkey, hc', hcj⟩ := h.fresh hd hj'
          exact ⟨c', Set.mem_insert_of_mem _ hkey, hc', hcj⟩
      · intro key hkey
        rcases Set.mem_insert_iff.1 hkey with rfl | hkey
        · exact ⟨_, _, (hget _).trans (if_pos rfl), rfl, rfl⟩
        · obtain ⟨id, i, hi, hopen, hik⟩ := h.reported key hkey
          refine ⟨id, i, (hget id).trans ?_, hopen, hik⟩
          rw [if_neg (hfresh hi)]
          exact hi
  | updated existing s₁ hdrawn hfound hle =>
      obtain ⟨hex, hexopen, hfp⟩ := hs.get?_of_findOpen hfound
      have hkeys : existing.key ∈ keys := h.mem_keys hstored hfailing hex
      have hsame : existing.key = c.key :=
        hfree hkeys hc ((hs.well_kept hex).fingerprint_eq.symm.trans hfp)
      have hexd : d.get? existing.incidentId = some existing :=
        (h.of_open hex hexopen (by rw [hsame]; exact hnew)).1
      have hget : ∀ id, (s₁.store.incidents.set existing.incidentId (existing.seenAgain c)).get? id
          = if id = existing.incidentId then some (existing.seenAgain c)
            else s.store.incidents.get? id := fun id => by
        rw [Dict.get?_set, SameStore.store_eq hdrawn]
      have hother : ∀ {id i}, d.get? id = some i → i ≠ existing → id ≠ existing.incidentId :=
        fun hi hne hid => by
          rw [hid, hexd, Option.some.injEq] at hi
          exact hne hi.symm
      constructor
      · intro id i hi hopen hkey
        by_cases hid : id = existing.incidentId
        · rw [hid, hexd, Option.some.injEq] at hi
          subst hi
          exact ⟨c, ht, (hget id).trans (if_pos hid)⟩
        · rcases Set.mem_insert_iff.1 hkey with hkey | hkey
          · have hi' := hbefore hi hopen hkey
            have hfp' : i.fingerprint = existing.fingerprint := by
              rw [(hs.well_kept hi').fingerprint_eq, (hs.well_kept hex).fingerprint_eq, hkey, hsame]
            have heq := hs.unique_open hi' hex hopen hexopen hfp'
            exact absurd ((hs.filed hi').symm.trans (by rw [heq])) hid
          · obtain ⟨c', hc', hi'⟩ := h.counted hi hopen hkey
            exact ⟨c', hc', (hget id).trans ((if_neg hid).trans hi')⟩
      · intro id i hi hopen hkey
        have hne : i ≠ existing := fun heq => hnot (by rw [← hsame, ← heq]; exact hkey)
        exact (hget id).trans ((if_neg (hother hi hne)).trans (h.resolved hi hopen hkey))
      · intro id i hi hout
        have hne : i ≠ existing := fun heq =>
          (hout (by rw [heq]; exact hexopen)).1 (by rw [heq, hsame]; exact Set.mem_insert _ _)
        refine (hget id).trans ((if_neg (hother hi hne)).trans (h.kept hi fun hopen => ?_))
        exact ⟨fun hmem => (hout hopen).1 (Set.mem_insert_of_mem _ hmem), (hout hopen).2⟩
      · intro id j hd hj
        have hj' := (hget id).symm.trans hj
        split_ifs at hj' with hid
        · rw [hid, hexd] at hd
          cases hd
        · obtain ⟨c', hkey, hc', hcj⟩ := h.fresh hd hj'
          exact ⟨c', Set.mem_insert_of_mem _ hkey, hc', hcj⟩
      · intro key hkey
        rcases Set.mem_insert_iff.1 hkey with rfl | hkey
        · exact ⟨_, _, (hget _).trans (if_pos rfl), hexopen, hsame⟩
        · obtain ⟨id, i, hi, hopen, hik⟩ := h.reported key hkey
          refine ⟨id, i, (hget id).trans ((if_neg fun hid => ?_).trans hi), hopen, hik⟩
          rw [hid, hex, Option.some.injEq] at hi
          exact hnew (by rw [← hsame, hi, hik]; exact hkey)

/-- **A recovered key without an open incident** changes nothing. -/
theorem recover_none (h : Reconciled t failing recovered d s.store.incidents)
    (hs : LedgerInvariant ids s) {key : FindingKey} (hnot : key ∉ failing)
    (hnone : findOpenByFingerprint s.store.incidents key.fingerprint = none) :
    Reconciled t failing (insert key recovered) d s.store.incidents where
  counted := h.counted
  resolved := fun {id i} hi hopen hkey => by
    by_cases hrec : i.key ∈ recovered
    · exact h.resolved hi hopen hrec
    · have hik : i.key = key := (Set.mem_insert_iff.1 hkey).resolve_right hrec
      have hi' := h.kept hi fun _ => ⟨by rw [hik]; exact hnot, hrec⟩
      refine absurd ?_ (findOpenByFingerprint_eq_none.1 hnone id i hi' hopen)
      rw [(hs.well_kept hi').fingerprint_eq, hik]
  kept := fun hi hout => h.kept hi fun hopen =>
    ⟨(hout hopen).1, fun hmem => (hout hopen).2 (Set.mem_insert_of_mem _ hmem)⟩
  fresh := h.fresh
  reported := h.reported

/-- **A recovered key with an open incident** has it resolved. -/
theorem recover_open (h : Reconciled t failing recovered d s.store.incidents)
    (hs : LedgerInvariant ids s) (hfree : CollisionFree keys) (hstored : storedKeys d ⊆ keys)
    (hfailing : failing ⊆ keys) {key : FindingKey} (hkey : key ∈ keys) (hnot : key ∉ failing)
    {existing : Incident}
    (hfound : findOpenByFingerprint s.store.incidents key.fingerprint = some existing) :
    Reconciled t failing (insert key recovered) d
      (s.setIncident existing.incidentId (existing.resolvedAs t)).store.incidents := by
  obtain ⟨hex, hexopen, hfp⟩ := hs.get?_of_findOpen hfound
  have hsame : existing.key = key := hfree (h.mem_keys hstored hfailing hex) hkey
    ((hs.well_kept hex).fingerprint_eq.symm.trans hfp)
  obtain ⟨hexd, hexrec⟩ := h.of_open hex hexopen (by rw [hsame]; exact hnot)
  have hget : ∀ id, (s.store.incidents.set existing.incidentId (existing.resolvedAs t)).get? id
      = if id = existing.incidentId then some (existing.resolvedAs t)
        else s.store.incidents.get? id := fun id => Dict.get?_set ..
  have hother : ∀ {id i}, d.get? id = some i → i ≠ existing → id ≠ existing.incidentId :=
    fun hi hne hid => by
      rw [hid, hexd, Option.some.injEq] at hi
      exact hne hi.symm
  constructor
  · intro id i hi hopen hik
    have hne : i ≠ existing := fun heq => hnot (by rw [← hsame, ← heq]; exact hik)
    obtain ⟨c, hc, hi'⟩ := h.counted hi hopen hik
    exact ⟨c, hc, (hget id).trans ((if_neg (hother hi hne)).trans hi')⟩
  · intro id i hi hopen hik
    by_cases hid : id = existing.incidentId
    · rw [hid, hexd, Option.some.injEq] at hi
      subst hi
      exact (hget id).trans (if_pos hid)
    · refine (hget id).trans ((if_neg hid).trans ?_)
      by_cases hrec : i.key ∈ recovered
      · exact h.resolved hi hopen hrec
      · have hik' : i.key = key := (Set.mem_insert_iff.1 hik).resolve_right hrec
        have hi' := h.kept hi fun _ => ⟨by rw [hik']; exact hnot, hrec⟩
        have hfp' : i.fingerprint = existing.fingerprint := by
          rw [(hs.well_kept hi').fingerprint_eq, (hs.well_kept hex).fingerprint_eq, hik', hsame]
        have heq := hs.unique_open hi' hex hopen hexopen hfp'
        exact absurd ((hs.filed hi').symm.trans (by rw [heq])) hid
  · intro id i hi hout
    have hne : i ≠ existing := fun heq =>
      (hout (by rw [heq]; exact hexopen)).2 (by rw [heq, hsame]; exact Set.mem_insert _ _)
    refine (hget id).trans ((if_neg (hother hi hne)).trans (h.kept hi fun hopen => ?_))
    exact ⟨(hout hopen).1, fun hmem => (hout hopen).2 (Set.mem_insert_of_mem _ hmem)⟩
  · intro id j hd hj
    have hj' := (hget id).symm.trans hj
    split_ifs at hj' with hid
    · rw [hid, hexd] at hd
      cases hd
    · exact h.fresh hd hj'
  · intro key' hkey'
    obtain ⟨id, i, hi, hopen, hik⟩ := h.reported key' hkey'
    refine ⟨id, i, (hget id).trans ((if_neg fun hid => ?_).trans hi), hopen, hik⟩
    rw [hid, hex, Option.some.injEq] at hi
    exact hnot (by rw [← hsame, hi, hik]; exact hkey')

end Reconciled
end MetaRne
