/-
# The versions of an incident

In a run of a repository an incident goes through versions: it is opened, counts
further observations, and is resolved.  A later version `Follows` an earlier one: it is
the same one, or the earlier one was open and the later one is resolved or has the
higher count, and was not updated before it.

`incidentAfter` is the version after some calls of the run; `incidentAfter_follows`
compares any two, and `updatedAt_le_of_dated` bounds the timestamps of a run whose
calls carry datetimes.
-/

import MetaRne.Persistence.IncidentRuns

namespace MetaRne

open Library Library.Effect Library.Runs Python

/-- **A later version of an incident.** -/
def Incident.Follows (i j : Incident) : Prop :=
  i = j ∨ (i.status = .open ∧ i.updatedAt ≤ j.updatedAt ∧
    (j.status = .resolved ∨ (j.status = .open ∧ i.occurrenceCount < j.occurrenceCount)))

theorem Incident.Follows.trans {i j k : Incident} (h : i.Follows j) (h' : j.Follows k) :
    i.Follows k := by
  rcases h with rfl | ⟨hopen, hle, hstep⟩
  · exact h'
  · rcases h' with rfl | ⟨hopen', hle', hstep'⟩
    · exact .inr ⟨hopen, hle, hstep⟩
    · refine .inr ⟨hopen, hle.trans hle', ?_⟩
      have hlt : i.occurrenceCount < j.occurrenceCount := by
        rcases hstep with hresolved | ⟨-, hlt⟩
        · rw [hopen'] at hresolved
          cases hresolved
        · exact hlt
      exact hstep'.imp_right fun h => ⟨h.1, hlt.trans h.2⟩

/-- A ledger goes on: every incident that is there is there later, in a version that follows. -/
def Advances (d d' : Dict String Incident) : Prop :=
  ∀ id i, d.get? id = some i → ∃ j, d'.get? id = some j ∧ i.Follows j

theorem Advances.refl (d : Dict String Incident) : Advances d d :=
  fun _ i h => ⟨i, h, .inl rfl⟩

theorem Advances.trans {d d' d'' : Dict String Incident} (h : Advances d d')
    (h' : Advances d' d'') : Advances d d'' := by
  intro id i hi
  obtain ⟨j, hj, hij⟩ := h id i hi
  obtain ⟨k, hk, hjk⟩ := h' id j hj
  exact ⟨k, hk, hij.trans hjk⟩

/-- Writing the next version of an incident, or a new one. -/
theorem Advances.set {d : Dict String Incident} {id : String} {j : Incident}
    (h : ∀ i, d.get? id = some i → i.Follows j) : Advances d (d.set id j) := by
  intro id' i hi
  rw [Dict.get?_set]
  split_ifs with hid
  · subst hid
    exact ⟨j, rfl, h i hi⟩
  · exact ⟨i, hi, .inl rfl⟩

section Steps

variable {backend : Backend} {ids : IdFactory} {s s' : Session} {call : IncidentCall}
  {reply : IncidentReply}

theorem UpsertStep.advances {c : IncidentCandidate} {r : IncidentUpsertResult}
    (h : UpsertStep ids c s r s') (hs : LedgerInvariant ids s) :
    Advances s.store.incidents s'.store.incidents := by
  cases h with
  | created hnone hdevice =>
      refine Advances.set fun i hi => ?_
      change s.store.incidents.get? _ = some i at hi
      rw [hs.get?_next] at hi
      cases hi
  | updated existing s₁ hdrawn hopen hle =>
      obtain ⟨hget, ho, -⟩ := hs.get?_of_findOpen hopen
      have hstore : s₁.store = s.store := SameStore.store_eq hdrawn
      have hupdated : existing.updatedAt ≤ c.observedAt := by
        rw [(hs.well_kept hget).updatedAt_of_open ho]
        exact hle
      change Advances _ (s₁.store.incidents.set _ _)
      rw [hstore]
      refine Advances.set fun i hi => ?_
      rw [hget, Option.some.injEq] at hi
      subst hi
      exact .inr ⟨ho, hupdated, .inr ⟨ho, Nat.lt_succ_self _⟩⟩

theorem ResolveStep.advances {incidentId : String} {resolvedAt : Datetime} {r : Option Incident}
    (h : ResolveStep incidentId resolvedAt s r s') :
    Advances s.store.incidents s'.store.incidents := by
  cases h with
  | unknown hnone => exact .refl _
  | already existing hsome hresolved => exact .refl _
  | resolved existing t hinstant hsome hopen hle =>
      refine Advances.set fun i hi => ?_
      rw [hsome, Option.some.injEq] at hi
      subst hi
      exact .inr ⟨hopen, hle, .inl rfl⟩

/-- **Every call takes the incidents on.** -/
theorem Answered.advances (h : Answered ids s call reply s') (hs : LedgerInvariant ids s) :
    Advances s.store.incidents s'.store.incidents := by
  cases h with
  | upserted hmatch hstep => exact hstep.advances hs
  | resolved hstep => exact hstep.advances
  | raised hsame =>
      rw [hsame.store_eq]
      exact .refl _

/-! ### Dates -/

/-- The time that a call carries is one that a datetime can have. -/
def IncidentCall.Dated : IncidentCall → Prop
  | .upsert candidate _ _ => candidate.observedAt ≤ maxTimestamp
  | .resolve _ resolvedAt => ∀ t : Timestamp, resolvedAt.instant? = some (t : ℤ) → t ≤ maxTimestamp

/-- Every incident was updated at a time that a datetime can have. -/
def UpdatesDated (incidents : Dict String Incident) : Prop :=
  ∀ id i, incidents.get? id = some i → i.updatedAt ≤ maxTimestamp

theorem UpdatesDated.set {d : Dict String Incident} (hd : UpdatesDated d) {id : String}
    {j : Incident} (h : j.updatedAt ≤ maxTimestamp) : UpdatesDated (d.set id j) := by
  intro id' i hi
  rw [Dict.get?_set] at hi
  split_ifs at hi with hid
  · rw [← Option.some.inj hi]
    exact h
  · exact hd id' i hi

theorem Answered.updatesDated (h : Answered ids s call reply s')
    (hs : UpdatesDated s.store.incidents) (hcall : call.Dated) :
    UpdatesDated s'.store.incidents := by
  cases h with
  | upserted hmatch hstep =>
      cases hstep with
      | created hnone hdevice => exact UpdatesDated.set hs hcall
      | updated existing s₁ hdrawn hopen hle =>
          have hstore : s₁.store = s.store := SameStore.store_eq hdrawn
          change UpdatesDated (s₁.store.incidents.set _ _)
          rw [hstore]
          exact UpdatesDated.set hs hcall
  | resolved hstep =>
      cases hstep with
      | unknown hnone => exact hs
      | already existing hsome hresolved => exact hs
      | resolved existing t hinstant hsome hopen hle => exact UpdatesDated.set hs (hcall t hinstant)
  | raised hsame =>
      rw [hsame.store_eq]
      exact hs

end Steps

/-! ### Runs -/

section Runs

variable {backend : Backend} {ids : IdFactory} {s : Session}

/-- The version of an incident after the first `n` calls. -/
def incidentAfter (backend : Backend) (ids : IdFactory) (calls : List IncidentCall) (s : Session)
    (n : ℕ) (id : String) : Option Incident :=
  (sessionAfter backend ids (calls.take n) s).store.incidents.get? id

/-- More calls take the incidents on. -/
theorem advances_append (hempty : s.store.incidents = .empty) (before after : List IncidentCall) :
    Advances (sessionAfter backend ids before s).store.incidents
      (sessionAfter backend ids (before ++ after) s).store.incidents := by
  induction after using List.reverseRecOn with
  | nil =>
      rw [List.append_nil]
      exact .refl _
  | append_singleton after call ih =>
      have hs := sessionAfter_ledger backend ids hempty (before ++ after)
      have hnext : sessionAfter backend ids (before ++ (after ++ [call])) s =
          (answer backend ids call (sessionAfter backend ids (before ++ after) s)).2 := by
        rw [sessionAfter, ← List.append_assoc, serve_concat]
        rfl
      rw [hnext]
      exact ih.trans ((answered backend hs call).advances hs)

/-- **Any two versions of a run**: an incident that is there after some calls is there after
more of them, in a version that follows. -/
theorem incidentAfter_follows (hempty : s.store.incidents = .empty) (calls : List IncidentCall)
    {m n : ℕ} (hmn : m ≤ n) {id : String} {i : Incident}
    (hi : incidentAfter backend ids calls s m id = some i) :
    ∃ j, incidentAfter backend ids calls s n id = some j ∧ i.Follows j := by
  have htake : calls.take n = calls.take m ++ (calls.take n).drop m := by
    rw [← min_eq_left hmn, ← List.take_take, min_eq_left hmn, List.take_append_drop]
  have hadvances := @advances_append backend ids s hempty (calls.take m) ((calls.take n).drop m)
  rw [← htake] at hadvances
  exact hadvances id i hi

/-- In a run whose calls carry datetimes every version was updated at one. -/
theorem updatedAt_le_of_dated (hempty : s.store.incidents = .empty) {calls : List IncidentCall}
    (hdated : ∀ call ∈ calls, call.Dated) {n : ℕ} {id : String} {i : Incident}
    (hi : incidentAfter backend ids calls s n id = some i) : i.updatedAt ≤ maxTimestamp := by
  have hstart : UpdatesDated s.store.incidents := by
    rw [hempty]
    intro id i hi
    cases hi
  have hrun := serve_invariant (answer backend ids) (s := s)
    (P := fun _ s₁ => LedgerInvariant ids s₁ ∧ UpdatesDated s₁.store.incidents)
    (calls.take n) ⟨.of_empty ids hempty, hstart⟩ fun _ s₁ call hcall h => by
      have hanswered := answered backend h.1 call
      exact ⟨hanswered.invariant h.1,
        hanswered.updatesDated h.2 (hdated call (List.mem_of_mem_take hcall))⟩
  exact hrun.2 id i hi

end Runs

end MetaRne
