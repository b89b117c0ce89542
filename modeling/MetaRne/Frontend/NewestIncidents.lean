/-
# The newest version of an incident

The backend never sends the order of the versions of an incident: the client finds it
in their timestamps, cut to the millisecond, their statuses and their counts.  The
versions of a run are told apart that way (`rank_lt_of_follows`), so of any two the
client keeps the later one, whichever came in first; and lists that were answered at
any points of a run may come in, in any order and repeatedly
(`mergeIncidentLists_newest`).
-/

import MetaRne.Application.Queries
import MetaRne.Frontend.UseIncidents
import MetaRne.Persistence.IncidentVersions

namespace MetaRne
namespace Frontend

open Api Library Library.Effect Library.KeyedMerge Python

variable {backend : Backend} {ids : IdFactory} {s : Session} {calls : List IncidentCall}

/-! ### Two versions -/

@[simp] theorem isResolved_servedIncident (i : Incident) :
    (servedIncident i).isResolved = decide (i.status = .resolved) := by
  unfold IncidentResponse.isResolved servedIncident
  cases i.status <;> rfl

theorem dateParse_servedIncident {i : Incident} (h : i.updatedAt ≤ maxTimestamp) :
    dateParse (servedIncident i).updatedAt = some (instantOf i.updatedAt) :=
  dateParse_jsonText h

/-- **A later version has the greater rank**, also within one millisecond. -/
theorem rank_lt_of_follows {i j : Incident} (h : i.Follows j) (hne : i ≠ j) :
    rank (instantOf i.updatedAt) (servedIncident i) <
      rank (instantOf j.updatedAt) (servedIncident j) := by
  obtain ⟨hopen, hle, hstep⟩ := h.resolve_left hne
  have hi : (servedIncident i).isResolved = false := by
    rw [isResolved_servedIncident, hopen]
    rfl
  rw [rank, rank, Prod.Lex.toLex_lt_toLex, Prod.Lex.toLex_lt_toLex, hi]
  rcases (instantOf_mono hle).lt_or_eq with hlt | heq
  · exact .inl hlt
  · refine .inr ⟨heq, ?_⟩
    rw [isResolved_servedIncident]
    rcases hstep with hresolved | ⟨hopen', hcount⟩
    · rw [hresolved]
      exact .inl (Bool.lt_iff.2 ⟨rfl, rfl⟩)
    · rw [hopen']
      exact .inr ⟨rfl, hcount⟩

/-- **Of two versions of an incident the later one is kept**, whichever came in first. -/
theorem pickIncident_of_follows {i j : Incident} (h : i.Follows j)
    (hi : i.updatedAt ≤ maxTimestamp) (hj : j.updatedAt ≤ maxTimestamp) :
    pickIncident (servedIncident i) (servedIncident j) = servedIncident j ∧
      pickIncident (servedIncident j) (servedIncident i) = servedIncident j := by
  by_cases hne : i = j
  · subst hne
    exact ⟨pickIncident_self _, pickIncident_self _⟩
  · exact pickIncident_of_rank_lt (dateParse_servedIncident hi) (dateParse_servedIncident hj)
      (rank_lt_of_follows h hne)

/-! ### Lists -/

/-- `list_all` of a backend. -/
def Backend.listIncidents : Backend → Action (List Incident)
  | .memory => Memory.listIncidents
  | .sql => Sql.listIncidents

/-- `GET /incidents`, as the client gets it; `none` where the backend raises or the client
throws. -/
def getIncidents (backend : Backend) (s : Session) : Option (List IncidentResponse) :=
  match (Backend.listIncidents backend).run s with
  | .ok incidents _ => fetchIncidents (incidentListResponse incidents)
  | .error _ _ => none

/-- A list that the client got, answered after the first `n` calls. -/
def ListedAfter (backend : Backend) (ids : IdFactory) (calls : List IncidentCall) (s : Session)
    (n : ℕ) (response : List IncidentResponse) : Prop :=
  getIncidents backend (sessionAfter backend ids (calls.take n) s) = some response

/-- What an incident looks like to the client after the first `n` calls. -/
def servedAfter (backend : Backend) (ids : IdFactory) (calls : List IncidentCall) (s : Session)
    (id : String) (n : ℕ) : Option IncidentResponse :=
  (incidentAfter backend ids calls s n id).map servedIncident

theorem getIncidents_eq_some {response : List IncidentResponse}
    (h : getIncidents backend s = some response) :
    ∃ incidents s', (Backend.listIncidents backend).run s = .ok incidents s' ∧
      response = incidents.map servedIncident := by
  unfold getIncidents at h
  cases hrun : (Backend.listIncidents backend).run s with
  | ok incidents s' =>
      rw [hrun] at h
      exact ⟨incidents, s', rfl, fetchIncidents_served h⟩
  | error e s' =>
      rw [hrun] at h
      cases h

/-- The list has the stored incidents, in some order. -/
theorem perm_of_listIncidents {incidents : List Incident} {s' : Session}
    (h : (Backend.listIncidents backend).run s = .ok incidents s') :
    incidents.Perm s.store.incidents.values := by
  cases backend with
  | memory =>
      obtain ⟨rfl, -⟩ := EStateM.Result.ok.inj h
      exact List.perm_insertionSort _ _
  | sql =>
      obtain ⟨rfl, -⟩ := EStateM.Result.ok.inj h
      exact List.perm_insertionSort _ _

/-- A list has an incident once, if the store has it. -/
theorem filter_listIncidents (hs : LedgerInvariant ids s) {incidents : List Incident}
    {s' : Session} (h : (Backend.listIncidents backend).run s = .ok incidents s') (id : String) :
    incidents.filter (fun i => i.incidentId = id) = (s.store.incidents.get? id).toList := by
  have hperm := perm_of_listIncidents h
  have hkeys : s.store.incidents.values.map (fun i => i.incidentId) = s.store.incidents.keys :=
    Dict.map_values_eq_keys fun hv => hs.filed hv
  have hnodup : incidents.Nodup := by
    have hvalues : s.store.incidents.values.Nodup := by
      refine List.Nodup.of_map (fun i => i.incidentId) ?_
      rw [hkeys]
      exact s.store.incidents.nodup
    exact hperm.nodup_iff.2 hvalues
  have hmem : ∀ i, i ∈ incidents.filter (fun i => i.incidentId = id) ↔
      s.store.incidents.get? id = some i := by
    intro i
    rw [List.mem_filter, hperm.mem_iff, Dict.mem_values_iff, decide_eq_true_eq]
    constructor
    · rintro ⟨⟨id', hid'⟩, rfl⟩
      rw [hs.filed hid']
      exact hid'
    · exact fun hi => ⟨⟨id, hi⟩, hs.filed hi⟩
  cases hget : s.store.incidents.get? id with
  | none =>
      refine List.eq_nil_iff_forall_not_mem.2 fun i hi => ?_
      rw [hmem, hget] at hi
      cases hi
  | some i =>
      refine List.perm_singleton.1 ((List.perm_ext_iff_of_nodup (hnodup.filter _)
        (List.nodup_singleton i)).2 fun j => ?_)
      rw [hmem, hget, Option.some.injEq, List.mem_singleton, eq_comm]

/-- **What a list has of an incident** is its version at that point of the run. -/
theorem itemsAt_of_listed (hempty : s.store.incidents = .empty) {n : ℕ}
    {response : List IncidentResponse} (h : ListedAfter backend ids calls s n response)
    (id : String) :
    itemsAt IncidentResponse.incidentId id response =
      (servedAfter backend ids calls s id n).toList := by
  obtain ⟨incidents, s', hlist, rfl⟩ := getIncidents_eq_some h
  have hfilter := filter_listIncidents (sessionAfter_ledger backend ids hempty _) hlist id
  rw [itemsAt, List.filter_map]
  change (incidents.filter fun i => i.incidentId = id).map servedIncident = _
  rw [hfilter, servedAfter, incidentAfter]
  cases (sessionAfter backend ids (calls.take n) s).store.incidents.get? id <;> rfl

/-- Picking among two versions of a run gives the later one. -/
theorem merge_servedAfter (hempty : s.store.incidents = .empty)
    (hdated : ∀ call ∈ calls, call.Dated) (id : String) (m n : ℕ) :
    Option.merge pickIncident (servedAfter backend ids calls s id m)
        (servedAfter backend ids calls s id n) =
      servedAfter backend ids calls s id (max m n) := by
  have hstays : ∀ {m n : ℕ} {i : Incident}, m ≤ n → incidentAfter backend ids calls s m id = some i →
      ∃ j, incidentAfter backend ids calls s n id = some j ∧
        pickIncident (servedIncident i) (servedIncident j) = servedIncident j ∧
        pickIncident (servedIncident j) (servedIncident i) = servedIncident j := by
    intro m n i hmn hi
    obtain ⟨j, hj, hfollows⟩ := incidentAfter_follows hempty calls hmn hi
    exact ⟨j, hj, pickIncident_of_follows hfollows (updatedAt_le_of_dated hempty hdated hi)
      (updatedAt_le_of_dated hempty hdated hj)⟩
  unfold servedAfter
  rcases le_total m n with hmn | hnm
  · rw [max_eq_right hmn]
    cases hi : incidentAfter backend ids calls s m id with
    | none => cases incidentAfter backend ids calls s n id <;> rfl
    | some i =>
        obtain ⟨j, hj, hpick, -⟩ := hstays hmn hi
        rw [hj]
        exact congrArg some hpick
  · rw [max_eq_left hnm]
    cases hi : incidentAfter backend ids calls s n id with
    | none => cases incidentAfter backend ids calls s m id <;> rfl
    | some i =>
        obtain ⟨j, hj, -, hpick⟩ := hstays hnm hi
        rw [hj]
        exact congrArg some hpick

/-- Once there, an incident stays there. -/
theorem servedAfter_isSome (hempty : s.store.incidents = .empty) {id : String} {m n : ℕ}
    (hmn : m ≤ n) (h : (servedAfter backend ids calls s id m).isSome) :
    (servedAfter backend ids calls s id n).isSome := by
  unfold servedAfter at h ⊢
  rw [Option.isSome_map] at h ⊢
  obtain ⟨i, hi⟩ := Option.isSome_iff_exists.1 h
  obtain ⟨j, hj, -⟩ := incidentAfter_follows hempty calls hmn hi
  rw [hj]
  rfl

/-- A resolved incident is served as it was. -/
theorem servedAfter_of_resolved (hempty : s.store.incidents = .empty) {id : String} {m n : ℕ}
    (hmn : m ≤ n) {r : IncidentResponse} (h : servedAfter backend ids calls s id m = some r)
    (hresolved : r.status = "RESOLVED") : servedAfter backend ids calls s id n = some r := by
  obtain ⟨i, hi, rfl⟩ := Option.map_eq_some_iff.1 h
  obtain ⟨j, hj, hfollows⟩ := incidentAfter_follows hempty calls hmn hi
  have hstatus : i.status ≠ .open := by
    intro hopen
    change i.status.value = "RESOLVED" at hresolved
    rw [hopen] at hresolved
    exact absurd hresolved (by decide)
  rcases hfollows with rfl | ⟨hopen, -⟩
  · rw [servedAfter, hj]
    rfl
  · exact absurd hopen hstatus

section Deliveries

variable {deliveries : List (ℕ × List IncidentResponse)}

/-- What is held after some lists came in: of an incident, its version in the newest of them. -/
theorem itemsAt_mergedIncidents (hempty : s.store.incidents = .empty)
    (hdated : ∀ call ∈ calls, call.Dated)
    (hlisted : ∀ d ∈ deliveries, ListedAfter backend ids calls s d.1 d.2) (hne : deliveries ≠ [])
    (id : String) :
    ∃ newest ∈ deliveries, (∀ d ∈ deliveries, d.1 ≤ newest.1) ∧
      itemsAt IncidentResponse.incidentId id (mergedIncidents (deliveries.map Prod.snd)) =
        (servedAfter backend ids calls s id newest.1).toList :=
  itemsAt_mergeAll incidentId_pickIncident (merge_servedAfter hempty hdated id)
    (fun d hd => itemsAt_of_listed hempty (hlisted d hd) id) hne

/-- A list that came in shows an incident if the run had it then. -/
theorem isSome_of_mem_listed (hempty : s.store.incidents = .empty) {n : ℕ}
    {response : List IncidentResponse} (h : ListedAfter backend ids calls s n response)
    {r : IncidentResponse} (hr : r ∈ response) :
    servedAfter backend ids calls s r.incidentId n = some r := by
  have hitem : r ∈ itemsAt IncidentResponse.incidentId r.incidentId response :=
    mem_itemsAt.2 ⟨hr, rfl⟩
  rw [itemsAt_of_listed hempty h, Option.mem_toList] at hitem
  exact hitem

end Deliveries

/-- **The client keeps the newest version of every incident.**  Of two versions of a run the
later one is kept, whichever came in first.  After lists that were answered at any points of
the run came in, in any order and any of them repeatedly, each incident that was seen is held
once, in its newest version among them; and one that is held as resolved stays held so. -/
theorem mergeIncidentLists_newest (backend : Backend) (ids : IdFactory) {s : Session}
    (hempty : s.store.incidents = .empty) (calls : List IncidentCall)
    (hdated : ∀ call ∈ calls, call.Dated) :
    (∀ m n id i j, m ≤ n → incidentAfter backend ids calls s m id = some i →
      incidentAfter backend ids calls s n id = some j →
        pickIncident (servedIncident i) (servedIncident j) = servedIncident j ∧
          pickIncident (servedIncident j) (servedIncident i) = servedIncident j) ∧
    ∀ deliveries : List (ℕ × List IncidentResponse),
      (∀ d ∈ deliveries, ListedAfter backend ids calls s d.1 d.2) →
      (∀ id, (∃ d ∈ deliveries, ∃ r ∈ d.2, r.incidentId = id) →
        ∃ newest ∈ deliveries, ∃ r ∈ newest.2, r.incidentId = id ∧
          (∀ d ∈ deliveries, (∃ r' ∈ d.2, r'.incidentId = id) → d.1 ≤ newest.1) ∧
          (mergedIncidents (deliveries.map Prod.snd)).filter (fun r' => r'.incidentId = id) =
            [r]) ∧
      ∀ earlier later, deliveries = earlier ++ later →
        ∀ r ∈ mergedIncidents (earlier.map Prod.snd), r.status = "RESOLVED" →
          r ∈ mergedIncidents (deliveries.map Prod.snd) := by
  refine ⟨fun m n id i j hmn hi hj => ?_, fun deliveries hlisted => ⟨fun id hseen => ?_, ?_⟩⟩
  · obtain ⟨j', hj', hfollows⟩ := incidentAfter_follows hempty calls hmn hi
    obtain rfl := Option.some.inj (hj.symm.trans hj')
    exact pickIncident_of_follows hfollows (updatedAt_le_of_dated hempty hdated hi)
      (updatedAt_le_of_dated hempty hdated hj)
  · obtain ⟨d, hd, r, hr, rfl⟩ := hseen
    obtain ⟨newest, hnewest, hmax, hitems⟩ := itemsAt_mergedIncidents hempty hdated hlisted
      (List.ne_nil_of_mem hd) r.incidentId
    have hserved := isSome_of_mem_listed hempty (hlisted d hd) hr
    obtain ⟨r', hr'⟩ := Option.isSome_iff_exists.1
      (servedAfter_isSome hempty (hmax d hd) (Option.isSome_of_eq_some hserved))
    rw [hr', Option.toList_some] at hitems
    have hnew : r' ∈ itemsAt IncidentResponse.incidentId r.incidentId newest.2 := by
      rw [itemsAt_of_listed hempty (hlisted newest hnewest), hr']
      exact List.mem_singleton_self r'
    obtain ⟨hmem, hid⟩ := mem_itemsAt.1 hnew
    exact ⟨newest, hnewest, r', hmem, hid, fun d' hd' _ => hmax d' hd', hitems⟩
  · rintro earlier later rfl r hr hresolved
    have hitem : r ∈ itemsAt IncidentResponse.incidentId r.incidentId
        (mergedIncidents (earlier.map Prod.snd)) := mem_itemsAt.2 ⟨hr, rfl⟩
    have hne : earlier ≠ [] := by
      rintro rfl
      exact absurd hr List.not_mem_nil
    obtain ⟨newest, hnewest, -, hitems⟩ := itemsAt_mergedIncidents hempty hdated
      (fun d hd => hlisted d (List.mem_append_left _ hd)) hne r.incidentId
    rw [hitems, Option.mem_toList] at hitem
    obtain ⟨newest', -, hmax', hitems'⟩ := itemsAt_mergedIncidents hempty hdated hlisted
      (List.append_ne_nil_of_left_ne_nil hne _) r.incidentId
    have hle := hmax' newest (List.mem_append_left _ hnewest)
    rw [servedAfter_of_resolved hempty hle hitem hresolved] at hitems'
    have hheld : r ∈ itemsAt IncidentResponse.incidentId r.incidentId
        (mergedIncidents ((earlier ++ later).map Prod.snd)) := by
      rw [hitems']
      exact List.mem_singleton_self r
    exact (mem_itemsAt.1 hheld).1

/-- A call at a time a datetime can have. -/
theorem dated_flappingCalls : ∀ call ∈ flappingCalls, call.Dated := by
  have hle : ∀ t : Timestamp, t ≤ 9 → t ≤ maxTimestamp := fun t ht => ht.trans (by decide)
  intro call hcall
  simp only [flappingCalls, List.mem_cons, List.not_mem_nil, or_false] at hcall
  rcases hcall with rfl | rfl | rfl | rfl | rfl
  · exact hle 5 (by decide)
  · exact hle 7 (by decide)
  · intro t ht
    obtain rfl : t = 8 := Int.ofNat_inj.1 (Option.some.inj ht).symm
    exact hle 8 (by decide)
  · exact hle 9 (by decide)
  · exact hle 6 (by decide)

set_option maxRecDepth 20000 in
theorem mergeIncidentLists_newest_flapping :
    ∃ open_ resolved : List IncidentResponse,
      ListedAfter .memory (tallyIds 'I') flappingCalls routerSession 2 open_ ∧
      ListedAfter .memory (tallyIds 'I') flappingCalls routerSession 3 resolved ∧
      ∃ r ∈ resolved, r.incidentId = "I" ∧
        (mergedIncidents [resolved, open_]).filter (fun r' => r'.incidentId = "I") = [r] := by
  have hlists : ∀ n ∈ [2, 3], (getIncidents .memory
      (sessionAfter .memory (tallyIds 'I') (flappingCalls.take n) routerSession)).isSome := by
    decide +kernel
  obtain ⟨open_, hopen⟩ := Option.isSome_iff_exists.1 (hlists 2 (by decide))
  obtain ⟨resolved, hresolved⟩ := Option.isSome_iff_exists.1 (hlists 3 (by decide))
  have hseen : ∃ r ∈ resolved, r.incidentId = "I" := by
    obtain ⟨incidents, s', hlist, rfl⟩ := getIncidents_eq_some hresolved
    obtain ⟨rfl, -⟩ := EStateM.Result.ok.inj hlist
    decide +kernel
  obtain ⟨newest, hnewest, r, hr, hid, hmax, hheld⟩ :=
    ((mergeIncidentLists_newest .memory (tallyIds 'I') (s := routerSession) rfl flappingCalls
      dated_flappingCalls).2 [(3, resolved), (2, open_)] (by
        intro d hd
        simp only [List.mem_cons, List.not_mem_nil, or_false] at hd
        rcases hd with rfl | rfl
        · exact hresolved
        · exact hopen)).1 "I" ⟨(3, resolved), List.mem_cons_self, hseen⟩
  have hthree : 3 ≤ newest.1 := hmax (3, resolved) List.mem_cons_self hseen
  simp only [List.mem_cons, List.not_mem_nil, or_false] at hnewest
  rcases hnewest with rfl | rfl
  · exact ⟨open_, resolved, hopen, hresolved, r, hr, hid, hheld⟩
  · exact absurd (show 3 ≤ 2 from hthree) (by decide)

end Frontend
end MetaRne
