/-
# The lifetimes of a finding's incidents

A finding that recurs after its incident was resolved gets a new incident, and
whether it does is decided by the open incident alone: where none is open, the
observation opens one, created when it was made.  So of the incidents of a
fingerprint, in the order in which they were created, all but the last are
resolved, and each was created, last seen and resolved in this order.

That one incident was resolved before the next was created is up to the caller.
A late observation, made before a resolution that it comes after, opens an
incident whose lifetime overlaps the resolved one; where no observation that
opens an incident is late, lifetimes do not overlap.
-/

import MetaRne.Persistence.IncidentRuns

namespace MetaRne

open Library Library.Effect Library.Runs Python

/-- The incidents of a fingerprint, in the order in which they were created. -/
def incidentsOf (fingerprint : String) (store : Store) : List Incident :=
  store.incidents.values.filter fun i => i.fingerprint == fingerprint

/-- The later incident of two was created no earlier than the other was resolved. -/
def Incident.Precedes (i j : Incident) : Prop :=
  i.status = .resolved ∧ ∃ t, i.resolvedAt = some t ∧ t ≤ j.createdAt

/-- **What the incidents of one finding are**, in the order in which they were created. -/
structure Successive (incidents : List Incident) : Prop where
  /-- All but the last are resolved. -/
  resolved : incidents.Pairwise fun i _ => i.status = .resolved
  /-- Each has its times in order. -/
  ordered : ∀ i ∈ incidents, i.createdAt ≤ i.lastSeenAt ∧
    ∀ t, i.resolvedAt = some t → i.lastSeenAt ≤ t

/-- An observation that finds no open incident was made no earlier than any
resolution of its finding. -/
def IncidentCall.Timely (call : IncidentCall) (store : Store) : Prop :=
  ∀ candidate fingerprint observedAt, call = .upsert candidate fingerprint observedAt →
    findOpenByFingerprint store.incidents fingerprint = none →
    ∀ i ∈ incidentsOf fingerprint store, ∀ t, i.resolvedAt = some t → t ≤ candidate.observedAt

/-- Every call of a run is timely when it is answered. -/
def TimelyRun (backend : Backend) (ids : IdFactory) (calls : List IncidentCall) (s : Session) :
    Prop :=
  ∀ before call after, calls = before ++ call :: after →
    call.Timely (sessionAfter backend ids before s).store

/-! ### One step -/

/-- What stands between two incidents, the earlier first: of one finding only if
`R` holds of them. -/
def Relates (R : Incident → Incident → Prop) (i j : Incident) : Prop :=
  i.fingerprint = j.fingerprint → R i j

section Steps

variable {ids : IdFactory} {s s' : Session} {R : Incident → Incident → Prop}

/-- Writing the open incident of a finding over keeps its place. -/
theorem pairwise_setIncident (hopen : ∀ {i j}, R i j → i.status = .resolved)
    (hcreated : ∀ {i j j'}, R i j → j'.createdAt = j.createdAt → R i j')
    (h : s.store.incidents.values.Pairwise (Relates R)) {id : String} {i j : Incident}
    (hget : s.store.incidents.get? id = some i) (hstatus : i.status = .open)
    (hsame : i.SameIdentity j) :
    (s.setIncident id j).store.incidents.values.Pairwise (Relates R) := by
  refine Dict.pairwise_values_set hget h (fun w hw hfp => ?_) fun w hw hfp => ?_
  · exact hcreated (hw (hfp.trans hsame.fingerprint)) hsame.createdAt
  · have hresolved := hopen (hw (hsame.fingerprint.symm.trans hfp))
    rw [hstatus] at hresolved
    cases hresolved

/-- An upsert step adds an incident at the end, or writes the open one over. -/
theorem UpsertStep.pairwise (hopen : ∀ {i j}, R i j → i.status = .resolved)
    (hcreated : ∀ {i j j'}, R i j → j'.createdAt = j.createdAt → R i j')
    (hs : LedgerInvariant ids s) (h : s.store.incidents.values.Pairwise (Relates R))
    {c : IncidentCandidate} {r : IncidentUpsertResult} (hstep : UpsertStep ids c s r s')
    (hnew : findOpenByFingerprint s.store.incidents c.fingerprint = none →
      ∀ i ∈ incidentsOf c.fingerprint s.store, i.status = .resolved →
        R i (c.opened (ids.next s.incidentIdsDrawn))) :
    s'.store.incidents.values.Pairwise (Relates R) := by
  cases hstep with
  | created hnone hdevice =>
      change (s.store.incidents.set _ _).values.Pairwise _
      rw [Dict.values_set_of_get?_none _ hs.get?_next, List.pairwise_append]
      refine ⟨h, List.pairwise_singleton _ _, fun i hi j hj => ?_⟩
      rw [List.mem_singleton] at hj
      subst hj
      intro hfp
      obtain ⟨id, hid⟩ := Dict.mem_values_iff.1 hi
      have hresolved : i.status = .resolved := by
        refine (hs.well_kept hid).open_or_resolved.resolve_left fun hstatus => ?_
        exact findOpenByFingerprint_eq_none.1 hnone id i hid hstatus hfp
      exact hnew hnone i (List.mem_filter.2 ⟨hi, beq_iff_eq.2 hfp⟩) hresolved
  | updated existing s₁ hdrawn hfound hle =>
      obtain ⟨hget, hstatus, -⟩ := hs.get?_of_findOpen hfound
      rw [← SameStore.store_eq hdrawn] at h hget
      exact pairwise_setIncident hopen hcreated h hget hstatus ⟨rfl, rfl, rfl, rfl⟩

theorem ResolveStep.pairwise (hopen : ∀ {i j}, R i j → i.status = .resolved)
    (hcreated : ∀ {i j j'}, R i j → j'.createdAt = j.createdAt → R i j')
    (h : s.store.incidents.values.Pairwise (Relates R)) {incidentId : String}
    {resolvedAt : Datetime} {r : Option Incident}
    (hstep : ResolveStep incidentId resolvedAt s r s') :
    s'.store.incidents.values.Pairwise (Relates R) := by
  cases hstep with
  | unknown hnone => exact h
  | already existing hsome hresolved => exact h
  | resolved existing t hinstant hsome hstatus hle =>
      exact pairwise_setIncident hopen hcreated h hsome hstatus ⟨rfl, rfl, rfl, rfl⟩

/-- One answered call. -/
theorem Answered.pairwise (hopen : ∀ {i j}, R i j → i.status = .resolved)
    (hcreated : ∀ {i j j'}, R i j → j'.createdAt = j.createdAt → R i j')
    (hs : LedgerInvariant ids s) (h : s.store.incidents.values.Pairwise (Relates R))
    {call : IncidentCall} {reply : IncidentReply} (hanswered : Answered ids s call reply s')
    (hnew : ∀ candidate fingerprint observedAt, call = .upsert candidate fingerprint observedAt →
      findOpenByFingerprint s.store.incidents fingerprint = none →
      ∀ i ∈ incidentsOf fingerprint s.store, i.status = .resolved →
        R i (candidate.opened (ids.next s.incidentIdsDrawn))) :
    s'.store.incidents.values.Pairwise (Relates R) := by
  cases hanswered with
  | upserted hmatch hstep => exact hstep.pairwise hopen hcreated hs h (hnew _ _ _ rfl)
  | resolved hstep => exact hstep.pairwise hopen hcreated h
  | raised hsame =>
      rw [hsame.store_eq]
      exact h

end Steps

/-- Of the pairs of a list that are in a relation where they agree, those that agree. -/
theorem pairwise_incidentsOf {R : Incident → Incident → Prop} {store : Store}
    (h : store.incidents.values.Pairwise (Relates R)) (fingerprint : String) :
    (incidentsOf fingerprint store).Pairwise R := by
  refine (h.filter _).imp_of_mem fun {i j} hi hj hR => hR ?_
  have hi' := (List.mem_filter.1 hi).2
  have hj' := (List.mem_filter.1 hj).2
  exact (beq_iff_eq.1 hi').trans (beq_iff_eq.1 hj').symm

/-! ### Runs -/

section Runs

variable {ids : IdFactory} {s : Session}

/-- A resolved incident was last seen no later than it was resolved. -/
def SeenBeforeResolved (s : Session) : Prop :=
  ∀ id i, s.store.incidents.get? id = some i → ∀ t, i.resolvedAt = some t → i.lastSeenAt ≤ t

theorem SeenBeforeResolved.setIncident (h : SeenBeforeResolved s) (id : String) {j : Incident}
    (hj : ∀ t, j.resolvedAt = some t → j.lastSeenAt ≤ t) :
    SeenBeforeResolved (s.setIncident id j) := by
  intro id' i hi
  change (s.store.incidents.set id j).get? id' = some i at hi
  rw [Dict.get?_set] at hi
  split_ifs at hi
  · obtain rfl := Option.some.inj hi
    exact hj
  · exact h id' i hi

theorem SeenBeforeResolved.of_store_eq {s' : Session} (h : SeenBeforeResolved s)
    (heq : s'.store = s.store) : SeenBeforeResolved s' := by
  unfold SeenBeforeResolved
  rw [heq]
  exact h

/-- An open incident has not been resolved at any time. -/
theorem LedgerInvariant.resolvedAt_of_open (hs : LedgerInvariant ids s) {id : String} {i : Incident}
    (hi : s.store.incidents.get? id = some i) (hopen : i.status = .open) : i.resolvedAt = none := by
  have hiff := (hs.well_kept hi).valid.resolved_iff
  cases h : i.resolvedAt with
  | none => rfl
  | some t =>
      have hresolved := hiff.2 (by rw [h]; rfl)
      rw [hopen] at hresolved
      cases hresolved

theorem Answered.seenBeforeResolved {s' : Session} (hs : LedgerInvariant ids s)
    (h : SeenBeforeResolved s) {call : IncidentCall} {reply : IncidentReply}
    (hanswered : Answered ids s call reply s') : SeenBeforeResolved s' := by
  cases hanswered with
  | raised hsame => exact h.of_store_eq hsame.store_eq
  | upserted hmatch hstep =>
      cases hstep with
      | created hnone hdevice => exact (h.of_store_eq rfl).setIncident _ fun t ht => by cases ht
      | updated existing s₁ hdrawn hfound hle =>
          obtain ⟨hget, hstatus, -⟩ := hs.get?_of_findOpen hfound
          refine (h.of_store_eq (SameStore.store_eq hdrawn)).setIncident _ fun t ht => ?_
          have hnone := hs.resolvedAt_of_open hget hstatus
          rw [show (existing.seenAgain _).resolvedAt = existing.resolvedAt from rfl, hnone] at ht
          cases ht
  | resolved hstep =>
      cases hstep with
      | unknown hnone => exact h
      | already existing hsome hresolved => exact h
      | resolved existing t hinstant hsome hstatus hle =>
          refine h.setIncident _ fun u hu => ?_
          obtain rfl : t = u := Option.some.inj hu
          exact (hs.well_kept hsome).valid.lastSeenAt_le.trans hle

/-- What a session keeps of the incidents of one finding, whatever is called. -/
structure LifetimeInvariant (ids : IdFactory) (s : Session) : Prop where
  ledger : LedgerInvariant ids s
  seen : SeenBeforeResolved s
  resolved : s.store.incidents.values.Pairwise (Relates fun i _ => i.status = .resolved)

theorem LifetimeInvariant.of_empty (ids : IdFactory) (hempty : s.store.incidents = .empty) :
    LifetimeInvariant ids s where
  ledger := .of_empty ids hempty
  seen := by
    intro id i hi
    rw [hempty] at hi
    cases hi
  resolved := by
    rw [hempty]
    exact List.Pairwise.nil

theorem LifetimeInvariant.answer (hs : LifetimeInvariant ids s) (backend : Backend)
    (call : IncidentCall) : LifetimeInvariant ids (answer backend ids call s).2 := by
  have hanswered := answered backend hs.ledger call
  refine ⟨hanswered.invariant hs.ledger, hanswered.seenBeforeResolved hs.ledger hs.seen, ?_⟩
  exact hanswered.pairwise (fun h => h) (fun h _ => h) hs.ledger hs.resolved
    fun _ _ _ _ _ i _ hresolved => hresolved

theorem sessionAfter_lifetime (backend : Backend) (hempty : s.store.incidents = .empty)
    (calls : List IncidentCall) : LifetimeInvariant ids (sessionAfter backend ids calls s) :=
  serve_invariant (MetaRne.answer backend ids) (P := fun _ s₁ => LifetimeInvariant ids s₁) calls
    (.of_empty ids hempty) fun _ _ call _ h => h.answer backend call

/-- The incidents of a finding in a session with the invariant. -/
theorem LifetimeInvariant.successive (hs : LifetimeInvariant ids s) (fingerprint : String) :
    Successive (incidentsOf fingerprint s.store) where
  resolved := pairwise_incidentsOf hs.resolved fingerprint
  ordered := by
    intro i hi
    obtain ⟨id, hid⟩ := Dict.mem_values_iff.1 (List.mem_of_mem_filter hi)
    exact ⟨(hs.ledger.well_kept hid).valid.createdAt_le, hs.seen id i hid⟩

/-- Through a timely run each incident of a finding is resolved before the next is created. -/
theorem sessionAfter_precedes (backend : Backend) (hempty : s.store.incidents = .empty)
    (calls : List IncidentCall) (htimely : TimelyRun backend ids calls s) :
    (sessionAfter backend ids calls s).store.incidents.values.Pairwise
      (Relates Incident.Precedes) := by
  induction calls using List.reverseRecOn with
  | nil =>
      rw [show sessionAfter backend ids [] s = s from rfl, hempty]
      exact List.Pairwise.nil
  | append_singleton calls call ih =>
      have hs : LifetimeInvariant ids (sessionAfter backend ids calls s) :=
        sessionAfter_lifetime backend hempty calls
      have hbefore := ih fun before c after hcalls =>
        htimely before c (after ++ [call]) (by rw [hcalls, List.append_assoc, List.cons_append])
      have hcall := htimely calls call [] rfl
      have hnext : sessionAfter backend ids (calls ++ [call]) s =
          (MetaRne.answer backend ids call (sessionAfter backend ids calls s)).2 := by
        rw [sessionAfter, serve_concat]
        rfl
      rw [hnext]
      refine (answered backend hs.ledger call).pairwise (fun h => h.1)
        (fun h hcreated => ⟨h.1, ?_⟩) hs.ledger hbefore ?_
      · obtain ⟨t, ht, hle⟩ := h.2
        exact ⟨t, ht, hcreated.symm ▸ hle⟩
      · intro candidate fingerprint observedAt hupsert hnone i hi hresolved
        obtain ⟨id, hid⟩ := Dict.mem_values_iff.1 (List.mem_of_mem_filter hi)
        obtain ⟨t, ht⟩ := Option.isSome_iff_exists.1
          ((hs.ledger.well_kept hid).valid.resolved_iff.1 hresolved)
        exact ⟨hresolved, t, ht, hcall candidate fingerprint observedAt hupsert hnone i hi t ht⟩

/-- **Lifetimes of a finding.**  After any calls on an empty incident store, in
either implementation: of the incidents of a fingerprint, in the order in which
they were created, all but the last are resolved, each with its times in order;
and if every observation that opened an incident was timely, each was resolved
no later than the next was created. -/
theorem incident_lifetimes (backend : Backend) (ids : IdFactory) {s : Session}
    (hempty : s.store.incidents = .empty) (calls : List IncidentCall) (fingerprint : String) :
    Successive (incidentsOf fingerprint (sessionAfter backend ids calls s).store) ∧
      (TimelyRun backend ids calls s →
        (incidentsOf fingerprint (sessionAfter backend ids calls s).store).Pairwise
          Incident.Precedes) :=
  ⟨(sessionAfter_lifetime backend hempty calls).successive fingerprint, fun htimely =>
    pairwise_incidentsOf (sessionAfter_precedes backend hempty calls htimely) fingerprint⟩

/-- The neighbour seen down, resolved and seen down again later. -/
def timelyCalls : List IncidentCall :=
  [.upsert (neighborDown 5) (neighborDown 5).fingerprint (.utc 5), .resolve "I" (.utc 8),
    .upsert (neighborDown 9) (neighborDown 9).fingerprint (.utc 9)]

/-- An observation at 5, a resolve at 8, and only then an observation made at 6. -/
def lateCalls : List IncidentCall :=
  [.upsert (neighborDown 5) (neighborDown 5).fingerprint (.utc 5), .resolve "I" (.utc 8),
    .upsert (neighborDown 6) (neighborDown 6).fingerprint (.utc 6)]

set_option maxRecDepth 20000 in
/-- What the store holds of the neighbour, after the resolve and at the end. -/
theorem incidentsOf_neighborDown :
    (incidentsOf (neighborDown 5).fingerprint (sessionAfter .memory (tallyIds 'I')
      (timelyCalls.take 2) routerSession).store).map IncidentRecord.resolvedAt = [some 8] ∧
    (incidentsOf (neighborDown 5).fingerprint (sessionAfter .memory (tallyIds 'I') lateCalls
      routerSession).store).map (fun i => (i.createdAt, i.resolvedAt)) = [(5, some 8), (6, none)] ∧
    (incidentsOf (neighborDown 5).fingerprint (sessionAfter .sql (tallyIds 'I') lateCalls
      routerSession).store).map (fun i => (i.createdAt, i.resolvedAt)) =
        [(5, some 8), (6, none)] := by
  decide +kernel

theorem timelyCalls_timely : TimelyRun .memory (tallyIds 'I') timelyCalls routerSession := by
  intro before call after hcalls candidate fingerprint observedAt hcall hnone i hi t ht
  subst hcall
  rcases before with - | ⟨c₁, - | ⟨c₂, - | ⟨c₃, before⟩⟩⟩
  · cases hi
  · simp only [timelyCalls, List.cons_append, List.nil_append, List.cons.injEq, reduceCtorEq,
      false_and, and_false] at hcalls
  · simp only [timelyCalls, List.cons_append, List.nil_append, List.cons.injEq,
      IncidentCall.upsert.injEq] at hcalls
    obtain ⟨rfl, rfl, ⟨rfl, rfl, rfl⟩, rfl⟩ := hcalls
    have htimes : (incidentsOf (neighborDown 9).fingerprint (sessionAfter .memory (tallyIds 'I')
        (timelyCalls.take 2) routerSession).store).map IncidentRecord.resolvedAt = [some 8] := by
      rw [fingerprint_neighborDown 9 5]
      exact incidentsOf_neighborDown.1
    have hmem : i.resolvedAt ∈ (incidentsOf (neighborDown 9).fingerprint (sessionAfter .memory
        (tallyIds 'I') (timelyCalls.take 2) routerSession).store).map IncidentRecord.resolvedAt :=
      List.mem_map_of_mem hi
    rw [htimes, List.mem_singleton, ht] at hmem
    obtain rfl : t = 8 := Option.some.inj hmem
    exact (by decide : (8 : ℕ) ≤ 9)
  · simp only [timelyCalls, List.cons_append, List.cons.injEq, List.nil_eq, List.append_eq_nil_iff,
      reduceCtorEq, and_false] at hcalls

theorem incident_lifetimes_timely :
    Successive (incidentsOf (neighborDown 5).fingerprint
        (sessionAfter .memory (tallyIds 'I') timelyCalls routerSession).store) ∧
      (incidentsOf (neighborDown 5).fingerprint
        (sessionAfter .memory (tallyIds 'I') timelyCalls routerSession).store).Pairwise
          Incident.Precedes := by
  have hrun := incident_lifetimes .memory (tallyIds 'I') (s := routerSession) rfl timelyCalls
    (neighborDown 5).fingerprint
  exact ⟨hrun.1, hrun.2 timelyCalls_timely⟩

/-- The late observation opens an incident before the resolution of the other. -/
theorem lateCalls_overlap (backend : Backend) :
    (incidentsOf (neighborDown 5).fingerprint
      (sessionAfter backend (tallyIds 'I') lateCalls routerSession).store).map
        (fun i => (i.createdAt, i.resolvedAt)) = [(5, some 8), (6, none)] := by
  cases backend with
  | memory => exact incidentsOf_neighborDown.2.1
  | sql => exact incidentsOf_neighborDown.2.2

/-- Lifetimes may overlap, in either implementation. -/
theorem incident_lifetimes_overlap : ¬ ∀ (backend : Backend) (ids : IdFactory) (s : Session),
    s.store.incidents = .empty → ∀ (calls : List IncidentCall) (fingerprint : String),
      (incidentsOf fingerprint (sessionAfter backend ids calls s).store).Pairwise
        Incident.Precedes := by
  intro h
  have hpairs := h .memory (tallyIds 'I') routerSession rfl lateCalls (neighborDown 5).fingerprint
  have htimes := lateCalls_overlap .memory
  generalize incidentsOf _ _ = incidents at hpairs htimes
  have hlength : incidents.length = 2 := by
    rw [← List.length_map, htimes]
    rfl
  obtain ⟨i, j, rfl⟩ := List.length_eq_two.1 hlength
  obtain ⟨t, ht, hle⟩ := ((List.pairwise_cons.1 hpairs).1 j (List.mem_singleton_self j)).2
  simp only [List.map_cons, List.map_nil, List.cons.injEq, Prod.mk.injEq, and_true] at htimes
  obtain ⟨⟨-, hi⟩, hj, -⟩ := htimes
  have htime : 8 = t := Option.some.inj (hi.symm.trans ht)
  rw [← htime, hj] at hle
  exact absurd hle (by decide)

end Runs
end MetaRne
