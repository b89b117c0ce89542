/-
# Runs of the incident repositories

Clients call `upsert_open_incident` and `resolve` on one store, each call
atomic, in any order and with any arguments.  A list of calls is one schedule;
`answer` performs a call on either implementation and keeps the exception when
it raises.

`incident_store_invariant` is what every store on the way satisfies and what
every step keeps.  `every_observation_counted_once` is the balance of the calls
that returned against the incidents and their counts.
-/

import MetaRne.Library.Runs
import MetaRne.Persistence.Memory.IncidentRepository
import MetaRne.Persistence.Sql.IncidentRepository

namespace MetaRne

open Library Library.Effect Library.Runs Python

/-- The two implementations of the repository. -/
inductive Backend
  | memory
  | sql
  deriving DecidableEq, Repr

/-- `upsert_open_incident` of a backend. -/
def Backend.upsertOpenIncident : Backend → IdFactory → IncidentCandidate → String → Datetime →
    Action IncidentUpsertResult
  | .memory => Memory.upsertOpenIncident
  | .sql => Sql.upsertOpenIncident

/-- `resolve` of a backend. -/
def Backend.resolve : Backend → String → Datetime → Action (Option Incident)
  | .memory => Memory.resolve
  | .sql => Sql.resolve

/-- A call of a client. -/
inductive IncidentCall
  | upsert (candidate : IncidentCandidate) (fingerprint : String) (observedAt : Datetime)
  | resolve (incidentId : String) (resolvedAt : Datetime)

/-- What the client gets back. -/
inductive IncidentReply
  | upserted (result : IncidentUpsertResult)
  | resolved (incident : Option Incident)
  | raised (error : Error)

/-- Perform one call. -/
def answer (backend : Backend) (ids : IdFactory) (call : IncidentCall) (s : Session) :
    IncidentReply × Session :=
  match call with
  | .upsert candidate fingerprint observedAt =>
    match (backend.upsertOpenIncident ids candidate fingerprint observedAt).run s with
    | .ok result s' => (.upserted result, s')
    | .error e s' => (.raised e, s')
  | .resolve incidentId resolvedAt =>
    match (backend.resolve incidentId resolvedAt).run s with
    | .ok incident s' => (.resolved incident, s')
    | .error e s' => (.raised e, s')

/-- The session after a schedule. -/
def sessionAfter (backend : Backend) (ids : IdFactory) (calls : List IncidentCall) (s : Session) :
    Session :=
  (serve (answer backend ids) calls s).2

/-- What the candidates of a schedule are about. -/
def candidateKeys (calls : List IncidentCall) : Set FindingKey :=
  {key | ∃ candidate fingerprint observedAt,
    IncidentCall.upsert candidate fingerprint observedAt ∈ calls ∧ candidate.key = key}

/-! ### What a call does -/

variable {backend : Backend} {ids : IdFactory} {s s' : Session}

theorem Backend.upsertOpenIncident_ok {candidate : IncidentCandidate} {fingerprint : String}
    {observedAt : Datetime} {r : IncidentUpsertResult}
    (h : (backend.upsertOpenIncident ids candidate fingerprint observedAt).run s = .ok r s') :
    fingerprint = candidate.fingerprint ∧
      EvidenceMatches candidate.source candidate.ruleRef candidate.evidence ∧
      UpsertStep ids candidate s r s' := by
  cases backend with
  | memory => exact Memory.upsertOpenIncident_ok h
  | sql => exact Sql.upsertOpenIncident_ok h

theorem Backend.upsertOpenIncident_error (hs : LedgerInvariant ids s)
    {candidate : IncidentCandidate} {fingerprint : String} {observedAt : Datetime} {e : Error}
    (h : (backend.upsertOpenIncident ids candidate fingerprint observedAt).run s = .error e s') :
    SameStore s s' := by
  cases backend with
  | memory => exact Memory.upsertOpenIncident_error h
  | sql => exact Sql.upsertOpenIncident_error hs h

theorem Backend.resolve_ok {incidentId : String} {resolvedAt : Datetime} {r : Option Incident}
    (h : (backend.resolve incidentId resolvedAt).run s = .ok r s') :
    ResolveStep incidentId resolvedAt s r s' := by
  cases backend with
  | memory => exact Memory.resolve_ok h
  | sql => exact Sql.resolve_ok h

theorem Backend.resolve_error (hs : LedgerInvariant ids s) {incidentId : String}
    {resolvedAt : Datetime} {e : Error}
    (h : (backend.resolve incidentId resolvedAt).run s = .error e s') : s' = s := by
  cases backend with
  | memory => exact Memory.resolve_error h
  | sql => exact Sql.resolve_error hs h

/-- **The outcomes of a call** on a store with the invariant: an upsert step, a
resolve step, or an exception that left the store as it was. -/
inductive Answered (ids : IdFactory) (s : Session) :
    IncidentCall → IncidentReply → Session → Prop
  | upserted {candidate observedAt r s'}
      (hmatch : EvidenceMatches candidate.source candidate.ruleRef candidate.evidence)
      (hstep : UpsertStep ids candidate s r s') :
      Answered ids s (.upsert candidate candidate.fingerprint observedAt) (.upserted r) s'
  | resolved {incidentId resolvedAt r s'} (hstep : ResolveStep incidentId resolvedAt s r s') :
      Answered ids s (.resolve incidentId resolvedAt) (.resolved r) s'
  | raised {call e s'} (hsame : SameStore s s') : Answered ids s call (.raised e) s'

theorem answered (backend : Backend) (hs : LedgerInvariant ids s) (call : IncidentCall) :
    Answered ids s call (answer backend ids call s).1 (answer backend ids call s).2 := by
  unfold answer
  cases call with
  | upsert candidate fingerprint observedAt =>
      simp only
      cases h : (backend.upsertOpenIncident ids candidate fingerprint observedAt).run s with
      | ok r s' =>
          obtain ⟨rfl, hmatch, hstep⟩ := Backend.upsertOpenIncident_ok h
          exact .upserted hmatch hstep
      | error e s' => exact .raised (Backend.upsertOpenIncident_error hs h)
  | resolve incidentId resolvedAt =>
      simp only
      cases h : (backend.resolve incidentId resolvedAt).run s with
      | ok r s' => exact .resolved (Backend.resolve_ok h)
      | error e s' => exact .raised (Or.inl (Backend.resolve_error hs h))

variable {call : IncidentCall} {reply : IncidentReply}

theorem Answered.invariant (h : Answered ids s call reply s') (hs : LedgerInvariant ids s) :
    LedgerInvariant ids s' := by
  cases h with
  | upserted hmatch hstep => exact hstep.invariant hs
  | resolved hstep => exact hstep.invariant hs
  | raised hsame => exact hs.sameStore hsame

theorem Answered.evidenceInvariant {keys : Set FindingKey} (h : Answered ids s call reply s')
    (hs : LedgerInvariant ids s) (he : EvidenceInvariant keys s) (hfree : CollisionFree keys)
    (hkeys : candidateKeys [call] ⊆ keys) : EvidenceInvariant keys s' := by
  cases h with
  | @upserted candidate observedAt _ _ hmatch hstep =>
      have hkey : candidate.key ∈ keys :=
        hkeys ⟨candidate, _, observedAt, List.mem_singleton_self _, rfl⟩
      exact hstep.evidenceInvariant hs he hfree hkey hmatch
  | resolved hstep => exact hstep.evidenceInvariant he
  | raised hsame => exact he.of_store_eq hsame.store_eq

theorem Answered.evolves (h : Answered ids s call reply s') (hs : LedgerInvariant ids s) :
    Evolves s.store.incidents s'.store.incidents := by
  cases h with
  | upserted hmatch hstep => exact hstep.evolves hs
  | resolved hstep => exact hstep.evolves
  | raised hsame =>
      rw [hsame.store_eq]
      exact Evolves.refl _

/-! ### The invariant of a store -/

/-- **What is true of every store that the calls can reach.** -/
structure IncidentStoreInvariant (store : Store) : Prop where
  /-- At most one incident is open for a fingerprint. -/
  one_open : ∀ {id id' i i'}, store.incidents.get? id = some i →
    store.incidents.get? id' = some i' → i.status = .open → i'.status = .open →
    i.fingerprint = i'.fingerprint → id = id'
  /-- The fingerprint is that of the row's own key. -/
  fingerprint_eq : ∀ {id i}, store.incidents.get? id = some i →
    computeFingerprint i.deviceId i.source i.ruleRef i.affectedResource = .ok i.fingerprint
  createdAt_le_lastSeenAt : ∀ {id i}, store.incidents.get? id = some i →
    i.createdAt ≤ i.lastSeenAt
  lastSeenAt_le_updatedAt : ∀ {id i}, store.incidents.get? id = some i →
    i.lastSeenAt ≤ i.updatedAt
  resolved_iff : ∀ {id i}, store.incidents.get? id = some i →
    (i.status = .resolved ↔ i.resolvedAt.isSome)
  updatedAt_of_open : ∀ {id i}, store.incidents.get? id = some i → i.status = .open →
    i.updatedAt = i.lastSeenAt
  one_le_occurrenceCount : ∀ {id i}, store.incidents.get? id = some i → 1 ≤ i.occurrenceCount
  evidence_matches : ∀ {id i}, store.incidents.get? id = some i →
    EvidenceMatches i.source i.ruleRef i.evidence
  device_exists : ∀ {id i}, store.incidents.get? id = some i →
    (store.devices.get? i.deviceId).isSome

theorem IncidentStoreInvariant.of_ledger {keys : Set FindingKey} (hs : LedgerInvariant ids s)
    (he : EvidenceInvariant keys s) : IncidentStoreInvariant s.store where
  one_open := fun h h' ho ho' hfp => by
    rw [← hs.filed h, ← hs.filed h', hs.unique_open h h' ho ho' hfp]
  fingerprint_eq := fun h => by
    have hv := (hs.well_kept h).valid
    rw [(hs.well_kept h).fingerprint_eq]
    exact computeFingerprint_of_not_blank _ hv.deviceId_not_blank hv.ruleRef_not_blank
      hv.affectedResource_not_blank
  createdAt_le_lastSeenAt := fun h => (hs.well_kept h).valid.createdAt_le
  lastSeenAt_le_updatedAt := fun h => (hs.well_kept h).valid.lastSeenAt_le
  resolved_iff := fun h => (hs.well_kept h).valid.resolved_iff
  updatedAt_of_open := fun h => (hs.well_kept h).updatedAt_of_open
  one_le_occurrenceCount := fun h => (hs.well_kept h).valid.one_le_occurrenceCount
  evidence_matches := fun h => he.evidence_matches h
  device_exists := fun h => (hs.well_kept h).device_exists

/-- Every session of a schedule has the ledger's invariant. -/
theorem sessionAfter_ledger (backend : Backend) (ids : IdFactory) (hempty : s.store.incidents = .empty) (calls : List IncidentCall) :
    LedgerInvariant ids (sessionAfter backend ids calls s) :=
  serve_invariant (answer backend ids) (P := fun _ s₁ => LedgerInvariant ids s₁) calls
    (.of_empty ids hempty)
    fun _ _ call _ h => (answered backend h call).invariant h

theorem candidateKeys_singleton_subset {calls : List IncidentCall} (h : call ∈ calls) :
    candidateKeys [call] ⊆ candidateKeys calls := by
  rintro key ⟨candidate, fingerprint, observedAt, hmem, rfl⟩
  rw [List.mem_singleton] at hmem
  exact ⟨candidate, fingerprint, observedAt, hmem ▸ h, rfl⟩

/-- Every session of a schedule has the evidence right, if no two candidates of
the schedule with different keys have one fingerprint. -/
theorem sessionAfter_evidence (hempty : s.store.incidents = .empty) (calls : List IncidentCall)
    {keys : Set FindingKey} (hfree : CollisionFree keys) (hkeys : candidateKeys calls ⊆ keys) :
    EvidenceInvariant keys (sessionAfter backend ids calls s) := by
  refine (serve_invariant (answer backend ids)
    (P := fun _ s₁ => LedgerInvariant ids s₁ ∧ EvidenceInvariant keys s₁)
    calls ⟨.of_empty ids hempty, .of_empty keys hempty⟩ fun _ s₁ call hcall h => ?_).2
  have hanswered := answered backend h.1 call
  exact ⟨hanswered.invariant h.1, hanswered.evidenceInvariant h.1 h.2 hfree
    ((candidateKeys_singleton_subset hcall).trans hkeys)⟩

/-- **The incident store through any run.**  From an empty incident store over
any devices, through any calls, every store on the way satisfies the invariant,
and every call keeps each incident's identity, loses none and leaves the
resolved ones alone. -/
theorem incident_store_invariant (backend : Backend) (ids : IdFactory) {s : Session}
    (hempty : s.store.incidents = .empty) (calls : List IncidentCall)
    (hfree : CollisionFree (candidateKeys calls)) :
    (∀ before after, calls = before ++ after →
      IncidentStoreInvariant (sessionAfter backend ids before s).store) ∧
    (∀ before call after, calls = before ++ call :: after →
      Evolves (sessionAfter backend ids before s).store.incidents
        (sessionAfter backend ids (before ++ [call]) s).store.incidents) := by
  constructor
  · rintro before after rfl
    have hsub : candidateKeys before ⊆ candidateKeys (before ++ after) := by
      rintro key ⟨candidate, fingerprint, observedAt, hmem, rfl⟩
      exact ⟨candidate, fingerprint, observedAt, List.mem_append_left _ hmem, rfl⟩
    exact .of_ledger (sessionAfter_ledger backend ids hempty before)
      (sessionAfter_evidence hempty before hfree hsub)
  · intro before call after _
    have hs := sessionAfter_ledger backend ids hempty before
    have hanswered := answered backend hs call
    have hnext : sessionAfter backend ids (before ++ [call]) s =
        (answer backend ids call (sessionAfter backend ids before s)).2 := by
      rw [sessionAfter, serve_concat]
      rfl
    rw [hnext]
    exact hanswered.evolves hs

/-! A session with a neighbour down on one router, seen twice, resolved, and seen again. -/

/-- The session of a store with the router `r1`. -/
def routerSession : Session where
  store := { Store.empty with
    devices := Dict.empty.set "r1" ⟨"r1", .frr, none, none, 0, 0, by decide, fun _ => ⟨rfl, rfl⟩,
      le_rfl⟩ }
  incidentIdsDrawn := 0
  snapshotIdsDrawn := 0

/-- The neighbour `::1` of the router, observed Idle. -/
def neighborDown (observedAt : Timestamp) : IncidentCandidate where
  deviceId := "r1"
  source := .anomaly
  ruleRef := "RULE-BGP-DOWN"
  affectedResource := "bgp-neighbor:::1"
  severity := .high
  evidence := .rule (.bgpDown ⟨"::1", .idle, none⟩)
  recommendation := "Check the peering."
  observedAt := observedAt
  deviceId_not_blank := by decide
  ruleRef_not_blank := by decide
  affectedResource_not_blank := by decide
  recommendation_not_blank := by decide

/-- Seen at any time it is one finding. -/
theorem fingerprint_neighborDown (t t' : Timestamp) :
    (neighborDown t).fingerprint = (neighborDown t').fingerprint := rfl

/-- Two observations, a resolve, a stale observation and a new one. -/
def flappingCalls : List IncidentCall :=
  [.upsert (neighborDown 5) (neighborDown 5).fingerprint (.utc 5),
    .upsert (neighborDown 7) (neighborDown 7).fingerprint (.utc 7),
    .resolve "I" (.utc 8),
    .upsert (neighborDown 9) (neighborDown 9).fingerprint (.utc 9),
    .upsert (neighborDown 6) (neighborDown 6).fingerprint (.utc 6)]

theorem candidateKeys_flappingCalls : candidateKeys flappingCalls ⊆ {(neighborDown 0).key} := by
  rintro key ⟨candidate, fingerprint, observedAt, hmem, rfl⟩
  simp only [flappingCalls, List.mem_cons, IncidentCall.upsert.injEq, reduceCtorEq, false_or,
    List.not_mem_nil, or_false] at hmem
  rcases hmem with ⟨rfl, -, -⟩ | ⟨rfl, -, -⟩ | ⟨rfl, -, -⟩ | ⟨rfl, -, -⟩ <;> rfl

theorem incident_store_invariant_flapping :
    IncidentStoreInvariant
        (sessionAfter .memory (tallyIds 'I') flappingCalls routerSession).store ∧
      Evolves (sessionAfter .memory (tallyIds 'I') (flappingCalls.take 3) routerSession).store.incidents
        (sessionAfter .memory (tallyIds 'I') (flappingCalls.take 4) routerSession).store.incidents := by
  have hfree : CollisionFree (candidateKeys flappingCalls) :=
    (Set.subsingleton_singleton.anti candidateKeys_flappingCalls).injOn _
  have hrun := incident_store_invariant .memory (tallyIds 'I') (s := routerSession) rfl
    flappingCalls hfree
  exact ⟨hrun.1 flappingCalls [] (List.append_nil _).symm, hrun.2 (flappingCalls.take 3) _ _ rfl⟩

/-! ### The balance of a run -/

/-- An upsert for the fingerprint that returned. -/
def isCountedFor (fingerprint : String) : IncidentCall × IncidentReply → Bool
  | (.upsert _ fingerprint' _, .upserted _) => fingerprint' == fingerprint
  | _ => false

/-- An upsert that returned `CREATED`. -/
def isCreated : IncidentCall × IncidentReply → Bool
  | (_, .upserted result) => result.outcome == .created
  | _ => false

theorem Answered.occurrences_eq (h : Answered ids s call reply s') (hs : LedgerInvariant ids s)
    (fingerprint : String) :
    occurrences fingerprint s'.store.incidents =
      occurrences fingerprint s.store.incidents +
        if isCountedFor fingerprint (call, reply) then 1 else 0 := by
  cases h with
  | upserted hmatch hstep =>
      rw [hstep.occurrences_eq hs]
      simp only [isCountedFor, IncidentCandidate.countsFor, beq_iff_eq]
  | resolved hstep => exact hstep.occurrences_eq fingerprint
  | raised hsame =>
      rw [hsame.store_eq]
      cases call <;> rfl

theorem Answered.size_eq (h : Answered ids s call reply s') (hs : LedgerInvariant ids s) :
    s'.store.incidents.size =
      s.store.incidents.size + if isCreated (call, reply) then 1 else 0 := by
  cases h with
  | upserted hmatch hstep =>
      rw [hstep.size_eq hs]
      simp only [isCreated, IncidentUpsertResult.opened, beq_iff_eq]
  | resolved hstep => exact hstep.size_eq
  | raised hsame =>
      rw [hsame.store_eq]
      cases call <;> rfl

/-- **No observation is lost or counted twice.**  After any schedule of calls on
an empty incident store, the counts of a fingerprint's incidents add up to the
upserts for it that returned, there is one incident for each upsert that
returned `CREATED`, and a call that raised left the store as it was. -/
theorem every_observation_counted_once (backend : Backend) (ids : IdFactory) {s : Session}
    (hempty : s.store.incidents = .empty) (calls : List IncidentCall) :
    let served := serve (answer backend ids) calls s
    (∀ fingerprint, occurrences fingerprint served.2.store.incidents =
      served.1.countP (isCountedFor fingerprint)) ∧
    served.2.store.incidents.size = served.1.countP isCreated ∧
    (∀ before call after e, calls = before ++ call :: after →
      (answer backend ids call (sessionAfter backend ids before s)).1 = .raised e →
      (sessionAfter backend ids (before ++ [call]) s).store =
        (sessionAfter backend ids before s).store) := by
  have hbalance := serve_invariant (answer backend ids) (s := s)
    (P := fun log s₁ => LedgerInvariant ids s₁ ∧
      (∀ fingerprint, occurrences fingerprint s₁.store.incidents =
        log.countP (isCountedFor fingerprint)) ∧
      s₁.store.incidents.size = log.countP isCreated)
    calls ⟨.of_empty ids hempty, fun fingerprint => by rw [hempty]; rfl, by rw [hempty]; rfl⟩
    fun log s₁ call _ h => by
      obtain ⟨hs, hcount, hsize⟩ := h
      have hanswered := answered backend hs call
      refine ⟨hanswered.invariant hs, fun fingerprint => ?_, ?_⟩
      · rw [hanswered.occurrences_eq hs, hcount, List.countP_append, List.countP_singleton]
      · rw [hanswered.size_eq hs, hsize, List.countP_append, List.countP_singleton]
  refine ⟨hbalance.2.1, hbalance.2.2, fun before call after e _ hraised => ?_⟩
  have hs := sessionAfter_ledger backend ids hempty before
  have hanswered := answered backend hs call
  have hnext : sessionAfter backend ids (before ++ [call]) s =
      (answer backend ids call (sessionAfter backend ids before s)).2 := by
    rw [sessionAfter, serve_concat]
    rfl
  rw [hnext]
  rw [hraised] at hanswered
  cases hanswered with
  | raised hsame => exact hsame.store_eq

set_option maxRecDepth 20000 in
theorem every_observation_counted_once_flapping :
    occurrences (neighborDown 0).fingerprint
        (sessionAfter .memory (tallyIds 'I') (flappingCalls.take 2) routerSession).store.incidents
      = 2 := by
  have hrun := every_observation_counted_once .memory (tallyIds 'I') (s := routerSession) rfl
    (flappingCalls.take 2)
  have hcounted : (serve (answer .memory (tallyIds 'I')) (flappingCalls.take 2)
      routerSession).1.countP (isCountedFor (neighborDown 5).fingerprint) = 2 := by
    decide +kernel
  rw [sessionAfter, fingerprint_neighborDown 0 5, hrun.1, hcounted]

end MetaRne
