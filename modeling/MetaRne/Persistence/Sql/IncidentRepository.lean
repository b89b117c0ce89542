/-
# The SQL incident repository

`persistence/sqlalchemy/incident_repository.py`.  An upsert is one
`INSERT … ON CONFLICT (fingerprint) WHERE status = 'OPEN' DO UPDATE … WHERE`
statement and a resolve one conditional `UPDATE`; a second query only finds out
why a statement touched no row.  The table is the `incidents` collection of the
store, its primary key the incident id.

What the database itself refuses is modelled with it: a text with a NUL
character, evidence that is not JSON, a count beyond 32 bits, an unknown device
and a primary key in use.  A refused statement is rolled back to its savepoint.
A row is read back through the constructor of `Incident`, after it was written:
that this never raises needs the ledger's invariant.
-/

import MetaRne.Persistence.IncidentLedger

namespace MetaRne
namespace Sql

open Library Library.Effect Python

/-- A text that a `TEXT` or `JSONB` column holds: one without a NUL character. -/
def isText (s : String) : Bool := !s.toList.contains (Char.ofNat 0)

/-- Evidence that a `JSONB` column holds: its texts without NUL, its numbers finite. -/
def isStorableEvidence : IncidentEvidence → Bool
  | .policyViolation e =>
    isText e.sourceSnapshotId && isText e.expectedAclName && e.actualAclName.all isText &&
      isText e.interfaceName
  | .rule (.cpuHigh e) => e.samples.all fun sample => sample.cpuUtilizationPct.isFinite
  | .rule (.linkFlap e) => isText e.interfaceName
  | .rule (.bgpDown e) => isText e.neighborIp

/-- The columns of a candidate's row are of their types. -/
def isStorable (incidentId : String) (candidate : IncidentCandidate) : Bool :=
  isText incidentId && isText candidate.deviceId && isText candidate.ruleRef &&
    isText candidate.affectedResource && isText candidate.recommendation &&
    isStorableEvidence candidate.evidence

/-- The greatest value of an `INTEGER` column. -/
def maxInteger : ℕ := 2147483647

/-- `_to_utc`. -/
def toUtc (value : Datetime) : Except Error Timestamp :=
  match value.instant? with
  | none => .error (.valueError "database timestamp must be timezone-aware" [])
  | some instant =>
    if 0 ≤ instant ∧ instant ≤ maxTimestamp then .ok instant.toNat
    else .error (.overflowError "date value out of range")

/-- `_to_domain`, which reads a row back through the constructor. -/
def toDomain (row : Incident) : Except Error Incident := Incident.new row.toDatetimes

/-- `SqlAlchemyIncidentRepository.get_open_by_fingerprint`. -/
def getOpenByFingerprint (fingerprint : String) : Action (Option Incident) := do
  let s ← get
  match findOpenByFingerprint s.store.incidents fingerprint with
  | none => return none
  | some row =>
    let incident ← toDomain row
    return some incident

/-- `SqlAlchemyIncidentRepository.upsert_open_incident`. -/
def upsertOpenIncident (ids : IdFactory) (candidate : IncidentCandidate) (fingerprint : String)
    (observedAt : Datetime) : Action IncidentUpsertResult := do
  validateCandidateConsistency candidate fingerprint observedAt
  let incidentId ← drawIncidentId ids
  requireNonEmptyIncidentId incidentId
  raiseIf (isStorable incidentId candidate = false) (Error.data "invalid text representation")
  let s ← get
  match findOpenByFingerprint s.store.incidents fingerprint with
  | none =>
    -- INSERT: the primary key is checked with the row, the foreign key after it
    raiseIf (s.store.incidents.get? incidentId).isSome
      (Error.persistence "unexpected persistence failure while upserting incident")
    raiseIf (s.store.devices.get? candidate.deviceId).isNone
      (Error.referencedDeviceNotFound candidate.deviceId)
    -- `observed_at` denotes the candidate's instant, which is what the columns store
    let row : Incident :=
      { incidentId
        fingerprint
        deviceId := candidate.deviceId
        source := candidate.source
        ruleRef := candidate.ruleRef
        affectedResource := candidate.affectedResource
        severity := candidate.severity
        status := .open
        evidence := candidate.evidence
        recommendation := candidate.recommendation
        createdAt := candidate.observedAt
        lastSeenAt := candidate.observedAt
        occurrenceCount := 1
        updatedAt := candidate.observedAt
        resolvedAt := none }
    modify fun s => s.setIncident incidentId row
    let incident ← toDomain row
    return ⟨incident, .created⟩
  | some existing =>
    if existing.lastSeenAt ≤ candidate.observedAt then
      -- DO UPDATE
      raiseIf (maxInteger < existing.occurrenceCount + 1) (Error.data "integer out of range")
      let row : Incident := { existing with
        lastSeenAt := candidate.observedAt
        occurrenceCount := existing.occurrenceCount + 1
        severity := candidate.severity
        evidence := candidate.evidence
        recommendation := candidate.recommendation
        updatedAt := candidate.observedAt }
      modify fun s => s.setIncident existing.incidentId row
      let incident ← toDomain row
      return ⟨incident, .updated⟩
    else
      -- the condition of the update held it back: no row came back
      match ← getOpenByFingerprint fingerprint with
      | some existing =>
        raiseIf (candidate.observedAt < existing.lastSeenAt) (Error.valueError
          ("stale observation: observed_at precedes the existing OPEN " ++
            "incident's last_seen_at") [])
        throw (Error.persistence ("unexpected persistence failure: upsert_open_incident's " ++
          "conditional ON CONFLICT DO UPDATE affected no row"))
      | none =>
        throw (Error.persistence ("unexpected persistence failure: upsert_open_incident's " ++
          "conditional ON CONFLICT DO UPDATE affected no row"))

/-- `SqlAlchemyIncidentRepository.resolve`. -/
def resolve (incidentId : String) (resolvedAt : Datetime) : Action (Option Incident) := do
  let resolvedAt ← toUtc resolvedAt
  raiseIf (isText incidentId = false) (Error.data "invalid text representation")
  let s ← get
  match s.store.incidents.get? incidentId with
  | none => return none
  | some existing =>
    if existing.status = .open ∧ existing.updatedAt ≤ resolvedAt then
      let row : Incident :=
        { existing with status := .resolved, resolvedAt := some resolvedAt, updatedAt := resolvedAt }
      modify fun s => s.setIncident incidentId row
      let incident ← toDomain row
      return some incident
    else if existing.status = .resolved then
      let incident ← toDomain existing
      return some incident
    else if existing.status = .open then
      throw (Error.valueError
        "cannot resolve incident %r: resolved_at %r precedes the persisted updated_at %r"
        [incidentId, .datetime resolvedAt, .datetime existing.updatedAt])
    else
      throw (Error.valueError
        "cannot resolve incident %r: persisted status is %r, not OPEN or RESOLVED"
        [incidentId, existing.status.value])

variable {ids : IdFactory} {candidate : IncidentCandidate} {fingerprint : String}
  {observedAt : Datetime} {s s' : Session}

theorem toDomain_eq_ok {row incident : Incident} :
    toDomain row = .ok incident ↔ incident = row ∧ row.Valid := Incident.new_toDatetimes_eq_ok

/-- A valid row is read back as it is. -/
theorem toDomain_ne_error {row : Incident} (h : row.Valid) (e : Error) :
    toDomain row ≠ .error e := by
  rw [toDomain_eq_ok.2 ⟨rfl, h⟩]
  nofun

/-- The instant that a datetime denotes is the timestamp it is stored as. -/
theorem instant?_of_toUtc {value : Datetime} {t : Timestamp} (h : toUtc value = .ok t) :
    value.instant? = some (t : ℤ) := by
  unfold toUtc at h
  split at h
  · cases h
  · next instant hinstant =>
    split_ifs at h with hrange
    rw [hinstant, ← Except.ok.inj h, Int.toNat_of_nonneg hrange.1]

/-- **An upsert that returns takes a ledger step**, for a candidate handed in
with its own fingerprint and the evidence its rule calls for. -/
theorem upsertOpenIncident_ok {r : IncidentUpsertResult}
    (h : (upsertOpenIncident ids candidate fingerprint observedAt).run s = .ok r s') :
    fingerprint = candidate.fingerprint ∧
      EvidenceMatches candidate.source candidate.ruleRef candidate.evidence ∧
      UpsertStep ids candidate s r s' := by
  unfold upsertOpenIncident at h
  rw [check_bind_eq_ok] at h
  obtain ⟨_, hval, h⟩ := h
  obtain ⟨rfl, -, hmatch⟩ := validateCandidateConsistency_eq_ok.1 hval
  refine ⟨rfl, hmatch, ?_⟩
  simp only [check_bind_eq_ok, drawIncidentId_bind, get_bind] at h
  obtain ⟨_, -, _, -, h⟩ := h
  change EStateM.run (match findOpenByFingerprint s.store.incidents candidate.fingerprint with
    | none => _ | some existing => _) s.drawIncidentId = _ at h
  cases hfind : findOpenByFingerprint s.store.incidents candidate.fingerprint with
  | none =>
      simp only [hfind, check_bind_eq_ok, modify_bind, raiseIf_eq_ok] at h
      obtain ⟨_, -, _, hdevice, incident, hrow, h⟩ := h
      obtain ⟨rfl, -⟩ := toDomain_eq_ok.1 hrow
      obtain ⟨rfl, rfl⟩ := pure_eq_ok.1 h
      exact .created hfind (Dict.isSome_of_not_isNone hdevice)
  | some existing =>
      simp only [hfind] at h
      split_ifs at h with hle
      · simp only [check_bind_eq_ok, modify_bind] at h
        obtain ⟨_, -, incident, hrow, h⟩ := h
        obtain ⟨rfl, -⟩ := toDomain_eq_ok.1 hrow
        obtain ⟨rfl, rfl⟩ := pure_eq_ok.1 h
        exact .updated existing _ (Or.inr rfl) hfind hle
      · obtain ⟨found, s₁, -, h⟩ := bind_eq_ok.1 h
        cases found with
        | none => exact absurd h throw_ne_ok
        | some found =>
            rw [check_bind_eq_ok] at h
            obtain ⟨_, -, h⟩ := h
            exact absurd h throw_ne_ok

/-- Looking an open incident up writes nothing. -/
theorem getOpenByFingerprint_respects (fingerprint : String) :
    Respects Eq (getOpenByFingerprint fingerprint) := by
  intro s
  unfold getOpenByFingerprint
  rw [final, get_bind]
  cases findOpenByFingerprint s.store.incidents fingerprint with
  | none => rfl
  | some row =>
      simp only
      cases hrow : toDomain row <;> rfl

/-- **An upsert that raises has written nothing**: a refused statement is rolled
back, and a row that was written is read back without a complaint. -/
theorem upsertOpenIncident_error (hs : LedgerInvariant ids s) {e : Error}
    (h : (upsertOpenIncident ids candidate fingerprint observedAt).run s = .error e s') :
    SameStore s s' := by
  unfold upsertOpenIncident at h
  rw [check_bind_eq_error] at h
  obtain ⟨-, rfl⟩ | ⟨_, hval, h⟩ := h
  · exact Or.inl rfl
  obtain ⟨rfl, -, -⟩ := validateCandidateConsistency_eq_ok.1 hval
  simp only [check_bind_eq_error, drawIncidentId_bind, get_bind] at h
  obtain ⟨-, rfl⟩ | ⟨_, -, ⟨-, rfl⟩ | ⟨_, -, h⟩⟩ := h
  · exact Or.inr rfl
  · exact Or.inr rfl
  change EStateM.run (match findOpenByFingerprint s.store.incidents candidate.fingerprint with
    | none => _ | some existing => _) s.drawIncidentId = _ at h
  cases hfind : findOpenByFingerprint s.store.incidents candidate.fingerprint with
  | none =>
      simp only [hfind, check_bind_eq_error, modify_bind] at h
      obtain ⟨-, rfl⟩ | ⟨_, -, ⟨-, rfl⟩ | ⟨_, -, ⟨hrow, -⟩ | ⟨_, -, h⟩⟩⟩ := h
      · exact Or.inr rfl
      · exact Or.inr rfl
      · exact absurd hrow (toDomain_ne_error (candidate.opened_valid ids _) e)
      · exact absurd h pure_ne_error
  | some existing =>
      obtain ⟨hget, hopen, -⟩ := hs.get?_of_findOpen hfind
      simp only [hfind] at h
      split_ifs at h with hle
      · simp only [check_bind_eq_error, modify_bind] at h
        obtain ⟨-, rfl⟩ | ⟨_, -, ⟨hrow, -⟩ | ⟨_, -, h⟩⟩ := h
        · exact Or.inr rfl
        · exact absurd hrow
            (toDomain_ne_error ((hs.well_kept hget).valid.seenAgain hopen hle) e)
        · exact absurd h pure_ne_error
      · have hread := getOpenByFingerprint_respects candidate.fingerprint s.drawIncidentId
        rcases bind_eq_error.1 h with h | ⟨found, s₁, hfound, h⟩
        · rw [final_of_error h] at hread
          exact Or.inr hread.symm
        · rw [final_of_ok hfound] at hread
          subst hread
          cases found with
          | none => exact Or.inr (throw_eq_error.1 h).2.symm
          | some found =>
              rw [check_bind_eq_error] at h
              obtain ⟨-, rfl⟩ | ⟨_, -, h⟩ := h
              · exact Or.inr rfl
              · exact Or.inr (throw_eq_error.1 h).2.symm

/-- **A resolve that returns takes a ledger step.** -/
theorem resolve_ok {incidentId : String} {resolvedAt : Datetime} {r : Option Incident}
    (h : (resolve incidentId resolvedAt).run s = .ok r s') :
    ResolveStep incidentId resolvedAt s r s' := by
  unfold resolve at h
  simp only [check_bind_eq_ok, get_bind] at h
  obtain ⟨t, htime, _, -, h⟩ := h
  cases hget : s.store.incidents.get? incidentId with
  | none =>
      simp only [hget] at h
      obtain ⟨rfl, rfl⟩ := pure_eq_ok.1 h
      exact .unknown hget
  | some existing =>
      simp only [hget] at h
      split_ifs at h with hupdate hresolved hopen
      · simp only [modify_bind, check_bind_eq_ok] at h
        obtain ⟨incident, hrow, h⟩ := h
        obtain ⟨rfl, -⟩ := toDomain_eq_ok.1 hrow
        obtain ⟨rfl, rfl⟩ := pure_eq_ok.1 h
        exact .resolved existing t (instant?_of_toUtc htime) hget hupdate.1 hupdate.2
      · rw [check_bind_eq_ok] at h
        obtain ⟨incident, hrow, h⟩ := h
        obtain ⟨rfl, -⟩ := toDomain_eq_ok.1 hrow
        obtain ⟨rfl, rfl⟩ := pure_eq_ok.1 h
        exact .already incident hget hresolved
      · exact absurd h throw_ne_ok
      · exact absurd h throw_ne_ok

/-- **A resolve that raises has written nothing.** -/
theorem resolve_error (hs : LedgerInvariant ids s) {incidentId : String}
    {resolvedAt : Datetime} {e : Error}
    (h : (resolve incidentId resolvedAt).run s = .error e s') : s' = s := by
  unfold resolve at h
  simp only [check_bind_eq_error, get_bind] at h
  obtain ⟨-, rfl⟩ | ⟨t, -, ⟨-, rfl⟩ | ⟨_, -, h⟩⟩ := h
  · rfl
  · rfl
  cases hget : s.store.incidents.get? incidentId with
  | none =>
      simp only [hget] at h
      exact absurd h pure_ne_error
  | some existing =>
      have hvalid := (hs.well_kept hget).valid
      simp only [hget] at h
      split_ifs at h with hupdate hresolved hopen
      · simp only [modify_bind, check_bind_eq_error] at h
        obtain ⟨hrow, -⟩ | ⟨_, -, h⟩ := h
        · exact absurd hrow (toDomain_ne_error (hvalid.resolvedAs hupdate.2) e)
        · exact absurd h pure_ne_error
      · rw [check_bind_eq_error] at h
        obtain ⟨-, rfl⟩ | ⟨_, -, h⟩ := h
        · rfl
        · exact absurd h pure_ne_error
      · exact (throw_eq_error.1 h).2.symm
      · exact (throw_eq_error.1 h).2.symm

end Sql
end MetaRne
