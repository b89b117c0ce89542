/-
# The in-memory incident repository

`persistence/memory/incident_repository.py`.  An upsert validates its
candidate, then opens an incident or counts the observation by the open one; a
resolve hands the stored incident to `Incident.resolve`.

An operation that returns takes a ledger step (`upsertOpenIncident_ok`,
`resolve_ok`); one that raises has written nothing (`upsertOpenIncident_error`,
`resolve_error`).
-/

import MetaRne.Persistence.IncidentLedger

namespace MetaRne
namespace Memory

open Library Library.Effect Python

/-- `InMemoryIncidentRepository.upsert_open_incident`. -/
def upsertOpenIncident (ids : IdFactory) (candidate : IncidentCandidate) (fingerprint : String)
    (observedAt : Datetime) : Action IncidentUpsertResult := do
  validateCandidateConsistency candidate fingerprint observedAt
  let s ← get
  match findOpenByFingerprint s.store.incidents fingerprint with
  | none =>
    raiseIf (s.store.devices.get? candidate.deviceId).isNone
      (Error.referencedDeviceNotFound candidate.deviceId)
    let incidentId ← drawIncidentId ids
    requireNonEmptyIncidentId incidentId
    let incident ← Incident.new
      { incidentId
        fingerprint
        deviceId := candidate.deviceId
        source := candidate.source
        ruleRef := candidate.ruleRef
        affectedResource := candidate.affectedResource
        severity := candidate.severity
        status := .open
        evidence := candidate.evidence
        recommendation := candidate.recommendation
        createdAt := observedAt
        lastSeenAt := observedAt
        occurrenceCount := 1
        updatedAt := observedAt
        resolvedAt := none }
    modify fun s => s.setIncident incidentId incident
    return ⟨incident, .created⟩
  | some existing =>
    let stale ← observedAt.lt (.utc existing.lastSeenAt)
    raiseIf stale (Error.valueError ("stale observation: observed_at precedes the existing OPEN " ++
      "incident's last_seen_at") [])
    let updated ← Incident.new { existing.toDatetimes with
      severity := candidate.severity
      evidence := candidate.evidence
      recommendation := candidate.recommendation
      lastSeenAt := observedAt
      occurrenceCount := existing.occurrenceCount + 1
      updatedAt := observedAt }
    modify fun s => s.setIncident existing.incidentId updated
    return ⟨updated, .updated⟩

/-- `InMemoryIncidentRepository.resolve`. -/
def resolve (incidentId : String) (resolvedAt : Datetime) : Action (Option Incident) := do
  let s ← get
  match s.store.incidents.get? incidentId with
  | none => return none
  | some existing =>
    let resolved ← existing.resolve resolvedAt
    modify fun s => s.setIncident incidentId resolved
    return some resolved

/-- `InMemoryIncidentRepository.get_open_by_fingerprint`. -/
def getOpenByFingerprint (fingerprint : String) : Action (Option Incident) := do
  let s ← get
  return findOpenByFingerprint s.store.incidents fingerprint

variable {ids : IdFactory} {candidate : IncidentCandidate} {fingerprint : String}
  {observedAt : Datetime} {s s' : Session}

/-- A record that passes the constructor was last seen at a UTC instant: the
candidate's. -/
theorem observedAt_eq_of_new {r : IncidentRecord Datetime} {i : Incident}
    (h : Incident.new r = .ok i) (hobs : r.lastSeenAt.instant? = some (candidate.observedAt : ℤ)) :
    r.lastSeenAt = .utc candidate.observedAt := by
  obtain ⟨rfl, -⟩ := Incident.new_eq_ok.1 h
  change (Datetime.utc i.lastSeenAt).instant? = _ at hobs
  rw [Datetime.instant?_utc, Option.some.injEq] at hobs
  exact congrArg Datetime.utc (Int.ofNat.inj hobs)

/-- **An upsert that returns takes a ledger step**, for a candidate handed in
with its own fingerprint and the evidence its rule calls for. -/
theorem upsertOpenIncident_ok {r : IncidentUpsertResult}
    (h : (upsertOpenIncident ids candidate fingerprint observedAt).run s = .ok r s') :
    fingerprint = candidate.fingerprint ∧
      EvidenceMatches candidate.source candidate.ruleRef candidate.evidence ∧
      UpsertStep ids candidate s r s' := by
  unfold upsertOpenIncident at h
  rw [check_bind_eq_ok] at h
  obtain ⟨_, hval, h⟩ := h
  obtain ⟨rfl, hobs, hmatch⟩ := validateCandidateConsistency_eq_ok.1 hval
  rw [get_bind] at h
  refine ⟨rfl, hmatch, ?_⟩
  cases hfind : findOpenByFingerprint s.store.incidents candidate.fingerprint with
  | none =>
      simp only [hfind, check_bind_eq_ok, drawIncidentId_bind, modify_bind, raiseIf_eq_ok] at h
      obtain ⟨-, hdevice, -, -, incident, hnew, h⟩ := h
      have hutc : observedAt = .utc candidate.observedAt := observedAt_eq_of_new hnew hobs
      subst hutc
      obtain ⟨rfl, -⟩ := Incident.new_toDatetimes_eq_ok.1
        (show Incident.new (candidate.opened (ids.next s.incidentIdsDrawn)).toDatetimes = _
          from hnew)
      obtain ⟨rfl, rfl⟩ := pure_eq_ok.1 h
      exact .created hfind (Dict.isSome_of_not_isNone hdevice)
  | some existing =>
      simp only [hfind, check_bind_eq_ok, modify_bind, raiseIf_eq_ok] at h
      obtain ⟨stale, hlt, -, hstale, updated, hnew, h⟩ := h
      have hutc : observedAt = .utc candidate.observedAt := observedAt_eq_of_new hnew hobs
      subst hutc
      obtain ⟨rfl, -⟩ := Incident.new_toDatetimes_eq_ok.1
        (show Incident.new (existing.seenAgain candidate).toDatetimes = _ from hnew)
      obtain ⟨rfl, rfl⟩ := pure_eq_ok.1 h
      refine .updated existing s (Or.inl rfl) hfind ?_
      rw [Datetime.lt_utc hobs, Except.ok.injEq] at hlt
      rw [← hlt, decide_eq_true_iff, not_lt] at hstale
      exact_mod_cast hstale

/-- **An upsert that raises has written nothing.** -/
theorem upsertOpenIncident_error {e : Error}
    (h : (upsertOpenIncident ids candidate fingerprint observedAt).run s = .error e s') :
    SameStore s s' := by
  unfold upsertOpenIncident at h
  rw [check_bind_eq_error] at h
  obtain ⟨-, rfl⟩ | ⟨_, -, h⟩ := h
  · exact Or.inl rfl
  rw [get_bind] at h
  cases hfind : findOpenByFingerprint s.store.incidents fingerprint with
  | none =>
      simp only [hfind, check_bind_eq_error, drawIncidentId_bind, modify_bind] at h
      obtain ⟨-, rfl⟩ | ⟨-, -, ⟨-, rfl⟩ | ⟨-, -, ⟨-, rfl⟩ | ⟨_, -, h⟩⟩⟩ := h
      · exact Or.inl rfl
      · exact Or.inr rfl
      · exact Or.inr rfl
      · exact absurd h pure_ne_error
  | some existing =>
      simp only [hfind, check_bind_eq_error, modify_bind] at h
      obtain ⟨-, rfl⟩ | ⟨-, -, ⟨-, rfl⟩ | ⟨-, -, ⟨-, rfl⟩ | ⟨_, -, h⟩⟩⟩ := h
      · exact Or.inl rfl
      · exact Or.inl rfl
      · exact Or.inl rfl
      · exact absurd h pure_ne_error

/-- **A resolve that returns takes a ledger step.**  Writing a resolved incident
back over itself is no step at all. -/
theorem resolve_ok {incidentId : String} {resolvedAt : Datetime} {r : Option Incident}
    (h : (resolve incidentId resolvedAt).run s = .ok r s') :
    ResolveStep incidentId resolvedAt s r s' := by
  unfold resolve at h
  rw [get_bind] at h
  cases hget : s.store.incidents.get? incidentId with
  | none =>
      simp only [hget] at h
      obtain ⟨rfl, rfl⟩ := pure_eq_ok.1 h
      exact .unknown hget
  | some existing =>
      simp only [hget, check_bind_eq_ok, modify_bind] at h
      obtain ⟨resolved, hres, h⟩ := h
      obtain ⟨rfl, rfl⟩ := pure_eq_ok.1 h
      obtain ⟨hst, rfl⟩ | ⟨hopen, t, rfl, hle, rfl⟩ := Incident.resolve_ok hres
      · have hsame : s.setIncident incidentId resolved = s := by
          rw [Session.setIncident, Dict.set_eq_self hget]
        rw [hsame]
        exact .already resolved hget hst
      · exact .resolved existing t (Datetime.instant?_utc t) hget hopen hle

/-- **A resolve that raises has written nothing.** -/
theorem resolve_error {incidentId : String} {resolvedAt : Datetime} {e : Error}
    (h : (resolve incidentId resolvedAt).run s = .error e s') : s' = s := by
  unfold resolve at h
  rw [get_bind] at h
  cases hget : s.store.incidents.get? incidentId with
  | none =>
      simp only [hget] at h
      exact absurd h pure_ne_error
  | some existing =>
      simp only [hget, check_bind_eq_error, modify_bind] at h
      obtain ⟨-, hs⟩ | ⟨_, -, h⟩ := h
      · exact hs
      · exact absurd h pure_ne_error

end Memory
end MetaRne
