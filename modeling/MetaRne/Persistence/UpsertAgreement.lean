/-
# Two implementations of an upsert

The in-memory `upsert_open_incident` decides in Python; the SQL one is a single
`INSERT … ON CONFLICT … DO UPDATE … WHERE`, which a second query explains when it
wrote nothing.  Both make the same checks first, and on a store with the ledger's
invariant they go through the same cases after them.

They part in one: both checks compare instants, so an observation in another zone
than UTC passes; PostgreSQL stores its instant, and the constructor of `Incident`
turns it away.  `upserts_alike_iff` says that this is the only one.
-/

import MetaRne.Persistence.ResolveAgreement

namespace MetaRne

open Library Library.Effect Python

variable {ids : IdFactory} {candidate : IncidentCandidate} {fingerprint : String}
  {observedAt : Datetime} {s : Session} {existing : Incident}

/-- The two runs return the same or raise the same, and leave the same store; the
ids handed out may differ. -/
def SameAnswer {α : Type} : EStateM.Result Error Session α → EStateM.Result Error Session α → Prop :=
  Alike Eq fun s t => s.store = t.store

/-- **The two upserts come to one answer.** -/
def UpsertsAlike (ids : IdFactory) (candidate : IncidentCandidate) (fingerprint : String)
    (observedAt : Datetime) (s : Session) : Prop :=
  SameAnswer ((Memory.upsertOpenIncident ids candidate fingerprint observedAt).run s)
    ((Sql.upsertOpenIncident ids candidate fingerprint observedAt).run s)

/-- Where they do: at a UTC observation, and at one that both reject. -/
inductive UpsertsAlikeWhen (candidate : IncidentCandidate) (fingerprint : String)
    (observedAt : Datetime) (store : Store) : Prop
  | utc (t : Timestamp) (h : observedAt = .utc t)
  /-- It is not handed in under its own fingerprint. -/
  | fingerprint (h : fingerprint ≠ candidate.fingerprint)
  /-- It is not handed in with its own time. -/
  | instant (h : observedAt.instant? ≠ some (candidate.observedAt : ℤ))
  /-- Its evidence is not the one its source and rule call for. -/
  | evidence (h : ¬ EvidenceMatches candidate.source candidate.ruleRef candidate.evidence)
  /-- It would open an incident of a device that is not stored. -/
  | device (hnone : findOpenByFingerprint store.incidents fingerprint = none)
      (h : (store.devices.get? candidate.deviceId).isNone)
  /-- The open incident was seen later. -/
  | stale (existing : Incident)
      (hopen : findOpenByFingerprint store.incidents fingerprint = some existing)
      (h : candidate.observedAt < existing.lastSeenAt)

/-- The error of an observation that comes too late. -/
def staleObservation : Error :=
  .valueError ("stale observation: observed_at precedes the existing OPEN " ++
    "incident's last_seen_at") []

/-! ### The checks both make -/

theorem Memory.upsert_of_invalid {e : Error}
    (h : validateCandidateConsistency candidate fingerprint observedAt = .error e) :
    (Memory.upsertOpenIncident ids candidate fingerprint observedAt).run s = .error e s := by
  unfold Memory.upsertOpenIncident
  rw [check_bind_of_error h]

theorem Sql.upsert_of_invalid {e : Error}
    (h : validateCandidateConsistency candidate fingerprint observedAt = .error e) :
    (Sql.upsertOpenIncident ids candidate fingerprint observedAt).run s = .error e s := by
  unfold Sql.upsertOpenIncident
  rw [check_bind_of_error h]

section Consistent

variable (hval : validateCandidateConsistency candidate fingerprint observedAt = .ok ())
include hval

/-! ### The in-memory cases -/

theorem Memory.upsert_of_unknown_device
    (hfind : findOpenByFingerprint s.store.incidents fingerprint = none)
    (hdevice : (s.store.devices.get? candidate.deviceId).isNone) :
    (Memory.upsertOpenIncident ids candidate fingerprint observedAt).run s =
      .error (.referencedDeviceNotFound candidate.deviceId) s := by
  unfold Memory.upsertOpenIncident
  rw [check_bind_of_ok hval, get_bind]
  simp only [hfind]
  exact check_bind_of_error (raiseIf_eq_error.2 ⟨hdevice, rfl⟩) _ _

theorem Memory.upsert_of_stale
    (hfind : findOpenByFingerprint s.store.incidents fingerprint = some existing)
    (hlt : candidate.observedAt < existing.lastSeenAt) :
    (Memory.upsertOpenIncident ids candidate fingerprint observedAt).run s =
      .error staleObservation s := by
  obtain ⟨-, hinstant, -⟩ := validateCandidateConsistency_eq_ok.1 hval
  have hstale : observedAt.lt (.utc existing.lastSeenAt) = .ok true := by
    rw [Datetime.lt_utc hinstant, Except.ok.injEq, decide_eq_true_iff]
    exact_mod_cast hlt
  unfold Memory.upsertOpenIncident
  rw [check_bind_of_ok hval, get_bind]
  simp only [hfind]
  rw [check_bind_of_ok hstale]
  exact check_bind_of_error (raiseIf_eq_error.2 ⟨rfl, rfl⟩) _ _

/-- A UTC observation opens an incident. -/
theorem Memory.upsert_of_new (hutc : observedAt = .utc candidate.observedAt)
    (hfind : findOpenByFingerprint s.store.incidents fingerprint = none)
    (hdevice : (s.store.devices.get? candidate.deviceId).isSome) :
    (Memory.upsertOpenIncident ids candidate fingerprint observedAt).run s =
      .ok ⟨candidate.opened (ids.next s.incidentIdsDrawn), .created⟩
        (s.drawIncidentId.setIncident (ids.next s.incidentIdsDrawn)
          (candidate.opened (ids.next s.incidentIdsDrawn))) := by
  obtain ⟨rfl, -, -⟩ := validateCandidateConsistency_eq_ok.1 hval
  subst hutc
  have hknown : ¬ (s.store.devices.get? candidate.deviceId).isNone := by
    rw [Bool.not_eq_true, Option.isNone_eq_false_iff]
    exact hdevice
  have hid : requireNonEmptyIncidentId (ids.next s.incidentIdsDrawn) = .ok () :=
    requireNonEmptyIncidentId_eq_ok.2 (ids.not_blank _)
  have hnew : Incident.new (candidate.opened (ids.next s.incidentIdsDrawn)).toDatetimes =
      .ok (candidate.opened (ids.next s.incidentIdsDrawn)) :=
    Incident.new_toDatetimes_eq_ok.2 ⟨rfl, candidate.opened_valid ids _⟩
  unfold Memory.upsertOpenIncident
  rw [check_bind_of_ok hval, get_bind]
  simp only [hfind]
  rw [raiseIf_bind_of_not hknown, drawIncidentId_bind, check_bind_of_ok hid]
  exact check_bind_of_ok hnew _ _

/-- A UTC observation is counted by the open incident. -/
theorem Memory.upsert_of_open (hutc : observedAt = .utc candidate.observedAt)
    (hfind : findOpenByFingerprint s.store.incidents fingerprint = some existing)
    (hvalid : existing.Valid) (hopen : existing.status = .open)
    (hle : existing.lastSeenAt ≤ candidate.observedAt) :
    (Memory.upsertOpenIncident ids candidate fingerprint observedAt).run s =
      .ok ⟨existing.seenAgain candidate, .updated⟩
        (s.setIncident existing.incidentId (existing.seenAgain candidate)) := by
  subst hutc
  have hfresh : (Datetime.utc candidate.observedAt).lt (.utc existing.lastSeenAt) = .ok false := by
    rw [Datetime.lt_utc (Datetime.instant?_utc _), Except.ok.injEq, decide_eq_false_iff_not, not_lt]
    exact_mod_cast hle
  have hnew : Incident.new (existing.seenAgain candidate).toDatetimes =
      .ok (existing.seenAgain candidate) :=
    Incident.new_toDatetimes_eq_ok.2 ⟨rfl, hvalid.seenAgain hopen hle⟩
  unfold Memory.upsertOpenIncident
  rw [check_bind_of_ok hval, get_bind]
  simp only [hfind]
  rw [check_bind_of_ok hfresh, raiseIf_bind_of_not Bool.false_ne_true]
  exact check_bind_of_ok hnew _ _

/-- What the in-memory repository takes was observed in UTC. -/
theorem Memory.utc_of_upsert_ok {r : IncidentUpsertResult} {s' : Session}
    (h : (Memory.upsertOpenIncident ids candidate fingerprint observedAt).run s = .ok r s') :
    observedAt = .utc candidate.observedAt := by
  obtain ⟨-, hinstant, -⟩ := validateCandidateConsistency_eq_ok.1 hval
  unfold Memory.upsertOpenIncident at h
  rw [check_bind_of_ok hval, get_bind] at h
  cases hfind : findOpenByFingerprint s.store.incidents fingerprint with
  | none =>
      simp only [hfind, check_bind_eq_ok, drawIncidentId_bind] at h
      obtain ⟨-, -, -, -, incident, hnew, -⟩ := h
      exact Memory.observedAt_eq_of_new hnew hinstant
  | some existing =>
      simp only [hfind, check_bind_eq_ok] at h
      obtain ⟨-, -, -, -, updated, hnew, -⟩ := h
      exact Memory.observedAt_eq_of_new hnew hinstant

/-! ### The SQL cases

An id is drawn first, and kept whatever becomes of the statement. -/

section Storable

variable (hstorable : Sql.isStorable (ids.next s.incidentIdsDrawn) candidate = true)
include hstorable

theorem Sql.upsert_of_unknown_device
    (hfresh : s.store.incidents.get? (ids.next s.incidentIdsDrawn) = none)
    (hfind : findOpenByFingerprint s.store.incidents fingerprint = none)
    (hdevice : (s.store.devices.get? candidate.deviceId).isNone) :
    (Sql.upsertOpenIncident ids candidate fingerprint observedAt).run s =
      .error (.referencedDeviceNotFound candidate.deviceId) s.drawIncidentId := by
  have hid : requireNonEmptyIncidentId (ids.next s.incidentIdsDrawn) = .ok () :=
    requireNonEmptyIncidentId_eq_ok.2 (ids.not_blank _)
  have hkey : ¬ (s.drawIncidentId.store.incidents.get? (ids.next s.incidentIdsDrawn)).isSome := by
    rw [show s.drawIncidentId.store.incidents.get? (ids.next s.incidentIdsDrawn) = none
      from hfresh]
    exact Bool.false_ne_true
  unfold Sql.upsertOpenIncident
  rw [check_bind_of_ok hval, drawIncidentId_bind, check_bind_of_ok hid,
    raiseIf_bind_of_not (Bool.eq_false_iff.not.2 (not_not.2 hstorable)), get_bind]
  simp only [show findOpenByFingerprint s.drawIncidentId.store.incidents fingerprint = none
    from hfind]
  rw [raiseIf_bind_of_not hkey]
  exact check_bind_of_error (raiseIf_eq_error.2 ⟨hdevice, rfl⟩) _ _

theorem Sql.upsert_of_stale
    (hfind : findOpenByFingerprint s.store.incidents fingerprint = some existing)
    (hvalid : existing.Valid) (hlt : candidate.observedAt < existing.lastSeenAt) :
    (Sql.upsertOpenIncident ids candidate fingerprint observedAt).run s =
      .error staleObservation s.drawIncidentId := by
  have hid : requireNonEmptyIncidentId (ids.next s.incidentIdsDrawn) = .ok () :=
    requireNonEmptyIncidentId_eq_ok.2 (ids.not_blank _)
  have hfind' : findOpenByFingerprint s.drawIncidentId.store.incidents fingerprint =
      some existing := hfind
  have hread : (Sql.getOpenByFingerprint fingerprint).run s.drawIncidentId =
      .ok (some existing) s.drawIncidentId := by
    unfold Sql.getOpenByFingerprint
    rw [get_bind]
    simp only [hfind']
    exact check_bind_of_ok (Sql.toDomain_eq_ok.2 ⟨rfl, hvalid⟩) _ _
  unfold Sql.upsertOpenIncident
  rw [check_bind_of_ok hval, drawIncidentId_bind, check_bind_of_ok hid,
    raiseIf_bind_of_not (Bool.eq_false_iff.not.2 (not_not.2 hstorable)), get_bind]
  simp only [hfind', if_neg hlt.not_ge]
  rw [EStateM.run_bind, hread]
  exact check_bind_of_error (raiseIf_eq_error.2 ⟨hlt, rfl⟩) _ _

/-- A row is inserted. -/
theorem Sql.upsert_of_new
    (hfresh : s.store.incidents.get? (ids.next s.incidentIdsDrawn) = none)
    (hfind : findOpenByFingerprint s.store.incidents fingerprint = none)
    (hdevice : (s.store.devices.get? candidate.deviceId).isSome) :
    (Sql.upsertOpenIncident ids candidate fingerprint observedAt).run s =
      .ok ⟨candidate.opened (ids.next s.incidentIdsDrawn), .created⟩
        (s.drawIncidentId.setIncident (ids.next s.incidentIdsDrawn)
          (candidate.opened (ids.next s.incidentIdsDrawn))) := by
  obtain ⟨rfl, -, -⟩ := validateCandidateConsistency_eq_ok.1 hval
  have hid : requireNonEmptyIncidentId (ids.next s.incidentIdsDrawn) = .ok () :=
    requireNonEmptyIncidentId_eq_ok.2 (ids.not_blank _)
  have hkey : ¬ (s.drawIncidentId.store.incidents.get? (ids.next s.incidentIdsDrawn)).isSome := by
    rw [show s.drawIncidentId.store.incidents.get? (ids.next s.incidentIdsDrawn) = none
      from hfresh]
    exact Bool.false_ne_true
  have hknown : ¬ (s.drawIncidentId.store.devices.get? candidate.deviceId).isNone := by
    rw [Bool.not_eq_true, Option.isNone_eq_false_iff]
    exact hdevice
  have hrow : Sql.toDomain (candidate.opened (ids.next s.incidentIdsDrawn)) =
      .ok (candidate.opened (ids.next s.incidentIdsDrawn)) :=
    Sql.toDomain_eq_ok.2 ⟨rfl, candidate.opened_valid ids _⟩
  unfold Sql.upsertOpenIncident
  rw [check_bind_of_ok hval, drawIncidentId_bind, check_bind_of_ok hid,
    raiseIf_bind_of_not (Bool.eq_false_iff.not.2 (not_not.2 hstorable)), get_bind]
  simp only [show findOpenByFingerprint s.drawIncidentId.store.incidents candidate.fingerprint =
    none from hfind]
  rw [raiseIf_bind_of_not hkey, raiseIf_bind_of_not hknown, modify_bind]
  exact check_bind_of_ok hrow _ _

/-- The open row is updated. -/
theorem Sql.upsert_of_open
    (hfind : findOpenByFingerprint s.store.incidents fingerprint = some existing)
    (hvalid : existing.Valid) (hopen : existing.status = .open)
    (hle : existing.lastSeenAt ≤ candidate.observedAt)
    (hcount : existing.occurrenceCount + 1 ≤ Sql.maxInteger) :
    (Sql.upsertOpenIncident ids candidate fingerprint observedAt).run s =
      .ok ⟨existing.seenAgain candidate, .updated⟩
        (s.drawIncidentId.setIncident existing.incidentId (existing.seenAgain candidate)) := by
  have hid : requireNonEmptyIncidentId (ids.next s.incidentIdsDrawn) = .ok () :=
    requireNonEmptyIncidentId_eq_ok.2 (ids.not_blank _)
  have hrow : Sql.toDomain (existing.seenAgain candidate) = .ok (existing.seenAgain candidate) :=
    Sql.toDomain_eq_ok.2 ⟨rfl, hvalid.seenAgain hopen hle⟩
  unfold Sql.upsertOpenIncident
  rw [check_bind_of_ok hval, drawIncidentId_bind, check_bind_of_ok hid,
    raiseIf_bind_of_not (Bool.eq_false_iff.not.2 (not_not.2 hstorable)), get_bind]
  simp only [show findOpenByFingerprint s.drawIncidentId.store.incidents fingerprint =
    some existing from hfind, if_pos hle]
  rw [raiseIf_bind_of_not hcount.not_gt, modify_bind]
  exact check_bind_of_ok hrow _ _

end Storable
end Consistent

/-! ### Where they agree -/

/-- What is assumed of a call: the store is a ledger, and the row that the statement
would write has columns of their types. -/
structure Storable (ids : IdFactory) (candidate : IncidentCandidate) (fingerprint : String)
    (s : Session) : Prop where
  ledger : LedgerInvariant ids s
  row : Sql.isStorable (ids.next s.incidentIdsDrawn) candidate = true
  count : ∀ existing, findOpenByFingerprint s.store.incidents fingerprint = some existing →
    existing.occurrenceCount + 1 ≤ Sql.maxInteger

/-- The cases of a candidate that passes the checks, with what either does there. -/
inductive UpsertCase (ids : IdFactory) (candidate : IncidentCandidate) (fingerprint : String)
    (observedAt : Datetime) (s : Session) : Prop
  /-- Both raise the same. -/
  | rejected (e : Error) (hclass : ∀ message, e ≠ .persistence message)
      (hwhen : UpsertsAlikeWhen candidate fingerprint observedAt s.store)
      (hmemory : (Memory.upsertOpenIncident ids candidate fingerprint observedAt).run s =
        .error e s)
      (hsql : ∃ t, SameStore s t ∧
        (Sql.upsertOpenIncident ids candidate fingerprint observedAt).run s = .error e t)
  /-- SQL returns, and so does the in-memory repository if the time is UTC. -/
  | accepted (r : IncidentUpsertResult) (t : Session)
      (hval : validateCandidateConsistency candidate fingerprint observedAt = .ok ())
      (hnot : observedAt ≠ .utc candidate.observedAt →
        ¬ UpsertsAlikeWhen candidate fingerprint observedAt s.store)
      (hmemory : observedAt = .utc candidate.observedAt → ∃ t', t'.store = t.store ∧
        (Memory.upsertOpenIncident ids candidate fingerprint observedAt).run s = .ok r t')
      (hsql : (Sql.upsertOpenIncident ids candidate fingerprint observedAt).run s = .ok r t)

/-- A candidate that passes the checks in another zone is alike only where it is
turned away later. -/
theorem not_upsertsAlikeWhen
    (hval : validateCandidateConsistency candidate fingerprint observedAt = .ok ())
    (hutc : observedAt ≠ .utc candidate.observedAt)
    (hdevice : findOpenByFingerprint s.store.incidents fingerprint = none →
      (s.store.devices.get? candidate.deviceId).isSome)
    (hfresh : ∀ existing, findOpenByFingerprint s.store.incidents fingerprint = some existing →
      existing.lastSeenAt ≤ candidate.observedAt) :
    ¬ UpsertsAlikeWhen candidate fingerprint observedAt s.store := by
  obtain ⟨hfp, hinstant, hmatch⟩ := validateCandidateConsistency_eq_ok.1 hval
  intro hwhen
  cases hwhen with
  | utc t h =>
      rw [h, Datetime.instant?_utc, Option.some.injEq] at hinstant
      have ht : t = candidate.observedAt := by exact_mod_cast hinstant
      exact hutc (by rw [h, ht])
  | fingerprint h => exact h hfp
  | instant h => exact h hinstant
  | evidence h => exact h hmatch
  | device hnone h =>
      have hsome := hdevice hnone
      rw [Option.isNone_iff_eq_none.1 h] at hsome
      cases hsome
  | stale existing hopen h => exact (hfresh existing hopen).not_gt h

theorem upsertCase (h : Storable ids candidate fingerprint s) :
    UpsertCase ids candidate fingerprint observedAt s := by
  cases hval : validateCandidateConsistency candidate fingerprint observedAt with
  | error e =>
      obtain ⟨message, values, rfl⟩ := validateCandidateConsistency_error hval
      refine .rejected _ (by nofun) ?_ (Memory.upsert_of_invalid hval)
        ⟨s, Or.inl rfl, Sql.upsert_of_invalid hval⟩
      by_cases hfp : fingerprint = candidate.fingerprint
      · by_cases hinstant : observedAt.instant? = some (candidate.observedAt : ℤ)
        · refine .evidence fun hmatch => ?_
          rw [validateCandidateConsistency_eq_ok (u := ()).2 ⟨hfp, hinstant, hmatch⟩] at hval
          cases hval
        · exact .instant hinstant
      · exact .fingerprint hfp
  | ok u =>
      have hfresh : s.store.incidents.get? (ids.next s.incidentIdsDrawn) = none := h.ledger.get?_next
      cases hfind : findOpenByFingerprint s.store.incidents fingerprint with
      | none =>
          cases hdevice : s.store.devices.get? candidate.deviceId with
          | none =>
              have hisNone : (s.store.devices.get? candidate.deviceId).isNone := by
                rw [hdevice]
                rfl
              exact .rejected _ (by nofun) (.device hfind hisNone)
                (Memory.upsert_of_unknown_device hval hfind hisNone)
                ⟨_, Or.inr rfl, Sql.upsert_of_unknown_device hval h.row hfresh hfind hisNone⟩
          | some device =>
              have hisSome : (s.store.devices.get? candidate.deviceId).isSome := by
                rw [hdevice]
                rfl
              refine .accepted _ _ hval (fun hutc => ?_) (fun hutc => ?_)
                (Sql.upsert_of_new hval h.row hfresh hfind hisSome)
              · exact not_upsertsAlikeWhen hval hutc (fun _ => hisSome)
                  fun existing hopen => by rw [hfind] at hopen; cases hopen
              · exact ⟨_, rfl, Memory.upsert_of_new hval hutc hfind hisSome⟩
      | some existing =>
          obtain ⟨hget, hopen, -⟩ := h.ledger.get?_of_findOpen hfind
          have hvalid : existing.Valid := (h.ledger.well_kept hget).valid
          rcases lt_or_ge candidate.observedAt existing.lastSeenAt with hlt | hle
          · exact .rejected _ (by nofun) (.stale existing hfind hlt)
              (Memory.upsert_of_stale hval hfind hlt)
              ⟨_, Or.inr rfl, Sql.upsert_of_stale hval h.row hfind hvalid hlt⟩
          · refine .accepted _ _ hval (fun hutc => ?_) (fun hutc => ?_)
              (Sql.upsert_of_open hval h.row hfind hvalid hopen hle (h.count existing hfind))
            · refine not_upsertsAlikeWhen hval hutc (fun hnone => ?_) fun existing' hopen' => ?_
              · rw [hfind] at hnone
                cases hnone
              · rw [hfind] at hopen'
                rwa [← Option.some.inj hopen']
            · exact ⟨s.setIncident existing.incidentId (existing.seenAgain candidate), rfl,
                Memory.upsert_of_open hval hutc hfind hvalid hopen hle⟩

/-- **The two upserts come to one answer exactly there**, and the SQL one never
meets an inconsistency. -/
theorem upserts_alike_iff (h : Storable ids candidate fingerprint s) :
    (UpsertsAlike ids candidate fingerprint observedAt s ↔
      UpsertsAlikeWhen candidate fingerprint observedAt s.store) ∧
    ∀ message t, (Sql.upsertOpenIncident ids candidate fingerprint observedAt).run s ≠
      .error (.persistence message) t := by
  have hcase : UpsertCase ids candidate fingerprint observedAt s := upsertCase h
  unfold UpsertsAlike
  cases hcase with
  | rejected e hclass hwhen hmemory hsql =>
      obtain ⟨t, hsame, hsql⟩ := hsql
      rw [hmemory, hsql]
      refine ⟨iff_of_true (.error rfl hsame.store_eq.symm) hwhen, ?_⟩
      rintro message t ⟨⟩
      exact hclass message rfl
  | accepted r t hval hnot hmemory hsql =>
      rw [hsql]
      refine ⟨?_, fun _ _ h => nomatch h⟩
      by_cases hutc : observedAt = .utc candidate.observedAt
      · obtain ⟨t', hstore, hmemory⟩ := hmemory hutc
        rw [hmemory]
        exact iff_of_true (.ok r hstore) (.utc _ hutc)
      · refine iff_of_false (fun hsame => hutc ?_) (hnot hutc)
        cases hrun : (Memory.upsertOpenIncident ids candidate fingerprint observedAt).run s with
        | ok r' t' => exact Memory.utc_of_upsert_ok hval hrun
        | error e t' =>
            rw [hrun] at hsame
            cases hsame

/-- A session with the device of the finding, and no incident. -/
def deviceSession : Session :=
  ⟨{ Store.empty with devices := Dict.empty.set "r2" ⟨"r2", .ciscoIosXe, none, none, 0, 1,
    settledFinding.deviceId_not_blank, nofun, by decide⟩ }, 0, 0⟩

theorem deviceSession_find (fingerprint : String) :
    findOpenByFingerprint deviceSession.store.incidents fingerprint = none := rfl

theorem deviceSession_storable :
    Storable (tallyIds 'i') settledFinding settledFinding.fingerprint deviceSession where
  ledger := LedgerInvariant.of_empty _ rfl
  row := by decide
  count := fun existing hopen => by
    rw [deviceSession_find] at hopen
    cases hopen

theorem upserts_alike_iff_utc :
    (UpsertsAlike (tallyIds 'i') settledFinding settledFinding.fingerprint (.utc 1)
        deviceSession ↔
      UpsertsAlikeWhen settledFinding settledFinding.fingerprint (.utc 1) deviceSession.store) ∧
    ∀ message t, (Sql.upsertOpenIncident (tallyIds 'i') settledFinding
        settledFinding.fingerprint (.utc 1)).run deviceSession ≠ .error (.persistence message) t :=
  upserts_alike_iff deviceSession_storable

/-- The finding's own instant, on a clock one hour ahead of UTC. -/
def observedAhead : Datetime := ⟨3600000001, some 3600000000⟩

/-- Handed in at that time, SQL opens an incident and the in-memory repository raises. -/
theorem not_upserts_alike_ahead :
    ¬ UpsertsAlike (tallyIds 'i') settledFinding settledFinding.fingerprint observedAhead
      deviceSession := by
  have hval : validateCandidateConsistency settledFinding settledFinding.fingerprint
      observedAhead = .ok () :=
    validateCandidateConsistency_eq_ok.2 ⟨rfl, by decide, .policyViolation _ _⟩
  have hsql := Sql.upsert_of_new hval deviceSession_storable.row rfl (deviceSession_find _)
    (by decide)
  intro hsame
  unfold UpsertsAlike at hsame
  rw [hsql] at hsame
  cases hmemory : (Memory.upsertOpenIncident (tallyIds 'i') settledFinding
      settledFinding.fingerprint observedAhead).run deviceSession with
  | ok r t =>
      have hutc : observedAhead = .utc settledFinding.observedAt :=
        Memory.utc_of_upsert_ok hval hmemory
      exact absurd hutc (by decide)
  | error e t =>
      rw [hmemory] at hsame
      cases hsame

end MetaRne
