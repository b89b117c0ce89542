/-
# Resolving at every level

`Incident.resolve`, the in-memory `resolve` and the SQL `resolve` side by side.
The in-memory repository hands the stored incident to the domain and writes what
comes back.  The SQL repository converts the timestamp before it looks for the
incident, and compares instants instead of asking for UTC.

`AlikeWhen` lists where the three come to one outcome, and `resolves_alike_iff`
says that it lists all.  Where they part, the domain's "true no-op" on a
resolved incident raises in SQL, or SQL resolves at a time that the domain turns
away.
-/

import MetaRne.Persistence.Memory.IncidentRepository
import MetaRne.Persistence.Sql.IncidentRepository

namespace MetaRne

open Library Library.Effect Python

variable {s : Session} {incidentId : String} {resolvedAt : Datetime}

/-- `Incident.resolve` on the stored incident, its result taken for the stored one. -/
def resolveStored (existing : Incident) (incidentId : String) (resolvedAt : Datetime) :
    Action (Option Incident) := do
  let resolved ← existing.resolve resolvedAt
  modify fun s => s.setIncident incidentId resolved
  return some resolved

/-- The two runs return the same or both raise, and leave the same session. -/
def SameOutcome {α : Type} : EStateM.Result Error Session α → EStateM.Result Error Session α → Prop :=
  Alike (fun _ _ => True) Eq

/-- **The three levels come to one outcome.** -/
structure ResolvesAlike (s : Session) (incidentId : String) (resolvedAt : Datetime) : Prop where
  domain : ∀ existing, s.store.incidents.get? incidentId = some existing →
    SameOutcome ((resolveStored existing incidentId resolvedAt).run s)
      ((Memory.resolve incidentId resolvedAt).run s)
  repositories : SameOutcome ((Memory.resolve incidentId resolvedAt).run s)
    ((Sql.resolve incidentId resolvedAt).run s)

/-- The database takes the statement: its id is a text, and its time is `t` in UTC. -/
def StatementTaken (incidentId : String) (resolvedAt : Datetime) (t : Timestamp) : Prop :=
  Sql.isText incidentId = true ∧ Sql.toUtc resolvedAt = .ok t

/-- Where the three levels come to one outcome. -/
inductive AlikeWhen (incidents : Dict String Incident) (incidentId : String)
    (resolvedAt : Datetime) : Prop
  /-- Nothing is stored under the id. -/
  | unknown (t : Timestamp) (htaken : StatementTaken incidentId resolvedAt t)
      (hnone : incidents.get? incidentId = none)
  /-- The incident is resolved. -/
  | resolved (t : Timestamp) (htaken : StatementTaken incidentId resolvedAt t)
      (existing : Incident) (hsome : incidents.get? incidentId = some existing)
      (hresolved : existing.status = .resolved)
  /-- The incident is open, and the time is UTC. -/
  | utc (t : Timestamp) (htaken : StatementTaken incidentId (.utc t) t)
      (hutc : resolvedAt = .utc t) (existing : Incident)
      (hsome : incidents.get? incidentId = some existing) (hopen : existing.status = .open)
  /-- The incident is open, and there is no time the domain or the database would
  take that is not before its last update. -/
  | early (existing : Incident) (hsome : incidents.get? incidentId = some existing)
      (hopen : existing.status = .open)
      (hdomain : ∀ t, resolvedAt = .utc t → t < existing.updatedAt)
      (hsql : ∀ t, StatementTaken incidentId resolvedAt t → t < existing.updatedAt)
  /-- The incident is acknowledged, which no level resolves. -/
  | acknowledged (existing : Incident) (hsome : incidents.get? incidentId = some existing)
      (hstatus : existing.status = .acknowledged)

/-! ### What each level does -/

/-- The domain turns an open incident away at any other time. -/
theorem Incident.resolve_of_early {i : Incident} (ho : i.status = .open)
    (h : ∀ t, resolvedAt = .utc t → t < i.updatedAt) : ∃ e, i.resolve resolvedAt = .error e := by
  cases hres : i.resolve resolvedAt with
  | error e => exact ⟨e, rfl⟩
  | ok j =>
      rcases Incident.resolve_ok hres with ⟨hr, -⟩ | ⟨-, t, hutc, hle, -⟩
      · rw [ho] at hr
        cases hr
      · exact absurd (h t hutc) hle.not_gt

theorem Incident.resolve_of_resolved {i : Incident} (hr : i.status = .resolved) :
    i.resolve resolvedAt = .ok i := by
  rw [Incident.resolve, if_pos hr]

theorem Incident.resolve_of_acknowledged {i : Incident} (ha : i.status = .acknowledged) :
    ∃ e, i.resolve resolvedAt = .error e := by
  have hr : i.status ≠ .resolved := by rw [ha]; nofun
  have ho : i.status ≠ .open := by rw [ha]; nofun
  rw [Incident.resolve, if_neg hr, if_pos ho]
  exact ⟨_, rfl⟩

theorem Memory.resolve_run_of_none (h : s.store.incidents.get? incidentId = none) :
    (Memory.resolve incidentId resolvedAt).run s = .ok none s := by
  unfold Memory.resolve
  rw [get_bind]
  simp only [h]
  rfl

/-- The in-memory repository resolves as the domain does. -/
theorem Memory.resolve_run_of_some {existing : Incident}
    (h : s.store.incidents.get? incidentId = some existing) :
    (Memory.resolve incidentId resolvedAt).run s =
      (resolveStored existing incidentId resolvedAt).run s := by
  unfold Memory.resolve
  rw [get_bind]
  simp only [h]
  rfl

theorem resolveStored_of_ok {existing i : Incident} (h : existing.resolve resolvedAt = .ok i) :
    (resolveStored existing incidentId resolvedAt).run s =
      .ok (some i) (s.setIncident incidentId i) := by
  unfold resolveStored
  rw [check_bind_of_ok h, modify_bind]
  rfl

theorem resolveStored_of_error {existing : Incident} {e : Error}
    (h : existing.resolve resolvedAt = .error e) :
    (resolveStored existing incidentId resolvedAt).run s = .error e s := by
  unfold resolveStored
  rw [check_bind_of_error h]

/-- A statement that the database does not take raises. -/
theorem Sql.resolve_of_not_taken (h : ∀ t, ¬ StatementTaken incidentId resolvedAt t) :
    ∃ e, (Sql.resolve incidentId resolvedAt).run s = .error e s := by
  unfold Sql.resolve
  cases htime : Sql.toUtc resolvedAt with
  | error e => exact ⟨e, by rw [check_bind_of_error rfl]⟩
  | ok t =>
      have htext : Sql.isText incidentId = false :=
        eq_false_of_ne_true fun htext => h t ⟨htext, htime⟩
      refine ⟨Error.data "invalid text representation", ?_⟩
      rw [check_bind_of_ok rfl, check_bind_of_error]
      exact raiseIf_eq_error.2 ⟨htext, rfl⟩

/-- What a statement does that the database takes. -/
theorem Sql.resolve_of_taken {t : Timestamp} (h : StatementTaken incidentId resolvedAt t)
    (hvalid : ∀ i, s.store.incidents.get? incidentId = some i → i.Valid) :
    match s.store.incidents.get? incidentId with
    | none => (Sql.resolve incidentId resolvedAt).run s = .ok none s
    | some i =>
      if i.status = .resolved then (Sql.resolve incidentId resolvedAt).run s = .ok (some i) s
      else if i.status = .open ∧ i.updatedAt ≤ t then
        (Sql.resolve incidentId resolvedAt).run s =
          .ok (some (i.resolvedAs t)) (s.setIncident incidentId (i.resolvedAs t))
      else ∃ e, (Sql.resolve incidentId resolvedAt).run s = .error e s := by
  have htext : ¬(Sql.isText incidentId = false) := by rw [h.1]; exact Bool.noConfusion
  unfold Sql.resolve
  rw [check_bind_of_ok h.2, raiseIf_bind_of_not htext, get_bind]
  cases hget : s.store.incidents.get? incidentId with
  | none => rfl
  | some i =>
      have hi : i.Valid := hvalid i hget
      simp only
      by_cases hresolved : i.status = .resolved
      · have hopen : ¬(i.status = .open ∧ i.updatedAt ≤ t) := by
          rw [hresolved]
          exact fun hopen => nomatch hopen.1
        rw [if_pos hresolved, if_neg hopen, if_pos hresolved,
          check_bind_of_ok (Sql.toDomain_eq_ok.2 ⟨rfl, hi⟩)]
        rfl
      · rw [if_neg hresolved]
        by_cases hopen : i.status = .open ∧ i.updatedAt ≤ t
        · have hrow : Sql.toDomain (i.resolvedAs t) = .ok (i.resolvedAs t) :=
            Sql.toDomain_eq_ok.2 ⟨rfl, hi.resolvedAs hopen.2⟩
          rw [if_pos hopen, if_pos hopen, modify_bind]
          exact check_bind_of_ok hrow _ _
        · rw [if_neg hopen, if_neg hopen, if_neg hresolved]
          by_cases hstatus : i.status = .open
          · rw [if_pos hstatus]
            exact ⟨_, rfl⟩
          · rw [if_neg hstatus]
            exact ⟨_, rfl⟩

theorem StatementTaken.unique {t t' : Timestamp} (h : StatementTaken incidentId resolvedAt t)
    (h' : StatementTaken incidentId resolvedAt t') : t' = t :=
  Except.ok.inj (h'.2.symm.trans h.2)

/-- In UTC the statement's time is the time itself. -/
theorem StatementTaken.eq_of_utc {t t' : Timestamp} (h : StatementTaken incidentId (.utc t') t) :
    t = t' := by
  have hinstant : (Datetime.utc t').instant? = some (t : ℤ) := Sql.instant?_of_toUtc h.2
  rw [Datetime.instant?_utc, Option.some.injEq] at hinstant
  exact_mod_cast hinstant.symm

/-- A stored incident that is not resolved stays as it is, at a time before its last
update or one that the database does not take. -/
theorem Sql.resolve_of_rejected {i : Incident}
    (hvalid : ∀ i, s.store.incidents.get? incidentId = some i → i.Valid)
    (hsome : s.store.incidents.get? incidentId = some i) (hnot : i.status ≠ .resolved)
    (hbefore : ∀ t, StatementTaken incidentId resolvedAt t → i.status = .open → t < i.updatedAt) :
    ∃ e, (Sql.resolve incidentId resolvedAt).run s = .error e s := by
  by_cases htaken : ∃ t, StatementTaken incidentId resolvedAt t
  · obtain ⟨t, htaken⟩ := htaken
    have hrun := Sql.resolve_of_taken htaken hvalid
    have hlt : ¬(i.status = .open ∧ i.updatedAt ≤ t) :=
      fun h => (hbefore t htaken h.1).not_ge h.2
    simp only [hsome, if_neg hnot, if_neg hlt] at hrun
    exact hrun
  · exact Sql.resolve_of_not_taken fun t h => htaken ⟨t, h⟩

/-! ### Where they agree -/

/-- An exception answers an exception. -/
theorem SameOutcome.error_of_error {α : Type} {x : EStateM.Result Error Session α} {e : Error}
    {t : Session} (h : SameOutcome x (.error e t)) : ∃ e', x = .error e' t := by
  cases h with
  | error _ hs => exact ⟨_, by rw [hs]⟩

/-- An open incident that the domain does not resolve was updated after the time. -/
theorem Incident.lt_updatedAt_of_error {i : Incident} (hi : i.Valid) (ho : i.status = .open)
    {e : Error} (h : i.resolve resolvedAt = .error e) :
    ∀ t, resolvedAt = .utc t → t < i.updatedAt := by
  rintro t rfl
  by_contra hle
  rw [Incident.resolve_of_open hi ho (not_lt.1 hle)] at h
  cases h

/-- The domain and the database both turn the incident away. -/
theorem AlikeWhen.of_error {i : Incident} (hi : i.Valid)
    (hsome : s.store.incidents.get? incidentId = some i) {e : Error}
    (hres : i.resolve resolvedAt = .error e)
    (hbefore : ∀ t, StatementTaken incidentId resolvedAt t → i.status = .open → t < i.updatedAt) :
    AlikeWhen s.store.incidents incidentId resolvedAt := by
  cases hstatus : i.status with
  | resolved =>
      rw [Incident.resolve_of_resolved hstatus] at hres
      cases hres
  | acknowledged => exact .acknowledged i hsome hstatus
  | «open» =>
      exact .early i hsome hstatus (Incident.lt_updatedAt_of_error hi hstatus hres)
        fun t htaken => hbefore t htaken hstatus

/-- The in-memory repository raises: the domain turned a stored incident away. -/
theorem Memory.exists_of_resolve_error {e : Error} {t : Session}
    (h : (Memory.resolve incidentId resolvedAt).run s = .error e t) :
    ∃ i e', s.store.incidents.get? incidentId = some i ∧ i.resolve resolvedAt = .error e' := by
  cases hget : s.store.incidents.get? incidentId with
  | none =>
      rw [Memory.resolve_run_of_none hget] at h
      cases h
  | some i =>
      rw [Memory.resolve_run_of_some hget] at h
      cases hres : i.resolve resolvedAt with
      | ok j =>
          rw [resolveStored_of_ok hres] at h
          cases h
      | error e' => exact ⟨i, e', rfl, hres⟩

/-- Where the repositories come to one outcome, it is at one of the listed places. -/
theorem AlikeWhen.of_same (hvalid : ∀ id i, s.store.incidents.get? id = some i → i.Valid)
    (hsame : SameOutcome ((Memory.resolve incidentId resolvedAt).run s)
      ((Sql.resolve incidentId resolvedAt).run s)) :
    AlikeWhen s.store.incidents incidentId resolvedAt := by
  by_cases htaken : ∃ t, StatementTaken incidentId resolvedAt t
  · obtain ⟨t, htaken⟩ := htaken
    have hsql := Sql.resolve_of_taken htaken (hvalid incidentId)
    cases hget : s.store.incidents.get? incidentId with
    | none => exact .unknown t htaken hget
    | some i =>
        have hi : i.Valid := hvalid incidentId i hget
        simp only [hget] at hsql
        by_cases hresolved : i.status = .resolved
        · exact .resolved t htaken i hget hresolved
        rw [if_neg hresolved] at hsql
        by_cases hopen : i.status = .open ∧ i.updatedAt ≤ t
        · -- SQL resolves, so the domain does, and it takes UTC alone.
          rw [if_pos hopen] at hsql
          rw [hsql, Memory.resolve_run_of_some hget] at hsame
          cases hres : i.resolve resolvedAt with
          | error e =>
              rw [resolveStored_of_error hres] at hsame
              cases hsame
          | ok j =>
              obtain ⟨hr, -⟩ | ⟨-, t', hutc, -, -⟩ := Incident.resolve_ok hres
              · exact absurd hr hresolved
              · have htaken' : StatementTaken incidentId (.utc t') t := hutc ▸ htaken
                obtain rfl := htaken'.eq_of_utc
                exact .utc t htaken' hutc i hget hopen.1
        · -- SQL raises, so the domain does.
          rw [if_neg hopen] at hsql
          obtain ⟨e, hsql⟩ := hsql
          rw [hsql] at hsame
          obtain ⟨e', hmemory⟩ := hsame.error_of_error
          obtain ⟨j, e'', hj, hres⟩ := Memory.exists_of_resolve_error hmemory
          obtain rfl := Option.some.inj (hget.symm.trans hj)
          refine .of_error hi hget hres fun t' htaken' ho => ?_
          rw [htaken.unique htaken']
          exact not_le.1 fun hle => hopen ⟨ho, hle⟩
  · have hnone : ∀ t, ¬ StatementTaken incidentId resolvedAt t := fun t h => htaken ⟨t, h⟩
    obtain ⟨e, hsql⟩ := Sql.resolve_of_not_taken (s := s) hnone
    rw [hsql] at hsame
    obtain ⟨e', hmemory⟩ := hsame.error_of_error
    obtain ⟨i, e'', hget, hres⟩ := Memory.exists_of_resolve_error hmemory
    exact .of_error (hvalid incidentId i hget) hget hres fun t h => absurd h (hnone t)

/-- At each of the listed places the repositories come to one outcome. -/
theorem AlikeWhen.same (hvalid : ∀ id i, s.store.incidents.get? id = some i → i.Valid)
    (hwhen : AlikeWhen s.store.incidents incidentId resolvedAt) :
    SameOutcome ((Memory.resolve incidentId resolvedAt).run s)
      ((Sql.resolve incidentId resolvedAt).run s) := by
  cases hwhen with
  | unknown t htaken hnone =>
      have hsql := Sql.resolve_of_taken htaken (hvalid incidentId)
      simp only [hnone] at hsql
      rw [Memory.resolve_run_of_none hnone, hsql]
      exact .ok _ rfl
  | resolved t htaken i hsome hresolved =>
      have hsql := Sql.resolve_of_taken htaken (hvalid incidentId)
      have hsame : s.setIncident incidentId i = s := by
        rw [Session.setIncident, Dict.set_eq_self hsome]
      simp only [hsome, if_pos hresolved] at hsql
      rw [Memory.resolve_run_of_some hsome,
        resolveStored_of_ok (Incident.resolve_of_resolved hresolved), hsql, hsame]
      exact .ok _ rfl
  | utc t htaken hutc i hsome hopen =>
      have hi : i.Valid := hvalid incidentId i hsome
      subst hutc
      have hsql := Sql.resolve_of_taken htaken (hvalid incidentId)
      have hnot : i.status ≠ .resolved := by rw [hopen]; decide
      simp only [hsome, if_neg hnot] at hsql
      rw [Memory.resolve_run_of_some hsome]
      by_cases hle : i.updatedAt ≤ t
      · rw [if_pos ⟨hopen, hle⟩] at hsql
        rw [resolveStored_of_ok (Incident.resolve_of_open hi hopen hle), hsql]
        exact .ok _ rfl
      · rw [if_neg fun h => hle h.2] at hsql
        obtain ⟨e, hsql⟩ := hsql
        have hbefore : ∀ t', Datetime.utc t = .utc t' → t' < i.updatedAt := fun t' ht' => by
          rw [← Datetime.utc_injective ht']
          exact not_le.1 hle
        obtain ⟨e', hres⟩ := Incident.resolve_of_early hopen hbefore
        rw [resolveStored_of_error hres, hsql]
        exact .error trivial rfl
  | early i hsome hopen hdomain hsql =>
      have hnot : i.status ≠ .resolved := by rw [hopen]; decide
      obtain ⟨e, hrun⟩ := Sql.resolve_of_rejected (hvalid incidentId) hsome hnot
        fun t htaken _ => hsql t htaken
      obtain ⟨e', hres⟩ := Incident.resolve_of_early hopen hdomain
      rw [Memory.resolve_run_of_some hsome, resolveStored_of_error hres, hrun]
      exact .error trivial rfl
  | acknowledged i hsome hstatus =>
      have hnot : i.status ≠ .resolved := by rw [hstatus]; decide
      have hclosed : i.status ≠ .open := by rw [hstatus]; decide
      obtain ⟨e, hrun⟩ := Sql.resolve_of_rejected (hvalid incidentId) hsome hnot
        fun t _ hopen => absurd hopen hclosed
      obtain ⟨e', hres⟩ := Incident.resolve_of_acknowledged hstatus
      rw [Memory.resolve_run_of_some hsome, resolveStored_of_error hres, hrun]
      exact .error trivial rfl

/-- **Resolving agrees at every level exactly there.** -/
theorem resolves_alike_iff (hvalid : ∀ id i, s.store.incidents.get? id = some i → i.Valid) :
    ResolvesAlike s incidentId resolvedAt ↔
      AlikeWhen s.store.incidents incidentId resolvedAt := by
  refine ⟨fun h => .of_same hvalid h.repositories, fun h => ⟨fun existing hsome => ?_,
    h.same hvalid⟩⟩
  rw [Memory.resolve_run_of_some hsome]
  cases hres : existing.resolve resolvedAt with
  | ok i =>
      rw [resolveStored_of_ok hres]
      exact .ok _ rfl
  | error e =>
      rw [resolveStored_of_error hres]
      exact .error trivial rfl

/-- A finding of `r2`, observed at 1. -/
def settledFinding : IncidentCandidate where
  deviceId := "r2"
  source := .policyViolation
  ruleRef := "policy"
  affectedResource := "interface:eth0:acl_in"
  severity := .high
  evidence := .policyViolation ⟨"s1", .missingRequiredAcl, "A", none, "eth0", .in, by decide⟩
  recommendation := "assign A"
  observedAt := 1
  deviceId_not_blank := by decide
  ruleRef_not_blank := by decide
  affectedResource_not_blank := by decide
  recommendation_not_blank := by decide

/-- Its incident, resolved at 2. -/
def settledIncident : Incident :=
  (settledFinding.opened ((tallyIds 'i').next 0)).resolvedAs 2

/-- A session with that incident. -/
def settledSession : Session :=
  ⟨{ Store.empty with incidents := Dict.empty.set "i" settledIncident }, 1, 0⟩

theorem settledSession_valid :
    ∀ id i, settledSession.store.incidents.get? id = some i → i.Valid := by
  intro id i hget
  have hset : settledSession.store.incidents = Dict.empty.set "i" settledIncident := rfl
  rw [hset, Dict.get?_set, Dict.get?_empty] at hget
  split_ifs at hget with hid
  have hle : settledFinding.observedAt ≤ 2 := by decide
  rw [← Option.some.inj hget]
  exact (settledFinding.opened_valid (tallyIds 'i') 0).resolvedAs hle

theorem resolves_alike_iff_settled :
    ResolvesAlike settledSession "i" (.utc 1) ↔
      AlikeWhen settledSession.store.incidents "i" (.utc 1) :=
  resolves_alike_iff settledSession_valid

/-- Resolving the resolved incident again, at a naive time: the domain and the
in-memory repository return it, and SQL raises. -/
theorem not_resolves_alike_naive :
    ∃ e, settledIncident.resolve ⟨3, none⟩ = .ok settledIncident ∧
      (Memory.resolve "i" ⟨3, none⟩).run settledSession =
        .ok (some settledIncident) settledSession ∧
      (Sql.resolve "i" ⟨3, none⟩).run settledSession = .error e settledSession ∧
      ¬ ResolvesAlike settledSession "i" ⟨3, none⟩ := by
  have hget : settledSession.store.incidents.get? "i" = some settledIncident :=
    Dict.get?_set_self ..
  have hsame : settledSession.setIncident "i" settledIncident = settledSession := by
    rw [Session.setIncident, Dict.set_eq_self hget]
  have hmemory : (Memory.resolve "i" ⟨3, none⟩).run settledSession =
      .ok (some settledIncident) settledSession := by
    rw [Memory.resolve_run_of_some hget,
      resolveStored_of_ok (Incident.resolve_of_resolved rfl), hsame]
  have hsql : (Sql.resolve "i" ⟨3, none⟩).run settledSession =
      .error (.valueError "database timestamp must be timezone-aware" []) settledSession := rfl
  refine ⟨_, Incident.resolve_of_resolved rfl, hmemory, hsql, fun h => ?_⟩
  have hrepositories := h.repositories
  rw [hmemory, hsql] at hrepositories
  cases hrepositories

end MetaRne
