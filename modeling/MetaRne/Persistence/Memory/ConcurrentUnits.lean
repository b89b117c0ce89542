/-
# Concurrent in-memory units of work

Several `InMemoryUnitOfWork` objects over one committed store.  Each copies the
store when it is made, writes to its copy, and publishes the copy whole when it
commits (`Platform.openUnitOfWork`, `Platform.commit`); no write sees another
unit's copy, and a commit does not look at what was committed since the copy was
made.  The units are instances of `Library.Snapshots`.

So of two units that were made before either committed, the second to commit
takes the first one's writes back.  A commit that finds the committed store as it
was when its unit was made loses nothing: then the committed store is what the
committed writes make of it in order, and every upsert is counted.
-/

import MetaRne.Library.Snapshots
import MetaRne.Persistence.IncidentRuns
import MetaRne.Persistence.Memory.UnitOfWork
import MetaRne.Persistence.Writes

namespace MetaRne
namespace Memory

open Library Library.Effect Library.Snapshots Python

/-- A write through one of a unit's repositories. -/
inductive UnitWrite
  | upsertOpenIncident (candidate : IncidentCandidate) (fingerprint : String)
      (observedAt : Datetime)
  | saveDevice (device : Device)
  | saveTelemetry (deviceId : String) (sample : TelemetrySample)
  | saveLatest (fabric : FabricOperationalState)

/-- The repository's action; what it returns is dropped. -/
def UnitWrite.action (ids : IdFactory) : UnitWrite → Action Unit
  | .upsertOpenIncident candidate fingerprint observedAt => do
    let _ ← Memory.upsertOpenIncident ids candidate fingerprint observedAt
  | .saveDevice device => Memory.saveDevice device
  | .saveTelemetry deviceId sample => Memory.saveTelemetry deviceId sample
  | .saveLatest fabric => do
    let _ ← Memory.saveLatest fabric

/-- How many ids have been handed out: of incidents and of snapshots. -/
abbrev IdsDrawn := ℕ × ℕ

/-- A unit's session: its working store, and the ids handed out so far. -/
def unitSession (drawn : IdsDrawn) (store : Store) : Session := ⟨store, drawn.1, drawn.2⟩

/-- Make a write on a working store. -/
def perform (ids : IdFactory) (write : UnitWrite) (drawn : IdsDrawn) (store : Store) :
    Outcome (Except Error Unit) IdsDrawn Store :=
  let done := attempt (write.action ids) (unitSession drawn store)
  ⟨done.1, (done.2.incidentIdsDrawn, done.2.snapshotIdsDrawn), done.2.store⟩

/-- What happens to the units named by `υ`: one is made, writes, commits, or rolls back. -/
abbrev UnitEvent (υ : Type) := Event υ UnitWrite

/-- A write that a unit made. -/
abbrev MadeWrite := Entry UnitWrite (Except Error Unit) IdsDrawn

/-- The committed store, the units, and the writes that were committed. -/
abbrev UnitWorld (υ : Type) := World υ UnitWrite (Except Error Unit) IdsDrawn Store

/-- No units yet. -/
def noUnits (υ : Type) (p : Platform) : UnitWorld υ where
  shared := p.committed
  counter := (p.incidentIdsDrawn, p.snapshotIdsDrawn)
  copies := fun _ => none
  published := []

/-- The world after the events. -/
def worldAfter {υ : Type} [DecidableEq υ] (ids : IdFactory) (events : List (UnitEvent υ))
    (p : Platform) : UnitWorld υ :=
  after (perform ids) events (noUnits υ p)

/-- A unit that is made works on the copy that `openUnitOfWork` takes. -/
theorem make_eq_openUnitOfWork {υ : Type} [DecidableEq υ] (p : Platform) (u : υ) :
    (noUnits υ p).hold u (.of (noUnits υ p).shared) =
      (noUnits υ p).hold u (.of p.openUnitOfWork.store) := rfl

/-- What a commit publishes is what `commit` makes the committed store. -/
theorem publish_eq_commit {υ : Type} [DecidableEq υ] (p : Platform) (w : UnitWorld υ) (u : υ)
    (copy : Copy UnitWrite (Except Error Unit) IdsDrawn Store) :
    (w.publish u copy).shared = (p.commit (unitSession w.counter copy.working)).committed := rfl

/-- How often the open incident of a fingerprint has been seen. -/
def openCount (fingerprint : String) (store : Store) : ℕ :=
  (findOpenByFingerprint store.incidents fingerprint).elim 0 fun i => i.occurrenceCount

/-- Whether a write is an upsert of a fingerprint that returned. -/
def countsWrite (fingerprint : String) (made : MadeWrite) : ℕ :=
  match made.call, made.reply with
  | .upsertOpenIncident _ fingerprint' _, .ok _ => if fingerprint' = fingerprint then 1 else 0
  | _, _ => 0

/-- **No committed write is lost**: the committed store is what the committed writes
make of it one after another, each with the answer it got; and the open incident
of every fingerprint has been seen once more for every committed upsert of it. -/
structure NothingLost {υ : Type} (ids : IdFactory) (p : Platform) (w : UnitWorld υ) : Prop where
  serial : Replays (perform ids) w.published p.committed w.shared
  counted : LedgerInvariant ids p.openUnitOfWork → ∀ fingerprint,
    openCount fingerprint w.shared =
      openCount fingerprint p.committed + (w.published.map (countsWrite fingerprint)).sum

/-! ### What a write adds -/

section Counts

variable {ids : IdFactory} {s s' : Session} {fingerprint : String}

/-- The open incident of a fingerprint is the stored one that is open and has it. -/
theorem findOpen_eq_some_iff (hs : LedgerInvariant ids s) {i : Incident} :
    findOpenByFingerprint s.store.incidents fingerprint = some i ↔
      ∃ id, s.store.incidents.get? id = some i ∧ i.status = .open ∧ i.fingerprint = fingerprint := by
  constructor
  · exact fun h => ⟨i.incidentId, hs.get?_of_findOpen h⟩
  · rintro ⟨id, hid, hopen, hfp⟩
    cases hfound : findOpenByFingerprint s.store.incidents fingerprint with
    | none => exact absurd hfp (findOpenByFingerprint_eq_none.1 hfound id i hid hopen)
    | some j =>
        obtain ⟨hj, hjopen, hjfp⟩ := hs.get?_of_findOpen hfound
        rw [hs.unique_open hj hid hjopen hopen (hjfp.trans hfp.symm)]

theorem openCount_of_some (hs : LedgerInvariant ids s) {id : String} {i : Incident}
    (hget : s.store.incidents.get? id = some i) (hopen : i.status = .open)
    (hfp : i.fingerprint = fingerprint) : openCount fingerprint s.store = i.occurrenceCount := by
  rw [openCount, (findOpen_eq_some_iff hs).2 ⟨id, hget, hopen, hfp⟩]
  rfl

/-- Writing an incident of another fingerprint does not change the open one. -/
theorem openCount_setIncident_of_ne (hs : LedgerInvariant ids s) {id : String} {j : Incident}
    (hs' : LedgerInvariant ids (s.setIncident id j)) (hj : j.fingerprint ≠ fingerprint)
    (hold : ∀ i, s.store.incidents.get? id = some i → i.fingerprint ≠ fingerprint) :
    openCount fingerprint (s.setIncident id j).store = openCount fingerprint s.store := by
  unfold openCount
  congr 1
  ext i
  rw [findOpen_eq_some_iff hs, findOpen_eq_some_iff hs']
  change (∃ id', (s.store.incidents.set id j).get? id' = some i ∧ _) ↔ _
  constructor
  · rintro ⟨id', hget, hopen, hfp⟩
    rw [Dict.get?_set] at hget
    split_ifs at hget with hid
    · rw [Option.some.inj hget] at hj
      exact absurd hfp hj
    · exact ⟨id', hget, hopen, hfp⟩
  · rintro ⟨id', hget, hopen, hfp⟩
    have hid : id' ≠ id := by
      rintro rfl
      exact hold i hget hfp
    exact ⟨id', by rw [Dict.get?_set_of_ne _ _ hid]; exact hget, hopen, hfp⟩

/-- **An upsert is counted by the open incident of its fingerprint**, and by no other. -/
theorem openCount_upsertStep (hs : LedgerInvariant ids s) {c : IncidentCandidate}
    {r : IncidentUpsertResult} (h : UpsertStep ids c s r s') :
    openCount fingerprint s'.store = openCount fingerprint s.store + c.countsFor fingerprint := by
  have hs' := h.invariant hs
  unfold IncidentCandidate.countsFor
  cases h with
  | created hnone hdevice =>
      by_cases hfp : c.fingerprint = fingerprint
      · subst hfp
        have hafter := openCount_of_some hs' (Dict.get?_set_self ..) (i := c.opened _) rfl rfl
        have hbefore : openCount c.fingerprint s.store = 0 := by rw [openCount, hnone]; rfl
        rw [if_pos rfl, hbefore]
        exact hafter
      · rw [if_neg hfp]
        refine openCount_setIncident_of_ne (hs.sameStore (Or.inr rfl)) hs' hfp fun i hi => ?_
        have hnext := hs.get?_next
        change s.store.incidents.get? (ids.next s.incidentIdsDrawn) = some i at hi
        rw [hi] at hnext
        cases hnext
  | updated existing s₁ hdrawn hfound hle =>
      have hs₁ : LedgerInvariant ids s₁ := hs.sameStore hdrawn
      have hstore : s₁.store = s.store := SameStore.store_eq hdrawn
      obtain ⟨hget, hopen, hsame⟩ := hs.get?_of_findOpen hfound
      by_cases hfp : c.fingerprint = fingerprint
      · subst hfp
        have hafter := openCount_of_some hs' (i := existing.seenAgain c)
          (Dict.get?_set_self ..) hopen hsame
        rw [if_pos rfl, hafter, openCount_of_some hs hget hopen hsame]
        rfl
      · rw [if_neg hfp, ← hstore]
        have hne : existing.fingerprint ≠ fingerprint := hsame.symm ▸ hfp
        refine openCount_setIncident_of_ne hs₁ hs' hne fun i hi => ?_
        rw [hstore, hget] at hi
        rw [← Option.some.inj hi]
        exact hne

end Counts

/-! ### The writes of a unit -/

variable {ids : IdFactory}

theorem onlyWrites_action (write : UnitWrite) :
    OnlyWrites ids [.incidents, .devices, .telemetry, .operationalStates] (write.action ids) := by
  cases write with
  | upsertOpenIncident candidate fingerprint observedAt =>
      exact (onlyWrites_upsertOpenIncident (by decide) candidate fingerprint observedAt).bind
        fun _ => onlyWrites_pure ()
  | saveDevice device => exact onlyWrites_saveDevice (by decide) device
  | saveTelemetry deviceId sample => exact onlyWrites_saveTelemetry (by decide) deviceId sample
  | saveLatest fabric =>
      exact (onlyWrites_saveLatest (by decide) fabric).bind fun _ => onlyWrites_pure ()

/-- A write that is no upsert leaves the incidents alone. -/
theorem incidents_of_attempt {parts : List Part} {x : Action Unit} (hx : OnlyWrites ids parts x)
    (hparts : Part.incidents ∉ parts) (s : Session) :
    (attempt x s).2.store.incidents = s.store.incidents := by
  rw [attempt_snd]
  exact (hx s).same hparts

/-- An upsert adds to the count of its fingerprint what its reply says. -/
theorem openCount_attempt_upsert {drawn : IdsDrawn} {store : Store} {fingerprint : String}
    (hs : LedgerInvariant ids (unitSession drawn store)) (candidate : IncidentCandidate)
    (fingerprint' : String) (observedAt : Datetime) :
    let write := UnitWrite.upsertOpenIncident candidate fingerprint' observedAt
    openCount fingerprint (perform ids write drawn store).state = openCount fingerprint store +
      countsWrite fingerprint ⟨write, drawn, (perform ids write drawn store).reply⟩ := by
  intro write
  cases hrun : (Memory.upsertOpenIncident ids candidate fingerprint' observedAt).run
      (unitSession drawn store) with
  | ok r s' =>
      obtain ⟨rfl, -, hstep⟩ := Memory.upsertOpenIncident_ok hrun
      have hdone : attempt (write.action ids) (unitSession drawn store) = (.ok (), s') :=
        attempt_of_ok (bind_eq_ok.2 ⟨r, s', hrun, rfl⟩)
      have hcount : openCount fingerprint s'.store =
          openCount fingerprint (unitSession drawn store).store +
            candidate.countsFor fingerprint := openCount_upsertStep hs hstep
      simp only [perform, hdone]
      exact hcount
  | error e s' =>
      have hsame := (Memory.upsertOpenIncident_error hrun).store_eq
      have hdone : attempt (write.action ids) (unitSession drawn store) = (.error e, s') :=
        attempt_of_error (bind_eq_error.2 (Or.inl hrun))
      simp only [perform, hdone, hsame]
      rfl

/-- The count of a fingerprint is a measure of the stores with the ledger's invariant. -/
theorem measures_openCount (fingerprint : String) :
    Measures (perform ids) (fun drawn store => LedgerInvariant ids (unitSession drawn store))
      (openCount fingerprint) (countsWrite fingerprint) where
  keeps := by
    intro write drawn store hs
    have hwrites := @onlyWrites_action ids write (unitSession drawn store)
    rw [← attempt_snd] at hwrites
    exact (hwrites.ledger hs).1
  others := by
    intro write drawn store store' hs
    have hwrites := @onlyWrites_action ids write (unitSession drawn store)
    rw [← attempt_snd] at hwrites
    refine ⟨hs.well_kept, hs.filed, fun h => ?_, hs.unique_open⟩
    obtain ⟨n, hn, hid⟩ := hs.drawn h
    exact ⟨n, hn.trans_le hwrites.later.incidentIdsDrawn, hid⟩
  adds := by
    intro write drawn store hs
    have hsame : ∀ {parts : List Part} {x : Action Unit}, OnlyWrites ids parts x →
        Part.incidents ∉ parts →
        openCount fingerprint (attempt x (unitSession drawn store)).2.store =
          openCount fingerprint store := by
      intro parts x hx hparts
      rw [openCount, incidents_of_attempt hx hparts]
      rfl
    cases write with
    | upsertOpenIncident candidate fingerprint' observedAt =>
        exact openCount_attempt_upsert hs candidate fingerprint' observedAt
    | saveDevice device =>
        exact hsame (onlyWrites_saveDevice (List.mem_singleton_self _) device) (by decide)
    | saveTelemetry deviceId sample =>
        exact hsame (onlyWrites_saveTelemetry (List.mem_singleton_self _) deviceId sample)
          (by decide)
    | saveLatest fabric =>
        refine hsame ((onlyWrites_saveLatest (List.mem_singleton_self _) fabric).bind
          fun _ => onlyWrites_pure ()) (by decide)

/-! ### Runs -/

/-- **When no update is lost.**  In every run of any number of units in which every
commit finds the committed store as it was when its unit was made, rolled back or
last committed, no committed write is lost, at any point. -/
theorem no_lost_update {υ : Type} [DecidableEq υ] (ids : IdFactory) (p : Platform)
    (events : List (UnitEvent υ)) (hrun : UnracedRun (perform ids) events (noUnits υ p)) :
    ∀ before later, events = before ++ later → NothingLost ids p (worldAfter ids before p) := by
  rintro before later rfl
  refine ⟨(serial_of_unraced hrun.start (fun _ => rfl) rfl).shared, fun hledger fingerprint => ?_⟩
  exact (counted_of_unraced (measures_openCount fingerprint) hrun.start hledger (fun _ => rfl)
    rfl).shared

/-! Two units, `false` and `true`, that each see the neighbour of the router down. -/

/-- The router's store as a platform. -/
def routerPlatform : Platform := ⟨routerSession.store, 0, 0⟩

/-- An upsert of the neighbour down, observed at a time. -/
def seen (observedAt : Timestamp) : UnitWrite :=
  .upsertOpenIncident (neighborDown observedAt) (neighborDown observedAt).fingerprint
    (.utc observedAt)

/-- The second unit is made after the first has committed. -/
def oneAfterAnother : List (UnitEvent Bool) :=
  [.make false, .call false (seen 5), .publish false, .make true, .call true (seen 7),
    .publish true]

/-- Both units are made before the first commits. -/
def bothAtOnce : List (UnitEvent Bool) :=
  [.make false, .make true, .call false (seen 5), .call true (seen 7), .publish false,
    .publish true]

theorem unracedRun_oneAfterAnother (ids : IdFactory) :
    UnracedRun (perform ids) oneAfterAnother (noUnits Bool routerPlatform) := by
  have hmake : ∀ {w : UnitWorld Bool} (u : Bool), Unraced (.make u) w :=
    fun u => unraced_of_ne fun _ h => by cases h
  have hcall : ∀ {w : UnitWorld Bool} (u : Bool) (write : UnitWrite), Unraced (.call u write) w :=
    fun u write => unraced_of_ne fun _ h => by cases h
  have hpublish : ∀ {w : UnitWorld Bool} {u : Bool} {copy}, w.copies u = some copy →
      w.shared = copy.base → Unraced (.publish u) w := by
    rintro w u copy hcopy hbase u' copy' hevent hcopy'
    obtain rfl := Event.publish.inj hevent
    rw [hcopy] at hcopy'
    rw [← Option.some.inj hcopy', hbase]
  refine unracedRun_cons (hmake _) <| unracedRun_cons (hcall _ _) <|
    unracedRun_cons (hpublish rfl rfl) <| unracedRun_cons (hmake _) <|
    unracedRun_cons (hcall _ _) <| unracedRun_cons (hpublish rfl rfl) unracedRun_nil

theorem ledgerInvariant_routerPlatform (ids : IdFactory) :
    LedgerInvariant ids routerPlatform.openUnitOfWork := .of_empty ids rfl

set_option maxRecDepth 20000 in
/-- One unit after another: the open incident has been seen twice. -/
theorem no_lost_update_oneAfterAnother :
    openCount (neighborDown 5).fingerprint
      (worldAfter (tallyIds 'I') oneAfterAnother routerPlatform).shared = 2 := by
  have hrun := no_lost_update (tallyIds 'I') routerPlatform oneAfterAnother
    (unracedRun_oneAfterAnother _) oneAfterAnother [] (List.append_nil _).symm
  have hcount := hrun.counted (ledgerInvariant_routerPlatform _) (neighborDown 5).fingerprint
  rw [hcount]
  decide +kernel

set_option maxRecDepth 20000 in
/-- Both units at once: two upserts of one fingerprint were committed, and the open
incident has been seen once. -/
theorem lost_update : ¬ ∀ (υ : Type) [DecidableEq υ] (ids : IdFactory) (p : Platform)
    (events : List (UnitEvent υ)), NothingLost ids p (worldAfter ids events p) := by
  intro h
  have hcount := (h Bool (tallyIds 'I') routerPlatform bothAtOnce).counted
    (ledgerInvariant_routerPlatform _) (neighborDown 5).fingerprint
  revert hcount
  decide +kernel

end Memory
end MetaRne
