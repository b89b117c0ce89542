/-
# The in-memory unit of work

`persistence/memory/unit_of_work.py`.  A unit of work copies the committed store
when it is made, works on its copy, and publishes it field by field when it
commits.  A service that raises rolls back, which takes the copy again, so the
committed store is what it was.

A `Platform` is what outlives the units of work: the committed store, and the
ids that have been handed out, which no rollback takes back.
-/

import MetaRne.Library.Effect
import MetaRne.Persistence.Store

namespace MetaRne

open Library Library.Effect

/-- The committed store, and how many ids have been handed out. -/
structure Platform where
  committed : Store
  incidentIdsDrawn : ℕ
  snapshotIdsDrawn : ℕ

/-- What an application service does. -/
abbrev Service (α : Type) := EStateM Error Platform α

namespace Platform

/-- A platform that nothing has happened to. -/
def initial : Platform := ⟨.empty, 0, 0⟩

/-- `_snapshot_committed_store`, applied to a working store. -/
def workingCopy (committed : Store) : Store where
  devices := committed.devices
  snapshots := committed.snapshots
  policies := committed.policies
  incidents := committed.incidents
  telemetrySamples := committed.telemetrySamples
  telemetrySequence := committed.telemetrySequence
  operationalStates := committed.operationalStates
  samples_filed := committed.samples_filed

/-- What `commit` publishes of a working store. -/
def publish (committed working : Store) : Store :=
  { committed with
    devices := working.devices
    snapshots := working.snapshots
    policies := working.policies
    incidents := working.incidents
    telemetrySamples := working.telemetrySamples
    telemetrySequence := working.telemetrySequence
    operationalStates := working.operationalStates
    samples_filed := working.samples_filed }

/-- `InMemoryUnitOfWork(committed_store)`. -/
def openUnitOfWork (p : Platform) : Session :=
  ⟨workingCopy p.committed, p.incidentIdsDrawn, p.snapshotIdsDrawn⟩

/-- `commit()`. -/
def commit (p : Platform) (s : Session) : Platform :=
  ⟨publish p.committed s.store, s.incidentIdsDrawn, s.snapshotIdsDrawn⟩

/-- `rollback()`, or a `close()` without a commit. -/
def abandon (p : Platform) (s : Session) : Platform :=
  ⟨p.committed, s.incidentIdsDrawn, s.snapshotIdsDrawn⟩

@[simp] theorem openUnitOfWork_store (p : Platform) : p.openUnitOfWork.store = p.committed := rfl

@[simp] theorem commit_committed (p : Platform) (s : Session) :
    (p.commit s).committed = s.store := rfl

@[simp] theorem abandon_committed (p : Platform) (s : Session) :
    (p.abandon s).committed = p.committed := rfl

end Platform

variable {α β : Type}

/-- The life of a unit of work in a service: run the body, commit if the body
got that far and `commits` what it got, roll back if it raised, and build the
result after that. -/
def unitOfWork (commits : α → Bool) (body : Action α) (finish : α → Except Error β) :
    Service β := fun p =>
  match body.run p.openUnitOfWork with
  | .error e s => .error e (p.abandon s)
  | .ok a s =>
    let p' := if commits a then p.commit s else p.abandon s
    match finish a with
    | .ok b => .ok b p'
    | .error e => .error e p'

/-- A unit of work of a service that writes. -/
def writing (body : Action α) (finish : α → Except Error β) : Service β :=
  unitOfWork (fun _ => true) body finish

/-- A unit of work of a query. -/
def reading (body : Action α) : Service α := unitOfWork (fun _ => false) body .ok

variable {commits : α → Bool} {body : Action α} {finish : α → Except Error β} {p p' : Platform}

/-- **A service that returns** ran its body, built its result, and committed. -/
theorem unitOfWork_ok {b : β} (h : (unitOfWork commits body finish).run p = .ok b p') :
    ∃ a s, body.run p.openUnitOfWork = .ok a s ∧ finish a = .ok b ∧
      p' = if commits a then p.commit s else p.abandon s := by
  change unitOfWork commits body finish p = .ok b p' at h
  unfold unitOfWork at h
  cases hbody : body.run p.openUnitOfWork with
  | error e s =>
      rw [hbody] at h
      cases h
  | ok a s =>
      cases hfin : finish a with
      | error e =>
          simp only [hbody, hfin] at h
          cases h
      | ok b' =>
          simp only [hbody, hfin] at h
          cases h
          exact ⟨a, s, rfl, hfin, rfl⟩

/-- **A service that raises** rolled back, or could not build its result. -/
theorem unitOfWork_error {e : Error} (h : (unitOfWork commits body finish).run p = .error e p') :
    (∃ s, body.run p.openUnitOfWork = .error e s ∧ p' = p.abandon s) ∨
      ∃ a s, body.run p.openUnitOfWork = .ok a s ∧ finish a = .error e ∧
        p' = if commits a then p.commit s else p.abandon s := by
  change unitOfWork commits body finish p = .error e p' at h
  unfold unitOfWork at h
  cases hbody : body.run p.openUnitOfWork with
  | error e' s =>
      rw [hbody] at h
      cases h
      exact Or.inl ⟨s, rfl, rfl⟩
  | ok a s =>
      cases hfin : finish a with
      | error e' =>
          simp only [hbody, hfin] at h
          cases h
          exact Or.inr ⟨a, s, rfl, hfin, rfl⟩
      | ok b' =>
          simp only [hbody, hfin] at h
          cases h

/-- A unit of work whose body returned: it is committed, and then the result is built. -/
theorem attempt_writing_of_ok {a : α} {s : Session} (h : body.run p.openUnitOfWork = .ok a s) :
    attempt (writing body finish) p = (finish a, p.commit s) := by
  cases hfinish : finish a with
  | ok b =>
      refine attempt_of_ok ?_
      change unitOfWork (fun _ => true) body finish p = _
      simp only [unitOfWork, h, hfinish, if_true]
  | error e =>
      refine attempt_of_error ?_
      change unitOfWork (fun _ => true) body finish p = _
      simp only [unitOfWork, h, hfinish, if_true]

/-- A unit of work whose body raised is given up. -/
theorem attempt_writing_of_error {e : Error} {s : Session}
    (h : body.run p.openUnitOfWork = .error e s) :
    attempt (writing body finish) p = (.error e, p.abandon s) := by
  refine attempt_of_error ?_
  change unitOfWork (fun _ => true) body finish p = _
  simp only [unitOfWork, h]

/-- A query whose body returns without writing returns the same, and the platform
is as it was. -/
theorem reading_ok {a : α}
    (h : body.run p.openUnitOfWork = .ok a p.openUnitOfWork) : (reading body).run p = .ok a p := by
  change unitOfWork (fun _ => false) body .ok p = _
  simp only [unitOfWork, h, Bool.false_eq_true, if_false]
  rfl

/-- A query raises what its body raises. -/
theorem reading_error {e : Error} (h : (reading body).run p = .error e p') :
    ∃ s, body.run p.openUnitOfWork = .error e s := by
  rcases unitOfWork_error h with ⟨s, hbody, -⟩ | ⟨a, s, -, hfinish, -⟩
  · exact ⟨s, hbody⟩
  · cases hfinish

/-- A query writes nothing. -/
theorem reading_committed (s : Platform) : (final (reading body) s).committed = s.committed := by
  cases h : (reading body).run s with
  | ok b p' =>
      obtain ⟨a, s₁, -, -, rfl⟩ := unitOfWork_ok h
      rw [final_of_ok h]
      rfl
  | error e p' =>
      rw [final_of_error h]
      rcases unitOfWork_error h with ⟨s₁, -, rfl⟩ | ⟨a, s₁, -, -, rfl⟩ <;> rfl

end MetaRne
