/-
# Configuration drift

`detection/drift_detector.py` and `domain/drift.py`: how a configuration differs
from a baseline.  Interfaces, BGP neighbours and ACLs are each matched by their
own name; what is on one side only was added or removed, and of what is on both
the scalar fields are compared.  The entries of an ACL are not.

An entry is built through a constructor that may raise; `compare_eq_ok` says
that a comparison never does.
-/

import MetaRne.Domain.Checks
import MetaRne.Domain.Config

namespace MetaRne

open Library.Effect Python

structure DriftEntry where
  resource : String
  field : Option String
  oldValue : Option String
  newValue : Option String
  deriving DecidableEq, Repr

/-- `DriftEntry(...)`. -/
def DriftEntry.new (e : DriftEntry) : Except Error DriftEntry := do
  let _ ← requireNonEmpty e.resource "DriftEntry.resource"
  raiseIf (e.oldValue = none ∧ e.newValue = none) (.valueError
    "DriftEntry.old_value and DriftEntry.new_value must not both be None" [])
  return e

structure DriftReport where
  added : List DriftEntry
  removed : List DriftEntry
  changed : List DriftEntry
  deriving DecidableEq, Repr

namespace DriftDetector

/-- A value of a compared field: `str | int | Enum | None`. -/
inductive FieldValue
  | none
  | str (s : String)
  | int (n : ℤ)
  | enum (value : String)
  deriving DecidableEq, Repr

/-- A text that may be missing. -/
def FieldValue.ofText : Option String → FieldValue
  | .none => .none
  | some s => .str s

/-- A number that may be missing. -/
def FieldValue.ofInt : Option ℤ → FieldValue
  | .none => .none
  | some n => .int n

/-- `_stringify`. -/
def stringify : FieldValue → Option String
  | .none => none
  | .str s => some s
  | .int n => some (toString n)
  | .enum value => some value

/-- A field of a matched resource: its name and its two values. -/
structure ComparedField where
  name : String
  oldValue : FieldValue
  newValue : FieldValue

/-- The entries of the fields that differ. -/
def diffFields (resource : String) (fields : List ComparedField) : Except Error (List DriftEntry) :=
  (fields.filter fun field => field.oldValue ≠ field.newValue).mapM fun field =>
    DriftEntry.new ⟨resource, some field.name, stringify field.oldValue, stringify field.newValue⟩

/-- The entry of a resource of the baseline: removed, or changed in its fields. -/
def diffBaselineResource {α : Type} (kind : String) (name : α → String)
    (fields : α → α → List ComparedField) (current : List α) (item : α) :
    Except Error (List DriftEntry × List DriftEntry) :=
  let resource := kind ++ name item
  -- a dictionary built from a list keeps the last of two items with one name
  match current.reverse.find? fun other => name other == name item with
  | none => do
    let entry ← DriftEntry.new ⟨resource, none, some (name item), none⟩
    return ([entry], [])
  | some currentItem => do
    let changed ← diffFields resource (fields item currentItem)
    return ([], changed)

/-- The differences between two lists of named resources. -/
def diffResources {α : Type} (kind : String) (name : α → String)
    (fields : α → α → List ComparedField) (baseline current : List α) :
    Except Error DriftReport := do
  let compared ← baseline.mapM (diffBaselineResource kind name fields current)
  let added ← (current.filter fun item => name item ∉ baseline.map name).mapM fun item =>
    DriftEntry.new ⟨kind ++ name item, none, none, some (name item)⟩
  return ⟨added, (compared.map Prod.fst).flatten, (compared.map Prod.snd).flatten⟩

/-- The fields of `_diff_interface_fields`. -/
def interfaceFields (baseline current : NormalizedInterface) : List ComparedField :=
  [⟨"description", .ofText baseline.description, .ofText current.description⟩,
    ⟨"ip_address", .ofText baseline.ipAddress, .ofText current.ipAddress⟩,
    ⟨"mtu", .ofInt baseline.mtu, .ofInt current.mtu⟩,
    ⟨"admin_state", .enum baseline.adminState.value, .enum current.adminState.value⟩,
    ⟨"acl_in", .ofText baseline.aclIn, .ofText current.aclIn⟩,
    ⟨"acl_out", .ofText baseline.aclOut, .ofText current.aclOut⟩]

/-- The field of `_diff_bgp_neighbor_fields`. -/
def bgpNeighborFields (baseline current : NormalizedBgpNeighbor) : List ComparedField :=
  [⟨"remote_as", .int baseline.remoteAs, .int current.remoteAs⟩]

/-- `_diff_interfaces`. -/
def diffInterfaces (baseline current : NormalizedConfiguration) : Except Error DriftReport :=
  diffResources "interface:" (·.name) interfaceFields baseline.interfaces current.interfaces

/-- `_diff_bgp_neighbors`. -/
def diffBgpNeighbors (baseline current : NormalizedConfiguration) : Except Error DriftReport :=
  diffResources "bgp_neighbor:" (·.neighborIp) bgpNeighborFields baseline.routing.bgpNeighbors
    current.routing.bgpNeighbors

/-- `_diff_acls`: a matched ACL is never changed. -/
def diffAcls (baseline current : NormalizedConfiguration) : Except Error DriftReport :=
  diffResources "acl:" (·.name) (fun _ _ => []) baseline.acls current.acls

/-- `DriftDetector.compare`. -/
def compare (baseline current : NormalizedConfiguration) : Except Error DriftReport := do
  let interfaces ← diffInterfaces baseline current
  let neighbors ← diffBgpNeighbors baseline current
  let acls ← diffAcls baseline current
  return ⟨interfaces.added ++ neighbors.added ++ acls.added,
    interfaces.removed ++ neighbors.removed ++ acls.removed,
    interfaces.changed ++ neighbors.changed ++ acls.changed⟩

/-! ### A comparison never raises -/

theorem entry_eq_ok {e : DriftEntry} (hresource : isBlank e.resource = false)
    (hvalue : e.oldValue ≠ none ∨ e.newValue ≠ none) : DriftEntry.new e = .ok e := by
  rw [DriftEntry.new, requireNonEmpty_bind_eq_ok]
  refine ⟨hresource, raiseIf_bind_eq_ok.2 ⟨fun hnone => ?_, rfl⟩⟩
  rcases hvalue with h | h
  · exact h hnone.1
  · exact h hnone.2

theorem stringify_eq_none {value : FieldValue} : stringify value = none ↔ value = .none := by
  cases value <;> simp [stringify]

theorem diffFields_eq_ok {resource : String} (hresource : isBlank resource = false)
    (fields : List ComparedField) : ∃ entries, diffFields resource fields = .ok entries := by
  refine except_mapM_isOk fun field hfield => ⟨_, entry_eq_ok hresource ?_⟩
  rw [List.mem_filter, decide_eq_true_iff] at hfield
  by_contra hnone
  simp only [ne_eq, not_or, not_not, stringify_eq_none] at hnone
  exact hfield.2 (hnone.1.trans hnone.2.symm)

theorem diffResources_eq_ok {α : Type} (kind : String) (hkind : isBlank kind = false)
    (name : α → String) (fields : α → α → List ComparedField) (baseline current : List α) :
    ∃ report, diffResources kind name fields baseline current = .ok report := by
  have hname : ∀ item, isBlank (kind ++ name item) = false :=
    fun item => isBlank_append_of_left hkind _
  obtain ⟨compared, hcompared⟩ : ∃ compared,
      baseline.mapM (diffBaselineResource kind name fields current) = .ok compared := by
    refine except_mapM_isOk fun item _ => ?_
    unfold diffBaselineResource
    dsimp only
    split
    · exact ⟨_, except_bind_eq_ok.2 ⟨_, entry_eq_ok (hname item) (Or.inl nofun), rfl⟩⟩
    · obtain ⟨entries, hentries⟩ := diffFields_eq_ok (hname item) (fields item _)
      exact ⟨_, except_bind_eq_ok.2 ⟨_, hentries, rfl⟩⟩
  obtain ⟨added, hadded⟩ : ∃ added,
      ((current.filter fun item => name item ∉ baseline.map name).mapM fun item =>
        DriftEntry.new ⟨kind ++ name item, none, none, some (name item)⟩) = .ok added :=
    except_mapM_isOk fun item _ => ⟨_, entry_eq_ok (hname item) (Or.inr nofun)⟩
  exact ⟨_, except_bind_eq_ok.2 ⟨_, hcompared, except_bind_eq_ok.2 ⟨_, hadded, rfl⟩⟩⟩

/-- **A comparison never raises.** -/
theorem compare_eq_ok (baseline current : NormalizedConfiguration) :
    ∃ report, compare baseline current = .ok report := by
  obtain ⟨interfaces, hinterfaces⟩ := diffResources_eq_ok "interface:" (by decide)
    (·.name) interfaceFields baseline.interfaces current.interfaces
  obtain ⟨neighbors, hneighbors⟩ := diffResources_eq_ok "bgp_neighbor:" (by decide)
    (·.neighborIp) bgpNeighborFields baseline.routing.bgpNeighbors current.routing.bgpNeighbors
  obtain ⟨acls, hacls⟩ := diffResources_eq_ok "acl:" (by decide)
    (fun acl : NormalizedAcl => acl.name) (fun _ _ => []) baseline.acls current.acls
  exact ⟨_, except_bind_eq_ok.2 ⟨_, hinterfaces, except_bind_eq_ok.2 ⟨_, hneighbors,
    except_bind_eq_ok.2 ⟨_, hacls, rfl⟩⟩⟩⟩

end DriftDetector
end MetaRne
