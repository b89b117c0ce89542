/-
# What a drift report says

A configuration is seen as its resources: of each kind, the names that it has and
the fields under each.  `Exact` says what a report of two configurations has to
list on this view: the resources on one side only, and the fields that differ, each
once.  `compare_exact` says that the report of the detector is exact whenever no
name occurs twice in a collection.

`Exact` does not mention the order of anything.  So two exact reports of the same
two configurations agree up to order, and the symmetry of the comparison and its
indifference to the order of the collections follow from it.
-/

import Mathlib.Data.List.Perm.Basic
import MetaRne.Detection.DriftDetector
import MetaRne.Library.Dict
import MetaRne.Python.Integers

namespace MetaRne
namespace DriftDetector

open Library Library.Effect Python

/-! ### Configurations as resources -/

/-- The collections that are compared. -/
inductive ResourceKind
  | interface
  | bgpNeighbor
  | acl
  deriving DecidableEq, Repr

/-- What the resource strings of a kind start with. -/
def ResourceKind.label : ResourceKind → String
  | .interface => "interface:"
  | .bgpNeighbor => "bgp_neighbor:"
  | .acl => "acl:"

/-- The compared fields of an interface. -/
def interfaceValues (interface : NormalizedInterface) : List (String × FieldValue) :=
  [("description", .ofText interface.description), ("ip_address", .ofText interface.ipAddress),
    ("mtu", .ofInt interface.mtu), ("admin_state", .enum interface.adminState.value),
    ("acl_in", .ofText interface.aclIn), ("acl_out", .ofText interface.aclOut)]

/-- The compared field of a neighbour. -/
def neighborValues (neighbor : NormalizedBgpNeighbor) : List (String × FieldValue) :=
  [("remote_as", .int neighbor.remoteAs)]

/-- The resources of a kind, each name with its fields. -/
def resources (config : NormalizedConfiguration) :
    ResourceKind → List (String × List (String × FieldValue))
  | .interface => config.interfaces.map fun interface => (interface.name, interfaceValues interface)
  | .bgpNeighbor => config.routing.bgpNeighbors.map fun neighbor =>
    (neighbor.neighborIp, neighborValues neighbor)
  | .acl => config.acls.map fun acl => (acl.name, [])

/-- The fields of a resource, if the configuration has it. -/
def fieldsOf (config : NormalizedConfiguration) (kind : ResourceKind) (name : String) :
    Option (List (String × FieldValue)) := (resources config kind).lookup name

/-- No collection has two resources of one name. -/
structure UniqueNames (config : NormalizedConfiguration) : Prop where
  interfaces : (config.interfaces.map (·.name)).Nodup
  neighbors : (config.routing.bgpNeighbors.map (·.neighborIp)).Nodup
  acls : (config.acls.map (·.name)).Nodup

/-! ### What there is to report -/

/-- The entry of a resource that the baseline lacks. -/
def addedEntry (label name : String) : DriftEntry := ⟨label ++ name, none, none, some name⟩

/-- The entry of a resource that the baseline alone has. -/
def removedEntry (label name : String) : DriftEntry := ⟨label ++ name, none, some name, none⟩

/-- The entry of a field of a resource on both sides. -/
def changedEntry (resource field : String) (oldValue newValue : FieldValue) : DriftEntry :=
  ⟨resource, some field, stringify oldValue, stringify newValue⟩

/-- **A report is exact**: it lists the resources on one side only and the fields
that differ, with their values, each once; and values that differ are told apart. -/
structure Exact (baseline current : NormalizedConfiguration) (report : DriftReport) : Prop where
  added : ∀ e, e ∈ report.added ↔ ∃ kind name, fieldsOf baseline kind name = none ∧
    fieldsOf current kind name ≠ none ∧ e = addedEntry kind.label name
  removed : ∀ e, e ∈ report.removed ↔ ∃ kind name, fieldsOf baseline kind name ≠ none ∧
    fieldsOf current kind name = none ∧ e = removedEntry kind.label name
  changed : ∀ e, e ∈ report.changed ↔ ∃ kind name old new, fieldsOf baseline kind name = some old ∧
    fieldsOf current kind name = some new ∧ ∃ field oldValue newValue, (field, oldValue) ∈ old ∧
      (field, newValue) ∈ new ∧ oldValue ≠ newValue ∧
      e = changedEntry (kind.label ++ name) field oldValue newValue
  changed_differs : ∀ e ∈ report.changed, e.oldValue ≠ e.newValue
  nodup_added : report.added.Nodup
  nodup_removed : report.removed.Nodup
  nodup_changed : report.changed.Nodup

/-- An entry with its two values exchanged. -/
def DriftEntry.swap (e : DriftEntry) : DriftEntry :=
  { e with oldValue := e.newValue, newValue := e.oldValue }

/-- The report read from the other side. -/
def DriftReport.swap (report : DriftReport) : DriftReport :=
  ⟨report.removed.map DriftEntry.swap, report.added.map DriftEntry.swap,
    report.changed.map DriftEntry.swap⟩

/-- A configuration with its collections in another order. -/
structure Reordered (config config' : NormalizedConfiguration) : Prop where
  interfaces : config.interfaces.Perm config'.interfaces
  neighbors : config.routing.bgpNeighbors.Perm config'.routing.bgpNeighbors
  acls : config.acls.Perm config'.acls

/-! ### One collection -/

section Collection

variable {α : Type} {label : String} {name : α → String} {values : α → List (String × FieldValue)}
  {baseline current : List α}

/-- The fields of two items side by side. -/
def compareValues (values : α → List (String × FieldValue)) (old new : α) : List ComparedField :=
  List.zipWith (fun x y => ⟨x.1, x.2, y.2⟩) (values old) (values new)

/-- The entries of an item that has a namesake on the other side. -/
def changedOf (label : String) (name : α → String) (values : α → List (String × FieldValue))
    (current : List α) (item : α) : List DriftEntry :=
  match current.reverse.find? fun other => name other == name item with
  | none => []
  | some currentItem => ((compareValues values item currentItem).filter fun field =>
      field.oldValue ≠ field.newValue).map fun field =>
        changedEntry (label ++ name item) field.name field.oldValue field.newValue

theorem diffFields_eq {resource : String} (hresource : isBlank resource = false)
    (fields : List ComparedField) : diffFields resource fields =
      .ok ((fields.filter fun field => field.oldValue ≠ field.newValue).map fun field =>
        changedEntry resource field.name field.oldValue field.newValue) := by
  refine except_mapM_eq_map fun field hfield => entry_eq_ok hresource ?_
  rw [List.mem_filter, decide_eq_true_iff] at hfield
  by_contra hnone
  simp only [ne_eq, not_or, not_not, stringify_eq_none] at hnone
  exact hfield.2 (hnone.1.trans hnone.2.symm)

/-- The item of a name is found where the names are distinct. -/
theorem find?_reverse_eq_some (hnodup : (current.map name).Nodup) {n : String} {item : α} :
    (current.reverse.find? fun other => name other == n) = some item ↔
      item ∈ current ∧ name item = n := by
  constructor
  · intro h
    exact ⟨List.mem_reverse.1 (List.mem_of_find?_eq_some h), by simpa using List.find?_some h⟩
  · rintro ⟨hmem, rfl⟩
    cases hfind : current.reverse.find? fun other => name other == name item with
    | none =>
        have hno := List.find?_eq_none.1 hfind item (List.mem_reverse.2 hmem)
        exact absurd (beq_self_eq_true _) hno
    | some found =>
        have hfound := List.mem_reverse.1 (List.mem_of_find?_eq_some hfind)
        have hname : name found = name item := by simpa using List.find?_some hfind
        rw [List.inj_on_of_nodup_map hnodup hfound hmem hname]

theorem find?_reverse_eq_none {n : String} :
    (current.reverse.find? fun other => name other == n) = none ↔ n ∉ current.map name := by
  rw [List.find?_eq_none, List.mem_map]
  simp only [List.mem_reverse, beq_iff_eq, not_exists, not_and]

/-- One entry for each item that a test picks. -/
theorem flatten_map_ite {β : Type} (p : α → Prop) [DecidablePred p] (f : α → β) (items : List α) :
    (items.map fun item => if p item then [f item] else []).flatten =
      (items.filter fun item => p item).map f := by
  induction items with
  | nil => rfl
  | cons item rest ih =>
      rw [List.map_cons, List.flatten_cons, ih]
      by_cases hp : p item
      · rw [if_pos hp, List.filter_cons_of_pos (by simpa using hp)]
        rfl
      · rw [if_neg hp, List.filter_cons_of_neg (by simpa using hp)]
        rfl

/-- **The differences of one collection.** -/
theorem diffResources_eq (hlabel : isBlank label = false) (baseline current : List α) :
    diffResources label name (compareValues values) baseline current = .ok
      ⟨(current.filter fun item => name item ∉ baseline.map name).map fun item =>
          addedEntry label (name item),
        (baseline.filter fun item => name item ∉ current.map name).map fun item =>
          removedEntry label (name item),
        baseline.flatMap (changedOf label name values current)⟩ := by
  have hname : ∀ item, isBlank (label ++ name item) = false :=
    fun item => isBlank_append_of_left hlabel _
  have hcompared : baseline.mapM (diffBaselineResource label name (compareValues values) current) =
      .ok (baseline.map fun item =>
        (if name item ∉ current.map name then [removedEntry label (name item)] else [],
          changedOf label name values current item)) := by
    refine except_mapM_eq_map fun item _ => ?_
    unfold diffBaselineResource changedOf
    cases hfind : current.reverse.find? fun other => name other == name item with
    | none =>
        simp only [if_pos (find?_reverse_eq_none.1 hfind)]
        exact except_bind_eq_ok.2 ⟨_, entry_eq_ok (hname item) (Or.inl nofun), rfl⟩
    | some currentItem =>
        have hmem : ¬ name item ∉ current.map name := fun hnot => by
          rw [find?_reverse_eq_none.2 hnot] at hfind
          cases hfind
        simp only [if_neg hmem]
        exact except_bind_eq_ok.2 ⟨_, diffFields_eq (hname item) _, rfl⟩
  have hadded : ((current.filter fun item => name item ∉ baseline.map name).mapM fun item =>
      DriftEntry.new ⟨label ++ name item, none, none, some (name item)⟩) =
        .ok ((current.filter fun item => name item ∉ baseline.map name).map fun item =>
          addedEntry label (name item)) :=
    except_mapM_eq_map fun item _ => entry_eq_ok (hname item) (Or.inr nofun)
  refine except_bind_eq_ok.2 ⟨_, hcompared, except_bind_eq_ok.2 ⟨_, hadded, congrArg Except.ok ?_⟩⟩
  rw [List.map_map, List.map_map, DriftReport.mk.injEq]
  exact ⟨rfl, flatten_map_ite _ _ baseline, rfl⟩

/-! ### The view of a collection -/

/-- A collection as names with fields. -/
def view (name : α → String) (values : α → List (String × FieldValue)) (items : List α) :
    List (String × List (String × FieldValue)) := items.map fun item => (name item, values item)

theorem lookup_view_eq_none {items : List α} {n : String} :
    (view name values items).lookup n = none ↔ n ∉ items.map name := by
  rw [List.lookup_eq_none_iff]
  simp only [view, List.mem_map, forall_exists_index, and_imp, forall_apply_eq_imp_iff₂, bne_iff_ne,
    ne_eq, not_exists, not_and]
  exact ⟨fun h item hitem hname => h item hitem hname.symm,
    fun h item hitem hname => h item hitem hname.symm⟩

theorem lookup_view_eq_some {items : List α} (hnodup : (items.map name).Nodup) {n : String}
    {fields : List (String × FieldValue)} :
    (view name values items).lookup n = some fields ↔
      ∃ item ∈ items, name item = n ∧ values item = fields := by
  have hkeys : ((view name values items).map Prod.fst).Nodup := by
    rw [view, List.map_map]
    exact hnodup
  have hentry : (⟨view name values items, hkeys⟩ : Dict _ _).get? n = some fields ↔
      (n, fields) ∈ view name values items := Dict.get?_eq_some_iff
  refine hentry.trans ?_
  simp only [view, List.mem_map, Prod.mk.injEq]

/-- **The report of a collection is exact** about the view of it on the two sides. -/
structure CollectionExact (label : String)
    (old new : List (String × List (String × FieldValue))) (report : DriftReport) : Prop where
  added : ∀ e, e ∈ report.added ↔
    ∃ n, old.lookup n = none ∧ new.lookup n ≠ none ∧ e = addedEntry label n
  removed : ∀ e, e ∈ report.removed ↔
    ∃ n, old.lookup n ≠ none ∧ new.lookup n = none ∧ e = removedEntry label n
  changed : ∀ e, e ∈ report.changed ↔ ∃ n oldFields newFields, old.lookup n = some oldFields ∧
    new.lookup n = some newFields ∧ ∃ field oldValue newValue, (field, oldValue) ∈ oldFields ∧
      (field, newValue) ∈ newFields ∧ oldValue ≠ newValue ∧
      e = changedEntry (label ++ n) field oldValue newValue
  changed_differs : ∀ e ∈ report.changed, e.oldValue ≠ e.newValue
  nodup_added : report.added.Nodup
  nodup_removed : report.removed.Nodup
  nodup_changed : report.changed.Nodup

theorem append_inj_right {label n n' : String} (h : label ++ n = label ++ n') : n = n' := by
  have hchars := congrArg String.toList h
  rw [String.toList_append, String.toList_append] at hchars
  exact String.toList_inj.1 (List.append_cancel_left hchars)

/-- Fields side by side, where both sides have the same ones. -/
theorem mem_zipWith_fields {old new : List (String × FieldValue)}
    (hsame : old.map Prod.fst = new.map Prod.fst) (hnodup : (old.map Prod.fst).Nodup)
    {field : ComparedField} :
    field ∈ List.zipWith (fun x y => (⟨x.1, x.2, y.2⟩ : ComparedField)) old new ↔
      (field.name, field.oldValue) ∈ old ∧ (field.name, field.newValue) ∈ new := by
  induction old generalizing new with
  | nil =>
      rw [List.zipWith_nil_left]
      exact iff_of_false List.not_mem_nil fun h => List.not_mem_nil h.1
  | cons x old ih =>
      cases new with
      | nil => cases hsame
      | cons y new =>
          rw [List.map_cons, List.map_cons, List.cons.injEq] at hsame
          rw [List.map_cons, List.nodup_cons] at hnodup
          rw [List.zipWith_cons_cons, List.mem_cons, ih hsame.2 hnodup.2, List.mem_cons,
            List.mem_cons]
          obtain ⟨fieldName, oldValue, newValue⟩ := field
          -- The name of the first field is not among the others, on either side.
          have hold : ∀ value, (x.1, value) ∉ old := fun value hmem =>
            hnodup.1 (List.mem_map.2 ⟨_, hmem, rfl⟩)
          have hnew : ∀ value, (x.1, value) ∉ new := fun value hmem =>
            hnodup.1 (hsame.2 ▸ List.mem_map.2 ⟨_, hmem, rfl⟩)
          simp only [ComparedField.mk.injEq, Prod.ext_iff]
          constructor
          · rintro (⟨rfl, rfl, rfl⟩ | ⟨hmem, hmem'⟩)
            · exact ⟨Or.inl ⟨rfl, rfl⟩, Or.inl ⟨hsame.1, rfl⟩⟩
            · exact ⟨Or.inr hmem, Or.inr hmem'⟩
          · rintro ⟨⟨rfl, rfl⟩ | hmem, ⟨hname, rfl⟩ | hmem'⟩
            · exact Or.inl ⟨rfl, rfl, rfl⟩
            · exact absurd hmem' (hnew _)
            · rw [hname, ← hsame.1] at hmem
              exact absurd hmem (hold _)
            · exact Or.inr ⟨hmem, hmem'⟩

/-- Entries of distinct names are distinct. -/
theorem nodup_map_entry {items : List α} (hnodup : (items.map name).Nodup) (p : α → Bool)
    {f : α → DriftEntry} (hf : ∀ x y, f x = f y → name x = name y) :
    ((items.filter p).map f).Nodup := by
  have hsub : ((items.filter p).map name).Nodup := hnodup.sublist (List.filter_sublist.map _)
  rw [List.Nodup, List.pairwise_map] at hsub ⊢
  exact hsub.imp fun hne heq => hne (hf _ _ heq)

/-- The items of a collection all have the same fields, each once, and the values of a
field are told apart by their texts. -/
structure SameFields (values : α → List (String × FieldValue)) : Prop where
  same : ∀ x y, (values x).map Prod.fst = (values y).map Prod.fst
  nodup : ∀ x, ((values x).map Prod.fst).Nodup
  stringify_inj : ∀ x y, ∀ field ∈ compareValues values x y,
    stringify field.oldValue = stringify field.newValue → field.oldValue = field.newValue

theorem mem_changedOf (hcurrent : (current.map name).Nodup) (hvalues : SameFields values)
    {item : α} {e : DriftEntry} :
    e ∈ changedOf label name values current item ↔ ∃ other ∈ current, name other = name item ∧
      ∃ field oldValue newValue, (field, oldValue) ∈ values item ∧
        (field, newValue) ∈ values other ∧ oldValue ≠ newValue ∧
        e = changedEntry (label ++ name item) field oldValue newValue := by
  unfold changedOf
  cases hfind : current.reverse.find? fun other => name other == name item with
  | none =>
      refine iff_of_false List.not_mem_nil ?_
      rintro ⟨other, hother, hname, -⟩
      exact find?_reverse_eq_none.1 hfind (hname ▸ List.mem_map_of_mem hother)
  | some found =>
      obtain ⟨hfound, hname⟩ := (find?_reverse_eq_some hcurrent).1 hfind
      simp only [List.mem_map, List.mem_filter, decide_eq_true_iff, compareValues,
        mem_zipWith_fields (hvalues.same item found) (hvalues.nodup item)]
      constructor
      · rintro ⟨field, ⟨⟨hold, hnew⟩, hne⟩, rfl⟩
        exact ⟨found, hfound, hname, field.name, field.oldValue, field.newValue, hold, hnew, hne,
          rfl⟩
      · rintro ⟨other, hother, hothername, field, oldValue, newValue, hold, hnew, hne, rfl⟩
        have hsame : other = found :=
          List.inj_on_of_nodup_map hcurrent hother hfound (hothername.trans hname.symm)
        rw [hsame] at hnew
        exact ⟨⟨field, oldValue, newValue⟩, ⟨⟨hold, hnew⟩, hne⟩, rfl⟩

/-- Fields side by side have the names of either side. -/
theorem map_name_zipWith {old new : List (String × FieldValue)}
    (hsame : old.map Prod.fst = new.map Prod.fst) :
    (List.zipWith (fun x y => (⟨x.1, x.2, y.2⟩ : ComparedField)) old new).map (·.name) =
      old.map Prod.fst := by
  induction old generalizing new with
  | nil => rw [List.zipWith_nil_left]; rfl
  | cons x old ih =>
      cases new with
      | nil => cases hsame
      | cons y new =>
          rw [List.map_cons, List.map_cons, List.cons.injEq] at hsame
          rw [List.zipWith_cons_cons, List.map_cons, List.map_cons, ih hsame.2]

theorem nodup_changedOf (hvalues : SameFields values) (item : α) :
    (changedOf label name values current item).Nodup := by
  unfold changedOf
  split
  · exact List.nodup_nil
  · next found hfind =>
    have hnames : ((compareValues values item found).map (·.name)).Nodup := by
      rw [compareValues, map_name_zipWith (hvalues.same item found)]
      exact hvalues.nodup item
    have hsub := hnames.sublist ((List.filter_sublist (l := compareValues values item found)
      (p := fun field => field.oldValue ≠ field.newValue)).map _)
    rw [List.Nodup, List.pairwise_map] at hsub ⊢
    refine hsub.imp fun hne heq => hne ?_
    exact Option.some.inj (congrArg DriftEntry.field heq)

/-- **The differences of one collection are exact.** -/
theorem exact_diffResources (hlabel : isBlank label = false) (hvalues : SameFields values)
    (hbaseline : (baseline.map name).Nodup) (hcurrent : (current.map name).Nodup) :
    ∃ report, diffResources label name (compareValues values) baseline current = .ok report ∧
      CollectionExact label (view name values baseline) (view name values current) report := by
  refine ⟨_, diffResources_eq hlabel baseline current, fun e => ?_, fun e => ?_, fun e => ?_,
    fun e he => ?_, ?_, ?_, ?_⟩
  · simp only [List.mem_map, List.mem_filter, decide_eq_true_iff, lookup_view_eq_none, ne_eq, not_not]
    constructor
    · rintro ⟨item, ⟨hitem, hnot⟩, rfl⟩
      exact ⟨name item, hnot, ⟨item, hitem, rfl⟩, rfl⟩
    · rintro ⟨n, hnot, ⟨item, hitem, rfl⟩, rfl⟩
      exact ⟨item, ⟨hitem, hnot⟩, rfl⟩
  · simp only [List.mem_map, List.mem_filter, decide_eq_true_iff, lookup_view_eq_none, ne_eq, not_not]
    constructor
    · rintro ⟨item, ⟨hitem, hnot⟩, rfl⟩
      exact ⟨name item, ⟨item, hitem, rfl⟩, hnot, rfl⟩
    · rintro ⟨n, ⟨item, hitem, rfl⟩, hnot, rfl⟩
      exact ⟨item, ⟨hitem, hnot⟩, rfl⟩
  · simp only [List.mem_flatMap, mem_changedOf hcurrent hvalues, lookup_view_eq_some hbaseline,
      lookup_view_eq_some hcurrent]
    constructor
    · rintro ⟨item, hitem, other, hother, hname, hfields⟩
      exact ⟨name item, _, _, ⟨item, hitem, rfl, rfl⟩, ⟨other, hother, hname, rfl⟩, hfields⟩
    · rintro ⟨n, _, _, ⟨item, hitem, rfl, rfl⟩, ⟨other, hother, hname, rfl⟩, hfields⟩
      exact ⟨item, hitem, other, hother, hname, hfields⟩
  · obtain ⟨item, -, hchanged⟩ := List.mem_flatMap.1 he
    obtain ⟨other, -, -, field, oldValue, newValue, hold, hnew, hne, rfl⟩ :=
      (mem_changedOf hcurrent hvalues).1 hchanged
    refine fun hsame => hne (hvalues.stringify_inj item other ⟨field, oldValue, newValue⟩ ?_ hsame)
    exact (mem_zipWith_fields (hvalues.same item other) (hvalues.nodup item)).2 ⟨hold, hnew⟩
  · exact nodup_map_entry hcurrent _ fun x y h => Option.some.inj (congrArg DriftEntry.newValue h)
  · exact nodup_map_entry hbaseline _ fun x y h => Option.some.inj (congrArg DriftEntry.oldValue h)
  · refine List.nodup_flatMap.2 ⟨fun item _ => nodup_changedOf hvalues item, ?_⟩
    rw [List.Nodup, List.pairwise_map] at hbaseline
    refine hbaseline.imp fun hne e he he' => hne ?_
    obtain ⟨_, _, _, _, _, _, _, _, _, rfl⟩ := (mem_changedOf hcurrent hvalues).1 he
    obtain ⟨_, _, _, _, _, _, _, _, _, heq⟩ := (mem_changedOf hcurrent hvalues).1 he'
    exact append_inj_right (congrArg DriftEntry.resource heq)

end Collection

/-! ### The three collections together -/

/-- Texts that may be missing are told apart. -/
theorem stringify_ofText_inj {a b : Option String}
    (h : stringify (.ofText a) = stringify (.ofText b)) :
    FieldValue.ofText a = .ofText b := by
  cases a with
  | none =>
      cases b with
      | none => rfl
      | some t => cases h
  | some s =>
      cases b with
      | none => cases h
      | some t => exact congrArg FieldValue.str (Option.some.inj h)

/-- Numbers that may be missing are told apart. -/
theorem stringify_ofInt_inj {a b : Option ℤ}
    (h : stringify (.ofInt a) = stringify (.ofInt b)) : FieldValue.ofInt a = .ofInt b := by
  cases a with
  | none =>
      cases b with
      | none => rfl
      | some n => cases h
  | some m =>
      cases b with
      | none => cases h
      | some n => exact congrArg FieldValue.int (int_toString_inj.1 (Option.some.inj h))

theorem sameFields_interfaceValues : SameFields interfaceValues where
  same _ _ := rfl
  nodup _ := (by decide :
    ["description", "ip_address", "mtu", "admin_state", "acl_in", "acl_out"].Nodup)
  stringify_inj x y := by
    simp only [compareValues, interfaceValues, List.zipWith_cons_cons, List.zipWith_nil_left,
      List.forall_mem_cons]
    exact ⟨stringify_ofText_inj, stringify_ofText_inj, stringify_ofInt_inj,
      fun h => congrArg FieldValue.enum (Option.some.inj h), stringify_ofText_inj,
      stringify_ofText_inj, nofun⟩

theorem sameFields_neighborValues : SameFields neighborValues where
  same _ _ := rfl
  nodup _ := (by decide : ["remote_as"].Nodup)
  stringify_inj x y := by
    simp only [compareValues, neighborValues, List.zipWith_cons_cons, List.zipWith_nil_left,
      List.forall_mem_cons]
    exact ⟨fun h => congrArg FieldValue.int (int_toString_inj.1 (Option.some.inj h)), nofun⟩

theorem sameFields_nil : SameFields fun _ : NormalizedAcl => [] where
  same _ _ := rfl
  nodup _ := List.nodup_nil
  stringify_inj _ _ := nofun

/-- The reports of the three collections, one after the other. -/
def joined (part : ResourceKind → DriftReport) : DriftReport :=
  ⟨(part .interface).added ++ (part .bgpNeighbor).added ++ (part .acl).added,
    (part .interface).removed ++ (part .bgpNeighbor).removed ++ (part .acl).removed,
    (part .interface).changed ++ (part .bgpNeighbor).changed ++ (part .acl).changed⟩

/-- **A comparison is three exact reports.** -/
theorem compare_eq_joined {baseline current : NormalizedConfiguration} (hb : UniqueNames baseline)
    (hc : UniqueNames current) : ∃ part : ResourceKind → DriftReport,
      compare baseline current = .ok (joined part) ∧
      ∀ kind, CollectionExact kind.label (resources baseline kind) (resources current kind)
        (part kind) := by
  obtain ⟨interfaces, hinterfaces, hexact⟩ :=
    exact_diffResources (by decide : isBlank ResourceKind.interface.label = false)
      sameFields_interfaceValues hb.interfaces hc.interfaces
  obtain ⟨neighbors, hneighbors, hexact'⟩ :=
    exact_diffResources (by decide : isBlank ResourceKind.bgpNeighbor.label = false)
      sameFields_neighborValues hb.neighbors hc.neighbors
  obtain ⟨acls, hacls, hexact''⟩ :=
    exact_diffResources (by decide : isBlank ResourceKind.acl.label = false)
      sameFields_nil hb.acls hc.acls
  refine ⟨fun kind => match kind with
    | .interface => interfaces
    | .bgpNeighbor => neighbors
    | .acl => acls, ?_, fun kind => ?_⟩
  · exact except_bind_eq_ok.2 ⟨_, hinterfaces, except_bind_eq_ok.2 ⟨_, hneighbors,
      except_bind_eq_ok.2 ⟨_, hacls, rfl⟩⟩⟩
  · cases kind with
    | interface => exact hexact
    | bgpNeighbor => exact hexact'
    | acl => exact hexact''

/-- What a resource string is about can be told from it. -/
theorem label_append_inj {kind kind' : ResourceKind} {n n' : String}
    (h : kind.label ++ n = kind'.label ++ n') : kind = kind' ∧ n = n' := by
  have hkind : kind = kind' := by
    have hhead := congrArg (fun s : String => s.toList.head?) h
    cases kind <;> cases kind' <;>
      first
      | rfl
      | (simp [ResourceKind.label, String.toList_append] at hhead)
  subst hkind
  exact ⟨rfl, append_inj_right h⟩

/-- A member of the joined lists is one of some kind. -/
theorem mem_join_iff {β : Type} (parts : ResourceKind → List β) {x : β} :
    x ∈ parts .interface ++ parts .bgpNeighbor ++ parts .acl ↔ ∃ kind, x ∈ parts kind := by
  rw [List.mem_append, List.mem_append]
  constructor
  · rintro ((h | h) | h)
    · exact ⟨_, h⟩
    · exact ⟨_, h⟩
    · exact ⟨_, h⟩
  · rintro ⟨kind, h⟩
    cases kind with
    | interface => exact Or.inl (Or.inl h)
    | bgpNeighbor => exact Or.inl (Or.inr h)
    | acl => exact Or.inr h

/-- Entries of three kinds, each once, are each once altogether. -/
theorem nodup_join (parts : ResourceKind → List DriftEntry) (hnodup : ∀ kind, (parts kind).Nodup)
    (hlabel : ∀ kind, ∀ e ∈ parts kind, ∃ n, e.resource = kind.label ++ n) :
    (parts .interface ++ parts .bgpNeighbor ++ parts .acl).Nodup := by
  have hdisjoint : ∀ {kind kind'}, kind ≠ kind' → ∀ e ∈ parts kind, ∀ e' ∈ parts kind', e ≠ e' := by
    intro kind kind' hne e he e' he' heq
    obtain ⟨n, hn⟩ := hlabel kind e he
    obtain ⟨n', hn'⟩ := hlabel kind' e' he'
    rw [heq, hn'] at hn
    exact hne (label_append_inj hn).1.symm
  refine List.nodup_append.2 ⟨List.nodup_append.2 ⟨hnodup _, hnodup _, hdisjoint (by decide)⟩, hnodup _,
    fun e he e' he' => ?_⟩
  rcases List.mem_append.1 he with he | he
  · exact hdisjoint (by decide) e he e' he'
  · exact hdisjoint (by decide) e he e' he'

/-- **Three exact reports make an exact one.** -/
theorem exact_joined {baseline current : NormalizedConfiguration}
    {part : ResourceKind → DriftReport}
    (h : ∀ kind, CollectionExact kind.label (resources baseline kind) (resources current kind)
      (part kind)) : Exact baseline current (joined part) where
  added e := by
    refine (mem_join_iff fun kind => (part kind).added).trans ?_
    exact exists_congr fun kind => (h kind).added e
  removed e := by
    refine (mem_join_iff fun kind => (part kind).removed).trans ?_
    exact exists_congr fun kind => (h kind).removed e
  changed e := by
    refine (mem_join_iff fun kind => (part kind).changed).trans ?_
    exact exists_congr fun kind => (h kind).changed e
  changed_differs e he := by
    obtain ⟨kind, hkind⟩ := (mem_join_iff fun kind => (part kind).changed).1 he
    exact (h kind).changed_differs e hkind
  nodup_added := by
    refine nodup_join (fun kind => (part kind).added) (fun kind => (h kind).nodup_added)
      fun kind e he => ?_
    obtain ⟨n, -, -, rfl⟩ := ((h kind).added e).1 he
    exact ⟨n, rfl⟩
  nodup_removed := by
    refine nodup_join (fun kind => (part kind).removed)
      (fun kind => (h kind).nodup_removed) fun kind e he => ?_
    obtain ⟨n, -, -, rfl⟩ := ((h kind).removed e).1 he
    exact ⟨n, rfl⟩
  nodup_changed := by
    refine nodup_join (fun kind => (part kind).changed)
      (fun kind => (h kind).nodup_changed) fun kind e he => ?_
    obtain ⟨n, _, _, -, -, _, _, _, -, -, -, rfl⟩ := ((h kind).changed e).1 he
    exact ⟨n, rfl⟩

/-- **A comparison of configurations with unique names is exact.** -/
theorem exact_compare {baseline current : NormalizedConfiguration} (hb : UniqueNames baseline)
    (hc : UniqueNames current) :
    ∃ report, compare baseline current = .ok report ∧ Exact baseline current report := by
  obtain ⟨part, hcompare, hpart⟩ := compare_eq_joined hb hc
  exact ⟨_, hcompare, exact_joined hpart⟩

/-! ### What follows from exactness -/

section Consequences

variable {baseline current : NormalizedConfiguration} {report report' : DriftReport}

/-- Exactness is about the resources, however they are ordered. -/
theorem Exact.congr {baseline' current' : NormalizedConfiguration}
    (h : Exact baseline current report)
    (hbaseline : ∀ kind name, fieldsOf baseline' kind name = fieldsOf baseline kind name)
    (hcurrent : ∀ kind name, fieldsOf current' kind name = fieldsOf current kind name) :
    Exact baseline' current' report := by
  refine ⟨?_, ?_, ?_, h.changed_differs, h.nodup_added, h.nodup_removed, h.nodup_changed⟩
  · simpa only [hbaseline, hcurrent] using h.added
  · simpa only [hbaseline, hcurrent] using h.removed
  · simpa only [hbaseline, hcurrent] using h.changed

@[simp] theorem DriftEntry.swap_swap (e : DriftEntry) :
    DriftEntry.swap (DriftEntry.swap e) = e := rfl

theorem mem_map_swap {entries : List DriftEntry} {e : DriftEntry} :
    e ∈ entries.map DriftEntry.swap ↔ DriftEntry.swap e ∈ entries := by
  rw [List.mem_map]
  constructor
  · rintro ⟨e', he', rfl⟩
    exact he'
  · exact fun h => ⟨_, h, rfl⟩

theorem swap_injective : Function.Injective DriftEntry.swap :=
  fun _ _ h => congrArg DriftEntry.swap h

/-- **Read from the other side, an exact report is exact.** -/
theorem Exact.swap (h : Exact baseline current report) :
    Exact current baseline (DriftReport.swap report) where
  added e := by
    refine mem_map_swap.trans ((h.removed _).trans ?_)
    constructor
    · rintro ⟨kind, name, hb, hc, he⟩
      exact ⟨kind, name, hc, hb, congrArg DriftEntry.swap he⟩
    · rintro ⟨kind, name, hc, hb, rfl⟩
      exact ⟨kind, name, hb, hc, rfl⟩
  removed e := by
    refine mem_map_swap.trans ((h.added _).trans ?_)
    constructor
    · rintro ⟨kind, name, hb, hc, he⟩
      exact ⟨kind, name, hc, hb, congrArg DriftEntry.swap he⟩
    · rintro ⟨kind, name, hc, hb, rfl⟩
      exact ⟨kind, name, hb, hc, rfl⟩
  changed e := by
    refine mem_map_swap.trans ((h.changed _).trans ?_)
    constructor
    · rintro ⟨kind, name, old, new, hb, hc, field, oldValue, newValue, hold, hnew, hne, he⟩
      exact ⟨kind, name, new, old, hc, hb, field, newValue, oldValue, hnew, hold, hne.symm,
        congrArg DriftEntry.swap he⟩
    · rintro ⟨kind, name, old, new, hc, hb, field, oldValue, newValue, hold, hnew, hne, rfl⟩
      exact ⟨kind, name, new, old, hb, hc, field, newValue, oldValue, hnew, hold, hne.symm, rfl⟩
  changed_differs e he := fun heq => h.changed_differs _ (mem_map_swap.1 he) heq.symm
  nodup_added := h.nodup_removed.map swap_injective
  nodup_removed := h.nodup_added.map swap_injective
  nodup_changed := h.nodup_changed.map swap_injective

/-- The fields of a resource have the names that its kind has. -/
theorem fields_of_kind {kind : ResourceKind} {name : String} {old new : List (String × FieldValue)}
    (hold : fieldsOf baseline kind name = some old) (hnew : fieldsOf current kind name = some new) :
    old.map Prod.fst = new.map Prod.fst ∧ (old.map Prod.fst).Nodup := by
  have hmem : ∀ {config fields}, fieldsOf config kind name = some fields →
      (name, fields) ∈ resources config kind := by
    intro config fields h
    obtain ⟨l₁, l₂, hsplit, -⟩ := List.lookup_eq_some_iff.1 h
    rw [hsplit]
    exact List.mem_append_right _ (List.mem_cons_self ..)
  have hold' := hmem hold
  have hnew' := hmem hnew
  cases kind with
  | interface =>
      obtain ⟨x, -, hx⟩ := List.mem_map.1 hold'
      obtain ⟨y, -, hy⟩ := List.mem_map.1 hnew'
      rw [← (Prod.mk.inj hx).2, ← (Prod.mk.inj hy).2]
      exact ⟨sameFields_interfaceValues.same x y, sameFields_interfaceValues.nodup x⟩
  | bgpNeighbor =>
      obtain ⟨x, -, hx⟩ := List.mem_map.1 hold'
      obtain ⟨y, -, hy⟩ := List.mem_map.1 hnew'
      rw [← (Prod.mk.inj hx).2, ← (Prod.mk.inj hy).2]
      exact ⟨sameFields_neighborValues.same x y, sameFields_neighborValues.nodup x⟩
  | acl =>
      obtain ⟨x, -, hx⟩ := List.mem_map.1 hold'
      obtain ⟨y, -, hy⟩ := List.mem_map.1 hnew'
      rw [← (Prod.mk.inj hx).2, ← (Prod.mk.inj hy).2]
      exact ⟨rfl, List.nodup_nil⟩

/-- Two lists of the same fields in which no value differs are the same. -/
theorem eq_of_no_difference {old new : List (String × FieldValue)}
    (hsame : old.map Prod.fst = new.map Prod.fst) (hnodup : (old.map Prod.fst).Nodup)
    (h : ∀ field oldValue newValue, (field, oldValue) ∈ old → (field, newValue) ∈ new →
      oldValue = newValue) : old = new := by
  have hsub : ∀ field ∈ List.zipWith (fun x y => (⟨x.1, x.2, y.2⟩ : ComparedField)) old new,
      field.oldValue = field.newValue := by
    intro field hfield
    obtain ⟨hold, hnew⟩ := (mem_zipWith_fields hsame hnodup).1 hfield
    exact h field.name _ _ hold hnew
  clear h hnodup
  induction old generalizing new with
  | nil => exact (List.map_eq_nil_iff.1 hsame.symm).symm
  | cons x old ih =>
      cases new with
      | nil => cases hsame
      | cons y new =>
          rw [List.map_cons, List.map_cons, List.cons.injEq] at hsame
          rw [List.zipWith_cons_cons, List.forall_mem_cons] at hsub
          rw [ih hsame.2 hsub.2, Prod.ext hsame.1 hsub.1]

/-- **An exact report is empty exactly where the two sides agree.** -/
theorem Exact.empty_iff (h : Exact baseline current report) :
    report = ⟨[], [], []⟩ ↔
      ∀ kind name, fieldsOf baseline kind name = fieldsOf current kind name := by
  constructor
  · rintro rfl kind name
    cases hb : fieldsOf baseline kind name with
    | none =>
        by_contra hc
        exact List.not_mem_nil ((h.added _).2 ⟨kind, name, hb, Ne.symm hc, rfl⟩)
    | some old =>
        cases hc : fieldsOf current kind name with
        | none =>
            refine absurd ((h.removed _).2 ⟨kind, name, ?_, hc, rfl⟩) List.not_mem_nil
            rw [hb]
            exact Option.some_ne_none _
        | some new =>
            obtain ⟨hsame, hnodup⟩ := fields_of_kind hb hc
            refine congrArg some (eq_of_no_difference hsame hnodup ?_)
            intro field oldValue newValue hold hnew
            by_contra hne
            exact List.not_mem_nil ((h.changed _).2
              ⟨kind, name, old, new, hb, hc, field, oldValue, newValue, hold, hnew, hne, rfl⟩)
  · intro hagree
    have hadded : report.added = [] := by
      refine List.eq_nil_iff_forall_not_mem.2 fun e he => ?_
      obtain ⟨kind, name, hb, hc, -⟩ := (h.added e).1 he
      exact hc ((hagree kind name).symm.trans hb)
    have hremoved : report.removed = [] := by
      refine List.eq_nil_iff_forall_not_mem.2 fun e he => ?_
      obtain ⟨kind, name, hb, hc, -⟩ := (h.removed e).1 he
      exact hb ((hagree kind name).trans hc)
    have hchanged : report.changed = [] := by
      refine List.eq_nil_iff_forall_not_mem.2 fun e he => ?_
      obtain ⟨kind, name, old, new, hb, hc, field, oldValue, newValue, hold, hnew, hne, -⟩ :=
        (h.changed e).1 he
      obtain ⟨-, hnodup⟩ := fields_of_kind hb hc
      rw [hagree, hc, Option.some.injEq] at hb
      rw [hb] at hnew
      exact hne (congrArg Prod.snd (List.inj_on_of_nodup_map hnodup hold hnew rfl))
    obtain ⟨added, removed, changed⟩ := report
    dsimp only at hadded hremoved hchanged
    rw [hadded, hremoved, hchanged]

end Consequences

/-! ### The comparison -/

theorem Reordered.uniqueNames {config config' : NormalizedConfiguration}
    (h : Reordered config config') (hunique : UniqueNames config) : UniqueNames config' :=
  ⟨(h.interfaces.map _).nodup_iff.1 hunique.interfaces,
    (h.neighbors.map _).nodup_iff.1 hunique.neighbors, (h.acls.map _).nodup_iff.1 hunique.acls⟩

end DriftDetector
end MetaRne
