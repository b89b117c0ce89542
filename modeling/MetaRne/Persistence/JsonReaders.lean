/-
# Reading stored JSON

The readers that `persistence/serialization.py` and
`persistence/operational_state_serialization.py` are made of.  A reader returns
what it found or raises `SerializationError`; only `getKey`, on a value that is
no object, raises the `TypeError` of a subscript.
-/

import MetaRne.Domain.Anomaly
import MetaRne.Domain.OperationalState
import MetaRne.Domain.Policy
import MetaRne.Library.Raising
import MetaRne.Python.Isoformat

namespace MetaRne

open Library.Effect Python

/-! ### Enumerations stored by their value -/

/-- A `StrEnum`: its members and their strings. -/
class StrEnum (α : Type) where
  members : List α
  value : α → String
  mem_members : ∀ a, a ∈ members
  value_injective : ∀ a ∈ members, ∀ b ∈ members, value a = value b → a = b

instance : StrEnum AdminState where
  members := [.up, .down]
  value := AdminState.value
  mem_members := fun a => by cases a <;> decide
  value_injective := by decide

instance : StrEnum AclAction where
  members := [.permit, .deny]
  value := AclAction.value
  mem_members := fun a => by cases a <;> decide
  value_injective := by decide

instance : StrEnum AclDirection where
  members := [.in, .out]
  value := AclDirection.value
  mem_members := fun a => by cases a <;> decide
  value_injective := by decide

instance : StrEnum Severity where
  members := [.critical, .high, .medium, .low]
  value := Severity.value
  mem_members := fun a => by cases a <;> decide
  value_injective := by decide

instance : StrEnum ViolationType where
  members := [.missingRequiredAcl, .targetInterfaceMissing]
  value := ViolationType.value
  mem_members := fun a => by cases a <;> decide
  value_injective := by decide

instance : StrEnum LinkState where
  members := [.up, .down]
  value := LinkState.value
  mem_members := fun a => by cases a <;> decide
  value_injective := by decide

instance : StrEnum BgpState where
  members := [.idle, .connect, .active, .openSent, .openConfirm, .established]
  value := BgpState.value
  mem_members := fun a => by cases a <;> decide
  value_injective := by decide

instance : StrEnum RuleId where
  members := [.cpuHigh, .linkFlap, .bgpDown]
  value := RuleId.value
  mem_members := fun a => by cases a <;> decide
  value_injective := by decide

instance : StrEnum NodeRole where
  members := [.router, .host]
  value := NodeRole.value
  mem_members := fun a => by cases a <;> decide
  value_injective := by decide

instance : StrEnum InterfaceOperState where
  members := [.up, .down, .unknown]
  value := InterfaceOperState.value
  mem_members := fun a => by cases a <;> decide
  value_injective := by decide

instance : StrEnum BgpSessionState where
  members := [.idle, .connect, .active, .openSent, .openConfirm, .established, .unknown]
  value := BgpSessionState.value
  mem_members := fun a => by cases a <;> decide
  value_injective := by decide

instance : StrEnum ObservationFacet where
  members := [.interfaces, .bgp, .routes, .reachability]
  value := ObservationFacet.value
  mem_members := fun a => by cases a <;> decide
  value_injective := by decide

/-- The strings of an enumeration. -/
def StrEnum.words (α : Type) [StrEnum α] : List String := (StrEnum.members (α := α)).map StrEnum.value

/-- A member is stored as its string. -/
def enumToJson {α : Type} [StrEnum α] (a : α) : Json := .str (StrEnum.value a)

/-! ### Readers -/

/-- `_require_dict`. -/
def requireDict (data : Json) (what : String) : Except Error Json :=
  match data with
  | .obj fields => .ok (.obj fields)
  | other => .error (.serialization "%s must be a JSON object, got %s" [what, other.typeName])

/-- `_require_list`. -/
def requireList (data : Json) (what : String) : Except Error (List Json) :=
  match data with
  | .arr items => .ok items
  | other => .error (.serialization "%s must be a JSON array, got %s" [what, other.typeName])

/-- `_get`, of a value that may be no object: `data[key]` then raises `TypeError`. -/
def getKey (data : Json) (key what : String) : Except Error Json :=
  match data with
  | .obj fields =>
    match fields.lookup key with
    | some value => .ok value
    | none => .error (.serialization "%s is missing required key %r" [what, key])
  | .arr _ => .error (.typeError "list indices must be integers or slices, not str")
  | .str _ => .error (.typeError "string indices must be integers, not 'str'")
  | other => .error (.typeError ("'" ++ other.typeName ++ "' object is not subscriptable"))

/-- `_enum`. -/
def enumMember (α : Type) [StrEnum α] (value : Json) (what : String) : Except Error α :=
  match value with
  | .str s =>
    match (StrEnum.members (α := α)).find? fun a => StrEnum.value a == s with
    | some a => .ok a
    | none => .error (.serialization "%s has an unsupported value: %r" [what, .json value])
  | other => .error (.serialization "%s has an unsupported value: %r" [what, .json other])

/-- `_utc_datetime_from_json`. -/
def utcDatetimeFromJson (value : Json) (what : String) : Except Error Timestamp :=
  match value with
  | .str s =>
    match fromisoformat s with
    | none => .error (.serialization "%s is not a valid ISO-8601 timestamp: %r" [what, s])
    | some parsed =>
      match parsed.utcoffset with
      | none => .error (.serialization
          "%s must be timezone-aware, got a naive timestamp: %r" [what, s])
      | some offset =>
        if offset = 0 then .ok parsed.wall
        else .error (.serialization "%s must be UTC, got offset %s: %r"
          [what, .timedelta offset, s])
  | other => .error (.serialization "%s must be a string, got %s" [what, other.typeName])

/-! ### What a reader returns -/

section Readers

variable {data value : Json} {key what : String}

theorem requireDict_eq_ok {j : Json} :
    requireDict data what = .ok j ↔ (∃ fields, data = .obj fields) ∧ j = data := by
  cases data with
  | obj fields =>
      constructor
      · intro h
        cases h
        exact ⟨⟨fields, rfl⟩, rfl⟩
      · rintro ⟨-, rfl⟩
        rfl
  | _ => exact iff_of_false (fun h => by cases h) fun h => by obtain ⟨⟨_, h⟩, -⟩ := h; cases h

theorem requireList_eq_ok {items : List Json} :
    requireList data what = .ok items ↔ data = .arr items := by
  cases data with
  | arr items' =>
      constructor
      · intro h
        cases h
        rfl
      · intro h
        cases h
        rfl
  | _ => exact iff_of_false (fun h => by cases h) fun h => by cases h

theorem getKey_eq_ok : getKey data key what = .ok value ↔ HasKey data key value := by
  cases data with
  | obj fields =>
      have hkey : HasKey (.obj fields) key value ↔ fields.lookup key = some value := by
        constructor
        · rintro ⟨fields', hfields, hlookup⟩
          cases hfields
          exact hlookup
        · exact fun hlookup => ⟨fields, rfl, hlookup⟩
      rw [hkey, getKey]
      cases fields.lookup key with
      | none => exact iff_of_false (fun h => by cases h) fun h => by cases h
      | some found => simp only [Except.ok.injEq, Option.some.injEq]
  | _ => exact iff_of_false (fun h => by cases h) fun h => by obtain ⟨_, h, -⟩ := h; cases h

@[simp] theorem requireDict_obj (fields : List (String × Json)) :
    requireDict (.obj fields) what = .ok (.obj fields) := rfl

@[simp] theorem requireList_arr (items : List Json) : requireList (.arr items) what = .ok items :=
  rfl

@[simp] theorem getKey_cons_self (fields : List (String × Json)) :
    getKey (.obj ((key, value) :: fields)) key what = .ok value := by
  simp only [getKey, List.lookup_cons_self]

theorem getKey_cons_of_ne {key' : String} (fields : List (String × Json)) (h : key ≠ key') :
    getKey (.obj ((key', value) :: fields)) key what = getKey (.obj fields) key what := by
  simp only [getKey, List.lookup_cons, beq_eq_false_iff_ne.2 h]

@[simp] theorem enumMember_value {α : Type} [StrEnum α] (a : α) :
    enumMember α (enumToJson a) what = .ok a := by
  have hfound : (StrEnum.members (α := α)).find? (fun b => StrEnum.value b == StrEnum.value a) =
      some a := by
    cases hfind : (StrEnum.members (α := α)).find? fun b => StrEnum.value b == StrEnum.value a with
    | none =>
        have hnone := List.find?_eq_none.1 hfind a (StrEnum.mem_members a)
        rw [beq_self_eq_true] at hnone
        exact absurd rfl hnone
    | some b =>
        have hp := List.find?_some hfind
        have hvalue : StrEnum.value b = StrEnum.value a := beq_iff_eq.1 hp
        exact congrArg some (StrEnum.value_injective b (List.mem_of_find?_eq_some hfind) a
          (StrEnum.mem_members a) hvalue)
  simp only [enumMember, enumToJson, hfound]

theorem enumMember_eq_ok {α : Type} [StrEnum α] {a : α} :
    enumMember α value what = .ok a ↔ value = enumToJson a := by
  constructor
  · intro h
    cases value with
    | str s =>
        cases hfind : (StrEnum.members (α := α)).find? fun b => StrEnum.value b == s with
        | none =>
            simp only [enumMember, hfind] at h
            cases h
        | some b =>
            simp only [enumMember, hfind, Except.ok.injEq] at h
            have hp := List.find?_some hfind
            have hvalue : StrEnum.value b = s := beq_iff_eq.1 hp
            rw [← h, enumToJson, hvalue]
    | _ => cases h
  · rintro rfl
    exact enumMember_value a

/-- A word of an enumeration is the string of a member. -/
theorem isWord_iff {α : Type} [StrEnum α] :
    IsWord (StrEnum.words α) value ↔ ∃ a : α, value = enumToJson a := by
  constructor
  · rintro ⟨s, hs, rfl⟩
    obtain ⟨a, -, rfl⟩ := List.mem_map.1 hs
    exact ⟨a, rfl⟩
  · rintro ⟨a, rfl⟩
    exact ⟨_, List.mem_map_of_mem (StrEnum.mem_members a), rfl⟩

/-- The text of a UTC datetime. -/
def IsUtcTimestamp (j : Json) : Prop := ∃ s t, j = .str s ∧ fromisoformat s = some (.utc t)

theorem utcDatetimeFromJson_eq_ok {t : Timestamp} :
    utcDatetimeFromJson value what = .ok t ↔
      ∃ s, value = .str s ∧ fromisoformat s = some (.utc t) := by
  cases value with
  | str s =>
      have hstr : (∃ s', Json.str s = .str s' ∧ fromisoformat s' = some (.utc t)) ↔
          fromisoformat s = some (.utc t) := by
        constructor
        · rintro ⟨s', hs, h⟩
          cases hs
          exact h
        · exact fun h => ⟨s, rfl, h⟩
      rw [hstr, utcDatetimeFromJson]
      cases hparsed : fromisoformat s with
      | none => exact iff_of_false (fun h => by cases h) fun h => by cases h
      | some parsed =>
          obtain ⟨wall, offset⟩ := parsed
          cases offset with
          | none => exact iff_of_false (fun h => by cases h) fun h => by cases h
          | some offset =>
              by_cases hzero : offset = 0
              · simp only [hzero, if_true, Except.ok.injEq, Datetime.utc, Option.some.injEq,
                  Datetime.mk.injEq, and_true]
              · simp only [hzero, if_false, reduceCtorEq, Datetime.utc, Option.some.injEq,
                  Datetime.mk.injEq, and_false]
  | _ => exact iff_of_false (fun h => by cases h) fun h => by obtain ⟨_, h, -⟩ := h; cases h

/-- A timestamp that is written is read back. -/
theorem utcDatetimeFromJson_isoformat {t : Timestamp} (h : t ≤ maxTimestamp) :
    utcDatetimeFromJson (.str (isoformat t)) what = .ok t :=
  utcDatetimeFromJson_eq_ok.2 ⟨_, rfl, fromisoformat_isoformat h⟩

/-! ### What a reader raises -/

/-- A `SerializationError`. -/
def IsSerializationError : Error → Prop
  | .serialization _ _ => True
  | _ => False

/-- What the handlers of the decoders turn into a `SerializationError`, itself included. -/
def IsCaught : Error → Prop
  | .serialization _ _ | .keyError _ | .typeError _ | .attributeError _ => True
  | _ => False

theorem IsSerializationError.caught {e : Error} (h : IsSerializationError e) : IsCaught e := by
  cases e with
  | serialization message values => trivial
  | _ => exact h.elim

theorem requireDict_raises : RaisesOnly IsSerializationError (requireDict data what) := by
  cases data with
  | obj fields => exact raisesOnly_ok _
  | _ => exact raisesOnly_error trivial

theorem requireDict_caught : RaisesOnly IsCaught (requireDict data what) :=
  requireDict_raises.mono fun _ => IsSerializationError.caught

theorem requireList_raises : RaisesOnly IsSerializationError (requireList data what) := by
  cases data with
  | arr items => exact raisesOnly_ok _
  | _ => exact raisesOnly_error trivial

theorem requireList_caught : RaisesOnly IsCaught (requireList data what) :=
  requireList_raises.mono fun _ => IsSerializationError.caught

theorem getKey_raises : RaisesOnly IsCaught (getKey data key what) := by
  cases data with
  | obj fields =>
      rw [getKey]
      cases fields.lookup key with
      | none => exact raisesOnly_error trivial
      | some value => exact raisesOnly_ok _
  | _ => exact raisesOnly_error trivial

theorem enumMember_raises (α : Type) [StrEnum α] :
    RaisesOnly IsSerializationError (enumMember α value what) := by
  cases value with
  | str s =>
      rw [enumMember]
      cases (StrEnum.members (α := α)).find? fun a => StrEnum.value a == s with
      | none => exact raisesOnly_error trivial
      | some a => exact raisesOnly_ok _
  | _ => exact raisesOnly_error trivial

theorem enumMember_caught (α : Type) [StrEnum α] :
    RaisesOnly IsCaught (enumMember α value what) :=
  (enumMember_raises α).mono fun _ => IsSerializationError.caught

theorem utcDatetimeFromJson_raises :
    RaisesOnly IsSerializationError (utcDatetimeFromJson value what) := by
  cases value with
  | str s =>
      rw [utcDatetimeFromJson]
      cases fromisoformat s with
      | none => exact raisesOnly_error trivial
      | some parsed =>
          obtain ⟨wall, offset⟩ := parsed
          cases offset with
          | none => exact raisesOnly_error trivial
          | some offset =>
              by_cases hzero : offset = 0
              · simp only [hzero, if_true]
                exact raisesOnly_ok _
              · simp only [hzero, if_false]
                exact raisesOnly_error trivial
  | _ => exact raisesOnly_error trivial

theorem utcDatetimeFromJson_caught : RaisesOnly IsCaught (utcDatetimeFromJson value what) :=
  utcDatetimeFromJson_raises.mono fun _ => IsSerializationError.caught

end Readers

end MetaRne
