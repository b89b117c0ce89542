/-
# Guards

The guards that `api/networkStateTypes.ts` and `api/networkDiagnosisTypes.ts` are
made of.  A guard looks at an unknown JSON value and either rejects it or lets it
be used at a type: here it gives the value at that type, or `none`.
-/

import MetaRne.Frontend.DateParse
import MetaRne.Python.Json

namespace MetaRne
namespace Frontend

open Python

/-- A property of a record, `none` where the value is no record or the property is
`undefined`. -/
def field (value : Json) (key : String) : Option Json :=
  match value with
  | .obj fields => fields.lookup key
  | _ => none

/-- `typeof value === "string"`. -/
def string? : Json → Option String
  | .str s => some s
  | _ => none

/-- `isNonEmptyString`. -/
def nonEmptyString? : Json → Option String
  | .str s => if s.isEmpty then none else some s
  | _ => none

/-- `typeof value === "boolean"`. -/
def boolean? : Json → Option Bool
  | .bool b => some b
  | _ => none

/-- `isNonNegativeInteger`: a number with no fraction, from zero on. -/
def nonNegativeInteger? : Json → Option ℕ
  | .int n => if 0 ≤ n then some n.toNat else none
  | .float (.finite q) => if q.den = 1 && 0 ≤ q.num then some q.num.toNat else none
  | _ => none

/-- `value === null || …`. -/
def nullable {α : Type} (guard? : Json → Option α) : Json → Option (Option α)
  | .null => some none
  | value => (guard? value).map some

/-- `isOneOf`, of words that each stand for something. -/
def oneOf {α : Type} (words : List (String × α)) : Json → Option α
  | .str s => words.lookup s
  | _ => none

/-- `isArrayOf`. -/
def arrayOf {α : Type} (guard? : Json → Option α) : Json → Option (List α)
  | .arr items => items.mapM guard?
  | _ => none

/-- A timestamp that `Date.parse` can read. -/
structure ParseableTimestamp where
  text : String
  parseable : (dateParse text).isSome = true
  deriving DecidableEq

/-- What `Date.parse` makes of it. -/
def ParseableTimestamp.instant (timestamp : ParseableTimestamp) : ℤ :=
  (dateParse timestamp.text).get timestamp.parseable

/-- `isParseableTimestamp`. -/
def parseableTimestamp? : Json → Option ParseableTimestamp
  | .str s => if h : (dateParse s).isSome = true then some ⟨s, h⟩ else none
  | _ => none

/-! ### What the guards accept -/

theorem field_cons_self (key : String) (value : Json) (fields : List (String × Json)) :
    field (.obj ((key, value) :: fields)) key = some value :=
  List.lookup_cons_self

theorem field_cons_of_ne {key key' : String} (h : key ≠ key') (value : Json)
    (fields : List (String × Json)) :
    field (.obj ((key', value) :: fields)) key = field (.obj fields) key := by
  simp only [field, List.lookup_cons, beq_eq_false_iff_ne.2 h]

theorem nonEmptyString?_str {s : String} (h : s ≠ "") : nonEmptyString? (.str s) = some s := by
  have hne : s.isEmpty = false := by
    rw [← Bool.not_eq_true, String.isEmpty_iff]
    exact h
  simp only [nonEmptyString?, hne, Bool.false_eq_true, if_false]

@[simp] theorem nonNegativeInteger?_ofNat (n : ℕ) : nonNegativeInteger? (.int n) = some n := by
  rw [nonNegativeInteger?, if_pos (Int.natCast_nonneg n), Int.toNat_natCast]

/-- An optional value is null or what it encodes. -/
theorem nullable_ofOption {α β : Type} {guard? : Json → Option β} {encode : α → Json}
    {f : α → β} (a : Option α) (hnull : ∀ x ∈ a, encode x ≠ .null)
    (h : ∀ x ∈ a, guard? (encode x) = some (f x)) :
    nullable guard? (Json.ofOption encode a) = some (a.map f) := by
  cases a with
  | none => rfl
  | some x =>
      have hencoded := h x rfl
      have hne := hnull x rfl
      rw [Json.ofOption, Option.map_some]
      cases hcase : encode x with
      | null => exact absurd hcase hne
      | _ => rw [hcase] at hencoded; simp only [nullable, hencoded, Option.map_some]

/-- The elements of an array are read one by one. -/
theorem arrayOf_map {α β : Type} {guard? : Json → Option β} {encode : α → Json} {f : α → β}
    {xs : List α} (h : ∀ x ∈ xs, guard? (encode x) = some (f x)) :
    arrayOf guard? (.arr (xs.map encode)) = some (xs.map f) := by
  show (xs.map encode).mapM guard? = some (xs.map f)
  induction xs with
  | nil => rfl
  | cons x xs ih =>
      have hrest := ih fun y hy => h y (List.mem_cons_of_mem x hy)
      rw [List.map_cons, List.mapM_cons, h x List.mem_cons_self, hrest]
      rfl

/-- **A UTC datetime of the backend is parseable**, as its millisecond. -/
theorem parseableTimestamp?_jsonText {t : Timestamp} (h : t ≤ maxTimestamp) :
    ∃ timestamp, parseableTimestamp? (.str (jsonText t)) = some timestamp ∧
      timestamp.instant = instantOf t := by
  have hparse := dateParse_jsonText h
  have hsome : (dateParse (jsonText t)).isSome = true := by
    rw [hparse]
    rfl
  refine ⟨⟨jsonText t, hsome⟩, dif_pos hsome, ?_⟩
  simp only [ParseableTimestamp.instant, hparse, Option.get_some]

end Frontend
end MetaRne
