/-
# JSON values

What `json.loads` makes of a JSON text: `None`, booleans, numbers, strings, lists
and dictionaries.  An integer is exact.  A dictionary has each of its keys once;
where a list of fields has one twice, the first counts.

`HasKey` and `ArrayOf` say what a JSON value looks like from outside.
-/

import Mathlib.Algebra.Ring.Nat
import MetaRne.Python.Float

namespace MetaRne
namespace Python

inductive Json
  | null
  | bool (b : Bool)
  | int (n : ℤ)
  | float (x : PyFloat)
  | str (s : String)
  | arr (items : List Json)
  | obj (fields : List (String × Json))
  deriving Repr

namespace Json

/-- `type(value).__name__`. -/
def typeName : Json → String
  | null => "NoneType"
  | bool _ => "bool"
  | int _ => "int"
  | float _ => "float"
  | str _ => "str"
  | arr _ => "list"
  | obj _ => "dict"

/-- `value.value` of an optional enum member, `None` where there is none. -/
def ofOption {α : Type} (encode : α → Json) : Option α → Json
  | none => null
  | some a => encode a

end Json

/-! ### What a value looks like -/

/-- An object with a value under a key. -/
def HasKey (j : Json) (key : String) (value : Json) : Prop :=
  ∃ fields, j = .obj fields ∧ fields.lookup key = some value

/-- An object whose value under a key is of a kind. -/
def HasField (key : String) (kind : Json → Prop) (j : Json) : Prop :=
  ∃ value, HasKey j key value ∧ kind value

/-- An array whose elements are of a kind. -/
def ArrayOf (kind : Json → Prop) (j : Json) : Prop :=
  ∃ items, j = .arr items ∧ ∀ item ∈ items, kind item

def IsString (j : Json) : Prop := ∃ s, j = .str s

def IsInt (j : Json) : Prop := ∃ n, j = .int n

def OrNull (kind : Json → Prop) (j : Json) : Prop := j = .null ∨ kind j

/-- A string that is one of some words. -/
def IsWord (words : List String) (j : Json) : Prop := ∃ s ∈ words, j = .str s

/-- A key has at most one value. -/
theorem HasKey.unique {j value value' : Json} {key : String} (h : HasKey j key value)
    (h' : HasKey j key value') : value = value' := by
  obtain ⟨fields, rfl, hlookup⟩ := h
  obtain ⟨fields', hfields, hlookup'⟩ := h'
  cases hfields
  exact Option.some.inj (hlookup.symm.trans hlookup')

theorem HasField.of_hasKey {j value : Json} {key : String} {kind : Json → Prop}
    (h : HasField key kind j) (hkey : HasKey j key value) : kind value := by
  obtain ⟨value', hkey', hkind⟩ := h
  rwa [hkey.unique hkey']

/-! ### Numbers -/

/-- The integers from here on are no doubles: `2 ** 1024 - 2 ** 970`. -/
@[irreducible] def floatOverflow : ℕ := 2 ^ 1024 - 2 ^ 970

/-- A natural number to the nearest double, a tie to the even one. -/
def nearestDouble (n : ℕ) : ℕ :=
  let shift := n.log2 - 52
  let unit := 2 ^ shift
  let below := n / unit
  let twice := 2 * (n % unit)
  if twice < unit || (twice = unit && below % 2 = 0) then below * unit else (below + 1) * unit

/-- `float(n)`, `none` where it raises `OverflowError`. -/
def floatOfInt (n : ℤ) : Option PyFloat :=
  if floatOverflow ≤ n.natAbs then none
  else some (.finite (n.sign * nearestDouble n.natAbs))

end Python
end MetaRne
