/-
# Field checks

The three checks that the domain's `__post_init__` methods make of a field.
Each domain module of the source has its own copy of `_require_non_empty` and
`_require_utc`; the copies are the same.  A check returns the fact it checked,
so that the value built after it can carry the fact along.
-/

import MetaRne.Library.Effect
import MetaRne.Python.Datetime
import MetaRne.Python.Text

namespace MetaRne

open Python

/-- `_require_non_empty`. -/
def requireNonEmpty (value fieldName : String) : Except Error (PLift (isBlank value = false)) :=
  if h : isBlank value = true then .error (.valueError "%s must not be empty" [fieldName])
  else .ok ⟨eq_false_of_ne_true h⟩

/-- `0 <= value <= 100`. -/
def isPercentage (value : PyFloat) : Bool :=
  PyFloat.le (.finite 0) value && PyFloat.le value (.finite 100)

/-- `_require_percentage`. -/
def requirePercentage (value : PyFloat) (fieldName : String) :
    Except Error (PLift (isPercentage value = true)) :=
  if h : isPercentage value = true then .ok ⟨h⟩
  else .error (.valueError "%s must be within [0, 100], got %s" [fieldName, .float value])

/-! ### A sequence of checks that passes

What each check leaves behind when it and the rest of the constructor pass. -/

theorem requireNonEmpty_bind_eq_ok {value fieldName : String} {β : Type}
    {f : PLift (isBlank value = false) → Except Error β} {b : β} :
    (requireNonEmpty value fieldName >>= f) = .ok b ↔
      ∃ h : isBlank value = false, f ⟨h⟩ = .ok b := by
  by_cases h : isBlank value = true
  · rw [requireNonEmpty, dif_pos h]
    refine iff_of_false (fun hf => by cases hf) fun hf => ?_
    obtain ⟨h', -⟩ := hf
    exact absurd h (Bool.eq_false_iff.1 h')
  · rw [requireNonEmpty, dif_neg h]
    constructor
    · exact fun hf => ⟨_, hf⟩
    · rintro ⟨_, hf⟩
      exact hf

theorem requireUtc_bind_eq_ok {value : Datetime} {fieldName : String} {β : Type}
    {f : Timestamp → Except Error β} {b : β} :
    (requireUtc value fieldName >>= f) = .ok b ↔ ∃ t, value = .utc t ∧ f t = .ok b := by
  rw [Library.Effect.except_bind_eq_ok]
  simp only [requireUtc_eq_ok]

theorem requireNonEmpty_eq_ok {value fieldName : String} {h : PLift (isBlank value = false)} :
    requireNonEmpty value fieldName = .ok h := by
  rw [requireNonEmpty, dif_neg (Bool.eq_false_iff.1 h.down)]

theorem requirePercentage_eq_ok {value : PyFloat} {fieldName : String}
    {h : PLift (isPercentage value = true)} : requirePercentage value fieldName = .ok h := by
  rw [requirePercentage, dif_pos h.down]

theorem isFinite_of_isPercentage {value : PyFloat} (h : isPercentage value = true) :
    value.isFinite = true := by
  rw [isPercentage, Bool.and_eq_true] at h
  exact PyFloat.isFinite_of_le h.1 h.2

end MetaRne
