/-
# Floats

A Python `float` is a NaN, an infinity or a finite number.  The services only
compare floats and pass them on, so a finite one is any rational: whatever
holds of all of them holds of the doubles.
-/

import Mathlib.Data.Rat.Defs
import Mathlib.Algebra.Order.Ring.Unbundled.Rat

namespace MetaRne
namespace Python

/-- A Python `float`. -/
inductive PyFloat
  | nan
  | posInf
  | negInf
  | finite (q : ℚ)
  deriving DecidableEq, Repr

namespace PyFloat

/-- `a <= b`: false as soon as one side is a NaN. -/
def le : PyFloat → PyFloat → Bool
  | nan, _ | _, nan => false
  | negInf, _ | _, posInf => true
  | posInf, _ | _, negInf => false
  | finite p, finite q => decide (p ≤ q)

/-- `a < b`. -/
def lt : PyFloat → PyFloat → Bool
  | nan, _ | _, nan => false
  | negInf, negInf | posInf, posInf => false
  | negInf, _ | _, posInf => true
  | posInf, _ | _, negInf => false
  | finite p, finite q => decide (p < q)

/-- `math.isfinite`. -/
def isFinite : PyFloat → Bool
  | finite _ => true
  | _ => false

/-- A number between two finite ones is finite. -/
theorem isFinite_of_le {p q : ℚ} {x : PyFloat} (hp : le (finite p) x = true)
    (hq : le x (finite q) = true) : isFinite x = true := by
  cases x with
  | nan => cases hp
  | posInf => cases hq
  | negInf => cases hp
  | finite r => rfl

end PyFloat
end Python
end MetaRne
