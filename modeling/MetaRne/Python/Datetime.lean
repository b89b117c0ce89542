/-
# Datetimes

A `datetime` is a wall-clock time with an optional offset from UTC.  The
services keep UTC datetimes only: `_require_utc` turns a `Datetime` away or
gives its `Timestamp`, the microseconds since the first of January of year 1,
and everything stored is a `Timestamp`.

Aware datetimes compare by the instant they denote, a naive one equals no aware
one and cannot be ordered against it.
-/

import MetaRne.Errors
import Mathlib.Data.Int.Basic

namespace MetaRne

/-- A UTC instant, in microseconds since the first instant of year 1. -/
abbrev Timestamp := ℕ

namespace Python

/-- `datetime.max`, in microseconds: the last instant of year 9999. -/
def maxTimestamp : ℕ := 315537897599999999

/-- A Python `datetime`: the clock reading and the offset from UTC, in microseconds. -/
structure Datetime where
  wall : ℕ
  utcoffset : Option ℤ
  deriving DecidableEq, Repr

namespace Datetime

/-- The UTC datetime of a timestamp. -/
def utc (t : Timestamp) : Datetime := ⟨t, some 0⟩

theorem utc_injective : Function.Injective utc := fun _ _ h => (Datetime.mk.inj h).1

theorem utc_inj {t u : Timestamp} : utc t = utc u ↔ t = u := utc_injective.eq_iff

/-- The instant an aware datetime denotes. -/
def instant? (d : Datetime) : Option ℤ := d.utcoffset.map fun offset => (d.wall : ℤ) - offset

/-- `a == b`. -/
def eq (a b : Datetime) : Bool :=
  match a.instant?, b.instant? with
  | some i, some j => i == j
  | none, none => a.wall == b.wall
  | _, _ => false

/-- `a < b`. -/
def lt (a b : Datetime) : Except Error Bool :=
  match a.instant?, b.instant? with
  | some i, some j => .ok (decide (i < j))
  | none, none => .ok (decide (a.wall < b.wall))
  | _, _ => .error (.typeError "can't compare offset-naive and offset-aware datetimes")

@[simp] theorem instant?_utc (t : Timestamp) : (utc t).instant? = some (t : ℤ) := by
  simp only [utc, instant?, Option.map_some, Int.sub_zero]

/-- A datetime equals a UTC one when it is aware and denotes that instant. -/
theorem eq_utc_iff {d : Datetime} {t : Timestamp} :
    d.eq (utc t) = true ↔ d.instant? = some (t : ℤ) := by
  rw [eq, instant?_utc]
  cases d.instant? with
  | none => simp only [Bool.false_eq_true, reduceCtorEq]
  | some i => simp only [beq_iff_eq, Option.some.injEq]

theorem lt_utc {d : Datetime} {i : ℤ} (h : d.instant? = some i) (t : Timestamp) :
    d.lt (utc t) = .ok (decide (i < (t : ℤ))) := by
  rw [lt, instant?_utc, h]

end Datetime

end Python

open Python

/-- `_require_utc`: the timestamp of a UTC datetime. -/
def requireUtc (value : Datetime) (fieldName : String) : Except Error Timestamp :=
  match value.utcoffset with
  | none => .error (.valueError "%s must be timezone-aware, got a naive datetime" [fieldName])
  | some offset =>
    if offset = 0 then .ok value.wall
    else .error (.valueError "%s must be UTC, got offset %s" [fieldName, .timedelta offset])

/-- `_require_utc` accepts the UTC datetimes and nothing else. -/
theorem requireUtc_eq_ok {value : Datetime} {fieldName : String} {t : Timestamp} :
    requireUtc value fieldName = .ok t ↔ value = .utc t := by
  obtain ⟨wall, offset⟩ := value
  cases offset with
  | none => simp only [requireUtc, Datetime.utc, Datetime.mk.injEq, reduceCtorEq, and_false]
  | some offset =>
      by_cases h : offset = 0
      · simp only [requireUtc, h, if_true, Datetime.utc, Datetime.mk.injEq, Except.ok.injEq,
          and_true]
      · simp only [requireUtc, h, if_false, Datetime.utc, Datetime.mk.injEq, Option.some.injEq,
          reduceCtorEq, and_false]

@[simp] theorem requireUtc_utc (t : Timestamp) (fieldName : String) :
    requireUtc (.utc t) fieldName = .ok t :=
  requireUtc_eq_ok.2 rfl

/-- A UTC datetime that denotes an instant is the datetime of that instant. -/
theorem requireUtc_eq_ok_of_instant {value : Datetime} {fieldName : String} {t u : Timestamp}
    (h : requireUtc value fieldName = .ok t) (hu : value.instant? = some (u : ℤ)) : t = u := by
  rw [requireUtc_eq_ok.1 h, Datetime.instant?_utc, Option.some.injEq] at hu
  exact_mod_cast hu

end MetaRne
