/-
# Decimal digits

Numbers written in a fixed width, with leading zeros, and read back
(`readDigits_padded`).
-/

import Mathlib.Algebra.Ring.Nat
import Mathlib.Data.Nat.Notation

namespace Library
namespace Decimal

/-- The value of a digit. -/
def digit? (c : Char) : Option ℕ :=
  if 48 ≤ c.toNat && c.toNat ≤ 57 then some (c.toNat - 48) else none

def isDigit (c : Char) : Bool := (digit? c).isSome

/-- The digit of a value below 10. -/
def digitChar (n : ℕ) : Char := "0123456789".toList.getD n '0'

/-- The last `width` digits of a number. -/
def padded : ℕ → ℕ → List Char
  | 0, _ => []
  | width + 1, n => padded width (n / 10) ++ [digitChar (n % 10)]

/-- Read digits after those already read. -/
def readFrom (acc : ℕ) : List Char → Option ℕ
  | [] => some acc
  | c :: cs => (digit? c).bind fun d => readFrom (10 * acc + d) cs

/-- The number that a list of digits writes. -/
def read? (cs : List Char) : Option ℕ := readFrom 0 cs

/-- Read a number of exactly `width` digits, and what comes after it. -/
def readDigits (width : ℕ) (cs : List Char) : Option (ℕ × List Char) :=
  if width ≤ cs.length then (read? (cs.take width)).map fun n => (n, cs.drop width) else none

theorem digit?_digitChar : ∀ n < 10, digit? (digitChar n) = some n := by decide

theorem isDigit_digitChar {n : ℕ} (h : n < 10) : isDigit (digitChar n) = true := by
  rw [isDigit, digit?_digitChar n h]
  rfl

@[simp] theorem length_padded (width n : ℕ) : (padded width n).length = width := by
  induction width generalizing n with
  | zero => rfl
  | succ width ih => rw [padded, List.length_append, ih, List.length_singleton]

/-- What is written in a fixed width is digits. -/
theorem isDigit_of_mem_padded {width n : ℕ} {c : Char} (h : c ∈ padded width n) :
    isDigit c = true := by
  induction width generalizing n with
  | zero => exact absurd h List.not_mem_nil
  | succ width ih =>
      rw [padded, List.mem_append, List.mem_singleton] at h
      rcases h with h | rfl
      · exact ih h
      · exact isDigit_digitChar (Nat.mod_lt n (by decide))

/-- A number written with at least one digit starts with a digit. -/
theorem head?_padded_append {width n : ℕ} {c : Char} (cs : List Char)
    (h : (padded (width + 1) n ++ cs).head? = some c) : isDigit c = true := by
  cases hpadded : padded (width + 1) n with
  | nil =>
      have hlength := length_padded (width + 1) n
      rw [hpadded] at hlength
      cases hlength
  | cons d ds =>
      rw [hpadded, List.cons_append, List.head?_cons, Option.some.injEq] at h
      have hmem : d ∈ padded (width + 1) n := by
        rw [hpadded]
        exact List.mem_cons_self
      rw [← h]
      exact isDigit_of_mem_padded hmem

theorem readFrom_append (acc : ℕ) (cs ds : List Char) :
    readFrom acc (cs ++ ds) = (readFrom acc cs).bind fun n => readFrom n ds := by
  induction cs generalizing acc with
  | nil => rfl
  | cons c cs ih =>
      rw [List.cons_append, readFrom, readFrom]
      cases digit? c with
      | none => rfl
      | some d => exact ih _

/-- Reading what was written shifts what was read before, and adds the number. -/
theorem readFrom_padded {width n : ℕ} (h : n < 10 ^ width) (acc : ℕ) :
    readFrom acc (padded width n) = some (acc * 10 ^ width + n) := by
  induction width generalizing n with
  | zero =>
      rw [Nat.pow_zero, Nat.lt_one_iff] at h
      rw [padded, readFrom, h, Nat.pow_zero, Nat.mul_one, Nat.add_zero]
  | succ width ih =>
      have hlast : n % 10 < 10 := Nat.mod_lt n (by decide)
      have hrest : n / 10 < 10 ^ width := by
        rw [Nat.pow_succ] at h
        omega
      rw [padded, readFrom_append, ih hrest, Option.bind_some, readFrom, digit?_digitChar _ hlast,
        Option.bind_some, readFrom, Nat.pow_succ]
      have hsplit : 10 * (n / 10) + n % 10 = n := Nat.div_add_mod n 10
      have hshift : acc * (10 ^ width * 10) = 10 * (acc * 10 ^ width) := by
        rw [← Nat.mul_assoc, Nat.mul_comm]
      rw [hshift, Nat.mul_add, Nat.add_assoc, hsplit]

theorem readDigits_padded {width n : ℕ} (h : n < 10 ^ width) (cs : List Char) :
    readDigits width (padded width n ++ cs) = some (n, cs) := by
  have hle : width ≤ (padded width n ++ cs).length := by
    rw [List.length_append, length_padded]
    exact Nat.le_add_right _ _
  have hread : read? (padded width n) = some n := by
    rw [read?, readFrom_padded h, Nat.zero_mul, Nat.zero_add]
  rw [readDigits, if_pos hle, List.take_left' (length_padded _ _), List.drop_left' (length_padded _ _),
    hread]
  rfl

end Decimal
end Library
