/-
# `int(text)`

How Python reads a decimal integer: a sign, then decimal digits of any script
with single underscores between them, and at most 4300 digits.  The texts it is
applied to here are tokens of a line and have no white space in them.
-/

import MetaRne.Errors
import MetaRne.Python.Text

namespace MetaRne
namespace Python

/-- The zeros of the decimal digits (category `Nd`, Unicode 15.0); nine more digits follow each. -/
def decimalZeros : List ℕ :=
  [0x30, 0x660, 0x6f0, 0x7c0, 0x966, 0x9e6, 0xa66, 0xae6, 0xb66, 0xbe6, 0xc66, 0xce6, 0xd66, 0xde6,
    0xe50, 0xed0, 0xf20, 0x1040, 0x1090, 0x17e0, 0x1810, 0x1946, 0x19d0, 0x1a80, 0x1a90, 0x1b50,
    0x1bb0, 0x1c40, 0x1c50, 0xa620, 0xa8d0, 0xa900, 0xa9d0, 0xa9f0, 0xaa50, 0xabf0, 0xff10,
    0x104a0, 0x10d30, 0x11066, 0x110f0, 0x11136, 0x111d0, 0x112f0, 0x11450, 0x114d0, 0x11650,
    0x116c0, 0x11730, 0x118e0, 0x11950, 0x11c50, 0x11d50, 0x11da0, 0x11f50, 0x16a60, 0x16ac0,
    0x16b50, 0x1d7ce, 0x1d7d8, 0x1d7e2, 0x1d7ec, 0x1d7f6, 0x1e140, 0x1e2f0, 0x1e4f0, 0x1e950,
    0x1fbf0]

/-- The value of a decimal digit of any script. -/
def decimalValue? (c : Char) : Option ℕ :=
  (decimalZeros.find? fun first => first ≤ c.toNat && c.toNat < first + 10).map fun first =>
    c.toNat - first

/-- `c.isdecimal()`, the class `\d`. -/
def isDecimal (c : Char) : Bool := (decimalValue? c).isSome

/-- The digits of a text that starts and ends with one, single underscores left out. -/
def digitValues? : List Char → Option (List ℕ)
  | [] => none
  | [c] => (decimalValue? c).map fun n => [n]
  | c :: '_' :: rest => do
    let n ← decimalValue? c
    let ns ← digitValues? rest
    return n :: ns
  | c :: rest => do
    let n ← decimalValue? c
    let ns ← digitValues? rest
    return n :: ns

/-- The number that decimal digits denote. -/
def decimalNumber (digits : List ℕ) : ℕ := digits.foldl (fun n digit => n * 10 + digit) 0

/-- The sign of a text, and what follows it. -/
def splitSign : List Char → ℤ × List Char
  | '+' :: rest => (1, rest)
  | '-' :: rest => (-1, rest)
  | text => (1, text)

/-- `int(text)`. -/
def pyInt (text : List Char) : Except Error ℤ :=
  match digitValues? (splitSign text).2 with
  | none => .error (.valueError "invalid literal for int() with base 10: %r" [String.ofList text])
  | some digits =>
    if maxStrDigits < digits.length then
      .error (.valueError ("Exceeds the limit (%s digits) for integer string conversion: value " ++
        "has %s digits; use sys.set_int_max_str_digits() to increase the limit")
        [.int maxStrDigits, .int digits.length])
    else .ok ((splitSign text).1 * decimalNumber digits)

example : (pyInt "-6_5001".toList).toOption = some (-65001) ∧ (pyInt "٣".toList).toOption = some 3 ∧
    (pyInt "1__0".toList).toOption = none ∧ (pyInt "_1".toList).toOption = none := by
  decide

/-! ### Digits alone -/

/-- Of a text of digits, each digit is read. -/
theorem digitValues?_of_isDecimal {text : List Char} (hne : text ≠ [])
    (hall : ∀ c ∈ text, isDecimal c = true) :
    digitValues? text = some (text.map fun c => (decimalValue? c).getD 0) := by
  induction text with
  | nil => exact absurd rfl hne
  | cons c rest ih =>
      obtain ⟨hc, hrest⟩ := List.forall_mem_cons.1 hall
      obtain ⟨n, hn⟩ := Option.isSome_iff_exists.1 hc
      cases rest with
      | nil => rw [digitValues?, List.map_cons, hn]; rfl
      | cons c' rest =>
          have hunderscore : c' ≠ '_' := by
            rintro rfl
            exact absurd (hrest '_' (List.mem_cons_self ..)) (by decide)
          have hdigits := ih (List.cons_ne_nil _ _) hrest
          have hmap : (c :: c' :: rest).map (fun c => (decimalValue? c).getD 0) =
              n :: (c' :: rest).map fun c => (decimalValue? c).getD 0 := by
            rw [List.map_cons, hn, Option.getD_some]
          rw [digitValues?, hn, hdigits, hmap]
          · rfl
          · exact List.cons_ne_nil _ _
          · exact fun _ h => hunderscore (List.cons.inj h).1

/-- **A text of digits is a number unless it has too many of them.** -/
theorem pyInt_of_isDecimal {text : List Char} (hne : text ≠ [])
    (hall : ∀ c ∈ text, isDecimal c = true) :
    (∃ n, pyInt text = .ok n) ↔ text.length ≤ maxStrDigits := by
  have hdigits := digitValues?_of_isDecimal hne hall
  have hsign : splitSign text = (1, text) := by
    unfold splitSign
    split
    · exact absurd (hall '+' (List.mem_cons_self ..)) (by decide)
    · exact absurd (hall '-' (List.mem_cons_self ..)) (by decide)
    · rfl
  unfold pyInt
  rw [hsign]
  simp only [hdigits, List.length_map]
  by_cases hlong : maxStrDigits < text.length
  · rw [if_pos hlong]
    exact iff_of_false (fun h => by cases h.choose_spec) (not_le.2 hlong)
  · rw [if_neg hlong]
    exact iff_of_true ⟨_, rfl⟩ (not_lt.1 hlong)

/-! ### `str(n)` -/

/-- The digits of a number tell the number. -/
theorem nat_repr_inj {m n : ℕ} : m.repr = n.repr ↔ m = n := by
  refine ⟨fun h => ?_, congrArg _⟩
  have hdigits := congrArg String.toList h
  rw [Nat.toList_repr, Nat.toList_repr] at hdigits
  rw [← Nat.ofDigitChars_ten_toDigits (n := m), hdigits, Nat.ofDigitChars_ten_toDigits]

/-- The digits of a number have no sign. -/
theorem repr_ne_minus (n : ℕ) (text : String) : n.repr ≠ "-" ++ text := by
  intro h
  have hmem : '-' ∈ n.repr.toList := by
    rw [h, String.toList_append]
    exact List.mem_append_left _ (by decide)
  rw [Nat.toList_repr] at hmem
  exact absurd (Nat.isDigit_of_mem_toDigits (by decide) (by decide) hmem) (by decide)

/-- **`str` of an integer tells the integer.** -/
theorem int_toString_inj {m n : ℤ} : toString m = toString n ↔ m = n := by
  refine ⟨fun h => ?_, congrArg _⟩
  rw [Int.toString_eq_repr, Int.toString_eq_repr, Int.repr_eq_if, Int.repr_eq_if] at h
  split_ifs at h with hm hn hn
  · have := nat_repr_inj.1 h
    omega
  · exact absurd h (repr_ne_minus _ _)
  · exact absurd h.symm (repr_ne_minus _ _)
  · have hchars := congrArg String.toList h
    rw [String.toList_append, String.toList_append] at hchars
    have := nat_repr_inj.1 (String.toList_inj.1 (List.append_cancel_left hchars))
    omega

end Python
end MetaRne
