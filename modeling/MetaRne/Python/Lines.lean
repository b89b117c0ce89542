/-
# Lines and white space

The methods of `str` that a text is taken apart with: `splitlines`, `strip` and
`lstrip`, over lists of characters.
-/

import MetaRne.Python.Text

namespace MetaRne
namespace Python

/-- The characters that end a line. -/
def isLineBoundary (c : Char) : Bool :=
  let n := c.toNat
  (0x0a ≤ n && n ≤ 0x0d) || (0x1c ≤ n && n ≤ 0x1e) || n == 0x85 || n == 0x2028 || n == 0x2029

/-- A character put before the first of some lines. -/
def consLine (c : Char) : List (List Char) → List (List Char)
  | [] => [[c]]
  | line :: lines => (c :: line) :: lines

/-- `text.splitlines()`: `\r\n` is one boundary, and a boundary at the end starts no line. -/
def splitlines : List Char → List (List Char)
  | [] => []
  | '\r' :: '\n' :: rest => [] :: splitlines rest
  | c :: rest => if isLineBoundary c then [] :: splitlines rest else consLine c (splitlines rest)

/-- `text.lstrip()`. -/
def lstrip (text : List Char) : List Char := text.dropWhile isSpace

/-- `text.strip()`. -/
def strip (text : List Char) : List Char := (lstrip (lstrip text).reverse).reverse

/-- The characters of a text that is put together are those of its parts. -/
theorem toList_append_eq {a b : String} {as bs : List Char} (ha : a.toList = as)
    (hb : b.toList = bs) : (a ++ b).toList = as ++ bs := by
  rw [String.toList_append, ha, hb]

/-- A text without line boundaries. -/
theorem isLineBoundary_eq_false_of_all {line : List Char}
    (h : (line.all fun c => !isLineBoundary c) = true) : ∀ c ∈ line, isLineBoundary c = false := by
  intro c hc
  have hnot := List.all_eq_true.1 h c hc
  rwa [Bool.not_eq_true'] at hnot

/-- A line without boundaries before a line feed is the first line. -/
theorem splitlines_append {line : List Char} (h : ∀ c ∈ line, isLineBoundary c = false)
    (rest : List Char) : splitlines (line ++ '\n' :: rest) = line :: splitlines rest := by
  induction line with
  | nil => rfl
  | cons c line ih =>
      obtain ⟨hc, hline⟩ := List.forall_mem_cons.1 h
      have hreturn : c ≠ '\r' := by
        rintro rfl
        exact absurd hc (by decide)
      rw [List.cons_append, splitlines]
      · rw [hc, if_neg Bool.false_ne_true, ih hline]
        rfl
      · exact fun _ h _ => hreturn h

/-- White space before a text, and none at its ends, is all that is stripped. -/
theorem strip_cons_space {first last : Char} {middle : List Char} (hfirst : isSpace first = false)
    (hlast : isSpace last = false) :
    strip (' ' :: first :: (middle ++ [last])) = first :: (middle ++ [last]) := by
  have hleft : lstrip (' ' :: first :: (middle ++ [last])) = first :: (middle ++ [last]) := by
    unfold lstrip
    rw [List.dropWhile_cons_of_pos (by decide), List.dropWhile_cons_of_neg (by simp [hfirst])]
  have hright : lstrip (first :: (middle ++ [last])).reverse =
      (first :: (middle ++ [last])).reverse := by
    rw [List.reverse_cons, List.reverse_append]
    exact List.dropWhile_cons_of_neg (by simp [hlast])
  unfold strip
  rw [hleft, hright, List.reverse_reverse]

example : splitlines "a\r\n\n b\n".toList = ["a".toList, [], " b".toList] := by decide

example : strip " \t a b ".toList = "a b".toList := by decide

end Python
end MetaRne
