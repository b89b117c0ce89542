/-
# Sorting by a key

A list sorted by a key is in order of the keys; strictly, where no key occurs twice.
And where equal keys are those of equal elements, the order of the input does not matter
(`insertionSort_eq_of_perm`).
-/

import Mathlib.Data.List.Nodup
import Mathlib.Data.List.Sort

namespace Library
namespace Sorting

variable {α κ : Type} [LinearOrder κ] {key : α → κ} {r : α → α → Prop} [DecidableRel r]

/-- Sorting by a key puts the keys in order. -/
theorem pairwise_insertionSort_of_key (hr : ∀ a b, r a b ↔ key a ≤ key b) (xs : List α) :
    (xs.insertionSort r).Pairwise r := by
  have : Std.Total r := ⟨fun a b => by rw [hr, hr]; exact le_total _ _⟩
  have : IsTrans α r := ⟨fun a b c => by rw [hr, hr, hr]; exact le_trans⟩
  exact List.pairwise_insertionSort r xs

/-- Sorting by distinct keys sorts strictly. -/
theorem pairwise_lt_insertionSort (hr : ∀ a b, r a b ↔ key a ≤ key b) {xs : List α}
    (hnodup : (xs.map key).Nodup) :
    (xs.insertionSort r).Pairwise fun a b => key a < key b := by
  have hle := pairwise_insertionSort_of_key hr xs
  have hne : (xs.insertionSort r).Pairwise fun a b => key a ≠ key b :=
    List.pairwise_map.1 (((List.perm_insertionSort r xs).map key).nodup_iff.2 hnodup)
  exact hle.imp₂ (fun a b hab hne => lt_of_le_of_ne ((hr a b).1 hab) hne) hne

/-- **The order of the input does not matter**, where equal keys are those of equal elements. -/
theorem insertionSort_eq_of_perm (hr : ∀ a b, r a b ↔ key a ≤ key b) {xs ys : List α}
    (hperm : xs.Perm ys) (hkey : ∀ a ∈ xs, ∀ b ∈ xs, key a = key b → a = b) :
    xs.insertionSort r = ys.insertionSort r := by
  refine List.Perm.eq_of_pairwise (fun a b ha hb hab hba => ?_)
    (pairwise_insertionSort_of_key hr xs) (pairwise_insertionSort_of_key hr ys) ?_
  · have hb' : b ∈ xs := hperm.mem_iff.2 ((List.mem_insertionSort r).1 hb)
    exact hkey a ((List.mem_insertionSort r).1 ha) b hb'
      (le_antisymm ((hr a b).1 hab) ((hr b a).1 hba))
  · exact (List.perm_insertionSort r xs).trans
      (hperm.trans (List.perm_insertionSort r ys).symm)

/-- The keys of what comes of a list are among the keys of the list, in order. -/
theorem sublist_map_filterMap {β κ : Type} {f : α → Option β} {keyOf : α → κ} {key : β → κ}
    {xs : List α} (h : ∀ x ∈ xs, ∀ y, f x = some y → key y = keyOf x) :
    ((xs.filterMap f).map key).Sublist (xs.map keyOf) := by
  induction xs with
  | nil => exact List.Sublist.refl _
  | cons x xs ih =>
      obtain ⟨hx, hrest⟩ := List.forall_mem_cons.1 h
      have hsub := ih hrest
      cases hf : f x with
      | none =>
          rw [List.filterMap_cons_none hf, List.map_cons]
          exact hsub.cons _
      | some y =>
          rw [List.filterMap_cons_some hf, List.map_cons, List.map_cons, hx y hf]
          exact hsub.cons_cons _

end Sorting
end Library
