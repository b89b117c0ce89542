/-
# The same parts in another order

Two lists hold the same parts in another order, where a part may itself be reordered:
each is related to its counterpart by `R` (`Reorders`).  What does not depend on the
order is the same on both: what is found by a name that no two parts share
(`Reorders.find?`), and what is counted or summed over the parts
(`Reorders.map_perm`, `Reorders.filter`).
-/

import Mathlib.Data.List.Forall2
import Mathlib.Data.List.Nodup

namespace Library
namespace Reordering

variable {α β : Type} {R : α → α → Prop} {xs ys : List α}

/-- The same parts up to `R`, in another order. -/
def Reorders (R : α → α → Prop) (xs ys : List α) : Prop :=
  ∃ zs, xs.Perm zs ∧ List.Forall₂ R zs ys

theorem Reorders.of_forall₂ (h : List.Forall₂ R xs ys) : Reorders R xs ys :=
  ⟨xs, List.Perm.refl xs, h⟩

/-- What two reordered parts have in common, the lists have in common, up to order. -/
theorem Reorders.map_perm {f : α → β} (hf : ∀ x y, R x y → f x = f y) (h : Reorders R xs ys) :
    (xs.map f).Perm (ys.map f) := by
  obtain ⟨zs, hperm, hall⟩ := h
  refine (hperm.map f).trans (List.Perm.of_eq ?_)
  induction hall generalizing xs with
  | nil => rfl
  | cons hxy _ ih => rw [List.map_cons, List.map_cons, hf _ _ hxy, ih (List.Perm.refl _)]

/-- Selecting by what parts have in common selects the same parts. -/
theorem Reorders.filter {p : α → Bool} (hp : ∀ x y, R x y → p x = p y) (h : Reorders R xs ys) :
    Reorders R (xs.filter p) (ys.filter p) := by
  obtain ⟨zs, hperm, hall⟩ := h
  refine ⟨zs.filter p, hperm.filter p, ?_⟩
  induction hall generalizing xs with
  | nil => exact .nil
  | @cons x y _ _ hxy _ ih =>
      have hrest := ih (List.Perm.refl _)
      have hsame := hp x y hxy
      by_cases hx : p x = true
      · rw [List.filter_cons_of_pos hx, List.filter_cons_of_pos (hsame ▸ hx)]
        exact .cons hxy hrest
      · rw [List.filter_cons_of_neg hx, List.filter_cons_of_neg (hsame ▸ hx)]
        exact hrest

theorem any_eq_of_perm {p : α → Bool} (h : xs.Perm ys) : xs.any p = ys.any p := by
  rw [Bool.eq_iff_iff, List.any_eq_true, List.any_eq_true]
  simp only [h.mem_iff]

/-- A test of what parts have in common holds of some part of both or of neither. -/
theorem Reorders.any {p : α → Bool} (hp : ∀ x y, R x y → p x = p y) (h : Reorders R xs ys) :
    xs.any p = ys.any p := by
  have hmap : ∀ zs : List α, zs.any p = (zs.map p).any fun holds => holds := by
    intro zs
    rw [List.any_map]
    rfl
  rw [hmap, hmap, any_eq_of_perm (h.map_perm hp)]

theorem Reorders.countP {p : α → Bool} (hp : ∀ x y, R x y → p x = p y) (h : Reorders R xs ys) :
    xs.countP p = ys.countP p := by
  have hcount := (h.map_perm hp).countP_eq (· == true)
  have hsame : ∀ zs : List α, (zs.map p).countP (· == true) = zs.countP p := by
    intro zs
    rw [List.countP_map]
    refine congrArg (List.countP · zs) (funext fun z => ?_)
    rw [Function.comp_apply]
    cases p z <;> rfl
  rw [← hsame, ← hsame, hcount]

/-- What is found by a name does not depend on the order, if the name occurs once. -/
theorem find?_eq_of_perm {name : α → String} {zs : List α} (hnodup : (xs.map name).Nodup)
    (h : xs.Perm zs) (wanted : String) :
    (xs.find? fun x => name x == wanted) = zs.find? fun x => name x == wanted := by
  cases hx : xs.find? fun x => name x == wanted with
  | none =>
      symm
      rw [List.find?_eq_none] at hx ⊢
      exact fun z hz => hx z (h.mem_iff.2 hz)
  | some x =>
      have hxname := List.find?_some hx
      have hxmem := List.mem_of_find?_eq_some hx
      cases hz : zs.find? fun x => name x == wanted with
      | none => exact absurd hxname (List.find?_eq_none.1 hz x (h.mem_iff.1 hxmem))
      | some z =>
          have hzname := List.find?_some hz
          have hzmem := h.mem_iff.2 (List.mem_of_find?_eq_some hz)
          exact congrArg some (List.inj_on_of_nodup_map hnodup hxmem hzmem
            ((beq_iff_eq.1 hxname).trans (beq_iff_eq.1 hzname).symm))

/-- **What is found by a name** in one list is a reordering of what is found in the other. -/
theorem Reorders.find? {name : α → String} (hname : ∀ x y, R x y → name x = name y)
    (hnodup : (xs.map name).Nodup) (h : Reorders R xs ys) (wanted : String) :
    Option.Rel R (xs.find? fun x => name x == wanted) (ys.find? fun y => name y == wanted) := by
  obtain ⟨zs, hperm, hall⟩ := h
  rw [find?_eq_of_perm hnodup hperm]
  clear hperm
  induction hall with
  | nil => exact .none
  | @cons x y _ _ hxy _ ih =>
      have hsame := hname x y hxy
      rw [List.find?_cons, List.find?_cons, hsame]
      cases name y == wanted with
      | true => exact .some hxy
      | false => exact ih

/-! ### Options -/

/-- Looking further into what is related finds what is related. -/
theorem rel_bind {S : β → β → Prop} {f g : α → Option β} {x? y? : Option α}
    (h : Option.Rel R x? y?) (hfg : ∀ x y, R x y → Option.Rel S (f x) (g y)) :
    Option.Rel S (x?.bind f) (y?.bind g) := by
  cases h with
  | some hxy => exact hfg _ _ hxy
  | none => exact .none

/-- What related parts have in common, related options have in common. -/
theorem map_eq_of_rel {f : α → β} (hf : ∀ x y, R x y → f x = f y) {x? y? : Option α}
    (h : Option.Rel R x? y?) : x?.map f = y?.map f := by
  cases h with
  | some hxy => exact congrArg some (hf _ _ hxy)
  | none => rfl

theorem bind_eq_of_rel {f : α → Option β} (hf : ∀ x y, R x y → f x = f y) {x? y? : Option α}
    (h : Option.Rel R x? y?) : x?.bind f = y?.bind f := by
  cases h with
  | some hxy => exact hf _ _ hxy
  | none => rfl

end Reordering
end Library
