/-
# Observing less

A value that may be unknown is ordered below itself by the unknown one (`Weakens`), and
a record is weakened by losing parts and by weakening those that are left (`Fewer`).
Both are preorders.

Where parts are found by a name that weakening keeps, and no name occurs twice, what is
found in the weaker record weakens what is found in the other (`Fewer.find?`).
-/

import Mathlib.Data.List.Nodup

namespace Library
namespace Weakening

variable {α β σ : Type} {R : α → α → Prop} {unknown : σ}

/-- The same, or unknown. -/
def Weakens (unknown a b : σ) : Prop := a = unknown ∨ a = b

/-- Every part weakens one of the other parts. -/
def Fewer (R : α → α → Prop) (xs ys : List α) : Prop := ∀ x ∈ xs, ∃ y ∈ ys, R x y

/-- What is there weakens what is there in the other. -/
def FewerOption (R : α → α → Prop) (x? y? : Option α) : Prop := ∀ x ∈ x?, ∃ y ∈ y?, R x y

/-! ### Preorders -/

theorem Weakens.refl (unknown a : σ) : Weakens unknown a a := Or.inr rfl

theorem Weakens.trans {a b c : σ} (h : Weakens unknown a b) (h' : Weakens unknown b c) :
    Weakens unknown a c := by
  rcases h with h | rfl
  · exact Or.inl h
  · exact h'

/-- A known value is weakened by itself alone. -/
theorem Weakens.eq {a b : σ} (h : Weakens unknown a b) (hknown : a ≠ unknown) : a = b :=
  h.resolve_left hknown

theorem Weakens.map {τ : Type} (f : σ → τ) {a b : σ} (h : Weakens unknown a b) :
    Weakens (f unknown) (f a) (f b) := by
  rcases h with rfl | rfl
  · exact Or.inl rfl
  · exact Or.inr rfl

theorem Fewer.refl (hR : ∀ x, R x x) (xs : List α) : Fewer R xs xs := fun x hx => ⟨x, hx, hR x⟩

theorem Fewer.trans {xs ys zs : List α} (h : Fewer R xs ys) (h' : Fewer R ys zs)
    (hR : ∀ x y z, R x y → R y z → R x z) : Fewer R xs zs := by
  intro x hx
  obtain ⟨y, hy, hxy⟩ := h x hx
  obtain ⟨z, hz, hyz⟩ := h' y hy
  exact ⟨z, hz, hR x y z hxy hyz⟩

theorem FewerOption.refl (hR : ∀ x, R x x) (x? : Option α) : FewerOption R x? x? :=
  fun x hx => ⟨x, hx, hR x⟩

theorem FewerOption.trans {x? y? z? : Option α} (h : FewerOption R x? y?)
    (h' : FewerOption R y? z?) (hR : ∀ x y z, R x y → R y z → R x z) : FewerOption R x? z? := by
  intro x hx
  obtain ⟨y, hy, hxy⟩ := h x hx
  obtain ⟨z, hz, hyz⟩ := h' y hy
  exact ⟨z, hz, hR x y z hxy hyz⟩

/-! ### What is found -/

/-- **What is found by name in less is less.** -/
theorem Fewer.find? {name : α → String} (hname : ∀ x y, R x y → name x = name y) {xs ys : List α}
    (hnodup : (ys.map name).Nodup) (h : Fewer R xs ys) (wanted : String) :
    FewerOption R (xs.find? fun x => name x == wanted) (ys.find? fun y => name y == wanted) := by
  intro x hx
  obtain ⟨y, hy, hxy⟩ := h x (List.mem_of_find?_eq_some hx)
  have hsome := List.find?_some hx
  have hwanted : name y = wanted := (hname x y hxy).symm.trans (beq_iff_eq.1 hsome)
  cases hfound : ys.find? fun y => name y == wanted with
  | none => exact absurd (beq_iff_eq.2 hwanted) (List.find?_eq_none.1 hfound y hy)
  | some found =>
      have hfoundName := List.find?_some hfound
      have hsame : found = y := List.inj_on_of_nodup_map hnodup (List.mem_of_find?_eq_some hfound)
        hy ((beq_iff_eq.1 hfoundName).trans hwanted.symm)
      exact ⟨y, congrArg some hsame, hxy⟩

/-- Looking further into less finds less. -/
theorem FewerOption.bind {S : β → β → Prop} {f g : α → Option β} {x? y? : Option α}
    (h : FewerOption R x? y?) (hfg : ∀ x y, R x y → FewerOption S (f x) (g y)) :
    FewerOption S (x?.bind f) (y?.bind g) := by
  intro b hb
  obtain ⟨x, hx, hfx⟩ := Option.bind_eq_some_iff.1 hb
  obtain ⟨y, hy, hxy⟩ := h x hx
  obtain ⟨c, hc, hbc⟩ := hfg x y hxy b hfx
  exact ⟨c, Option.bind_eq_some_iff.2 ⟨y, hy, hc⟩, hbc⟩

/-- What is missing is unknown, so less is weaker. -/
theorem FewerOption.weakens {f : α → σ} (hf : ∀ x y, R x y → Weakens unknown (f x) (f y))
    {x? y? : Option α} (h : FewerOption R x? y?) :
    Weakens unknown ((x?.map f).getD unknown) ((y?.map f).getD unknown) := by
  cases hx : x? with
  | none => exact Or.inl rfl
  | some x =>
      obtain ⟨y, hy, hxy⟩ := h x hx
      rw [Option.mem_def.1 hy]
      exact hf x y hxy

end Weakening
end Library
