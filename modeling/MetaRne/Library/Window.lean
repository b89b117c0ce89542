/-
# A window over a list in order of time

A list in order of time, of which the last `n` elements that satisfy a test are
kept.  The test, once true, stays true of everything later, so what is kept is a
suffix (`exists_window_append`).

A new element is placed after everything that is not later than it; that is
where a stable sort puts the last element of its input
(`insertionSort_concat`).

`window_place` is that forgetting is harmless: placing an element into the window
and placing it into the whole list leave the same window, also under a stricter
test.
-/

import Mathlib.Data.List.DropRight
import Mathlib.Data.List.Sort

namespace Library
namespace Window

variable {α τ : Type} [LinearOrder τ] {time : α → τ}

/-- In order of time. -/
def InOrder (time : α → τ) (xs : List α) : Prop := xs.Pairwise fun a b => time a ≤ time b

/-- The element, placed after everything that is not later than it. -/
def place (time : α → τ) (x : α) (xs : List α) : List α :=
  xs.filter (fun a => time a ≤ time x) ++ x :: xs.filter fun a => time x < time a

/-- The last `n` elements that satisfy the test. -/
def window (n : ℕ) (keep : α → Bool) (xs : List α) : List α := (xs.filter keep).rtake n

/-- A test that stays true. -/
def Lasting (time : α → τ) (keep : α → Bool) : Prop :=
  ∀ a b, time a ≤ time b → keep a = true → keep b = true

/-! ### Suffixes -/

theorem rtake_append_of_le {xs ys : List α} {n : ℕ} (h : n ≤ ys.length) :
    (xs ++ ys).rtake n = ys.rtake n := by
  have hsplit : (xs ++ ys).length - n = xs.length + (ys.length - n) := by
    rw [List.length_append]
    omega
  rw [List.rtake, hsplit, List.drop_length_add_append]
  rfl

theorem rtake_of_length_le {xs : List α} {n : ℕ} (h : xs.length ≤ n) : xs.rtake n = xs := by
  rw [List.rtake, Nat.sub_eq_zero_of_le h, List.drop_zero]

/-- In front of a window, only what satisfies the test matters, and nothing does
if the rest fills the window. -/
theorem window_append {n : ℕ} {keep : α → Bool} {xs ys : List α}
    (h : (∀ x ∈ xs, keep x = false) ∨ n ≤ (ys.filter keep).length) :
    window n keep (xs ++ ys) = window n keep ys := by
  unfold window
  rw [List.filter_append]
  rcases h with h | h
  · have hnone : xs.filter keep = [] := List.filter_eq_nil_iff.2 fun x hx => by
      rw [h x hx]
      exact Bool.false_ne_true
    rw [hnone, List.nil_append]
  · exact rtake_append_of_le h

/-- What satisfies a lasting test is a suffix. -/
theorem exists_filter_append {keep : α → Bool} (hkeep : Lasting time keep) {xs : List α}
    (hxs : InOrder time xs) :
    ∃ dropped, xs = dropped ++ xs.filter keep ∧ ∀ a ∈ dropped, keep a = false := by
  induction xs with
  | nil => exact ⟨[], rfl, nofun⟩
  | cons x xs ih =>
      obtain ⟨hx, hxs⟩ := List.pairwise_cons.1 hxs
      by_cases hk : keep x = true
      · refine ⟨[], ?_, nofun⟩
        rw [List.nil_append, List.filter_eq_self.2]
        intro a ha
        rcases List.mem_cons.1 ha with rfl | ha
        · exact hk
        · exact hkeep x a (hx a ha) hk
      · obtain ⟨dropped, hsplit, hdropped⟩ := ih hxs
        refine ⟨x :: dropped, ?_, fun a ha => ?_⟩
        · rw [List.filter_cons_of_neg hk, List.cons_append, ← hsplit]
        · rcases List.mem_cons.1 ha with rfl | ha
          · exact Bool.eq_false_iff.2 hk
          · exact hdropped a ha

/-- **A window is a suffix**, and whatever satisfies the test before it was pushed
out of a full window. -/
theorem exists_window_append {n : ℕ} {keep : α → Bool} (hkeep : Lasting time keep) {xs : List α}
    (hxs : InOrder time xs) :
    ∃ dropped, xs = dropped ++ window n keep xs ∧
      ∀ a ∈ dropped, keep a = true → (window n keep xs).length = n := by
  obtain ⟨dropped, hsplit, hdropped⟩ := exists_filter_append hkeep hxs
  refine ⟨dropped ++ (xs.filter keep).rdrop n, ?_, fun a ha hk => ?_⟩
  · rw [window, List.append_assoc, List.rdrop, List.rtake, List.take_append_drop]
    exact hsplit
  · rcases List.mem_append.1 ha with ha | ha
    · rw [hdropped a ha] at hk
      cases hk
    · have hlen : 0 < ((xs.filter keep).rdrop n).length := List.length_pos_of_mem ha
      rw [List.rdrop, List.length_take] at hlen
      rw [window, List.rtake, List.length_drop]
      omega

theorem mem_of_mem_window {n : ℕ} {keep : α → Bool} {xs : List α} {a : α}
    (h : a ∈ window n keep xs) : a ∈ xs ∧ keep a = true :=
  List.mem_filter.1 (List.mem_of_mem_drop h)

/-- **What a window forgets**: a suffix is kept, and under a stricter test either
nothing before it counts or it is full of what does. -/
theorem exists_forgotten {n : ℕ} {keep keep' : α → Bool} (hkeep : Lasting time keep)
    (hkeep' : Lasting time keep') (hstrict : ∀ a, keep' a = true → keep a = true) {xs : List α}
    (hxs : InOrder time xs) :
    ∃ dropped, xs = dropped ++ window n keep xs ∧
      (∀ a ∈ dropped, ∀ b ∈ window n keep xs, time a ≤ time b) ∧
      ((∀ a ∈ dropped, keep' a = false) ∨ n ≤ ((window n keep xs).filter keep').length) := by
  obtain ⟨dropped, hsplit, hfull⟩ := exists_window_append (n := n) hkeep hxs
  have hbefore : ∀ a ∈ dropped, ∀ b ∈ window n keep xs, time a ≤ time b := by
    have hpair : InOrder time (dropped ++ window n keep xs) := hsplit ▸ hxs
    exact (List.pairwise_append.1 hpair).2.2
  refine ⟨dropped, hsplit, hbefore, ?_⟩
  by_cases hnone : ∀ a ∈ dropped, keep' a = false
  · exact Or.inl hnone
  · push Not at hnone
    obtain ⟨a, ha, hk⟩ := hnone
    have hk' : keep' a = true := Bool.eq_true_of_not_eq_false hk
    have hall : (window n keep xs).filter keep' = window n keep xs :=
      List.filter_eq_self.2 fun b hb => hkeep' a b (hbefore a ha b hb) hk'
    right
    rw [hall, hfull a ha (hstrict a hk')]

theorem length_window_le (n : ℕ) (keep : α → Bool) (xs : List α) :
    (window n keep xs).length ≤ n := by
  rw [window, List.rtake, List.length_drop]
  omega

/-- A stricter test, of a window or of the whole list. -/
theorem filter_window {n : ℕ} {keep keep' : α → Bool} (hkeep : Lasting time keep)
    (hkeep' : Lasting time keep') (hstrict : ∀ a, keep' a = true → keep a = true) {xs : List α}
    (hxs : InOrder time xs) : (window n keep xs).filter keep' = window n keep' xs := by
  obtain ⟨dropped, hsplit, -, hforgotten⟩ := exists_forgotten (n := n) hkeep hkeep' hstrict hxs
  have hlength : ((window n keep xs).filter keep').length ≤ n :=
    (List.length_filter_le ..).trans (length_window_le n keep xs)
  calc (window n keep xs).filter keep'
      = window n keep' (window n keep xs) := (rtake_of_length_le hlength).symm
    _ = window n keep' (dropped ++ window n keep xs) := (window_append hforgotten).symm
    _ = window n keep' xs := by rw [← hsplit]

/-- The last `n` elements satisfy a lasting test if the first of them does. -/
theorem le_length_filter_iff {n : ℕ} {keep : α → Bool} (hkeep : Lasting time keep) {xs : List α}
    (hxs : InOrder time xs) {x : α} {rest : List α} (hlast : xs.rtake n = x :: rest)
    (hlen : n ≤ xs.length) : n ≤ (xs.filter keep).length ↔ keep x = true := by
  have hsplit : xs.rdrop n ++ x :: rest = xs := by
    rw [← hlast, List.rdrop, List.rtake, List.take_append_drop]
  have hcount : (x :: rest).length = n := by
    rw [← hlast, List.rtake, List.length_drop]
    omega
  constructor
  · intro hmany
    obtain ⟨dropped, hdropped, -⟩ := exists_filter_append hkeep hxs
    have hsame : (xs.filter keep).rtake n = x :: rest := by
      rw [← hlast]
      conv_rhs => rw [hdropped]
      exact (rtake_append_of_le hmany).symm
    have hmem : x ∈ (xs.filter keep).rtake n := hsame ▸ List.mem_cons_self ..
    exact (List.mem_filter.1 (List.mem_of_mem_drop hmem)).2
  · intro hx
    have hpair : InOrder time (x :: rest) :=
      (List.pairwise_append.1 (hsplit.symm ▸ hxs : InOrder time (xs.rdrop n ++ x :: rest))).2.1
    have hall : (x :: rest).filter keep = x :: rest := List.filter_eq_self.2 fun a ha => by
      rcases List.mem_cons.1 ha with rfl | ha
      · exact hx
      · exact hkeep x a ((List.pairwise_cons.1 hpair).1 a ha) hx
    rw [← hsplit, List.filter_append, hall, List.length_append, hcount]
    omega

/-! ### Placing an element -/

theorem mem_place {x a : α} {xs : List α} : a ∈ place time x xs ↔ a = x ∨ a ∈ xs := by
  unfold place
  rw [List.mem_append, List.mem_cons, List.mem_filter, List.mem_filter, decide_eq_true_iff,
    decide_eq_true_iff]
  constructor
  · rintro (⟨h, -⟩ | rfl | ⟨h, -⟩)
    · exact Or.inr h
    · exact Or.inl rfl
    · exact Or.inr h
  · rintro (rfl | h)
    · exact Or.inr (Or.inl rfl)
    · rcases le_or_gt (time a) (time x) with hle | hlt
      · exact Or.inl ⟨h, hle⟩
      · exact Or.inr (Or.inr ⟨h, hlt⟩)

theorem place_inOrder {x : α} {xs : List α} (hxs : InOrder time xs) :
    InOrder time (place time x xs) := by
  unfold InOrder place
  rw [List.pairwise_append, List.pairwise_cons]
  refine ⟨hxs.filter _, ⟨fun a ha => ?_, hxs.filter _⟩, fun a ha b hb => ?_⟩
  · exact (of_decide_eq_true (List.mem_filter.1 ha).2).le
  · have hax : time a ≤ time x := of_decide_eq_true (List.mem_filter.1 ha).2
    rcases List.mem_cons.1 hb with rfl | hb
    · exact hax
    · exact hax.trans (of_decide_eq_true (List.mem_filter.1 hb).2).le

/-- After everything of the front part that is not later, the element goes into
the back part. -/
theorem place_append_of_le {x : α} {xs ys : List α} (h : ∀ a ∈ xs, time a ≤ time x) :
    place time x (xs ++ ys) = xs ++ place time x ys := by
  have hall : xs.filter (fun a => time a ≤ time x) = xs :=
    List.filter_eq_self.2 fun a ha => decide_eq_true (h a ha)
  have hnone : xs.filter (fun a => time x < time a) = [] :=
    List.filter_eq_nil_iff.2 fun a ha => by
      rw [decide_eq_true_iff]
      exact (h a ha).not_gt
  rw [place, place, List.filter_append, List.filter_append, hall, hnone, List.nil_append,
    List.append_assoc]

/-- Before everything of the back part that is later, it goes into the front part. -/
theorem place_append_of_lt {x : α} {xs ys : List α} (h : ∀ a ∈ ys, time x < time a) :
    place time x (xs ++ ys) = place time x xs ++ ys := by
  have hall : ys.filter (fun a => time x < time a) = ys :=
    List.filter_eq_self.2 fun a ha => decide_eq_true (h a ha)
  have hnone : ys.filter (fun a => time a ≤ time x) = [] :=
    List.filter_eq_nil_iff.2 fun a ha => by
      rw [decide_eq_true_iff]
      exact (h a ha).not_ge
  rw [place, place, List.filter_append, List.filter_append, hall, hnone, List.append_nil,
    List.append_assoc, List.cons_append]

theorem place_perm (x : α) (xs : List α) : (place time x xs).Perm (x :: xs) := by
  have hnot : xs.filter (fun a => time x < time a) = xs.filter fun a => !decide (time a ≤ time x) :=
    List.filter_congr fun a _ => by simp only [← decide_not, not_le]
  rw [place, hnot]
  exact List.perm_middle.trans ((List.filter_append_perm _ xs).cons x)

/-- In an ordered list, what is not later than a time comes before what is. -/
theorem filter_append_filter {t : τ} {xs : List α} (hxs : InOrder time xs) :
    xs.filter (fun a => time a ≤ t) ++ xs.filter (fun a => t < time a) = xs := by
  induction xs with
  | nil => rfl
  | cons x xs ih =>
      obtain ⟨hx, hxs⟩ := List.pairwise_cons.1 hxs
      rcases le_or_gt (time x) t with hle | hlt
      · have hfirst : (x :: xs).filter (fun a => time a ≤ t) = x :: xs.filter (time · ≤ t) :=
          List.filter_cons_of_pos (decide_eq_true hle)
        have hsecond : (x :: xs).filter (fun a => t < time a) = xs.filter (t < time ·) :=
          List.filter_cons_of_neg (by rw [decide_eq_true_iff]; exact hle.not_gt)
        rw [hfirst, hsecond, List.cons_append, ih hxs]
      · have hnone : (x :: xs).filter (fun a => time a ≤ t) = [] :=
          List.filter_eq_nil_iff.2 fun a ha => by
            rw [decide_eq_true_iff]
            rcases List.mem_cons.1 ha with rfl | ha
            · exact hlt.not_ge
            · exact (hlt.trans_le (hx a ha)).not_ge
        have hall : (x :: xs).filter (fun a => t < time a) = x :: xs :=
          List.filter_eq_self.2 fun a ha => decide_eq_true (by
            rcases List.mem_cons.1 ha with rfl | ha
            · exact hlt
            · exact hlt.trans_le (hx a ha))
        rw [hnone, hall, List.nil_append]

/-- A placed element that satisfies a test is placed among what satisfies it. -/
theorem filter_place_of_pos {keep : α → Bool} {x : α} (hx : keep x = true) (xs : List α) :
    (place time x xs).filter keep = place time x (xs.filter keep) := by
  unfold place
  rw [List.filter_append, List.filter_cons_of_pos hx, List.filter_filter, List.filter_filter,
    List.filter_filter, List.filter_filter]
  simp only [Bool.and_comm]

/-- A placed element that does not satisfy a test leaves what satisfies it. -/
theorem filter_place_of_neg {keep : α → Bool} {x : α} (hx : keep x = false) {xs : List α}
    (hxs : InOrder time xs) : (place time x xs).filter keep = xs.filter keep := by
  have hnot : ¬ keep x = true := by rw [hx]; exact Bool.false_ne_true
  unfold place
  rw [List.filter_append, List.filter_cons_of_neg hnot, ← List.filter_append,
    filter_append_filter hxs]

/-- A map that keeps times keeps places. -/
theorem map_place {β : Type} {time' : β → τ} {f : α → β} (hf : ∀ a, time' (f a) = time a) (x : α)
    (xs : List α) : (place time x xs).map f = place time' (f x) (xs.map f) := by
  unfold place
  rw [List.map_append, List.map_cons, List.filter_map, List.filter_map]
  simp only [Function.comp_def, hf]

/-- **Forgetting is harmless**: placing an element into the window, or into the whole
list, leaves the same window under a stricter test. -/
theorem window_place {n : ℕ} {keep keep' : α → Bool} (hkeep : Lasting time keep)
    (hkeep' : Lasting time keep') (hstrict : ∀ a, keep' a = true → keep a = true) {xs : List α}
    (hxs : InOrder time xs) (x : α) :
    window n keep' (place time x (window n keep xs)) = window n keep' (place time x xs) := by
  obtain ⟨dropped, hsplit, hbefore, hforgotten⟩ :=
    exists_forgotten (n := n) hkeep hkeep' hstrict hxs
  generalize window n keep xs = kept at hsplit hbefore hforgotten ⊢
  subst hsplit
  by_cases hle : ∀ a ∈ dropped, time a ≤ time x
  · -- The element goes into the part that was kept.
    rw [place_append_of_le hle, window_append]
    refine hforgotten.imp_right fun hfull => hfull.trans ?_
    rw [((place_perm x kept).filter keep').length_eq]
    exact (List.Sublist.filter keep' (List.sublist_cons_self x kept)).length_le
  · -- It goes into the part that was forgotten, before everything that was kept.
    push Not at hle
    obtain ⟨a, ha, hlt⟩ := hle
    have hlater : ∀ b ∈ kept, time x < time b := fun b hb => hlt.trans_le (hbefore a ha b hb)
    have hunseen : (∀ b ∈ dropped, keep' b = false) → keep' x = false := fun hnone =>
      Bool.eq_false_iff.2 fun hx => by
        have hkept := hkeep' x a hlt.le hx
        rw [hnone a ha] at hkept
        cases hkept
    have hwindow : window n keep' (place time x kept) = window n keep' kept := by
      rw [← List.nil_append kept, place_append_of_lt hlater, window_append]
      · rfl
      · refine hforgotten.imp_left fun hnone b hb => ?_
        obtain rfl | hb := mem_place.1 hb
        · exact hunseen hnone
        · exact absurd hb List.not_mem_nil
    rw [hwindow, place_append_of_lt hlater, window_append]
    refine hforgotten.imp_left fun hnone b hb => ?_
    obtain rfl | hb := mem_place.1 hb
    · exact hunseen hnone
    · exact hnone b hb

/-! ### Sorting -/

section Sorting

variable {r : α → α → Prop}

/-- A relation that orders by time first. -/
structure Refines (time : α → τ) (r : α → α → Prop) : Prop where
  of_lt : ∀ {a b}, time a < time b → r a b
  le : ∀ {a b}, r a b → time a ≤ time b

theorem place_cons_of_le {x y : α} {ys : List α} (h : time y ≤ time x) :
    place time x (y :: ys) = y :: place time x ys := by
  have hle : ∀ a ∈ [y], time a ≤ time x := fun a ha => by rwa [List.mem_singleton.1 ha]
  exact place_append_of_le hle

theorem place_of_lt {x : α} {ys : List α} (h : ∀ b ∈ ys, time x < time b) :
    place time x ys = x :: ys := by
  rw [← List.nil_append ys, place_append_of_lt h]
  rfl

variable [DecidableRel r]

/-- Inserting commutes with placing what stands after everything not later than it. -/
theorem orderedInsert_place (hr : Refines time r) {a x : α} (hax : time a ≤ time x → r a x)
    {xs : List α} (hxs : InOrder time xs) :
    (place time x xs).orderedInsert r a = place time x (xs.orderedInsert r a) := by
  induction xs with
  | nil =>
      by_cases h : r a x
      · rw [place_of_lt nofun, List.orderedInsert_cons, if_pos h, List.orderedInsert_nil,
          place_cons_of_le (hr.le h), place_of_lt nofun]
      · have hlt : time x < time a := lt_of_not_ge fun hle => h (hax hle)
        rw [place_of_lt nofun, List.orderedInsert_cons, if_neg h, List.orderedInsert_nil,
          place_of_lt fun b hb => by rwa [List.mem_singleton.1 hb]]
  | cons y ys ih =>
      obtain ⟨hy, hys⟩ := List.pairwise_cons.1 hxs
      rcases le_or_gt (time y) (time x) with hle | hlt
      · rw [place_cons_of_le hle, List.orderedInsert_cons, List.orderedInsert_cons]
        split_ifs with h
        · rw [place_cons_of_le ((hr.le h).trans hle), place_cons_of_le hle]
        · rw [place_cons_of_le hle, ih hys]
      · have hlater : ∀ b ∈ y :: ys, time x < time b := fun b hb => by
          rcases List.mem_cons.1 hb with rfl | hb
          · exact hlt
          · exact hlt.trans_le (hy b hb)
        rw [place_of_lt hlater, List.orderedInsert_cons]
        split_ifs with h
        · rw [List.orderedInsert_cons, if_pos (hr.of_lt ((hr.le h).trans_lt hlt)),
            place_cons_of_le (hr.le h), place_of_lt hlater]
        · have hax' : time x < time a := lt_of_not_ge fun hle => h (hax hle)
          rw [place_of_lt]
          intro b hb
          rcases (List.mem_orderedInsert r).1 hb with rfl | hb
          · exact hax'
          · exact hlater b hb

theorem insertionSort_inOrder [Std.Total r] [IsTrans α r] (hr : Refines time r) (xs : List α) :
    InOrder time (xs.insertionSort r) :=
  (List.pairwise_insertionSort r xs).imp hr.le

/-- **A stable sort places the last element of its input.** -/
theorem insertionSort_concat [Std.Total r] [IsTrans α r] (hr : Refines time r) {x : α}
    {xs : List α} (hx : ∀ a ∈ xs, time a ≤ time x → r a x) :
    (xs ++ [x]).insertionSort r = place time x (xs.insertionSort r) := by
  induction xs with
  | nil => rfl
  | cons a xs ih =>
      rw [List.cons_append, List.insertionSort_cons, List.insertionSort_cons,
        ih fun b hb => hx b (List.mem_cons_of_mem a hb)]
      exact orderedInsert_place hr (hx a (List.mem_cons_self ..)) (insertionSort_inOrder hr xs)

end Sorting

end Window
end Library
