/-
# Merging lists by key

Two lists of items, each with a key, are merged: an item of the incoming list stands
against the current item of its key, and `pick` chooses; a current item whose key
did not come in stays.

Where neither list has a key twice the merged one has none twice (`itemsAt_mergeBy`).
Lists that are views of one history, in which every key goes through versions, may be
merged in any order: what is left of a key is its newest version, once
(`itemsAt_mergeAll`).
-/

import Mathlib.Data.List.Induction
import Mathlib.Order.Defs.LinearOrder
import Mathlib.Order.Lattice

namespace Library
namespace KeyedMerge

variable {α κ : Type*} [DecidableEq κ] (key : α → κ) (pick : α → α → α)

/-- The items of a key. -/
def itemsAt (k : κ) (items : List α) : List α := items.filter fun a => key a = k

/-- The item of a key in a map made of a list: of several, the last. -/
def lookup (k : κ) (items : List α) : Option α := (itemsAt key k items).getLast?

/-- An incoming item against the current one of its key. -/
def against (current : List α) (incoming : α) : α :=
  match lookup key (key incoming) current with
  | some held => pick held incoming
  | none => incoming

/-- The incoming list, each item against the current one, and the current items whose keys did
not come in. -/
def mergeBy (incoming current : List α) : List α :=
  incoming.map (against key pick current) ++
    current.filter fun a => key a ∉ incoming.map key

/-- Lists that came in one after another. -/
def mergeAll (lists : List (List α)) : List α :=
  lists.foldl (fun current incoming => mergeBy key pick incoming current) []

variable {key pick}

theorem mem_itemsAt {k : κ} {a : α} {items : List α} :
    a ∈ itemsAt key k items ↔ a ∈ items ∧ key a = k := by
  rw [itemsAt, List.mem_filter, decide_eq_true_eq]

theorem itemsAt_cons_of_eq {k : κ} {a : α} (h : key a = k) (items : List α) :
    itemsAt key k (a :: items) = a :: itemsAt key k items :=
  List.filter_cons_of_pos (decide_eq_true h)

theorem itemsAt_cons_of_ne {k : κ} {a : α} (h : key a ≠ k) (items : List α) :
    itemsAt key k (a :: items) = itemsAt key k items :=
  List.filter_cons_of_neg (by rw [decide_eq_true_eq]; exact h)

theorem key_against (hkey : ∀ a b, key a = key b → key (pick a b) = key b) (current : List α)
    (a : α) : key (against key pick current a) = key a := by
  unfold against
  cases h : lookup key (key a) current with
  | none => rfl
  | some held =>
      have hheld : key held = key a :=
        (mem_itemsAt.1 (List.mem_of_getLast? h)).2
      exact hkey held a hheld

theorem getLast?_toList (o : Option α) : o.toList.getLast? = o := by cases o <;> rfl

/-- **The merged list has the picked item of a key**, where each list has at most one. -/
theorem itemsAt_mergeBy (hkey : ∀ a b, key a = key b → key (pick a b) = key b) {k : κ}
    {incoming current : List α} {a b : Option α} (hincoming : itemsAt key k incoming = b.toList)
    (hcurrent : itemsAt key k current = a.toList) :
    itemsAt key k (mergeBy key pick incoming current) = (Option.merge pick a b).toList := by
  have hlookup : lookup key k current = a := by rw [lookup, hcurrent, getLast?_toList]
  have hmap : itemsAt key k (incoming.map (against key pick current)) =
      b.toList.map (against key pick current) := by
    rw [← hincoming, itemsAt, itemsAt, List.filter_map]
    congr 1
    refine List.filter_congr fun x _ => ?_
    rw [Function.comp_apply, key_against hkey]
  rw [mergeBy, itemsAt, List.filter_append, ← itemsAt, hmap, List.filter_filter]
  cases b with
  | none =>
      -- Nothing came in for the key: the current items of it stay.
      have hstay : current.filter (fun x => decide (key x = k) && decide (key x ∉ incoming.map key))
          = itemsAt key k current := by
        refine List.filter_congr fun x _ => ?_
        by_cases hx : key x = k
        · have hnot : key x ∉ incoming.map key := by
            rintro hmem
            obtain ⟨y, hy, hyx⟩ := List.mem_map.1 hmem
            have hitem : y ∈ itemsAt key k incoming := mem_itemsAt.2 ⟨hy, hyx.trans hx⟩
            rw [hincoming] at hitem
            exact absurd hitem List.not_mem_nil
          simp only [hx, hx ▸ hnot, not_false_eq_true, decide_true, Bool.and_self]
        · simp only [hx, decide_false, Bool.false_and]
      rw [hstay, hcurrent]
      cases a <;> rfl
  | some x =>
      have hx : x ∈ incoming ∧ key x = k :=
        mem_itemsAt.1 (by rw [hincoming]; exact List.mem_singleton_self x)
      have hnone : current.filter (fun y => decide (key y = k) && decide (key y ∉ incoming.map key))
          = [] := by
        refine List.filter_eq_nil_iff.2 fun y _ hy => ?_
        simp only [Bool.and_eq_true, decide_eq_true_eq] at hy
        exact hy.2 (List.mem_map.2 ⟨x, hx.1, hx.2.trans hy.1.symm⟩)
      rw [hnone, List.append_nil, Option.toList_some, List.map_singleton, against, hx.2, hlookup]
      cases a <;> rfl

theorem mergeAll_concat (lists : List (List α)) (incoming : List α) :
    mergeAll key pick (lists ++ [incoming]) =
      mergeBy key pick incoming (mergeAll key pick lists) := by
  rw [mergeAll, List.foldl_append]
  rfl

/-- **Views of one history.**  Let `version n` be what a key stands for after `n` steps, and
let picking among two versions give the later one.  After any views of the history, in any
order and any of them repeatedly, the merged list has of the key what the newest view has. -/
theorem itemsAt_mergeAll {ι : Type*} [LinearOrder ι]
    (hkey : ∀ a b, key a = key b → key (pick a b) = key b) {k : κ} {version : ι → Option α}
    (hpick : ∀ m n, Option.merge pick (version m) (version n) = version (max m n))
    {views : List (ι × List α)}
    (hviews : ∀ view ∈ views, itemsAt key k view.2 = (version view.1).toList) (hne : views ≠ []) :
    ∃ newest ∈ views, (∀ view ∈ views, view.1 ≤ newest.1) ∧
      itemsAt key k (mergeAll key pick (views.map Prod.snd)) = (version newest.1).toList := by
  induction views using List.reverseRecOn with
  | nil => exact absurd rfl hne
  | append_singleton views view ih =>
      have hview := hviews view (List.mem_append_right _ (List.mem_singleton_self view))
      rw [List.map_append, List.map_singleton, mergeAll_concat]
      by_cases hnil : views = []
      · subst hnil
        refine ⟨view, List.mem_singleton_self view, fun other hother => ?_, ?_⟩
        · rw [List.mem_singleton.1 hother]
        · rw [itemsAt_mergeBy hkey hview (a := none) rfl]
          cases version view.1 <;> rfl
      · obtain ⟨newest, hmem, hmax, hitems⟩ :=
          ih (fun other hother => hviews other (List.mem_append_left _ hother)) hnil
        have hmerged := itemsAt_mergeBy hkey hview hitems
        rw [hpick] at hmerged
        rcases le_total newest.1 view.1 with hle | hle
        · refine ⟨view, List.mem_append_right _ (List.mem_singleton_self view), ?_, ?_⟩
          · intro other hother
            rcases List.mem_append.1 hother with hother | hother
            · exact (hmax other hother).trans hle
            · rw [List.mem_singleton.1 hother]
          · rw [hmerged, max_eq_right hle]
        · refine ⟨newest, List.mem_append_left _ hmem, ?_, ?_⟩
          · intro other hother
            rcases List.mem_append.1 hother with hother | hother
            · exact hmax other hother
            · rw [List.mem_singleton.1 hother]
              exact hle
          · rw [hmerged, max_eq_left hle]

end KeyedMerge
end Library
