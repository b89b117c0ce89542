/-
# Insertion-ordered dictionaries

A `Dict κ ν` is a finite map that remembers the order in which its keys came
in: writing a new key appends it, writing a key already present overwrites its
value in place.  Iteration (`keys`, `values`) follows that order.

No key occurs twice, and the structure carries the proof, so a value cannot be
reached under two entries.  `get?_set` is the whole meaning of a write;
`sum_values_set` and `size_set` say what it does to a total taken over the
values and to their number.
-/

import Mathlib.Algebra.BigOperators.Group.List.Basic
import Mathlib.Algebra.Ring.Nat
import Mathlib.Data.List.Induction
import Mathlib.Data.List.Nodup

namespace Library

/-- A map from `κ` to `ν` that iterates in insertion order. -/
structure Dict (κ ν : Type) where
  /-- The entries, oldest key first. -/
  entries : List (κ × ν)
  /-- No key has two entries. -/
  nodup : (entries.map Prod.fst).Nodup

namespace Dict

variable {κ ν : Type}

@[ext]
theorem ext {d d' : Dict κ ν} (h : d.entries = d'.entries) : d = d' := by
  cases d; cases d'; congr

instance [DecidableEq κ] [DecidableEq ν] : DecidableEq (Dict κ ν) := fun d d' =>
  decidable_of_iff (d.entries = d'.entries) ⟨ext, fun h => h ▸ rfl⟩

/-- The dictionary with no keys. -/
def empty : Dict κ ν := ⟨[], List.nodup_nil⟩

/-- The keys, oldest first. -/
def keys (d : Dict κ ν) : List κ := d.entries.map Prod.fst

/-- The values, in the order of their keys. -/
def values (d : Dict κ ν) : List ν := d.entries.map Prod.snd

/-- How many keys there are. -/
def size (d : Dict κ ν) : ℕ := d.entries.length

@[simp] theorem values_empty : (empty : Dict κ ν).values = [] := rfl

@[simp] theorem size_empty : (empty : Dict κ ν).size = 0 := rfl

theorem length_values (d : Dict κ ν) : d.values.length = d.size := List.length_map _

/-- A dictionary without keys is empty. -/
theorem eq_empty_of_keys {d : Dict κ ν} (h : d.keys = []) : d = .empty :=
  ext (List.map_eq_nil_iff.1 h)

variable [DecidableEq κ]

/-- The value under a key, if the key is present. -/
def get? (d : Dict κ ν) (k : κ) : Option ν := d.entries.lookup k

/-- Overwrite the value of a key in a list of entries. -/
def overwrite (k : κ) (v : ν) (es : List (κ × ν)) : List (κ × ν) :=
  es.map fun e => if e.1 = k then (k, v) else e

theorem map_fst_overwrite (k : κ) (v : ν) (es : List (κ × ν)) :
    (overwrite k v es).map Prod.fst = es.map Prod.fst := by
  rw [overwrite, List.map_map]
  refine List.map_congr_left fun e _ => ?_
  simp only [Function.comp_apply]
  split_ifs with h
  · exact h.symm
  · rfl

/-- Write a key: in place if it is there, at the end otherwise. -/
def set (d : Dict κ ν) (k : κ) (v : ν) : Dict κ ν :=
  if h : k ∈ d.entries.map Prod.fst then
    ⟨overwrite k v d.entries, by rw [map_fst_overwrite]; exact d.nodup⟩
  else
    ⟨d.entries ++ [(k, v)], by
      rw [List.map_append, List.map_cons, List.map_nil]
      refine List.nodup_append.2 ⟨d.nodup, List.nodup_singleton _, fun a ha b hb => ?_⟩
      rw [List.mem_singleton] at hb
      intro hab
      rw [hab, hb] at ha
      exact h ha⟩

@[simp] theorem get?_empty (k : κ) : (empty : Dict κ ν).get? k = none := rfl

/-- A key is present exactly when it has a value. -/
theorem mem_keys_iff {d : Dict κ ν} {k : κ} : k ∈ d.keys ↔ ∃ v, d.get? k = some v := by
  rw [keys, get?, ← Option.isSome_iff_exists, List.lookup_isSome_iff]
  simp only [List.mem_map, beq_iff_eq]
  exact ⟨fun ⟨e, he, hk⟩ => ⟨e, he, hk.symm⟩, fun ⟨e, he, hk⟩ => ⟨e, he, hk.symm⟩⟩

theorem get?_eq_none_iff {d : Dict κ ν} {k : κ} : d.get? k = none ↔ k ∉ d.keys := by
  rw [mem_keys_iff, ← Option.not_isSome_iff_eq_none, Option.isSome_iff_exists]

/-- An entry of the list is what the lookup finds, since its key occurs once. -/
theorem get?_eq_some_iff {d : Dict κ ν} {k : κ} {v : ν} :
    d.get? k = some v ↔ (k, v) ∈ d.entries := by
  rw [get?, List.lookup_eq_some_iff]
  constructor
  · rintro ⟨l₁, l₂, h, -⟩
    rw [h]
    exact List.mem_append_right _ (List.mem_cons_self ..)
  · intro h
    obtain ⟨l₁, l₂, hd⟩ := List.append_of_mem h
    refine ⟨l₁, l₂, hd, fun e he => ?_⟩
    have hn := d.nodup
    rw [hd, List.map_append, List.map_cons, List.nodup_append] at hn
    exact bne_iff_ne.2 fun hk =>
      hn.2.2 _ (List.mem_map_of_mem he) _ (List.mem_cons_self ..) hk.symm

theorem mem_values_iff {d : Dict κ ν} {v : ν} : v ∈ d.values ↔ ∃ k, d.get? k = some v := by
  simp only [values, List.mem_map, get?_eq_some_iff, Prod.exists, exists_eq_right]

/-- Where every value names its key, the names of the values are the keys. -/
theorem map_values_eq_keys {d : Dict κ ν} {name : ν → κ}
    (h : ∀ {k v}, d.get? k = some v → name v = k) : d.values.map name = d.keys := by
  unfold values keys
  rw [List.map_map]
  exact List.map_congr_left fun e he => h (get?_eq_some_iff.2 he)

theorem lookup_overwrite (k : κ) (v : ν) (es : List (κ × ν)) (k' : κ) :
    (overwrite k v es).lookup k' =
      if k' = k then (es.lookup k).map fun _ => v else es.lookup k' := by
  induction es with
  | nil => simp [overwrite]
  | cons e es ih =>
      obtain ⟨a, b⟩ := e
      simp only [overwrite, List.map_cons] at ih ⊢
      by_cases ha : a = k
      · subst ha
        rw [if_pos rfl, List.lookup_cons, List.lookup_cons, List.lookup_cons, ih]
        by_cases hk : k' = a
        · simp [hk]
        · simp [hk, beq_false_of_ne hk]
      · rw [if_neg ha, List.lookup_cons, List.lookup_cons, List.lookup_cons, ih]
        by_cases hk : k' = k
        · subst hk
          simp [beq_false_of_ne (Ne.symm ha)]
        · simp [hk]

/-- **What a write does**: its key gets the value, every other key keeps its. -/
theorem get?_set (d : Dict κ ν) (k : κ) (v : ν) (k' : κ) :
    (d.set k v).get? k' = if k' = k then some v else d.get? k' := by
  unfold set
  split_ifs with h hk hk
  · obtain ⟨w, hw⟩ := mem_keys_iff.1 h
    subst hk
    rw [get?] at hw
    simp only [get?, lookup_overwrite, hw, if_true, Option.map_some]
  · simp only [get?, lookup_overwrite, hk, if_false]
  · subst hk
    have hn : d.entries.lookup k' = none := get?_eq_none_iff.2 h
    simp [get?, List.lookup_append, hn]
  · simp only [get?, List.lookup_append, List.lookup_cons, beq_false_of_ne hk, List.lookup_nil,
      Option.or_none]

@[simp] theorem get?_set_self (d : Dict κ ν) (k : κ) (v : ν) : (d.set k v).get? k = some v := by
  rw [get?_set, if_pos rfl]

theorem get?_set_of_ne (d : Dict κ ν) {k k' : κ} (v : ν) (h : k' ≠ k) :
    (d.set k v).get? k' = d.get? k' := by
  rw [get?_set, if_neg h]

/-- Writing what is already there changes nothing. -/
theorem set_eq_self {d : Dict κ ν} {k : κ} {v : ν} (h : d.get? k = some v) : d.set k v = d := by
  have hk : k ∈ d.entries.map Prod.fst := mem_keys_iff.2 ⟨v, h⟩
  refine ext ?_
  simp only [set, dif_pos hk, overwrite]
  refine (List.map_congr_left fun e he => ?_).trans (List.map_id _)
  split_ifs with hek
  · have he' : d.get? k = some e.2 := get?_eq_some_iff.2 (hek ▸ he)
    rw [h, Option.some.injEq] at he'
    rw [he', ← hek]
    rfl
  · rfl

/-- A key that is not missing has a value. -/
theorem isSome_of_not_isNone {d : Dict κ ν} {k : κ} (h : ¬ (d.get? k).isNone = true) :
    (d.get? k).isSome := by
  rw [Option.isNone_iff_eq_none] at h
  exact Option.isSome_iff_ne_none.2 h

/-- A value of the dictionary after a write is the value written or was there before. -/
theorem mem_values_set {d : Dict κ ν} {k : κ} {v w : ν} (h : w ∈ (d.set k v).values) :
    w = v ∨ w ∈ d.values := by
  obtain ⟨k', hk'⟩ := mem_values_iff.1 h
  rw [get?_set] at hk'
  split_ifs at hk' with hk
  · exact Or.inl (Option.some.inj hk').symm
  · exact Or.inr (mem_values_iff.2 ⟨k', hk'⟩)

theorem values_set_of_get?_none {d : Dict κ ν} {k : κ} (v : ν) (h : d.get? k = none) :
    (d.set k v).values = d.values ++ [v] := by
  have hk : k ∉ d.entries.map Prod.fst := get?_eq_none_iff.1 h
  simp only [set, dif_neg hk, values, List.map_append, List.map_cons, List.map_nil]

theorem size_set_of_get?_none {d : Dict κ ν} {k : κ} (v : ν) (h : d.get? k = none) :
    (d.set k v).size = d.size + 1 := by
  rw [← length_values, values_set_of_get?_none v h, List.length_append, length_values]
  rfl

theorem size_set_of_get?_some {d : Dict κ ν} {k : κ} {old : ν} (v : ν) (h : d.get? k = some old) :
    (d.set k v).size = d.size := by
  have hk : k ∈ d.entries.map Prod.fst := mem_keys_iff.2 ⟨old, h⟩
  simp only [set, dif_pos hk, size, overwrite, List.length_map]

/-- A total over the entries trades the old value of a key for the new one. -/
theorem sum_overwrite (f : ν → ℕ) (k : κ) (v old : ν) (es : List (κ × ν))
    (hn : (es.map Prod.fst).Nodup) (h : es.lookup k = some old) :
    ((overwrite k v es).map fun e => f e.2).sum + f old = (es.map fun e => f e.2).sum + f v := by
  induction es with
  | nil => simp at h
  | cons e es ih =>
      obtain ⟨a, b⟩ := e
      rw [List.map_cons, List.nodup_cons] at hn
      simp only [overwrite, List.map_cons, List.sum_cons] at ih ⊢
      rw [List.lookup_cons] at h
      by_cases ha : a = k
      · subst ha
        have hb : b = old := by simpa using h
        subst hb
        have hrest : es.map (fun e => if e.1 = a then (a, v) else e) = es := by
          refine (List.map_congr_left fun e he => ?_).trans (List.map_id _)
          exact if_neg fun hea => hn.1 (List.mem_map.2 ⟨e, he, hea⟩)
        rw [if_pos rfl, hrest]
        simp only
        omega
      · have hk : (k == a) = false := beq_false_of_ne (Ne.symm ha)
        rw [hk] at h
        have hsum := ih hn.2 h
        rw [if_neg ha]
        simp only
        omega

/-- **Overwriting a key trades its old value for the new one** in any total
taken over the values. -/
theorem sum_values_set {d : Dict κ ν} {k : κ} {old : ν} (f : ν → ℕ) (v : ν)
    (h : d.get? k = some old) :
    ((d.set k v).values.map f).sum + f old = (d.values.map f).sum + f v := by
  have hk : k ∈ d.entries.map Prod.fst := mem_keys_iff.2 ⟨old, h⟩
  have hs := sum_overwrite f k v old d.entries d.nodup h
  simpa only [set, dif_pos hk, values, List.map_map, Function.comp_def] using hs

/-- **Overwriting a value in place keeps an order of the values**, if the new value
stands to the others as the old one did. -/
theorem pairwise_values_set {R : ν → ν → Prop} {d : Dict κ ν} {k : κ} {old v : ν}
    (hget : d.get? k = some old) (h : d.values.Pairwise R) (hbefore : ∀ w, R w old → R w v)
    (hafter : ∀ w, R old w → R v w) : (d.set k v).values.Pairwise R := by
  have hk : k ∈ d.entries.map Prod.fst := mem_keys_iff.2 ⟨old, hget⟩
  have hvalues : (d.set k v).values =
      d.entries.map fun e => (if e.1 = k then (k, v) else e).2 := by
    simp only [set, dif_pos hk, values, overwrite, List.map_map, Function.comp_def]
  have hkeys : d.entries.Pairwise fun e e' => e.1 ≠ e'.1 := List.pairwise_map.1 d.nodup
  have hold : ∀ e ∈ d.entries, e.1 = k → e.2 = old := fun e he hek => by
    have hfound : d.get? k = some e.2 := get?_eq_some_iff.2 (hek ▸ he)
    rw [hget, Option.some.injEq] at hfound
    exact hfound.symm
  rw [hvalues, List.pairwise_map]
  refine (hkeys.and (List.pairwise_map.1 h)).imp_of_mem fun {e e'} he he' hboth => ?_
  obtain ⟨hne, hR⟩ := hboth
  split_ifs with h₁ h₂ h₂
  · exact absurd (h₁.trans h₂.symm) hne
  · exact hafter _ (hold e he h₁ ▸ hR)
  · exact hbefore _ (hold e' he' h₂ ▸ hR)
  · exact hR

/-! ### Restriction -/

/-- The entries of the keys that satisfy a test. -/
def restrict (keep : κ → Bool) (d : Dict κ ν) : Dict κ ν where
  entries := d.entries.filter fun e => keep e.1
  nodup := d.nodup.sublist (List.filter_sublist.map Prod.fst)

theorem get?_restrict_of_pos {keep : κ → Bool} {k : κ} (hk : keep k = true) (d : Dict κ ν) :
    (d.restrict keep).get? k = d.get? k := by
  refine Option.ext fun v => ?_
  rw [get?_eq_some_iff, get?_eq_some_iff, restrict, List.mem_filter]
  exact ⟨fun h => h.1, fun h => ⟨h, hk⟩⟩

theorem get?_restrict_of_neg {keep : κ → Bool} {k : κ} (hk : keep k = false) (d : Dict κ ν) :
    (d.restrict keep).get? k = none := by
  refine Option.eq_none_iff_forall_not_mem.2 fun v h => ?_
  rw [Option.mem_def, get?_eq_some_iff, restrict, List.mem_filter] at h
  exact Bool.false_ne_true (hk.symm.trans h.2)

/-- The other entries. -/
def erase (d : Dict κ ν) (k : κ) : Dict κ ν := d.restrict fun k' => decide (k' ≠ k)

@[simp] theorem get?_erase_self (d : Dict κ ν) (k : κ) : (d.erase k).get? k = none := by
  unfold erase
  apply get?_restrict_of_neg
  exact decide_eq_false (not_not_intro rfl)

theorem get?_erase_of_ne (d : Dict κ ν) {k k' : κ} (h : k' ≠ k) :
    (d.erase k).get? k' = d.get? k' := by
  unfold erase
  apply get?_restrict_of_pos
  exact decide_eq_true h

theorem entries_set_of_mem {d : Dict κ ν} {k : κ} (h : k ∈ d.entries.map Prod.fst) (v : ν) :
    (d.set k v).entries = overwrite k v d.entries := by
  rw [set, dif_pos h]

theorem entries_set_of_not_mem {d : Dict κ ν} {k : κ} (h : k ∉ d.entries.map Prod.fst) (v : ν) :
    (d.set k v).entries = d.entries ++ [(k, v)] := by
  rw [set, dif_neg h]

theorem filter_overwrite (keep : κ → Bool) (k : κ) (v : ν) (es : List (κ × ν)) :
    (overwrite k v es).filter (fun e => keep e.1) =
      overwrite k v (es.filter fun e => keep e.1) := by
  unfold overwrite
  rw [List.filter_map]
  have htest : ((fun e : κ × ν => keep e.1) ∘ fun e => if e.1 = k then (k, v) else e) =
      fun e => keep e.1 := by
    funext e
    rw [Function.comp_apply]
    split_ifs with he
    · rw [he]
    · rfl
  rw [htest]

theorem overwrite_of_not_mem {k : κ} {es : List (κ × ν)} (h : k ∉ es.map Prod.fst) (v : ν) :
    overwrite k v es = es := by
  have hother : ∀ e ∈ es, (if e.1 = k then (k, v) else e) = e := fun e he =>
    if_neg fun hk => h (List.mem_map.2 ⟨e, he, hk⟩)
  exact (List.map_congr_left hother).trans (List.map_id' _)

/-- A key outside the restriction is written without effect on it. -/
theorem restrict_set_of_neg {keep : κ → Bool} {k : κ} (hk : keep k = false) (d : Dict κ ν)
    (v : ν) : (d.set k v).restrict keep = d.restrict keep := by
  have hnot : ¬ keep k = true := by rw [hk]; exact Bool.false_ne_true
  refine ext ?_
  show (d.set k v).entries.filter _ = d.entries.filter _
  by_cases hmem : k ∈ d.entries.map Prod.fst
  · rw [entries_set_of_mem hmem, filter_overwrite, overwrite_of_not_mem]
    rw [List.mem_map]
    rintro ⟨e, he, rfl⟩
    exact hnot (List.mem_filter.1 he).2
  · have hnone : [(k, v)].filter (fun e => keep e.1) = [] := List.filter_cons_of_neg hnot
    rw [entries_set_of_not_mem hmem, List.filter_append, hnone, List.append_nil]

/-- A key inside the restriction is written in it. -/
theorem restrict_set_of_pos {keep : κ → Bool} {k : κ} (hk : keep k = true) (d : Dict κ ν)
    (v : ν) : (d.set k v).restrict keep = (d.restrict keep).set k v := by
  have hkeys : k ∈ (d.restrict keep).entries.map Prod.fst ↔ k ∈ d.entries.map Prod.fst := by
    rw [List.mem_map, List.mem_map]
    constructor
    · rintro ⟨e, he, rfl⟩
      exact ⟨e, List.mem_of_mem_filter he, rfl⟩
    · rintro ⟨e, he, rfl⟩
      exact ⟨e, List.mem_filter.2 ⟨he, hk⟩, rfl⟩
  refine ext ?_
  show (d.set k v).entries.filter _ = _
  by_cases hmem : k ∈ d.entries.map Prod.fst
  · rw [entries_set_of_mem hmem, entries_set_of_mem (hkeys.2 hmem), filter_overwrite]
    rfl
  · have hkept : [(k, v)].filter (fun e => keep e.1) = [(k, v)] := List.filter_cons_of_pos hk
    rw [entries_set_of_not_mem hmem, entries_set_of_not_mem (hkeys.not.2 hmem), List.filter_append,
      hkept]
    rfl

/-! ### Grouping -/

/-- Append to the list under a key (`setdefault(k, []).append(v)`). -/
def append (d : Dict κ (List ν)) (k : κ) (v : ν) : Dict κ (List ν) :=
  d.set k ((d.get? k).getD [] ++ [v])

/-- Group pairs by their first part; keys come in the order of their first pair. -/
def group (pairs : List (κ × ν)) : Dict κ (List ν) :=
  pairs.foldl (fun d p => d.append p.1 p.2) empty

/-- The second parts of the pairs with a given first part, in order. -/
def withKey (k : κ) (pairs : List (κ × ν)) : List ν :=
  (pairs.filter fun p => p.1 = k).map Prod.snd

theorem group_concat (pairs : List (κ × ν)) (p : κ × ν) :
    group (pairs ++ [p]) = (group pairs).append p.1 p.2 := by
  rw [group, List.foldl_append]
  rfl

/-- **Grouping the pairs of some keys** is restricting the grouping to them. -/
theorem group_filter (keep : κ → Bool) (pairs : List (κ × ν)) :
    group (pairs.filter fun p => keep p.1) = (group pairs).restrict keep := by
  induction pairs using List.reverseRecOn with
  | nil => rfl
  | append_singleton pairs p ih =>
      rw [List.filter_append, group_concat, append]
      by_cases hp : keep p.1 = true
      · have hkept : [p].filter (fun p => keep p.1) = [p] := List.filter_cons_of_pos hp
        rw [hkept, group_concat, append, ih, restrict_set_of_pos hp, get?_restrict_of_pos hp]
      · have hnone : [p].filter (fun p => keep p.1) = [] := List.filter_cons_of_neg hp
        rw [hnone, List.append_nil, ih, restrict_set_of_neg (Bool.eq_false_iff.2 hp)]

/-- **What grouping does**: a key has the values it was paired with, in order. -/
theorem getD_group (pairs : List (κ × ν)) (k : κ) :
    ((group pairs).get? k).getD [] = withKey k pairs := by
  induction pairs using List.reverseRecOn with
  | nil => rfl
  | append_singleton pairs p ih =>
      rw [group_concat, append, get?_set, withKey, List.filter_append, List.map_append]
      split_ifs with hk
      · subst hk
        rw [Option.getD_some, ih, withKey]
        simp only [decide_true, List.filter_cons_of_pos, List.filter_nil, List.map_cons,
          List.map_nil]
      · have hne : ¬ p.1 = k := fun h => hk h.symm
        simp only [ih, withKey, hne, decide_false, Bool.false_eq_true, not_false_eq_true,
          List.filter_cons_of_neg, List.filter_nil, List.map_nil, List.append_nil]

/-- The keys of a grouping are first parts of pairs, and their values second parts. -/
theorem of_mem_group {pairs : List (κ × ν)} {k : κ} {vs : List ν}
    (h : (k, vs) ∈ (group pairs).entries) : vs = withKey k pairs := by
  have hget := get?_eq_some_iff.2 h
  have hall := getD_group pairs k
  rw [hget, Option.getD_some] at hall
  exact hall

/-- A key that some pair has is a key of the grouping. -/
theorem mem_group {pairs : List (κ × ν)} {k : κ} (h : withKey k pairs ≠ []) :
    (k, withKey k pairs) ∈ (group pairs).entries := by
  rw [← get?_eq_some_iff]
  have hall := getD_group pairs k
  cases hget : (group pairs).get? k with
  | none =>
      rw [hget, Option.getD_none] at hall
      exact absurd hall.symm h
  | some vs =>
      rw [hget, Option.getD_some] at hall
      rw [hall]

theorem mem_fst_of_mem_group {pairs : List (κ × ν)} {k : κ} {vs : List ν}
    (h : (group pairs).get? k = some vs) : k ∈ pairs.map Prod.fst := by
  induction pairs using List.reverseRecOn generalizing vs with
  | nil => cases h
  | append_singleton pairs p ih =>
      rw [group_concat, append, get?_set] at h
      rw [List.map_append, List.mem_append]
      split_ifs at h with hk
      · exact Or.inr (by rw [hk]; exact List.mem_singleton_self _)
      · exact Or.inl (ih h)

theorem mem_withKey {pairs : List (κ × ν)} {k : κ} {v : ν} :
    v ∈ withKey k pairs ↔ (k, v) ∈ pairs := by
  simp only [withKey, List.mem_map, List.mem_filter, decide_eq_true_eq, Prod.exists,
    exists_eq_right]

end Dict
end Library
