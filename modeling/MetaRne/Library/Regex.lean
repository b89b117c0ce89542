/-
# Backtracking matchers

Regular expressions as the backtracking engines run them.  A `Matcher` gives all
ways of matching a beginning of a text, the preferred one first, each with what
it captured and what is left.  Sequencing is the bind of the monad: a later part
that fails makes an earlier one try its next way.

A repetition is of one class of characters, greedy (`star`, `plus`, `between`) or lazy
(`lazyPlus`).  `match?` takes the first way.  A search goes along a text with the
character before it (`scan`), and goes on behind what it found.
-/

import Mathlib.Data.List.Basic

namespace Library
namespace Regex

/-- The ways of matching a beginning of a text, best first, each with what is left. -/
def Matcher (α : Type) : Type := List Char → List (α × List Char)

namespace Matcher

variable {α β : Type}

instance instMonadMatcher : Monad Matcher where
  pure a := fun text => [(a, text)]
  bind m k := fun text => (m text).flatMap fun found => k found.1 found.2

/-- The matcher that matches nothing. -/
def fail : Matcher α := fun _ => []

/-- A fixed word, captured. -/
def literal (word : String) : Matcher String := fun text =>
  if word.toList.isPrefixOf text then [(word, text.drop word.toList.length)] else []

/-- The ways of taking characters of a class off a text, the most characters first. -/
def takes (cls : Char → Bool) : List Char → List (List Char × List Char)
  | [] => [([], [])]
  | c :: rest =>
    (if cls c then (takes cls rest).map fun found => (c :: found.1, found.2) else []) ++
      [([], c :: rest)]

/-- `cls*`, captured. -/
def star (cls : Char → Bool) : Matcher String := fun text =>
  (takes cls text).map fun found => (String.ofList found.1, found.2)

/-- `cls+`, captured. -/
def plus (cls : Char → Bool) : Matcher String := fun text =>
  ((takes cls text).filter fun found => !found.1.isEmpty).map fun found =>
    (String.ofList found.1, found.2)

/-- `cls+?`, captured. -/
def lazyPlus (cls : Char → Bool) : Matcher String := fun text => (plus cls text).reverse

/-- `cls{low,high}`, captured. -/
def between (low high : ℕ) (cls : Char → Bool) : Matcher String := fun text =>
  ((takes cls text).filter fun found =>
    decide (low ≤ found.1.length) && decide (found.1.length ≤ high)).map fun found =>
      (String.ofList found.1, found.2)

/-- `m|m'`. -/
def either (m m' : Matcher α) : Matcher α := fun text => m text ++ m' text

/-- `(?:m)?`: what `m` captured, or `none` where it takes no part. -/
def optional (m : Matcher α) : Matcher (Option α) := either (some <$> m) (pure none)

/-- `$`: the end of the text, or before a line feed that ends it. -/
def endOfText : Matcher Unit := fun text =>
  if text = [] ∨ text = ['\n'] then [((), text)] else []

/-- `re.match`: what the first way captured. -/
def match? (m : Matcher α) (text : List Char) : Option α := ((m text).head?).map Prod.fst

/-- Everything a pattern that takes some character finds in a text, `skip` characters of which
belong to what was found last.  The pattern is told the character before. -/
def scan (m : Option Char → Matcher α) : ℕ → Option Char → List Char → List α
  | _, _, [] => []
  | skip + 1, _, c :: rest => scan m skip (some c) rest
  | 0, before, c :: rest =>
    match (m before (c :: rest)).head? with
    | none => scan m 0 (some c) rest
    | some found => found.1 :: scan m (rest.length - found.2.length) (some c) rest

/-- `re.findall`. -/
def findAll (m : Option Char → Matcher α) (text : List Char) : List α := scan m 0 none text

/-- `re.search`: what the first match captured. -/
def search (m : Matcher α) (text : List Char) : Option α := (findAll (fun _ => m) text).head?

/-! ### What is matched

A way of matching is a way of cutting the text in two, and each part of a pattern says
what stands in front of the cut. -/

section Matched

variable {text rest : List Char} {cls : Char → Bool} {a : α} {m : Matcher α}

theorem mem_pure {found : α × List Char} : found ∈ (pure a : Matcher α) text ↔ found = (a, text) :=
  List.mem_singleton

theorem mem_bind {k : α → Matcher β} {b : β} :
    (b, rest) ∈ (m >>= k) text ↔ ∃ a mid, (a, mid) ∈ m text ∧ (b, rest) ∈ k a mid := by
  refine List.mem_flatMap.trans ⟨?_, ?_⟩
  · rintro ⟨found, hfound, hrest⟩
    exact ⟨found.1, found.2, hfound, hrest⟩
  · rintro ⟨a, mid, hfirst, hrest⟩
    exact ⟨(a, mid), hfirst, hrest⟩

theorem mem_literal {word w : String} :
    (w, rest) ∈ literal word text ↔ w = word ∧ text = word.toList ++ rest := by
  unfold literal
  by_cases hstart : word.toList.isPrefixOf text = true
  · rw [if_pos hstart, List.mem_singleton, Prod.mk.injEq]
    obtain ⟨tail, rfl⟩ := List.isPrefixOf_iff_prefix.1 hstart
    rw [List.drop_left, List.append_cancel_left_eq, @eq_comm _ rest]
  · rw [if_neg hstart]
    refine iff_of_false List.not_mem_nil ?_
    rintro ⟨-, rfl⟩
    exact hstart (List.isPrefixOf_iff_prefix.2 (List.prefix_append _ _))

/-- **A repetition takes characters of its class.** -/
theorem mem_takes {taken : List Char} :
    (taken, rest) ∈ takes cls text ↔ text = taken ++ rest ∧ ∀ c ∈ taken, cls c = true := by
  induction text generalizing taken with
  | nil =>
      rw [takes, List.mem_singleton, Prod.mk.injEq]
      constructor
      · rintro ⟨rfl, rfl⟩
        exact ⟨rfl, nofun⟩
      · rintro ⟨happend, -⟩
        exact List.append_eq_nil_iff.1 happend.symm
  | cons c text ih =>
      rw [takes, List.mem_append, List.mem_singleton, Prod.mk.injEq]
      constructor
      · rintro (htake | ⟨rfl, rfl⟩)
        · split_ifs at htake with hc
          · obtain ⟨found, hfound, heq⟩ := List.mem_map.1 htake
            obtain ⟨rfl, rfl⟩ := Prod.mk.inj heq
            obtain ⟨rfl, hall⟩ := ih.1 hfound
            exact ⟨rfl, List.forall_mem_cons.2 ⟨hc, hall⟩⟩
          · exact absurd htake List.not_mem_nil
        · exact ⟨rfl, nofun⟩
      · rintro ⟨happend, hall⟩
        cases taken with
        | nil => exact Or.inr ⟨rfl, happend.symm⟩
        | cons c' taken =>
            obtain ⟨rfl, rfl⟩ := List.cons.inj happend
            obtain ⟨hc, hrest⟩ := List.forall_mem_cons.1 hall
            refine Or.inl ?_
            rw [if_pos hc]
            exact List.mem_map.2 ⟨(taken, rest), ih.2 ⟨rfl, hrest⟩, rfl⟩

theorem mem_star {w : String} :
    (w, rest) ∈ star cls text ↔ text = w.toList ++ rest ∧ ∀ c ∈ w.toList, cls c = true := by
  unfold star
  rw [List.mem_map]
  constructor
  · rintro ⟨⟨taken, rest'⟩, hfound, heq⟩
    obtain ⟨rfl, rfl⟩ := Prod.mk.inj heq
    rw [String.toList_ofList]
    exact mem_takes.1 hfound
  · intro h
    exact ⟨(w.toList, rest), mem_takes.2 h, by rw [String.ofList_toList]⟩

theorem mem_plus {w : String} :
    (w, rest) ∈ plus cls text ↔
      text = w.toList ++ rest ∧ (∀ c ∈ w.toList, cls c = true) ∧ w.toList ≠ [] := by
  unfold plus
  simp only [List.mem_map, List.mem_filter, Bool.not_eq_true', List.isEmpty_eq_false_iff]
  constructor
  · rintro ⟨⟨taken, rest'⟩, ⟨hfound, hne⟩, heq⟩
    obtain ⟨rfl, rfl⟩ := Prod.mk.inj heq
    obtain ⟨happend, hall⟩ := mem_takes.1 hfound
    rw [String.toList_ofList]
    exact ⟨happend, hall, hne⟩
  · rintro ⟨happend, hall, hne⟩
    exact ⟨(w.toList, rest), ⟨mem_takes.2 ⟨happend, hall⟩, hne⟩, by rw [String.ofList_toList]⟩

theorem mem_either {m' : Matcher α} :
    (a, rest) ∈ either m m' text ↔ (a, rest) ∈ m text ∨ (a, rest) ∈ m' text := List.mem_append

/-- What an optional part captures, it captures by matching. -/
theorem mem_of_mem_optional (h : (some a, rest) ∈ optional m text) : (a, rest) ∈ m text := by
  rcases mem_either.1 h with h | h
  · obtain ⟨b, mid, hb, heq⟩ := mem_bind.1 h
    cases mem_pure.1 heq
    exact hb
  · cases mem_pure.1 h

/-- What takes no part leaves the text as it is. -/
theorem eq_of_none_mem_optional (h : (none, rest) ∈ optional m text) : rest = text := by
  rcases mem_either.1 h with h | h
  · obtain ⟨b, mid, -, heq⟩ := mem_bind.1 h
    cases mem_pure.1 heq
  · cases mem_pure.1 h
    rfl

/-- The end of the text has nothing but a line feed after it. -/
theorem mem_endOfText {u : Unit} (h : (u, rest) ∈ endOfText text) : text = [] ∨ text = ['\n'] := by
  unfold endOfText at h
  split_ifs at h with hend
  · exact hend
  · exact absurd h List.not_mem_nil

theorem mem_of_match? (h : m.match? text = some a) : ∃ rest, (a, rest) ∈ m text := by
  unfold match? at h
  obtain ⟨found, hfound, rfl⟩ := Option.map_eq_some_iff.1 h
  exact ⟨found.2, List.mem_of_head? hfound⟩

/-- A pattern with some way of matching matches. -/
theorem match?_isSome_of_mem (h : (a, rest) ∈ m text) : ∃ b, m.match? text = some b := by
  unfold match?
  cases hways : m text with
  | nil =>
      rw [hways] at h
      exact absurd h List.not_mem_nil
  | cons first ways => exact ⟨first.1, rfl⟩

/-- **A search finds the first place where the pattern matches.** -/
theorem search_eq_some (h : search m text = some a) : ∃ before after, text = before ++ after ∧
    m.match? after = some a ∧
      ∀ before' after', text = before' ++ after' → before'.length < before.length →
        m.match? after' = none := by
  have hscan : ∀ last, (scan (fun _ => m) 0 last text).head? = some a →
      ∃ before after, text = before ++ after ∧ m.match? after = some a ∧
        ∀ before' after', text = before' ++ after' → before'.length < before.length →
          m.match? after' = none := by
    intro last hhead
    clear h
    induction text generalizing last with
    | nil => cases hhead
    | cons c rest ih =>
        rw [scan] at hhead
        cases hways : (m (c :: rest)).head? with
        | none =>
            rw [hways] at hhead
            obtain ⟨before, after, rfl, hmatch, hfirst⟩ := ih _ hhead
            refine ⟨c :: before, after, rfl, hmatch, fun before' after' heq hlt => ?_⟩
            cases before' with
            | nil =>
                rw [← List.nil_append after', ← heq, match?, hways]
                rfl
            | cons c' before' =>
                exact hfirst before' after' (List.cons.inj heq).2 (Nat.lt_of_succ_lt_succ hlt)
        | some found =>
            rw [hways] at hhead
            refine ⟨[], c :: rest, rfl, ?_, fun before' after' _ hlt => absurd hlt (by simp)⟩
            rw [match?, hways, ← hhead]
            rfl
  exact hscan none h

end Matched

/-- Greedy repetition gives back what a later part needs. -/
example : ((do let run ← plus (· == 'a'); let _ ← literal "ab"; return run) : Matcher String).match?
    "aaab".toList = some "aa" := by
  decide

end Matcher
end Regex
end Library
