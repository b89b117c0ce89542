/-
# What the allocation of sequence numbers amounts to

`MetaRne.Adapters.AclSequences` translates the two loops.  Here they are said
without a loop: an entry written without a number gets the least of the numbers
that are open to it when its turn comes, and which numbers are open is a set, one
for each adapter (`CiscoAdapter.openNumbers`, `AristaAdapter.openNumbers`).

The search goes up in steps of 10 from a multiple of 10, so its result is the least
multiple of 10 from there that is not in use (`firstFree_isLeast`).  What the Cisco
loop carries along is that nothing in use lies above the greatest number assigned,
other than what is written out; what the Arista loop carries along is the numbers in
use themselves.
-/

import Mathlib.Order.Bounds.Basic
import MetaRne.Adapters.AclSequences
import MetaRne.Library.Sorting

namespace MetaRne

/-- **The search ends**: it passes over used numbers only, and stops at one that is not. -/
theorem firstFree_ends (used : List ℤ) (candidate : ℤ) :
    ∃ rounds : ℕ, firstFree used candidate = candidate + 10 * (rounds : ℤ) ∧
      candidate + 10 * (rounds : ℤ) ∉ used ∧
      ∀ i < rounds, candidate + 10 * (i : ℤ) ∈ used := by
  have hwithin : ∀ (bound : ℕ) (candidate : ℤ), ∃ rounds : ℕ,
      firstFreeWithin used candidate bound = candidate + 10 * (rounds : ℤ) ∧
        ∀ i < rounds, candidate + 10 * (i : ℤ) ∈ used := by
    intro bound
    induction bound with
    | zero => exact fun candidate => ⟨0, by simp [firstFreeWithin], by omega⟩
    | succ bound ih =>
        intro candidate
        unfold firstFreeWithin
        split_ifs with hused
        · obtain ⟨rounds, heq, hpassed⟩ := ih (candidate + 10)
          refine ⟨rounds + 1, by omega, fun i hi => ?_⟩
          cases i with
          | zero => simpa using hused
          | succ i =>
              have hnext := hpassed i (by omega)
              rw [show candidate + 10 * ((i + 1 : ℕ) : ℤ) = candidate + 10 + 10 * (i : ℤ) by
                omega]
              exact hnext
        · exact ⟨0, by simp, by omega⟩
  obtain ⟨rounds, heq, hpassed⟩ := hwithin used.length candidate
  have hfree := firstFree_not_mem used candidate
  exact ⟨rounds, heq, by rwa [firstFree, heq] at hfree, hpassed⟩

/-- **The result of the search**, from a multiple of 10. -/
theorem firstFree_isLeast (used : List ℤ) {candidate : ℤ} (hten : 10 ∣ candidate) :
    IsLeast {n | 10 ∣ n ∧ candidate ≤ n ∧ n ∉ used} (firstFree used candidate) := by
  obtain ⟨rounds, heq, hfree, hpassed⟩ := firstFree_ends used candidate
  rw [heq]
  refine ⟨⟨by omega, by omega, hfree⟩, fun n ⟨hn, hle, hnot⟩ => ?_⟩
  by_contra hlt
  obtain ⟨k, rfl⟩ := hn
  obtain ⟨c, rfl⟩ := hten
  have hmem := hpassed (k - c).toNat (by omega)
  rw [show 10 * c + 10 * ((k - c).toNat : ℤ) = 10 * k by omega] at hmem
  exact hnot hmem

theorem isLeast_of_iff {p q : ℤ → Prop} {m : ℤ} (h : ∀ n, p n ↔ q n) (hleast : IsLeast {n | p n} m) :
    IsLeast {n | q n} m := by
  rwa [show {n | q n} = {n | p n} from Set.ext fun n => (h n).symm]

/-- An entry as it is numbered: its number is the written one, where there is one. -/
def PendingAclEntry.IsNumbered (entry : PendingAclEntry) (numbered : NormalizedAclEntry) : Prop :=
  ∃ sequence, numbered = entry.numbered sequence ∧
    ∀ written, entry.sequence = some written → sequence = written

/-- The entries numbered in their order: written numbers are kept, each of the others is
the least of those open to it after the earlier ones (`openNumbers`), and the number of no
other entry. -/
structure Allocation (openNumbers : List NormalizedAclEntry → Set ℤ)
    (pending : List PendingAclEntry) (assigned : List NormalizedAclEntry) : Prop where
  kept : List.Forall₂ PendingAclEntry.IsNumbered pending assigned
  least : ∀ (i : ℕ) (entry : PendingAclEntry), pending[i]? = some entry → entry.sequence = none →
    ∃ numbered, assigned[i]? = some numbered ∧
      IsLeast (openNumbers (assigned.take i)) numbered.sequence
  alone : ∀ (i j : ℕ) (entry : PendingAclEntry) (numbered other : NormalizedAclEntry),
    pending[i]? = some entry → entry.sequence = none → assigned[i]? = some numbered →
      assigned[j]? = some other → i ≠ j → numbered.sequence ≠ other.sequence

section

variable {openNumbers : List NormalizedAclEntry → Set ℤ} {pending : List PendingAclEntry}
  {assigned : List NormalizedAclEntry}

/-- The number an entry was written with is one of those written out. -/
theorem mem_explicitSequences {i : ℕ} {entry : PendingAclEntry} {sequence : ℤ}
    (hget : pending[i]? = some entry) (hsequence : entry.sequence = some sequence) :
    sequence ∈ explicitSequences pending :=
  List.mem_filterMap.2 ⟨entry, List.mem_of_getElem? hget, hsequence⟩

theorem mem_explicitSequences_cons {first : PendingAclEntry} {sequence : ℤ}
    (h : sequence ∈ explicitSequences pending) : sequence ∈ explicitSequences (first :: pending) := by
  obtain ⟨entry, hentry, hsequence⟩ := List.mem_filterMap.1 h
  exact List.mem_filterMap.2 ⟨entry, List.mem_cons_of_mem _ hentry, hsequence⟩

/-- An entry at the same place, numbered. -/
theorem isNumbered_of_kept (hkept : List.Forall₂ PendingAclEntry.IsNumbered pending assigned)
    {i : ℕ} {numbered : NormalizedAclEntry} (hget : assigned[i]? = some numbered) :
    ∃ entry, pending[i]? = some entry ∧ entry.IsNumbered numbered := by
  induction hkept generalizing i with
  | nil => simp at hget
  | cons hentry _ ih =>
      cases i with
      | zero =>
          obtain rfl : _ = numbered := by simpa using hget
          exact ⟨_, by simp, hentry⟩
      | succ i =>
          obtain ⟨entry, hentry, hnumbered⟩ := ih (by simpa using hget)
          exact ⟨entry, by simpa using hentry, hnumbered⟩

/-- What is open to an entry is neither written out nor assigned before, so no other entry
has its number. -/
theorem Allocation.of_least
    (hkept : List.Forall₂ PendingAclEntry.IsNumbered pending assigned)
    (hleast : ∀ (i : ℕ) (entry : PendingAclEntry), pending[i]? = some entry →
      entry.sequence = none → ∃ numbered, assigned[i]? = some numbered ∧
        IsLeast (openNumbers (assigned.take i)) numbered.sequence)
    (hopen : ∀ earlier n, n ∈ openNumbers earlier →
      n ∉ explicitSequences pending ∧ ∀ other ∈ earlier, n ≠ other.sequence) :
    Allocation openNumbers pending assigned := by
  -- What is allocated differs from what is written out and from what came before.
  have hopenAt : ∀ (i : ℕ) (entry : PendingAclEntry) (numbered : NormalizedAclEntry),
      pending[i]? = some entry → entry.sequence = none → assigned[i]? = some numbered →
        numbered.sequence ∉ explicitSequences pending ∧
          ∀ other ∈ assigned.take i, numbered.sequence ≠ other.sequence := by
    intro i entry numbered hentry hnone hnumbered
    obtain ⟨found, hfound, hleast⟩ := hleast i entry hentry hnone
    obtain rfl : numbered = found := Option.some.inj (hnumbered.symm.trans hfound)
    exact hopen _ _ hleast.1
  have hbefore : ∀ {i j : ℕ} {other : NormalizedAclEntry}, j < i → assigned[j]? = some other →
      other ∈ assigned.take i := by
    intro i j other hlt hother
    exact List.mem_of_getElem? (i := j) (by rw [List.getElem?_take, if_pos hlt, hother])
  refine ⟨hkept, hleast, fun i j entry numbered other hentry hnone hnumbered hother hne => ?_⟩
  obtain ⟨otherEntry, hotherEntry, sequence, hsequence, hwritten⟩ :=
    isNumbered_of_kept hkept hother
  cases hcase : otherEntry.sequence with
  | some written =>
      obtain rfl := hwritten written hcase
      have hnot := (hopenAt i entry numbered hentry hnone hnumbered).1
      intro heq
      rw [heq, hsequence] at hnot
      exact hnot (mem_explicitSequences hotherEntry hcase)
  | none =>
      rcases Nat.lt_or_gt_of_ne hne with hlt | hgt
      · exact ((hopenAt j otherEntry other hotherEntry hcase hother).2 numbered
          (hbefore hlt hnumbered)).symm
      · exact (hopenAt i entry numbered hentry hnone hnumbered).2 other (hbefore hgt hother)

end

namespace CiscoAdapter

/-- The numbers open to an entry without one: the positive multiples of 10 above every
number assigned so far that are not written out. -/
def openNumbers (pending : List PendingAclEntry) (earlier : List NormalizedAclEntry) : Set ℤ :=
  {n | 10 ∣ n ∧ 0 < n ∧ (∀ entry ∈ earlier, entry.sequence < n) ∧ n ∉ explicitSequences pending}

theorem assign_kept (used : List ℤ) (greatestAssigned : ℤ) (pending : List PendingAclEntry) :
    List.Forall₂ PendingAclEntry.IsNumbered pending (assign used greatestAssigned pending) := by
  induction pending generalizing used greatestAssigned with
  | nil => exact .nil
  | cons entry rest ih =>
      unfold assign
      split
      · next sequence hsequence =>
          refine .cons ⟨sequence, rfl, fun written hwritten => ?_⟩ (ih _ _)
          exact Option.some.inj (hsequence.symm.trans hwritten)
      · next hsequence =>
          refine .cons ⟨_, rfl, fun written hwritten => ?_⟩ (ih _ _)
          rw [hsequence] at hwritten
          cases hwritten

/-- **One allocation**: the search goes on from the greatest number assigned, above which
only what is written out is in use. -/
theorem firstFree_isLeast_above {written used : List ℤ} {greatestAssigned : ℤ}
    (hused : ∀ n, greatestAssigned < n → (n ∈ used ↔ n ∈ written)) :
    IsLeast {n | 10 ∣ n ∧ greatestAssigned < n ∧ n ∉ written}
      (firstFree used ((greatestAssigned / 10 + 1) * 10)) := by
  have hmultiple : 10 ∣ (greatestAssigned / 10 + 1) * 10 := Int.dvd_mul_left _ _
  obtain ⟨⟨hten, hle, hfree⟩, hleast⟩ := firstFree_isLeast used hmultiple
  have habove : greatestAssigned < firstFree used ((greatestAssigned / 10 + 1) * 10) := by omega
  refine ⟨⟨hten, habove, fun hmem => hfree ((hused _ habove).2 hmem)⟩, ?_⟩
  rintro n ⟨hdvd, hlt, hnot⟩
  exact hleast ⟨hdvd, by omega, fun hmem => hnot ((hused n hlt).1 hmem)⟩

/-- **The run of the loop**: each entry without a number gets the least above the greatest
assigned at the start and above those assigned since. -/
theorem assign_least {written : List ℤ} (pending : List PendingAclEntry) :
    ∀ {used : List ℤ} {greatestAssigned : ℤ},
      (∀ n, greatestAssigned < n → (n ∈ used ↔ n ∈ written)) →
      ∀ (i : ℕ) (entry : PendingAclEntry), pending[i]? = some entry → entry.sequence = none →
        ∃ numbered, (assign used greatestAssigned pending)[i]? = some numbered ∧
          IsLeast {n | 10 ∣ n ∧ greatestAssigned < n ∧
            (∀ earlier ∈ (assign used greatestAssigned pending).take i, earlier.sequence < n) ∧
            n ∉ written} numbered.sequence := by
  induction pending with
  | nil =>
      intro used greatestAssigned _ i entry hentry
      simp at hentry
  | cons first rest ih =>
      intro used greatestAssigned hused i entry hentry hnone
      -- The entries after the first, whatever number that one got.
      have hlater : ∀ (used' : List ℤ) (sequence : ℤ),
          (∀ n, max greatestAssigned sequence < n → (n ∈ used' ↔ n ∈ written)) →
          ∀ j, rest[j]? = some entry → ∃ numbered,
            (assign used' (max greatestAssigned sequence) rest)[j]? = some numbered ∧
              IsLeast {n | 10 ∣ n ∧ greatestAssigned < n ∧
                (∀ earlier ∈ first.numbered sequence ::
                  (assign used' (max greatestAssigned sequence) rest).take j,
                    earlier.sequence < n) ∧ n ∉ written} numbered.sequence := by
        intro used' sequence hused' j hj
        obtain ⟨numbered, hget, hleast⟩ := ih hused' j entry hj hnone
        refine ⟨numbered, hget, isLeast_of_iff (fun n => ?_) hleast⟩
        rw [List.forall_mem_cons, max_lt_iff, PendingAclEntry.numbered]
        tauto
      cases i with
      | zero =>
          obtain rfl : first = entry := by simpa using hentry
          refine ⟨first.numbered _, by rw [assign, hnone, List.getElem?_cons_zero], ?_⟩
          refine isLeast_of_iff (fun n => ?_) (firstFree_isLeast_above hused)
          simp only [List.take_zero, List.not_mem_nil, false_implies, implies_true, true_and]
      | succ i =>
          have hrest : rest[i]? = some entry := by simpa using hentry
          unfold assign
          split
          · next sequence hsequence =>
              refine hlater used sequence (fun n hn => hused n ?_) i hrest
              exact (le_max_left _ _).trans_lt hn
          · next hsequence =>
              refine hlater (_ :: used) _ (fun n hn => ?_) i hrest
              rw [List.mem_cons, hused n ((le_max_left _ _).trans_lt hn)]
              refine or_iff_right fun heq => ?_
              exact absurd ((le_max_right _ _).trans_lt hn) (by rw [heq]; exact lt_irrefl _)

/-- **What the Cisco adapter allocates**, before it sorts. -/
theorem assign_allocation (pending : List PendingAclEntry) :
    Allocation (openNumbers pending) pending (assign (explicitSequences pending) 0 pending) := by
  refine Allocation.of_least (assign_kept _ _ _) (assign_least pending fun n _ => Iff.rfl) ?_
  rintro earlier n ⟨-, -, habove, hnot⟩
  exact ⟨hnot, fun other hother => (habove other hother).ne'⟩

/-- The entries come sorted by their numbers. -/
theorem finalizeAclEntries_sorted (pending : List PendingAclEntry) :
    (finalizeAclEntries pending).Pairwise fun a b => a.sequence ≤ b.sequence :=
  Library.Sorting.pairwise_insertionSort_of_key (fun _ _ => Iff.rfl) _

end CiscoAdapter

namespace AristaAdapter

/-- The numbers open to an entry without one: the positive multiples of 10 that are neither
written out nor assigned. -/
def openNumbers (pending : List PendingAclEntry) (earlier : List NormalizedAclEntry) : Set ℤ :=
  {n | 10 ∣ n ∧ 0 < n ∧ n ∉ explicitSequences pending ∧ ∀ entry ∈ earlier, n ≠ entry.sequence}

theorem assign_kept (used : List ℤ) (pending : List PendingAclEntry) :
    List.Forall₂ PendingAclEntry.IsNumbered pending (assign used pending) := by
  induction pending generalizing used with
  | nil => exact .nil
  | cons entry rest ih =>
      unfold assign
      split
      · next sequence hsequence =>
          refine .cons ⟨sequence, rfl, fun written hwritten => ?_⟩ (ih _)
          exact Option.some.inj (hsequence.symm.trans hwritten)
      · next hsequence =>
          refine .cons ⟨_, rfl, fun written hwritten => ?_⟩ (ih _)
          rw [hsequence] at hwritten
          cases hwritten

/-- **The run of the loop**: each entry without a number gets the least that was not in use
at the start and was not assigned since. -/
theorem assign_least (pending : List PendingAclEntry) :
    ∀ {used : List ℤ}, (∀ n ∈ explicitSequences pending, n ∈ used) →
      ∀ (i : ℕ) (entry : PendingAclEntry), pending[i]? = some entry → entry.sequence = none →
        ∃ numbered, (assign used pending)[i]? = some numbered ∧
          IsLeast {n | 10 ∣ n ∧ 0 < n ∧ n ∉ used ∧
            ∀ earlier ∈ (assign used pending).take i, n ≠ earlier.sequence} numbered.sequence := by
  induction pending with
  | nil =>
      intro used _ i entry hentry
      simp at hentry
  | cons first rest ih =>
      intro used hused i entry hentry hnone
      cases i with
      | zero =>
          obtain rfl : first = entry := by simpa using hentry
          refine ⟨first.numbered _, by rw [assign, hnone, List.getElem?_cons_zero], ?_⟩
          refine isLeast_of_iff (fun n => ?_) (firstFree_isLeast used (Int.dvd_refl 10))
          simp only [List.take_zero, List.not_mem_nil, false_implies, implies_true, and_true]
          constructor
          · rintro ⟨hdvd, hle, hnot⟩
            exact ⟨hdvd, by omega, hnot⟩
          · rintro ⟨hdvd, hpos, hnot⟩
            exact ⟨hdvd, by omega, hnot⟩
      | succ i =>
          have hrest : rest[i]? = some entry := by simpa using hentry
          unfold assign
          split
          · next sequence hsequence =>
              -- The written number was in use already.
              have hmem : sequence ∈ used := hused sequence (by simp [explicitSequences, hsequence])
              have hexplicit : ∀ n ∈ explicitSequences rest, n ∈ used :=
                fun n hn => hused n (mem_explicitSequences_cons hn)
              obtain ⟨numbered, hget, hleast⟩ := ih hexplicit i entry hrest hnone
              refine ⟨numbered, hget, isLeast_of_iff (fun n => ?_) hleast⟩
              rw [List.take_succ_cons, List.forall_mem_cons, PendingAclEntry.numbered]
              constructor
              · rintro ⟨hdvd, hpos, hnot, hall⟩
                exact ⟨hdvd, hpos, hnot, fun heq => hnot (heq ▸ hmem), hall⟩
              · rintro ⟨hdvd, hpos, hnot, -, hall⟩
                exact ⟨hdvd, hpos, hnot, hall⟩
          · next hsequence =>
              have hexplicit : ∀ n ∈ explicitSequences rest, n ∈ firstFree used 10 :: used :=
                fun n hn => List.mem_cons_of_mem _ (hused n (mem_explicitSequences_cons hn))
              obtain ⟨numbered, hget, hleast⟩ := ih hexplicit i entry hrest hnone
              refine ⟨numbered, hget, isLeast_of_iff (fun n => ?_) hleast⟩
              rw [List.take_succ_cons, List.forall_mem_cons, PendingAclEntry.numbered,
                List.mem_cons, not_or]
              tauto

/-- **What the Arista adapter allocates.** -/
theorem finalizeAclEntries_allocation (pending : List PendingAclEntry) :
    Allocation (openNumbers pending) pending (finalizeAclEntries pending) := by
  refine Allocation.of_least (assign_kept _ _) (assign_least pending fun _ hn => hn) ?_
  rintro earlier n ⟨-, -, hnot, hne⟩
  exact ⟨hnot, hne⟩

end AristaAdapter

/-- **Both adapters end, keep every entry and written number, and allocate the least open
number.**  The Cisco adapter sorts what it has numbered, the Arista adapter keeps it in the
order of the text. -/
theorem finalizeAclEntries_allocates (pending : List PendingAclEntry) :
    (∀ (used : List ℤ) (candidate : ℤ), ∃ rounds : ℕ,
      firstFree used candidate = candidate + 10 * (rounds : ℤ) ∧
        candidate + 10 * (rounds : ℤ) ∉ used ∧
        ∀ i < rounds, candidate + 10 * (i : ℤ) ∈ used) ∧
      (∃ assigned, Allocation (CiscoAdapter.openNumbers pending) pending assigned ∧
        (CiscoAdapter.finalizeAclEntries pending).Perm assigned ∧
        (CiscoAdapter.finalizeAclEntries pending).Pairwise fun a b => a.sequence ≤ b.sequence) ∧
      Allocation (AristaAdapter.openNumbers pending) pending
        (AristaAdapter.finalizeAclEntries pending) :=
  ⟨firstFree_ends,
    ⟨_, CiscoAdapter.assign_allocation pending, List.perm_insertionSort _ _,
      CiscoAdapter.finalizeAclEntries_sorted pending⟩,
    AristaAdapter.finalizeAclEntries_allocation pending⟩

/-- An entry of no interest but for its number. -/
def permitAny (sequence : Option ℤ) : PendingAclEntry := ⟨sequence, .permit, "ip", "any", "any"⟩

/-- The numbers that would be open if nothing kept them above 0. -/
def exceedingNumbers (pending : List PendingAclEntry) (earlier : List NormalizedAclEntry) :
    Set ℤ :=
  {n | 10 ∣ n ∧ (∀ entry ∈ earlier, entry.sequence < n) ∧ n ∉ explicitSequences pending}

theorem not_allocation_exceedingNumbers :
    ∀ pending ∈ [[permitAny none], [permitAny (some (-50)), permitAny none]],
      ¬ ∃ assigned, Allocation (exceedingNumbers pending) pending assigned ∧
        (CiscoAdapter.finalizeAclEntries pending).Perm assigned := by
  intro pending hmem ⟨assigned, hallocation, hperm⟩
  have hnumbers : ∀ numbered ∈ assigned,
      numbered.sequence ∈ (CiscoAdapter.finalizeAclEntries pending).map (·.sequence) :=
    fun numbered hnumbered => List.mem_map_of_mem (hperm.mem_iff.2 hnumbered)
  rw [List.mem_pair] at hmem
  obtain rfl | rfl := hmem
  · obtain ⟨numbered, hget, -, hleast⟩ := hallocation.least 0 (permitAny none) rfl rfl
    have hle : numbered.sequence ≤ 0 := hleast ⟨by decide, by simp, by decide⟩
    have hten : numbered.sequence ∈ [(10 : ℤ)] := hnumbers _ (List.mem_of_getElem? hget)
    simp only [List.mem_singleton] at hten
    omega
  · obtain ⟨numbered, hget, ⟨-, -, hnot⟩, hleast⟩ := hallocation.least 1 (permitAny none) rfl rfl
    -- The entry before has the number it was written with.
    have hearlier : ∀ entry ∈ assigned.take 1, entry.sequence < -40 := by
      intro entry hentry
      obtain ⟨j, hj⟩ := List.getElem?_of_mem hentry
      rw [List.getElem?_take] at hj
      split_ifs at hj with hlt
      obtain rfl : j = 0 := by omega
      obtain ⟨first, hfirst, sequence, rfl, hwritten⟩ := isNumbered_of_kept hallocation.kept hj
      obtain rfl : permitAny (some (-50)) = first := by simpa using hfirst
      obtain rfl := hwritten (-50) rfl
      decide
    have hle : numbered.sequence ≤ -40 := hleast ⟨by decide, hearlier, by decide⟩
    have hten : numbered.sequence ∈ [(-50 : ℤ), 10] := hnumbers _ (List.mem_of_getElem? hget)
    rw [List.mem_pair] at hten
    obtain hfifty | hten := hten
    · rw [hfifty] at hnot
      exact hnot (by decide)
    · omega

/-- The Cisco adapter starts above 0, whatever came before: with nothing before it an entry
gets 10, where 0 exceeds all of nothing, and after a written -50 it gets 10, not -40. -/
theorem finalizeAclEntries_startsAboveZero :
    (¬ ∃ assigned, Allocation (exceedingNumbers [permitAny none]) [permitAny none] assigned ∧
      (CiscoAdapter.finalizeAclEntries [permitAny none]).Perm assigned) ∧
    ¬ ∃ assigned, Allocation (exceedingNumbers [permitAny (some (-50)), permitAny none])
      [permitAny (some (-50)), permitAny none] assigned ∧
      (CiscoAdapter.finalizeAclEntries [permitAny (some (-50)), permitAny none]).Perm assigned :=
  ⟨not_allocation_exceedingNumbers _ (List.mem_cons_self ..),
    not_allocation_exceedingNumbers _ (List.mem_cons_of_mem _ (List.mem_cons_self ..))⟩

end MetaRne
