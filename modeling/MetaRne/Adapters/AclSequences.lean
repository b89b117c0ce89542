/-
# ACL sequence numbers

How each adapter numbers the entries of an ACL that were written without a
sequence number.  Both avoid every number written in the block, before or after.
The Cisco adapter goes on from the greatest number it has assigned and sorts the
entries; the Arista adapter starts at 10 for each and keeps the written order.

The search for a free number is bounded by how many numbers are in use
(`firstFree_not_mem`), so it is the unbounded loop of the source.
-/

import Mathlib.Data.List.Sort
import Mathlib.Data.Finset.Card
import MetaRne.Domain.Config

namespace MetaRne

/-- `_PendingAclEntry`. -/
structure PendingAclEntry where
  sequence : Option ℤ
  action : AclAction
  protocol : String
  source : String
  destination : String
  deriving DecidableEq, Repr

/-- The entry under the sequence number it got. -/
def PendingAclEntry.numbered (entry : PendingAclEntry) (sequence : ℤ) : NormalizedAclEntry :=
  ⟨sequence, entry.action, entry.protocol, entry.source, entry.destination⟩

/-- The sequence numbers that are written out. -/
def explicitSequences (pending : List PendingAclEntry) : List ℤ :=
  pending.filterMap (·.sequence)

/-- `while candidate in used: candidate += 10`, for so many rounds. -/
def firstFreeWithin (used : List ℤ) (candidate : ℤ) : ℕ → ℤ
  | 0 => candidate
  | rounds + 1 =>
    if candidate ∈ used then firstFreeWithin used (candidate + 10) rounds else candidate

/-- `while candidate in used: candidate += 10`. -/
def firstFree (used : List ℤ) (candidate : ℤ) : ℤ := firstFreeWithin used candidate used.length

/-- A search that ends at a used number has gone over as many used numbers as it had rounds. -/
theorem firstFreeWithin_spec (used : List ℤ) (candidate : ℤ) (rounds : ℕ)
    (h : firstFreeWithin used candidate rounds ∈ used) :
    ∀ i ≤ rounds, candidate + 10 * (i : ℤ) ∈ used := by
  induction rounds generalizing candidate with
  | zero =>
      intro i hi
      obtain rfl := Nat.le_zero.1 hi
      simpa [firstFreeWithin] using h
  | succ rounds ih =>
      unfold firstFreeWithin at h
      split_ifs at h with hused
      · intro i hi
        cases i with
        | zero => simpa using hused
        | succ i =>
            have hnext := ih (candidate + 10) h i (by omega)
            rw [show candidate + 10 * ((i + 1 : ℕ) : ℤ) = candidate + 10 + 10 * (i : ℤ) by omega]
            exact hnext
      · exact absurd h hused

/-- **The search ends at a free number**: it has a round for each used number. -/
theorem firstFree_not_mem (used : List ℤ) (candidate : ℤ) : firstFree used candidate ∉ used := by
  intro hmem
  have hall := firstFreeWithin_spec used candidate used.length hmem
  -- The numbers gone over are distinct, and one more than there are used ones.
  have hsub : (Finset.range (used.length + 1)).image (fun i : ℕ => candidate + 10 * (i : ℤ)) ⊆
      used.toFinset := by
    intro n hn
    obtain ⟨i, hi, rfl⟩ := Finset.mem_image.1 hn
    exact List.mem_toFinset.2 (hall i (by rw [Finset.mem_range] at hi; omega))
  have hcard := Finset.card_le_card hsub
  have hinjective : Function.Injective fun i : ℕ => candidate + 10 * (i : ℤ) := by
    intro i j hij
    change candidate + 10 * (i : ℤ) = candidate + 10 * (j : ℤ) at hij
    omega
  rw [Finset.card_image_of_injective _ hinjective, Finset.card_range] at hcard
  have hle := List.toFinset_card_le used
  omega

namespace CiscoAdapter

/-- One entry numbered: the loop keeps the used numbers and the greatest assigned. -/
def assign (used : List ℤ) (greatestAssigned : ℤ) : List PendingAclEntry → List NormalizedAclEntry
  | [] => []
  | entry :: rest =>
    match entry.sequence with
    | some sequence => entry.numbered sequence :: assign used (max greatestAssigned sequence) rest
    | none =>
      let sequence := firstFree used ((greatestAssigned / 10 + 1) * 10)
      entry.numbered sequence :: assign (sequence :: used) (max greatestAssigned sequence) rest

/-- `_finalize_acl_entries`. -/
def finalizeAclEntries (pending : List PendingAclEntry) : List NormalizedAclEntry :=
  (assign (explicitSequences pending) 0 pending).insertionSort fun a b => a.sequence ≤ b.sequence

end CiscoAdapter

namespace AristaAdapter

/-- One entry numbered: the loop keeps the used numbers. -/
def assign (used : List ℤ) : List PendingAclEntry → List NormalizedAclEntry
  | [] => []
  | entry :: rest =>
    match entry.sequence with
    | some sequence => entry.numbered sequence :: assign used rest
    | none =>
      let sequence := firstFree used 10
      entry.numbered sequence :: assign (sequence :: used) rest

/-- `_finalize_acl_entries`. -/
def finalizeAclEntries (pending : List PendingAclEntry) : List NormalizedAclEntry :=
  assign (explicitSequences pending) pending

end AristaAdapter

/-- Entries without a number go around one that is written later. -/
example :
    let entry (sequence : Option ℤ) : PendingAclEntry := ⟨sequence, .permit, "ip", "any", "any"⟩
    (CiscoAdapter.finalizeAclEntries [entry none, entry none, entry (some 20)]).map (·.sequence) =
        [10, 20, 30] ∧
      (AristaAdapter.finalizeAclEntries [entry none, entry none, entry (some 20)]).map
        (·.sequence) = [10, 30, 20] := by
  decide

end MetaRne
