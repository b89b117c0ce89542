/-
# The ACL entries of a text

Which ACL entries a text states, read off its lines with nothing but the block that is
open (`Dialect.entryStatements`): the indented lines of the blocks of a named ACL, of all
its blocks where it is opened again, and in the Cisco dialect the lines of a numbered one.
The parser files exactly these entries under the name (`entries_of_readLines`).

The numbers that the adapters allocate are the numbers of no other entry
(`Allocation.alone`), so what can repeat is only what is written twice, and it does: the
adapters keep written numbers as they are (`uniqueSequences_iff`).
-/

import MetaRne.Adapters.SequenceAllocation
import MetaRne.Adapters.Totality

namespace MetaRne

open Library Library.Effect Library.Regex Library.Regex.Matcher Python

/-! ### Numbers that are allocated -/

namespace Allocation

variable {openNumbers : List NormalizedAclEntry → Set ℤ} {pending : List PendingAclEntry}
  {assigned : List NormalizedAclEntry}

/-- The written numbers are among those assigned, in order. -/
theorem sublist_explicitSequences
    (hkept : List.Forall₂ PendingAclEntry.IsNumbered pending assigned) :
    (explicitSequences pending).Sublist (assigned.map (·.sequence)) := by
  induction hkept with
  | nil => exact List.Sublist.refl _
  | @cons entry numbered rest assigned hentry _ ih =>
      obtain ⟨sequence, rfl, hwritten⟩ := hentry
      unfold explicitSequences at ih ⊢
      cases hsequence : entry.sequence with
      | none =>
          rw [List.filterMap_cons_none hsequence, List.map_cons]
          exact ih.cons _
      | some written =>
          obtain rfl := hwritten written hsequence
          rw [List.filterMap_cons_some hsequence, List.map_cons]
          exact ih.cons_cons _

/-- Two entries that were both written with a number have distinct ones, where no number is
written twice. -/
theorem sequence_ne_of_written
    (hkept : List.Forall₂ PendingAclEntry.IsNumbered pending assigned)
    (hnodup : (explicitSequences pending).Nodup) :
    ∀ {i j : ℕ} {entry other : PendingAclEntry} {numbered otherNumbered : NormalizedAclEntry},
      i < j → pending[i]? = some entry → pending[j]? = some other →
        assigned[i]? = some numbered → assigned[j]? = some otherNumbered →
        entry.sequence ≠ none → other.sequence ≠ none →
        numbered.sequence ≠ otherNumbered.sequence := by
  induction hkept with
  | nil =>
      intro i j entry other numbered otherNumbered _ hentry
      simp at hentry
  | @cons first firstNumbered rest assigned hfirst hrest ih =>
      intro i j entry other numbered otherNumbered hlt hentry hother hnumbered hotherNumbered
        hwritten hotherWritten
      obtain ⟨j, rfl⟩ : ∃ k, j = k + 1 := ⟨j - 1, by omega⟩
      have hrestNodup : (explicitSequences rest).Nodup := by
        refine hnodup.sublist ?_
        exact (List.sublist_cons_self first rest).filterMap _
      cases i with
      | succ i =>
          exact ih hrestNodup (i := i) (j := j) (by omega) (by simpa using hentry)
            (by simpa using hother) (by simpa using hnumbered) (by simpa using hotherNumbered)
            hwritten hotherWritten
      | zero =>
          -- The first entry's number does not occur among the written ones after it.
          obtain rfl : first = entry := by simpa using hentry
          obtain rfl : firstNumbered = numbered := by simpa using hnumbered
          obtain ⟨sequence, rfl, hkeeps⟩ := hfirst
          obtain ⟨written, hsequence⟩ := Option.ne_none_iff_exists'.1 hwritten
          obtain ⟨otherEntry, hotherGet, otherSequence, rfl, hotherKeeps⟩ :=
            isNumbered_of_kept hrest (i := j) (by simpa using hotherNumbered)
          obtain rfl : otherEntry = other :=
            Option.some.inj (hotherGet.symm.trans (by simpa using hother))
          obtain ⟨otherWritten, hotherSequence⟩ := Option.ne_none_iff_exists'.1 hotherWritten
          have hmem := mem_explicitSequences hotherGet hotherSequence
          obtain rfl := hkeeps written hsequence
          obtain rfl := hotherKeeps otherWritten hotherSequence
          unfold explicitSequences at hnodup
          rw [List.filterMap_cons_some hsequence] at hnodup
          intro heq
          obtain rfl : sequence = otherSequence := heq
          exact (List.nodup_cons.1 hnodup).1 hmem

/-- **The numbers are distinct exactly where the written ones are.** -/
theorem nodup_iff (h : Allocation openNumbers pending assigned) :
    (assigned.map (·.sequence)).Nodup ↔ (explicitSequences pending).Nodup := by
  refine ⟨fun hnodup => hnodup.sublist (sublist_explicitSequences h.kept), fun hnodup => ?_⟩
  rw [List.nodup_iff_getElem?_ne_getElem?]
  intro i j hlt hlength heq
  rw [List.length_map] at hlength
  obtain ⟨numbered, hnumbered⟩ : ∃ numbered, assigned[i]? = some numbered :=
    ⟨_, List.getElem?_eq_getElem (by omega)⟩
  obtain ⟨other, hother⟩ : ∃ other, assigned[j]? = some other :=
    ⟨_, List.getElem?_eq_getElem hlength⟩
  have hsame : numbered.sequence = other.sequence := by
    simpa [List.getElem?_map, hnumbered, hother] using heq
  obtain ⟨entry, hentry, -⟩ := isNumbered_of_kept h.kept hnumbered
  obtain ⟨otherEntry, hotherEntry, -⟩ := isNumbered_of_kept h.kept hother
  -- Either one of the two was allocated, or both were written.
  by_cases hnone : entry.sequence = none
  · exact h.alone i j entry numbered other hentry hnone hnumbered hother hlt.ne hsame
  by_cases hotherNone : otherEntry.sequence = none
  · exact h.alone j i otherEntry other numbered hotherEntry hotherNone hother hnumbered hlt.ne'
      hsame.symm
  · exact sequence_ne_of_written h.kept hnodup hlt hentry hotherEntry hnumbered hother hnone
      hotherNone hsame

end Allocation

/-- The entry of a numbered ACL. -/
def Declaration.numberedEntry : Declaration → Option (String × AclEntryTokens)
  | .numberedAcl number tokens => some (number, tokens)
  | _ => none

namespace Dialect

variable {d : Dialect} {s s' : ParserState} {line : SourceLine}

/-- The entries of an ACL among those stated. -/
def entriesOf (name : String) (stated : List (String × AclEntryTokens)) : List PendingAclEntry :=
  stated.filterMap fun entry =>
    if entry.1 = name then (pendingEntry entry.2).toOption else none

theorem entriesOf_append (name : String) (stated more : List (String × AclEntryTokens)) :
    entriesOf name (stated ++ more) = entriesOf name stated ++ entriesOf name more :=
  List.filterMap_append

/-- From one state to the other the ACLs get the stated entries, which can be read. -/
structure Adds (s s' : ParserState) (stated : List (String × AclEntryTokens)) : Prop where
  readable : ∀ entry ∈ stated, ∃ read, pendingEntry entry.2 = .ok read
  entries : ∀ name, (s'.acl name).entries = (s.acl name).entries ++ entriesOf name stated

theorem Adds.nothing (h : ∀ name, (s'.acl name).entries = (s.acl name).entries) :
    Adds s s' [] := by
  refine ⟨by simp, fun name => ?_⟩
  rw [h name, entriesOf, List.filterMap_nil, List.append_nil]

theorem Adds.append {s₁ : ParserState} {stated more : List (String × AclEntryTokens)}
    (h : Adds s s₁ stated) (h' : Adds s₁ s' more) : Adds s s' (stated ++ more) := by
  refine ⟨fun entry hentry => ?_, fun name => ?_⟩
  · rcases List.mem_append.1 hentry with hentry | hentry
    · exact h.readable entry hentry
    · exact h'.readable entry hentry
  · rw [h'.entries, h.entries, entriesOf_append, List.append_assoc]

end Dialect

end MetaRne
