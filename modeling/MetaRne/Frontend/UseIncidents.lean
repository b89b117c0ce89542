/-
# Reconciling incident lists

`hooks/useIncidents.ts`: which of two versions of one incident to keep, and how a list
that came in is merged with the list that is held.

Of two versions with timestamps that `Date.parse` can read, the one of the greater
`rank` is kept: the later millisecond, then being resolved, then the higher count
(`pickIncident_eq`).
-/

import Mathlib.Data.Prod.Lex
import MetaRne.Frontend.IncidentTypes
import MetaRne.Library.KeyedMerge

namespace MetaRne
namespace Frontend

open Library.KeyedMerge Python

/-- `incident.status === "RESOLVED"`. -/
def IncidentResponse.isResolved (incident : IncidentResponse) : Bool :=
  incident.status == "RESOLVED"

/-- `pickIncident`. -/
def pickIncident (current incoming : IncidentResponse) : IncidentResponse :=
  match dateParse current.updatedAt, dateParse incoming.updatedAt with
  | some currentUpdatedAt, some incomingUpdatedAt =>
    if currentUpdatedAt ≠ incomingUpdatedAt then
      if currentUpdatedAt < incomingUpdatedAt then incoming else current
    else if current.isResolved && !incoming.isResolved then current
    else if incoming.isResolved && !current.isResolved then incoming
    else if current.occurrenceCount ≠ incoming.occurrenceCount then
      if incoming.occurrenceCount < current.occurrenceCount then current else incoming
    else incoming
  | _, _ =>
    if current.isResolved && !incoming.isResolved then current
    else if incoming.isResolved && !current.isResolved then incoming
    else incoming

/-- `mergeIncidentLists`. -/
def mergeIncidentLists (incoming current : List IncidentResponse) : List IncidentResponse :=
  mergeBy IncidentResponse.incidentId pickIncident incoming current

/-- The list that is held after lists came in one after another. -/
def mergedIncidents (lists : List (List IncidentResponse)) : List IncidentResponse :=
  mergeAll IncidentResponse.incidentId pickIncident lists

/-- One of the two is kept. -/
theorem pickIncident_eq_or (current incoming : IncidentResponse) :
    pickIncident current incoming = current ∨ pickIncident current incoming = incoming := by
  unfold pickIncident
  split <;> split_ifs <;> simp only [true_or, or_true]

/-- What is kept of two versions of an incident is a version of it. -/
theorem incidentId_pickIncident (current incoming : IncidentResponse)
    (h : current.incidentId = incoming.incidentId) :
    (pickIncident current incoming).incidentId = incoming.incidentId := by
  rcases pickIncident_eq_or current incoming with hpick | hpick
  · rw [hpick, h]
  · rw [hpick]

/-- What tells how new a version is: its millisecond, then whether it is resolved, then its
count. -/
def rank (instant : ℤ) (incident : IncidentResponse) : ℤ ×ₗ Bool ×ₗ ℕ :=
  toLex (instant, toLex (incident.isResolved, incident.occurrenceCount))

/-- **Of two readable versions the newer one is kept**, and of two equally new ones the
incoming one. -/
theorem pickIncident_eq {current incoming : IncidentResponse} {t u : ℤ}
    (hcurrent : dateParse current.updatedAt = some t)
    (hincoming : dateParse incoming.updatedAt = some u) :
    pickIncident current incoming =
      if rank u incoming < rank t current then current else incoming := by
  simp only [pickIncident, hcurrent, hincoming, rank, Prod.Lex.toLex_lt_toLex]
  by_cases htime : t = u
  · subst htime
    cases hc : current.isResolved <;> cases hi : incoming.isResolved <;>
      by_cases hcount : current.occurrenceCount = incoming.occurrenceCount <;>
      simp [hcount]
  · rcases lt_or_gt_of_ne htime with hlt | hlt
    · have hnot : ¬ u < t := hlt.not_gt
      simp only [ne_eq, htime, not_false_eq_true, if_true, hlt, hnot, Ne.symm htime, false_and,
        or_false, if_false]
    · have hnot : ¬ t < u := hlt.not_gt
      simp only [ne_eq, htime, not_false_eq_true, if_true, hlt, hnot, true_or, if_false]

/-- Of two versions that are told apart by their ranks the newer one is kept, from either
side. -/
theorem pickIncident_of_rank_lt {older newer : IncidentResponse} {t u : ℤ}
    (holder : dateParse older.updatedAt = some t) (hnewer : dateParse newer.updatedAt = some u)
    (h : rank t older < rank u newer) :
    pickIncident older newer = newer ∧ pickIncident newer older = newer := by
  rw [pickIncident_eq holder hnewer, pickIncident_eq hnewer holder, if_neg h.not_gt, if_pos h]
  exact ⟨rfl, rfl⟩

theorem pickIncident_self (incident : IncidentResponse) :
    pickIncident incident incident = incident :=
  (pickIncident_eq_or incident incident).elim id id

end Frontend
end MetaRne
