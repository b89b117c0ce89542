/-
# The hooks of the network views

`hooks/useNetworkState.ts` and `hooks/useNetworkDiagnosis.ts`: two clients that poll
`GET /network/state` and `GET /network/diagnosis` with the same bookkeeping
(`Library.Polling`) and differ in what they make of their view.

Both follow the polling protocol in every run.  After a component is unmounted its
requests no longer count, so a view that was refreshing stays so
(`isRefreshing_after_unmount`): it is about a mounted component that a view which is
refreshing has a request outstanding.
-/

import MetaRne.Frontend.Reconcile
import MetaRne.Library.Polling

namespace MetaRne
namespace Frontend

open Library Library.Polling

/-! ### Errors -/

/-- `MALFORMED_RESPONSE_MESSAGE`. -/
def malformedResponseMessage : String :=
  "The server returned a response that could not be understood."

/-- `NETWORK_ERROR_MESSAGE`. -/
def networkErrorMessage : String :=
  "Could not reach the Meta RNE API. Check your connection and retry."

/-- What a request that was not aborted fails with. -/
inductive FetchError
  | apiRequest (message : String) (code : Option String)
  | other
  deriving DecidableEq

inductive NetworkErrorKind
  | unreachable
  | malformed
  | api
  deriving DecidableEq

structure NetworkStateError where
  kind : NetworkErrorKind
  message : String
  deriving DecidableEq

def classifyNetworkError : FetchError → NetworkStateError
  | .apiRequest message _ => ⟨if message = malformedResponseMessage then .malformed else .api, message⟩
  | .other => ⟨.unreachable, networkErrorMessage⟩

def isOperationalStateNotFound : FetchError → Bool
  | .apiRequest _ code => code == some "operational_state_not_found"
  | .other => false

/-! ### `useNetworkState` -/

inductive NetworkStateViewState
  | loading
  | noSnapshot (isRefreshing : Bool) (lastUpdatedAt : String)
  | success (data : NetworkStateResponse) (lastUpdatedAt : String) (isRefreshing : Bool)
      (refreshError : Option NetworkStateError)
  | error (error : NetworkStateError)
  deriving DecidableEq

namespace NetworkStateViewState

/-- The snapshot that is shown. -/
def data? : NetworkStateViewState → Option NetworkStateResponse
  | success data _ _ _ => some data
  | _ => none

def isRefreshing : NetworkStateViewState → Bool
  | noSnapshot isRefreshing _ => isRefreshing
  | success _ _ isRefreshing _ => isRefreshing
  | _ => false

end NetworkStateViewState

/-- A value with the client time at which its request completed. -/
structure Completed (α : Type) where
  value : α
  completedAt : String
  deriving DecidableEq

namespace UseNetworkState

def onRefresh : NetworkStateViewState → NetworkStateViewState
  | .success data lastUpdatedAt _ refreshError => .success data lastUpdatedAt true refreshError
  | .noSnapshot _ lastUpdatedAt => .noSnapshot true lastUpdatedAt
  | _ => .loading

def onSuccess (incoming : Completed NetworkStateResponse) (previous : NetworkStateViewState) :
    NetworkStateViewState :=
  .success (reconcileNetworkState previous.data? incoming.value) incoming.completedAt false none

/-- A snapshot cannot disappear: it is kept, and flagged. -/
def onFailure (error : Completed FetchError) : NetworkStateViewState → NetworkStateViewState
  | .success data lastUpdatedAt _ _ =>
    .success data lastUpdatedAt false (some (classifyNetworkError error.value))
  | _ =>
    if isOperationalStateNotFound error.value then .noSnapshot false error.completedAt
    else .error (classifyNetworkError error.value)

end UseNetworkState

/-- `useNetworkState`. -/
def useNetworkState :
    Client NetworkStateViewState (Completed NetworkStateResponse) (Completed FetchError) where
  onRefresh := UseNetworkState.onRefresh
  onSuccess := UseNetworkState.onSuccess
  onFailure := fun _ error previous => UseNetworkState.onFailure error previous

/-! ### `useNetworkDiagnosis` -/

inductive NetworkDiagnosisViewState
  | loading
  | noSnapshot
  | success (data : NetworkDiagnosisResponse) (refreshError : Option NetworkStateError)
  | error (error : NetworkStateError)

/-- The response that is shown. -/
def NetworkDiagnosisViewState.data? :
    NetworkDiagnosisViewState → Option NetworkDiagnosisResponse
  | success data _ => some data
  | _ => none

namespace UseNetworkDiagnosis

def onSuccess (incoming : NetworkDiagnosisResponse) (previous : NetworkDiagnosisViewState) :
    NetworkDiagnosisViewState :=
  .success (reconcileNetworkDiagnosis previous.data? incoming) none

def onFailure (error : FetchError) : NetworkDiagnosisViewState → NetworkDiagnosisViewState
  | .success data _ => .success data (some (classifyNetworkError error))
  | _ =>
    if isOperationalStateNotFound error then .noSnapshot else .error (classifyNetworkError error)

end UseNetworkDiagnosis

/-- `useNetworkDiagnosis`; a refresh only begins a new request. -/
def useNetworkDiagnosis :
    Client NetworkDiagnosisViewState NetworkDiagnosisResponse FetchError where
  onRefresh := fun previous => previous
  onSuccess := UseNetworkDiagnosis.onSuccess
  onFailure := fun _ error previous => UseNetworkDiagnosis.onFailure error previous

/-! ### What both keep -/

/-- One response is not of an earlier instant than another. -/
def NetworkStateResponse.NotBefore (a b : NetworkStateResponse) : Prop :=
  a.collectedAt.instant ≤ b.collectedAt.instant

def NetworkDiagnosisResponse.NotBefore (a b : NetworkDiagnosisResponse) : Prop :=
  a.collectedAt.instant ≤ b.collectedAt.instant

theorem useNetworkState_keeps :
    useNetworkState.Keeps NetworkStateViewState.data? NetworkStateResponse.NotBefore
      NetworkStateViewState.isRefreshing where
  refl := fun data => le_refl data.collectedAt.instant
  trans := fun _ _ _ hab hbc => le_trans hab hbc
  refresh := fun view => by
    cases view with
    | success data lastUpdatedAt isRefreshing refreshError => rfl
    | _ => rfl
  success := fun incoming view data h => by
    refine ⟨_, rfl, ?_⟩
    show data.collectedAt.instant ≤
      (reconcileNetworkState view.data? incoming.value).collectedAt.instant
    rw [h]
    exact @le_reconcile _ (fun r : NetworkStateResponse => r.collectedAt.instant) _ data
      incoming.value
  failure := fun background error view data h => by
    cases view with
    | success data' lastUpdatedAt isRefreshing refreshError => exact h
    | _ => cases h
  success_idle := fun incoming view => rfl
  failure_idle := fun background error view => by
    cases view with
    | success data lastUpdatedAt isRefreshing refreshError => rfl
    | _ =>
        show (if isOperationalStateNotFound error.value then
          NetworkStateViewState.noSnapshot false error.completedAt
          else .error (classifyNetworkError error.value)).isRefreshing = false
        split
        · rfl
        · rfl

theorem useNetworkDiagnosis_keeps :
    useNetworkDiagnosis.Keeps NetworkDiagnosisViewState.data? NetworkDiagnosisResponse.NotBefore
      fun _ => false where
  refl := fun data => le_refl data.collectedAt.instant
  trans := fun _ _ _ hab hbc => le_trans hab hbc
  refresh := fun _ => rfl
  success := fun incoming view data h => by
    refine ⟨_, rfl, ?_⟩
    show data.collectedAt.instant ≤
      (reconcileNetworkDiagnosis view.data? incoming).collectedAt.instant
    rw [h]
    exact @le_reconcile _ (fun r : NetworkDiagnosisResponse => r.collectedAt.instant) _ data
      incoming
  failure := fun background error view data h => by
    cases view with
    | success data' refreshError => exact h
    | _ => cases h
  success_idle := fun _ _ => rfl
  failure_idle := fun _ _ _ => rfl

/-- A failed request leaves a view with a snapshot alone, or ends its refreshing and
sets its error. -/
theorem useNetworkState_failure {s : State NetworkStateViewState} {data : NetworkStateResponse}
    {lastUpdatedAt : String} {isRefreshing : Bool} {refreshError : Option NetworkStateError}
    (h : s.view = .success data lastUpdatedAt isRefreshing refreshError) (number : ℕ)
    (error : Completed FetchError) :
    (step useNetworkState s (.complete number (.failure error))).view = s.view ∨
      (step useNetworkState s (.complete number (.failure error))).view =
        .success data lastUpdatedAt false (some (classifyNetworkError error.value)) := by
  rcases complete_view useNetworkState number (.failure error) s with
    ⟨hview, -⟩ | ⟨-, ⟨response, hreply, -⟩ | ⟨background, error', hreply, hview⟩⟩
  · exact .inl hview
  · cases hreply
  · cases hreply
    rw [h] at hview
    exact .inr hview

theorem useNetworkDiagnosis_failure {s : State NetworkDiagnosisViewState}
    {data : NetworkDiagnosisResponse} {refreshError : Option NetworkStateError}
    (h : s.view = .success data refreshError) (number : ℕ) (error : FetchError) :
    (step useNetworkDiagnosis s (.complete number (.failure error))).view = s.view ∨
      (step useNetworkDiagnosis s (.complete number (.failure error))).view =
        .success data (some (classifyNetworkError error)) := by
  rcases complete_view useNetworkDiagnosis number (.failure error) s with
    ⟨hview, -⟩ | ⟨-, ⟨response, hreply, -⟩ | ⟨background, error', hreply, hview⟩⟩
  · exact .inl hview
  · cases hreply
  · cases hreply
    rw [h] at hview
    exact .inr hview

/-- The runs of the two hooks. -/
def networkStateRun (events : List (Event (Completed NetworkStateResponse) (Completed FetchError))) :
    State NetworkStateViewState :=
  run useNetworkState (initial .loading) events

def networkDiagnosisRun (events : List (Event NetworkDiagnosisResponse FetchError)) :
    State NetworkDiagnosisViewState :=
  run useNetworkDiagnosis (initial .loading) events

/-- **The polling protocol of the network hooks**, in every run of each: only the
completion of the latest request of a mounted component changes its view; while it
is mounted the marker is set, and polls are skipped, exactly while that request is
unanswered, and any answer frees the next poll; a snapshot stays shown, moves only
forward, and after a failed request differs in its error alone; and a view is
refreshing only with the marker set, while mounted only with a request outstanding. -/
theorem networkHooks_protocol :
    ((∀ events, Protocol useNetworkState NetworkStateViewState.data?
          NetworkStateResponse.NotBefore NetworkStateViewState.isRefreshing
          (networkStateRun events)) ∧
        ∀ events data lastUpdatedAt isRefreshing refreshError,
          (networkStateRun events).view =
              .success data lastUpdatedAt isRefreshing refreshError → ∀ number error,
            (step useNetworkState (networkStateRun events)
                (.complete number (.failure error))).view = (networkStateRun events).view ∨
              (step useNetworkState (networkStateRun events)
                (.complete number (.failure error))).view =
                .success data lastUpdatedAt false (some (classifyNetworkError error.value))) ∧
      (∀ events, Protocol useNetworkDiagnosis NetworkDiagnosisViewState.data?
          NetworkDiagnosisResponse.NotBefore (fun _ => false) (networkDiagnosisRun events)) ∧
        ∀ events data refreshError,
          (networkDiagnosisRun events).view = .success data refreshError → ∀ number error,
            (step useNetworkDiagnosis (networkDiagnosisRun events)
                (.complete number (.failure error))).view = (networkDiagnosisRun events).view ∨
              (step useNetworkDiagnosis (networkDiagnosisRun events)
                (.complete number (.failure error))).view =
                .success data (some (classifyNetworkError error)) :=
  ⟨⟨fun events => useNetworkState_keeps.protocol rfl events,
      fun _ _ _ _ _ h number error => useNetworkState_failure h number error⟩,
    fun events => useNetworkDiagnosis_keeps.protocol rfl events,
    fun _ _ _ h number error => useNetworkDiagnosis_failure h number error⟩

/-- A component that is refreshing when it is unmounted stays so when its request has
completed. -/
theorem isRefreshing_after_unmount :
    ¬ ∀ events, (networkStateRun events).view.isRefreshing = true →
      Outstanding (networkStateRun events) := by
  intro h
  have hrun := h [.mount, .complete 1 (.failure ⟨.apiRequest "no operational state"
    (some "operational_state_not_found"), "2026-01-01T00:00:00.000Z"⟩), .refresh, .unmount,
    .complete 2 .aborted]
  exact absurd (hrun (by decide)) (by decide)

end Frontend
end MetaRne
