/-
# The hook of the incidents view

`hooks/useIncidents.ts`: `useIncidents`, which fetches the list of incidents, merges what
comes in with what it holds, and resolves incidents by requests of their own.

The list has the bookkeeping of the other hooks (`Library.Polling`).  What differs is that a
failed refresh drops the list, and only a failed poll keeps it.  The resolutions have a map of
active requests, by the incident, that admits one at a time.

`resolveIncident` looks at the last state that was committed (`stateRef`), which may be behind
the state: a commit is an event of its own.
-/

import MetaRne.Frontend.NetworkHooks
import MetaRne.Frontend.UseIncidents
import MetaRne.Library.Dict
import Mathlib.Data.Finset.Basic
import Mathlib.Data.Finset.Insert

namespace MetaRne
namespace Frontend

open Library Library.Polling

/-! ### The list -/

/-- `IncidentsState`. -/
inductive IncidentsState
  | loading
  | success (data : List IncidentResponse) (lastUpdatedAt : String) (isRefreshing : Bool)
      (refreshError : Option String)
  | error (message : String)

namespace IncidentsState

/-- The list that is shown. -/
def data? : IncidentsState → Option (List IncidentResponse)
  | success data _ _ _ => some data
  | _ => none

def isRefreshing : IncidentsState → Bool
  | success _ _ isRefreshing _ => isRefreshing
  | _ => false

end IncidentsState

/-- The message of an error: the server's, if it answered. -/
def errorMessage : FetchError → String
  | .apiRequest message _ => message
  | .other => networkErrorMessage

namespace UseIncidents

def onRefresh : IncidentsState → IncidentsState
  | .success data lastUpdatedAt _ refreshError => .success data lastUpdatedAt true refreshError
  | _ => .loading

def onSuccess (incoming : Completed (List IncidentResponse)) (previous : IncidentsState) :
    IncidentsState :=
  .success (match previous.data? with
    | some current => mergeIncidentLists incoming.value current
    | none => incoming.value) incoming.completedAt false none

/-- A list is kept only if the request was one of the background. -/
def onFailure (background : Bool) (error : FetchError) (previous : IncidentsState) :
    IncidentsState :=
  match background, previous with
  | true, .success data lastUpdatedAt isRefreshing _ =>
    .success data lastUpdatedAt isRefreshing (some (errorMessage error))
  | _, _ => .error (errorMessage error)

end UseIncidents

/-- The client of the list. -/
def useIncidents : Client IncidentsState (Completed (List IncidentResponse)) FetchError where
  onRefresh := UseIncidents.onRefresh
  onSuccess := UseIncidents.onSuccess
  onFailure := UseIncidents.onFailure

/-! ### Resolutions -/

/-- A `POST` that has not completed. -/
structure ResolveRequest where
  controller : ℕ
  incidentId : String
  aborted : Bool
  deriving DecidableEq, Repr

/-- Only an aborted request completes as aborted. -/
def ResolveRequest.mayEnd {ρ ε : Type} (request : ResolveRequest) : Reply ρ ε → Bool
  | .aborted => request.aborted
  | _ => true

/-- The state and the references of the hook, with its requests that have not completed. -/
structure IncidentsHook where
  list : State IncidentsState
  stateRef : IncidentsState
  activeResolutionRequests : Dict String ℕ
  resolvingIds : Finset String
  resolveErrors : Dict String String
  controllers : ℕ
  posts : List ResolveRequest

namespace IncidentsHook

/-- The hook before it is mounted. -/
def initial : IncidentsHook := ⟨Polling.initial .loading, .loading, .empty, ∅, .empty, 0, []⟩

/-- The list that is shown. -/
def shown (hook : IncidentsHook) : Option (List IncidentResponse) := hook.list.view.data?

/-- Whether `resolveIncident` sends a request: the incident is open in the state that was
committed last, and no request of it is active. -/
def mayResolve (hook : IncidentsHook) (incidentId : String) : Bool :=
  match hook.stateRef.data? with
  | none => false
  | some data =>
    match data.find? fun item => item.incidentId == incidentId with
    | none => false
    | some incident =>
      incident.status == "OPEN" && (hook.activeResolutionRequests.get? incidentId).isNone

/-- `resolveIncident`, up to the answer. -/
def resolveIncident (incidentId : String) (hook : IncidentsHook) : IncidentsHook :=
  if hook.mayResolve incidentId then
    { hook with
      activeResolutionRequests := hook.activeResolutionRequests.set incidentId (hook.controllers + 1)
      resolvingIds := insert incidentId hook.resolvingIds
      resolveErrors := hook.resolveErrors.erase incidentId
      controllers := hook.controllers + 1
      posts := hook.posts ++ [⟨hook.controllers + 1, incidentId, false⟩] }
  else hook

/-- The list with a resolved incident in the place of the first one of its id. -/
def withResolved (incidentId : String) (resolved : IncidentResponse)
    (data : List IncidentResponse) : List IncidentResponse :=
  match data.findIdx? fun item => item.incidentId == incidentId with
  | none => data
  | some index => data.modify index fun current => pickIncident current resolved

/-- What a resolved incident does to the state. -/
def onResolved (incidentId : String) (resolved : IncidentResponse) :
    IncidentsState → IncidentsState
  | .success data lastUpdatedAt isRefreshing refreshError =>
    .success (withResolved incidentId resolved data) lastUpdatedAt isRefreshing refreshError
  | previous => previous

/-- A request is no longer active. -/
def clear (incidentId : String) (hook : IncidentsHook) : IncidentsHook :=
  { hook with
    activeResolutionRequests := hook.activeResolutionRequests.erase incidentId
    resolvingIds := hook.resolvingIds.erase incidentId }

/-- Whether an answer still counts: the request is the active one of its incident. -/
def counts (hook : IncidentsHook) (request : ResolveRequest) : Bool :=
  hook.list.isMounted &&
    hook.activeResolutionRequests.get? request.incidentId == some request.controller

/-- What an answer that counts does. -/
def settleResolution (request : ResolveRequest) (hook : IncidentsHook) :
    Reply IncidentResponse FetchError → IncidentsHook
  | .success resolved =>
    { hook.clear request.incidentId with
      resolveErrors := hook.resolveErrors.erase request.incidentId
      list := { hook.list with view := onResolved request.incidentId resolved hook.list.view } }
  | .failure error =>
    { hook.clear request.incidentId with
      resolveErrors := hook.resolveErrors.set request.incidentId (errorMessage error) }
  | .aborted => hook.clear request.incidentId

/-- A request of a resolution completes, if it is there and can complete so. -/
def completeResolution (controller : ℕ) (reply : Reply IncidentResponse FetchError)
    (hook : IncidentsHook) : IncidentsHook :=
  match hook.posts.find? fun request => request.controller == controller with
  | none => hook
  | some request =>
    if request.mayEnd reply then
      let completed := { hook with
        posts := hook.posts.filter fun request => request.controller != controller }
      if completed.counts request then completed.settleResolution request reply else completed
    else hook

/-- The cleanup of the effect. -/
def unmount (hook : IncidentsHook) : IncidentsHook :=
  { hook with
    list := Polling.step useIncidents hook.list .unmount
    activeResolutionRequests := .empty
    posts := hook.posts.map fun request =>
      { request with aborted := request.aborted ||
          hook.activeResolutionRequests.get? request.incidentId == some request.controller } }

/-! ### What a request needs -/

/-- A request is made for an incident that is open in the committed state and has none. -/
theorem mayResolve_spec {hook : IncidentsHook} {incidentId : String}
    (h : hook.mayResolve incidentId = true) :
    hook.activeResolutionRequests.get? incidentId = none ∧
      ∃ data, hook.stateRef.data? = some data ∧ ∃ item ∈ data, item.incidentId = incidentId ∧
        item.status = "OPEN" := by
  unfold mayResolve at h
  split at h
  · cases h
  · rename_i data hdata
    split at h
    · cases h
    · rename_i item hitem
      rw [Bool.and_eq_true, beq_iff_eq, Option.isNone_iff_eq_none] at h
      have hid := List.find?_some hitem
      exact ⟨h.2, data, hdata, item, List.mem_of_find?_eq_some hitem, beq_iff_eq.1 hid, h.1⟩

/-! ### What a completion does -/

/-- A completion that changes nothing, or one of a request that is gone after it. -/
theorem completeResolution_cases (controller : ℕ) (reply : Reply IncidentResponse FetchError)
    (hook : IncidentsHook) : hook.completeResolution controller reply = hook ∨
      ∃ request ∈ hook.posts, request.controller = controller ∧ request.mayEnd reply = true ∧
        hook.completeResolution controller reply =
          let completed := { hook with
            posts := hook.posts.filter fun request => request.controller != controller }
          if hook.counts request then completed.settleResolution request reply else completed := by
  cases hfind : hook.posts.find? fun request => request.controller == controller with
  | none =>
      left
      rw [completeResolution, hfind]
  | some request =>
      by_cases hend : request.mayEnd reply = true
      · refine .inr ⟨request, List.mem_of_find?_eq_some hfind, ?_, hend, ?_⟩
        · have hcontroller := List.find?_some hfind
          exact beq_iff_eq.1 hcontroller
        · rw [completeResolution, hfind]
          exact if_pos hend
      · left
        rw [completeResolution, hfind]
        exact if_neg hend

/-- A completion leaves the bookkeeping of the list, and takes in the incident that an active
request resolved. -/
theorem completeResolution_frame (controller : ℕ) (reply : Reply IncidentResponse FetchError)
    (hook : IncidentsHook) :
    (hook.completeResolution controller reply).controllers = hook.controllers ∧
      (hook.completeResolution controller reply).stateRef = hook.stateRef ∧
      (hook.completeResolution controller reply).posts.Sublist hook.posts ∧
      ∃ view, (hook.completeResolution controller reply).list = { hook.list with view := view } ∧
        (view = hook.list.view ∨ ∃ request ∈ hook.posts, ∃ resolved,
          request.controller = controller ∧ reply = .success resolved ∧
            hook.counts request = true ∧
              view = onResolved request.incidentId resolved hook.list.view) := by
  rcases completeResolution_cases controller reply hook with hsame | ⟨request, hmem, hid, -, heq⟩
  · rw [hsame]
    exact ⟨rfl, rfl, List.Sublist.refl _, _, rfl, .inl rfl⟩
  · rw [heq]
    dsimp only
    have hposts : (hook.posts.filter fun request => request.controller != controller).Sublist
        hook.posts := List.filter_sublist
    split
    · rename_i hcounts
      cases reply with
      | success resolved =>
          exact ⟨rfl, rfl, hposts, _, rfl, .inr ⟨request, hmem, resolved, hid, rfl, hcounts, rfl⟩⟩
      | failure error => exact ⟨rfl, rfl, hposts, _, rfl, .inl rfl⟩
      | aborted => exact ⟨rfl, rfl, hposts, _, rfl, .inl rfl⟩
    · exact ⟨rfl, rfl, hposts, _, rfl, .inl rfl⟩

/-! ### What is shown -/

theorem data?_onRefresh (view : IncidentsState) :
    (UseIncidents.onRefresh view).data? = view.data? := by
  cases view <;> rfl

variable {incoming : Completed (List IncidentResponse)} {previous : IncidentsState}

theorem data?_onSuccess_of_none (h : previous.data? = none) :
    (UseIncidents.onSuccess incoming previous).data? = some incoming.value := by
  rw [UseIncidents.onSuccess, h]
  rfl

theorem data?_onSuccess_of_some {current : List IncidentResponse}
    (h : previous.data? = some current) : (UseIncidents.onSuccess incoming previous).data? =
      some (mergeIncidentLists incoming.value current) := by
  rw [UseIncidents.onSuccess, h]
  rfl

/-- A failure keeps the list or drops it. -/
theorem data?_onFailure (background : Bool) (error : FetchError) (previous : IncidentsState) :
    (UseIncidents.onFailure background error previous).data? = previous.data? ∨
      (UseIncidents.onFailure background error previous).data? = none := by
  cases background <;> cases previous <;> simp [UseIncidents.onFailure, IncidentsState.data?]

/-- Where no list is shown there is nothing to take a resolved incident into. -/
theorem onResolved_of_data?_eq_none {previous : IncidentsState} (h : previous.data? = none)
    (incidentId : String) (resolved : IncidentResponse) :
    onResolved incidentId resolved previous = previous := by
  cases previous with
  | success data lastUpdatedAt isRefreshing refreshError => cases h
  | loading => rfl
  | error message => rfl

theorem data?_onResolved (incidentId : String) (resolved : IncidentResponse)
    (previous : IncidentsState) : (onResolved incidentId resolved previous).data? =
      previous.data?.map (withResolved incidentId resolved) := by
  cases previous <;> rfl

end IncidentsHook

end Frontend
end MetaRne
