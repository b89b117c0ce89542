/-
# The incidents view and the backend

`hooks/useIncidents.ts` against the incidents of the backend: the hook's requests are under
way, the backend answers each of them in one step, and an answer comes in when it likes, or
never.  Other clients' calls go in between.

The backend is the log of the calls it has answered; what it lists after `n` of them is
`ListedAfter`, and a version of an incident is told by the `n` that it was read after.
-/

import MetaRne.Frontend.IncidentsHook
import MetaRne.Frontend.NewestIncidents

namespace MetaRne
namespace Frontend

open Api Library Library.KeyedMerge Library.Polling Python

/-- `resolveIncident` of `api/incidents.ts`, of the body that was answered; `none` where it
throws. -/
def resolvedResponse? (incidentId : String) (body : Json) : Option IncidentResponse := do
  let incident ← incidentResponse? body
  if incident.incidentId = incidentId ∧ incident.status = "RESOLVED" ∧ incident.resolvedAt ≠ none
  then some incident else none

/-- The calls that the backend has answered, the hook, and the answers that are under way to
it. -/
structure World where
  calls : List IncidentCall
  hook : IncidentsHook
  lists : List (ℕ × List IncidentResponse)
  resolutions : List (ℕ × IncidentResponse)

inductive IncidentsEvent
  | mount
  | unmount
  | refresh
  | poll
  | resolveIncident (incidentId : String)
  /-- The state so far is committed. -/
  | commit
  /-- Somebody else's call. -/
  | call (call : IncidentCall)
  /-- The backend answers a request of the hook. -/
  | answerList (number : ℕ)
  | answerResolution (controller : ℕ) (now : Datetime)
  /-- A request of the hook completes with its answer, or without one. -/
  | deliverList (number : ℕ) (completedAt : String)
  | failList (number : ℕ) (error : FetchError)
  | abortList (number : ℕ)
  | deliverResolution (controller : ℕ)
  | failResolution (controller : ℕ) (error : FetchError)
  | abortResolution (controller : ℕ)

/-- The time that an event carries is one that a datetime can have. -/
def IncidentsEvent.Dated : IncidentsEvent → Prop
  | call c => c.Dated
  | answerResolution _ now => (IncidentCall.resolve "" now).Dated
  | _ => True

namespace World

variable (backend : Backend) (ids : IdFactory) (s : Session)

/-- Nothing has happened yet. -/
def initial : World := ⟨[], .initial, [], []⟩

/-- The list that is shown. -/
def shown (w : World) : Option (List IncidentResponse) := w.hook.shown

/-- The backend as it is. -/
def session (w : World) : Session := sessionAfter backend ids w.calls s

/-- Something happens to the list of the hook. -/
def onList (event : Event (Completed (List IncidentResponse)) FetchError) (w : World) : World :=
  { w with hook := { w.hook with list := Polling.step useIncidents w.hook.list event } }

/-- The backend answers a `GET`. -/
def answerList (number : ℕ) (w : World) : World :=
  if w.hook.list.pending.any fun request => request.number == number then
    match getIncidents backend (w.session backend ids s) with
    | some response => { w with lists := w.lists ++ [(number, response)] }
    | none => w
  else w

/-- What the client makes of the reply to a `POST`; `none` where it throws. -/
def resolution? (incidentId : String) : IncidentReply → Option IncidentResponse
  | .resolved (some incident) => resolvedResponse? incidentId (incidentResponse incident)
  | _ => none

/-- The backend answers a `POST`. -/
def answerResolution (controller : ℕ) (now : Datetime) (w : World) : World :=
  match w.hook.posts.find? fun request => request.controller == controller with
  | none => w
  | some request =>
    { w with
      calls := w.calls ++ [.resolve request.incidentId now]
      resolutions := w.resolutions ++ (resolution? request.incidentId
        (answer backend ids (.resolve request.incidentId now)
          (w.session backend ids s)).1).toList.map fun resolved => (controller, resolved) }

def step (w : World) : IncidentsEvent → World
  | .mount => w.onList .mount
  | .unmount => { w with hook := w.hook.unmount }
  | .refresh => w.onList .refresh
  | .poll => w.onList .poll
  | .resolveIncident incidentId => { w with hook := w.hook.resolveIncident incidentId }
  | .commit => { w with hook := { w.hook with stateRef := w.hook.list.view } }
  | .call c => { w with calls := w.calls ++ [c] }
  | .answerList number => w.answerList backend ids s number
  | .answerResolution controller now => w.answerResolution backend ids s controller now
  | .deliverList number completedAt =>
    match w.lists.find? fun a => a.1 == number with
    | none => w
    | some a => w.onList (.complete number (.success ⟨a.2, completedAt⟩))
  | .failList number error => w.onList (.complete number (.failure error))
  | .abortList number => w.onList (.complete number .aborted)
  | .deliverResolution controller =>
    match w.resolutions.find? fun a => a.1 == controller with
    | none => w
    | some a => { w with hook := w.hook.completeResolution controller (.success a.2) }
  | .failResolution controller error =>
    { w with hook := w.hook.completeResolution controller (.failure error) }
  | .abortResolution controller =>
    { w with hook := w.hook.completeResolution controller .aborted }

/-- The events in order. -/
def run (w : World) (events : List IncidentsEvent) : World :=
  events.foldl (step backend ids s) w

/-! ### What a step does to the hook -/

/-- **The steps of a hook**, except for its unmounting. -/
inductive HookStep (hook : IncidentsHook) : IncidentsHook → Prop
  | same : HookStep hook hook
  | list (event : Event (Completed (List IncidentResponse)) FetchError)
      (hevent : event ≠ .unmount) :
      HookStep hook { hook with list := Polling.step useIncidents hook.list event }
  | commit : HookStep hook { hook with stateRef := hook.list.view }
  | resolveIncident (incidentId : String) : HookStep hook (hook.resolveIncident incidentId)
  | complete (controller : ℕ) (reply : Reply IncidentResponse FetchError) :
      HookStep hook (hook.completeResolution controller reply)

variable {backend : Backend} {ids : IdFactory} {s : Session} {w : World} {event : IncidentsEvent}

/-- **A step of the world is one of the hook.** -/
theorem step_hook (hevent : event ≠ .unmount) :
    HookStep w.hook (step backend ids s w event).hook := by
  cases event with
  | unmount => exact absurd rfl hevent
  | mount => exact .list .mount fun h => by cases h
  | refresh => exact .list .refresh fun h => by cases h
  | poll => exact .list .poll fun h => by cases h
  | resolveIncident incidentId => exact .resolveIncident incidentId
  | commit => exact .commit
  | call c => exact .same
  | answerList number =>
      rw [step, answerList]
      split
      · split <;> exact .same
      · exact .same
  | answerResolution controller now =>
      rw [step, answerResolution]
      split <;> exact .same
  | deliverList number completedAt =>
      rw [step]
      split
      · exact .same
      · exact .list _ fun h => by cases h
  | failList number error => exact .list _ fun h => by cases h
  | abortList number => exact .list _ fun h => by cases h
  | deliverResolution controller =>
      rw [step]
      split
      · exact .same
      · exact .complete _ _
  | failResolution controller error => exact .complete _ _
  | abortResolution controller => exact .complete _ _

end World

end Frontend
end MetaRne
