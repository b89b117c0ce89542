/-
# The requests of the incidents view

What the hook of the incidents view keeps in order in every run: of an incident at most one
request to resolve it is under way that was not aborted, however often and however fast the
user asks (`resolutions_guarded`); and the list has the bookkeeping of a polling client, in
which a view that is refreshing waits for a request of the foreground
(`incidentsHook_protocol`).
-/

import MetaRne.Frontend.ShownVersions

namespace MetaRne
namespace Frontend

open Library Library.Polling Python

variable {backend : Backend} {ids : IdFactory} {s : Session} {hook : IncidentsHook}

/-! ### Resolutions -/

namespace IncidentsHook

/-- **The map of active requests** has every request under way that was not aborted, and no
incident has both an active request and an error. -/
structure Guarded (hook : IncidentsHook) : Prop where
  distinct : (hook.posts.map (·.controller)).Nodup
  controllers : ∀ request ∈ hook.posts, request.controller ≤ hook.controllers
  active : ∀ request ∈ hook.posts, request.aborted = false →
    hook.activeResolutionRequests.get? request.incidentId = some request.controller
  errors : ∀ id, hook.resolveErrors.get? id ≠ none → hook.activeResolutionRequests.get? id = none

/-- **While a hook is mounted** no request is aborted, the map has nothing but requests under way,
and the incidents that are marked as being resolved are those in it. -/
structure Marked (hook : IncidentsHook) : Prop where
  mounted : hook.list.isMounted = true
  live : ∀ request ∈ hook.posts, request.aborted = false
  underWay : ∀ id k, hook.activeResolutionRequests.get? id = some k →
    ∃ request ∈ hook.posts, request.incidentId = id ∧ request.controller = k
  marked : ∀ id, id ∈ hook.resolvingIds ↔ hook.activeResolutionRequests.get? id ≠ none

theorem guarded_initial : IncidentsHook.initial.Guarded :=
  ⟨List.nodup_nil, fun _ h => absurd h List.not_mem_nil, fun _ h => absurd h List.not_mem_nil,
    fun _ h => absurd rfl h⟩

theorem marked_initial : IncidentsHook.initial.Marked :=
  ⟨rfl, fun _ h => absurd h List.not_mem_nil, fun _ _ h => (Option.some_ne_none _ h.symm).elim,
    fun _ => iff_of_false (Finset.notMem_empty _) fun h => h rfl⟩

/-- What only changes the list leaves the requests. -/
theorem Guarded.of_eq {hook' : IncidentsHook} (h : hook.Guarded) (hposts : hook'.posts = hook.posts)
    (hcontrollers : hook'.controllers = hook.controllers)
    (hactive : hook'.activeResolutionRequests = hook.activeResolutionRequests)
    (herrors : hook'.resolveErrors = hook.resolveErrors) : hook'.Guarded := by
  refine ⟨?_, ?_, ?_, ?_⟩
  · rw [hposts]
    exact h.distinct
  · rw [hposts, hcontrollers]
    exact h.controllers
  · rw [hposts, hactive]
    exact h.active
  · rw [herrors, hactive]
    exact h.errors

/-- A new request: its incident had none. -/
theorem Guarded.resolveIncident (h : hook.Guarded) (incidentId : String) :
    (hook.resolveIncident incidentId).Guarded := by
  unfold IncidentsHook.resolveIncident
  split
  · rename_i hmay
    have hnone := (mayResolve_spec hmay).1
    have hfresh : ∀ request ∈ hook.posts, request.controller ≠ hook.controllers + 1 :=
      fun request hmem => (Nat.lt_succ_of_le (h.controllers request hmem)).ne
    refine ⟨?_, fun request hmem => ?_, fun request hmem hlive => ?_, fun id herror => ?_⟩
    · change ((hook.posts ++ [_]).map ResolveRequest.controller).Nodup
      rw [List.map_append, List.map_singleton]
      refine h.distinct.append (List.nodup_singleton _) ?_
      rw [List.disjoint_singleton]
      intro hmem
      obtain ⟨request, hrequest, heq⟩ := List.mem_map.1 hmem
      exact hfresh request hrequest heq
    · rcases List.mem_append.1 hmem with hold | hnew
      · exact (h.controllers request hold).trans (Nat.le_succ _)
      · rw [List.mem_singleton.1 hnew]
    · change (hook.activeResolutionRequests.set incidentId (hook.controllers + 1)).get? _ = _
      rcases List.mem_append.1 hmem with hold | hnew
      · have hactive := h.active request hold hlive
        have hne : request.incidentId ≠ incidentId := by
          intro heq
          rw [heq, hnone] at hactive
          cases hactive
        rw [Dict.get?_set_of_ne _ _ hne]
        exact hactive
      · rw [List.mem_singleton.1 hnew]
        exact Dict.get?_set_self ..
    · change (hook.resolveErrors.erase incidentId).get? id ≠ none at herror
      change (hook.activeResolutionRequests.set incidentId (hook.controllers + 1)).get? id = none
      by_cases hid : id = incidentId
      · subst hid
        rw [Dict.get?_erase_self] at herror
        exact absurd rfl herror
      · rw [Dict.get?_erase_of_ne _ hid] at herror
        rw [Dict.get?_set_of_ne _ _ hid]
        exact h.errors id herror
  · exact h

/-- A request that is gone is active no longer, if it was. -/
theorem Guarded.completeResolution (h : hook.Guarded) (controller : ℕ)
    (reply : Reply IncidentResponse FetchError) :
    (hook.completeResolution controller reply).Guarded := by
  rcases completeResolution_cases controller reply hook with
    hsame | ⟨request, hmem, rfl, hend, heq⟩
  · rw [hsame]
    exact h
  · have hgone : ∀ other ∈ hook.posts.filter (fun r => r.controller != request.controller),
        other ∈ hook.posts ∧ other.controller ≠ request.controller := by
      intro other hother
      rwa [List.mem_filter, bne_iff_ne] at hother
    have hdistinct : ((hook.posts.filter fun r => r.controller != request.controller).map
        (·.controller)).Nodup := h.distinct.sublist (List.filter_sublist.map _)
    rw [heq]
    dsimp only
    split
    · rename_i hcounts
      rw [counts, Bool.and_eq_true, beq_iff_eq] at hcounts
      have hactive : ∀ other ∈ hook.posts.filter (fun r => r.controller != request.controller),
          other.aborted = false → (hook.activeResolutionRequests.erase request.incidentId).get?
            other.incidentId = some other.controller := by
        intro other hother hlive
        have hget := h.active other (hgone other hother).1 hlive
        have hne : other.incidentId ≠ request.incidentId := by
          intro hid
          rw [hid, hcounts.2, Option.some.injEq] at hget
          exact (hgone other hother).2 hget.symm
        rw [Dict.get?_erase_of_ne _ hne]
        exact hget
      have herased : ∀ id, hook.resolveErrors.get? id ≠ none ∨ id = request.incidentId →
          (hook.activeResolutionRequests.erase request.incidentId).get? id = none := by
        intro id hid
        by_cases hsame : id = request.incidentId
        · rw [hsame, Dict.get?_erase_self]
        · rw [Dict.get?_erase_of_ne _ hsame]
          exact h.errors id (hid.resolve_right hsame)
      cases reply with
      | success resolved =>
          refine ⟨hdistinct, fun other hother => h.controllers other (hgone other hother).1, hactive,
            fun id herror => herased id ?_⟩
          change (hook.resolveErrors.erase request.incidentId).get? id ≠ none at herror
          by_cases hid : id = request.incidentId
          · exact .inr hid
          · rw [Dict.get?_erase_of_ne _ hid] at herror
            exact .inl herror
      | failure error =>
          refine ⟨hdistinct, fun other hother => h.controllers other (hgone other hother).1, hactive,
            fun id herror => herased id ?_⟩
          change (hook.resolveErrors.set request.incidentId _).get? id ≠ none at herror
          by_cases hid : id = request.incidentId
          · exact .inr hid
          · rw [Dict.get?_set_of_ne _ _ hid] at herror
            exact .inl herror
      | aborted =>
          exact ⟨hdistinct, fun other hother => h.controllers other (hgone other hother).1, hactive,
            fun id herror => herased id (.inl herror)⟩
    · exact ⟨hdistinct, fun other hother => h.controllers other (hgone other hother).1,
        fun other hother => h.active other (hgone other hother).1, h.errors⟩

/-- Unmounted, every active request is aborted. -/
theorem Guarded.unmount (h : hook.Guarded) : hook.unmount.Guarded := by
  refine ⟨?_, fun request hmem => ?_, fun request hmem hlive => ?_, fun id _ => rfl⟩
  · change ((hook.posts.map _).map _).Nodup
    rw [List.map_map]
    exact h.distinct
  · obtain ⟨before, hbefore, rfl⟩ := List.mem_map.1 hmem
    exact h.controllers before hbefore
  · obtain ⟨before, hbefore, rfl⟩ := List.mem_map.1 hmem
    rw [Bool.or_eq_false_iff, beq_eq_false_iff_ne] at hlive
    exact absurd (h.active before hbefore hlive.1) hlive.2

/-- What only changes the list leaves the marks. -/
theorem Marked.of_eq {hook' : IncidentsHook} (h : hook.Marked)
    (hmounted : hook'.list.isMounted = true) (hposts : hook'.posts = hook.posts)
    (hactive : hook'.activeResolutionRequests = hook.activeResolutionRequests)
    (hids : hook'.resolvingIds = hook.resolvingIds) : hook'.Marked := by
  refine ⟨hmounted, ?_, ?_, ?_⟩
  · rw [hposts]
    exact h.live
  · rw [hposts, hactive]
    exact h.underWay
  · rw [hids, hactive]
    exact h.marked

theorem Marked.resolveIncident (h : hook.Marked) (incidentId : String) :
    (hook.resolveIncident incidentId).Marked := by
  unfold IncidentsHook.resolveIncident
  split
  · refine ⟨h.mounted, fun request hmem => ?_, fun id k hget => ?_, fun id => ?_⟩
    · rcases List.mem_append.1 hmem with hold | hnew
      · exact h.live request hold
      · rw [List.mem_singleton.1 hnew]
    · change (hook.activeResolutionRequests.set incidentId (hook.controllers + 1)).get? id = _ at hget
      by_cases hid : id = incidentId
      · subst hid
        rw [Dict.get?_set_self, Option.some.injEq] at hget
        exact ⟨_, List.mem_append_right _ (List.mem_singleton_self _), rfl, hget⟩
      · rw [Dict.get?_set_of_ne _ _ hid] at hget
        obtain ⟨request, hmem, hof⟩ := h.underWay id k hget
        exact ⟨request, List.mem_append_left _ hmem, hof⟩
    · change id ∈ insert incidentId hook.resolvingIds ↔
        (hook.activeResolutionRequests.set incidentId (hook.controllers + 1)).get? id ≠ none
      rw [Finset.mem_insert, h.marked]
      by_cases hid : id = incidentId
      · subst hid
        rw [Dict.get?_set_self]
        exact iff_of_true (.inl rfl) (Option.some_ne_none _)
      · rw [Dict.get?_set_of_ne _ _ hid, or_iff_right hid]
  · exact h

/-- While it is mounted, every completion counts. -/
theorem Marked.completeResolution (h : hook.Marked) (hguarded : hook.Guarded) (controller : ℕ)
    (reply : Reply IncidentResponse FetchError) :
    (hook.completeResolution controller reply).Marked := by
  rcases completeResolution_cases controller reply hook with
    hsame | ⟨request, hmem, rfl, hend, heq⟩
  · rw [hsame]
    exact h
  · have hactive := hguarded.active request hmem (h.live request hmem)
    have hcounts : hook.counts request = true := by
      rw [counts, Bool.and_eq_true, beq_iff_eq]
      exact ⟨h.mounted, hactive⟩
    have hlive : ∀ other ∈ hook.posts.filter (fun r => r.controller != request.controller),
        other.aborted = false := fun other hother => h.live other (List.mem_filter.1 hother).1
    have hunderWay : ∀ id k,
        (hook.activeResolutionRequests.erase request.incidentId).get? id = some k →
          ∃ other ∈ hook.posts.filter (fun r => r.controller != request.controller),
            other.incidentId = id ∧ other.controller = k := by
      intro id k hget
      by_cases hid : id = request.incidentId
      · rw [hid, Dict.get?_erase_self] at hget
        cases hget
      · rw [Dict.get?_erase_of_ne _ hid] at hget
        obtain ⟨other, hother, hof, hk⟩ := h.underWay id k hget
        refine ⟨other, List.mem_filter.2 ⟨hother, bne_iff_ne.2 fun hsame => hid ?_⟩, hof, hk⟩
        rw [← hof, List.inj_on_of_nodup_map hguarded.distinct hother hmem hsame]
    have hmarked : ∀ id, id ∈ hook.resolvingIds.erase request.incidentId ↔
        (hook.activeResolutionRequests.erase request.incidentId).get? id ≠ none := by
      intro id
      rw [Finset.mem_erase, h.marked]
      by_cases hid : id = request.incidentId
      · rw [hid, Dict.get?_erase_self]
        exact iff_of_false (fun hne => hne.1 rfl) fun hne => hne rfl
      · rw [Dict.get?_erase_of_ne _ hid, and_iff_right hid]
    rw [heq]
    dsimp only
    rw [if_pos hcounts]
    cases reply with
    | success resolved => exact ⟨h.mounted, hlive, hunderWay, hmarked⟩
    | failure error => exact ⟨h.mounted, hlive, hunderWay, hmarked⟩
    | aborted => exact ⟨h.mounted, hlive, hunderWay, hmarked⟩

end IncidentsHook

/-! ### Runs -/

namespace World

variable {w : World}

theorem guarded_step (h : w.hook.Guarded) (event : IncidentsEvent) :
    (World.step backend ids s w event).hook.Guarded := by
  by_cases hevent : event = .unmount
  · subst hevent
    exact h.unmount
  · have hstep := @step_hook backend ids s w event hevent
    generalize (World.step backend ids s w event).hook = hook at hstep ⊢
    cases hstep with
    | same => exact h
    | list event hevent => exact h.of_eq rfl rfl rfl rfl
    | commit => exact h.of_eq rfl rfl rfl rfl
    | resolveIncident incidentId => exact h.resolveIncident incidentId
    | complete controller reply => exact h.completeResolution controller reply

theorem marked_step (h : w.hook.Marked) (hguarded : w.hook.Guarded) {event : IncidentsEvent}
    (hevent : event ≠ .unmount) : (World.step backend ids s w event).hook.Marked := by
  have hstep := @step_hook backend ids s w event hevent
  generalize (World.step backend ids s w event).hook = hook at hstep ⊢
  cases hstep with
  | same => exact h
  | list event hevent => exact h.of_eq (step_isMounted useIncidents h.mounted hevent) rfl rfl rfl
  | commit => exact h.of_eq h.mounted rfl rfl rfl
  | resolveIncident incidentId => exact h.resolveIncident incidentId
  | complete controller reply => exact h.completeResolution hguarded controller reply

theorem guarded_run (h : w.hook.Guarded) (events : List IncidentsEvent) :
    (World.run backend ids s w events).hook.Guarded := by
  induction events generalizing w with
  | nil => exact h
  | cons event events ih => exact ih (guarded_step h event)

theorem marked_run (h : w.hook.Marked) (hguarded : w.hook.Guarded) {events : List IncidentsEvent}
    (hevents : IncidentsEvent.unmount ∉ events) :
    (World.run backend ids s w events).hook.Marked := by
  induction events generalizing w with
  | nil => exact h
  | cons event events ih =>
      rw [List.mem_cons, not_or] at hevents
      exact ih (marked_step h hguarded (Ne.symm hevents.1)) (guarded_step hguarded event) hevents.2

end World

/-- **One request at a time for each incident.**  In every run, two requests under way for one
incident that were not aborted are the same one; an incident with an error has none; a request
is only made for an incident that the committed list has open, and that has none.  As long as
the hook has not been unmounted, the incidents marked as being resolved are those with a request
under way. -/
theorem resolutions_guarded (backend : Backend) (ids : IdFactory) (s : Session)
    (events : List IncidentsEvent) :
    (∀ request ∈ (World.initial.run backend ids s events).hook.posts,
      ∀ other ∈ (World.initial.run backend ids s events).hook.posts,
        request.aborted = false → other.aborted = false →
          request.incidentId = other.incidentId → request = other) ∧
      (∀ id, (World.initial.run backend ids s events).hook.resolveErrors.get? id ≠ none →
        ∀ request ∈ (World.initial.run backend ids s events).hook.posts,
          request.incidentId = id → request.aborted = true) ∧
      (∀ id, ((World.initial.run backend ids s events).hook.resolveIncident id).posts ≠
          (World.initial.run backend ids s events).hook.posts →
        (∀ request ∈ (World.initial.run backend ids s events).hook.posts,
          request.incidentId = id → request.aborted = true) ∧
        ∃ data, (World.initial.run backend ids s events).hook.stateRef.data? = some data ∧
          ∃ item ∈ data, item.incidentId = id ∧ item.status = "OPEN") ∧
      (IncidentsEvent.unmount ∉ events → ∀ id,
        id ∈ (World.initial.run backend ids s events).hook.resolvingIds ↔
          ∃ request ∈ (World.initial.run backend ids s events).hook.posts,
            request.incidentId = id) := by
  have hguarded : (World.initial.run backend ids s events).hook.Guarded :=
    World.guarded_run IncidentsHook.guarded_initial events
  have hmarked : IncidentsEvent.unmount ∉ events →
      (World.initial.run backend ids s events).hook.Marked :=
    World.marked_run IncidentsHook.marked_initial IncidentsHook.guarded_initial
  generalize (World.initial.run backend ids s events).hook = hook at hguarded hmarked ⊢
  have hfree : ∀ id, hook.activeResolutionRequests.get? id = none →
      ∀ request ∈ hook.posts, request.incidentId = id → request.aborted = true := by
    rintro id hnone request hmem rfl
    rw [← Bool.not_eq_false]
    intro hlive
    rw [hguarded.active request hmem hlive] at hnone
    cases hnone
  refine ⟨fun request hmem other hmem' hlive hlive' hid => ?_, fun id herror =>
    hfree id (hguarded.errors id herror), fun id hposts => ?_, fun hevents id => ?_⟩
  · have hactive := hguarded.active request hmem hlive
    rw [hid, hguarded.active other hmem' hlive', Option.some.injEq] at hactive
    exact List.inj_on_of_nodup_map hguarded.distinct hmem hmem' hactive.symm
  · unfold IncidentsHook.resolveIncident at hposts
    split at hposts
    · rename_i hmay
      obtain ⟨hnone, hopen⟩ := IncidentsHook.mayResolve_spec hmay
      exact ⟨hfree id hnone, hopen⟩
    · exact absurd rfl hposts
  · obtain ⟨-, hlive, hunderWay, hmarks⟩ := hmarked hevents
    rw [hmarks]
    constructor
    · intro hactive
      obtain ⟨k, hget⟩ := Option.ne_none_iff_exists'.1 hactive
      obtain ⟨request, hmem, hof, -⟩ := hunderWay id k hget
      exact ⟨request, hmem, hof⟩
    · rintro ⟨request, hmem, rfl⟩
      rw [hguarded.active request hmem (hlive request hmem)]
      exact Option.some_ne_none _

/-! ### The list -/

/-- The latest request was made by the user or by mounting, and not by a poll. -/
def Foreground (list : State IncidentsState) : Prop :=
  ∀ request ∈ list.pending, request.number = list.requestId → request.background = false

/-- **A view that is refreshing** waits for a request of the foreground. -/
structure Waits (list : State IncidentsState) : Prop where
  polling : Invariant list
  refreshing : list.view.isRefreshing = true → list.inFlightId ≠ none ∧ Foreground list

theorem waits_initial : Waits IncidentsHook.initial.list :=
  ⟨invariant_initial _, fun h => by cases h⟩

/-- A new request of the foreground. -/
theorem foreground_beginNewRequest {list : State IncidentsState}
    (hnumbers : ∀ request ∈ list.pending, request.number ≤ list.requestId) :
    Foreground (beginNewRequest false list) := by
  intro request hmem hnumber
  rcases List.mem_append.1 hmem with hold | hnew
  · obtain ⟨before, hbefore, hsame⟩ := mem_abort hold
    have hle := hnumbers before hbefore
    change request.number = list.requestId + 1 at hnumber
    omega
  · rw [List.mem_singleton.1 hnew]

/-- A failure leaves a view refreshing only if it was, and the request one of the background. -/
theorem of_isRefreshing_onFailure {background : Bool} {error : FetchError} {view : IncidentsState}
    (h : (UseIncidents.onFailure background error view).isRefreshing = true) :
    background = true ∧ view.isRefreshing = true := by
  cases background <;> cases view <;> simp_all [UseIncidents.onFailure, IncidentsState.isRefreshing]

theorem Waits.step {list : State IncidentsState} (h : Waits list)
    (event : Event (Completed (List IncidentResponse)) FetchError) :
    Waits (Polling.step useIncidents list event) := by
  refine ⟨invariant_step useIncidents h.polling event, ?_⟩
  cases event with
  | mount => exact fun _ => ⟨Option.some_ne_none _, foreground_beginNewRequest h.polling.numbers⟩
  | refresh => exact fun _ => ⟨Option.some_ne_none _, foreground_beginNewRequest h.polling.numbers⟩
  | poll =>
      rw [Polling.step]
      split
      · rename_i hidle
        exact fun hrefreshing => absurd hidle (h.refreshing hrefreshing).1
      · exact h.refreshing
  | unmount =>
      intro hrefreshing
      obtain ⟨hmarker, hforeground⟩ := h.refreshing hrefreshing
      refine ⟨hmarker, fun request hmem hnumber => ?_⟩
      obtain ⟨before, hbefore, rfl⟩ := List.mem_map.1 hmem
      exact hforeground before hbefore hnumber
  | complete number reply =>
      change (complete useIncidents number reply list).view.isRefreshing = true →
        (complete useIncidents number reply list).inFlightId ≠ none ∧
          Foreground (complete useIncidents number reply list)
      rcases complete_cases useIncidents number reply list with
        hsame | ⟨request, hmem, rfl, -, hhandle⟩
      · rw [hsame]
        exact h.refreshing
      · have hkept : ∀ list' : State IncidentsState, list'.requestId = list.requestId →
            list'.pending = list.pending.filter (fun r => r.number != request.number) →
              Foreground list → Foreground list' := by
          intro list' hid hpending hforeground r hr hnumber
          rw [hpending] at hr
          exact hforeground r (mem_completed.1 hr).1 (hnumber.trans hid)
        obtain ⟨hid, hpending⟩ := handle_frame useIncidents request reply
          { list with pending := list.pending.filter fun r => r.number != request.number }
        rw [hhandle]
        intro hrefreshing
        rcases handle_view useIncidents request reply
            { list with pending := list.pending.filter fun r => r.number != request.number } with
          ⟨hview, hmarker⟩ | ⟨hcurrent, ⟨response, -, hview⟩ | ⟨error, -, hview⟩⟩
        · rw [hview] at hrefreshing
          rw [hmarker]
          obtain ⟨hnone, hforeground⟩ := h.refreshing hrefreshing
          exact ⟨hnone, hkept _ hid hpending hforeground⟩
        · rw [hview] at hrefreshing
          cases hrefreshing
        · -- The failed request would be one of the background.
          rw [hview] at hrefreshing
          obtain ⟨hbackground, hbefore⟩ := of_isRefreshing_onFailure hrefreshing
          rw [isCurrent, Bool.and_eq_true, beq_iff_eq] at hcurrent
          rw [(h.refreshing hbefore).2 request hmem hcurrent.2.symm] at hbackground
          cases hbackground

theorem World.waits_step {w : World} (h : Waits w.hook.list) (event : IncidentsEvent) :
    Waits (World.step backend ids s w event).hook.list := by
  by_cases hevent : event = .unmount
  · subst hevent
    exact h.step .unmount
  · have hstep := @World.step_hook backend ids s w event hevent
    generalize (World.step backend ids s w event).hook = hook at hstep ⊢
    cases hstep with
    | same => exact h
    | list event hevent => exact h.step event
    | commit => exact h
    | resolveIncident incidentId =>
        unfold IncidentsHook.resolveIncident
        split <;> exact h
    | complete controller reply =>
        obtain ⟨-, -, -, view, hlist, hview⟩ :=
          IncidentsHook.completeResolution_frame controller reply w.hook
        have hsame : view.isRefreshing = w.hook.list.view.isRefreshing := by
          rcases hview with rfl | ⟨request, -, resolved, -, -, -, rfl⟩
          · rfl
          · cases w.hook.list.view <;> rfl
        rw [hlist]
        refine ⟨⟨h.polling.marker, h.polling.numbers, h.polling.outstanding, h.polling.live⟩, ?_⟩
        intro hrefreshing
        exact h.refreshing (hsame ▸ hrefreshing)

theorem World.waits_run {w : World} (h : Waits w.hook.list) (events : List IncidentsEvent) :
    Waits (World.run backend ids s w events).hook.list := by
  induction events generalizing w with
  | nil => exact h
  | cons event events ih => exact ih (World.waits_step h event)

/-- **A list is dropped** by nothing but the failure of the latest request of a mounted hook, if
it is one of the foreground. -/
theorem World.dropped_of_step {w : World} {event : IncidentsEvent}
    {data : List IncidentResponse} (hshown : w.shown = some data)
    (hdropped : (World.step backend ids s w event).shown = none) :
    ∃ number error, event = .failList number error ∧ w.hook.list.isMounted = true ∧
      ∃ request ∈ w.hook.list.pending, request.number = number ∧
        w.hook.list.requestId = number ∧ request.background = false := by
  have hkept : (World.step backend ids s w event).shown ≠ w.shown := by
    rw [hshown, hdropped]
    exact Option.some_ne_none _ ∘ Eq.symm
  have hview : w.hook.list.view.data? = some data := hshown
  have hresolution : ∀ controller reply,
      (w.hook.completeResolution controller reply).list.view.data? ≠ none := by
    intro controller reply
    obtain ⟨-, -, -, view, hlist, rfl | ⟨request, -, resolved, -, -, -, rfl⟩⟩ :=
      IncidentsHook.completeResolution_frame controller reply w.hook
    · rw [hlist, hview]
      exact Option.some_ne_none _
    · rw [hlist, IncidentsHook.data?_onResolved, hview]
      exact Option.some_ne_none _
  cases event with
  | mount => exact absurd rfl hkept
  | unmount => exact absurd rfl hkept
  | refresh => exact absurd (IncidentsHook.data?_onRefresh _) hkept
  | poll =>
      refine absurd ?_ hkept
      change (Polling.step useIncidents w.hook.list .poll).view.data? = _
      rw [Polling.step]
      split <;> rfl
  | resolveIncident incidentId =>
      refine absurd ?_ hkept
      change (w.hook.resolveIncident incidentId).list.view.data? = _
      unfold IncidentsHook.resolveIncident
      split <;> rfl
  | commit => exact absurd rfl hkept
  | call c => exact absurd rfl hkept
  | answerList number =>
      refine absurd ?_ hkept
      rw [World.step, World.answerList]
      split
      · split <;> rfl
      · rfl
  | answerResolution controller now =>
      refine absurd ?_ hkept
      rw [World.step, World.answerResolution]
      split <;> rfl
  | deliverList number completedAt =>
      rw [World.step] at hdropped
      split at hdropped
      · exact absurd hdropped (hshown ▸ Option.some_ne_none _)
      · rename_i a hfind
        rcases complete_outstanding useIncidents number (.success ⟨a.2, completedAt⟩) w.hook.list with
          hsame | ⟨-, -, -, ⟨response, -, hsuccess⟩ | ⟨_, _, hreply, -⟩⟩
        · exact absurd ((congrArg IncidentsState.data? hsame).symm.trans hdropped)
            (hview ▸ Option.some_ne_none _)
        · have hdata := (congrArg IncidentsState.data? hsuccess).symm.trans hdropped
          cases hdata
        · cases hreply
  | failList number error =>
      change (complete useIncidents number (.failure error) w.hook.list).view.data? = none at hdropped
      rcases complete_cases useIncidents number (.failure error) w.hook.list with
        hsame | ⟨request, hmem, rfl, -, hhandle⟩
      · rw [hsame, hview] at hdropped
        cases hdropped
      · rw [hhandle] at hdropped
        rcases handle_view useIncidents request (.failure error)
            { w.hook.list with
              pending := w.hook.list.pending.filter fun r => r.number != request.number } with
          ⟨hsame, -⟩ | ⟨hcurrent, ⟨_, hreply, -⟩ | ⟨error', hreply, hfailure⟩⟩
        · rw [hsame, hview] at hdropped
          cases hdropped
        · cases hreply
        · rw [isCurrent, Bool.and_eq_true, beq_iff_eq] at hcurrent
          refine ⟨request.number, error, rfl, hcurrent.1, request, hmem, rfl, hcurrent.2, ?_⟩
          rw [hfailure] at hdropped
          cases hbackground : request.background with
          | false => rfl
          | true =>
              change (UseIncidents.onFailure request.background error'
                w.hook.list.view).data? = none at hdropped
              rw [hbackground] at hdropped
              cases hstate : w.hook.list.view with
              | success held lastUpdatedAt isRefreshing refreshError =>
                  rw [hstate] at hdropped
                  cases hdropped
              | loading =>
                  rw [hstate] at hview
                  cases hview
              | error message =>
                  rw [hstate] at hview
                  cases hview
  | abortList number =>
      rcases complete_outstanding useIncidents number .aborted w.hook.list with
        hsame | ⟨-, -, -, ⟨_, hreply, -⟩ | ⟨_, _, hreply, -⟩⟩
      · exact absurd ((congrArg IncidentsState.data? hsame).symm.trans hdropped)
          (hview ▸ Option.some_ne_none _)
      · cases hreply
      · cases hreply
  | deliverResolution controller =>
      rw [World.step] at hdropped
      split at hdropped
      · exact absurd hdropped (hshown ▸ Option.some_ne_none _)
      · exact absurd hdropped (hresolution _ _)
  | failResolution controller error => exact absurd hdropped (hresolution _ _)
  | abortResolution controller => exact absurd hdropped (hresolution _ _)

/-- **The protocol of the list.**  While the hook is mounted its marker is set, and polls are
skipped, exactly while the latest request is unanswered; and a view that is refreshing waits for
a request that no poll made.  A list that is shown is dropped by nothing but the failure of such
a request, so that polling never takes it away. -/
theorem incidentsHook_protocol (backend : Backend) (ids : IdFactory) (s : Session)
    (events : List IncidentsEvent) :
    ((World.initial.run backend ids s events).hook.list.isMounted = true →
      ((World.initial.run backend ids s events).hook.list.inFlightId ≠ none ↔
        Outstanding (World.initial.run backend ids s events).hook.list) ∧
      (Polling.step useIncidents (World.initial.run backend ids s events).hook.list .poll =
          (World.initial.run backend ids s events).hook.list ↔
        Outstanding (World.initial.run backend ids s events).hook.list) ∧
      ((World.initial.run backend ids s events).hook.list.view.isRefreshing = true →
        ∃ request ∈ (World.initial.run backend ids s events).hook.list.pending,
          request.number = (World.initial.run backend ids s events).hook.list.requestId ∧
            request.background = false)) ∧
      ∀ event data, (World.initial.run backend ids s events).shown = some data →
        (World.initial.run backend ids s (events ++ [event])).shown = none →
          ∃ number error, event = .failList number error ∧
            (World.initial.run backend ids s events).hook.list.isMounted = true ∧
            ∃ request ∈ (World.initial.run backend ids s events).hook.list.pending,
              request.number = number ∧
                (World.initial.run backend ids s events).hook.list.requestId = number ∧
                  request.background = false := by
  have hwaits : Waits (World.initial.run backend ids s events).hook.list :=
    World.waits_run waits_initial events
  refine ⟨fun hmounted => ⟨hwaits.polling.outstanding hmounted,
    poll_skipped_iff useIncidents hwaits.polling hmounted, fun hrefreshing => ?_⟩,
    fun event data hshown hdropped => ?_⟩
  · obtain ⟨hmarker, hforeground⟩ := hwaits.refreshing hrefreshing
    obtain ⟨request, hmem, hnumber⟩ := (hwaits.polling.outstanding hmounted).1 hmarker
    exact ⟨request, hmem, hnumber, hforeground request hmem hnumber⟩
  · rw [World.run, List.foldl_append] at hdropped
    exact World.dropped_of_step hshown hdropped

end Frontend
end MetaRne
