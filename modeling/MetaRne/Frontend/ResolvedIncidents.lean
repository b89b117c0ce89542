/-
# Incidents stay resolved

What a user of the incidents view can rely on, whatever the requests and their answers do and
in whatever order: what is shown of an incident never goes back to an earlier version
(`incidents_never_go_back`), and the answer to a resolution is not undone by a list that was
read before it, as long as a list is shown when it comes in (`resolution_kept`).

While no list is shown, the answer is dropped.  The list of the request under way may then
have the incident open; from the next request on it is resolved.
-/

import MetaRne.Frontend.ShownVersions

namespace MetaRne
namespace Frontend

open Api Library Library.Effect Library.KeyedMerge Library.Polling Python

variable {backend : Backend} {ids : IdFactory} {s : Session} {w : World}

namespace World

/-! ### Versions -/

/-- What is shown now is the least that is shown from now on. -/
theorem since_of_holds {data : List IncidentResponse} (hdata : w.shown = some data)
    {version : String → ℕ} (hholds : Holds backend ids s w.calls data version) :
    Since backend ids s w.calls.length version w := by
  refine ⟨le_rfl, fun id => (hholds id).1, fun data' hdata' => ?_, fun hnone => ?_⟩
  · rw [hdata, Option.some.injEq] at hdata'
    subst hdata'
    exact ⟨version, hholds, fun _ => le_rfl⟩
  · rw [hdata] at hnone
    cases hnone

/-- The point of the history that a list which is shown is from. -/
theorem since_shown (hsince : Since backend ids s 0 (fun _ => 0) w)
    {data : List IncidentResponse} (hdata : w.shown = some data) :
    ∃ version, Holds backend ids s w.calls data version ∧
      Since backend ids s w.calls.length version w := by
  obtain ⟨version, hholds, -⟩ := hsince.shown data hdata
  exact ⟨version, hholds, since_of_holds hdata hholds⟩

/-- A run leaves the history up to where it started. -/
theorem servedAfter_run {events : List IncidentsEvent} (hevents : ∀ event ∈ events, event.Dated)
    {id : String} {n : ℕ} (hn : n ≤ w.calls.length) :
    servedAfter backend ids (World.run backend ids s w events).calls s id n =
      servedAfter backend ids w.calls s id n := by
  obtain ⟨more, hcalls⟩ := @run_calls backend ids s w events hevents
  rw [hcalls, servedAfter_append hn]

/-- A resolved incident is held where a list is not older than its resolution. -/
theorem mem_of_resolved (hempty : s.store.incidents = .empty) {data : List IncidentResponse}
    {version : String → ℕ} (hholds : Holds backend ids s w.calls data version)
    {r : IncidentResponse} {m : ℕ}
    (hserved : servedAfter backend ids w.calls s r.incidentId m = some r)
    (hresolved : r.status = "RESOLVED") (hle : m ≤ version r.incidentId) : r ∈ data :=
  hholds.mem_iff.2 (servedAfter_of_resolved hempty hle hserved hresolved)

theorem run_append (w : World) (events later : List IncidentsEvent) :
    World.run backend ids s w (events ++ later) =
      World.run backend ids s (World.run backend ids s w events) later := by
  rw [World.run, List.foldl_append]
  rfl

theorem run_cons (w : World) (event : IncidentsEvent) (later : List IncidentsEvent) :
    World.run backend ids s w (event :: later) =
      World.run backend ids s (World.step backend ids s w event) later := rfl

/-- What the events lead to. -/
theorem reached_run (backend : Backend) (ids : IdFactory) {s : Session}
    (hempty : s.store.incidents = .empty) {events : List IncidentsEvent}
    (hevents : ∀ event ∈ events, event.Dated) :
    Reached backend ids s (World.initial.run backend ids s events) ∧
      Since backend ids s 0 (fun _ => 0) (World.initial.run backend ids s events) :=
  ⟨reached_initial.run hempty hevents, since_initial.run hempty reached_initial hevents⟩

/-- Two lists of a run are from two points of the history, for every incident in order. -/
theorem Since.shown_run (hempty : s.store.incidents = .empty) (hw : Reached backend ids s w)
    (hsince : Since backend ids s 0 (fun _ => 0) w) {later : List IncidentsEvent}
    (hlater : ∀ event ∈ later, event.Dated) {data data' : List IncidentResponse}
    (hdata : w.shown = some data) (hdata' : (w.run backend ids s later).shown = some data') :
    ∃ version version', Holds backend ids s w.calls data version ∧
      Holds backend ids s (w.run backend ids s later).calls data' version' ∧
        ∀ id, version id ≤ version' id := by
  obtain ⟨version, hholds, hnow⟩ := since_shown hsince hdata
  obtain ⟨version', hholds', hle⟩ := (hnow.run hempty hw hlater).shown data' hdata'
  exact ⟨version, version', hholds, hholds', hle⟩

end World

/-! ### A schedule

One incident is listed, and then resolved while a poll that has it open is under way. -/

/-- A list with an open incident comes in and is committed. -/
def listedEvents : List IncidentsEvent :=
  [.mount, .call (.upsert (neighborDown 5) (neighborDown 5).fingerprint (.utc 5)), .answerList 1,
    .deliverList 1 "2026-01-01T00:00:00.000Z", .commit]

/-- It is resolved, and the answer is under way, as is an older list. -/
def resolvedEvents : List IncidentsEvent :=
  [.poll, .answerList 2, .resolveIncident "I", .answerResolution 1 (.utc 8)]

/-- The answer comes in, and then the list. -/
def settledEvents : List IncidentsEvent :=
  [.deliverResolution 1, .deliverList 2 "2026-01-01T00:00:15.000Z"]

theorem dated_schedule : ∀ event ∈ listedEvents ++ resolvedEvents ++ settledEvents, event.Dated := by
  have hle : ∀ t : Timestamp, t ≤ 9 → t ≤ maxTimestamp := fun t ht => ht.trans (by decide)
  intro event hevent
  simp only [listedEvents, resolvedEvents, settledEvents, List.cons_append, List.nil_append,
    List.mem_cons, List.not_mem_nil, or_false] at hevent
  rcases hevent with rfl | rfl | rfl | rfl | rfl | rfl | rfl | rfl | rfl | rfl | rfl
  · trivial
  · exact hle 5 (by decide)
  · trivial
  · trivial
  · trivial
  · trivial
  · trivial
  · trivial
  · intro t ht
    obtain rfl : t = 8 := Int.ofNat_inj.1 (Option.some.inj ht).symm
    exact hle 8 (by decide)
  · trivial
  · trivial

set_option maxRecDepth 20000 in
/-- What is shown at the start and at the end of it, and what is under way in between. -/
theorem schedule_shown :
    ((World.initial.run .memory (tallyIds 'I') routerSession listedEvents).shown.map
        fun data => data.map (·.status)) = some ["OPEN"] ∧
      ((World.initial.run .memory (tallyIds 'I') routerSession
        (listedEvents ++ resolvedEvents ++ settledEvents)).shown.map
          fun data => data.map (·.status)) = some ["RESOLVED"] ∧
      (World.initial.run .memory (tallyIds 'I') routerSession
        (listedEvents ++ resolvedEvents)).shown.isSome = true ∧
      ((World.initial.run .memory (tallyIds 'I') routerSession
        (listedEvents ++ resolvedEvents)).resolutions.find? fun a => a.1 == 1).isSome = true ∧
      (((World.initial.run .memory (tallyIds 'I') routerSession
        (listedEvents ++ resolvedEvents)).hook.posts.find? fun request => request.controller == 1).map
          (World.initial.run .memory (tallyIds 'I') routerSession
            (listedEvents ++ resolvedEvents)).hook.counts) = some true := by
  decide +kernel

/-- **What is shown never goes back.**  An incident that was shown is shown in every later list,
once, in the same version or one that follows; a resolved one is shown as it was. -/
theorem incidents_never_go_back (backend : Backend) (ids : IdFactory) {s : Session}
    (hempty : s.store.incidents = .empty) (events later : List IncidentsEvent)
    (hdated : ∀ event ∈ events ++ later, event.Dated) {data data' : List IncidentResponse}
    (hdata : (World.initial.run backend ids s events).shown = some data)
    (hdata' : (World.initial.run backend ids s (events ++ later)).shown = some data') :
    ∀ r ∈ data, ∃ i j : Incident, r = servedIncident i ∧ i.Follows j ∧
      data'.filter (fun r' => r'.incidentId = r.incidentId) = [servedIncident j] ∧
      (r.status = "RESOLVED" → r ∈ data') := by
  intro r hr
  obtain ⟨hevents, hlater⟩ := List.forall_mem_append.1 hdated
  obtain ⟨hreached, hsince⟩ := World.reached_run backend ids hempty hevents
  rw [World.run_append] at hdata'
  obtain ⟨version, version', hholds, hholds', hle⟩ :=
    hsince.shown_run hempty hreached hlater hdata hdata'
  have hserved := hholds.mem_iff.1 hr
  rw [← World.servedAfter_run hlater (hholds r.incidentId).1] at hserved
  obtain ⟨i, hi, rfl⟩ := Option.map_eq_some_iff.1 hserved
  obtain ⟨j, hj, hfollows⟩ := incidentAfter_follows hempty _ (hle _) hi
  refine ⟨i, j, rfl, hfollows, ?_, fun hresolved =>
    World.mem_of_resolved hempty hholds' hserved hresolved (hle _)⟩
  change itemsAt IncidentResponse.incidentId _ data' = _
  rw [(hholds' _).2, servedAfter, hj]
  rfl

theorem incidents_never_go_back_schedule : ∃ data data' : List IncidentResponse,
    data.map (·.status) = ["OPEN"] ∧ data'.map (·.status) = ["RESOLVED"] ∧
      ∀ r ∈ data, ∃ i j : Incident, r = servedIncident i ∧ i.Follows j ∧
        data'.filter (fun r' => r'.incidentId = r.incidentId) = [servedIncident j] ∧
        (r.status = "RESOLVED" → r ∈ data') := by
  obtain ⟨hopen, hresolved, -⟩ := schedule_shown
  obtain ⟨data, hdata, hstatus⟩ := Option.map_eq_some_iff.1 hopen
  obtain ⟨data', hdata', hstatus'⟩ := Option.map_eq_some_iff.1 hresolved
  rw [List.append_assoc] at hdata'
  refine ⟨data, data', hstatus, hstatus', incidents_never_go_back .memory (tallyIds 'I')
    (by rfl) listedEvents (resolvedEvents ++ settledEvents) ?_ hdata hdata'⟩
  rw [← List.append_assoc]
  exact dated_schedule

/-! ### Requests of resolutions -/

namespace World

variable (backend ids s) in
/-- The incident was shown at some time. -/
def WasShown (w : World) (id : String) : Prop :=
  ∃ n low, Since backend ids s n low w ∧ (servedAfter backend ids w.calls s id (low id)).isSome

variable (backend ids s) in
/-- **What is requested was shown**: the committed state was, and so were the incidents whose
resolutions were requested. -/
structure Requested (w : World) : Prop where
  committed : ∀ data, w.hook.stateRef.data? = some data → ∀ r ∈ data,
    WasShown backend ids s w r.incidentId
  posts : ∀ request ∈ w.hook.posts, WasShown backend ids s w request.incidentId

variable {event : IncidentsEvent}

theorem WasShown.step (hempty : s.store.incidents = .empty) (hw : Reached backend ids s w)
    (hevent : event.Dated) {id : String} (h : WasShown backend ids s w id) :
    WasShown backend ids s (World.step backend ids s w event) id := by
  obtain ⟨n, low, hsince, hsome⟩ := h
  obtain ⟨more, hcalls, -⟩ := @step_calls backend ids s w event hevent
  refine ⟨n, low, since_step hempty hw.dated hsince hw.sound event, ?_⟩
  rw [hcalls, servedAfter_append ((hsince.low_le id).trans hsince.started)]
  exact hsome

/-- A request that is there after a step was there before, or is made for an incident that the
committed state shows open. -/
theorem step_posts {request : ResolveRequest}
    (hmem : request ∈ (World.step backend ids s w event).hook.posts) :
    (∃ before ∈ w.hook.posts, before.incidentId = request.incidentId) ∨
      w.hook.mayResolve request.incidentId = true := by
  have hold : request ∈ w.hook.posts → (∃ before ∈ w.hook.posts,
      before.incidentId = request.incidentId) ∨ w.hook.mayResolve request.incidentId = true :=
    fun h => .inl ⟨request, h, rfl⟩
  by_cases hevent : event = .unmount
  · subst hevent
    obtain ⟨before, hbefore, rfl⟩ := List.mem_map.1 hmem
    exact .inl ⟨before, hbefore, rfl⟩
  · have hstep := @step_hook backend ids s w event hevent
    generalize (World.step backend ids s w event).hook = hook at hstep hmem
    cases hstep with
    | same => exact hold hmem
    | list event hevent => exact hold hmem
    | commit => exact hold hmem
    | resolveIncident incidentId =>
        unfold IncidentsHook.resolveIncident at hmem
        split at hmem
        · rename_i hmay
          rcases List.mem_append.1 hmem with hmem | hnew
          · exact hold hmem
          · rw [List.mem_singleton.1 hnew]
            exact .inr hmay
        · exact hold hmem
    | complete controller reply =>
        exact hold ((IncidentsHook.completeResolution_frame _ _ w.hook).2.2.1.subset hmem)

/-- Only a commit changes what is committed. -/
theorem step_stateRef : (World.step backend ids s w event).hook.stateRef = w.hook.stateRef ∨
    (World.step backend ids s w event).hook.stateRef = w.hook.list.view := by
  by_cases hevent : event = .unmount
  · subst hevent
    exact .inl rfl
  · have hstep := @step_hook backend ids s w event hevent
    generalize (World.step backend ids s w event).hook = hook at hstep ⊢
    cases hstep with
    | same => exact .inl rfl
    | list event hevent => exact .inl rfl
    | commit => exact .inr rfl
    | resolveIncident incidentId =>
        left
        unfold IncidentsHook.resolveIncident
        split <;> rfl
    | complete controller reply =>
        exact .inl (IncidentsHook.completeResolution_frame _ _ w.hook).2.1

theorem Requested.step (hempty : s.store.incidents = .empty) (hw : Reached backend ids s w)
    (hsince : Since backend ids s 0 (fun _ => 0) w) (h : Requested backend ids s w)
    (hevent : event.Dated) :
    Requested backend ids s (World.step backend ids s w event) := by
  constructor
  · intro data hdata r hr
    rcases @step_stateRef backend ids s w event with hsame | hview
    · rw [hsame] at hdata
      exact (h.committed data hdata r hr).step hempty hw hevent
    · rw [hview] at hdata
      obtain ⟨version, hholds, hnow⟩ := since_shown hsince hdata
      have hshown : WasShown backend ids s w r.incidentId :=
        ⟨_, version, hnow, Option.isSome_of_eq_some (hholds.mem_iff.1 hr)⟩
      exact hshown.step hempty hw hevent
  · intro request hmem
    rcases step_posts hmem with ⟨before, hbefore, hid⟩ | hmay
    · rw [← hid]
      exact (h.posts before hbefore).step hempty hw hevent
    · obtain ⟨-, data, hdata, item, hitem, hid, -⟩ := IncidentsHook.mayResolve_spec hmay
      rw [← hid]
      exact (h.committed data hdata item hitem).step hempty hw hevent

theorem Requested.run (hempty : s.store.incidents = .empty) (hw : Reached backend ids s w)
    (hsince : Since backend ids s 0 (fun _ => 0) w) (h : Requested backend ids s w)
    {events : List IncidentsEvent} (hevents : ∀ event ∈ events, event.Dated) :
    Requested backend ids s (w.run backend ids s events) := by
  induction events generalizing w with
  | nil => exact h
  | cons event events ih =>
      obtain ⟨hevent, hevents⟩ := List.forall_mem_cons.1 hevents
      exact ih (hw.step hempty hevent) (since_step hempty hw.dated hsince hw.sound event)
        (h.step hempty hw hsince hevent) hevents

/-! ### Lists of later requests -/

variable (backend ids s) in
/-- The requests after a number are answered as of a point of the history or later. -/
structure Fresh (number n : ℕ) (w : World) : Prop where
  started : n ≤ w.calls.length
  lists : ∀ a ∈ w.lists, number < a.1 →
    ∃ m, n ≤ m ∧ m ≤ w.calls.length ∧ ListedAfter backend ids w.calls s m a.2

/-- A step answers at most one list, as of now. -/
theorem step_lists : (World.step backend ids s w event).lists = w.lists ∨
    ∃ a, (World.step backend ids s w event).lists = w.lists ++ [a] ∧
      ListedAfter backend ids w.calls s w.calls.length a.2 := by
  cases event with
  | answerList number =>
      rw [step, answerList]
      split
      · split
        · rename_i response hresponse
          exact .inr ⟨_, rfl, listed_now hresponse⟩
        · exact .inl rfl
      · exact .inl rfl
  | answerResolution controller now =>
      left
      rw [step, answerResolution]
      split <;> rfl
  | deliverList number completedAt =>
      left
      rw [step]
      split <;> rfl
  | deliverResolution controller =>
      left
      rw [step]
      split <;> rfl
  | _ => exact .inl rfl

theorem Fresh.step {number n : ℕ} (h : Fresh backend ids s number n w) (hevent : event.Dated) :
    Fresh backend ids s number n (World.step backend ids s w event) := by
  obtain ⟨more, hcalls, -⟩ := @step_calls backend ids s w event hevent
  have hle : w.calls.length ≤ (w.calls ++ more).length := by
    rw [List.length_append]
    exact Nat.le_add_right ..
  refine ⟨?_, fun a ha hnumber => ?_⟩
  · rw [hcalls]
    exact h.started.trans hle
  · have hold : (∃ m, n ≤ m ∧ m ≤ w.calls.length ∧ ListedAfter backend ids w.calls s m a.2) →
        ∃ m, n ≤ m ∧ m ≤ (World.step backend ids s w event).calls.length ∧
          ListedAfter backend ids (World.step backend ids s w event).calls s m a.2 := by
      rintro ⟨m, hnm, hm, hlisted⟩
      rw [hcalls]
      exact ⟨m, hnm, hm.trans hle, (listedAfter_append hm _).2 hlisted⟩
    rcases @step_lists backend ids s w event with hsame | ⟨b, hnew, hlisted⟩
    · rw [hsame] at ha
      exact hold (h.lists a ha hnumber)
    · rw [hnew] at ha
      rcases List.mem_append.1 ha with hmem | hmem
      · exact hold (h.lists a hmem hnumber)
      · rw [List.mem_singleton.1 hmem] at hold ⊢
        exact hold ⟨_, h.started, le_rfl, hlisted⟩

theorem Fresh.run {number n : ℕ} (h : Fresh backend ids s number n w)
    {events : List IncidentsEvent} (hevents : ∀ event ∈ events, event.Dated) :
    Fresh backend ids s number n (w.run backend ids s events) := by
  induction events generalizing w with
  | nil => exact h
  | cons event events ih =>
      obtain ⟨hevent, hevents⟩ := List.forall_mem_cons.1 hevents
      exact ih (h.step hevent) hevents

/-! ### Deliveries -/

/-- The list that answers a request is the next to be taken in, if it is delivered. -/
def Takes (w : World) (number : ℕ) : Prop :=
  w.hook.list.isMounted = true ∧ w.hook.list.requestId = number ∧ Outstanding w.hook.list ∧
    (w.lists.find? fun a => a.1 == number).isSome = true

/-- The answer to a `POST` counts, if it is delivered. -/
def Delivers (w : World) (controller : ℕ) (resolved : IncidentResponse) : Prop :=
  w.resolutions.find? (fun a => a.1 == controller) = some (controller, resolved) ∧
    ∃ request, w.hook.posts.find? (fun request => request.controller == controller) = some request ∧
      w.hook.counts request = true

theorem step_takes {number : ℕ} (h : w.Takes number) (completedAt : String) : ∃ a ∈ w.lists,
    a.1 = number ∧ (World.step backend ids s w (.deliverList number completedAt)).calls = w.calls ∧
      (World.step backend ids s w (.deliverList number completedAt)).shown =
        (UseIncidents.onSuccess ⟨a.2, completedAt⟩ w.hook.list.view).data? := by
  obtain ⟨hmounted, rfl, hout, hsome⟩ := h
  obtain ⟨a, hfind⟩ := Option.isSome_iff_exists.1 hsome
  have hnumber := List.find?_some hfind
  refine ⟨a, List.mem_of_find?_eq_some hfind, beq_iff_eq.1 hnumber, ?_, ?_⟩
  · rw [step, hfind]
    rfl
  · rw [step, hfind]
    exact congrArg IncidentsState.data? (complete_success useIncidents hmounted hout _)

theorem step_delivers {controller : ℕ} {resolved : IncidentResponse}
    (h : w.Delivers controller resolved) : ∃ request ∈ w.hook.posts,
      request.controller = controller ∧
      (World.step backend ids s w (.deliverResolution controller)).calls = w.calls ∧
      (World.step backend ids s w (.deliverResolution controller)).lists = w.lists ∧
      (World.step backend ids s w (.deliverResolution controller)).hook.list = { w.hook.list with
        view := IncidentsHook.onResolved request.incidentId resolved w.hook.list.view } := by
  obtain ⟨hanswer, request, hfind, hcounts⟩ := h
  have hcontroller := List.find?_some hfind
  refine ⟨request, List.mem_of_find?_eq_some hfind, beq_iff_eq.1 hcontroller, ?_, ?_, ?_⟩
  · rw [step, hanswer]
  · rw [step, hanswer]
  · rw [step, hanswer]
    change (w.hook.completeResolution controller (.success resolved)).list = _
    have hend : request.mayEnd (.success resolved : Reply IncidentResponse FetchError) = true := rfl
    rw [IncidentsHook.completeResolution, hfind]
    simp only [hend, if_true]
    rw [if_pos]
    · rfl
    · exact hcounts

/-- What an answer that counts is about: an incident that was shown, resolved for good. -/
theorem Delivers.spec {controller : ℕ} {resolved : IncidentResponse}
    (h : w.Delivers controller resolved) (hw : Sound backend ids s w) :
    resolved.status = "RESOLVED" ∧
      (∃ m ≤ w.calls.length, servedAfter backend ids w.calls s resolved.incidentId m = some resolved) ∧
      ∀ request ∈ w.hook.posts, request.controller = controller →
        request.incidentId = resolved.incidentId := by
  obtain ⟨-, hstatus, hserved, hof⟩ := hw.resolved _ (List.mem_of_find?_eq_some h.1)
  exact ⟨hstatus, hserved, hof⟩

/-- **Taken into a list that is shown**, a resolved incident is there. -/
theorem holds_delivered (hempty : s.store.incidents = .empty) (hw : Reached backend ids s w)
    (hrequested : Requested backend ids s w) {controller : ℕ} {resolved : IncidentResponse}
    (h : w.Delivers controller resolved) {current : List IncidentResponse}
    (hcurrent : w.shown = some current) {m : ℕ} (hm : m ≤ w.calls.length)
    (hserved : servedAfter backend ids w.calls s resolved.incidentId m = some resolved) :
    ∃ data version, (World.step backend ids s w (.deliverResolution controller)).shown = some data ∧
      Holds backend ids s w.calls data version ∧ m ≤ version resolved.incidentId := by
  obtain ⟨request, hmem, hcontroller, -, -, hlist⟩ := @step_delivers backend ids s w _ _ h
  have hid := (h.spec hw.sound).2.2 request hmem hcontroller
  obtain ⟨n, low, hsince, hsome⟩ := hrequested.posts request hmem
  obtain ⟨version, hholds, hle⟩ := hsince.shown current hcurrent
  rw [hid] at hsome
  obtain ⟨version', hholds', -, hversion⟩ := hholds.withResolved hempty hw.dated hm hserved
  refine ⟨_, version', ?_, hholds', hversion (servedAfter_isSome hempty (hle _) hsome)⟩
  change (World.step backend ids s w (.deliverResolution controller)).hook.list.view.data? = _
  have hcurrent : w.hook.list.view.data? = some current := hcurrent
  rw [hlist, IncidentsHook.data?_onResolved, hcurrent, hid]
  rfl

/-- **A list that a later request is answered with** is taken in, and is not older than the point
as of which such requests are answered. -/
theorem holds_taken (hempty : s.store.incidents = .empty) (hw : Reached backend ids s w)
    (hsince : Since backend ids s 0 (fun _ => 0) w) {number bound n : ℕ}
    (hfresh : Fresh backend ids s bound n w) (hnumber : bound < number) (h : w.Takes number)
    (completedAt : String) : ∃ data version,
      (World.step backend ids s w (.deliverList number completedAt)).shown = some data ∧
        Holds backend ids s w.calls data version ∧ ∀ id, n ≤ version id := by
  obtain ⟨a, ha, rfl, -, hview⟩ := @step_takes backend ids s w number h completedAt
  obtain ⟨m, hnm, hm, hlisted⟩ := hfresh.lists a ha hnumber
  rw [hview]
  cases hcurrent : w.hook.list.view.data? with
  | none =>
      exact ⟨_, fun _ => m, IncidentsHook.data?_onSuccess_of_none hcurrent,
        holds_of_listed hempty hm hlisted, fun _ => hnm⟩
  | some current =>
      obtain ⟨version, hholds, -⟩ := hsince.shown current hcurrent
      exact ⟨_, _, IncidentsHook.data?_onSuccess_of_some hcurrent,
        hholds.merge hempty hw.dated hm hlisted, fun _ => hnm.trans (le_max_right _ _)⟩

/-- Shown from a point on where it was resolved, an incident is shown resolved in every later
list. -/
theorem mem_shown_run (hempty : s.store.incidents = .empty) (hw : Reached backend ids s w)
    {data data' : List IncidentResponse} (hdata : w.shown = some data) {version : String → ℕ}
    (hholds : Holds backend ids s w.calls data version) {r : IncidentResponse} {m : ℕ}
    (hm : m ≤ w.calls.length)
    (hserved : servedAfter backend ids w.calls s r.incidentId m = some r)
    (hresolved : r.status = "RESOLVED") (hle : m ≤ version r.incidentId)
    {later : List IncidentsEvent} (hlater : ∀ event ∈ later, event.Dated)
    (hdata' : (w.run backend ids s later).shown = some data') : r ∈ data' := by
  obtain ⟨version', hholds', hle'⟩ :=
    ((since_of_holds hdata hholds).run hempty hw hlater).shown data' hdata'
  rw [← servedAfter_run hlater hm] at hserved
  exact mem_of_resolved hempty hholds' hserved hresolved (hle.trans (hle' _))

theorem requested_initial : Requested backend ids s initial :=
  ⟨fun _ h => (Option.some_ne_none _ h.symm).elim, fun _ h => absurd h List.not_mem_nil⟩

end World

/-- **The answer to a resolution is kept.**  Where it comes in while a list is shown, every later
list shows the incident resolved.  Without a list it changes nothing that is shown, and the
incident is shown resolved once the answer to a request that was sent after it has been taken
in. -/
theorem resolution_kept (backend : Backend) (ids : IdFactory) {s : Session}
    (hempty : s.store.incidents = .empty) (events later : List IncidentsEvent) {controller : ℕ}
    (hdated : ∀ event ∈ events ++ .deliverResolution controller :: later, event.Dated)
    {r : IncidentResponse}
    (hdelivers : (World.initial.run backend ids s events).Delivers controller r) :
    r.status = "RESOLVED" ∧
      ((World.initial.run backend ids s events).shown ≠ none → ∀ data',
        (World.initial.run backend ids s
          (events ++ .deliverResolution controller :: later)).shown = some data' → r ∈ data') ∧
      ((World.initial.run backend ids s events).shown = none →
        (World.initial.run backend ids s (events ++ [.deliverResolution controller])).hook.list =
          (World.initial.run backend ids s events).hook.list ∧
        ∀ between number completedAt after,
          later = between ++ .deliverList number completedAt :: after →
          (World.initial.run backend ids s events).hook.list.requestId < number →
          (World.initial.run backend ids s
            (events ++ .deliverResolution controller :: between)).Takes number → ∀ data',
            (World.initial.run backend ids s
              (events ++ .deliverResolution controller :: later)).shown = some data' →
              r ∈ data') := by
  obtain ⟨hevents, hrest⟩ := List.forall_mem_append.1 hdated
  obtain ⟨hdelivery, hlater⟩ := List.forall_mem_cons.1 hrest
  obtain ⟨hw, hsince⟩ := World.reached_run backend ids hempty hevents
  have hrequested := World.requested_initial.run hempty World.reached_initial
    (@World.since_initial backend ids s) hevents
  simp only [World.run_append, World.run_cons]
  generalize World.initial.run backend ids s events = w at *
  obtain ⟨hresolved, ⟨m, hm, hserved⟩, -⟩ := hdelivers.spec hw.sound
  obtain ⟨request, -, -, hcalls, hlists, hlist⟩ := @World.step_delivers backend ids s w _ _ hdelivers
  have hw' := hw.step hempty hdelivery
  have hsince' := World.since_step hempty hw.dated hsince hw.sound (.deliverResolution controller)
  refine ⟨hresolved, fun hshown data' hdata' => ?_, fun hnone => ⟨?_, ?_⟩⟩
  · -- A list is shown: the incident is in it, resolved, from here on.
    obtain ⟨current, hcurrent⟩ := Option.ne_none_iff_exists'.1 hshown
    obtain ⟨data, version, hdata, hholds, hle⟩ :=
      World.holds_delivered hempty hw hrequested hdelivers hcurrent hm hserved
    rw [← hcalls] at hholds hm hserved
    exact World.mem_shown_run hempty hw' hdata hholds hm hserved hresolved hle hlater hdata'
  · -- No list is shown: there is nothing to take the incident into.
    change (World.step backend ids s w (.deliverResolution controller)).hook.list = w.hook.list
    rw [hlist, IncidentsHook.onResolved_of_data?_eq_none hnone]
  · rintro between number completedAt after rfl hnumber htakes data' hdata'
    -- Every list that a later request is answered with is from now or later.
    obtain ⟨hbetween, hafter⟩ := List.forall_mem_append.1 hlater
    obtain ⟨htaken, hafter⟩ := List.forall_mem_cons.1 hafter
    have hfresh : World.Fresh backend ids s w.hook.list.requestId w.calls.length
        (World.step backend ids s w (.deliverResolution controller)) := by
      refine ⟨hcalls ▸ le_rfl, fun a ha hlater => ?_⟩
      rw [hlists] at ha
      exact absurd (hw.sound.numbers a ha) (Nat.not_le_of_lt hlater)
    have hfresh' := hfresh.run hbetween
    have hreached := hw'.run hempty hbetween
    have hsince'' := hsince'.run hempty hw' hbetween
    rw [World.run_append, World.run_cons] at hdata'
    obtain ⟨data, version, hdata, hholds, hle⟩ :=
      World.holds_taken hempty hreached hsince'' hfresh' hnumber htakes completedAt
    obtain ⟨a, -, -, hcalls', -⟩ := @World.step_takes backend ids s _ number htakes completedAt
    have hm' : m ≤ (World.step backend ids s w (.deliverResolution controller)).calls.length :=
      hcalls ▸ hm
    rw [← hcalls, ← World.servedAfter_run hbetween hm', ← hcalls'] at hserved
    have hm'' := hm.trans hfresh'.started
    rw [← hcalls'] at hholds hm''
    exact World.mem_shown_run hempty (hreached.step hempty htaken) hdata hholds hm'' hserved
      hresolved (hm.trans (hle _)) hafter hdata'

theorem resolution_kept_schedule : ∃ (r : IncidentResponse) (data : List IncidentResponse),
    r.status = "RESOLVED" ∧ r ∈ data ∧
      (World.initial.run .memory (tallyIds 'I') routerSession
        (listedEvents ++ resolvedEvents ++ settledEvents)).shown = some data := by
  obtain ⟨-, hshown, hbefore, hanswer, hcounts⟩ := schedule_shown
  obtain ⟨⟨controller, r⟩, hfind⟩ := Option.isSome_iff_exists.1 hanswer
  obtain ⟨request, hrequest, hcounts⟩ := Option.map_eq_some_iff.1 hcounts
  obtain ⟨data, hdata, -⟩ := Option.map_eq_some_iff.1 hshown
  obtain rfl : controller = 1 := beq_iff_eq.1 (by simpa using List.find?_some hfind)
  obtain ⟨hresolved, hkept, -⟩ := resolution_kept .memory (tallyIds 'I') (by rfl)
    (listedEvents ++ resolvedEvents) [.deliverList 2 "2026-01-01T00:00:15.000Z"] dated_schedule
    ⟨hfind, request, hrequest, hcounts⟩
  exact ⟨r, data, hresolved, hkept (Option.isSome_iff_ne_none.1 hbefore) data hdata, hdata⟩

/-- A refresh fails, and the next one is answered before the resolution and comes in after it. -/
def overtakenEvents : List IncidentsEvent :=
  [.resolveIncident "I", .refresh, .failList 2 .other, .refresh, .answerList 3,
    .answerResolution 1 (.utc 8), .deliverResolution 1,
    .deliverList 3 "2026-01-01T00:00:15.000Z"]

set_option maxRecDepth 20000 in
/-- **An answer that comes in without a list is lost**: the incident is shown open after it was
answered to be resolved. -/
theorem resolution_lost :
    ((World.initial.run .memory (tallyIds 'I') routerSession
      (listedEvents ++ overtakenEvents)).shown.map fun data => data.map (·.status)) =
        some ["OPEN"] ∧
      ((World.initial.run .memory (tallyIds 'I') routerSession
        (listedEvents ++ overtakenEvents)).resolutions.map fun a => a.2.status) = ["RESOLVED"] := by
  decide +kernel

end Frontend
end MetaRne
