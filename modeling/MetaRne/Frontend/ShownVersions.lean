/-
# The versions that the incidents view shows

What the hook shows of an incident is the version of some point of the backend's history, and
that point only moves forward (`World.run_since`).  A list that was dropped after a failed
refresh does not come back older: the request that is answered next was sent after it was
dropped, so its answer has everything that had been shown.

An answer to a resolution is another matter.  It is taken into a list that is shown, and then
the incident stays resolved.  Without a list it is lost, and the one request under way may
still show the incident open; a request sent after it cannot.
-/

import MetaRne.Frontend.IncidentsWorld

namespace MetaRne
namespace Frontend

open Api Library Library.Effect Library.KeyedMerge Library.Polling Python

variable {backend : Backend} {ids : IdFactory} {s : Session} {calls more : List IncidentCall}

/-! ### One history -/

/-- More calls leave what was. -/
theorem servedAfter_append {n : ℕ} (h : n ≤ calls.length) (id : String) :
    servedAfter backend ids (calls ++ more) s id n = servedAfter backend ids calls s id n := by
  rw [servedAfter, servedAfter, incidentAfter, incidentAfter, List.take_append_of_le_length h]

theorem listedAfter_append {n : ℕ} (h : n ≤ calls.length) (response : List IncidentResponse) :
    ListedAfter backend ids (calls ++ more) s n response ↔
      ListedAfter backend ids calls s n response := by
  rw [ListedAfter, ListedAfter, List.take_append_of_le_length h]

/-- **A list that is held** has of each incident its version of some point of the history. -/
def Holds (backend : Backend) (ids : IdFactory) (s : Session) (calls : List IncidentCall)
    (data : List IncidentResponse) (version : String → ℕ) : Prop :=
  ∀ id, version id ≤ calls.length ∧ itemsAt IncidentResponse.incidentId id data =
    (servedAfter backend ids calls s id (version id)).toList

theorem Holds.append {data : List IncidentResponse} {version : String → ℕ}
    (h : Holds backend ids s calls data version) :
    Holds backend ids s (calls ++ more) data version := by
  intro id
  obtain ⟨hle, hitems⟩ := h id
  rw [servedAfter_append hle]
  exact ⟨hle.trans (by rw [List.length_append]; exact Nat.le_add_right ..), hitems⟩

theorem holds_of_listed (hempty : s.store.incidents = .empty) {n : ℕ} (hn : n ≤ calls.length)
    {response : List IncidentResponse} (h : ListedAfter backend ids calls s n response) :
    Holds backend ids s calls response fun _ => n :=
  fun id => ⟨hn, itemsAt_of_listed hempty h id⟩

/-- What a list has of an incident. -/
theorem Holds.mem_iff {data : List IncidentResponse} {version : String → ℕ}
    (h : Holds backend ids s calls data version) {r : IncidentResponse} :
    r ∈ data ↔ servedAfter backend ids calls s r.incidentId (version r.incidentId) = some r := by
  have hitem : r ∈ itemsAt IncidentResponse.incidentId r.incidentId data ↔ r ∈ data := by
    rw [mem_itemsAt, and_iff_left rfl]
  rw [← hitem, (h r.incidentId).2, Option.mem_toList]

section

variable (hempty : s.store.incidents = .empty) (hdated : ∀ call ∈ calls, call.Dated)
include hempty hdated

/-- A list that comes in moves each incident to the later of the two points. -/
theorem Holds.merge {current incoming : List IncidentResponse} {version : String → ℕ} {n : ℕ}
    (h : Holds backend ids s calls current version) (hn : n ≤ calls.length)
    (hlisted : ListedAfter backend ids calls s n incoming) :
    Holds backend ids s calls (mergeIncidentLists incoming current) fun id =>
      max (version id) n := by
  intro id
  refine ⟨max_le (h id).1 hn, ?_⟩
  rw [mergeIncidentLists, itemsAt_mergeBy incidentId_pickIncident
    (itemsAt_of_listed hempty hlisted id) (h id).2, merge_servedAfter hempty hdated]

end

theorem incidentId_servedAfter (hempty : s.store.incidents = .empty) {id : String} {n : ℕ}
    {r : IncidentResponse} (h : servedAfter backend ids calls s id n = some r) :
    r.incidentId = id := by
  obtain ⟨i, hi, rfl⟩ := Option.map_eq_some_iff.1 h
  exact (sessionAfter_ledger backend ids hempty _).filed hi

theorem withResolved_cons (id : String) (resolved current : IncidentResponse)
    (data : List IncidentResponse) : IncidentsHook.withResolved id resolved (current :: data) =
      if current.incidentId = id then pickIncident current resolved :: data
      else current :: IncidentsHook.withResolved id resolved data := by
  unfold IncidentsHook.withResolved
  rw [List.findIdx?_cons]
  by_cases h : current.incidentId = id
  · rw [if_pos h, beq_iff_eq.2 h]
    rfl
  · rw [if_neg h, beq_false_of_ne h]
    cases data.findIdx? fun item => item.incidentId == id <;> rfl

/-- A resolved incident stands against the one of its id, and changes no other. -/
theorem itemsAt_withResolved {id : String} {resolved : IncidentResponse}
    (hid : resolved.incidentId = id) {data : List IncidentResponse}
    {current : Option IncidentResponse}
    (h : itemsAt IncidentResponse.incidentId id data = current.toList) :
    itemsAt IncidentResponse.incidentId id (IncidentsHook.withResolved id resolved data) =
        (current.map fun item => pickIncident item resolved).toList ∧
      ∀ id', id' ≠ id →
        itemsAt IncidentResponse.incidentId id' (IncidentsHook.withResolved id resolved data) =
          itemsAt IncidentResponse.incidentId id' data := by
  induction data generalizing current with
  | nil =>
      cases current with
      | none => exact ⟨rfl, fun _ _ => rfl⟩
      | some item => cases h
  | cons item data ih =>
      rw [withResolved_cons]
      by_cases hitem : item.incidentId = id
      · have hpick : (pickIncident item resolved).incidentId = id := by
          rw [incidentId_pickIncident item resolved (hitem.trans hid.symm), hid]
        rw [itemsAt_cons_of_eq hitem] at h
        rw [if_pos hitem, itemsAt_cons_of_eq hpick]
        cases current with
        | none => cases h
        | some found =>
            obtain ⟨rfl, hrest⟩ := List.cons.inj h
            rw [hrest]
            refine ⟨rfl, fun id' hne => ?_⟩
            rw [itemsAt_cons_of_ne (hpick ▸ hne.symm), itemsAt_cons_of_ne (hitem ▸ hne.symm)]
      · rw [itemsAt_cons_of_ne hitem] at h
        obtain ⟨hself, hother⟩ := ih h
        rw [if_neg hitem, itemsAt_cons_of_ne hitem]
        refine ⟨hself, fun id' hne => ?_⟩
        by_cases hitem' : item.incidentId = id'
        · rw [itemsAt_cons_of_eq hitem', itemsAt_cons_of_eq hitem', hother id' hne]
        · rw [itemsAt_cons_of_ne hitem', itemsAt_cons_of_ne hitem', hother id' hne]

/-- A resolved incident moves its own entry, if it has one, to the point where it was resolved. -/
theorem Holds.withResolved (hempty : s.store.incidents = .empty)
    (hdated : ∀ call ∈ calls, call.Dated) {data : List IncidentResponse} {version : String → ℕ}
    (h : Holds backend ids s calls data version) {id : String} {m : ℕ} (hm : m ≤ calls.length)
    {resolved : IncidentResponse} (hserved : servedAfter backend ids calls s id m = some resolved) :
    ∃ version', Holds backend ids s calls (IncidentsHook.withResolved id resolved data) version' ∧
      (∀ id', version id' ≤ version' id') ∧
      ((servedAfter backend ids calls s id (version id)).isSome → m ≤ version' id) := by
  have hitems := itemsAt_withResolved (incidentId_servedAfter hempty hserved) (h id).2
  cases hcurrent : servedAfter backend ids calls s id (version id) with
  | none =>
      refine ⟨version, fun id' => ⟨(h id').1, ?_⟩, fun _ => le_rfl, fun hsome => by cases hsome⟩
      by_cases hid : id' = id
      · subst hid
        rw [hitems.1, hcurrent]
        rfl
      · rw [hitems.2 id' hid, (h id').2]
  | some current =>
      refine ⟨Function.update version id (max (version id) m), fun id' => ?_, fun id' => ?_, ?_⟩
      · by_cases hid : id' = id
        · subst hid
          rw [Function.update_self, hitems.1, ← merge_servedAfter hempty hdated, hcurrent, hserved]
          exact ⟨max_le (h id').1 hm, rfl⟩
        · rw [Function.update_of_ne hid, hitems.2 id' hid]
          exact h id'
      · by_cases hid : id' = id
        · subst hid
          rw [Function.update_self]
          exact le_max_left _ _
        · rw [Function.update_of_ne hid]
      · intro _
        rw [Function.update_self]
        exact le_max_right _ _

/-! ### Steps of the world -/

namespace World

variable (backend ids s) in
/-- **What is under way to the hook** is what the backend answered: lists to requests that were
sent, and of resolved incidents the versions that they have for good. -/
structure Sound (w : World) : Prop where
  polling : Polling.Invariant w.hook.list
  numbers : ∀ a ∈ w.lists, a.1 ≤ w.hook.list.requestId
  listed : ∀ a ∈ w.lists, ∃ n ≤ w.calls.length, ListedAfter backend ids w.calls s n a.2
  controllers : ∀ request ∈ w.hook.posts, request.controller ≤ w.hook.controllers
  distinct : (w.hook.posts.map (·.controller)).Nodup
  resolved : ∀ a ∈ w.resolutions, a.1 ≤ w.hook.controllers ∧ a.2.status = "RESOLVED" ∧
    (∃ m ≤ w.calls.length, servedAfter backend ids w.calls s a.2.incidentId m = some a.2) ∧
    ∀ request ∈ w.hook.posts, request.controller = a.1 → request.incidentId = a.2.incidentId

variable (backend ids s) in
/-- **What has been the case since a point of the history**: a list that is shown has of every
incident at least the version `low`, and while none is shown the request under way is answered
as of that point or later. -/
structure Since (n : ℕ) (low : String → ℕ) (w : World) : Prop where
  started : n ≤ w.calls.length
  low_le : ∀ id, low id ≤ n
  shown : ∀ data, w.shown = some data →
    ∃ version, Holds backend ids s w.calls data version ∧ ∀ id, low id ≤ version id
  hidden : w.shown = none → Outstanding w.hook.list → ∀ a ∈ w.lists,
    a.1 = w.hook.list.requestId →
      ∃ m, n ≤ m ∧ m ≤ w.calls.length ∧ ListedAfter backend ids w.calls s m a.2

variable {w : World} {event : IncidentsEvent}

/-- A step adds calls to the history. -/
theorem step_calls (hevent : event.Dated) : ∃ more, (step backend ids s w event).calls =
    w.calls ++ more ∧ ∀ call ∈ more, call.Dated := by
  have hnone : ∃ more, w.calls = w.calls ++ more ∧ ∀ call ∈ more, call.Dated :=
    ⟨[], (List.append_nil _).symm, fun _ h => absurd h List.not_mem_nil⟩
  cases event with
  | call c =>
      refine ⟨[c], rfl, fun call hcall => ?_⟩
      rw [List.mem_singleton.1 hcall]
      exact hevent
  | answerList number =>
      rw [step, answerList]
      split
      · split <;> exact hnone
      · exact hnone
  | answerResolution controller now =>
      rw [step, answerResolution]
      split
      · exact hnone
      · refine ⟨_, rfl, fun call hcall => ?_⟩
        rw [List.mem_singleton.1 hcall]
        exact hevent
  | deliverList number completedAt =>
      rw [step]
      split <;> exact hnone
  | deliverResolution controller =>
      rw [step]
      split <;> exact hnone
  | _ => exact hnone

/-! ### What is under way -/

theorem exists_listed_append {response : List IncidentResponse}
    (h : ∃ n ≤ calls.length, ListedAfter backend ids calls s n response) :
    ∃ n ≤ (calls ++ more).length, ListedAfter backend ids (calls ++ more) s n response := by
  obtain ⟨n, hn, hlisted⟩ := h
  refine ⟨n, hn.trans ?_, (listedAfter_append hn response).2 hlisted⟩
  rw [List.length_append]
  exact Nat.le_add_right ..

theorem sound_initial : Sound backend ids s initial :=
  ⟨invariant_initial _, fun _ h => absurd h List.not_mem_nil, fun _ h => absurd h List.not_mem_nil,
    fun _ h => absurd h List.not_mem_nil, List.nodup_nil, fun _ h => absurd h List.not_mem_nil⟩

/-- What happens to the list of the hook. -/
theorem Sound.onList (h : Sound backend ids s w)
    (event : Event (Completed (List IncidentResponse)) FetchError) :
    Sound backend ids s (w.onList event) := by
  refine ⟨invariant_step useIncidents h.polling event, fun a ha => ?_, h.listed, h.controllers,
    h.distinct, h.resolved⟩
  have hle := h.numbers a ha
  change a.1 ≤ (Polling.step useIncidents w.hook.list event).requestId
  rcases step_requestId useIncidents w.hook.list event with hnext | ⟨hsame, -⟩
  · omega
  · omega

/-- More calls. -/
theorem Sound.append (h : Sound backend ids s w) :
    Sound backend ids s { w with calls := w.calls ++ more } := by
  refine ⟨h.polling, h.numbers, fun a ha => exists_listed_append (h.listed a ha), h.controllers,
    h.distinct, fun a ha => ?_⟩
  obtain ⟨hcontroller, hstatus, ⟨m, hm, hserved⟩, hposts⟩ := h.resolved a ha
  refine ⟨hcontroller, hstatus, ⟨m, hm.trans ?_, ?_⟩, hposts⟩
  · change w.calls.length ≤ (w.calls ++ more).length
    rw [List.length_append]
    exact Nat.le_add_right ..
  · change servedAfter backend ids (w.calls ++ more) s _ m = _
    rw [servedAfter_append hm]
    exact hserved

/-- A list of the backend as it is. -/
theorem listed_now {response : List IncidentResponse}
    (h : getIncidents backend (w.session backend ids s) = some response) :
    ListedAfter backend ids w.calls s w.calls.length response := by
  rw [ListedAfter, List.take_length]
  exact h

/-- What a resolution answers is what is there after it. -/
theorem get?_of_resolveStep {incidentId : String} {now : Datetime} {incident : Incident}
    {s s' : Session} (h : ResolveStep incidentId now s (some incident) s') :
    s'.store.incidents.get? incidentId = some incident := by
  cases h with
  | already existing hsome hresolved => exact hsome
  | resolved existing t hinstant hsome hopen hle => exact Dict.get?_set_self ..

/-- **A resolution that the client accepts** is the version of its incident that the backend
has from then on. -/
theorem of_resolution? (hempty : s.store.incidents = .empty) {incidentId : String} {now : Datetime}
    {resolved : IncidentResponse}
    (h : resolution? incidentId (answer backend ids (.resolve incidentId now)
      (w.session backend ids s)).1 = some resolved) :
    resolved.status = "RESOLVED" ∧ resolved.incidentId = incidentId ∧
      servedAfter backend ids (w.calls ++ [.resolve incidentId now]) s incidentId
        (w.calls.length + 1) = some resolved := by
  have hs := sessionAfter_ledger backend ids hempty w.calls
  have hanswered := answered backend hs (.resolve incidentId now)
  have hnext : (sessionAfter backend ids (w.calls ++ [.resolve incidentId now]) s) =
      (answer backend ids (.resolve incidentId now) (sessionAfter backend ids w.calls s)).2 := by
    rw [sessionAfter, Runs.serve_concat]
    rfl
  have hlength : (w.calls ++ [IncidentCall.resolve incidentId now]).take (w.calls.length + 1) =
      w.calls ++ [.resolve incidentId now] := List.take_of_length_le (by simp)
  rw [session] at h
  rw [servedAfter, incidentAfter, hlength, hnext]
  generalize hreply : answer backend ids (.resolve incidentId now)
    (sessionAfter backend ids w.calls s) = outcome at h hanswered
  obtain ⟨reply, s'⟩ := outcome
  cases hanswered with
  | raised hsame => cases h
  | @resolved _ _ r _ hstep =>
      cases r with
      | none => cases h
      | some incident =>
          obtain ⟨accepted, haccepted, h⟩ := Option.bind_eq_some_iff.1 h
          split_ifs at h with hresolved
          cases h
          obtain rfl := incidentResponse?_served haccepted
          refine ⟨hresolved.2.1, hresolved.1, ?_⟩
          change Option.map servedIncident (s'.store.incidents.get? incidentId) = _
          rw [get?_of_resolveStep hstep]
          rfl

/-- The backend answers a `POST`. -/
theorem Sound.answerResolution (hempty : s.store.incidents = .empty) (h : Sound backend ids s w)
    (controller : ℕ) (now : Datetime) :
    Sound backend ids s (w.answerResolution backend ids s controller now) := by
  unfold World.answerResolution
  cases hfind : w.hook.posts.find? fun request => request.controller == controller with
  | none => exact h
  | some request =>
      have hmem := List.mem_of_find?_eq_some hfind
      have hcontroller : request.controller = controller := by
        have hfound := List.find?_some hfind
        exact beq_iff_eq.1 hfound
      have hmore := @Sound.append backend ids s [.resolve request.incidentId now] w h
      refine ⟨hmore.polling, hmore.numbers, hmore.listed, hmore.controllers, hmore.distinct,
        fun a ha => ?_⟩
      rcases List.mem_append.1 ha with hold | hnew
      · exact hmore.resolved a hold
      · obtain ⟨resolved, hresolved, rfl⟩ := List.mem_map.1 hnew
        rw [Option.mem_toList] at hresolved
        obtain ⟨hstatus, hid, hserved⟩ := of_resolution? hempty hresolved
        refine ⟨hcontroller ▸ h.controllers request hmem, hstatus, ⟨w.calls.length + 1, ?_, ?_⟩,
          fun request' hmem' hcontroller' => ?_⟩
        · change w.calls.length + 1 ≤ (w.calls ++ _).length
          rw [List.length_append]
          rfl
        · rw [hid]
          exact hserved
        · rw [hid, List.inj_on_of_nodup_map h.distinct hmem' hmem (hcontroller'.trans hcontroller.symm)]

/-- A request of the hook completes. -/
theorem Sound.completeResolution (h : Sound backend ids s w) (controller : ℕ)
    (reply : Reply IncidentResponse FetchError) :
    Sound backend ids s { w with hook := w.hook.completeResolution controller reply } := by
  obtain ⟨hcontrollers, -, hposts, view, hlist, -⟩ :=
    IncidentsHook.completeResolution_frame controller reply w.hook
  refine ⟨?_, fun a ha => ?_, h.listed, fun request hmem => ?_, ?_, fun a ha => ?_⟩
  · change Polling.Invariant (w.hook.completeResolution controller reply).list
    rw [hlist]
    exact ⟨h.polling.marker, h.polling.numbers, h.polling.outstanding, h.polling.live⟩
  · change a.1 ≤ (w.hook.completeResolution controller reply).list.requestId
    rw [hlist]
    exact h.numbers a ha
  · change request.controller ≤ (w.hook.completeResolution controller reply).controllers
    rw [hcontrollers]
    exact h.controllers request (hposts.subset hmem)
  · exact h.distinct.sublist (hposts.map _)
  · obtain ⟨hcontroller, hstatus, hserved, hof⟩ := h.resolved a ha
    refine ⟨?_, hstatus, hserved, fun request hmem => hof request (hposts.subset hmem)⟩
    change a.1 ≤ (w.hook.completeResolution controller reply).controllers
    rw [hcontrollers]
    exact hcontroller

/-- The hook sends a `POST`. -/
theorem Sound.resolveIncident (h : Sound backend ids s w) (incidentId : String) :
    Sound backend ids s { w with hook := w.hook.resolveIncident incidentId } := by
  unfold IncidentsHook.resolveIncident
  split
  · have hfresh : ∀ request ∈ w.hook.posts, request.controller ≠ w.hook.controllers + 1 :=
      fun request hmem => (Nat.lt_succ_of_le (h.controllers request hmem)).ne
    refine ⟨h.polling, h.numbers, h.listed, fun request hmem => ?_, ?_, fun a ha => ?_⟩
    · rcases List.mem_append.1 hmem with hold | hnew
      · exact (h.controllers request hold).trans (Nat.le_succ _)
      · rw [List.mem_singleton.1 hnew]
    · change ((w.hook.posts ++ [_]).map ResolveRequest.controller).Nodup
      rw [List.map_append, List.map_singleton]
      refine h.distinct.append (List.nodup_singleton _) ?_
      rw [List.disjoint_singleton]
      intro hmem
      obtain ⟨request, hrequest, heq⟩ := List.mem_map.1 hmem
      exact hfresh request hrequest heq
    · obtain ⟨hcontroller, hstatus, hserved, hof⟩ := h.resolved a ha
      refine ⟨hcontroller.trans (Nat.le_succ _), hstatus, hserved, fun request hmem heq => ?_⟩
      rcases List.mem_append.1 hmem with hold | hnew
      · exact hof request hold heq
      · rw [List.mem_singleton.1 hnew] at heq
        change w.hook.controllers + 1 = a.1 at heq
        omega
  · exact h

/-- The hook is unmounted. -/
theorem Sound.unmount (h : Sound backend ids s w) :
    Sound backend ids s { w with hook := w.hook.unmount } := by
  have hposts : ∀ request ∈ w.hook.unmount.posts, ∃ before ∈ w.hook.posts,
      before.controller = request.controller ∧ before.incidentId = request.incidentId := by
    intro request hmem
    obtain ⟨before, hbefore, rfl⟩ := List.mem_map.1 hmem
    exact ⟨before, hbefore, rfl, rfl⟩
  refine ⟨(h.onList .unmount).polling, (h.onList .unmount).numbers, h.listed, fun request hmem => ?_,
    ?_, fun a ha => ?_⟩
  · obtain ⟨before, hbefore, hsame, -⟩ := hposts request hmem
    exact hsame ▸ h.controllers before hbefore
  · change ((w.hook.posts.map _).map _).Nodup
    rw [List.map_map]
    exact h.distinct
  · obtain ⟨hcontroller, hstatus, hserved, hof⟩ := h.resolved a ha
    refine ⟨hcontroller, hstatus, hserved, fun request hmem heq => ?_⟩
    obtain ⟨before, hbefore, hsame, hid⟩ := hposts request hmem
    rw [← hid]
    exact hof before hbefore (hsame.trans heq)

/-- **Every step keeps it.** -/
theorem sound_step (hempty : s.store.incidents = .empty) (h : Sound backend ids s w)
    (event : IncidentsEvent) : Sound backend ids s (step backend ids s w event) := by
  cases event with
  | mount => exact h.onList .mount
  | refresh => exact h.onList .refresh
  | poll => exact h.onList .poll
  | unmount => exact h.unmount
  | resolveIncident incidentId => exact h.resolveIncident incidentId
  | commit => exact ⟨h.polling, h.numbers, h.listed, h.controllers, h.distinct, h.resolved⟩
  | call c => exact h.append
  | answerList number =>
      rw [step, answerList]
      split
      · rename_i hpending
        split
        · rename_i response hresponse
          obtain ⟨request, hmem, hnumber⟩ := List.any_eq_true.1 hpending
          have hle := h.polling.numbers request hmem
          rw [beq_iff_eq.1 hnumber] at hle
          refine ⟨h.polling, fun a ha => ?_, fun a ha => ?_, h.controllers, h.distinct, h.resolved⟩
          · rcases List.mem_append.1 ha with hold | hnew
            · exact h.numbers a hold
            · rw [List.mem_singleton.1 hnew]
              exact hle
          · rcases List.mem_append.1 ha with hold | hnew
            · exact h.listed a hold
            · rw [List.mem_singleton.1 hnew]
              exact ⟨_, le_rfl, listed_now hresponse⟩
        · exact h
      · exact h
  | answerResolution controller now => exact h.answerResolution hempty controller now
  | deliverList number completedAt =>
      rw [step]
      split
      · exact h
      · exact h.onList _
  | failList number error => exact h.onList _
  | abortList number => exact h.onList _
  | deliverResolution controller =>
      rw [step]
      split
      · exact h
      · exact h.completeResolution _ _
  | failResolution controller error => exact h.completeResolution _ _
  | abortResolution controller => exact h.completeResolution _ _

/-! ### What is shown -/

theorem since_initial : Since backend ids s 0 (fun _ => 0) initial :=
  ⟨Nat.le_refl _, fun _ => Nat.le_refl _, fun _ h => (Option.some_ne_none _ h.symm).elim,
    fun _ _ _ h => absurd h List.not_mem_nil⟩

variable {n : ℕ} {low : String → ℕ}

/-- More calls. -/
theorem Since.append (h : Since backend ids s n low w) :
    Since backend ids s n low { w with calls := w.calls ++ more } := by
  have hle : w.calls.length ≤ (w.calls ++ more).length := by
    rw [List.length_append]
    exact Nat.le_add_right ..
  refine ⟨h.started.trans hle, h.low_le, fun data hdata => ?_, fun hnone hout a ha hcurrent => ?_⟩
  · obtain ⟨version, hholds, hlow⟩ := h.shown data hdata
    exact ⟨version, hholds.append, hlow⟩
  · obtain ⟨m, hnm, hm, hlisted⟩ := h.hidden hnone hout a ha hcurrent
    exact ⟨m, hnm, hm.trans hle, (listedAfter_append hm _).2 hlisted⟩

/-- A step that leaves the list of the hook alone. -/
theorem Since.of_list_eq (h : Since backend ids s n low w) {hook : IncidentsHook}
    (hlist : hook.list = w.hook.list) : Since backend ids s n low { w with hook := hook } := by
  refine ⟨h.started, h.low_le, fun data hdata => ?_, fun hnone hout => ?_⟩
  · change hook.list.view.data? = some data at hdata
    rw [hlist] at hdata
    exact h.shown data hdata
  · change hook.list.view.data? = none at hnone
    change Outstanding hook.list at hout
    change ∀ a ∈ w.lists, a.1 = hook.list.requestId → _
    rw [hlist] at hnone hout ⊢
    exact h.hidden hnone hout

/-- An event that leaves what is shown: a new request has no answer yet. -/
theorem Since.onList_of_shown (h : Since backend ids s n low w) (hw : Sound backend ids s w)
    {event : Event (Completed (List IncidentResponse)) FetchError}
    (hshown : (w.onList event).shown = w.shown) : Since backend ids s n low (w.onList event) := by
  refine ⟨h.started, h.low_le, fun data hdata => h.shown data (hshown ▸ hdata),
    fun hnone hout a ha hcurrent => ?_⟩
  rcases step_requestId useIncidents w.hook.list event with hnext | ⟨hsame, hback⟩
  · have hle := hw.numbers a ha
    change a.1 = (Polling.step useIncidents w.hook.list event).requestId at hcurrent
    omega
  · exact h.hidden (hshown ▸ hnone) (hback hout) a ha (hcurrent.trans hsame)

variable (hempty : s.store.incidents = .empty) (hdated : ∀ call ∈ w.calls, call.Dated)
include hempty hdated

/-- **A list comes in.** -/
theorem Since.deliverList (h : Since backend ids s n low w) (hw : Sound backend ids s w)
    {a : ℕ × List IncidentResponse} (ha : a ∈ w.lists) (completedAt : String) :
    Since backend ids s n low (w.onList (.complete a.1 (.success ⟨a.2, completedAt⟩))) := by
  rcases complete_outstanding useIncidents a.1 (.success ⟨a.2, completedAt⟩) w.hook.list with
    hview | ⟨hcurrent, hout, hdone, ⟨response, hreply, hview⟩ | ⟨_, _, hreply, -⟩⟩
  · exact h.onList_of_shown hw (congrArg IncidentsState.data? hview)
  · cases hreply
    refine ⟨h.started, h.low_le, fun data hdata => ?_, fun _ hout' => absurd hout' hdone⟩
    change (Polling.complete useIncidents a.1 (.success ⟨a.2, completedAt⟩) w.hook.list).view.data? =
      some data at hdata
    rw [hview] at hdata
    cases hheld : w.hook.list.view.data? with
    | none =>
        obtain ⟨m, hnm, hm, hlisted⟩ := h.hidden hheld hout a ha hcurrent.symm
        obtain rfl := Option.some.inj ((IncidentsHook.data?_onSuccess_of_none hheld).symm.trans hdata)
        exact ⟨_, holds_of_listed hempty hm hlisted, fun id => (h.low_le id).trans hnm⟩
    | some current =>
        obtain ⟨version, hholds, hlow⟩ := h.shown current hheld
        obtain ⟨m, hm, hlisted⟩ := hw.listed a ha
        obtain rfl := Option.some.inj ((IncidentsHook.data?_onSuccess_of_some hheld).symm.trans hdata)
        exact ⟨_, hholds.merge hempty hdated hm hlisted, fun id =>
          (hlow id).trans (le_max_left _ _)⟩
  · cases hreply

omit hempty hdated in
/-- **A request fails.**  A list that is dropped leaves no request outstanding. -/
theorem Since.failList (h : Since backend ids s n low w) (hw : Sound backend ids s w)
    (number : ℕ) (error : FetchError) :
    Since backend ids s n low (w.onList (.complete number (.failure error))) := by
  rcases complete_outstanding useIncidents number (.failure error) w.hook.list with
    hview | ⟨-, -, hdone, ⟨_, hreply, -⟩ | ⟨background, error', hreply, hview⟩⟩
  · exact h.onList_of_shown hw (congrArg IncidentsState.data? hview)
  · cases hreply
  · have hdata := (congrArg IncidentsState.data? hview).trans rfl
    rcases IncidentsHook.data?_onFailure background error' w.hook.list.view with hkept | hdropped
    · exact h.onList_of_shown hw (hdata.trans hkept)
    · have hnone : (w.onList (.complete number (.failure error))).shown = none :=
        hdata.trans hdropped
      refine ⟨h.started, h.low_le, fun data hsome => ?_, fun _ hout => absurd hout hdone⟩
      rw [hnone] at hsome
      cases hsome

/-- **A resolution comes in.** -/
theorem Since.deliverResolution (h : Since backend ids s n low w) (hw : Sound backend ids s w)
    {a : ℕ × IncidentResponse} (ha : a ∈ w.resolutions) :
    Since backend ids s n low
      { w with hook := w.hook.completeResolution a.1 (.success a.2) } := by
  obtain ⟨-, -, -, view, hlist, hview⟩ :=
    IncidentsHook.completeResolution_frame a.1 (.success a.2) w.hook
  rcases hview with rfl | ⟨request, hmem, resolved, hcontroller, hreply, -, rfl⟩
  · exact h.of_list_eq hlist
  · cases hreply
    obtain ⟨-, -, ⟨m, hm, hserved⟩, hof⟩ := hw.resolved a ha
    have hid := hof request hmem hcontroller
    have hshown : ({ w with hook := w.hook.completeResolution a.1 (.success a.2) } : World).shown =
        w.shown.map (IncidentsHook.withResolved request.incidentId a.2) := by
      change (w.hook.completeResolution a.1 (.success a.2)).list.view.data? = _
      rw [hlist]
      exact IncidentsHook.data?_onResolved ..
    refine ⟨h.started, h.low_le, fun data hdata => ?_, fun hnone hout => ?_⟩
    · obtain ⟨current, hcurrent, rfl⟩ := Option.map_eq_some_iff.1 (hshown ▸ hdata)
      obtain ⟨version, hholds, hlow⟩ := h.shown current hcurrent
      rw [← hid] at hserved
      obtain ⟨version', hholds', hle, -⟩ := hholds.withResolved hempty hdated hm hserved
      exact ⟨version', hholds', fun id => (hlow id).trans (hle id)⟩
    · rw [hshown, Option.map_eq_none_iff] at hnone
      change Outstanding (w.hook.completeResolution a.1 (.success a.2)).list at hout
      change ∀ b ∈ w.lists, b.1 = (w.hook.completeResolution a.1 (.success a.2)).list.requestId → _
      rw [hlist] at hout ⊢
      exact h.hidden hnone hout

/-- **Every step keeps what has been the case.** -/
theorem since_step (h : Since backend ids s n low w) (hw : Sound backend ids s w)
    (event : IncidentsEvent) : Since backend ids s n low (step backend ids s w event) := by
  cases event with
  | mount => exact h.onList_of_shown hw rfl
  | refresh => exact h.onList_of_shown hw (IncidentsHook.data?_onRefresh _)
  | poll =>
      refine h.onList_of_shown hw ?_
      change (Polling.step useIncidents w.hook.list .poll).view.data? = _
      rw [Polling.step]
      split <;> rfl
  | unmount =>
      have hlist : Since backend ids s n low (w.onList .unmount) := h.onList_of_shown hw rfl
      exact hlist.of_list_eq rfl
  | resolveIncident incidentId =>
      refine h.of_list_eq ?_
      unfold IncidentsHook.resolveIncident
      split <;> rfl
  | commit => exact h.of_list_eq rfl
  | call c => exact h.append
  | answerList number =>
      rw [step, answerList]
      split
      · split
        · rename_i response hresponse
          refine ⟨h.started, h.low_le, h.shown, fun hnone hout a ha hcurrent => ?_⟩
          rcases List.mem_append.1 ha with hold | hnew
          · exact h.hidden hnone hout a hold hcurrent
          · rw [List.mem_singleton.1 hnew]
            exact ⟨_, h.started, le_rfl, listed_now hresponse⟩
        · exact h
      · exact h
  | answerResolution controller now =>
      rw [step, answerResolution]
      split
      · exact h
      · rename_i request hfind
        have hmore := @Since.append backend ids s [.resolve request.incidentId now] w n low h
        exact ⟨hmore.started, hmore.low_le, hmore.shown, hmore.hidden⟩
  | deliverList number completedAt =>
      rw [step]
      split
      · exact h
      · rename_i a hfind
        have hnumber := List.find?_some hfind
        rw [← beq_iff_eq.1 hnumber]
        exact h.deliverList hempty hdated hw (List.mem_of_find?_eq_some hfind) completedAt
  | failList number error => exact h.failList hw number error
  | abortList number =>
      rcases complete_outstanding useIncidents number .aborted w.hook.list with
        hview | ⟨-, -, -, ⟨_, hreply, -⟩ | ⟨_, _, hreply, -⟩⟩
      · exact h.onList_of_shown hw (congrArg IncidentsState.data? hview)
      · cases hreply
      · cases hreply
  | deliverResolution controller =>
      rw [step]
      split
      · exact h
      · rename_i a hfind
        have hcontroller := List.find?_some hfind
        rw [← beq_iff_eq.1 hcontroller]
        exact h.deliverResolution hempty hdated hw (List.mem_of_find?_eq_some hfind)
  | failResolution controller error =>
      obtain ⟨-, -, -, view, hlist, rfl | ⟨_, -, _, -, hreply, -⟩⟩ :=
        IncidentsHook.completeResolution_frame controller (.failure error) w.hook
      · exact h.of_list_eq hlist
      · cases hreply
  | abortResolution controller =>
      obtain ⟨-, -, -, view, hlist, rfl | ⟨_, -, _, -, hreply, -⟩⟩ :=
        IncidentsHook.completeResolution_frame controller .aborted w.hook
      · exact h.of_list_eq hlist
      · cases hreply

end World

/-! ### Runs -/

namespace World

/-- **A world that the events lead to**: what is under way was answered, and the calls carry
datetimes. -/
structure Reached (backend : Backend) (ids : IdFactory) (s : Session) (w : World) : Prop where
  sound : Sound backend ids s w
  dated : ∀ call ∈ w.calls, call.Dated

variable (hempty : s.store.incidents = .empty)
include hempty

theorem Reached.step {w : World} (h : Reached backend ids s w) {event : IncidentsEvent}
    (hevent : event.Dated) : Reached backend ids s (World.step backend ids s w event) := by
  refine ⟨sound_step hempty h.sound event, fun call hcall => ?_⟩
  obtain ⟨more, hcalls, hmore⟩ := @step_calls backend ids s w event hevent
  rw [hcalls] at hcall
  rcases List.mem_append.1 hcall with hold | hnew
  · exact h.dated call hold
  · exact hmore call hnew

theorem Reached.run {w : World} (h : Reached backend ids s w) {events : List IncidentsEvent}
    (hevents : ∀ event ∈ events, event.Dated) :
    Reached backend ids s (World.run backend ids s w events) := by
  induction events generalizing w with
  | nil => exact h
  | cons event events ih =>
      obtain ⟨hevent, hevents⟩ := List.forall_mem_cons.1 hevents
      exact ih (h.step hempty hevent) hevents

omit hempty in
/-- More events add calls to the history. -/
theorem run_calls {w : World} {events : List IncidentsEvent}
    (hevents : ∀ event ∈ events, event.Dated) :
    ∃ more, (World.run backend ids s w events).calls = w.calls ++ more := by
  induction events generalizing w with
  | nil => exact ⟨[], (List.append_nil _).symm⟩
  | cons event events ih =>
      obtain ⟨hevent, hevents⟩ := List.forall_mem_cons.1 hevents
      obtain ⟨first, hfirst, -⟩ := @step_calls backend ids s w event hevent
      obtain ⟨rest, hrest⟩ := @ih (World.step backend ids s w event) hevents
      exact ⟨first ++ rest, by
        rw [← List.append_assoc, ← hfirst]
        exact hrest⟩

/-- **What has been the case is so in every run from there.** -/
theorem Since.run {w : World} {n : ℕ} {low : String → ℕ} (h : Since backend ids s n low w)
    (hw : Reached backend ids s w) {events : List IncidentsEvent}
    (hevents : ∀ event ∈ events, event.Dated) :
    Since backend ids s n low (World.run backend ids s w events) := by
  induction events generalizing w with
  | nil => exact h
  | cons event events ih =>
      obtain ⟨hevent, hevents⟩ := List.forall_mem_cons.1 hevents
      exact ih (since_step hempty hw.dated h hw.sound event) (hw.step hempty hevent) hevents

omit hempty in
theorem reached_initial : Reached backend ids s initial :=
  ⟨sound_initial, fun _ h => absurd h List.not_mem_nil⟩

end World

end Frontend
end MetaRne
