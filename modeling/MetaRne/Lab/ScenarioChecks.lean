/-
# What the scenario's checks establish

The preflight, the observation of the degraded state and the one of recovery each raise
their problems if they have any.  Here is what it says of the lab that they have none:
`baselineProblems_eq_nil`, `degradedProblems_eq_nil` and `recoveryProblems_eq_nil` for a
reading that has its keys, `preflight_eq_ok` for a preflight that returns.
-/

import MetaRne.Lab.LabQueries

namespace MetaRne
namespace Lab

open Library Library.Effect Python

/-! ### The states of the lab -/

/-- All sessions are established, each leaf has its two next hops, and each host reaches the
other. -/
structure LabReading.Healthy (reading : LabReading) : Prop extends reading.Keyed where
  established : ∀ state ∈ reading.sessions, state.2 = "Established"
  nextHops : ∀ check ∈ routeChecks, reading.nextHopsOf check = check.healthy
  reachable : ∀ flag ∈ reading.reachability, flag.2 = true

/-- The failed session is down, the others are established, each leaf has the next hop that is
left to it, and each host reaches the other. -/
structure LabReading.Degraded (reading : LabReading) : Prop extends reading.Keyed where
  failed : reading.sessions.lookup failedSession ≠ some "Established"
  others : ∀ state ∈ reading.sessions, state.1 ≠ failedSession → state.2 = "Established"
  nextHops : ∀ check ∈ routeChecks, reading.nextHopsOf check = check.degraded
  reachable : ∀ flag ∈ reading.reachability, flag.2 = true

/-- Each of the polled checks held in time. -/
structure Observed.Complete (observed : Observed) : Prop where
  bgp : observed.bgp.isSome = true
  leaf1 : observed.leaf1.isSome = true
  leaf2 : observed.leaf2.isSome = true

section Problems

variable {reading : LabReading}

/-- So many established sessions are all of them. -/
theorem forall_established {states : List (String × String)} {n : ℕ}
    (h : established states = n) (hlength : states.length = n) :
    ∀ state ∈ states, state.2 = "Established" := by
  unfold established at h
  intro state hstate
  have hall := List.countP_eq_length.1 (h.trans hlength.symm) state hstate
  exact of_decide_eq_true hall

theorem routeProblems_eq_nil {message : String} {names : RouteCheck → List Shown}
    {expected : RouteCheck → List String} (h : routeProblems message names expected reading = []) :
    ∀ check ∈ routeChecks, reading.nextHopsOf check = expected check := by
  intro check hcheck
  have hnone := List.filter_eq_nil_iff.1 (List.map_eq_nil_iff.1 h) check hcheck
  simpa using hnone

theorem reachabilityProblems_eq_nil {message : String}
    (h : reachabilityProblems message reading = []) :
    ∀ flag ∈ reading.reachability, flag.2 = true := by
  unfold reachabilityProblems at h
  split_ifs at h with hall
  exact List.all_eq_true.1 hall

theorem observedProblems_eq_nil {message timeoutS : String} {observed : List (String × Option ℚ)}
    (h : observedProblems message timeoutS observed = []) :
    ∀ entry ∈ observed, entry.2.isSome = true := by
  intro entry hentry
  have hnone := List.filter_eq_nil_iff.1 (List.map_eq_nil_iff.1 h) entry hentry
  rwa [Option.isNone_iff_eq_none, ← ne_eq, ← Option.isSome_iff_ne_none] at hnone

theorem sessions_length (h : reading.Keyed) : reading.sessions.length = sessions.length := by
  rw [← List.length_map (f := Prod.fst), h.sessions, List.length_map]

/-- **No problems before the fault: the lab is healthy.** -/
theorem baselineProblems_eq_nil (hkeyed : reading.Keyed) (h : baselineProblems reading = []) :
    reading.Healthy := by
  obtain ⟨h, hreachable⟩ := List.append_eq_nil_iff.1 h
  obtain ⟨hsessions, hroutes⟩ := List.append_eq_nil_iff.1 h
  split_ifs at hsessions with hunhealthy
  obtain ⟨hestablished, -⟩ := not_or.1 hunhealthy
  exact
    { hkeyed with
      established := forall_established (not_not.1 hestablished) (sessions_length hkeyed)
      nextHops := routeProblems_eq_nil hroutes
      reachable := reachabilityProblems_eq_nil hreachable }

/-- **No problems while the fault is there: the lab is degraded as it should be.** -/
theorem degradedProblems_eq_nil {observed : List (String × Option ℚ)} (hkeyed : reading.Keyed)
    (h : degradedProblems observed reading = []) :
    (∀ entry ∈ observed, entry.2.isSome = true) ∧ reading.Degraded := by
  obtain ⟨h, hreachable⟩ := List.append_eq_nil_iff.1 h
  obtain ⟨h, hroutes⟩ := List.append_eq_nil_iff.1 h
  obtain ⟨h, hothers⟩ := List.append_eq_nil_iff.1 h
  obtain ⟨hobserved, hfailed⟩ := List.append_eq_nil_iff.1 h
  split_ifs at hfailed with hstill
  split_ifs at hothers with hbad
  obtain ⟨-, hthree⟩ := not_or.1 hbad
  have hlength : (reading.sessions.filter fun state => state.1 ≠ failedSession).length = 3 := by
    have hkeys : (reading.sessions.filter fun state => state.1 ≠ failedSession).map Prod.fst =
        (sessions.map Session.name).filter (· ≠ failedSession) := by
      rw [← hkeyed.sessions, List.filter_map]
      rfl
    rw [← List.length_map (f := Prod.fst), hkeys]
    decide
  refine ⟨observedProblems_eq_nil hobserved, { hkeyed with
    failed := hstill
    others := fun state hstate hother => ?_
    nextHops := routeProblems_eq_nil hroutes
    reachable := reachabilityProblems_eq_nil hreachable }⟩
  exact forall_established (not_not.1 hthree) hlength state
    (List.mem_filter.2 ⟨hstate, decide_eq_true hother⟩)

/-- **No problems after the fault: the lab is healthy again.** -/
theorem recoveryProblems_eq_nil {observed : List (String × Option ℚ)} (hkeyed : reading.Keyed)
    (h : recoveryProblems observed reading = []) :
    (∀ entry ∈ observed, entry.2.isSome = true) ∧ reading.Healthy := by
  obtain ⟨h, hreachable⟩ := List.append_eq_nil_iff.1 h
  obtain ⟨h, hroutes⟩ := List.append_eq_nil_iff.1 h
  obtain ⟨hobserved, hsessions⟩ := List.append_eq_nil_iff.1 h
  split_ifs at hsessions with hunhealthy
  exact ⟨observedProblems_eq_nil hobserved, { hkeyed with
    established := forall_established (not_not.1 hunhealthy) (sessions_length hkeyed)
    nextHops := routeProblems_eq_nil hroutes
    reachable := reachabilityProblems_eq_nil hreachable }⟩

end Problems

/-! ### Observations -/

/-- A key that is there has a value, which is there if all values are. -/
theorem isSome_lookup_join {entries : List (String × Option ℚ)} {key : String}
    (hkey : key ∈ entries.map Prod.fst) (h : ∀ entry ∈ entries, entry.2.isSome = true) :
    (entries.lookup key).join.isSome = true := by
  obtain ⟨entry, hentry, hname⟩ := List.mem_map.1 hkey
  have hlookup : (entries.lookup key).isSome = true :=
    List.lookup_isSome_iff.2 ⟨entry, hentry, beq_iff_eq.2 hname.symm⟩
  obtain ⟨value, hvalue⟩ := Option.isSome_iff_exists.1 hlookup
  obtain ⟨before, after, hsplit, -⟩ := List.lookup_eq_some_iff.1 hvalue
  rw [hvalue, Option.join_some]
  refine h (key, value) ?_
  rw [hsplit]
  exact List.mem_append_right _ List.mem_cons_self

/-- Checks of the three keys that all held. -/
theorem observedOf_complete {entries : List (String × Option ℚ)}
    (hkeys : entries.map Prod.fst = ["bgp", "leaf1", "leaf2"])
    (h : ∀ entry ∈ entries, entry.2.isSome = true) : (observedOf entries).Complete := by
  refine ⟨isSome_lookup_join ?_ h, isSome_lookup_join ?_ h, isSome_lookup_join ?_ h⟩
  · rw [hkeys]
    decide
  · rw [hkeys]
    decide
  · rw [hkeys]
    decide

/-! ### The preflight -/

theorem raiseProblems_eq_ok {problems : List Problem} {exitCode : ExitCode} {u : Unit} :
    raiseProblems problems exitCode = .ok u ↔ problems = [] := by
  unfold raiseProblems
  split_ifs with h
  · exact iff_of_true rfl (List.isEmpty_iff.1 h)
  · exact iff_of_false (fun h' => by cases h') fun h' => h (List.isEmpty_iff.2 h')

/-- Every check before the fault passed: the topology file is the lab's, the Docker server is
not Docker Desktop, exactly the lab's containers run, the identity of the runtime was read,
and the lab is healthy. -/
structure ChecksPassed (env : Environment) (s : ScenarioState) : Prop where
  topology : ∃ text topology, env.topologyFile = .text text ∧ parseTopology text = .ok topology ∧
    asText (valueAt topology "name") = some labName
  docker : ∃ name s₁ s₂, (dockerOperatingSystem env).run initialState = .ok (some name) s₁ ∧
    isDockerDesktop name = false ∧
    (runningLabContainers env).run s₁ = .ok (some expectedContainers) s₂
  runtime : s.scenario.runtimeBefore.isSome = true
  baseline : ∃ reading, s.scenario.baseline = some reading ∧ reading.Healthy

section Preflight

variable {env : Environment}

theorem checkTopology_eq_ok {u : Unit} (h : checkTopology env = .ok u) :
    ∃ text topology, env.topologyFile = .text text ∧ parseTopology text = .ok topology ∧
      asText (valueAt topology "name") = some labName := by
  obtain ⟨topology, hread, h⟩ := except_bind_eq_ok.1 h
  have hname := not_not.1 (raiseIf_eq_ok.1 h)
  unfold readTopology at hread
  cases hfile : env.topologyFile with
  | osError message =>
      rw [hfile] at hread
      cases hread
  | raised repr =>
      rw [hfile] at hread
      cases hread
  | text text =>
      rw [hfile] at hread
      cases hparse : parseTopology text with
      | error e =>
          simp only [hparse] at hread
          cases hread
      | ok entries =>
          simp only [hparse] at hread
          cases hread
          exact ⟨text, topology, rfl, hparse, hname⟩

theorem checkOperatingSystem_eq_ok {operatingSystem : Option (List Char)} {u : Unit}
    (h : checkOperatingSystem operatingSystem = .ok u) :
    ∃ name, operatingSystem = some name ∧ isDockerDesktop name = false := by
  cases operatingSystem with
  | none => exact absurd trivial (raiseIf_eq_ok.1 h)
  | some name => exact ⟨name, rfl, Bool.eq_false_iff.2 (raiseIf_eq_ok.1 h)⟩

theorem checkContainers_eq_ok {running : Option (List String)} {u : Unit}
    (h : checkContainers running = .ok u) : running = some expectedContainers := by
  cases running with
  | none => exact absurd trivial (raiseIf_eq_ok.1 h)
  | some names => exact congrArg some (not_not.1 (raiseIf_eq_ok.1 h))

/-- **A preflight that returns has checked everything.** -/
theorem preflight_eq_ok {u : Unit} {s : ScenarioState}
    (h : (preflight env).run initialState = .ok u s) : ChecksPassed env s := by
  obtain ⟨u₁, safe, hsafety, h⟩ := bind_eq_ok.1 h
  obtain ⟨u₂, htopology, hsafety⟩ := check_bind_eq_ok.1 hsafety
  obtain ⟨operatingSystem, s₁, hos, hsafety⟩ := bind_eq_ok.1 hsafety
  obtain ⟨u₃, hosChecked, hsafety⟩ := check_bind_eq_ok.1 hsafety
  obtain ⟨running, s₂, hrunning, hsafety⟩ := bind_eq_ok.1 hsafety
  obtain ⟨u₄, hrunningChecked, hsafety⟩ := check_bind_eq_ok.1 hsafety
  obtain ⟨before, s₃, hbefore, hsafety⟩ := bind_eq_ok.1 hsafety
  obtain ⟨u₅, s₄, hupdate, hsafety⟩ := bind_eq_ok.1 hsafety
  obtain ⟨hbeforeRead, hs₄⟩ := check_eq_ok.1 hsafety
  obtain ⟨u₆, s₅, hphase, h⟩ := bind_eq_ok.1 h
  obtain ⟨reading, s₆, hreading, h⟩ := bind_eq_ok.1 h
  obtain ⟨u₇, s₇, hbaseline, h⟩ := bind_eq_ok.1 h
  obtain ⟨hproblems, hs₇⟩ := check_eq_ok.1 h
  obtain ⟨name, rfl, hname⟩ := checkOperatingSystem_eq_ok hosChecked
  rw [checkContainers_eq_ok hrunningChecked] at hrunning
  have hquiet : Quiet safe s₆ :=
    Quiet.trans _ _ _ ((asking_phase .baseline).of_ok hphase) (asking_readLab.of_ok hreading)
  refine ⟨checkTopology_eq_ok htopology, ⟨name, s₁, s₂, hos, hname, hrunning⟩, ?_,
    ⟨reading, ?_, baselineProblems_eq_nil (readLab_keys hreading)
      (raiseProblems_eq_ok.1 hproblems)⟩⟩
  · have hkept : s.scenario.runtimeBefore = safe.scenario.runtimeBefore := by
      rw [← hs₇, ← hquiet.scenario]
      cases hbaseline
      rfl
    have hread : safe.scenario.runtimeBefore = before := by
      rw [← hs₄]
      cases hupdate
      rfl
    rw [hkept, hread]
    exact Option.isSome_iff_ne_none.2 (raiseIf_eq_ok.1 hbeforeRead)
  · rw [← hs₇]
    cases hbaseline
    rfl

end Preflight

end Lab
end MetaRne
