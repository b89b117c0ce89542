/-
# The scenario's queries

The parts of the scenario that only ask.  Such a part is `Asking`: it issues queries, the
monitor's pings among them, changes none of the scenario's attributes, and raises no
`ScenarioError` that the command runner does not raise.  Polling is asking too, since its
cycles end: each of them reads the clock, and the deadline comes (`asking_poll`).

What is read has the keys that were asked for (`readLab_keys`).
-/

import MetaRne.Lab.LinkFailureScenario

namespace MetaRne
namespace Lab

open Library Library.Effect Python

/-- Queries were issued, time went by, and nothing else changed. -/
structure Quiet (s s' : ScenarioState) : Prop where
  issued : ∃ queries, s'.issued = s.issued ++ queries ∧ ∀ argv ∈ queries, IsQuery argv
  readings : s.readings ≤ s'.readings
  scenario : s'.scenario = s.scenario

theorem Quiet.refl (s : ScenarioState) : Quiet s s :=
  ⟨⟨[], (List.append_nil _).symm, fun _ h => absurd h List.not_mem_nil⟩, le_rfl, rfl⟩

theorem Quiet.trans (s₁ s₂ s₃ : ScenarioState) (h : Quiet s₁ s₂) (h' : Quiet s₂ s₃) :
    Quiet s₁ s₃ := by
  obtain ⟨first, hfirst, hall⟩ := h.issued
  obtain ⟨second, hsecond, hall'⟩ := h'.issued
  refine ⟨⟨first ++ second, ?_, ?_⟩, h.readings.trans h'.readings, h'.scenario.trans h.scenario⟩
  · rw [hsecond, hfirst, List.append_assoc]
  · exact List.forall_mem_append.2 ⟨hall, hall'⟩

/-- An exception that is not the scenario's own. -/
structure Foreign (env : Environment) (e : Raised) : Prop where
  notExhausted : e ≠ .roundsExhausted
  ofRunner : ∀ error, e = .exception (.scenario error) →
    ∃ issued, env.reply issued = .raised (.scenario error)

/-- A part that only asks. -/
def Asking {α : Type} (env : Environment) (x : LabM α) : Prop := Within Quiet (Foreign env) x

section Asking

variable {env : Environment} {α β : Type}

theorem foreign_other (error : Unexpected) : Foreign env (.exception (.other error)) :=
  ⟨by simp, by simp⟩

theorem asking_pure (a : α) : Asking env (pure a : LabM α) := within_pure Quiet.refl a

theorem Asking.bind {x : LabM α} {f : α → LabM β} (hx : Asking env x)
    (hf : ∀ a, Asking env (f a)) : Asking env (x >>= f) := Within.bind Quiet.trans hx hf

theorem Asking.mapM {f : α → LabM β} (xs : List α) (hf : ∀ x ∈ xs, Asking env (f x)) :
    Asking env (xs.mapM f) := Within.mapM Quiet.refl Quiet.trans xs hf

theorem asking_helper (x : Except Unexpected α) :
    Asking env (liftM (helper x) : LabM α) := by
  refine within_check Quiet.refl fun e he => ?_
  cases x with
  | ok a => cases he
  | error error =>
      cases he
      exact foreign_other error

theorem asking_now : Asking env (now env) :=
  within_of_returns fun s => ⟨env.clock.reading s.readings, { s with readings := s.readings + 1 },
    rfl, ⟨[], (List.append_nil _).symm, fun _ h => absurd h List.not_mem_nil⟩, Nat.le_succ _, rfl⟩

theorem asking_phase (name : Phase) : Asking env (phase env name) := by
  refine asking_now.bind fun t => within_of_returns fun s => ⟨⟨⟩, _, rfl, ?_⟩
  exact ⟨⟨[], (List.append_nil _).symm, fun _ h => absurd h List.not_mem_nil⟩, le_rfl, rfl⟩

/-! ### Commands -/

theorem isQuery_probeArgv : IsQuery probeArgv := .ping _ _ _ _

/-- The monitor's pings before a command. -/
theorem exists_issuedWith (env : Environment) (s : ScenarioState) (argv : Argv) :
    ∃ pings, issuedWith env s argv = s.issued ++ pings ++ [argv] ∧ ∀ ping ∈ pings, IsQuery ping := by
  refine ⟨_, rfl, fun ping hping => ?_⟩
  rw [List.eq_of_mem_replicate hping]
  exact isQuery_probeArgv

theorem issue_of_result {argv : Argv} {s : ScenarioState} {result : CommandResult}
    (h : env.reply (issuedWith env s argv) = .result result) :
    (issue env argv).run s = .ok result { s with issued := issuedWith env s argv } := by
  change issue env argv s = _
  simp only [issue, h]

theorem issue_of_raised {argv : Argv} {s : ScenarioState} {error : PyException}
    (h : env.reply (issuedWith env s argv) = .raised error) :
    (issue env argv).run s = .error (.exception error) { s with issued := issuedWith env s argv } := by
  change issue env argv s = _
  simp only [issue, h]

theorem issue_of_interrupted {argv : Argv} {s : ScenarioState}
    (h : env.reply (issuedWith env s argv) = .interrupted) :
    (issue env argv).run s = .error .interrupt { s with issued := issuedWith env s argv } := by
  change issue env argv s = _
  simp only [issue, h]

/-- A command ends with it issued, whatever the runner does. -/
theorem final_issue (env : Environment) (argv : Argv) (s : ScenarioState) :
    final (issue env argv) s = { s with issued := issuedWith env s argv } := by
  cases hreply : env.reply (issuedWith env s argv) with
  | result result => exact final_of_ok (issue_of_result hreply)
  | raised error => exact final_of_error (issue_of_raised hreply)
  | interrupted => exact final_of_error (issue_of_interrupted hreply)

theorem asking_issue {argv : Argv} (h : IsQuery argv) : Asking env (issue env argv) := by
  constructor
  · intro s
    obtain ⟨pings, hissued, hpings⟩ := exists_issuedWith env s argv
    rw [final_issue]
    refine ⟨⟨pings ++ [argv], ?_, ?_⟩, le_rfl, rfl⟩
    · rw [← List.append_assoc]
      exact hissued
    · refine List.forall_mem_append.2 ⟨hpings, fun last hlast => ?_⟩
      rw [List.mem_singleton.1 hlast]
      exact h
  · intro s e s' herror
    cases hreply : env.reply (issuedWith env s argv) with
    | result result =>
        rw [issue_of_result hreply] at herror
        cases herror
    | interrupted =>
        rw [issue_of_interrupted hreply] at herror
        cases herror
        exact ⟨by simp, by simp⟩
    | raised error =>
        rw [issue_of_raised hreply] at herror
        cases herror
        refine ⟨by simp, fun own hown => ⟨_, hreply.trans ?_⟩⟩
        rw [Raised.exception.inj hown]

theorem asking_dockerExec {container : String} {argv : Argv}
    (hcontainer : container ∈ expectedContainers)
    (h : IsQuery ("docker" :: "exec" :: container :: argv)) :
    Asking env (dockerExec env container argv) := by
  unfold dockerExec
  rw [if_pos hcontainer]
  exact asking_issue h

theorem asking_dockerOperatingSystem : Asking env (dockerOperatingSystem env) :=
  (asking_issue .operatingSystem).bind fun _ => asking_pure _

theorem asking_runningLabContainers : Asking env (runningLabContainers env) :=
  (asking_issue .containers).bind fun _ => asking_pure _

theorem asking_runtimeSnapshot : Asking env (runtimeSnapshot env) :=
  (asking_issue .bootId).bind fun _ => (asking_issue .dockerService).bind fun _ => asking_pure _

/-- Every node of the lab has its container. -/
theorem containerOf_mem {node : String} (h : node ∈ labRouters ++ labHosts) :
    containerOf node ∈ expectedContainers := by
  unfold expectedContainers frozenset
  rw [List.mem_insertionSort, List.mem_dedup]
  exact List.mem_map_of_mem h

theorem asking_leafSessionStates {leaf : String} (h : leaf ∈ labRouters ++ labHosts) :
    Asking env (leafSessionStates env leaf) :=
  (asking_dockerExec (containerOf_mem h) (.bgpSummary _)).bind fun _ =>
    (asking_helper _).bind fun _ => asking_pure _

theorem asking_sessionStates : Asking env (sessionStates env) :=
  (asking_leafSessionStates (by decide)).bind fun _ =>
    (asking_leafSessionStates (by decide)).bind fun _ => asking_pure _

theorem asking_nextHops {check : RouteCheck} (h : check.leaf ∈ labRouters ++ labHosts) :
    Asking env (nextHops env check) :=
  (asking_dockerExec (containerOf_mem h) (.routes _ _)).bind fun _ => asking_pure _

theorem asking_ping {host : String} (h : host ∈ labRouters ++ labHosts) (target : String)
    (count waitS : ℕ) : Asking env (ping env host target count waitS) :=
  (asking_dockerExec (containerOf_mem h) (.ping _ _ _ _)).bind fun _ =>
    (asking_helper _).bind fun _ => asking_pure _

theorem leaf_mem {check : RouteCheck} (h : check ∈ routeChecks) :
    check.leaf ∈ labRouters ++ labHosts := by
  rcases List.mem_pair.1 h with rfl | rfl
  · decide
  · decide

theorem host_mem {pair : String × String} (h : pair ∈ hostPings) :
    pair.1 ∈ labRouters ++ labHosts := by
  rcases List.mem_pair.1 h with rfl | rfl
  · decide
  · decide

theorem asking_bidirectionalReachability : Asking env (bidirectionalReachability env) :=
  Asking.mapM _ fun _ hpair => (asking_ping (host_mem hpair) _ _ _).bind fun _ => asking_pure _

theorem asking_readLab : Asking env (readLab env) :=
  asking_sessionStates.bind fun _ =>
    (Asking.mapM _ fun _ hcheck => (asking_nextHops (leaf_mem hcheck)).bind fun _ =>
      asking_pure _).bind fun _ => asking_bidirectionalReachability.bind fun _ => asking_pure _

/-! ### Polling -/

theorem now_run (env : Environment) (s : ScenarioState) :
    (now env).run s = .ok (env.clock.reading s.readings) { s with readings := s.readings + 1 } := rfl

theorem asking_pollCheck (origin : ℚ) {entry : Check × Option ℚ}
    (h : Asking env entry.1.holds) : Asking env (pollCheck env origin entry) := by
  unfold pollCheck
  split
  · exact asking_pure _
  · refine h.bind fun held => ?_
    split_ifs
    · exact asking_now.bind fun _ => asking_pure _
    · exact asking_pure _

theorem asking_pollRound (origin deadline : ℚ) {entries : List (Check × Option ℚ)}
    (h : ∀ entry ∈ entries, Asking env entry.1.holds) :
    Asking env (pollRound env origin deadline entries) := by
  refine (Asking.mapM _ fun entry hentry => asking_pollCheck origin (h entry hentry)).bind
    fun observed => ?_
  split_ifs
  · exact asking_pure _
  · exact asking_now.bind fun _ => asking_pure _

/-- A cycle keeps its checks. -/
theorem pollRound_checks {origin deadline : ℚ} {entries next : List (Check × Option ℚ)}
    {stops : Bool} {s s' : ScenarioState}
    (h : (pollRound env origin deadline entries).run s = .ok (next, stops) s') :
    next.map Prod.fst = entries.map Prod.fst := by
  obtain ⟨observed, s₁, hobserved, h⟩ := bind_eq_ok.1 h
  have hnext : next = observed := by
    split_ifs at h
    · exact (Prod.mk.inj (pure_eq_ok.1 h).1).1.symm
    · obtain ⟨t, s₂, -, h⟩ := bind_eq_ok.1 h
      exact (Prod.mk.inj (pure_eq_ok.1 h).1).1.symm
  rw [hnext]
  refine map_fst_of_mapM (fun entry _ s y s' hy => ?_) hobserved
  unfold pollCheck at hy
  split at hy
  · rw [← (pure_eq_ok.1 hy).1]
  · obtain ⟨held, s₂, -, hy⟩ := bind_eq_ok.1 hy
    split_ifs at hy
    · obtain ⟨t, s₃, -, hy⟩ := bind_eq_ok.1 hy
      rw [← (pure_eq_ok.1 hy).1]
    · rw [← (pure_eq_ok.1 hy).1]

/-- **A cycle that goes on reads the clock before the deadline.** -/
theorem pollRound_goesOn {origin deadline : ℚ} {entries next : List (Check × Option ℚ)}
    {s s' : ScenarioState} (hasking : ∀ entry ∈ entries, Asking env entry.1.holds)
    (h : (pollRound env origin deadline entries).run s = .ok (next, false) s') :
    s.readings < s'.readings ∧ s'.readings ≤ env.clock.reaches deadline := by
  obtain ⟨observed, s₁, hobserved, h⟩ := bind_eq_ok.1 h
  have hquiet : Quiet s s₁ := (Asking.mapM _ fun entry hentry =>
    asking_pollCheck origin (hasking entry hentry)).of_ok hobserved
  split_ifs at h with hall
  · cases (Prod.mk.inj (pure_eq_ok.1 h).1).2
  · obtain ⟨t, s₂, hnow, h⟩ := bind_eq_ok.1 h
    rw [now_run] at hnow
    cases hnow
    obtain ⟨hpair, hs⟩ := pure_eq_ok.1 h
    have hbefore := of_decide_eq_false (Prod.mk.inj hpair).2
    have hreading := env.clock.lt_reaches (not_le.1 hbefore)
    rw [← hs]
    exact ⟨Nat.lt_succ_of_le hquiet.readings, hreading⟩

/-- What a loop of cycles is over: the checks, which ask. -/
theorem asking_of_map_fst {checks : List Check} (hchecks : ∀ check ∈ checks, Asking env check.holds)
    {entries : List (Check × Option ℚ)} (h : entries.map Prod.fst = checks) :
    ∀ entry ∈ entries, Asking env entry.1.holds := fun _ hentry =>
  hchecks _ (h ▸ List.mem_map_of_mem hentry)

/-- The checks that no cycle has seen hold. -/
theorem map_fst_unseen (checks : List Check) :
    (checks.map fun check => (check, (none : Option ℚ))).map Prod.fst = checks := by
  rw [List.map_map]
  exact List.map_id checks

/-- **Polling ends, and only asks**: no more cycles are gone through than the clock has
readings before the deadline. -/
theorem asking_poll {checks : List Check} (hchecks : ∀ check ∈ checks, Asking env check.holds)
    (origin timeoutS : ℚ) : Asking env (poll env checks origin timeoutS) := by
  refine asking_now.bind fun t => ?_
  have hkeeps : ∀ entries s next stops s', entries.map Prod.fst = checks →
      (pollRound env origin (t + timeoutS) entries).run s = .ok (next, stops) s' →
        next.map Prod.fst = checks :=
    fun entries s next stops s' hentries h => (pollRound_checks h).trans hentries
  refine within_bind_of_ok Quiet.trans (within_repeatUntil Quiet.refl Quiet.trans hkeeps
    (fun entries hentries => asking_pollRound origin _ (asking_of_map_fst hchecks hentries)) _
    (map_fst_unseen checks)) fun s last s' hloop => ?_
  cases last with
  | some entries => exact asking_pure _
  | none =>
      refine absurd hloop (repeatUntil_ne_none hkeeps (fun entries s next s' hentries h =>
        pollRound_goesOn (asking_of_map_fst hchecks hentries) h) _ (map_fst_unseen checks) s s'
        (Nat.succ_pos _) ?_)
      omega

/-- What was polled has the keys of the checks. -/
theorem poll_keys {checks : List Check} {origin timeoutS : ℚ}
    {observed : List (String × Option ℚ)} {s s' : ScenarioState}
    (h : (poll env checks origin timeoutS).run s = .ok observed s') :
    observed.map Prod.fst = checks.map Check.name := by
  obtain ⟨t, s₁, -, h⟩ := bind_eq_ok.1 h
  obtain ⟨last, s₂, hloop, h⟩ := bind_eq_ok.1 h
  cases last with
  | none => exact absurd h throw_ne_ok
  | some entries =>
      have hkeeps : ∀ entries s next stops s', entries.map Prod.fst = checks →
          (pollRound env origin (t + timeoutS) entries).run s = .ok (next, stops) s' →
            next.map Prod.fst = checks :=
        fun entries s next stops s' hentries h => (pollRound_checks h).trans hentries
      obtain ⟨before, s₃, hbefore, hlast⟩ := repeatUntil_eq_ok hkeeps (map_fst_unseen checks) hloop
      rw [← (pure_eq_ok.1 h).1, List.map_map, ← hkeeps _ _ _ _ _ hbefore hlast, List.map_map]
      rfl

theorem asking_failedSessionHolds (holds : Option String → Bool) :
    Asking env (failedSessionHolds env holds) :=
  (asking_leafSessionStates (by decide)).bind fun _ => asking_pure _

theorem asking_nextHopsAre {check : RouteCheck} (h : check ∈ routeChecks)
    (expected : List String) : Asking env (nextHopsAre env check expected) :=
  (asking_nextHops (leaf_mem h)).bind fun _ => asking_pure _

theorem leaf1Check_mem : leaf1Check ∈ routeChecks := List.mem_cons_self

theorem leaf2Check_mem : leaf2Check ∈ routeChecks := List.mem_cons_of_mem _ List.mem_cons_self

theorem asking_degradedChecks : ∀ check ∈ degradedChecks env, Asking env check.holds := by
  intro check hcheck
  simp only [degradedChecks, List.mem_cons, List.not_mem_nil, or_false] at hcheck
  rcases hcheck with rfl | rfl | rfl
  · dsimp only
    exact asking_failedSessionHolds _
  · exact asking_nextHopsAre leaf1Check_mem _
  · exact asking_nextHopsAre leaf2Check_mem _

theorem asking_recoveryChecks : ∀ check ∈ recoveryChecks env, Asking env check.holds := by
  intro check hcheck
  simp only [recoveryChecks, List.mem_cons, List.not_mem_nil, or_false] at hcheck
  rcases hcheck with rfl | rfl | rfl
  · dsimp only
    exact asking_failedSessionHolds _
  · exact asking_nextHopsAre leaf1Check_mem _
  · exact asking_nextHopsAre leaf2Check_mem _

/-! ### What is read -/

theorem leafSessions_keys (leaf : String) (peers : List (String × String)) :
    (leafSessions leaf peers).map Prod.fst =
      (sessions.filter fun session => session.leaf = leaf).map Session.name := by
  unfold leafSessions
  rw [List.map_map]
  rfl

/-- A leaf is asked for its sessions. -/
theorem leafSessionStates_keys {leaf : String} {states : List (String × String)}
    {s s' : ScenarioState} (h : (leafSessionStates env leaf).run s = .ok states s') :
    states.map Prod.fst = (sessions.filter fun session => session.leaf = leaf).map Session.name := by
  obtain ⟨result, s₁, -, h⟩ := bind_eq_ok.1 h
  obtain ⟨peers, s₂, -, h⟩ := bind_eq_ok.1 h
  rw [← (pure_eq_ok.1 h).1]
  exact leafSessions_keys leaf peers

/-- The keys of a reading. -/
structure LabReading.Keyed (reading : LabReading) : Prop where
  sessions : reading.sessions.map Prod.fst = Lab.sessions.map Session.name
  routes : reading.routes.map Prod.fst = routeChecks.map RouteCheck.leaf
  reachability : reading.reachability.map Prod.fst = hostPings.map fun pair => pair.1 ++ "->" ++ pair.2

/-- **What is read has the keys that were asked for.** -/
theorem readLab_keys {reading : LabReading} {s s' : ScenarioState}
    (h : (readLab env).run s = .ok reading s') : reading.Keyed := by
  obtain ⟨states, s₁, hstates, h⟩ := bind_eq_ok.1 h
  obtain ⟨routes, s₂, hroutes, h⟩ := bind_eq_ok.1 h
  obtain ⟨reachability, s₃, hreachability, h⟩ := bind_eq_ok.1 h
  rw [← (pure_eq_ok.1 h).1]
  obtain ⟨leaf1, s₄, hleaf1, hstates⟩ := bind_eq_ok.1 hstates
  obtain ⟨leaf2, s₅, hleaf2, hstates⟩ := bind_eq_ok.1 hstates
  refine ⟨?_, map_fst_of_mapM (fun check _ s y s' hy => ?_) hroutes,
    map_fst_of_mapM (fun pair _ s y s' hy => ?_) hreachability⟩
  · rw [← (pure_eq_ok.1 hstates).1, List.map_append, leafSessionStates_keys hleaf1,
      leafSessionStates_keys hleaf2]
    decide
  · obtain ⟨hops, s₆, -, hy⟩ := bind_eq_ok.1 hy
    rw [← (pure_eq_ok.1 hy).1]
  · obtain ⟨ok, s₆, -, hy⟩ := bind_eq_ok.1 hy
    rw [← (pure_eq_ok.1 hy).1]

end Asking

end Lab
end MetaRne
