/-
# The fault is taken back

Whatever the command runner does, a run issues the fault command at most once, after
everything has been checked, and then the restore command exactly once after it; all other
commands only ask (`fault_undone`).

The argument follows the state in which the run ends, not what it returns or raises.
Before the fault and after it the run is `Calm`: it issues queries, and the flags that
`_restore_if_injected` reads stay as they are.  So the cleanup finds the flag that was set
before the command, wherever the part under the `try` ended (`final_tryFinally`).
-/

import MetaRne.Lab.ScenarioChecks
import MetaRne.Lab.ScenarioRaises

namespace MetaRne
namespace Lab

open Library Library.Effect Python

/-- Only queries were issued. -/
def Asked (s s' : ScenarioState) : Prop :=
  ∃ queries, s'.issued = s.issued ++ queries ∧ ∀ argv ∈ queries, IsQuery argv

theorem Asked.refl (s : ScenarioState) : Asked s s :=
  ⟨[], (List.append_nil _).symm, fun _ h => absurd h List.not_mem_nil⟩

theorem Asked.trans (s₁ s₂ s₃ : ScenarioState) (h : Asked s₁ s₂) (h' : Asked s₂ s₃) :
    Asked s₁ s₃ := by
  obtain ⟨first, hfirst, hall⟩ := h
  obtain ⟨second, hsecond, hall'⟩ := h'
  refine ⟨first ++ second, ?_, List.forall_mem_append.2 ⟨hall, hall'⟩⟩
  rw [hsecond, hfirst, List.append_assoc]

theorem asked_of_issued_eq {s s' : ScenarioState} (h : s'.issued = s.issued) : Asked s s' :=
  ⟨[], by rw [h, List.append_nil], fun _ h => absurd h List.not_mem_nil⟩

/-- Only queries were issued, and the flags that the cleanup reads are as they were. -/
structure Calm (s s' : ScenarioState) : Prop where
  asked : Asked s s'
  injected : s'.scenario.injected = s.scenario.injected
  restoreOk : s'.scenario.restoreOk = s.scenario.restoreOk

theorem Calm.refl (s : ScenarioState) : Calm s s := ⟨Asked.refl s, rfl, rfl⟩

theorem Calm.trans (s₁ s₂ s₃ : ScenarioState) (h : Calm s₁ s₂) (h' : Calm s₂ s₃) : Calm s₁ s₃ :=
  ⟨Asked.trans _ _ _ h.asked h'.asked, h'.injected.trans h.injected,
    h'.restoreOk.trans h.restoreOk⟩

theorem Quiet.calm {s s' : ScenarioState} (h : Quiet s s') : Calm s s' :=
  ⟨h.issued, by rw [h.scenario], by rw [h.scenario]⟩

section Calm

variable {env : Environment} {α β : Type}

theorem Asking.calm {x : LabM α} (h : Asking env x) : Respects Calm x :=
  h.1.mono fun _ _ => Quiet.calm

theorem calm_bind {x : LabM α} {f : α → LabM β} (hx : Respects Calm x)
    (hf : ∀ a, Respects Calm (f a)) : Respects Calm (x >>= f) := hx.bind Calm.trans hf

theorem calm_check (x : Except Raised α) : Respects Calm (liftM x : LabM α) :=
  respects_check Calm.refl x

/-- An update of other attributes than the flags. -/
theorem calm_update {change : Scenario → Scenario}
    (hinjected : ∀ scenario, (change scenario).injected = scenario.injected)
    (hrestoreOk : ∀ scenario, (change scenario).restoreOk = scenario.restoreOk) :
    Respects Calm (update change) := fun _ =>
  ⟨asked_of_issued_eq rfl, hinjected _, hrestoreOk _⟩

theorem calm_checkSafety : Respects Calm (checkSafety env) :=
  calm_bind (calm_check _) fun _ => calm_bind asking_dockerOperatingSystem.calm fun _ =>
    calm_bind (calm_check _) fun _ => calm_bind asking_runningLabContainers.calm fun _ =>
      calm_bind (calm_check _) fun _ => calm_bind asking_runtimeSnapshot.calm fun _ =>
        calm_bind (calm_update (fun _ => rfl) fun _ => rfl) fun _ => calm_check _

theorem calm_checkBaseline : Respects Calm (checkBaseline env) :=
  calm_bind (asking_phase _).calm fun _ => calm_bind asking_readLab.calm fun _ =>
    calm_bind (calm_update (fun _ => rfl) fun _ => rfl) fun _ => calm_check _

theorem calm_preflight : Respects Calm (preflight env) :=
  calm_bind calm_checkSafety fun _ => calm_checkBaseline

theorem calm_get_bind {f : ScenarioState → LabM α} (hf : ∀ s, Respects Calm (f s)) :
    Respects Calm (get >>= f) := fun s => hf s s

theorem calm_observeDegraded : Respects Calm (observeDegraded env) :=
  calm_get_bind fun _ => calm_bind (calm_check _) fun _ =>
    calm_bind (asking_poll asking_degradedChecks _ _).calm fun _ =>
      calm_bind (calm_update (fun _ => rfl) fun _ => rfl) fun _ =>
        calm_bind (asking_phase _).calm fun _ => calm_bind asking_readLab.calm fun _ =>
          calm_bind (calm_update (fun _ => rfl) fun _ => rfl) fun _ => calm_check _

theorem calm_observeRecovery : Respects Calm (observeRecovery env) :=
  calm_get_bind fun _ => calm_bind (calm_check _) fun _ =>
    calm_bind (asking_poll asking_recoveryChecks _ _).calm fun _ =>
      calm_bind asking_readLab.calm fun _ =>
        calm_bind (calm_update (fun _ => rfl) fun _ => rfl) fun _ =>
          calm_bind (calm_check _) fun _ => (asking_phase _).calm

theorem calm_recover (failure : Option ScenarioError) : Respects Calm (recover env failure) := by
  refine calm_get_bind fun s => ?_
  split_ifs
  · split
    · exact respects_pure Calm.refl _
    · refine calm_bind (fun t => ?_) fun _ => respects_pure Calm.refl _
      rw [final_caught]
      exact calm_observeRecovery t
  · exact respects_pure Calm.refl _

theorem calm_stopMonitor : Respects Calm (stopMonitor env) := by
  intro s
  change Calm s (final (if s.scenario.monitorStarted = true then _ else _ : LabM _) s)
  split_ifs
  · refine ⟨⟨_, rfl, fun argv hargv => ?_⟩, rfl, rfl⟩
    rw [List.eq_of_mem_replicate hargv]
    exact isQuery_probeArgv
  · exact Calm.refl s

theorem calm_finish (failure : Option ScenarioError) (samples : List ProbeSample) :
    Respects Calm (finish env failure samples) := by
  refine calm_get_bind fun s => calm_bind ?_ fun after => calm_bind ?_ fun _ =>
    calm_get_bind fun _ => respects_pure Calm.refl _
  · unfold runtimeAfter
    split_ifs
    · exact asking_runtimeSnapshot.calm
    · exact respects_pure Calm.refl _
  · unfold phaseOf
    split_ifs
    · exact (asking_phase _).calm
    · exact respects_pure Calm.refl _

/-! ### The fault and the restore command -/

/-- The state in which the fault command is issued. -/
def faultState (env : Environment) (s : ScenarioState) : ScenarioState :=
  { s with
    readings := s.readings + 1
    scenario :=
      { s.scenario with
        injected := true
        injectedAt := some (env.clock.reading s.readings) } }

theorem issueFault_run (s : ScenarioState) :
    (issueFault env).run s = (issue env injectArgv).run (faultState env s) := rfl

/-- A command was issued, after queries. -/
def Issues (argv : Argv) (s s' : ScenarioState) : Prop :=
  ∃ queries, s'.issued = s.issued ++ queries ++ [argv] ∧ ∀ query ∈ queries, IsQuery query

theorem issues_issue (argv : Argv) {s s' : ScenarioState} (h : s'.issued = s.issued) :
    Issues argv s (final (issue env argv) s') := by
  obtain ⟨pings, hissued, hpings⟩ := exists_issuedWith env s' argv
  refine ⟨pings, ?_, hpings⟩
  rw [final_issue, ← h]
  exact hissued

theorem calm_inject_after (result : CommandResult) :
    Respects Calm (do
      phase env .failureInjected
      update fun scenario =>
        { scenario with failure := scenario.injectedAt.map (failureRecord env) }
      raiseProblems (if result.returncode ≠ 0 then
        [⟨"fault injection command failed: %s", [.chars (strip result.stderr)]⟩] else [])
        .scenarioFailed : LabM Unit) :=
  calm_bind (asking_phase _).calm fun _ =>
    calm_bind (calm_update (fun _ => rfl) fun _ => rfl) fun _ => calm_check _

/-- **The fault command comes with the flag set**, whatever becomes of it and of what follows
it under the `try`; before it the monitor is started. -/
theorem final_injectAndObserve (s : ScenarioState) :
    final (injectAndObserve env) s = s ∨
      ∃ fault, Issues injectArgv s fault ∧ fault.scenario.injected = true ∧
        fault.scenario.restoreOk = s.scenario.restoreOk ∧
        Calm fault (final (injectAndObserve env) s) := by
  unfold injectAndObserve startMonitor
  cases env.startRaises with
  | some repr => exact Or.inl rfl
  | none =>
      let started : ScenarioState :=
        { s with scenario := { s.scenario with monitorStarted := true } }
      have hstart : final (do
          update fun scenario => { scenario with monitorStarted := true }
          inject env
          observeDegraded env) s = final (inject env >>= fun _ => observeDegraded env) started :=
        final_congr rfl
      have hfault : final (issueFault env) started = final (issue env injectArgv)
          (faultState env started) := final_congr (issueFault_run started)
      refine Or.inr ⟨final (issueFault env) started, ?_, ?_, ?_, ?_⟩
      · rw [hfault]
        exact issues_issue injectArgv rfl
      · rw [hfault, final_issue]
        rfl
      · rw [hfault, final_issue]
        rfl
      · rw [hstart]
        have hinject : Calm (final (issueFault env) started) (final (inject env) started) :=
          Respects.final_bind Calm.refl calm_inject_after started
        exact hinject.trans _ _ _
          (Respects.final_bind Calm.refl (fun _ => calm_observeDegraded) started)

theorem restoreIfInjected_of_injected {s : ScenarioState} (hinjected : s.scenario.injected = true)
    (hrestoreOk : s.scenario.restoreOk = false) :
    final (restoreIfInjected env) s = final (restore env) s := by
  refine final_congr ?_
  change (if s.scenario.injected ∧ s.scenario.restoreOk = false then restore env
    else pure () : LabM Unit).run s = _
  rw [if_pos ⟨hinjected, hrestoreOk⟩]

theorem restoreIfInjected_of_not_injected {s : ScenarioState}
    (hinjected : s.scenario.injected = false) : final (restoreIfInjected env) s = s := by
  have hrun : (restoreIfInjected env).run s = (pure () : LabM Unit).run s := by
    change (if s.scenario.injected ∧ s.scenario.restoreOk = false then restore env
      else pure () : LabM Unit).run s = _
    rw [if_neg]
    rw [hinjected]
    simp
  exact final_congr hrun

/-- **The cleanup issues the restore command**, whatever becomes of it. -/
theorem final_restore (s : ScenarioState) : Issues restoreArgv s (final (restore env) s) := by
  let restoring : ScenarioState :=
    { s with
      readings := s.readings + 1 + 1
      phases := s.phases ++
        [(.restoring, msSince (env.clock.reading 0) (env.clock.reading s.readings))]
      scenario :=
        { s.scenario with restoredAt := some (env.clock.reading (s.readings + 1)) } }
  have hrun : final (restore env) s = final (caught handled (restoreLink env) >>= fun outcome =>
      update (recordRestore outcome)) restoring := final_congr rfl
  have hissued : (final (caught handled (restoreLink env) >>= fun outcome =>
      update (recordRestore outcome)) restoring).issued =
        (final (caught handled (restoreLink env)) restoring).issued :=
    Respects.final_bind (R := fun s s' => s'.issued = s.issued) (fun _ => rfl) (fun _ _ => rfl)
      restoring
  obtain ⟨queries, hrestore, hqueries⟩ :=
    @issues_issue env restoreArgv s restoring rfl
  refine ⟨queries, ?_, hqueries⟩
  rw [hrun, hissued, final_caught]
  exact hrestore

/-- The cleanup leaves the flag. -/
theorem restore_injected (s : ScenarioState) :
    (final (restore env) s).scenario.injected = s.scenario.injected := by
  have htrans : ∀ s₁ s₂ s₃ : ScenarioState, s₂.scenario.injected = s₁.scenario.injected →
      s₃.scenario.injected = s₂.scenario.injected → s₃.scenario.injected = s₁.scenario.injected :=
    fun _ _ _ h h' => h'.trans h
  have hcaught : ∀ s : ScenarioState,
      (final (caught handled (restoreLink env)) s).scenario.injected = s.scenario.injected := by
    intro s
    rw [final_caught]
    unfold restoreLink
    rw [final_issue]
  refine Respects.bind (R := fun s s' => s'.scenario.injected = s.scenario.injected) htrans
    (fun s => ((@asking_phase env .restoring).calm s).injected) (fun _ => ?_) s
  refine Respects.bind htrans (fun s => ((@asking_now env).calm s).injected) fun t => ?_
  refine Respects.bind htrans (fun s => rfl) fun _ => ?_
  refine Respects.bind htrans hcaught fun outcome s => ?_
  change (recordRestore outcome s.scenario).injected = s.scenario.injected
  cases outcome with
  | error error => rfl
  | ok result =>
      dsimp only [recordRestore]
      split_ifs
      · rfl
      · rfl

/-- What stands under the `try` and its cleanup issue the fault command and later the restore
command, or neither. -/
theorem final_faultAndRestore {s : ScenarioState} (hinjected : s.scenario.injected = false)
    (hrestoreOk : s.scenario.restoreOk = false) :
    final (faultAndRestore env) s = s ∨
      (final (faultAndRestore env) s).scenario.injected = true ∧
        ∃ fault before, Issues injectArgv s fault ∧ Asked fault before ∧
          Issues restoreArgv before (final (faultAndRestore env) s) := by
  have hfinal : final (faultAndRestore env) s =
      final (restoreIfInjected env) (final (injectAndObserve env) s) := by
    unfold faultAndRestore
    rw [← map_eq_pure_bind, final_map, final_tryFinally, final_caught]
  rw [hfinal]
  rcases @final_injectAndObserve env s with hsame | ⟨fault, hissues, hset, hkept, hcalm⟩
  · rw [hsame, restoreIfInjected_of_not_injected hinjected]
    exact Or.inl rfl
  · rw [restoreIfInjected_of_injected (hcalm.injected.trans hset)
      (hcalm.restoreOk.trans (hkept.trans hrestoreOk))]
    exact Or.inr ⟨(restore_injected _).trans (hcalm.injected.trans hset), fault, _, hissues,
      hcalm.asked, final_restore _⟩

end Calm

/-! ### The run -/

section Run

variable {env : Environment}

/-- What comes after the cleanup only asks. -/
theorem final_runScenario (s : ScenarioState) :
    Asked (final (faultAndRestore env) s) (final (runScenario env) s) :=
  (Respects.final_bind Calm.refl (fun failure => calm_bind (calm_recover failure) fun _ =>
    calm_bind calm_stopMonitor fun _ => calm_finish _ _) s).asked

/-- A run ends in its scenario if the preflight returns, and asks only if it does not. -/
theorem final_run (env : Environment) :
    (∃ s, (preflight env).run initialState = .ok () s ∧
        final (run env) initialState = final (runScenario env) s) ∨
      Asked initialState (final (run env) initialState) := by
  cases hpreflight : (preflight env).run initialState with
  | ok u s =>
      refine Or.inl ⟨s, rfl, final_congr ?_⟩
      unfold run
      rw [EStateM.run_bind, caught_of_ok hpreflight]
      rfl
  | error e s =>
      have hasked : Asked initialState s := (calm_preflight.of_error hpreflight).asked
      refine Or.inr ?_
      cases hhandled : handled e with
      | none =>
          have hrun : (run env).run initialState = .error e s :=
            bind_eq_error.2 (Or.inl (caught_of_passed hpreflight hhandled))
          rw [final_of_error hrun]
          exact hasked
      | some error =>
          have hrun : final (run env) initialState =
              final (finish env (failureOf "unexpected error in preflight: %r" (.error error)) [])
                s := by
            refine final_congr ?_
            unfold run
            rw [EStateM.run_bind, caught_of_handled hpreflight hhandled]
            cases error <;> rfl
          rw [hrun]
          exact Asked.trans _ _ _ hasked (calm_finish _ _ s).asked

/-- The commands of a run: queries, and between them the fault command and later the restore
command, or neither. -/
theorem run_issued (env : Environment) :
    (∀ argv ∈ (final (run env) initialState).issued, IsQuery argv) ∨
      ∃ s before between after, (preflight env).run initialState = .ok () s ∧
        (final (run env) initialState).issued =
          s.issued ++ before ++ injectArgv :: (between ++ restoreArgv :: after) ∧
        (∀ argv ∈ s.issued ++ before, IsQuery argv) ∧ (∀ argv ∈ between, IsQuery argv) ∧
        ∀ argv ∈ after, IsQuery argv := by
  rcases final_run env with ⟨s, hpreflight, hfinal⟩ | ⟨queries, hissued, hall⟩
  · have hcalm : Calm initialState s := calm_preflight.of_ok hpreflight
    obtain ⟨checking, hchecking, hcheckingAll⟩ := hcalm.asked
    obtain ⟨after, hafter, hafterAll⟩ := @final_runScenario env s
    have hs : ∀ argv ∈ s.issued, IsQuery argv := by
      rw [hchecking]
      exact hcheckingAll
    rw [hfinal, hafter]
    rcases @final_faultAndRestore env s hcalm.injected hcalm.restoreOk with
      hsame | ⟨-, fault, cleanup, ⟨before, hbefore, hbeforeAll⟩, ⟨between, hbetween, hbetweenAll⟩,
        ⟨pings, hpings, hpingsAll⟩⟩
    · rw [hsame]
      exact Or.inl (List.forall_mem_append.2 ⟨hs, hafterAll⟩)
    · refine Or.inr ⟨s, before, between ++ pings, after, hpreflight, ?_,
        List.forall_mem_append.2 ⟨hs, hbeforeAll⟩,
        List.forall_mem_append.2 ⟨hbetweenAll, hpingsAll⟩, hafterAll⟩
      rw [hpings, hbetween, hbefore]
      simp only [List.append_assoc, List.cons_append, List.nil_append]
  · refine Or.inl ?_
    rw [hissued]
    exact hall

/-- The fault is taken back in a run that issued these commands. -/
structure FaultTakenBack (env : Environment) (trace : List Argv) : Prop where
  /-- The fault command is issued at most once. -/
  atMostOnce : trace.count injectArgv ≤ 1
  /-- It is issued only after the preflight, which has issued other commands, and passed. -/
  afterChecks : injectArgv ∈ trace → ∃ s, (preflight env).run initialState = .ok () s ∧
    ChecksPassed env s ∧ s.issued <+: trace ∧ injectArgv ∉ s.issued
  /-- Then the restore command is issued after it, -/
  undone : injectArgv ∈ trace →
    ∃ before between after, trace = before ++ injectArgv :: (between ++ restoreArgv :: after)
  /-- and as often. -/
  asOften : trace.count restoreArgv = trace.count injectArgv
  /-- All other commands only ask. -/
  nothingElse : ∀ argv ∈ trace, argv = injectArgv ∨ argv = restoreArgv ∨ IsQuery argv

/-- A command that does not only ask is not among queries. -/
theorem count_queries {argv : Argv} (hargv : ¬ IsQuery argv) {queries : List Argv}
    (h : ∀ query ∈ queries, IsQuery query) : queries.count argv = 0 :=
  List.count_eq_zero.2 fun hmem => hargv (h argv hmem)

theorem run_faultTakenBack (env : Environment) :
    FaultTakenBack env (final (run env) initialState).issued := by
  rcases run_issued env with hall | ⟨s, before, between, after, hpreflight, htrace, hbefore,
    hbetween, hafter⟩
  · have hinject := count_queries not_isQuery_injectArgv hall
    have hrestore := count_queries not_isQuery_restoreArgv hall
    have hnone : injectArgv ∉ (final (run env) initialState).issued := List.count_eq_zero.1 hinject
    exact
      { atMostOnce := by rw [hinject]; exact Nat.zero_le 1
        afterChecks := fun h => absurd h hnone
        undone := fun h => absurd h hnone
        asOften := by rw [hinject, hrestore]
        nothingElse := fun argv hargv => Or.inr (Or.inr (hall argv hargv)) }
  · have hinject : (final (run env) initialState).issued.count injectArgv = 1 := by
      rw [htrace, List.count_append, count_queries not_isQuery_injectArgv hbefore,
        List.count_cons_self, List.count_append, count_queries not_isQuery_injectArgv hbetween,
        List.count_cons_of_ne injectArgv_ne_restoreArgv.symm,
        count_queries not_isQuery_injectArgv hafter]
    have hrestore : (final (run env) initialState).issued.count restoreArgv = 1 := by
      rw [htrace, List.count_append, count_queries not_isQuery_restoreArgv hbefore,
        List.count_cons_of_ne injectArgv_ne_restoreArgv, List.count_append,
        count_queries not_isQuery_restoreArgv hbetween, List.count_cons_self,
        count_queries not_isQuery_restoreArgv hafter]
    refine
      { atMostOnce := hinject.le
        afterChecks := fun _ => ⟨s, hpreflight, preflight_eq_ok hpreflight, ?_, ?_⟩
        undone := fun _ => ⟨s.issued ++ before, between, after, htrace⟩
        asOften := hrestore.trans hinject.symm
        nothingElse := fun argv hargv => ?_ }
    · rw [htrace, List.append_assoc]
      exact List.prefix_append _ _
    · exact fun h => not_isQuery_injectArgv (hbefore _ (List.mem_append_left _ h))
    · rw [htrace] at hargv
      rcases List.mem_append.1 hargv with h | h
      · exact Or.inr (Or.inr (hbefore argv h))
      · rcases List.mem_cons.1 h with h | h
        · exact Or.inl h
        · rcases List.mem_append.1 h with h | h
          · exact Or.inr (Or.inr (hbetween argv h))
          · rcases List.mem_cons.1 h with h | h
            · exact Or.inr (Or.inl h)
            · exact Or.inr (Or.inr (hafter argv h))

end Run

/-- **The injected fault is always undone.**  Every run comes to an end, and in the state in
which it returns or raises the fault command was issued at most once and after all checks
had passed; if it was, the restore command was issued exactly once, after it; and
everything else was a query. -/
theorem fault_undone (env : Environment) :
    (∀ s, (run env).run initialState ≠ .error .roundsExhausted s) ∧
      FaultTakenBack env (final (run env) initialState).issued :=
  ⟨run_ends env initialState, run_faultTakenBack env⟩

end Lab
end MetaRne
