/-
# The verdict of a run

A run that returns says `0` only if everything it was to see was seen, and after a fault
without a full recovery it says `5`, or `6` where an unexpected exception ended the
observation of recovery (`run_verdict`).  Of the runtime it says only what it could read: an
identity that cannot be read at the end is not one that has changed.

The proof follows a part that returned through the attributes it wrote: queries write none
(`Quiet.scenario`).  The command runner must not raise a `ScenarioError`, which the handlers
would take for the scenario's own.
-/

import MetaRne.Lab.FaultUndone
import Mathlib.Data.Rat.Floor

namespace MetaRne
namespace Lab

open Library Library.Effect Python

/-- The command runner raises no `ScenarioError`. -/
def Environment.RaisesNoScenarioError (env : Environment) : Prop :=
  ∀ issued error, env.reply issued ≠ .raised (.scenario error)

/-- Full recovery was observed: each check held in time, and the lab was healthy after them. -/
structure RecoveryRecord.Full (record : RecoveryRecord) : Prop where
  complete : record.restoreMs.Complete
  healthy : record.reading.Healthy

/-- The restore command returned, and reported success. -/
def RestoreSucceeded (env : Environment) (trace : List Argv) : Prop :=
  ∃ before after result, trace = before ++ restoreArgv :: after ∧
    env.reply (before ++ [restoreArgv]) = .result result ∧ result.returncode = 0

/-- What a returned result may say. -/
structure Truthful (env : Environment) (r : ScenarioResult) (trace : List Argv) : Prop where
  /-- It passed only with a healthy baseline, -/
  baseline : r.exitCode = .passed → ∃ reading, r.baseline = some reading ∧ reading.Healthy
  /-- a degraded state that was fully observed, -/
  degraded : r.exitCode = .passed → ∃ failure reading, r.failure = some failure ∧
    failure.convergenceMs.Complete ∧ r.degraded = some reading ∧ reading.Degraded
  /-- a restore command that succeeded, -/
  restored : r.exitCode = .passed → RestoreSucceeded env trace
  /-- a full recovery that was observed, -/
  recovered : r.exitCode = .passed → ∃ record, r.recovery = some record ∧ record.Full
  /-- and an identity of the runtime that is the one before, if it could be read. -/
  sameRuntime : r.exitCode = .passed → ∃ before, r.runtime.before = some before ∧
    ∀ after ∈ r.runtime.after, after = before
  /-- A fault without a full recovery is told: the lab may be left degraded, or an unexpected
  exception ended the observation of recovery. -/
  notHidden : injectArgv ∈ trace → (¬ ∃ record, r.recovery = some record ∧ record.Full) →
    r.exitCode = .recoveryFailed ∨ r.exitCode = .internalError ∧
      ∃ error rest, r.failureReason =
        some (⟨"unexpected error during recovery: %r", [.unexpected error]⟩ :: rest)

/-! ### The exit code -/

section ExitCode

variable {failure : Option ScenarioError} {restarted : Bool}

/-- Only a run without a failure and without a restart passes. -/
theorem verdictOf_eq_passed (h : verdictOf failure restarted = .passed)
    (hcode : ∀ error ∈ failure, error.exitCode ≠ .passed) :
    failure = none ∧ restarted = false := by
  cases failure with
  | none =>
      cases restarted with
      | true => cases h
      | false => exact ⟨rfl, rfl⟩
  | some error =>
      have hne := hcode error rfl
      dsimp only [verdictOf, Option.map_some, Option.getD_some] at h
      split_ifs at h
      exact absurd h hne

/-- A restart replaces no failure of recovery and no internal error. -/
theorem verdictOf_of_failure {error : ScenarioError} (hpassed : error.exitCode ≠ .passed)
    (hfailed : error.exitCode ≠ .scenarioFailed) :
    verdictOf (some error) restarted = error.exitCode := by
  unfold verdictOf
  rw [if_neg]
  · rfl
  · simp [hpassed, hfailed]

/-- The reason of a failure comes first. -/
theorem reasonOf_some (error : ScenarioError) (restarted : Bool) :
    ∃ rest, reasonOf (some error) restarted = some (error.problems ++ rest) := by
  unfold reasonOf
  cases restarted with
  | true => exact ⟨_, rfl⟩
  | false => exact ⟨[], by rw [List.append_nil]; rfl⟩

theorem runtimeRestarted_eq_false {before after : Option RuntimeIdentity}
    (h : runtimeRestarted before after = false) {identity : RuntimeIdentity}
    (hbefore : before = some identity) : ∀ read ∈ after, read = identity := by
  intro read hread
  rw [Option.mem_def] at hread
  rw [runtimeRestarted, hbefore, hread] at h
  simpa using h

end ExitCode

/-! ### The parts that returned -/

section Parts

variable {env : Environment} {s s' : ScenarioState}

theorem update_eq_ok {change : Scenario → Scenario} {u : PUnit}
    (h : (update change).run s = .ok u s') :
    s' = { s with scenario := change s.scenario } := by
  cases h
  rfl

theorem get_eq_ok {t : ScenarioState} (h : (get : LabM ScenarioState).run s = .ok t s') :
    t = s ∧ s' = s := by
  cases h
  exact ⟨rfl, rfl⟩

/-- A check that returned changed nothing. -/
theorem liftM_eq_ok {α : Type} {x : Except Raised α} {a : α}
    (h : (liftM x : LabM α).run s = .ok a s') : x = .ok a ∧ s' = s := by
  obtain ⟨hx, hs⟩ := check_eq_ok.1 h
  exact ⟨hx, hs.symm⟩

theorem phase_scenario {name : Phase} {u : Unit} (h : (phase env name).run s = .ok u s') :
    s'.scenario = s.scenario := ((asking_phase name).of_ok h).scenario

theorem issue_scenario {argv : Argv} {result : CommandResult}
    (h : (issue env argv).run s = .ok result s') : s'.scenario = s.scenario := by
  rw [← final_of_ok h, final_issue]

/-- An injection that returned left the flag, and a record without observations. -/
theorem inject_eq_ok {u : Unit} (h : (inject env).run s = .ok u s') :
    ∃ t, s'.scenario =
      { s.scenario with
        injected := true
        injectedAt := some t
        failure := some (failureRecord env t) } := by
  obtain ⟨result, s₁, hissue, h⟩ := bind_eq_ok.1 h
  obtain ⟨u₁, s₂, hphase, h⟩ := bind_eq_ok.1 h
  obtain ⟨u₂, s₃, hrecord, h⟩ := bind_eq_ok.1 h
  obtain ⟨-, hs⟩ := liftM_eq_ok h
  rw [issueFault_run] at hissue
  refine ⟨env.clock.reading s.readings, ?_⟩
  rw [hs, update_eq_ok hrecord, phase_scenario hphase, issue_scenario hissue]
  rfl

/-- A degraded state that was observed: all checks held, and the lab was degraded after them. -/
theorem observeDegraded_eq_ok {u : Unit} (h : (observeDegraded env).run s = .ok u s') :
    ∃ observed reading, s'.scenario =
        { s.scenario with
          failure := s.scenario.failure.map fun failure =>
            { failure with convergenceMs := observed }
          degraded := some reading } ∧
      observed.Complete ∧ reading.Degraded := by
  obtain ⟨t, s₀, hget, h⟩ := bind_eq_ok.1 h
  obtain ⟨origin, s₁, hasserted, h⟩ := bind_eq_ok.1 h
  obtain ⟨observed, s₂, hpoll, h⟩ := bind_eq_ok.1 h
  obtain ⟨u₁, s₃, hrecord, h⟩ := bind_eq_ok.1 h
  obtain ⟨u₂, s₄, hphase, h⟩ := bind_eq_ok.1 h
  obtain ⟨reading, s₅, hreading, h⟩ := bind_eq_ok.1 h
  obtain ⟨u₃, s₆, hdegraded, h⟩ := bind_eq_ok.1 h
  obtain ⟨hproblems, hs⟩ := liftM_eq_ok h
  obtain ⟨hall, hlab⟩ := degradedProblems_eq_nil (readLab_keys hreading)
    (raiseProblems_eq_ok.1 hproblems)
  have hpolled := ((asking_poll asking_degradedChecks _ _).of_ok hpoll).scenario
  refine ⟨observedOf observed, reading, ?_, observedOf_complete (poll_keys hpoll) hall, hlab⟩
  rw [hs, update_eq_ok hdegraded, (asking_readLab.of_ok hreading).scenario, phase_scenario hphase,
    update_eq_ok hrecord, hpolled, (liftM_eq_ok hasserted).2, (get_eq_ok hget).2]

/-- **What an observed fault leaves**: the flag, the checks that all held, and the degraded
state; the attributes of the preflight and of the cleanup are as before. -/
theorem injectAndObserve_eq_ok {u : Unit} (h : (injectAndObserve env).run s = .ok u s') :
    ∃ t observed reading, s'.scenario =
        { s.scenario with
          monitorStarted := true
          injected := true
          injectedAt := some t
          failure := some { failureRecord env t with convergenceMs := observed }
          degraded := some reading } ∧
      observed.Complete ∧ reading.Degraded := by
  obtain ⟨u₁, s₁, hstart, h⟩ := bind_eq_ok.1 h
  obtain ⟨u₂, s₂, hinject, h⟩ := bind_eq_ok.1 h
  obtain ⟨t, hinjected⟩ := inject_eq_ok hinject
  obtain ⟨observed, reading, hdegraded, hcomplete, hlab⟩ := observeDegraded_eq_ok h
  refine ⟨t, observed, reading, ?_, hcomplete, hlab⟩
  unfold startMonitor at hstart
  cases hraises : env.startRaises with
  | some repr =>
      rw [hraises] at hstart
      exact absurd hstart throw_ne_ok
  | none =>
      rw [hraises] at hstart
      rw [hdegraded, hinjected, update_eq_ok hstart]
      rfl

/-- A command that returned was answered. -/
theorem issue_eq_ok {argv : Argv} {result : CommandResult}
    (h : (issue env argv).run s = .ok result s') :
    ∃ before, s'.issued = before ++ [argv] ∧ env.reply (before ++ [argv]) = .result result := by
  have hissued : s'.issued = issuedWith env s argv := by
    rw [← final_of_ok h, final_issue]
  refine ⟨_, hissued, ?_⟩
  cases hreply : env.reply (issuedWith env s argv) with
  | result answer =>
      rw [issue_of_result hreply] at h
      cases h
      exact hreply
  | raised error =>
      rw [issue_of_raised hreply] at h
      cases h
  | interrupted =>
      rw [issue_of_interrupted hreply] at h
      cases h

/-- A cleanup without an error has restored the link. -/
theorem restore_eq_ok {u : Unit} (h : (restore env).run s = .ok u s')
    (herror : s'.scenario.restoreError = none) :
    (∃ t, s'.scenario = { s.scenario with restoredAt := some t, restoreOk := true }) ∧
      RestoreSucceeded env s'.issued := by
  obtain ⟨u₁, s₁, hphase, h⟩ := bind_eq_ok.1 h
  obtain ⟨t, s₂, hnow, h⟩ := bind_eq_ok.1 h
  obtain ⟨u₂, s₃, htime, h⟩ := bind_eq_ok.1 h
  obtain ⟨outcome, s₄, hcaught, h⟩ := bind_eq_ok.1 h
  have hs' := update_eq_ok h
  rw [hs'] at herror
  cases outcome with
  | error error => cases herror
  | ok result =>
      have hissue := caught_eq_ok_ok.1 hcaught
      obtain ⟨before, hissued, hreply⟩ := issue_eq_ok hissue
      have hscenario : s₄.scenario = { s.scenario with restoredAt := some t } := by
        rw [issue_scenario hissue, update_eq_ok htime, (asking_now.of_ok hnow).scenario,
          phase_scenario hphase]
      dsimp only [recordRestore] at herror hs'
      split_ifs at herror hs' with hfailed
      rw [hs']
      refine ⟨⟨t, ?_⟩, before, [], result, hissued, hreply, not_not.1 hfailed⟩
      rw [hscenario]

/-- Recovery that was observed: all checks held, and the lab was healthy after them. -/
theorem observeRecovery_eq_ok {u : Unit} (h : (observeRecovery env).run s = .ok u s') :
    ∃ record, s'.scenario = { s.scenario with recovery := some record } ∧ record.Full := by
  obtain ⟨t, s₀, hget, h⟩ := bind_eq_ok.1 h
  obtain ⟨origin, s₁, hasserted, h⟩ := bind_eq_ok.1 h
  obtain ⟨observed, s₂, hpoll, h⟩ := bind_eq_ok.1 h
  obtain ⟨reading, s₃, hreading, h⟩ := bind_eq_ok.1 h
  obtain ⟨u₁, s₄, hrecord, h⟩ := bind_eq_ok.1 h
  obtain ⟨u₂, s₅, hraise, h⟩ := bind_eq_ok.1 h
  obtain ⟨hproblems, hs₅⟩ := liftM_eq_ok hraise
  obtain ⟨hall, hlab⟩ := recoveryProblems_eq_nil (readLab_keys hreading)
    (raiseProblems_eq_ok.1 hproblems)
  have hpolled := ((asking_poll asking_recoveryChecks _ _).of_ok hpoll).scenario
  refine ⟨⟨origin, observedOf observed, reading⟩, ?_,
    observedOf_complete (poll_keys hpoll) hall, hlab⟩
  rw [phase_scenario h, hs₅, update_eq_ok hrecord, (asking_readLab.of_ok hreading).scenario, hpolled,
    (liftM_eq_ok hasserted).2, (get_eq_ok hget).2]

/-- The monitor's last pings change no attribute. -/
theorem stopMonitor_eq_ok {samples : List ProbeSample}
    (h : (stopMonitor env).run s = .ok samples s') : s'.scenario = s.scenario := by
  change (if s.scenario.monitorStarted = true then _ else _ : LabM _).run s = _ at h
  split_ifs at h
  · cases h
    rfl
  · cases h
    rfl

/-- **What `_finish` returns**: the verdict on the failure, over the attributes as they are. -/
theorem finish_eq_ok {failure : Option ScenarioError} {samples : List ProbeSample}
    {r : ScenarioResult} (h : (finish env failure samples).run s = .ok r s') :
    ∃ after, r = resultOf failure samples after s' ∧ s'.scenario = s.scenario := by
  obtain ⟨t, s₀, hget, h⟩ := bind_eq_ok.1 h
  obtain ⟨after, s₁, hafter, h⟩ := bind_eq_ok.1 h
  obtain ⟨u, s₂, hphase, h⟩ := bind_eq_ok.1 h
  obtain ⟨t', s₃, hget', h⟩ := bind_eq_ok.1 h
  obtain ⟨hr, hs'⟩ := pure_eq_ok.1 h
  obtain ⟨rfl, rfl⟩ := get_eq_ok hget
  obtain ⟨rfl, rfl⟩ := get_eq_ok hget'
  subst hs'
  have hread : s₁.scenario = s₀.scenario := by
    unfold runtimeAfter at hafter
    split_ifs at hafter
    · exact (asking_runtimeSnapshot.of_ok hafter).scenario
    · rw [(pure_eq_ok.1 hafter).2]
  have hkept : s₃.scenario = s₁.scenario := by
    unfold phaseOf at hphase
    split_ifs at hphase
    · exact phase_scenario hphase
    · rw [(pure_eq_ok.1 hphase).2]
  exact ⟨after, hr.symm, hkept.trans hread⟩

/-! ### The driver -/

/-- A `ScenarioError` that a handler handles is the scenario's own. -/
theorem caught_scenario (hrunner : env.RaisesNoScenarioError) {codes : ExitCode → Prop}
    {x : LabM Unit} (htelling : Telling env codes x) {error : ScenarioError}
    (h : (caught handled x).run s = .ok (.error (.scenario error)) s') : codes error.exitCode := by
  obtain ⟨e, hraised, hhandled⟩ := caught_eq_ok_error.1 h
  cases e with
  | exception thrown =>
      cases hhandled
      rcases (htelling.2 s _ s' hraised).code error rfl with hcode | ⟨issued, hreply⟩
      · exact hcode
      · exact absurd hreply (hrunner issued error)
  | interrupt => cases hhandled
  | roundsExhausted => cases hhandled

/-- What the handlers make of what was raised has its code, or that of an internal error. -/
theorem failureOf_code (hrunner : env.RaisesNoScenarioError) {codes : ExitCode → Prop}
    {x : LabM Unit} (htelling : Telling env codes x) {message : String}
    {outcome : Except PyException Unit} (h : (caught handled x).run s = .ok outcome s') :
    ∀ error ∈ failureOf message outcome,
      codes error.exitCode ∨ error.exitCode = .internalError := by
  intro error herror
  cases outcome with
  | ok u => cases herror
  | error raised =>
      cases raised with
      | other other =>
          cases herror
          exact Or.inr rfl
      | scenario own =>
          cases herror
          exact Or.inl (caught_scenario hrunner htelling h)

theorem failureOf_eq_none {message : String} {outcome : Except PyException Unit}
    (h : failureOf message outcome = none) : outcome = .ok () := by
  cases outcome with
  | ok u => rfl
  | error raised => cases raised <;> cases h

/-- **A fault without a failure and without an error of the cleanup** was observed and taken
back. -/
theorem faultAndRestore_eq_none (hrestoreOk : s.scenario.restoreOk = false)
    (h : (faultAndRestore env).run s = .ok none s') (herror : s'.scenario.restoreError = none) :
    ∃ t t' observed reading, s'.scenario =
        { s.scenario with
          monitorStarted := true
          injected := true
          injectedAt := some t
          failure := some { failureRecord env t with convergenceMs := observed }
          degraded := some reading
          restoredAt := some t'
          restoreOk := true } ∧
      observed.Complete ∧ reading.Degraded ∧ RestoreSucceeded env s'.issued := by
  obtain ⟨outcome, s₁, hfinally, h⟩ := bind_eq_ok.1 h
  obtain ⟨hnone, hs⟩ := pure_eq_ok.1 h
  subst hs
  obtain ⟨s₂, u, hcaught, hcleanup⟩ := tryFinally_eq_ok.1 hfinally
  rw [failureOf_eq_none hnone] at hcaught
  obtain ⟨t, observed, reading, hscenario, hcomplete, hlab⟩ :=
    injectAndObserve_eq_ok (caught_eq_ok_ok.1 hcaught)
  have hrestore : (restore env).run s₂ = .ok u s₁ := by
    change (if s₂.scenario.injected ∧ s₂.scenario.restoreOk = false then restore env
      else pure () : LabM Unit).run s₂ = _ at hcleanup
    rwa [if_pos] at hcleanup
    rw [hscenario]
    exact ⟨rfl, hrestoreOk⟩
  obtain ⟨⟨t', hrestored⟩, hsucceeded⟩ := restore_eq_ok hrestore herror
  exact ⟨t, t', observed, reading, by rw [hrestored, hscenario], hcomplete, hlab, hsucceeded⟩

/-- The failures of the part under the `try` fail the scenario, or are internal errors. -/
theorem faultAndRestore_code (hrunner : env.RaisesNoScenarioError)
    {failure : Option ScenarioError} (h : (faultAndRestore env).run s = .ok failure s') :
    ∀ error ∈ failure, error.exitCode ≠ .passed := by
  intro error herror
  obtain ⟨outcome, s₁, hfinally, h⟩ := bind_eq_ok.1 h
  obtain ⟨s₂, u, hcaught, -⟩ := tryFinally_eq_ok.1 hfinally
  rw [← (pure_eq_ok.1 h).1] at herror
  rcases failureOf_code hrunner telling_injectAndObserve hcaught error herror with hcode | hcode
  · simp [hcode]
  · simp [hcode]

/-- A fault without a failure was injected. -/
theorem injected_of_eq_none (h : (faultAndRestore env).run s = .ok none s') :
    s'.scenario.injected = true := by
  obtain ⟨outcome, s₁, hfinally, h⟩ := bind_eq_ok.1 h
  obtain ⟨hnone, hs⟩ := pure_eq_ok.1 h
  subst hs
  obtain ⟨s₂, u, hcaught, hcleanup⟩ := tryFinally_eq_ok.1 hfinally
  rw [failureOf_eq_none hnone] at hcaught
  obtain ⟨t, observed, reading, hscenario, -, -⟩ :=
    injectAndObserve_eq_ok (caught_eq_ok_ok.1 hcaught)
  have hinjected : s₂.scenario.injected = true := by rw [hscenario]
  rw [← final_of_ok hcleanup]
  cases hrestoreOk : s₂.scenario.restoreOk with
  | false =>
      rw [restoreIfInjected_of_injected hinjected hrestoreOk, restore_injected]
      exact hinjected
  | true =>
      have hsame : final (restoreIfInjected env) s₂ = s₂ := by
        refine final_congr (y := (pure () : LabM Unit)) ?_
        change (if s₂.scenario.injected ∧ s₂.scenario.restoreOk = false then restore env
          else pure () : LabM Unit).run s₂ = _
        rw [if_neg]
        rw [hrestoreOk]
        simp
      rw [hsame]
      exact hinjected

/-- What becomes of the failure after a fault. -/
inductive Recovery (before after : ScenarioState) : Option ScenarioError → Option ScenarioError → Prop
  /-- The cleanup failed. -/
  | notRestored (failure : Option ScenarioError) {problem : Problem}
      (h : before.scenario.restoreError = some problem) :
      Recovery before after failure (some ⟨[problem], .recoveryFailed⟩)
  /-- Recovery was fully observed. -/
  | full (failure : Option ScenarioError) {record : RecoveryRecord}
      (hrestored : before.scenario.restoreError = none)
      (hscenario : after.scenario = { before.scenario with recovery := some record })
      (h : record.Full) : Recovery before after failure failure
  /-- It was observed to fail. -/
  | failed (failure : Option ScenarioError) {error : ScenarioError}
      (h : error.exitCode = .recoveryFailed) : Recovery before after failure (some error)
  /-- Its observation was ended by an unexpected exception. -/
  | unexpected (failure : Option ScenarioError) (error : Unexpected) : Recovery before after failure
      (some ⟨[⟨"unexpected error during recovery: %r", [.unexpected error]⟩], .internalError⟩)

theorem recover_eq_ok (hrunner : env.RaisesNoScenarioError) {failure failure' : Option ScenarioError}
    (hinjected : s.scenario.injected = true)
    (h : (recover env failure).run s = .ok failure' s') : Recovery s s' failure failure' := by
  change (if s.scenario.injected = true then _ else _ : LabM _).run s = _ at h
  rw [if_pos hinjected] at h
  cases hrestore : s.scenario.restoreError with
  | some problem =>
      rw [hrestore] at h
      rw [← (pure_eq_ok.1 h).1]
      exact Recovery.notRestored failure hrestore
  | none =>
      rw [hrestore] at h
      obtain ⟨outcome, s₁, hcaught, h⟩ := bind_eq_ok.1 h
      obtain ⟨hfailure, hs⟩ := pure_eq_ok.1 h
      subst hs
      rw [← hfailure]
      cases outcome with
      | ok u =>
          obtain ⟨record, hscenario, hfull⟩ := observeRecovery_eq_ok (caught_eq_ok_ok.1 hcaught)
          exact Recovery.full failure hrestore hscenario hfull
      | error raised =>
          cases raised with
          | other error => exact Recovery.unexpected failure error
          | scenario error =>
              have hcode := caught_scenario hrunner telling_observeRecovery hcaught
              dsimp only [afterRecovery]
              rw [if_pos (Or.inr hcode)]
              exact Recovery.failed failure hcode

/-- A run without a failure was observed to recover, if there was a fault. -/
theorem Recovery.of_none {failure : Option ScenarioError} (h : Recovery s s' failure none) :
    failure = none ∧ s.scenario.restoreError = none ∧
      ∃ record, s'.scenario = { s.scenario with recovery := some record } ∧ record.Full := by
  cases h with
  | full hrestored hscenario hfull => exact ⟨rfl, hrestored, _, hscenario, hfull⟩

/-- The failures of a run that came to its fault do not pass. -/
theorem Recovery.code_ne_passed {failure failure' : Option ScenarioError}
    (h : Recovery s s' failure failure')
    (hfailure : ∀ error ∈ failure, error.exitCode ≠ .passed) :
    ∀ error ∈ failure', error.exitCode ≠ .passed := by
  intro error herror
  cases h with
  | notRestored hrestore =>
      cases herror
      simp
  | full hrestored hscenario hfull => exact hfailure error herror
  | failed hcode =>
      cases herror
      rw [hcode]
      simp
  | unexpected other =>
      cases herror
      simp

theorem RestoreSucceeded.append {trace : List Argv} (h : RestoreSucceeded env trace)
    (later : List Argv) : RestoreSucceeded env (trace ++ later) := by
  obtain ⟨before, after, result, htrace, hreply, hcode⟩ := h
  refine ⟨before, after ++ later, result, ?_, hreply, hcode⟩
  rw [htrace, List.append_assoc, List.cons_append]

/-- The parts of a run that went past its preflight and returned. -/
structure Returned (env : Environment) (s : ScenarioState) (r : ScenarioResult)
    (s' : ScenarioState) : Prop where
  parts : ∃ failure failure' s₁ s₂ after samples, (faultAndRestore env).run s = .ok failure s₁ ∧
    (recover env failure).run s₁ = .ok failure' s₂ ∧ r = resultOf failure' samples after s' ∧
    s'.scenario = s₂.scenario ∧ Asked s₁ s'

theorem runScenario_eq_ok {r : ScenarioResult} (h : (runScenario env).run s = .ok r s') :
    Returned env s r s' := by
  obtain ⟨failure, s₁, hfault, h⟩ := bind_eq_ok.1 h
  obtain ⟨failure', s₂, hrecover, h⟩ := bind_eq_ok.1 h
  obtain ⟨samples, s₃, hstop, h⟩ := bind_eq_ok.1 h
  obtain ⟨after, hr, hscenario⟩ := finish_eq_ok h
  refine ⟨failure, failure', s₁, s₂, after, samples, hfault, hrecover, hr,
    hscenario.trans (stopMonitor_eq_ok hstop), ?_⟩
  exact Asked.trans _ _ _ ((calm_recover failure).of_ok hrecover).asked
    (Asked.trans _ _ _ (calm_stopMonitor.of_ok hstop).asked ((calm_finish _ _).of_ok h).asked)

end Parts

/-! ### The verdict -/

section Verdict

variable {env : Environment} {s s' : ScenarioState} {r : ScenarioResult}

/-- A result that did not pass, of a run that issued only queries, says nothing untrue. -/
theorem truthful_of_queries (hcode : r.exitCode ≠ .passed) {trace : List Argv}
    (h : ∀ argv ∈ trace, IsQuery argv) : Truthful env r trace where
  baseline h' := absurd h' hcode
  degraded h' := absurd h' hcode
  restored h' := absurd h' hcode
  recovered h' := absurd h' hcode
  sameRuntime h' := absurd h' hcode
  notHidden h' := absurd (h _ h') not_isQuery_injectArgv

/-- The exit code of a result is that of a failure, unless there was a restart. -/
theorem passed_of_resultOf {failure : Option ScenarioError} {samples : List ProbeSample}
    {after : Option RuntimeIdentity} (hr : r = resultOf failure samples after s')
    (hcode : ∀ error ∈ failure, error.exitCode ≠ .passed) (h : r.exitCode = .passed) :
    failure = none ∧ runtimeRestarted s'.scenario.runtimeBefore after = false := by
  rw [hr] at h
  exact verdictOf_eq_passed h hcode

/-- A run that stopped at its preflight. -/
theorem finish_truthful {failure : ScenarioError} (hcode : failure.exitCode ≠ .passed)
    (hqueries : ∀ argv ∈ s.issued, IsQuery argv)
    (h : (finish env (some failure) []).run s = .ok r s') : Truthful env r s'.issued := by
  obtain ⟨after, hr, -⟩ := finish_eq_ok h
  obtain ⟨queries, hissued, hall⟩ := ((calm_finish _ _).of_ok h).asked
  refine truthful_of_queries (fun hpassed => ?_) ?_
  · have hnone := (passed_of_resultOf hr (fun error herror => by cases herror; exact hcode) hpassed).1
    cases hnone
  · rw [hissued]
    exact List.forall_mem_append.2 ⟨hqueries, hall⟩

/-- A run that issued no fault command. -/
theorem runScenario_truthful_of_not_injected (hrunner : env.RaisesNoScenarioError)
    (hcalm : Calm initialState s) {failure failure' : Option ScenarioError}
    {s₁ s₂ : ScenarioState} {after : Option RuntimeIdentity} {samples : List ProbeSample}
    (hfault : (faultAndRestore env).run s = .ok failure s₁)
    (hrecover : (recover env failure).run s₁ = .ok failure' s₂)
    (hr : r = resultOf failure' samples after s') (hasked : Asked s₁ s')
    (hinjected : s₁.scenario.injected = false) : Truthful env r s'.issued := by
  have hsame : failure = failure' := by
    change (if s₁.scenario.injected = true then _ else _ : LabM _).run s₁ = _ at hrecover
    rw [if_neg (by rw [hinjected]; simp)] at hrecover
    exact (pure_eq_ok.1 hrecover).1
  subst hsame
  refine truthful_of_queries (fun hpassed => ?_) ?_
  · have hnone := (passed_of_resultOf hr (faultAndRestore_code hrunner hfault) hpassed).1
    rw [hnone] at hfault
    exact absurd (injected_of_eq_none hfault) (by rw [hinjected]; simp)
  · obtain ⟨checking, hchecking, hcheckingAll⟩ := hcalm.asked
    obtain ⟨queries, hissued, hall⟩ := hasked
    rcases @final_faultAndRestore env s hcalm.injected hcalm.restoreOk with hfinal | ⟨hset, -⟩
    · rw [final_of_ok hfault] at hfinal
      rw [hissued, hfinal, hchecking]
      exact List.forall_mem_append.2 ⟨hcheckingAll, hall⟩
    · rw [final_of_ok hfault, hinjected] at hset
      cases hset

/-- What a run that passed leaves behind. -/
structure PassedRun (env : Environment) (s s' : ScenarioState) : Prop where
  baseline : s'.scenario.baseline = s.scenario.baseline
  runtimeBefore : s'.scenario.runtimeBefore = s.scenario.runtimeBefore
  degraded : ∃ failure reading, s'.scenario.failure = some failure ∧
    failure.convergenceMs.Complete ∧ s'.scenario.degraded = some reading ∧ reading.Degraded
  restored : RestoreSucceeded env s'.issued
  recovered : ∃ record, s'.scenario.recovery = some record ∧ record.Full

/-- Without a failure after recovery, everything was observed. -/
theorem passedRun_of_none {failure : Option ScenarioError} {s₁ s₂ : ScenarioState}
    (hrestoreOk : s.scenario.restoreOk = false)
    (hfault : (faultAndRestore env).run s = .ok failure s₁)
    (hrecover : Recovery s₁ s₂ failure none) (hscenario : s'.scenario = s₂.scenario)
    (hasked : Asked s₁ s') : PassedRun env s s' := by
  obtain ⟨hnone, hrestored, record, hrecorded, hfull⟩ := hrecover.of_none
  subst hnone
  obtain ⟨t, t', observed, reading, hobserved, hcomplete, hlab, hsucceeded⟩ :=
    faultAndRestore_eq_none hrestoreOk hfault hrestored
  obtain ⟨queries, hissued, -⟩ := hasked
  refine ⟨?_, ?_, ⟨{ failureRecord env t with convergenceMs := observed }, reading, ?_, hcomplete,
    ?_, hlab⟩, ?_, ⟨record, ?_, hfull⟩⟩
  · rw [hscenario, hrecorded, hobserved]
  · rw [hscenario, hrecorded, hobserved]
  · rw [hscenario, hrecorded, hobserved]
  · rw [hscenario, hrecorded, hobserved]
  · rw [hissued]
    exact hsucceeded.append queries
  · rw [hscenario, hrecorded]

/-- A run that issued the fault command. -/
theorem runScenario_truthful_of_injected (hrunner : env.RaisesNoScenarioError)
    (hcalm : Calm initialState s) (hchecks : ChecksPassed env s)
    {failure failure' : Option ScenarioError}
    {s₁ s₂ : ScenarioState} {after : Option RuntimeIdentity} {samples : List ProbeSample}
    (hfault : (faultAndRestore env).run s = .ok failure s₁)
    (hrecover : Recovery s₁ s₂ failure failure')
    (hr : r = resultOf failure' samples after s') (hscenario : s'.scenario = s₂.scenario)
    (hasked : Asked s₁ s') : Truthful env r s'.issued := by
  have hpassed : r.exitCode = .passed →
      runtimeRestarted s'.scenario.runtimeBefore after = false ∧ PassedRun env s s' := by
    intro h
    obtain ⟨hnone, hrestarted⟩ :=
      passed_of_resultOf hr (hrecover.code_ne_passed (faultAndRestore_code hrunner hfault)) h
    subst hnone
    exact ⟨hrestarted, passedRun_of_none hcalm.restoreOk hfault hrecover hscenario hasked⟩
  refine ⟨fun h => ?_, fun h => ?_, fun h => (hpassed h).2.restored, fun h => ?_, fun h => ?_,
    fun _ hnot => ?_⟩
  · obtain ⟨reading, hbaseline, hhealthy⟩ := hchecks.baseline
    refine ⟨reading, ?_, hhealthy⟩
    rw [hr, ← hbaseline]
    exact (hpassed h).2.baseline
  · obtain ⟨failure, reading, hfailure, hcomplete, hdegraded, hlab⟩ := (hpassed h).2.degraded
    refine ⟨failure, reading, ?_, hcomplete, ?_, hlab⟩
    · rw [hr]
      exact hfailure
    · rw [hr]
      exact hdegraded
  · obtain ⟨record, hrecorded, hfull⟩ := (hpassed h).2.recovered
    refine ⟨record, ?_, hfull⟩
    rw [hr]
    exact hrecorded
  · obtain ⟨identity, hidentity⟩ := Option.isSome_iff_exists.1 hchecks.runtime
    have hbefore := (hpassed h).2.runtimeBefore.trans hidentity
    refine ⟨identity, ?_, ?_⟩
    · rw [hr]
      exact hbefore
    · rw [hr]
      exact runtimeRestarted_eq_false (hpassed h).1 hbefore
  · cases hrecover with
    | notRestored hrestore =>
        refine Or.inl ?_
        rw [hr]
        exact verdictOf_of_failure (by simp) (by simp)
    | full hrestored hrecorded hfull =>
        refine absurd ⟨_, ?_, hfull⟩ hnot
        rw [hr]
        exact congrArg Scenario.recovery (hscenario.trans hrecorded)
    | failed hcode =>
        refine Or.inl ?_
        rw [hr, ← hcode]
        exact verdictOf_of_failure (by simp [hcode]) (by simp [hcode])
    | unexpected other =>
        obtain ⟨rest, hrest⟩ := reasonOf_some
          ⟨[⟨"unexpected error during recovery: %r", [.unexpected other]⟩], .internalError⟩
          (runtimeRestarted s'.scenario.runtimeBefore after)
        refine Or.inr ⟨?_, other, rest, ?_⟩
        · rw [hr]
          exact verdictOf_of_failure (by simp) (by simp)
        · rw [hr]
          exact hrest

/-- **A result tells no untruth.** -/
theorem run_truthful (hrunner : env.RaisesNoScenarioError)
    (h : (run env).run initialState = .ok r s') : Truthful env r s'.issued := by
  obtain ⟨checked, s₁, hcaught, h⟩ := bind_eq_ok.1 h
  cases hfailure : failureOf "unexpected error in preflight: %r" checked with
  | some failure =>
      rw [hfailure] at h
      have hcalm : Calm initialState s₁ := by
        rw [← final_of_ok hcaught, final_caught]
        exact calm_preflight initialState
      obtain ⟨queries, hissued, hall⟩ := hcalm.asked
      refine finish_truthful ?_ (by rw [hissued]; exact hall) h
      rcases failureOf_code hrunner telling_preflight hcaught failure hfailure with
        (hcode | hcode) | hcode
      · simp [hcode]
      · simp [hcode]
      · simp [hcode]
  | none =>
      rw [hfailure] at h
      rw [failureOf_eq_none hfailure] at hcaught
      have hpreflight := caught_eq_ok_ok.1 hcaught
      have hcalm : Calm initialState s₁ := calm_preflight.of_ok hpreflight
      obtain ⟨failure, failure', s₂, s₃, after, samples, hfault, hrecover, hr, hscenario, hasked⟩ :=
        (runScenario_eq_ok h).parts
      cases hinjected : s₂.scenario.injected with
      | false =>
          exact runScenario_truthful_of_not_injected hrunner hcalm hfault hrecover hr hasked hinjected
      | true =>
          exact runScenario_truthful_of_injected hrunner hcalm (preflight_eq_ok hpreflight) hfault
            (recover_eq_ok hrunner hinjected hrecover) hr hscenario hasked

end Verdict

/-- **The verdict is truthful.**  A run returns a result that tells no untruth, unless it is
interrupted or the last reading of the runtime raises. -/
theorem run_verdict (env : Environment) (hrunner : env.RaisesNoScenarioError) :
    (∀ r s, (run env).run initialState = .ok r s → Truthful env r s.issued) ∧
      ∀ e s, (run env).run initialState = .error e s →
        e = .interrupt ∨ ∃ last, (runtimeSnapshot env).run last = .error e s :=
  ⟨fun _ _ h => run_truthful hrunner h, fun _ _ h => run_eq_error h⟩

/-! ### Simulated labs -/

/-- A command that succeeded, with its output. -/
def printed (output : String) : Reply := .result ⟨0, output.toList, []⟩

/-- A summary of two peers as `vtysh` prints it, behind a warning. -/
def summaryText (first state second state' : String) : String :=
  "\x7b\"ipv4Unicast\": \x7b\"peers\": \x7b\"" ++ first ++ "\": \x7b\"state\": \"" ++ state ++
    "\"\x7d, \"" ++ second ++ "\": \x7b\"state\": \"" ++ state' ++ "\"\x7d\x7d\x7d\x7d"

/-- What the summary says. -/
def summaryJson (first state second state' : String) : Json :=
  .obj [("ipv4Unicast", .obj [("peers", .obj [(first, .obj [("state", .str state)]),
    (second, .obj [("state", .str state')])])])]

/-- The summary of a leaf, with the state of its first session. -/
def leafSummary (leaf state : String) : String :=
  if leaf = "leaf-1" then summaryText "10.255.0.0" state "10.255.0.2" "Established"
  else summaryText "10.255.0.4" state "10.255.0.6" "Established"

/-- `json.loads` of the three summaries that a simulated lab prints. -/
def simulatedLoads (text : List Char) : Loaded :=
  if text = (leafSummary "leaf-1" "Established").toList then
    .value (summaryJson "10.255.0.0" "Established" "10.255.0.2" "Established")
  else if text = (leafSummary "leaf-2" "Established").toList then
    .value (summaryJson "10.255.0.4" "Established" "10.255.0.6" "Established")
  else if text = (leafSummary "leaf-1" "Active").toList then
    .value (summaryJson "10.255.0.0" "Active" "10.255.0.2" "Established")
  else .decodeError

/-- The routes of a leaf over some next hops. -/
def routesText (hops : List String) : String := " ".intercalate hops

/-- A lab that answers every command, with the state of the session and the next hops of each
leaf that it is asked for. -/
def simulatedReply (state : String) (hops1 hops2 : List String) (argv : Argv) : Reply :=
  if argv.take 2 = ["docker", "info"] then printed "Ubuntu"
  else if argv.take 2 = ["docker", "ps"] then printed ("\n".intercalate expectedContainers)
  else if argv.take 1 = ["cat"] then printed "boot"
  else if argv.take 1 = ["systemctl"] then printed "NRestarts=0"
  else if argv.contains "vtysh" then
    if argv.contains targetContainer then printed (leafSummary "leaf-1" state)
    else printed (leafSummary "leaf-2" "Established")
  else if argv.contains "route" then
    if argv.contains targetContainer then printed (routesText hops1) else printed (routesText hops2)
  else printed "3 packets transmitted, 3 packets received"

/-- A healthy lab. -/
def healthyReply : Argv → Reply :=
  simulatedReply "Established" ["via 10.255.0.0 dev eth1", "via 10.255.0.2 dev eth2"]
    ["via 10.255.0.4 dev eth1", "via 10.255.0.6 dev eth2"]

/-- A degraded lab. -/
def degradedReply : Argv → Reply :=
  simulatedReply "Active" ["via 10.255.0.2 dev eth2"] ["via 10.255.0.6 dev eth2"]

/-- A clock that goes on by a second with each reading. -/
def secondsClock : Library.Clock where
  reading n := n
  mono := Nat.mono_cast
  reaches t := ⌈t⌉₊
  le_reading_reaches := Nat.le_ceil

/-- A lab that is healthy at first, and answers otherwise from the fault on, and again
otherwise from the restore command on. -/
def simulatedLab (whileDown afterwards : Argv → Reply) : Environment where
  lib := ⟨simulatedLoads, fun _ => "", Char.isAlphanum⟩
  topologyFile := .text "name: meta-rne-bgp".toList
  reply issued :=
    let argv := issued.getLast?.getD []
    if issued.contains restoreArgv then afterwards argv
    else if issued.contains injectArgv then whileDown argv
    else healthyReply argv
  probes _ := 0
  startRaises := none
  samples := []
  clock := secondsClock
  wall := 0

/-- `vtysh` raises, and the rest is healthy. -/
def brokenReply (error : PyException) (argv : Argv) : Reply :=
  if argv.contains "vtysh" then .raised error else healthyReply argv

/-- The identity of the runtime cannot be read, and the rest is healthy. -/
def unreadableReply (argv : Argv) : Reply :=
  if argv.take 1 = ["cat"] then .result ⟨1, [], []⟩ else healthyReply argv

/-- A check of what a run returns, false where it raises. -/
def returns (env : Environment) (check : ScenarioResult → ScenarioState → Bool) : Bool :=
  match (run env).run initialState with
  | .ok r s => check r s
  | .error _ _ => false

theorem exists_of_returns {env : Environment} {check : ScenarioResult → ScenarioState → Bool}
    (h : returns env check = true) :
    ∃ r s, (run env).run initialState = .ok r s ∧ check r s = true := by
  unfold returns at h
  cases hrun : (run env).run initialState with
  | ok r s =>
      rw [hrun] at h
      exact ⟨r, s, rfl, h⟩
  | error e s =>
      rw [hrun] at h
      cases h

/-- A run is interrupted. -/
def isInterrupted (env : Environment) : Bool :=
  match (run env).run initialState with
  | .error .interrupt _ => true
  | _ => false

theorem exists_of_isInterrupted {env : Environment} (h : isInterrupted env = true) :
    ∃ s, (run env).run initialState = .error .interrupt s := by
  unfold isInterrupted at h
  cases hrun : (run env).run initialState with
  | ok r s =>
      rw [hrun] at h
      cases h
  | error e s =>
      rw [hrun] at h
      cases e with
      | interrupt => exact ⟨s, rfl⟩
      | exception error => cases h
      | roundsExhausted => cases h

/-- A lab whose link goes down and comes up again as it should, and whose runtime cannot be
identified at the end. -/
def recoveringLab : Environment := simulatedLab degradedReply unreadableReply

/-- A lab whose `vtysh` raises once the fault is there. -/
def brokenLab (error : PyException) : Environment :=
  simulatedLab (brokenReply error) (brokenReply error)

/-- A lab whose first command is interrupted. -/
def interruptedLab : Environment :=
  { recoveringLab with reply := fun _ => .interrupted }

theorem simulatedReply_ne_raised (state : String) (hops1 hops2 : List String) (argv : Argv)
    (error : PyException) : simulatedReply state hops1 hops2 argv ≠ .raised error := by
  unfold simulatedReply
  split_ifs <;> exact Reply.noConfusion

theorem recoveringLab_raises : recoveringLab.RaisesNoScenarioError := by
  intro issued error
  change (if issued.contains restoreArgv then unreadableReply _
    else if issued.contains injectArgv then degradedReply _ else healthyReply _) ≠ _
  split_ifs
  · unfold unreadableReply
    split_ifs
    · exact Reply.noConfusion
    · exact simulatedReply_ne_raised _ _ _ _ _
  · exact simulatedReply_ne_raised _ _ _ _ _
  · exact simulatedReply_ne_raised _ _ _ _ _

set_option maxRecDepth 20000 in
/-- The script run in the simulated labs: interrupted in the first, ending in a result in the
others. -/
theorem simulatedLabs_run :
    isInterrupted interruptedLab = true ∧
    returns recoveringLab (fun r s => decide (r.exitCode = .passed) &&
      r.runtime.after.isNone && s.issued.contains injectArgv) = true ∧
    returns (brokenLab (.other (.raised "RuntimeError()")))
      (fun r s => decide (r.exitCode = .internalError) && r.recovery.isNone &&
        s.issued.contains injectArgv) = true ∧
    returns (brokenLab (.scenario ⟨[], .passed⟩))
      (fun r s => decide (r.exitCode = .passed) && r.recovery.isNone &&
        s.issued.contains injectArgv) = true := by
  -- the kernel is slow at reading the characters out of a text, so it is given them
  have hsummary {first state second state' : String} {c1 c2 c3 c4 : List Char}
      (h1 : first.toList = c1) (h2 : state.toList = c2) (h3 : second.toList = c3)
      (h4 : state'.toList = c4) : (summaryText first state second state').toList = _ :=
    toList_append_eq (toList_append_eq (toList_append_eq (toList_append_eq (toList_append_eq
      (toList_append_eq (toList_append_eq (toList_append_eq String.toList_ofList h1)
      String.toList_ofList) h2) String.toList_ofList) h3) String.toList_ofList) h4)
      String.toList_ofList
  have hup : (leafSummary "leaf-1" "Established").toList = _ :=
    (congrArg String.toList (if_pos rfl)).trans (hsummary String.toList_ofList
      String.toList_ofList String.toList_ofList String.toList_ofList)
  have hup' : (leafSummary "leaf-2" "Established").toList = _ :=
    (congrArg String.toList (if_neg (by decide))).trans (hsummary String.toList_ofList
      String.toList_ofList String.toList_ofList String.toList_ofList)
  have hdown : (leafSummary "leaf-1" "Active").toList = _ :=
    (congrArg String.toList (if_pos rfl)).trans (hsummary String.toList_ofList
      String.toList_ofList String.toList_ofList String.toList_ofList)
  have hping : "3 packets transmitted, 3 packets received".toList = _ := String.toList_ofList
  have hname : "name: meta-rne-bgp".toList = _ := String.toList_ofList
  have hrestarts : "NRestarts=0".toList = _ := String.toList_ofList
  have hroutes (hops : List String) : (routesText hops).toList = _ := String.toList_intercalate
  have hcontainers : ("\n".intercalate expectedContainers).toList = _ :=
    String.toList_intercalate
  delta recoveringLab brokenLab interruptedLab recoveringLab simulatedLab brokenReply
    unreadableReply degradedReply healthyReply simulatedReply simulatedLoads printed
  simp only [hup, hup', hdown, hping, hname, hrestarts, hroutes, hcontainers]
  decide +kernel

/-- Of a lab that recovers the verdict is as it should be. -/
theorem run_verdict_recoveringLab : ∃ r s, (run recoveringLab).run initialState = .ok r s ∧
    r.exitCode = .passed ∧ injectArgv ∈ s.issued ∧ Truthful recoveringLab r s.issued := by
  obtain ⟨r, s, hrun, hcheck⟩ := exists_of_returns simulatedLabs_run.2.1
  rw [Bool.and_eq_true, Bool.and_eq_true, decide_eq_true_iff] at hcheck
  exact ⟨r, s, hrun, hcheck.1.1, List.contains_iff_mem.1 hcheck.2,
    (run_verdict recoveringLab recoveringLab_raises).1 r s hrun⟩

/-- **Not every run returns, tells a fault without recovery by its code, or passes only with the
runtime that was there before**: an interrupt passes; an unexpected exception during
recovery is an internal error, and a `ScenarioError` of the runner's own passes for the
scenario's; and a run passes whose runtime could not be read at the end. -/
theorem not_verdict_always :
    (∃ s, (run interruptedLab).run initialState = .error .interrupt s) ∧
    (∃ r s, (run (brokenLab (.other (.raised "RuntimeError()")))).run initialState = .ok r s ∧
      r.exitCode = .internalError ∧ r.recovery = none ∧ injectArgv ∈ s.issued) ∧
    (∃ r s, (run (brokenLab (.scenario ⟨[], .passed⟩))).run initialState = .ok r s ∧
      r.exitCode = .passed ∧ r.recovery = none ∧ injectArgv ∈ s.issued) ∧
    ∃ r s, (run recoveringLab).run initialState = .ok r s ∧
      r.exitCode = .passed ∧ r.runtime.after = none := by
  refine ⟨exists_of_isInterrupted simulatedLabs_run.1, ?_, ?_, ?_⟩
  · obtain ⟨r, s, hrun, hcheck⟩ := exists_of_returns simulatedLabs_run.2.2.1
    rw [Bool.and_eq_true, Bool.and_eq_true, decide_eq_true_iff] at hcheck
    exact ⟨r, s, hrun, hcheck.1.1, Option.isNone_iff_eq_none.1 hcheck.1.2,
      List.contains_iff_mem.1 hcheck.2⟩
  · obtain ⟨r, s, hrun, hcheck⟩ := exists_of_returns simulatedLabs_run.2.2.2
    rw [Bool.and_eq_true, Bool.and_eq_true, decide_eq_true_iff] at hcheck
    exact ⟨r, s, hrun, hcheck.1.1, Option.isNone_iff_eq_none.1 hcheck.1.2,
      List.contains_iff_mem.1 hcheck.2⟩
  · obtain ⟨r, s, hrun, hcheck⟩ := exists_of_returns simulatedLabs_run.2.1
    rw [Bool.and_eq_true, Bool.and_eq_true, decide_eq_true_iff] at hcheck
    exact ⟨r, s, hrun, hcheck.1.1, Option.isNone_iff_eq_none.1 hcheck.1.2⟩

end Lab
end MetaRne
