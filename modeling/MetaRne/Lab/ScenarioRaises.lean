/-
# What a run raises

Each part of a run raises `ScenarioError`s of its own with one exit code or two, and what
the command runner raises (`Telling`): `telling_preflight`, `telling_injectAndObserve`,
`telling_observeRecovery`.

The handlers let interrupts pass and nothing else, so what a run raises is an interrupt, or
it comes from `_finish`, which reads the identity of the runtime outside of all handlers
(`run_eq_error`).  Nothing is raised by a loop cut short (`run_ends`): polling ends because
the clock advances.
-/

import MetaRne.Lab.LabQueries

namespace MetaRne
namespace Lab

open Library Library.Effect Python

/-- No loop was cut short, and a `ScenarioError` has one of these exit codes, unless the
command runner raised it. -/
structure Told (env : Environment) (codes : ExitCode → Prop) (e : Raised) : Prop where
  notExhausted : e ≠ .roundsExhausted
  code : ∀ error, e = .exception (.scenario error) →
    codes error.exitCode ∨ ∃ issued, env.reply issued = .raised (.scenario error)

/-- A part whose own errors have these exit codes. -/
def Telling {α : Type} (env : Environment) (codes : ExitCode → Prop) (x : LabM α) : Prop :=
  Within (fun _ _ => True) (Told env codes) x

section Telling

variable {env : Environment} {codes : ExitCode → Prop} {α β : Type}

theorem told_scenario {error : ScenarioError} (h : codes error.exitCode) :
    Told env codes (.exception (.scenario error)) :=
  ⟨by simp, fun own hown => by cases hown; exact Or.inl h⟩

theorem told_other (error : Unexpected) : Told env codes (.exception (.other error)) :=
  ⟨by simp, by simp⟩

theorem Asking.telling {x : LabM α} (h : Asking env x) : Telling env codes x :=
  ⟨fun _ => trivial, fun s e s' he =>
    ⟨(h.2 s e s' he).notExhausted, fun error herror => Or.inr ((h.2 s e s' he).ofRunner error herror)⟩⟩

theorem telling_bind {x : LabM α} {f : α → LabM β} (hx : Telling env codes x)
    (hf : ∀ a, Telling env codes (f a)) : Telling env codes (x >>= f) :=
  Within.bind (fun _ _ _ _ _ => trivial) hx hf

theorem telling_check {x : Except Raised α} (h : RaisesOnly (Told env codes) x) :
    Telling env codes (liftM x : LabM α) := within_check (fun _ => trivial) h

theorem telling_update (change : Scenario → Scenario) : Telling env codes (update change) :=
  within_of_returns fun _ => ⟨⟨⟩, _, rfl, trivial⟩

theorem telling_get_bind {f : ScenarioState → LabM α} (hf : ∀ s, Telling env codes (f s)) :
    Telling env codes (get >>= f) := ⟨fun _ => trivial, fun s e s' h => (hf s).2 s e s' h⟩

theorem told_raiseProblems {exitCode : ExitCode} (h : codes exitCode) (problems : List Problem) :
    RaisesOnly (Told env codes) (raiseProblems problems exitCode) := by
  unfold raiseProblems
  split_ifs
  · exact raisesOnly_ok _
  · exact raisesOnly_error (told_scenario h)

theorem told_asserted (value : Option α) : RaisesOnly (Told env codes) (asserted value) := by
  cases value with
  | none => exact raisesOnly_error (told_other _)
  | some a => exact raisesOnly_ok _

/-- A command tells what its runner raises. -/
theorem telling_issue (argv : Argv) : Telling env codes (issue env argv) := by
  refine ⟨fun _ => trivial, fun s e s' h => ?_⟩
  cases hreply : env.reply (issuedWith env s argv) with
  | result result =>
      rw [issue_of_result hreply] at h
      cases h
  | interrupted =>
      rw [issue_of_interrupted hreply] at h
      cases h
      exact ⟨by simp, by simp⟩
  | raised error =>
      rw [issue_of_raised hreply] at h
      cases h
      refine ⟨by simp, fun own hown => Or.inr ⟨_, hreply.trans ?_⟩⟩
      rw [Raised.exception.inj hown]

/-! ### The preflight -/

/-- The exit codes of a run that stops before the fault. -/
def BeforeFault (exitCode : ExitCode) : Prop :=
  exitCode = .refused ∨ exitCode = .baselineUnhealthy

theorem told_refuseIf (c : Prop) [Decidable c] (message : String) (values : List Shown) :
    RaisesOnly (Told env BeforeFault) (refuseIf c message values) :=
  raisesOnly_raiseIf (told_scenario (Or.inl rfl))

theorem told_checkTopology : RaisesOnly (Told env BeforeFault) (checkTopology env) := by
  refine RaisesOnly.bind ?_ fun topology => told_refuseIf _ _ _
  unfold readTopology
  split
  · exact raisesOnly_error (told_scenario (Or.inl rfl))
  · exact raisesOnly_error (told_other _)
  · split
    · exact raisesOnly_ok _
    · rename_i e hparse
      obtain ⟨message, values, rfl⟩ := parseTopology_error hparse
      exact raisesOnly_error (told_scenario (Or.inl rfl))

theorem told_checkOperatingSystem (operatingSystem : Option (List Char)) :
    RaisesOnly (Told env BeforeFault) (checkOperatingSystem operatingSystem) := by
  cases operatingSystem with
  | none => exact told_refuseIf _ _ _
  | some name => exact told_refuseIf _ _ _

theorem told_checkContainers (running : Option (List String)) :
    RaisesOnly (Told env BeforeFault) (checkContainers running) := by
  cases running with
  | none => exact told_refuseIf _ _ _
  | some names => exact told_refuseIf _ _ _

theorem telling_checkSafety : Telling env BeforeFault (checkSafety env) :=
  telling_bind (telling_check told_checkTopology) fun _ =>
    telling_bind asking_dockerOperatingSystem.telling fun _ =>
      telling_bind (telling_check (told_checkOperatingSystem _)) fun _ =>
        telling_bind asking_runningLabContainers.telling fun _ =>
          telling_bind (telling_check (told_checkContainers _)) fun _ =>
            telling_bind asking_runtimeSnapshot.telling fun _ =>
              telling_bind (telling_update _) fun _ => telling_check (told_refuseIf _ _ _)

/-- The preflight refuses, or finds the baseline unhealthy. -/
theorem telling_preflight : Telling env BeforeFault (preflight env) :=
  telling_bind telling_checkSafety fun _ => telling_bind (asking_phase _).telling fun _ =>
    telling_bind asking_readLab.telling fun _ => telling_bind (telling_update _) fun _ =>
      telling_check (told_raiseProblems (Or.inr rfl) _)

/-! ### The fault and its effect -/

theorem telling_startMonitor : Telling env codes (startMonitor env) := by
  unfold startMonitor
  split
  · exact within_throw (fun _ => trivial) (told_other _)
  · exact telling_update _

theorem telling_inject : Telling env (· = .scenarioFailed) (inject env) := by
  refine telling_bind ?_ fun _ => telling_bind (asking_phase _).telling fun _ =>
    telling_bind (telling_update _) fun _ => telling_check (told_raiseProblems (by rfl) _)
  exact telling_bind (telling_update _) fun _ => telling_bind asking_now.telling fun _ =>
    telling_bind (telling_update _) fun _ => telling_issue _

theorem telling_observeDegraded : Telling env (· = .scenarioFailed) (observeDegraded env) :=
  telling_get_bind fun _ => telling_bind (telling_check (told_asserted _)) fun _ =>
    telling_bind (asking_poll asking_degradedChecks _ _).telling fun _ =>
      telling_bind (telling_update _) fun _ => telling_bind (asking_phase _).telling fun _ =>
        telling_bind asking_readLab.telling fun _ => telling_bind (telling_update _) fun _ =>
          telling_check (told_raiseProblems (by rfl) _)

/-- What stands under the `try` fails the scenario. -/
theorem telling_injectAndObserve : Telling env (· = .scenarioFailed) (injectAndObserve env) :=
  telling_bind telling_startMonitor fun _ => telling_bind telling_inject fun _ =>
    telling_observeDegraded

/-- The observation of recovery fails recovery. -/
theorem telling_observeRecovery : Telling env (· = .recoveryFailed) (observeRecovery env) :=
  telling_get_bind fun _ => telling_bind (telling_check (told_asserted _)) fun _ =>
    telling_bind (asking_poll asking_recoveryChecks _ _).telling fun _ =>
      telling_bind asking_readLab.telling fun _ => telling_bind (telling_update _) fun _ =>
        telling_bind (telling_check (told_raiseProblems (by rfl) _)) fun _ => (asking_phase _).telling

end Telling

/-! ### What passes the handlers -/

section Passes

variable {env : Environment} {α : Type}

/-- Only interrupts pass the handlers. -/
theorem eq_interrupt_of_caught {codes : ExitCode → Prop} {x : LabM α} (htelling : Telling env codes x)
    {e : Raised} {s s' : ScenarioState} (h : (caught handled x).run s = .error e s') : e = .interrupt := by
  obtain ⟨hx, hpasses⟩ := caught_eq_error.1 h
  cases e with
  | exception error => cases hpasses
  | interrupt => rfl
  | roundsExhausted => exact absurd rfl (htelling.2 s _ s' hx).notExhausted

theorem phase_ne_error {name : Phase} {e : Raised} {s s' : ScenarioState} :
    (phase env name).run s ≠ .error e s' := fun h => by cases h

theorem update_ne_error {change : Scenario → Scenario} {e : Raised} {s s' : ScenarioState} :
    (update change).run s ≠ .error e s' := fun h => by cases h

/-- The cleanup lets only interrupts pass. -/
theorem restoreIfInjected_eq_error {e : Raised} {s s' : ScenarioState}
    (h : (restoreIfInjected env).run s = .error e s') : e = .interrupt := by
  change (if s.scenario.injected ∧ s.scenario.restoreOk = false then restore env
    else pure () : LabM Unit).run s = _ at h
  split_ifs at h
  · rcases bind_eq_error.1 h with h | ⟨u₁, s₁, -, h⟩
    · exact absurd h phase_ne_error
    · rcases bind_eq_error.1 h with h | ⟨t, s₂, -, h⟩
      · cases h
      · rcases bind_eq_error.1 h with h | ⟨u₂, s₃, -, h⟩
        · exact absurd h update_ne_error
        · rcases bind_eq_error.1 h with h | ⟨outcome, s₄, -, h⟩
          · exact eq_interrupt_of_caught (@telling_issue env (fun _ => False) restoreArgv) h
          · exact absurd h update_ne_error
  · exact absurd h pure_ne_error

theorem faultAndRestore_eq_error {e : Raised} {s s' : ScenarioState}
    (h : (faultAndRestore env).run s = .error e s') : e = .interrupt := by
  rcases bind_eq_error.1 h with h | ⟨outcome, s₁, -, h⟩
  · rcases tryFinally_eq_error.1 h with h | ⟨s₁, u, h, -⟩
    · exact restoreIfInjected_eq_error h
    · exact eq_interrupt_of_caught telling_injectAndObserve h
  · exact absurd h pure_ne_error

theorem recover_eq_error {failure : Option ScenarioError} {e : Raised} {s s' : ScenarioState}
    (h : (recover env failure).run s = .error e s') : e = .interrupt := by
  change (if s.scenario.injected = true then _ else _ : LabM _).run s = _ at h
  split_ifs at h
  · cases hrestore : s.scenario.restoreError with
    | some problem =>
        rw [hrestore] at h
        exact absurd h pure_ne_error
    | none =>
        rw [hrestore] at h
        rcases bind_eq_error.1 h with h | ⟨outcome, s₁, -, h⟩
        · exact eq_interrupt_of_caught telling_observeRecovery h
        · exact absurd h pure_ne_error
  · exact absurd h pure_ne_error

theorem stopMonitor_ne_error {e : Raised} {s s' : ScenarioState} :
    (stopMonitor env).run s ≠ .error e s' := by
  intro h
  change (if s.scenario.monitorStarted = true then _ else _ : LabM _).run s = _ at h
  split_ifs at h
  · cases h
  · cases h

/-- `_finish` raises what its reading of the runtime raises. -/
theorem finish_eq_error {failure : Option ScenarioError} {samples : List ProbeSample} {e : Raised}
    {s s' : ScenarioState} (h : (finish env failure samples).run s = .error e s') :
    (runtimeSnapshot env).run s = .error e s' := by
  change (runtimeAfter env s.scenario.runtimeBefore >>= fun after =>
    phaseOf env (verdictOf failure (runtimeRestarted s.scenario.runtimeBefore after)) >>= fun _ =>
      get >>= fun t => pure (resultOf failure samples after t)).run s = _ at h
  rcases bind_eq_error.1 h with h | ⟨after, s₁, -, h⟩
  · unfold runtimeAfter at h
    split_ifs at h
    · exact h
    · exact absurd h pure_ne_error
  · rcases bind_eq_error.1 h with h | ⟨u, s₂, -, h⟩
    · unfold phaseOf at h
      split_ifs at h
      · exact absurd h phase_ne_error
      · exact absurd h pure_ne_error
    · cases h

end Passes

/-- **What a run raises** is an interrupt, or the last reading of the runtime raised it. -/
theorem run_eq_error {env : Environment} {e : Raised} {s s' : ScenarioState}
    (h : (run env).run s = .error e s') :
    e = .interrupt ∨ ∃ last, (runtimeSnapshot env).run last = .error e s' := by
  rcases bind_eq_error.1 h with h | ⟨checked, s₁, -, h⟩
  · exact Or.inl (eq_interrupt_of_caught telling_preflight h)
  · cases hfailure : failureOf "unexpected error in preflight: %r" checked with
    | some failure =>
        rw [hfailure] at h
        exact Or.inr ⟨s₁, finish_eq_error h⟩
    | none =>
        rw [hfailure] at h
        rcases bind_eq_error.1 h with h | ⟨failure, s₂, -, h⟩
        · exact Or.inl (faultAndRestore_eq_error h)
        · rcases bind_eq_error.1 h with h | ⟨failure', s₃, -, h⟩
          · exact Or.inl (recover_eq_error h)
          · rcases bind_eq_error.1 h with h | ⟨samples, s₄, -, h⟩
            · exact absurd h stopMonitor_ne_error
            · exact Or.inr ⟨s₄, finish_eq_error h⟩

/-- **No loop of a run is cut short.** -/
theorem run_ends (env : Environment) (s s' : ScenarioState) :
    (run env).run s ≠ .error .roundsExhausted s' := by
  intro h
  rcases run_eq_error h with h | ⟨last, h⟩
  · cases h
  · exact absurd rfl (asking_runtimeSnapshot.of_error h).2.notExhausted

end Lab
end MetaRne
