/-
# The link-failure scenario

`lab_failure_scenario.py`: `LinkFailureScenario`, from the checks before the fault to the
result.  A fault is injected and its effect observed in a `try` whose `finally` takes it
back; then recovery is observed, and `_finish` makes the verdict.

Times are exact here where the source has floats, so that a rounded measurement is rounded
from the exact value.  Nothing is decided by a measurement, only by whether there is one.
-/

import MetaRne.Lab.LabCommands

namespace MetaRne
namespace Lab

open Library Library.Effect Library.Regex Library.Regex.Matcher Python

/-! ### Bookkeeping -/

/-- The nearest integer, a tie to the even one. -/
def roundHalfEven (q : ℚ) : ℤ :=
  let below := q.floor
  let rest := q - below
  if rest < 1 / 2 ∨ (rest = 1 / 2 ∧ below % 2 = 0) then below else below + 1

/-- `round(q, digits)`. -/
def roundTo (digits : ℕ) (q : ℚ) : ℚ := roundHalfEven (q * 10 ^ digits) / 10 ^ digits

/-- `_ms_since`. -/
def msSince (origin observedAt : ℚ) : ℚ := roundTo 1 ((observedAt - origin) * 1000)

/-- What a handler of `Exception` handles. -/
def handled : Raised → Option PyException
  | .exception error => some error
  | .interrupt => none
  | .roundsExhausted => none

/-- A change of the scenario's attributes. -/
def update (change : Scenario → Scenario) : LabM Unit :=
  modify fun s => { s with scenario := change s.scenario }

/-- Raise the problems of a check, if there are any. -/
def raiseProblems (problems : List Problem) (exitCode : ExitCode) : Except Raised Unit :=
  if problems.isEmpty then .ok () else .error (.exception (.scenario ⟨problems, exitCode⟩))

/-! ### The lab's states -/

/-- `_established`. -/
def established (states : List (String × String)) : ℕ :=
  states.countP fun state => state.2 = "Established"

/-- `set(states)`. -/
def sessionNames (states : List (String × String)) : List String := frozenset (states.map Prod.fst)

/-- `routes[leaf]`. -/
def LabReading.nextHopsOf (reading : LabReading) (check : RouteCheck) : List String :=
  (reading.routes.lookup check.leaf).getD []

/-- The problems of the leaves whose next hops are not the ones expected. -/
def routeProblems (message : String) (names : RouteCheck → List Shown)
    (expected : RouteCheck → List String) (reading : LabReading) : List Problem :=
  (routeChecks.filter fun check => reading.nextHopsOf check ≠ expected check).map fun check =>
    ⟨message, names check ++ [.texts (reading.nextHopsOf check), .texts (expected check)]⟩

/-- The problem of hosts that do not reach each other. -/
def reachabilityProblems (message : String) (reading : LabReading) : List Problem :=
  if reading.reachability.all Prod.snd then [] else [⟨message, [.flags reading.reachability]⟩]

/-- The problems of checks that never held. -/
def observedProblems (message : String) (timeoutS : String)
    (observed : List (String × Option ℚ)) : List Problem :=
  (observed.filter fun entry => entry.2.isNone).map fun entry =>
    ⟨message, [.text entry.1, .text timeoutS]⟩

/-- The problems of `_preflight`. -/
def baselineProblems (reading : LabReading) : List Problem :=
  (if established reading.sessions ≠ sessions.length ∨
      sessionNames reading.sessions ≠ frozenset (sessions.map Session.name) then
    [⟨"BGP sessions not all Established: %s", [.states reading.sessions]⟩] else []) ++
  routeProblems "%s next-hops for %s are %s, expected %s"
    (fun check => [.text check.leaf, .text check.subnet]) RouteCheck.healthy reading ++
  reachabilityProblems "host reachability failed: %s" reading

/-- The problems of `_observe_degraded`. -/
def degradedProblems (observed : List (String × Option ℚ)) (reading : LabReading) :
    List Problem :=
  let others := reading.sessions.filter fun state => state.1 ≠ failedSession
  observedProblems "%s never reached the degraded state within %ss" "30.0" observed ++
  (if reading.sessions.lookup failedSession = some "Established" then
    [⟨"%s is still Established", [.text failedSession]⟩] else []) ++
  (if sessionNames others ≠ frozenset ((sessions.map Session.name).filter (· ≠ failedSession)) ∨
      established others ≠ 3 then
    [⟨"the other 3 sessions must stay Established: %s", [.states others]⟩] else []) ++
  routeProblems "%s degraded next-hops are %s, expected %s" (fun check => [.text check.leaf])
    RouteCheck.degraded reading ++
  reachabilityProblems "host reachability lost while degraded: %s" reading

/-- The problems of `_observe_recovery`. -/
def recoveryProblems (observed : List (String × Option ℚ)) (reading : LabReading) :
    List Problem :=
  observedProblems "%s did not recover within %ss" "60.0" observed ++
  (if established reading.sessions ≠ sessions.length then
    [⟨"not all sessions Established after restore: %s", [.states reading.sessions]⟩] else []) ++
  routeProblems "%s next-hops after restore are %s, expected %s" (fun check => [.text check.leaf])
    RouteCheck.healthy reading ++
  reachabilityProblems "host reachability failed after restore: %s" reading

/-! ### The result -/

/-- `result["reachability_monitor"]`. -/
structure ProbeSummary where
  probes : ℕ
  successful : ℕ
  failed : ℕ
  lossPercent : Option ℚ
  longestFailureStreak : ℕ
  failedProbeOffsetsMs : List ℚ

/-- The loop of `summarize_probes`: the streak so far, and the longest. -/
def failureStreaks (samples : List ProbeSample) : ℕ × ℕ :=
  samples.foldl (fun streaks sample =>
    let current := if sample.ok then 0 else streaks.1 + 1
    (current, max streaks.2 current)) (0, 0)

/-- `summarize_probes`. -/
def summarizeProbes (samples : List ProbeSample) (injectedAt : Option ℚ) : ProbeSummary :=
  let failed := samples.filter fun sample => !sample.ok
  { probes := samples.length
    successful := samples.length - failed.length
    failed := failed.length
    lossPercent := if samples.isEmpty then none
      else some (roundTo 3 (100 * failed.length / samples.length))
    longestFailureStreak := (failureStreaks samples).2
    failedProbeOffsetsMs := failed.map fun sample =>
      match injectedAt with
      | some t => msSince t sample.t
      | none => sample.t }

/-- `result["runtime"]`: the identities, field by field in the source. -/
structure RuntimeRecord where
  before : Option RuntimeIdentity
  after : Option RuntimeIdentity
  restarted : Bool

/-- `self._result`. -/
structure ScenarioResult where
  status : String
  exitCode : ExitCode
  failureReason : Option (List Problem)
  baseline : Option LabReading
  failure : Option FailureRecord
  degraded : Option LabReading
  reachabilityMonitor : Option ProbeSummary
  recovery : Option RecoveryRecord
  runtime : RuntimeRecord
  phases : List (Phase × ℚ)

/-- The runtime has another identity than before, as far as it could be read. -/
def runtimeRestarted (before after : Option RuntimeIdentity) : Bool :=
  before.isSome && after.isSome && decide (after ≠ before)

/-- The exit code of a failure, which a restart replaces only where it hides nothing else. -/
def verdictOf (failure : Option ScenarioError) (restarted : Bool) : ExitCode :=
  let exitCode := (failure.map ScenarioError.exitCode).getD .passed
  if restarted && (exitCode = .passed || exitCode = .scenarioFailed) then .runtimeRestarted
  else exitCode

/-- The reason of a failure, and the restart behind it. -/
def reasonOf (failure : Option ScenarioError) (restarted : Bool) : Option (List Problem) :=
  if restarted then
    some ((failure.map ScenarioError.problems).getD [] ++
      [⟨"Docker/WSL runtime restarted during the scenario", []⟩])
  else failure.map ScenarioError.problems

/-- What a handler of `ScenarioError` and `Exception` makes of what was raised. -/
def failureOf (message : String) : Except PyException Unit → Option ScenarioError
  | .ok () => none
  | .error (.scenario error) => some error
  | .error (.other error) => some ⟨[⟨message, [.unexpected error]⟩], .internalError⟩

/-- What the handlers around `_observe_recovery` make of the failure so far: a recovery
failure outranks an earlier one. -/
def afterRecovery (failure : Option ScenarioError) : Except PyException Unit → Option ScenarioError
  | .ok () => failure
  | .error (.scenario error) =>
    if failure.isNone ∨ error.exitCode = .recoveryFailed then some error else failure
  | .error (.other error) =>
    some ⟨[⟨"unexpected error during recovery: %r", [.unexpected error]⟩], .internalError⟩

section Scenario

variable (env : Environment)

/-- `_phase`. -/
def phase (name : Phase) : LabM Unit := do
  let t ← now env
  modify fun s => { s with phases := s.phases ++ [(name, msSince (env.clock.reading 0) t)] }

/-! ### Polling -/

/-- A check that is polled, and its key. -/
structure Check where
  name : String
  holds : LabM Bool

/-- One check of a cycle, unless it held before. -/
def pollCheck (origin : ℚ) (entry : Check × Option ℚ) : LabM (Check × Option ℚ) :=
  match entry.2 with
  | some _ => pure entry
  | none => do
    let held ← entry.1.holds
    if held then do
      let t ← now env
      return (entry.1, some (msSince origin t))
    else return entry

/-- One cycle of `_poll`: the checks, and whether it was the last one. -/
def pollRound (origin deadline : ℚ) (entries : List (Check × Option ℚ)) :
    LabM (List (Check × Option ℚ) × Bool) := do
  let observed ← entries.mapM (pollCheck env origin)
  if observed.all fun entry => entry.2.isSome then return (observed, true)
  else do
    let t ← now env
    return (observed, decide (deadline ≤ t))

/-- `_poll`.  Every cycle reads the clock, so that there are no more of them than readings
before the deadline. -/
def poll (checks : List Check) (origin timeoutS : ℚ) : LabM (List (String × Option ℚ)) := do
  let t ← now env
  let last ← repeatUntil (pollRound env origin (t + timeoutS))
    (env.clock.reaches (t + timeoutS) + 1) (checks.map fun check => (check, none))
  match last with
  | some entries => return entries.map fun entry => (entry.1.name, entry.2)
  | none => throw .roundsExhausted

/-- `observed[name]` of the three checks. -/
def observedOf (entries : List (String × Option ℚ)) : Observed :=
  ⟨(entries.lookup "bgp").join, (entries.lookup "leaf1").join, (entries.lookup "leaf2").join⟩

/-- The failed session as its leaf has it. -/
def failedSessionHolds (holds : Option String → Bool) : LabM Bool := do
  let states ← leafSessionStates env "leaf-1"
  return holds (states.lookup failedSession)

/-- The next hops of a leaf are the ones expected. -/
def nextHopsAre (check : RouteCheck) (expected : List String) : LabM Bool := do
  let hops ← nextHops env check
  return decide (hops = expected)

/-- The checks of `_observe_degraded`. -/
def degradedChecks : List Check :=
  [⟨"bgp", failedSessionHolds env fun state => state ≠ some "Established"⟩,
    ⟨"leaf1", nextHopsAre env leaf1Check leaf1Check.degraded⟩,
    ⟨"leaf2", nextHopsAre env leaf2Check leaf2Check.degraded⟩]

/-- The checks of `_observe_recovery`. -/
def recoveryChecks : List Check :=
  [⟨"bgp", failedSessionHolds env fun state => state = some "Established"⟩,
    ⟨"leaf1", nextHopsAre env leaf1Check leaf1Check.healthy⟩,
    ⟨"leaf2", nextHopsAre env leaf2Check leaf2Check.healthy⟩]

/-! ### Before the fault -/

/-- What `_preflight` raises for a topology that was not read. -/
def topologyError : ReaderError → Raised
  | .topologyParseError message values => .exception (.scenario (preconditionError
      ("cannot read Lab 1 topology: " ++ message) (values.map .chars)))
  | .indexError => .exception (.other (.raised "IndexError('list index out of range')"))
  | .stepsExhausted => .roundsExhausted

/-- The topology file, read. -/
def readTopology : Except Raised Entries :=
  match env.topologyFile with
  | .osError message => .error (.exception (.scenario
      (preconditionError "cannot read Lab 1 topology: %s" [.text message])))
  | .raised repr => .error (.exception (.other (.raised repr)))
  | .text text =>
    match parseTopology text with
    | .ok entries => .ok entries
    | .error e => .error (topologyError e)

/-- A check that refuses to go on. -/
def refuseIf (c : Prop) [Decidable c] (message : String) (values : List Shown) :
    Except Raised Unit :=
  raiseIf c (.exception (.scenario (preconditionError message values)))

/-- The topology is the lab's. -/
def checkTopology : Except Raised Unit := do
  let topology ← readTopology env
  refuseIf (asText (valueAt topology "name") ≠ some labName) "topology name must be %r, got %r"
    [.text labName, .topology (valueAt topology "name")]

/-- `str.lower` of a character, as far as a text of ASCII letters is looked for: the Kelvin
sign is the only other character with an ASCII letter of that text as its lower case. -/
def lowerLetter (c : Char) : Char := if c = '\u212a' then 'k' else c.toLower

/-- `"docker desktop" in operating_system.lower()`. -/
def isDockerDesktop (operatingSystem : List Char) : Bool :=
  (search (literal "docker desktop") (operatingSystem.map lowerLetter)).isSome

/-- The operating system of the Docker server is one to run on. -/
def checkOperatingSystem (operatingSystem : Option (List Char)) : Except Raised Unit :=
  match operatingSystem with
  | none => refuseIf True "Docker daemon is not reachable" []
  | some name => refuseIf (isDockerDesktop name = true)
      ("Docker server is Docker Desktop (%r); " ++
        "this harness requires the native Ubuntu Docker Engine") [.chars name]

/-- The containers of the lab that run are all of them. -/
def checkContainers (running : Option (List String)) : Except Raised Unit :=
  match running with
  | none => refuseIf True "cannot list containers" []
  | some running => refuseIf (running ≠ expectedContainers)
      "Lab 1 container inventory mismatch (missing=%s, unexpected=%s)"
      [.texts (expectedContainers.filter (· ∉ running)),
        .texts (running.filter (· ∉ expectedContainers))]

/-- The part of `_preflight` that may refuse to go on. -/
def checkSafety : LabM Unit := do
  checkTopology env
  let operatingSystem ← dockerOperatingSystem env
  checkOperatingSystem operatingSystem
  let running ← runningLabContainers env
  checkContainers running
  let before ← runtimeSnapshot env
  update fun scenario => { scenario with runtimeBefore := before }
  refuseIf (before = none) "cannot read the WSL/Docker runtime identity" []

/-- The rest of `_preflight`: the lab is healthy. -/
def checkBaseline : LabM Unit := do
  phase env .baseline
  let reading ← readLab env
  update fun scenario => { scenario with baseline := some reading }
  raiseProblems (baselineProblems reading) .baselineUnhealthy

/-- `_preflight`. -/
def preflight : LabM Unit := do
  checkSafety env
  checkBaseline env

/-! ### The fault -/

/-- `self._monitor.start()`. -/
def startMonitor : LabM Unit :=
  match env.startRaises with
  | some repr => throw (.exception (.other (.raised repr)))
  | none => update fun scenario => { scenario with monitorStarted := true }

/-- `_inject`, up to the command. -/
def issueFault : LabM CommandResult := do
  -- set first, so that the fault is taken back even if the command raises
  update fun scenario => { scenario with injected := true }
  let t ← now env
  update fun scenario => { scenario with injectedAt := some t }
  injectFailure env

/-- `result["failure"]` before anything is observed. -/
def failureRecord (injectedAt : ℚ) : FailureRecord :=
  { target := targetContainer ++ ":" ++ targetInterface
    failedLink := "leaf-1 eth1 <-> spine-1 eth1"
    injectedAt
    injectedAtUtc := isoformat env.wall
    convergenceMs := ⟨none, none, none⟩ }

/-- `_inject`. -/
def inject : LabM Unit := do
  let result ← issueFault env
  phase env .failureInjected
  update fun scenario => { scenario with failure := scenario.injectedAt.map (failureRecord env) }
  raiseProblems (if result.returncode ≠ 0 then
    [⟨"fault injection command failed: %s", [.chars (strip result.stderr)]⟩] else [])
    .scenarioFailed

/-- The value of an attribute that an `assert` says is there. -/
def asserted {α : Type} : Option α → Except Raised α
  | some a => .ok a
  | none => .error (.exception (.other (.raised "AssertionError()")))

/-- `_observe_degraded`. -/
def observeDegraded : LabM Unit := do
  let s ← get
  let origin ← asserted s.scenario.injectedAt
  let observed ← poll env (degradedChecks env) origin 30
  update fun scenario => { scenario with
    failure := scenario.failure.map fun failure =>
      { failure with convergenceMs := observedOf observed } }
  phase env .degraded
  let reading ← readLab env
  update fun scenario => { scenario with degraded := some reading }
  raiseProblems (degradedProblems observed reading) .scenarioFailed

/-! ### Taking it back -/

/-- What `_restore_if_injected` records of the command. -/
def recordRestore (outcome : Except PyException CommandResult) (scenario : Scenario) : Scenario :=
  match outcome with
  | .error error =>
    { scenario with restoreError := some ⟨"restore command raised %r", [error.shown]⟩ }
  | .ok result =>
    if result.returncode ≠ 0 then
      { scenario with
        restoreError := some ⟨"restore command failed: %s", [.chars (strip result.stderr)]⟩ }
    else { scenario with restoreOk := true }

/-- `_restore_if_injected` of a fault that was injected. -/
def restore : LabM Unit := do
  phase env .restoring
  let t ← now env
  update fun scenario => { scenario with restoredAt := some t }
  let outcome ← caught handled (restoreLink env)
  update (recordRestore outcome)

/-- `_restore_if_injected`. -/
def restoreIfInjected : LabM Unit := do
  let s ← get
  if s.scenario.injected ∧ s.scenario.restoreOk = false then restore env else pure ()

/-- `_observe_recovery`. -/
def observeRecovery : LabM Unit := do
  let s ← get
  let origin ← asserted s.scenario.restoredAt
  let observed ← poll env (recoveryChecks env) origin 60
  let reading ← readLab env
  update fun scenario => { scenario with recovery := some ⟨origin, observedOf observed, reading⟩ }
  raiseProblems (recoveryProblems observed reading) .recoveryFailed
  phase env .recovered

/-! ### The driver -/

/-- The identity of the runtime after a run that read the one before. -/
def runtimeAfter (before : Option RuntimeIdentity) : LabM (Option RuntimeIdentity) :=
  if before.isSome then runtimeSnapshot env else pure none

/-- The phase of a result that did not pass. -/
def phaseOf (exitCode : ExitCode) : LabM Unit :=
  if exitCode ≠ .passed then phase env .failed else pure ()

/-- `self._result` at the end. -/
def resultOf (failure : Option ScenarioError) (samples : List ProbeSample)
    (after : Option RuntimeIdentity) (s : ScenarioState) : ScenarioResult :=
  let restarted := runtimeRestarted s.scenario.runtimeBefore after
  { status := (verdictOf failure restarted).status
    exitCode := verdictOf failure restarted
    failureReason := reasonOf failure restarted
    baseline := s.scenario.baseline
    failure := s.scenario.failure
    degraded := s.scenario.degraded
    reachabilityMonitor :=
      if s.scenario.injected then some (summarizeProbes samples s.scenario.injectedAt) else none
    recovery := s.scenario.recovery
    runtime := ⟨s.scenario.runtimeBefore, after, restarted⟩
    phases := s.phases }

/-- `_finish`. -/
def finish (failure : Option ScenarioError) (samples : List ProbeSample) : LabM ScenarioResult := do
  let s ← get
  let after ← runtimeAfter env s.scenario.runtimeBefore
  phaseOf env (verdictOf failure (runtimeRestarted s.scenario.runtimeBefore after))
  let s ← get
  return resultOf failure samples after s

/-- The fault and its effect: what stands under the `try`. -/
def injectAndObserve : LabM Unit := do
  startMonitor env
  inject env
  observeDegraded env

/-- The `try` with its handlers and its `finally`. -/
def faultAndRestore : LabM (Option ScenarioError) := do
  let outcome ← tryFinally (caught handled (injectAndObserve env)) (restoreIfInjected env)
  return failureOf "unexpected error: %r" outcome

/-- Recovery, observed unless the fault was not taken back, and the failure after it. -/
def recover (failure : Option ScenarioError) : LabM (Option ScenarioError) := do
  let s ← get
  if s.scenario.injected then
    match s.scenario.restoreError with
    | some problem => return some ⟨[problem], .recoveryFailed⟩
    | none => do
      let outcome ← caught handled (observeRecovery env)
      return afterRecovery failure outcome
  else return failure

/-- `self._monitor.stop()`, if it was started: its last pings, and what it sampled. -/
def stopMonitor : LabM (List ProbeSample) := do
  let s ← get
  if s.scenario.monitorStarted then do
    set { s with issued := s.issued ++ List.replicate (env.probes s.issued) probeArgv }
    return env.samples
  else return []

/-- `run` after `_preflight`. -/
def runScenario : LabM ScenarioResult := do
  let failure ← faultAndRestore env
  let failure ← recover env failure
  let samples ← stopMonitor env
  finish env failure samples

/-- `run`. -/
def run : LabM ScenarioResult := do
  let checked ← caught handled (preflight env)
  match failureOf "unexpected error in preflight: %r" checked with
  | some failure => finish env (some failure) []
  | none => runScenario env

end Scenario

/-- A scenario before its run; the clock was read once. -/
def initialState : ScenarioState :=
  { issued := []
    readings := 1
    phases := []
    scenario :=
      { injected := false
        injectedAt := none
        restoredAt := none
        restoreOk := false
        restoreError := none
        runtimeBefore := none
        monitorStarted := false
        baseline := none
        failure := none
        degraded := none
        recovery := none } }

end Lab
end MetaRne
