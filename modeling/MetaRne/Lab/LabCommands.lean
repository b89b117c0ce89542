/-
# The lab's commands

`lab_failure_scenario.py`: `LabCommands`, the only place where commands are built, over a
command runner about which nothing is known.  The runner answers a command as it likes, by
what has been issued so far (`Environment.reply`), and may raise any exception, an
interrupt included.

The reachability monitor runs beside the scenario and shares nothing with it but the
runner: from its start on, any number of its pings come before a command of the scenario
(`Environment.probes`).  The scenario's own commands are queries (`IsQuery`), which change
nothing in the lab, and the two fault commands.
-/

import MetaRne.Lab.CommandOutput
import MetaRne.Lab.TopologyValidation
import MetaRne.Library.Scripts
import MetaRne.Python.Isoformat

namespace MetaRne
namespace Lab

open Library Library.Effect Python

/-! ### Exit codes and errors -/

/-- The exit codes of the script. -/
inductive ExitCode
  | passed
  | scenarioFailed
  | refused
  | baselineUnhealthy
  | runtimeRestarted
  | recoveryFailed
  | internalError
  deriving DecidableEq, Repr

/-- `EXIT_PASSED` to `EXIT_INTERNAL_ERROR`. -/
def ExitCode.code : ExitCode → ℕ
  | passed => 0
  | scenarioFailed => 1
  | refused => 2
  | baselineUnhealthy => 3
  | runtimeRestarted => 4
  | recoveryFailed => 5
  | internalError => 6

/-- The status of a result. -/
def ExitCode.status : ExitCode → String
  | passed => "passed"
  | scenarioFailed => "failed"
  | refused => "refused"
  | baselineUnhealthy => "baseline_unhealthy"
  | runtimeRestarted => "runtime_restarted"
  | recoveryFailed => "recovery_failed"
  | internalError => "internal_error"

/-- A value put into a message. -/
inductive Shown
  | text (text : String)
  | chars (text : List Char)
  | texts (texts : List String)
  | states (states : List (String × String))
  | flags (flags : List (String × Bool))
  | topology (value : TopologyValue)
  | unexpected (error : Unexpected)
  /-- A `ScenarioError`, by the formats and the values of its message. -/
  | scenarioError (problems : List (String × List Shown))

/-- One part of a message: its format and the values put into it. -/
structure Problem where
  message : String
  values : List Shown

/-- `ScenarioError`: its message is the problems, with `; ` between them. -/
structure ScenarioError where
  problems : List Problem
  exitCode : ExitCode

/-- `PreconditionError`. -/
def preconditionError (message : String) (values : List Shown) : ScenarioError :=
  ⟨[⟨message, values⟩], .refused⟩

/-- `BaselineError`. -/
def baselineError (problems : List Problem) : ScenarioError := ⟨problems, .baselineUnhealthy⟩

/-- An `Exception`: a `ScenarioError` or another. -/
inductive PyException
  | scenario (error : ScenarioError)
  | other (error : Unexpected)

/-- `repr(error)`. -/
def PyException.shown : PyException → Shown
  | scenario error => .scenarioError (error.problems.map fun p => (p.message, p.values))
  | other error => .unexpected error

/-- What a part of the scenario raises.  An interrupt (`KeyboardInterrupt`, `SystemExit`) is
no `Exception`.  `roundsExhausted` is not the source's: it would be a loop cut short. -/
inductive Raised
  | exception (error : PyException)
  | interrupt
  | roundsExhausted

/-! ### The fixed lab -/

/-- The words of a command. -/
abbrev Argv := List String

/-- `NODE_PREFIX`, before a node. -/
def containerOf (node : String) : String := "clab-" ++ labName ++ "-" ++ node

/-- `EXPECTED_CONTAINERS`. -/
def expectedContainers : List String := frozenset ((labRouters ++ labHosts).map containerOf)

/-- `TARGET_CONTAINER`. -/
def targetContainer : String := containerOf "leaf-1"

/-- `TARGET_INTERFACE`. -/
def targetInterface : String := "eth1"

/-- `INJECT_ARGV`, the fault command. -/
def injectArgv : Argv :=
  ["docker", "exec", targetContainer, "ip", "link", "set", targetInterface, "down"]

/-- `RESTORE_ARGV`. -/
def restoreArgv : Argv :=
  ["docker", "exec", targetContainer, "ip", "link", "set", targetInterface, "up"]

/-- A BGP session, seen from its leaf: the entries of `SESSIONS`. -/
structure Session where
  name : String
  leaf : String
  neighborIp : String

/-- `SESSIONS`. -/
def sessions : List Session :=
  [⟨"leaf-1/spine-1", "leaf-1", "10.255.0.0"⟩, ⟨"leaf-1/spine-2", "leaf-1", "10.255.0.2"⟩,
    ⟨"leaf-2/spine-1", "leaf-2", "10.255.0.4"⟩, ⟨"leaf-2/spine-2", "leaf-2", "10.255.0.6"⟩]

/-- `FAILED_SESSION`. -/
def failedSession : String := "leaf-1/spine-1"

/-- The next hops that a leaf must have to the host behind the other one: the entries of
`ROUTE_CHECKS`. -/
structure RouteCheck where
  leaf : String
  subnet : String
  healthy : List String
  degraded : List String

def leaf1Check : RouteCheck :=
  ⟨"leaf-1", "10.1.2.0/24", ["10.255.0.0 via eth1", "10.255.0.2 via eth2"],
    ["10.255.0.2 via eth2"]⟩

def leaf2Check : RouteCheck :=
  ⟨"leaf-2", "10.1.1.0/24", ["10.255.0.4 via eth1", "10.255.0.6 via eth2"],
    ["10.255.0.6 via eth2"]⟩

/-- `ROUTE_CHECKS`. -/
def routeChecks : List RouteCheck := [leaf1Check, leaf2Check]

/-- `HOST_PINGS`: a host, and the address of the other. -/
def hostPings : List (String × String) := [("host-1", "10.1.2.10"), ("host-2", "10.1.1.10")]

/-! ### Commands -/

/-- `docker exec` of a ping of so many packets. -/
def pingArgv (host target : String) (count waitS : ℕ) : Argv :=
  ["docker", "exec", containerOf host, "ping", "-c", toString count, "-W", toString waitS, target]

/-- A probe of the monitor. -/
def probeArgv : Argv := pingArgv "host-1" "10.1.2.10" 1 1

/-- The commands that only ask: they change nothing in the lab. -/
inductive IsQuery : Argv → Prop
  | operatingSystem :
    IsQuery ["docker", "info", "--format", "\x7b\x7b.OperatingSystem\x7d\x7d"]
  | containers : IsQuery ["docker", "ps", "--format", "\x7b\x7b.Names\x7d\x7d"]
  | bootId : IsQuery ["cat", "/proc/sys/kernel/random/boot_id"]
  | dockerService :
    IsQuery ["systemctl", "show", "docker", "-p", "NRestarts", "-p", "ActiveEnterTimestamp"]
  | bgpSummary (container : String) :
    IsQuery ["docker", "exec", container, "vtysh", "-c", "show bgp summary json"]
  | routes (container subnet : String) :
    IsQuery ["docker", "exec", container, "ip", "route", "show", subnet]
  | ping (host target : String) (count waitS : ℕ) : IsQuery (pingArgv host target count waitS)

theorem not_isQuery_injectArgv : ¬ IsQuery injectArgv := by
  generalize hargv : injectArgv = argv
  intro h
  cases h <;> simp [injectArgv, pingArgv] at hargv

theorem not_isQuery_restoreArgv : ¬ IsQuery restoreArgv := by
  generalize hargv : restoreArgv = argv
  intro h
  cases h <;> simp [restoreArgv, pingArgv] at hargv

theorem injectArgv_ne_restoreArgv : injectArgv ≠ restoreArgv := by
  simp [injectArgv, restoreArgv]

/-! ### The runner -/

/-- `CommandResult`. -/
structure CommandResult where
  returncode : ℤ
  stdout : List Char
  stderr : List Char

/-- What the command runner does with a command. -/
inductive Reply
  | result (result : CommandResult)
  | raised (error : PyException)
  | interrupted

/-- What reading the topology file does. -/
inductive TopologyFile
  | text (text : List Char)
  | osError (message : String)
  | raised (repr : String)

/-- `ProbeSample`. -/
structure ProbeSample where
  t : ℚ
  ok : Bool

/-- Everything the scenario does not decide. -/
structure Environment where
  lib : StandardLibrary
  topologyFile : TopologyFile
  /-- The answer to the last of the commands issued so far. -/
  reply : List Argv → Reply
  /-- How many pings the monitor, once started, issues before the next command. -/
  probes : List Argv → ℕ
  /-- What starting the monitor raises. -/
  startRaises : Option String
  /-- What the monitor has when it is stopped. -/
  samples : List ProbeSample
  clock : Library.Clock
  /-- The wall clock at the injection. -/
  wall : Timestamp

/-- `runtime_snapshot`: the identity of the runtime. -/
structure RuntimeIdentity where
  bootId : List Char
  dockerNrestarts : List Char
  dockerActiveEnterTimestamp : List Char
  deriving DecidableEq

/-- The state of the lab, as the scenario asks for it. -/
structure LabReading where
  sessions : List (String × String)
  /-- The next hops of each leaf. -/
  routes : List (String × List String)
  reachability : List (String × Bool)

/-- When each of the three polled checks first held, in milliseconds. -/
structure Observed where
  bgp : Option ℚ
  leaf1 : Option ℚ
  leaf2 : Option ℚ

/-- `result["failure"]`. -/
structure FailureRecord where
  target : String
  failedLink : String
  injectedAt : ℚ
  injectedAtUtc : String
  convergenceMs : Observed

/-- `result["recovery"]`. -/
structure RecoveryRecord where
  restoredAt : ℚ
  restoreMs : Observed
  reading : LabReading

/-- `PHASES`. -/
inductive Phase
  | baseline
  | failureInjected
  | degraded
  | restoring
  | recovered
  | failed
  deriving DecidableEq, Repr

/-- The attributes of a `LinkFailureScenario`, the records of its result among them. -/
structure Scenario where
  injected : Bool
  injectedAt : Option ℚ
  restoredAt : Option ℚ
  restoreOk : Bool
  restoreError : Option Problem
  runtimeBefore : Option RuntimeIdentity
  monitorStarted : Bool
  baseline : Option LabReading
  failure : Option FailureRecord
  degraded : Option LabReading
  recovery : Option RecoveryRecord

/-- What a run has done so far: the commands issued, oldest first, how often the clock was
read, and the scenario. -/
structure ScenarioState where
  issued : List Argv
  readings : ℕ
  phases : List (Phase × ℚ)
  scenario : Scenario

/-- A part of the scenario: no exception takes back what was done before it. -/
abbrev LabM : Type → Type := EStateM Raised ScenarioState

/-- The commands issued when the next one of the scenario is, the monitor's before it. -/
def issuedWith (env : Environment) (s : ScenarioState) (argv : Argv) : List Argv :=
  s.issued ++ List.replicate (if s.scenario.monitorStarted then env.probes s.issued else 0) probeArgv
    ++ [argv]

/-- `self._runner(argv)`. -/
def issue (env : Environment) (argv : Argv) : LabM CommandResult := fun s =>
  match env.reply (issuedWith env s argv) with
  | .result result => .ok result { s with issued := issuedWith env s argv }
  | .raised error => .error (.exception error) { s with issued := issuedWith env s argv }
  | .interrupted => .error .interrupt { s with issued := issuedWith env s argv }

/-- What a helper raises is no `ScenarioError`. -/
def helper {α : Type} : Except Unexpected α → Except Raised α
  | .ok a => .ok a
  | .error e => .error (.exception (.other e))

section Commands

variable (env : Environment)

/-- `_docker_exec`. -/
def dockerExec (container : String) (argv : Argv) : LabM CommandResult :=
  if container ∈ expectedContainers then issue env ("docker" :: "exec" :: container :: argv)
  else throw (.exception (.scenario
    (preconditionError "refusing to exec in %r: not a Lab 1 node" [.text container])))

/-- `inject_failure`. -/
def injectFailure : LabM CommandResult := issue env injectArgv

/-- `restore_link`. -/
def restoreLink : LabM CommandResult := issue env restoreArgv

/-- `docker_operating_system`. -/
def dockerOperatingSystem : LabM (Option (List Char)) := do
  let result ← issue env ["docker", "info", "--format", "\x7b\x7b.OperatingSystem\x7d\x7d"]
  return if result.returncode = 0 then some (strip result.stdout) else none

/-- `running_lab_containers`. -/
def runningLabContainers : LabM (Option (List String)) := do
  let result ← issue env ["docker", "ps", "--format", "\x7b\x7b.Names\x7d\x7d"]
  let names := ((splitlines result.stdout).map strip).filter (containerOf "").toList.isPrefixOf
  return if result.returncode = 0 then some (frozenset (names.map String.ofList)) else none

/-- `runtime_snapshot`. -/
def runtimeSnapshot : LabM (Option RuntimeIdentity) := do
  let boot ← issue env ["cat", "/proc/sys/kernel/random/boot_id"]
  let service ← issue env
    ["systemctl", "show", "docker", "-p", "NRestarts", "-p", "ActiveEnterTimestamp"]
  let values := parseKeyValues service.stdout
  return if boot.returncode ≠ 0 ∨ service.returncode ≠ 0 then none
    else some
      { bootId := strip boot.stdout
        dockerNrestarts := (values.get? "NRestarts".toList).getD []
        dockerActiveEnterTimestamp := (values.get? "ActiveEnterTimestamp".toList).getD [] }

/-- The peers of a summary, none where the command failed. -/
def peersOf (result : CommandResult) : Except Unexpected (List (String × String)) :=
  if result.returncode = 0 then parseBgpPeerStates env.lib result.stdout else .ok []

/-- The sessions of a leaf among its peers. -/
def leafSessions (leaf : String) (peers : List (String × String)) : List (String × String) :=
  (sessions.filter fun session => session.leaf = leaf).map fun session =>
    (session.name, (peers.lookup session.neighborIp).getD "Missing")

/-- `leaf_session_states`. -/
def leafSessionStates (leaf : String) : LabM (List (String × String)) := do
  let result ← dockerExec env (containerOf leaf) ["vtysh", "-c", "show bgp summary json"]
  let peers ← helper (peersOf env result)
  return leafSessions leaf peers

/-- `session_states`: the leaves have no session in common. -/
def sessionStates : LabM (List (String × String)) := do
  let leaf1 ← leafSessionStates env "leaf-1"
  let leaf2 ← leafSessionStates env "leaf-2"
  return leaf1 ++ leaf2

/-- `next_hops`. -/
def nextHops (check : RouteCheck) : LabM (List String) := do
  let result ← dockerExec env (containerOf check.leaf) ["ip", "route", "show", check.subnet]
  return if result.returncode = 0 then parseNextHops env.lib result.stdout else []

/-- `ping`. -/
def ping (host target : String) (count waitS : ℕ) : LabM Bool := do
  let result ← dockerExec env (containerOf host)
    ["ping", "-c", toString count, "-W", toString waitS, target]
  let counts ← helper (parsePing result.stdout)
  return decide (counts = some ((count : ℤ), (count : ℤ)))

/-- `bidirectional_reachability`. -/
def bidirectionalReachability : LabM (List (String × Bool)) :=
  hostPings.mapM fun pair => do
    let ok ← ping env pair.1 pair.2 3 2
    return (pair.1 ++ "->" ++ pair.2, ok)

/-- What the scenario asks for before the fault, during it and after it: the sessions, the
next hops of each leaf and the reachability of each host. -/
def readLab : LabM LabReading := do
  let sessions ← sessionStates env
  let routes ← routeChecks.mapM fun check => do
    let hops ← nextHops env check
    return (check.leaf, hops)
  let reachability ← bidirectionalReachability env
  return ⟨sessions, routes, reachability⟩

/-- `self._clock()`. -/
def now : LabM ℚ := modifyGet fun s =>
  (env.clock.reading s.readings, { s with readings := s.readings + 1 })

end Commands

end Lab
end MetaRne
