/-
# The collector

`adapters/containerlab_frr/collector.py`: `ContainerlabFrrCollector`, which makes one
`FabricOperationalState` of what three read-only commands print in each of the six
containers of Lab 1.  The command runner answers as it likes, by what has been run so far;
every command is checked against the allowlist before it is run.

A command that fails, or whose output does not parse, makes its facet of its node
unavailable; it never becomes a failure that was observed.
-/

import MetaRne.Adapters.ContainerlabFrr.Parsers
import MetaRne.Detection.OperationalStateDetector
import MetaRne.Library.Interviews

namespace MetaRne
namespace ContainerlabFrr

open Library Library.Effect Library.Interview Python

/-! ### Commands -/

/-- `COLLECTOR_NAME`. -/
def collectorName : String := "containerlab-frr"

/-- `CONTAINER_PREFIX`. -/
def containerStart : String := "clab-" ++ lab1LabName ++ "-"

/-- `ROUTER_NODES`. -/
def routerNodes : List String := ["spine-1", "spine-2", "leaf-1", "leaf-2"]

/-- `HOST_NODES`. -/
def hostNodes : List String := ["host-1", "host-2"]

/-- `HOST_PING_TARGETS`. -/
def hostPingTargets : List (String × String) := [("host-1", "10.1.2.10"), ("host-2", "10.1.1.10")]

/-- `HOST_PING_TARGETS[node]`. -/
def pingTarget (node : String) : String := (hostPingTargets.lookup node).getD ""

/-- The words of a command. -/
abbrev Argv := List String

/-- `_ROUTER_INTERFACES`. -/
def routerInterfaces : Argv := ["ip", "-j", "addr"]

/-- `_ROUTER_BGP`. -/
def routerBgp : Argv := ["vtysh", "-c", "show bgp summary json"]

/-- `_ROUTER_ROUTES`. -/
def routerRoutes : Argv := ["vtysh", "-c", "show ip route json"]

/-- `_HOST_LINK`. -/
def hostLink : Argv := ["ip", "-o", "link", "show"]

/-- `_HOST_ADDR`. -/
def hostAddr : Argv := ["ip", "-o", "addr", "show"]

/-- `_ping_command`, with `PING_COUNT` and `PING_WAIT_S`. -/
def pingCommand (node : String) : Argv := ["ping", "-c", "3", "-W", "2", pingTarget node]

/-- A command inside of a container. -/
structure Command where
  container : String
  argv : Argv
  deriving DecidableEq, Repr

/-- `CommandResult`. -/
structure CommandResult where
  returncode : ℤ
  stdout : List Char
  stderr : List Char

/-- `NodeCommandRunner`: it reports a failure by the return code and raises nothing. -/
abbrev NodeCommandRunner := Respondent Command CommandResult

/-- `container_name`. -/
def containerName (node : String) : String := containerStart ++ node

/-- `lab_containers`. -/
def labContainers : List String := (routerNodes ++ hostNodes).map containerName

/-- `allowed_commands`. -/
def allowedCommands (node : String) : Except Raised (List Argv) :=
  if node ∈ routerNodes then .ok [routerInterfaces, routerBgp, routerRoutes]
  else if node ∈ hostNodes then .ok [hostLink, hostAddr, pingCommand node]
  else .error (.commandNotAllowed "not a Lab 1 node: %r" [node])

/-- `container[len(CONTAINER_PREFIX) :]`. -/
def nodeOf (container : String) : String :=
  String.ofList (container.toList.drop containerStart.toList.length)

/-- `assert_command_allowed`. -/
def assertCommandAllowed (command : Command) : Except Raised Unit := do
  let _ ← raiseIf (command.container ∉ labContainers)
    (.commandNotAllowed "container is not a Lab 1 node: %r" [command.container])
  let allowed ← allowedCommands (nodeOf command.container)
  raiseIf (!allowed.contains command.argv)
    (.commandNotAllowed "command is not allowlisted for %s: %r"
      (.str (nodeOf command.container) :: command.argv.map .str))

/-- `_STDERR_REASON_LIMIT`. -/
def stderrReasonLimit : ℕ := 200

/-- `_failure_reason`. -/
def failureReason (argv : Argv) (result : CommandResult) : String :=
  let reason := "'" ++ " ".intercalate argv ++ "' exited " ++ toString result.returncode
  let detail := (strip result.stderr).take stderrReasonLimit
  if detail = [] then reason else reason ++ ": " ++ String.ofList detail

/-! ### One facet

What was read of a facet, or why it is unavailable. -/

variable (lib : Builtins)

/-- The result for a facet that is unavailable. -/
def unavailableFor {α : Type} (facet : ObservationFacet) (reason : String) :
    Except Raised (Option α × Option UnavailableObservation) := do
  let problem ← passOn (UnavailableObservation.new facet reason)
  return (none, some problem)

/-- `try: parse(...) except OutputParseError`. -/
def parsed {α : Type} (facet : ObservationFacet) (output : Except Raised α) :
    Except Raised (Option α × Option UnavailableObservation) :=
  match output with
  | .ok a => .ok (some a, none)
  | .error (.outputParse message values) =>
    unavailableFor facet ("unparseable output: " ++ lib.format message values)
  | .error raised => .error raised

/-- `_observe`, of a command that has been run. -/
def observed {α : Type} (facet : ObservationFacet) (argv : Argv)
    (parse : List Char → Except Raised α) (result : CommandResult) :
    Except Raised (Option α × Option UnavailableObservation) :=
  if result.returncode ≠ 0 then unavailableFor facet (failureReason argv result)
  else parsed lib facet (parse result.stdout)

/-- `_host_interfaces`, of commands that have been run. -/
def observedHostInterfaces (link addr : CommandResult) :
    Except Raised (Option (List InterfaceObservation) × Option UnavailableObservation) :=
  if link.returncode ≠ 0 then unavailableFor .interfaces (failureReason hostLink link)
  else if addr.returncode ≠ 0 then unavailableFor .interfaces (failureReason hostAddr addr)
  else parsed lib .interfaces (parseIpOnelineInterfaces lib link.stdout addr.stdout)

/-- `_host_reachability`, of a `ping` that has been run: without a summary it did not run. -/
def observedReachability (node : String) (ping : CommandResult) :
    Except Raised (Option (List ReachabilityObservation) × Option UnavailableObservation) :=
  match parsePingSummary ping.stdout with
  | .ok (sent, received) => do
    let probe ← passOn (ReachabilityObservation.new node (pingTarget node) sent received)
    return (some [probe], none)
  | .error (.outputParse message values) =>
    unavailableFor .reachability (
      if ping.returncode ≠ 0 then failureReason (pingCommand node) ping
      else "unparseable output: " ++ lib.format message values)
  | .error raised => .error raised

/-! ### A collection -/

/-- A part of a collection: it raises, and it logs the commands that were run. -/
abbrev Collecting := EStateM Raised (List Command)

variable (runner : NodeCommandRunner)

/-- `_run`. -/
def run (node : String) (argv : Argv) : Collecting CommandResult := do
  let _ ← (assertCommandAllowed ⟨containerName node, argv⟩ : Except Raised Unit)
  ask runner ⟨containerName node, argv⟩

/-- `_observe`. -/
def observe {α : Type} (node : String) (facet : ObservationFacet) (argv : Argv)
    (parse : List Char → Except Raised α) :
    Collecting (Option α × Option UnavailableObservation) := do
  let result ← run runner node argv
  observed lib facet argv parse result

/-- The state of a router, of what was read of its facets. -/
def routerState (node : String) (collectedAt : Datetime) (source : CollectionSource)
    (interfaces : Option (List InterfaceObservation) × Option UnavailableObservation)
    (bgp : Option BgpObservation × Option UnavailableObservation)
    (routes : Option (List RouteObservation) × Option UnavailableObservation) :
    Except Raised NormalizedOperationalState :=
  passOn (NormalizedOperationalState.new node .router collectedAt source
    (interfaces.1.getD []) bgp.1 (routes.1.getD []) []
    ([interfaces.2, bgp.2, routes.2].filterMap id))

/-- `_collect_router`. -/
def collectRouter (node : String) (collectedAt : Datetime) (source : CollectionSource) :
    Collecting NormalizedOperationalState := do
  let interfaces ← observe lib runner node .interfaces routerInterfaces (parseIpJsonInterfaces lib)
  let bgp ← observe lib runner node .bgp routerBgp (parseBgpSummary lib)
  let routes ← observe lib runner node .routes routerRoutes (parseFrrRoutes lib)
  routerState node collectedAt source interfaces bgp routes

/-- `_host_interfaces`. -/
def hostInterfaces (node : String) :
    Collecting (Option (List InterfaceObservation) × Option UnavailableObservation) := do
  let link ← run runner node hostLink
  let addr ← run runner node hostAddr
  observedHostInterfaces lib link addr

/-- `_host_reachability`. -/
def hostReachability (node : String) :
    Collecting (Option (List ReachabilityObservation) × Option UnavailableObservation) := do
  let ping ← run runner node (pingCommand node)
  observedReachability lib node ping

/-- The state of a host, of what was read of its facets. -/
def hostState (node : String) (collectedAt : Datetime) (source : CollectionSource)
    (interfaces : Option (List InterfaceObservation) × Option UnavailableObservation)
    (reachability : Option (List ReachabilityObservation) × Option UnavailableObservation) :
    Except Raised NormalizedOperationalState :=
  passOn (NormalizedOperationalState.new node .host collectedAt source
    (interfaces.1.getD []) none [] (reachability.1.getD [])
    ([interfaces.2, reachability.2].filterMap id))

/-- `_collect_host`. -/
def collectHost (node : String) (collectedAt : Datetime) (source : CollectionSource) :
    Collecting NormalizedOperationalState := do
  let interfaces ← hostInterfaces lib runner node
  let reachability ← hostReachability lib runner node
  hostState node collectedAt source interfaces reachability

/-- `_collect_router` for a router, `_collect_host` for a host. -/
def collectNode (collectedAt : Datetime) (source : CollectionSource) (node : String) :
    Collecting NormalizedOperationalState :=
  if node ∈ routerNodes then collectRouter lib runner node collectedAt source
  else collectHost lib runner node collectedAt source

/-- `collect`, at what the clock says and under the identifier that the factory makes. -/
def collect (collectedAt : Datetime) (collectionId : String) :
    Collecting FabricOperationalState := do
  let source ← (passOn (CollectionSource.new collectorName lab1LabName collectionId) :
    Except Raised CollectionSource)
  let nodes ← (routerNodes ++ hostNodes).mapM (collectNode lib runner collectedAt source)
  (passOn (FabricOperationalState.new collectionId collectedAt nodes) :
    Except Raised FabricOperationalState)

/-! ### The commands of a collection -/

/-- The commands that are run for a node, in their order. -/
def nodeCommands (node : String) : List Command :=
  (if node ∈ routerNodes then [routerInterfaces, routerBgp, routerRoutes]
    else [hostLink, hostAddr, pingCommand node]).map fun argv => ⟨containerName node, argv⟩

/-- The commands of a whole collection. -/
def labCommands : List Command := (routerNodes ++ hostNodes).flatMap nodeCommands

end ContainerlabFrr
end MetaRne
