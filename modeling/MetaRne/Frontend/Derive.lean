/-
# What the dashboard shows of a state

`network/derive.ts`: the state of each link, each adjacency, the paths and the
probes, and the one status of the network.  What is missing, unavailable or unknown
is unknown, and never up, Established or down.

A network is degraded as soon as one failure is explicit, and healthy only if all is
seen to be well.
-/

import MetaRne.Frontend.IncidentTypes
import MetaRne.Frontend.Lab1Topology
import MetaRne.Frontend.NetworkStateTypes

namespace MetaRne
namespace Frontend

def findNode (state : Option NetworkStateResponse) (nodeId : String) : Option NetworkNode :=
  state.bind fun state => state.nodes.find? fun node => node.nodeId == nodeId

/-! ### Physical links -/

/-- `PhysicalLinkState` has the words of an interface's state. -/
abbrev PhysicalLinkState := InterfaceOperState

inductive EndpointInterfaceReason
  | reported
  | nodeMissing
  | facetUnavailable
  | interfaceMissing
  deriving DecidableEq, Repr

structure EndpointInterfaceObservation where
  node : String
  interface : String
  state : PhysicalLinkState
  reason : EndpointInterfaceReason
  deriving DecidableEq

def observeEndpointInterface (state : Option NetworkStateResponse) (endpoint : TopologyEndpoint) :
    EndpointInterfaceObservation :=
  match findNode state endpoint.node with
  | none => ⟨endpoint.node, endpoint.interface, .unknown, .nodeMissing⟩
  | some node =>
    match node.interfaces with
    | none => ⟨endpoint.node, endpoint.interface, .unknown, .facetUnavailable⟩
    | some interfaces =>
      match interfaces.find? fun i => i.name == endpoint.interface with
      | none => ⟨endpoint.node, endpoint.interface, .unknown, .interfaceMissing⟩
      | some observed => ⟨endpoint.node, endpoint.interface, observed.operState, .reported⟩

def combinePhysicalState (a b : PhysicalLinkState) : PhysicalLinkState :=
  if a = .down ∨ b = .down then .down
  else if a = .up ∧ b = .up then .up
  else .unknown

structure PhysicalLinkPresentation where
  link : TopologyLink
  state : PhysicalLinkState
  a : EndpointInterfaceObservation
  b : EndpointInterfaceObservation
  deriving DecidableEq

def derivePhysicalLink (state : Option NetworkStateResponse) (link : TopologyLink) :
    PhysicalLinkPresentation :=
  let a := observeEndpointInterface state link.a
  let b := observeEndpointInterface state link.b
  ⟨link, combinePhysicalState a.state b.state, a, b⟩

def derivePhysicalLinks (state : Option NetworkStateResponse) : List PhysicalLinkPresentation :=
  topologyLinks.map (derivePhysicalLink state)

/-! ### Adjacencies -/

inductive BgpEndpointState
  | observed (state : BgpSessionState) (rawState : Option String)
  | facetUnavailable
  | nodeMissing
  | neighborMissing
  deriving DecidableEq

structure BgpEndpointObservation where
  node : String
  expectedPeerIp : String
  observation : BgpEndpointState
  deriving DecidableEq

def observeBgpEndpoint (state : Option NetworkStateResponse) (endpoint peer : TopologyEndpoint) :
    BgpEndpointObservation :=
  match findNode state endpoint.node with
  | none => ⟨endpoint.node, peer.address, .nodeMissing⟩
  | some node =>
    match node.bgp with
    | none => ⟨endpoint.node, peer.address, .facetUnavailable⟩
    | some bgp =>
      match bgp.neighbors.find? fun n => n.neighborIp == peer.address with
      | none => ⟨endpoint.node, peer.address, .neighborMissing⟩
      | some neighbor =>
        ⟨endpoint.node, peer.address, .observed neighbor.state neighbor.rawState⟩

def isKnownNonEstablished : BgpEndpointState → Bool
  | .observed state _ => state != .established && state != .unknown
  | _ => false

def isEstablished : BgpEndpointState → Bool
  | .observed state _ => state == .established
  | _ => false

inductive BgpAdjacencyState
  | established
  | degraded
  | unknown
  deriving DecidableEq, Repr

def combineBgpEndpoints (a b : BgpEndpointState) : BgpAdjacencyState :=
  if isEstablished a && isEstablished b then .established
  else if isKnownNonEstablished a || isKnownNonEstablished b then .degraded
  else .unknown

structure BgpAdjacencyPresentation where
  link : TopologyLink
  state : BgpAdjacencyState
  a : BgpEndpointObservation
  b : BgpEndpointObservation
  deriving DecidableEq

def deriveBgpAdjacency (state : Option NetworkStateResponse) (link : TopologyLink) :
    BgpAdjacencyPresentation :=
  let a := observeBgpEndpoint state link.a link.b
  let b := observeBgpEndpoint state link.b link.a
  ⟨link, combineBgpEndpoints a.observation b.observation, a, b⟩

def deriveBgpAdjacencies (state : Option NetworkStateResponse) : List BgpAdjacencyPresentation :=
  fabricLinks.map (deriveBgpAdjacency state)

structure BgpAdjacencySummary where
  expected : ℕ
  established : ℕ
  degraded : ℕ
  unknown : ℕ
  deriving DecidableEq

def summarizeBgpAdjacencies (adjacencies : List BgpAdjacencyPresentation) : BgpAdjacencySummary :=
  let count (s : BgpAdjacencyState) := adjacencies.countP fun a => a.state == s
  ⟨adjacencies.length, count .established, count .degraded, count .unknown⟩

/-! ### Paths and probes -/

inductive EcmpStatus
  | intact
  | reduced
  | unknown
  deriving DecidableEq, Repr

structure EcmpPresentation where
  expectation : EcmpExpectation
  pathCount : Option ℕ
  status : EcmpStatus
  deriving DecidableEq

def deriveEcmp (state : Option NetworkStateResponse) : List EcmpPresentation :=
  ecmpExpectations.map fun expectation =>
    let route := ((findNode state expectation.node).bind fun node => node.routes).bind fun routes =>
      routes.find? fun r => r.prefixText == expectation.prefixText && r.protocol == "bgp"
    let pathCount := route.map fun route => route.ecmpPathCount
    ⟨expectation, pathCount, match pathCount with
      | none => .unknown
      | some count => if expectation.expectedPaths ≤ count then .intact else .reduced⟩

structure Probe where
  target : String
  sent : ℕ
  received : ℕ
  deriving DecidableEq

inductive ReachabilityStatus
  | succeeded
  | failed
  | unavailable
  deriving DecidableEq, Repr

structure ReachabilityPresentation where
  host : String
  probe : Option Probe
  status : ReachabilityStatus
  deriving DecidableEq

/-- The first probe of a host. -/
def deriveReachability (state : Option NetworkStateResponse) : List ReachabilityPresentation :=
  (lab1Nodes.filter fun n => n.role == .host).map fun host =>
    match ((findNode state host.id).bind fun node => node.reachability).bind List.head? with
    | none => ⟨host.id, none, .unavailable⟩
    | some probe => ⟨host.id, some ⟨probe.target, probe.sent, probe.received⟩,
        if probe.succeeded then .succeeded else .failed⟩

/-! ### Incidents -/

/-- `LAB1_DEVICE_IDS`. -/
def lab1DeviceIds : List String := lab1Nodes.filterMap fun n => n.deviceId

def isLab1OperationalIncident (incident : IncidentResponse) : Bool :=
  incident.source == "ANOMALY" && lab1DeviceIds.contains incident.deviceId

def openIncidents (incidents : List IncidentResponse) : List IncidentResponse :=
  (incidents.filter isLab1OperationalIncident).filter fun incident => incident.status == "OPEN"

/-! ### The status of the network -/

inductive PresentationStatus
  | healthy
  | degraded
  | unknown
  deriving DecidableEq, Repr

structure NetworkSummary where
  links : List PhysicalLinkPresentation
  adjacencies : List BgpAdjacencyPresentation
  bgp : BgpAdjacencySummary
  ecmp : List EcmpPresentation
  reachability : List ReachabilityPresentation
  openIncidentCount : Option ℕ
  status : PresentationStatus
  deriving DecidableEq

/-- `anyDegraded`: an explicit failure. -/
def anyDegraded (state : Option NetworkStateResponse) : Bool :=
  (derivePhysicalLinks state).any (fun l => l.state == .down) ||
    decide (0 < (summarizeBgpAdjacencies (deriveBgpAdjacencies state)).degraded) ||
    (deriveEcmp state).any (fun e => e.status == .reduced) ||
    (deriveReachability state).any fun r => r.status == .failed

/-- `allHealthy`. -/
def allHealthy (state : Option NetworkStateResponse) : Bool :=
  let bgp := summarizeBgpAdjacencies (deriveBgpAdjacencies state)
  state.isSome && (derivePhysicalLinks state).all (fun l => l.state == .up) &&
    bgp.established == bgp.expected && (deriveEcmp state).all (fun e => e.status == .intact) &&
    (deriveReachability state).all fun r => r.status == .succeeded

def deriveNetworkSummary (state : Option NetworkStateResponse)
    (incidents : Option (List IncidentResponse)) : NetworkSummary where
  links := derivePhysicalLinks state
  adjacencies := deriveBgpAdjacencies state
  bgp := summarizeBgpAdjacencies (deriveBgpAdjacencies state)
  ecmp := deriveEcmp state
  reachability := deriveReachability state
  openIncidentCount := incidents.map fun incidents => (openIncidents incidents).length
  status :=
    if anyDegraded state then .degraded
    else if allHealthy state then .healthy
    else .unknown

/-- A link that is shown down degrades the network. -/
theorem anyDegraded_of_down {state : Option NetworkStateResponse} {link : TopologyLink}
    (hlink : link ∈ topologyLinks) (h : (derivePhysicalLink state link).state = .down) :
    anyDegraded state = true := by
  have hany : (derivePhysicalLinks state).any (fun l => l.state == .down) = true :=
    List.any_eq_true.2 ⟨_, List.mem_map_of_mem hlink, beq_iff_eq.2 h⟩
  rw [anyDegraded, hany]
  rfl

/-- So does an adjacency that is shown degraded. -/
theorem anyDegraded_of_degraded {state : Option NetworkStateResponse} {link : TopologyLink}
    (hlink : link ∈ fabricLinks) (h : (deriveBgpAdjacency state link).state = .degraded) :
    anyDegraded state = true := by
  have hcount : 0 < (summarizeBgpAdjacencies (deriveBgpAdjacencies state)).degraded :=
    List.countP_pos_iff.2 ⟨_, List.mem_map_of_mem hlink, beq_iff_eq.2 h⟩
  rw [anyDegraded, decide_eq_true hcount, Bool.or_true]
  rfl

theorem status_of_anyDegraded {state : Option NetworkStateResponse}
    (h : anyDegraded state = true) (incidents : Option (List IncidentResponse)) :
    (deriveNetworkSummary state incidents).status = .degraded :=
  if_pos h

end Frontend
end MetaRne
