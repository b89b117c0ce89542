/-
# Operational state

`domain/operational_state.py`: what one collection pass observed of a lab.

A fact a device reported is an observation; a fact that could not be collected
is unknown, and is never a down interface, an Idle session or a zero.  A facet
that could not be collected is listed in `unavailable` and carries no data.

Every structure carries what its `__post_init__` checks, so an ill-formed
fabric cannot be built.
-/

import Mathlib.Data.List.Sort
import MetaRne.Domain.Checks
import MetaRne.Python.Ipaddress

namespace MetaRne

open Python

inductive NodeRole
  | router
  | host
  deriving DecidableEq, Repr

def NodeRole.value : NodeRole → String
  | .router => "router"
  | .host => "host"

inductive InterfaceOperState
  | up
  | down
  | unknown
  deriving DecidableEq, Repr

def InterfaceOperState.value : InterfaceOperState → String
  | .up => "up"
  | .down => "down"
  | .unknown => "unknown"

inductive BgpSessionState
  | idle
  | connect
  | active
  | openSent
  | openConfirm
  | established
  | unknown
  deriving DecidableEq, Repr

def BgpSessionState.value : BgpSessionState → String
  | .idle => "Idle"
  | .connect => "Connect"
  | .active => "Active"
  | .openSent => "OpenSent"
  | .openConfirm => "OpenConfirm"
  | .established => "Established"
  | .unknown => "Unknown"

inductive ObservationFacet
  | interfaces
  | bgp
  | routes
  | reachability
  deriving DecidableEq, Repr

def ObservationFacet.value : ObservationFacet → String
  | .interfaces => "interfaces"
  | .bgp => "bgp"
  | .routes => "routes"
  | .reachability => "reachability"

structure CollectionSource where
  collector : String
  labName : String
  collectionId : String
  collector_not_blank : isBlank collector = false
  labName_not_blank : isBlank labName = false
  collectionId_not_blank : isBlank collectionId = false
  deriving DecidableEq

structure InterfaceObservation where
  name : String
  operState : InterfaceOperState
  addresses : List String
  name_not_blank : isBlank name = false
  addresses_valid : ∀ address ∈ addresses, isIpInterface address = true
  addresses_nodup : addresses.Nodup
  deriving DecidableEq

/-- The state is `unknown` when the device reported none that the model knows.
Prefix count and uptime are those of an established session only. -/
structure BgpNeighborObservation where
  neighborIp : String
  remoteAs : Option ℕ
  state : BgpSessionState
  rawState : Option String
  prefixesReceived : Option ℕ
  uptimeMs : Option ℕ
  neighborIp_valid : isIpAddress neighborIp = true
  remoteAs_pos : ∀ n ∈ remoteAs, 0 < n
  counts_established : state ≠ .established → prefixesReceived = none ∧ uptimeMs = none
  deriving DecidableEq

structure BgpObservation where
  localAs : ℕ
  routerId : String
  neighbors : List BgpNeighborObservation
  localAs_pos : 0 < localAs
  routerId_valid : isIpAddress routerId = true
  neighbors_nodup : (neighbors.map (·.neighborIp)).Nodup
  deriving DecidableEq

/-- A gateway address, an interface, or both. -/
structure NextHop where
  ip : Option String
  interface : Option String
  ip_or_interface : ip.isSome ∨ interface.isSome
  ip_valid : ∀ address ∈ ip, isIpAddress address = true
  interface_not_blank : ∀ name ∈ interface, isBlank name = false
  deriving DecidableEq

structure RouteObservation where
  prefixText : String
  protocol : String
  nextHops : List NextHop
  prefix_valid : isIpNetwork prefixText = true
  protocol_not_blank : isBlank protocol = false
  nextHops_ne_nil : nextHops ≠ []
  nextHops_nodup : nextHops.Nodup
  deriving DecidableEq

/-- A completed probe.  Receiving nothing is an observed total loss. -/
structure ReachabilityObservation where
  fromNode : String
  target : String
  sent : ℕ
  received : ℕ
  fromNode_not_blank : isBlank fromNode = false
  target_valid : isIpAddress target = true
  sent_pos : 0 < sent
  received_le : received ≤ sent
  deriving DecidableEq

/-- `ReachabilityObservation.succeeded`. -/
def ReachabilityObservation.succeeded (r : ReachabilityObservation) : Bool := r.received == r.sent

structure UnavailableObservation where
  facet : ObservationFacet
  reason : String
  reason_not_blank : isBlank reason = false
  deriving DecidableEq

/-- Whether a facet is among those that could not be collected. -/
def facetUnavailable (unavailable : List UnavailableObservation) (facet : ObservationFacet) :
    Bool :=
  unavailable.any fun item => item.facet == facet

/-- What was observed of one node. -/
structure NormalizedOperationalState where
  nodeId : String
  role : NodeRole
  collectedAt : Timestamp
  source : CollectionSource
  interfaces : List InterfaceObservation
  bgp : Option BgpObservation
  routes : List RouteObservation
  reachability : List ReachabilityObservation
  unavailable : List UnavailableObservation
  nodeId_not_blank : isBlank nodeId = false
  interfaces_nodup : (interfaces.map (·.name)).Nodup
  routes_nodup : (routes.map fun route => route.prefixText ++ "|" ++ route.protocol).Nodup
  unavailable_nodup : (unavailable.map (·.facet)).Nodup
  interfaces_unavailable : facetUnavailable unavailable .interfaces = true → interfaces = []
  routes_unavailable : facetUnavailable unavailable .routes = true → routes = []
  reachability_unavailable : facetUnavailable unavailable .reachability = true → reachability = []
  host_bgp : role = .host → bgp = none ∧ facetUnavailable unavailable .bgp = false
  router_bgp : role = .router → (bgp = none ↔ facetUnavailable unavailable .bgp = true)
  deriving DecidableEq

namespace NormalizedOperationalState

/-- `is_unavailable`. -/
def isUnavailable (node : NormalizedOperationalState) (facet : ObservationFacet) : Bool :=
  facetUnavailable node.unavailable facet

end NormalizedOperationalState

/-- One collection pass over a lab. -/
structure FabricOperationalState where
  collectionId : String
  collectedAt : Timestamp
  nodes : List NormalizedOperationalState
  collectionId_not_blank : isBlank collectionId = false
  nodes_nodup : (nodes.map (·.nodeId)).Nodup
  nodes_collectedAt : ∀ node ∈ nodes, node.collectedAt = collectedAt
  nodes_collectionId : ∀ node ∈ nodes, node.source.collectionId = collectionId
  deriving DecidableEq

namespace FabricOperationalState

/-- `fabric.node(node_id)`, `none` where it raises `KeyError`. -/
def node? (fabric : FabricOperationalState) (nodeId : String) :
    Option NormalizedOperationalState :=
  fabric.nodes.find? fun node => node.nodeId == nodeId

theorem mem_of_node? {fabric : FabricOperationalState} {nodeId : String}
    {node : NormalizedOperationalState} (h : fabric.node? nodeId = some node) :
    node ∈ fabric.nodes ∧ node.nodeId = nodeId := by
  rw [node?] at h
  have hp := List.find?_some h
  exact ⟨List.mem_of_find?_eq_some h, beq_iff_eq.1 hp⟩

/-- Node ids occur once, so a node is what its id finds. -/
theorem node?_of_mem {fabric : FabricOperationalState} {node : NormalizedOperationalState}
    (h : node ∈ fabric.nodes) : fabric.node? node.nodeId = some node := by
  cases hf : fabric.node? node.nodeId with
  | none =>
      rw [node?, List.find?_eq_none] at hf
      exact absurd (beq_self_eq_true _) (hf node h)
  | some other =>
      obtain ⟨hmem, hid⟩ := mem_of_node? hf
      exact congrArg some (List.inj_on_of_nodup_map fabric.nodes_nodup hmem h hid)

end FabricOperationalState

/-! ### The source of a fabric -/

structure FabricSourceIdentity where
  labName : String
  collector : String
  deriving DecidableEq, Repr

/-- `sorted(set(names))`. -/
def sortedDistinct (names : List String) : List String :=
  names.dedup.insertionSort fun a b => a ≤ b

/-- `derive_fabric_source`: the one lab and the one collector all nodes share. -/
def deriveFabricSource (fabric : FabricOperationalState) : Except Error FabricSourceIdentity :=
  match fabric.nodes with
  | [] => .error (.emptyFabric "a fabric with no nodes names no lab and cannot be persisted")
  | first :: rest =>
    if ∃ node ∈ rest, node.source.labName ≠ first.source.labName then
      .error (.mixedLabName "fabric nodes report different lab names: %r"
        (sortedDistinct (fabric.nodes.map (·.source.labName))))
    else if ∃ node ∈ rest, node.source.collector ≠ first.source.collector then
      .error (.mixedCollector "fabric nodes report different collectors: %r"
        (sortedDistinct (fabric.nodes.map (·.source.collector))))
    else .ok ⟨first.source.labName, first.source.collector⟩

/-- Every node of a fabric with a source names its lab. -/
theorem labName_of_deriveFabricSource {fabric : FabricOperationalState}
    {source : FabricSourceIdentity} (h : deriveFabricSource fabric = .ok source) :
    ∀ node ∈ fabric.nodes, node.source.labName = source.labName := by
  intro node hnode
  unfold deriveFabricSource at h
  split at h
  · cases h
  · next first rest hnodes =>
    split_ifs at h with hlab hcol
    cases h
    rw [hnodes, List.mem_cons] at hnode
    rcases hnode with rfl | hrest
    · rfl
    · by_contra hne
      exact hlab ⟨node, hrest, hne⟩

/-- `OperationalStateSaveOutcome`: how a save that did not raise ended. -/
inductive OperationalStateSaveOutcome
  | created
  | replaced
  | unchanged
  deriving DecidableEq, Repr

end MetaRne
