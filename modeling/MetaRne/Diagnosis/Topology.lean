/-
# The declared topology of Lab 1

`lab1_topology.py`: the links of the lab, with the address of each end, and which
paths each leaf is designed to have.  A link's ends are in canonical order, so a
link has one id.

A router link joins two nodes that have registered devices; it is the only kind
that is diagnosed.
-/

import Mathlib.Data.String.Basic
import MetaRne.Detection.OperationalStateDetector

namespace MetaRne

open Python

/-- One end of a link: the node, its interface, and the interface's own address. -/
structure TopologyEndpoint where
  nodeId : String
  interfaceName : String
  address : String
  valid : isBlank nodeId = false ∧ isBlank interfaceName = false ∧ isIpAddress address = true :=
    by decide

/-- A physical link; its ends are on two nodes, in canonical order. -/
structure PhysicalLink where
  endpointA : TopologyEndpoint
  endpointB : TopologyEndpoint
  canonical : endpointA.nodeId < endpointB.nodeId

namespace PhysicalLink

/-- `link_id`. -/
def linkId (link : PhysicalLink) : String :=
  link.endpointA.nodeId ++ ":" ++ link.endpointA.interfaceName ++ "--" ++
    link.endpointB.nodeId ++ ":" ++ link.endpointB.interfaceName

/-- `is_router_link`. -/
def isRouterLink (link : PhysicalLink) : Bool :=
  (lab1DeviceId? link.endpointA.nodeId).isSome && (lab1DeviceId? link.endpointB.nodeId).isSome

end PhysicalLink

/-- `_link`: the two ends in canonical order. -/
def physicalLink (x y : TopologyEndpoint) (h : x.nodeId ≠ y.nodeId := by decide) : PhysicalLink :=
  if hlt : x.nodeId < y.nodeId then ⟨x, y, hlt⟩
  else ⟨y, x, lt_of_le_of_ne (not_lt.1 hlt) h.symm⟩

/-- `LAB1_HOST_NODE_IDS`. -/
def lab1HostNodeIds : List String := ["host-1", "host-2"]

/-- `LAB1_SPINE_NODE_IDS`. -/
def lab1SpineNodeIds : List String := ["spine-1", "spine-2"]

/-- `LAB1_LEAF_NODE_IDS`. -/
def lab1LeafNodeIds : List String := ["leaf-1", "leaf-2"]

/-- `LAB1_LINKS`. -/
def lab1Links : List PhysicalLink :=
  [physicalLink { nodeId := "leaf-1", interfaceName := "eth1", address := "10.255.0.1" }
      { nodeId := "spine-1", interfaceName := "eth1", address := "10.255.0.0" },
    physicalLink { nodeId := "leaf-1", interfaceName := "eth2", address := "10.255.0.3" }
      { nodeId := "spine-2", interfaceName := "eth1", address := "10.255.0.2" },
    physicalLink { nodeId := "leaf-2", interfaceName := "eth1", address := "10.255.0.5" }
      { nodeId := "spine-1", interfaceName := "eth2", address := "10.255.0.4" },
    physicalLink { nodeId := "leaf-2", interfaceName := "eth2", address := "10.255.0.7" }
      { nodeId := "spine-2", interfaceName := "eth2", address := "10.255.0.6" },
    physicalLink { nodeId := "host-1", interfaceName := "eth1", address := "10.1.1.10" }
      { nodeId := "leaf-1", interfaceName := "eth3", address := "10.1.1.1" },
    physicalLink { nodeId := "host-2", interfaceName := "eth1", address := "10.1.2.10" }
      { nodeId := "leaf-2", interfaceName := "eth3", address := "10.1.2.1" }].insertionSort
    fun a b => a.linkId ≤ b.linkId

/-- A link between two routers. -/
abbrev RouterLink := {link : PhysicalLink // link.isRouterLink = true}

/-- The link, if it is one between routers. -/
def routerLink? (link : PhysicalLink) : Option RouterLink :=
  if h : link.isRouterLink = true then some ⟨link, h⟩ else none

/-- `LAB1_ROUTER_LINKS`. -/
def lab1RouterLinks : List RouterLink := lab1Links.filterMap routerLink?

/-- How many active paths a node is designed to have to the network of another. -/
structure EcmpExpectation where
  nodeId : String
  prefixText : String
  originNodeId : String
  expectedPathCount : ℕ
  valid : isBlank nodeId = false ∧ isBlank originNodeId = false ∧ nodeId ≠ originNodeId ∧
    isIpv4Network prefixText = true ∧ 2 ≤ expectedPathCount := by decide

/-- `LAB1_ECMP_EXPECTATIONS`. -/
def lab1EcmpExpectations : List EcmpExpectation :=
  [{ nodeId := "leaf-1", prefixText := "10.1.2.0/24", originNodeId := "leaf-2",
     expectedPathCount := 2 },
    { nodeId := "leaf-2", prefixText := "10.1.1.0/24", originNodeId := "leaf-1",
      expectedPathCount := 2 }]

/-- The address at which a node reaches a spine. -/
def spineAddress? (nodeId spineId : String) : Option String :=
  (lab1RouterLinks.flatMap fun link =>
      [(link.1.endpointA, link.1.endpointB), (link.1.endpointB, link.1.endpointA)]).findSome?
    fun ends => if ends.1.nodeId = nodeId ∧ ends.2.nodeId = spineId then some ends.2.address else none

/-- `ecmp_next_hop_lost_with_link`: the next hop of the one path of an expectation that
goes with a link. -/
def ecmpNextHopLostWithLink (expectation : EcmpExpectation) (link : PhysicalLink) :
    Option String :=
  if link.isRouterLink = false then none
  else
    let ends := [link.endpointA, link.endpointB]
    let spines := ends.filter fun end_ => lab1SpineNodeIds.contains end_.nodeId
    let leaves := ends.filter fun end_ => lab1LeafNodeIds.contains end_.nodeId
    match spines, leaves with
    | [spine], [leaf] =>
      if leaf.nodeId = expectation.nodeId ∨ leaf.nodeId = expectation.originNodeId then
        spineAddress? expectation.nodeId spine.nodeId
      else none
    | _, _ => none

end MetaRne
