/-
# `GET /network/state` in the client

`api/networkStateTypes.ts`: the response as the client uses it, and the guards that
accept a JSON body as one.  A value that the client does not know is rejected, never
taken for something else.

A facet that is `none` is unavailable or does not apply to the node's role.
-/

import MetaRne.Domain.OperationalState
import MetaRne.Frontend.Guards

namespace MetaRne
namespace Frontend

open Python

/-- `NODE_ROLES`. -/
def nodeRoles : List (String × NodeRole) := [("router", .router), ("host", .host)]

/-- `INTERFACE_OPER_STATES`. -/
def interfaceOperStates : List (String × InterfaceOperState) :=
  [("up", .up), ("down", .down), ("unknown", .unknown)]

/-- `BGP_SESSION_STATES`. -/
def bgpSessionStates : List (String × BgpSessionState) :=
  [("Idle", .idle), ("Connect", .connect), ("Active", .active), ("OpenSent", .openSent),
    ("OpenConfirm", .openConfirm), ("Established", .established), ("Unknown", .unknown)]

/-- `OBSERVATION_FACETS`. -/
def observationFacets : List (String × ObservationFacet) :=
  [("interfaces", .interfaces), ("bgp", .bgp), ("routes", .routes),
    ("reachability", .reachability)]

structure NetworkStateSource where
  collector : String
  labName : String
  deriving DecidableEq

structure NetworkInterface where
  name : String
  operState : InterfaceOperState
  addresses : List String
  deriving DecidableEq

structure NetworkBgpNeighbor where
  neighborIp : String
  remoteAs : Option ℕ
  state : BgpSessionState
  rawState : Option String
  prefixesReceived : Option ℕ
  uptimeMs : Option ℕ
  deriving DecidableEq

structure NetworkBgp where
  localAs : ℕ
  routerId : String
  establishedCount : ℕ
  neighbors : List NetworkBgpNeighbor
  deriving DecidableEq

structure NetworkNextHop where
  ip : Option String
  interface : Option String
  deriving DecidableEq

structure NetworkRoute where
  prefixText : String
  protocol : String
  ecmpPathCount : ℕ
  nextHops : List NetworkNextHop
  deriving DecidableEq

structure NetworkReachability where
  fromNode : String
  target : String
  sent : ℕ
  received : ℕ
  succeeded : Bool
  deriving DecidableEq

structure NetworkUnavailableObservation where
  facet : ObservationFacet
  reason : String
  deriving DecidableEq

structure NetworkNode where
  nodeId : String
  deviceId : Option String
  role : NodeRole
  interfaces : Option (List NetworkInterface)
  bgp : Option NetworkBgp
  routes : Option (List NetworkRoute)
  reachability : Option (List NetworkReachability)
  unavailable : List NetworkUnavailableObservation
  deriving DecidableEq

structure NetworkStateResponse where
  collectionId : String
  collectedAt : ParseableTimestamp
  retrievedAt : ParseableTimestamp
  source : NetworkStateSource
  nodes : List NetworkNode
  deriving DecidableEq

/-! ### Guards -/

def networkStateSource? (value : Json) : Option NetworkStateSource := do
  let collector ← (← field value "collector") |> nonEmptyString?
  let labName ← (← field value "lab_name") |> nonEmptyString?
  return ⟨collector, labName⟩

def networkInterface? (value : Json) : Option NetworkInterface := do
  let name ← (← field value "name") |> nonEmptyString?
  let operState ← (← field value "oper_state") |> oneOf interfaceOperStates
  let addresses ← (← field value "addresses") |> arrayOf nonEmptyString?
  return ⟨name, operState, addresses⟩

def networkBgpNeighbor? (value : Json) : Option NetworkBgpNeighbor := do
  let neighborIp ← (← field value "neighbor_ip") |> nonEmptyString?
  let remoteAs ← (← field value "remote_as") |> nullable nonNegativeInteger?
  let state ← (← field value "state") |> oneOf bgpSessionStates
  let rawState ← (← field value "raw_state") |> nullable string?
  let prefixesReceived ← (← field value "prefixes_received") |> nullable nonNegativeInteger?
  let uptimeMs ← (← field value "uptime_ms") |> nullable nonNegativeInteger?
  return ⟨neighborIp, remoteAs, state, rawState, prefixesReceived, uptimeMs⟩

def networkBgp? (value : Json) : Option NetworkBgp := do
  let localAs ← (← field value "local_as") |> nonNegativeInteger?
  let routerId ← (← field value "router_id") |> nonEmptyString?
  let establishedCount ← (← field value "established_count") |> nonNegativeInteger?
  let neighbors ← (← field value "neighbors") |> arrayOf networkBgpNeighbor?
  return ⟨localAs, routerId, establishedCount, neighbors⟩

def networkNextHop? (value : Json) : Option NetworkNextHop := do
  let ip ← (← field value "ip") |> nullable string?
  let interface ← (← field value "interface") |> nullable string?
  return ⟨ip, interface⟩

def networkRoute? (value : Json) : Option NetworkRoute := do
  let prefixText ← (← field value "prefix") |> nonEmptyString?
  let protocol ← (← field value "protocol") |> nonEmptyString?
  let ecmpPathCount ← (← field value "ecmp_path_count") |> nonNegativeInteger?
  let nextHops ← (← field value "next_hops") |> arrayOf networkNextHop?
  return ⟨prefixText, protocol, ecmpPathCount, nextHops⟩

def networkReachability? (value : Json) : Option NetworkReachability := do
  let fromNode ← (← field value "from_node") |> nonEmptyString?
  let target ← (← field value "target") |> nonEmptyString?
  let sent ← (← field value "sent") |> nonNegativeInteger?
  let received ← (← field value "received") |> nonNegativeInteger?
  let succeeded ← (← field value "succeeded") |> boolean?
  return ⟨fromNode, target, sent, received, succeeded⟩

def networkUnavailableObservation? (value : Json) : Option NetworkUnavailableObservation := do
  let facet ← (← field value "facet") |> oneOf observationFacets
  let reason ← (← field value "reason") |> nonEmptyString?
  return ⟨facet, reason⟩

def networkNode? (value : Json) : Option NetworkNode := do
  let nodeId ← (← field value "node_id") |> nonEmptyString?
  let deviceId ← (← field value "device_id") |> nullable nonEmptyString?
  let role ← (← field value "role") |> oneOf nodeRoles
  let interfaces ← (← field value "interfaces") |> nullable (arrayOf networkInterface?)
  let bgp ← (← field value "bgp") |> nullable networkBgp?
  let routes ← (← field value "routes") |> nullable (arrayOf networkRoute?)
  let reachability ← (← field value "reachability") |> nullable (arrayOf networkReachability?)
  let unavailable ← (← field value "unavailable") |> arrayOf networkUnavailableObservation?
  return ⟨nodeId, deviceId, role, interfaces, bgp, routes, reachability, unavailable⟩

def networkStateResponse? (value : Json) : Option NetworkStateResponse := do
  let collectionId ← (← field value "collection_id") |> nonEmptyString?
  let collectedAt ← (← field value "collected_at") |> parseableTimestamp?
  let retrievedAt ← (← field value "retrieved_at") |> parseableTimestamp?
  let source ← (← field value "source") |> networkStateSource?
  let nodes ← (← field value "nodes") |> arrayOf networkNode?
  return ⟨collectionId, collectedAt, retrievedAt, source, nodes⟩

/-- `isNetworkStateResponse`. -/
def isNetworkStateResponse (value : Json) : Bool := (networkStateResponse? value).isSome

end Frontend
end MetaRne
