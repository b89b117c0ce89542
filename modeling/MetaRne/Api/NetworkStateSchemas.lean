/-
# The body of `GET /network/state`

`api/schemas.py`: `NetworkStateResponse.from_domain` and the responses it is made
of, as the JSON they are written as.

A facet that is null is unavailable, or does not apply to the role of the node.
-/

import MetaRne.Application.NetworkState
import MetaRne.Detection.OperationalStateDetector
import MetaRne.Python.Isoformat
import MetaRne.Python.Json

namespace MetaRne
namespace Api

open Python

/-- A UTC datetime of a response model, in JSON: with a `Z`. -/
def datetimeJson (t : Timestamp) : Json := .str (jsonText t)

/-- A `list[...]` of a response. -/
def listJson {α : Type} (encode : α → Json) (items : List α) : Json := .arr (items.map encode)

/-- An `int | None` of a response. -/
def countJson : Option ℕ → Json := Json.ofOption fun n => .int n

/-- A `str | None` of a response. -/
def textJson : Option String → Json := Json.ofOption .str

/-- `NetworkInterfaceResponse.from_domain`. -/
def networkInterfaceResponse (interface : InterfaceObservation) : Json :=
  .obj [("name", .str interface.name), ("oper_state", .str interface.operState.value),
    ("addresses", listJson .str interface.addresses)]

/-- `NetworkBgpNeighborResponse.from_domain`. -/
def networkBgpNeighborResponse (neighbor : BgpNeighborObservation) : Json :=
  .obj [("neighbor_ip", .str neighbor.neighborIp), ("remote_as", countJson neighbor.remoteAs),
    ("state", .str neighbor.state.value), ("raw_state", textJson neighbor.rawState),
    ("prefixes_received", countJson neighbor.prefixesReceived),
    ("uptime_ms", countJson neighbor.uptimeMs)]

/-- `BgpObservation.established_count`. -/
def establishedCount (bgp : BgpObservation) : ℕ :=
  bgp.neighbors.countP fun neighbor => neighbor.state == .established

/-- `NetworkBgpResponse.from_domain`. -/
def networkBgpResponse (bgp : BgpObservation) : Json :=
  .obj [("local_as", .int bgp.localAs), ("router_id", .str bgp.routerId),
    ("established_count", .int (establishedCount bgp)),
    ("neighbors", listJson networkBgpNeighborResponse bgp.neighbors)]

/-- `NetworkNextHopResponse.from_domain`. -/
def networkNextHopResponse (nextHop : NextHop) : Json :=
  .obj [("ip", textJson nextHop.ip), ("interface", textJson nextHop.interface)]

/-- `NetworkRouteResponse.from_domain`; `ecmp_path_count` counts the next hops. -/
def networkRouteResponse (route : RouteObservation) : Json :=
  .obj [("prefix", .str route.prefixText), ("protocol", .str route.protocol),
    ("ecmp_path_count", .int route.nextHops.length),
    ("next_hops", listJson networkNextHopResponse route.nextHops)]

/-- `NetworkReachabilityResponse.from_domain`. -/
def networkReachabilityResponse (probe : ReachabilityObservation) : Json :=
  .obj [("from_node", .str probe.fromNode), ("target", .str probe.target),
    ("sent", .int probe.sent), ("received", .int probe.received),
    ("succeeded", .bool probe.succeeded)]

/-- `NetworkUnavailableResponse.from_domain`. -/
def networkUnavailableResponse (item : UnavailableObservation) : Json :=
  .obj [("facet", .str item.facet.value), ("reason", .str item.reason)]

/-- The device of a node: a platform device ID is never invented. -/
def nodeDeviceId (node : NormalizedOperationalState) : Except Error (Option String) :=
  if node.role = .router then
    match lab1DeviceId? node.nodeId with
    | some deviceId => .ok (some deviceId)
    | none => .error (.serialization "router node %r has no registered platform device ID"
        [node.nodeId])
  else .ok none

/-- The data of a facet, none where it has to be null. -/
def facetData {α : Type} (isNull : Bool) (items : List α) : Option (List α) :=
  if isNull then none else some items

/-- The interfaces of a node as they are served. -/
def servedInterfaces (node : NormalizedOperationalState) : Option (List InterfaceObservation) :=
  facetData (node.isUnavailable .interfaces) node.interfaces

/-- The routes, which only a router has. -/
def servedRoutes (node : NormalizedOperationalState) : Option (List RouteObservation) :=
  facetData (node.role != .router || node.isUnavailable .routes) node.routes

/-- The probes, which a router does not have. -/
def servedReachability (node : NormalizedOperationalState) :
    Option (List ReachabilityObservation) :=
  facetData (node.role == .router || node.isUnavailable .reachability) node.reachability

/-- `NetworkNodeResponse.from_domain`. -/
def networkNodeResponse (node : NormalizedOperationalState) : Except Error Json := do
  let deviceId ← nodeDeviceId node
  return .obj [("node_id", .str node.nodeId), ("device_id", textJson deviceId),
    ("role", .str node.role.value),
    ("interfaces", Json.ofOption (listJson networkInterfaceResponse) (servedInterfaces node)),
    ("bgp", Json.ofOption networkBgpResponse node.bgp),
    ("routes", Json.ofOption (listJson networkRouteResponse) (servedRoutes node)),
    ("reachability",
      Json.ofOption (listJson networkReachabilityResponse) (servedReachability node)),
    ("unavailable", listJson networkUnavailableResponse node.unavailable)]

/-- `NetworkStateResponse.from_domain`. -/
def networkStateResponse (result : NetworkStateResult) : Except Error Json := do
  let nodes ← result.fabric.nodes.mapM networkNodeResponse
  return .obj [("collection_id", .str result.fabric.collectionId),
    ("collected_at", datetimeJson result.fabric.collectedAt),
    ("retrieved_at", datetimeJson result.retrievedAt),
    ("source", .obj [("collector", .str result.source.collector),
      ("lab_name", .str result.source.labName)]),
    ("nodes", .arr nodes)]

end Api
end MetaRne
