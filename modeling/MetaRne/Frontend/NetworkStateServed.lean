/-
# What the client makes of a served state

The backend writes `GET /network/state` from a fabric, and the client's guards read
it.  Two languages, two lists of words and two notions of a legal text meet here:
`networkStateResponse?_served` says that the client accepts the body made of any
fabric whose routers are registered, and which response it has then.
-/

import MetaRne.Api.NetworkStateSchemas
import MetaRne.Frontend.NetworkStateTypes
import MetaRne.Library.Effect

namespace MetaRne
namespace Frontend

open Api Library.Effect Python

/-! ### What the client has -/

namespace Served

def interface (item : InterfaceObservation) : NetworkInterface :=
  ⟨item.name, item.operState, item.addresses⟩

def bgpNeighbor (item : BgpNeighborObservation) : NetworkBgpNeighbor :=
  ⟨item.neighborIp, item.remoteAs, item.state, item.rawState, item.prefixesReceived, item.uptimeMs⟩

def bgp (item : BgpObservation) : NetworkBgp :=
  ⟨item.localAs, item.routerId, establishedCount item, item.neighbors.map bgpNeighbor⟩

def nextHop (item : NextHop) : NetworkNextHop := ⟨item.ip, item.interface⟩

def route (item : RouteObservation) : NetworkRoute :=
  ⟨item.prefixText, item.protocol, item.nextHops.length, item.nextHops.map nextHop⟩

def reachability (item : ReachabilityObservation) : NetworkReachability :=
  ⟨item.fromNode, item.target, item.sent, item.received, item.succeeded⟩

def unavailable (item : UnavailableObservation) : NetworkUnavailableObservation :=
  ⟨item.facet, item.reason⟩

/-- A node as the client has it. -/
def node (item : NormalizedOperationalState) : NetworkNode where
  nodeId := item.nodeId
  deviceId := if item.role = .router then lab1DeviceId? item.nodeId else none
  role := item.role
  interfaces := (servedInterfaces item).map fun items => items.map interface
  bgp := item.bgp.map bgp
  routes := (servedRoutes item).map fun items => items.map route
  reachability := (servedReachability item).map fun items => items.map reachability
  unavailable := item.unavailable.map unavailable

end Served

/-! ### The words -/

theorem oneOf_nodeRole (role : NodeRole) : oneOf nodeRoles (.str role.value) = some role := by
  cases role <;> decide

theorem oneOf_interfaceOperState (state : InterfaceOperState) :
    oneOf interfaceOperStates (.str state.value) = some state := by
  cases state <;> decide

theorem oneOf_bgpSessionState (state : BgpSessionState) :
    oneOf bgpSessionStates (.str state.value) = some state := by
  cases state <;> decide

theorem oneOf_observationFacet (facet : ObservationFacet) :
    oneOf observationFacets (.str facet.value) = some facet := by
  cases facet <;> decide

/-! ### The texts -/

theorem nonEmptyString?_of_not_blank {s : String} (h : isBlank s = false) :
    nonEmptyString? (.str s) = some s := by
  refine nonEmptyString?_str ?_
  rintro rfl
  exact absurd h (by decide)

theorem nonEmptyString?_of_isIpAddress {s : String} (h : isIpAddress s = true) :
    nonEmptyString? (.str s) = some s := by
  refine nonEmptyString?_str ?_
  rintro rfl
  exact absurd h (by decide)

theorem nonEmptyString?_of_isIpInterface {s : String} (h : isIpInterface s = true) :
    nonEmptyString? (.str s) = some s := by
  refine nonEmptyString?_str ?_
  rintro rfl
  exact absurd h (by decide)

theorem nonEmptyString?_of_isIpNetwork {s : String} (h : isIpNetwork s = true) :
    nonEmptyString? (.str s) = some s := by
  refine nonEmptyString?_str ?_
  rintro rfl
  exact absurd h (by decide)

theorem nullable_countJson (n : Option ℕ) :
    nullable nonNegativeInteger? (countJson n) = some n := by
  cases n with
  | none => rfl
  | some n => simp only [countJson, Json.ofOption, nullable, nonNegativeInteger?_ofNat, Option.map_some]

theorem nullable_textJson (s : Option String) : nullable string? (textJson s) = some s := by
  cases s with
  | none => rfl
  | some s => rfl

/-- A list that is served is read element by element. -/
theorem arrayOf_listJson {α β : Type} {guard? : Json → Option β} {encode : α → Json} {f : α → β}
    {xs : List α} (h : ∀ x ∈ xs, guard? (encode x) = some (f x)) :
    arrayOf guard? (listJson encode xs) = some (xs.map f) :=
  arrayOf_map h

/-- A facet that is served is null or read element by element. -/
theorem nullable_facet {α β : Type} {guard? : Json → Option β} {encode : α → Json} {f : α → β}
    (facet : Option (List α)) (h : ∀ x, guard? (encode x) = some (f x)) :
    nullable (arrayOf guard?) (Json.ofOption (listJson encode) facet) =
      some (facet.map fun xs => xs.map f) :=
  nullable_ofOption facet (fun _ _ h => by cases h) fun _ _ => arrayOf_listJson fun x _ => h x

/-! ### The records -/

theorem networkInterface?_served (item : InterfaceObservation) :
    networkInterface? (networkInterfaceResponse item) = some (Served.interface item) := by
  have haddresses : arrayOf nonEmptyString? (listJson .str item.addresses) =
      some item.addresses := by
    rw [arrayOf_listJson (f := fun s => s) fun s hs =>
      nonEmptyString?_of_isIpInterface (item.addresses_valid s hs), List.map_id']
  simp (disch := decide) only [networkInterface?, networkInterfaceResponse, field_cons_self,
    field_cons_of_ne, nonEmptyString?_of_not_blank item.name_not_blank, oneOf_interfaceOperState,
    haddresses, Option.bind_eq_bind, Option.bind_some, Served.interface]
  rfl

theorem networkBgpNeighbor?_served (item : BgpNeighborObservation) :
    networkBgpNeighbor? (networkBgpNeighborResponse item) = some (Served.bgpNeighbor item) := by
  simp (disch := decide) only [networkBgpNeighbor?, networkBgpNeighborResponse, field_cons_self,
    field_cons_of_ne, nonEmptyString?_of_isIpAddress item.neighborIp_valid, oneOf_bgpSessionState,
    nullable_countJson, nullable_textJson, Option.bind_eq_bind, Option.bind_some,
    Served.bgpNeighbor]
  rfl

theorem networkBgp?_served (item : BgpObservation) :
    networkBgp? (networkBgpResponse item) = some (Served.bgp item) := by
  have hneighbors : arrayOf networkBgpNeighbor?
      (listJson networkBgpNeighborResponse item.neighbors) =
        some (item.neighbors.map Served.bgpNeighbor) :=
    arrayOf_listJson fun neighbor _ => networkBgpNeighbor?_served neighbor
  simp (disch := decide) only [networkBgp?, networkBgpResponse, field_cons_self,
    field_cons_of_ne, nonNegativeInteger?_ofNat, nonEmptyString?_of_isIpAddress item.routerId_valid,
    hneighbors, Option.bind_eq_bind, Option.bind_some, Served.bgp]
  rfl

theorem networkNextHop?_served (item : NextHop) :
    networkNextHop? (networkNextHopResponse item) = some (Served.nextHop item) := by
  simp (disch := decide) only [networkNextHop?, networkNextHopResponse, field_cons_self,
    field_cons_of_ne, nullable_textJson, Option.bind_eq_bind, Option.bind_some, Served.nextHop]
  rfl

theorem networkRoute?_served (item : RouteObservation) :
    networkRoute? (networkRouteResponse item) = some (Served.route item) := by
  have hnextHops : arrayOf networkNextHop? (listJson networkNextHopResponse item.nextHops) =
      some (item.nextHops.map Served.nextHop) :=
    arrayOf_listJson fun nextHop _ => networkNextHop?_served nextHop
  simp (disch := decide) only [networkRoute?, networkRouteResponse, field_cons_self,
    field_cons_of_ne, nonEmptyString?_of_isIpNetwork item.prefix_valid,
    nonEmptyString?_of_not_blank item.protocol_not_blank, nonNegativeInteger?_ofNat, hnextHops,
    Option.bind_eq_bind, Option.bind_some, Served.route]
  rfl

theorem networkReachability?_served (item : ReachabilityObservation) :
    networkReachability? (networkReachabilityResponse item) =
      some (Served.reachability item) := by
  simp (disch := decide) only [networkReachability?, networkReachabilityResponse, field_cons_self,
    field_cons_of_ne, nonEmptyString?_of_not_blank item.fromNode_not_blank,
    nonEmptyString?_of_isIpAddress item.target_valid, nonNegativeInteger?_ofNat, boolean?,
    Option.bind_eq_bind, Option.bind_some, Served.reachability]
  rfl

theorem networkUnavailableObservation?_served (item : UnavailableObservation) :
    networkUnavailableObservation? (networkUnavailableResponse item) =
      some (Served.unavailable item) := by
  simp (disch := decide) only [networkUnavailableObservation?, networkUnavailableResponse,
    field_cons_self, field_cons_of_ne, oneOf_observationFacet,
    nonEmptyString?_of_not_blank item.reason_not_blank, Option.bind_eq_bind, Option.bind_some,
    Served.unavailable]
  rfl

/-- A router that is served has a registered device. -/
def Registered (node : NormalizedOperationalState) : Prop :=
  node.role = .router → (lab1DeviceId? node.nodeId).isSome = true

theorem nodeDeviceId_of_registered {node : NormalizedOperationalState} (h : Registered node) :
    nodeDeviceId node =
      .ok (if node.role = .router then lab1DeviceId? node.nodeId else none) := by
  rw [nodeDeviceId]
  split_ifs with hrole
  · obtain ⟨deviceId, hdevice⟩ := Option.isSome_iff_exists.1 (h hrole)
    rw [hdevice]
  · rfl

theorem nullable_deviceId (node : NormalizedOperationalState) :
    nullable nonEmptyString? (textJson (if node.role = .router then lab1DeviceId? node.nodeId
      else none)) = some (if node.role = .router then lab1DeviceId? node.nodeId else none) := by
  split_ifs
  · cases hdevice : lab1DeviceId? node.nodeId with
    | none => rfl
    | some deviceId =>
        have hread := nonEmptyString?_of_not_blank (not_isBlank_of_lab1DeviceId? hdevice)
        simp only [textJson, Json.ofOption, nullable, hread, Option.map_some]
  · rfl

/-- A node of a fabric is served, and read back. -/
theorem networkNode?_served {node : NormalizedOperationalState} (h : Registered node) :
    ∃ body, networkNodeResponse node = .ok body ∧ networkNode? body = some (Served.node node) := by
  have hbgp : nullable networkBgp? (Json.ofOption networkBgpResponse node.bgp) =
      some (node.bgp.map Served.bgp) :=
    nullable_ofOption node.bgp (fun _ _ h => by cases h) fun bgp _ => networkBgp?_served bgp
  have hinterfaces := nullable_facet (servedInterfaces node) networkInterface?_served
  have hroutes := nullable_facet (servedRoutes node) networkRoute?_served
  have hreachability := nullable_facet (servedReachability node) networkReachability?_served
  have hunavailable : arrayOf networkUnavailableObservation?
      (listJson networkUnavailableResponse node.unavailable) =
        some (node.unavailable.map Served.unavailable) :=
    arrayOf_listJson fun item _ => networkUnavailableObservation?_served item
  refine ⟨_, by rw [networkNodeResponse, nodeDeviceId_of_registered h]; rfl, ?_⟩
  simp (disch := decide) only [networkNode?, field_cons_self, field_cons_of_ne,
    nonEmptyString?_of_not_blank node.nodeId_not_blank, nullable_deviceId, oneOf_nodeRole,
    hinterfaces, hbgp, hroutes, hreachability, hunavailable, Option.bind_eq_bind,
    Option.bind_some, Served.node]
  rfl

/-- The nodes of a fabric are served in order, and read back in order. -/
theorem networkNodes_served {nodes : List NormalizedOperationalState}
    (h : ∀ node ∈ nodes, Registered node) :
    ∃ bodies, nodes.mapM networkNodeResponse = .ok bodies ∧
      bodies.mapM networkNode? = some (nodes.map Served.node) := by
  induction nodes with
  | nil => exact ⟨[], rfl, rfl⟩
  | cons node nodes ih =>
      obtain ⟨body, hbody, hread⟩ := networkNode?_served (h node List.mem_cons_self)
      obtain ⟨bodies, hbodies, hreads⟩ := ih fun n hn => h n (List.mem_cons_of_mem node hn)
      refine ⟨body :: bodies, ?_, ?_⟩
      · rw [List.mapM_cons, hbody, hbodies]
        rfl
      · rw [List.mapM_cons, hread, hreads]
        rfl

/-- **A served state is accepted**, and the client has its collection, the instants it
was collected and read at, and its nodes. -/
theorem networkStateResponse?_served {result : NetworkStateResult}
    (hrouters : ∀ node ∈ result.fabric.nodes, Registered node)
    (hsource : isBlank result.source.collector = false ∧ isBlank result.source.labName = false)
    (hcollected : result.fabric.collectedAt ≤ maxTimestamp)
    (hretrieved : result.retrievedAt ≤ maxTimestamp) :
    ∃ body state, networkStateResponse result = .ok body ∧
      networkStateResponse? body = some state ∧
      state.collectionId = result.fabric.collectionId ∧
      state.collectedAt.instant = instantOf result.fabric.collectedAt ∧
      state.retrievedAt.instant = instantOf result.retrievedAt ∧
      state.nodes = result.fabric.nodes.map Served.node := by
  obtain ⟨bodies, hbodies, hreads⟩ := networkNodes_served hrouters
  obtain ⟨collectedAt, hcollectedAt, hinstant⟩ := parseableTimestamp?_jsonText hcollected
  obtain ⟨retrievedAt, hretrievedAt, hread⟩ := parseableTimestamp?_jsonText hretrieved
  have hsources : networkStateSource? (.obj [("collector", .str result.source.collector),
      ("lab_name", .str result.source.labName)]) =
        some ⟨result.source.collector, result.source.labName⟩ := by
    simp (disch := decide) only [networkStateSource?, field_cons_self, field_cons_of_ne,
      nonEmptyString?_of_not_blank hsource.1, nonEmptyString?_of_not_blank hsource.2,
      Option.bind_eq_bind, Option.bind_some]
    rfl
  refine ⟨_, ⟨result.fabric.collectionId, collectedAt, retrievedAt,
    ⟨result.source.collector, result.source.labName⟩, result.fabric.nodes.map Served.node⟩,
    by rw [networkStateResponse, hbodies]; rfl, ?_, rfl, hinstant, hread, rfl⟩
  simp (disch := decide) only [networkStateResponse?, field_cons_self, field_cons_of_ne,
    nonEmptyString?_of_not_blank result.fabric.collectionId_not_blank, datetimeJson, hcollectedAt,
    hretrievedAt, hsources, arrayOf, hreads, Option.bind_eq_bind, Option.bind_some]
  rfl

end Frontend
end MetaRne
