/-
# Building operational state

The constructors of `domain/operational_state.py`: the checks of each
`__post_init__` in their order, on arguments that are not known to be valid.  A
constructor returns the validated value or raises `ValueError`, and takes the
fields of a validated value as they are.

The texts that `ipaddress` raises with are given in the form they have for a text
that is no address at all.
-/

import MetaRne.Domain.OperationalState
import MetaRne.Library.Raising

namespace MetaRne

open Library.Effect Python

/-! ### Checks -/

/-- `ip_address(text)`. -/
def requireIpAddress (text : String) : Except Error (PLift (isIpAddress text = true)) :=
  require _ (.valueError "%r does not appear to be an IPv4 or IPv6 address" [text])

/-- `ip_interface(text)`. -/
def requireIpInterface (text : String) : Except Error (PLift (isIpInterface text = true)) :=
  require _ (.valueError "%r does not appear to be an IPv4 or IPv6 interface" [text])

/-- `ip_network(text)`. -/
def requireIpNetwork (text : String) : Except Error (PLift (isIpNetwork text = true)) :=
  require _ (.valueError "%r does not appear to be an IPv4 or IPv6 network" [text])

/-- `_require_unique`. -/
def requireUnique (values : List String) (fieldName : String) :
    Except Error (PLift values.Nodup) :=
  require _ (.valueError "%s must not contain duplicates" [fieldName])

/-- `value <= 0` raises. -/
def requirePositive (fieldName : String) (value : ℤ) : Except Error (PLift (0 < value)) :=
  require _ (.valueError "%s must be > 0, got %s" [fieldName, .int value])

/-- `_require_non_negative` of a value that is there. -/
def requireNonNegative (fieldName : String) (value : ℤ) : Except Error (PLift (0 ≤ value)) :=
  require _ (.valueError "%s must be >= 0, got %s" [fieldName, .int value])

theorem toNat_pos_of_mem {value : Option ℤ} (h : ∀ n ∈ value, 0 < n) :
    ∀ n ∈ value.map Int.toNat, 0 < n := by
  intro n hn
  obtain ⟨m, hm, rfl⟩ := Option.mem_map.1 hn
  have hpos := h m hm
  omega

theorem toNat_pos {n : ℤ} (h : 0 < n) : 0 < n.toNat := by omega

theorem map_toNat_none {p : Prop} {a b : Option ℤ} (h : p → a = none ∧ b = none) :
    p → a.map Int.toNat = none ∧ b.map Int.toNat = none := by
  intro hp
  obtain ⟨rfl, rfl⟩ := h hp
  exact ⟨rfl, rfl⟩

theorem toNat_le_toNat {m n : ℤ} (h : 0 ≤ m ∧ m ≤ n) : m.toNat ≤ n.toNat := by omega

theorem nodup_facets {unavailable : List UnavailableObservation}
    (h : (unavailable.map (·.facet.value)).Nodup) : (unavailable.map (·.facet)).Nodup := by
  have hmap : unavailable.map (·.facet.value) = (unavailable.map (·.facet)).map (·.value) := by
    rw [List.map_map]
    rfl
  rw [hmap] at h
  exact h.of_map _

/-! ### Constructors -/

/-- `CollectionSource(...)`. -/
def CollectionSource.new (collector labName collectionId : String) :
    Except Error CollectionSource := do
  let hcollector ← requireNonEmpty collector "CollectionSource.collector"
  let hlab ← requireNonEmpty labName "CollectionSource.lab_name"
  let hid ← requireNonEmpty collectionId "CollectionSource.collection_id"
  return ⟨collector, labName, collectionId, hcollector.down, hlab.down, hid.down⟩

/-- `InterfaceObservation(...)`. -/
def InterfaceObservation.new (name : String) (operState : InterfaceOperState)
    (addresses : List String) : Except Error InterfaceObservation := do
  let hname ← requireNonEmpty name "InterfaceObservation.name"
  let haddresses ← requireEach requireIpInterface addresses
  let hunique ← requireUnique addresses "InterfaceObservation.addresses"
  return ⟨name, operState, addresses, hname.down, haddresses.down, hunique.down⟩

/-- `BgpNeighborObservation(...)`. -/
def BgpNeighborObservation.new (neighborIp : String) (remoteAs : Option ℤ)
    (state : BgpSessionState) (rawState : Option String) (prefixesReceived uptimeMs : Option ℤ) :
    Except Error BgpNeighborObservation := do
  let hip ← requireIpAddress neighborIp
  let has ← requireOptional (requirePositive "BgpNeighborObservation.remote_as") remoteAs
  let _ ← requireOptional (requireNonNegative "BgpNeighborObservation.prefixes_received")
    prefixesReceived
  let _ ← requireOptional (requireNonNegative "BgpNeighborObservation.uptime_ms") uptimeMs
  let hcounts ← require (state ≠ .established → prefixesReceived = none ∧ uptimeMs = none)
    (.valueError "BgpNeighborObservation.prefixes_received/uptime_ms are only valid for an Established session" [])
  return ⟨neighborIp, remoteAs.map Int.toNat, state, rawState, prefixesReceived.map Int.toNat,
    uptimeMs.map Int.toNat, hip.down, toNat_pos_of_mem has.down, map_toNat_none hcounts.down⟩

/-- `BgpObservation(...)`. -/
def BgpObservation.new (localAs : ℤ) (routerId : String)
    (neighbors : List BgpNeighborObservation) : Except Error BgpObservation := do
  let has ← requirePositive "BgpObservation.local_as" localAs
  let hid ← requireIpAddress routerId
  let hunique ← requireUnique (neighbors.map (·.neighborIp)) "BgpObservation.neighbors"
  return ⟨localAs.toNat, routerId, neighbors, toNat_pos has.down, hid.down, hunique.down⟩

/-- `NextHop(...)`. -/
def NextHop.new (ip interface : Option String) : Except Error NextHop := do
  let hany ← require (ip.isSome ∨ interface.isSome)
    (.valueError "NextHop requires an ip, an interface, or both" [])
  let hip ← requireOptional requireIpAddress ip
  let hinterface ← requireOptional (requireNonEmpty · "NextHop.interface") interface
  return ⟨ip, interface, hany.down, hip.down, hinterface.down⟩

/-- `RouteObservation(...)`. -/
def RouteObservation.new (prefixText protocol : String) (nextHops : List NextHop) :
    Except Error RouteObservation := do
  let hstart ← requireIpNetwork prefixText
  let hprotocol ← requireNonEmpty protocol "RouteObservation.protocol"
  let hsome ← require (nextHops ≠ [])
    (.valueError "RouteObservation requires at least one next hop" [])
  let hunique ← require nextHops.Nodup
    (.valueError "RouteObservation.next_hops must not contain duplicates" [])
  return ⟨prefixText, protocol, nextHops, hstart.down, hprotocol.down, hsome.down, hunique.down⟩

/-- `ReachabilityObservation(...)`. -/
def ReachabilityObservation.new (fromNode target : String) (sent received : ℤ) :
    Except Error ReachabilityObservation := do
  let hfrom ← requireNonEmpty fromNode "ReachabilityObservation.from_node"
  let htarget ← requireIpAddress target
  let hsent ← requirePositive "ReachabilityObservation.sent" sent
  let hreceived ← require (0 ≤ received ∧ received ≤ sent)
    (.valueError "ReachabilityObservation.received must be within [0, %s], got %s"
      [.int sent, .int received])
  return ⟨fromNode, target, sent.toNat, received.toNat, hfrom.down, htarget.down,
    toNat_pos hsent.down, toNat_le_toNat hreceived.down⟩

/-- `UnavailableObservation(...)`. -/
def UnavailableObservation.new (facet : ObservationFacet) (reason : String) :
    Except Error UnavailableObservation := do
  let hreason ← requireNonEmpty reason "UnavailableObservation.reason"
  return ⟨facet, reason, hreason.down⟩

/-- An unavailable facet must carry no data. -/
def requireNoData {α : Type} [DecidableEq α] (unavailable : List UnavailableObservation)
    (facet : ObservationFacet) (data : List α) :
    Except Error (PLift (facetUnavailable unavailable facet = true → data = [])) :=
  require _ (.valueError "an unavailable facet must carry no data: %s" [facet.value])

/-- `NormalizedOperationalState(...)`. -/
def NormalizedOperationalState.new (nodeId : String) (role : NodeRole) (collectedAt : Datetime)
    (source : CollectionSource) (interfaces : List InterfaceObservation)
    (bgp : Option BgpObservation) (routes : List RouteObservation)
    (reachability : List ReachabilityObservation) (unavailable : List UnavailableObservation) :
    Except Error NormalizedOperationalState := do
  let hid ← requireNonEmpty nodeId "NormalizedOperationalState.node_id"
  let collectedAt ← requireUtc collectedAt "NormalizedOperationalState.collected_at"
  let hinterfaces ← requireUnique (interfaces.map (·.name)) "NormalizedOperationalState.interfaces"
  let hroutes ← requireUnique (routes.map fun route => route.prefixText ++ "|" ++ route.protocol)
    "NormalizedOperationalState.routes"
  let hfacets ← requireUnique (unavailable.map (·.facet.value))
    "NormalizedOperationalState.unavailable"
  let hnoInterfaces ← requireNoData unavailable .interfaces interfaces
  let hnoRoutes ← requireNoData unavailable .routes routes
  let hnoReachability ← requireNoData unavailable .reachability reachability
  let hhost ← require (role = .host → bgp = none ∧ facetUnavailable unavailable .bgp = false)
    (.valueError "a host has no BGP observation" [])
  let hrouter ← require (role = .router → (bgp = none ↔ facetUnavailable unavailable .bgp = true))
    (.valueError "a router must carry a BGP observation or mark the bgp facet unavailable" [])
  return ⟨nodeId, role, collectedAt, source, interfaces, bgp, routes, reachability, unavailable,
    hid.down, hinterfaces.down, hroutes.down, nodup_facets hfacets.down, hnoInterfaces.down,
    hnoRoutes.down, hnoReachability.down, hhost.down, hrouter.down⟩

/-- A node of the pass that a fabric records. -/
def requireOfPass (collectedAt : Timestamp) (collectionId : String)
    (node : NormalizedOperationalState) :
    Except Error (PLift (node.collectedAt = collectedAt ∧
      node.source.collectionId = collectionId)) := do
  let hat ← require (node.collectedAt = collectedAt)
    (.valueError "FabricOperationalState node %r collected_at differs from the fabric collected_at"
      [node.nodeId])
  let hid ← require (node.source.collectionId = collectionId)
    (.valueError "FabricOperationalState node %r collection_id differs from the fabric collection_id"
      [node.nodeId])
  return ⟨⟨hat.down, hid.down⟩⟩

/-- `FabricOperationalState(...)`. -/
def FabricOperationalState.new (collectionId : String) (collectedAt : Datetime)
    (nodes : List NormalizedOperationalState) : Except Error FabricOperationalState := do
  let hid ← requireNonEmpty collectionId "FabricOperationalState.collection_id"
  let collectedAt ← requireUtc collectedAt "FabricOperationalState.collected_at"
  let hunique ← requireUnique (nodes.map (·.nodeId)) "FabricOperationalState.nodes"
  let hnodes ← requireEach (requireOfPass collectedAt collectionId) nodes
  return ⟨collectionId, collectedAt, nodes, hid.down, hunique.down,
    fun node hnode => (hnodes.down node hnode).1, fun node hnode => (hnodes.down node hnode).2⟩

/-! ### What a constructor makes of the fields of a value

The value itself. -/

theorem requireIpAddress_eq_ok {text : String} (h : isIpAddress text = true) :
    requireIpAddress text = .ok ⟨h⟩ := require_eq_ok _ h

theorem requireIpInterface_eq_ok {text : String} (h : isIpInterface text = true) :
    requireIpInterface text = .ok ⟨h⟩ := require_eq_ok _ h

theorem requirePositive_eq_ok {fieldName : String} {n : ℤ} (h : 0 < n) :
    requirePositive fieldName n = .ok ⟨h⟩ := require_eq_ok _ h

theorem requireUnique_eq_ok {values : List String} {fieldName : String} (h : values.Nodup) :
    requireUnique values fieldName = .ok ⟨h⟩ := require_eq_ok _ h

/-- An integer that is there is one of the natural numbers that it was made of. -/
theorem forall_mem_map_natCast {p : ℤ → Prop} {value : Option ℕ} (h : ∀ n ∈ value, p n) :
    ∀ n ∈ value.map Nat.cast, p n := by
  intro n hn
  obtain ⟨m, hm, rfl⟩ := Option.mem_map.1 hn
  exact h m hm

theorem requireNonNegative_natCast (fieldName : String) (value : Option ℕ) :
    requireOptional (requireNonNegative fieldName) (value.map Nat.cast) =
      .ok ⟨forall_mem_map_natCast fun n _ => Int.natCast_nonneg n⟩ :=
  requireOptional_eq_ok (fun _ h => require_eq_ok _ h) _

theorem map_toNat_map_natCast (value : Option ℕ) :
    (value.map (Nat.cast : ℕ → ℤ)).map Int.toNat = value := by
  cases value <;> rfl

theorem CollectionSource.new_self (source : CollectionSource) :
    CollectionSource.new source.collector source.labName source.collectionId = .ok source := by
  rw [CollectionSource.new, requireNonEmpty_eq_ok (h := ⟨source.collector_not_blank⟩), ok_bind,
    requireNonEmpty_eq_ok (h := ⟨source.labName_not_blank⟩), ok_bind,
    requireNonEmpty_eq_ok (h := ⟨source.collectionId_not_blank⟩), ok_bind]
  rfl

theorem InterfaceObservation.new_self (interface : InterfaceObservation) :
    InterfaceObservation.new interface.name interface.operState interface.addresses =
      .ok interface := by
  have haddresses := requireEach_eq_ok (fun _ h => requireIpInterface_eq_ok h)
    interface.addresses_valid
  rw [InterfaceObservation.new, requireNonEmpty_eq_ok (h := ⟨interface.name_not_blank⟩), ok_bind,
    haddresses, ok_bind, requireUnique_eq_ok interface.addresses_nodup, ok_bind]
  rfl

theorem BgpNeighborObservation.new_self (neighbor : BgpNeighborObservation) :
    BgpNeighborObservation.new neighbor.neighborIp (neighbor.remoteAs.map Nat.cast) neighbor.state
      neighbor.rawState (neighbor.prefixesReceived.map Nat.cast) (neighbor.uptimeMs.map Nat.cast) =
      .ok neighbor := by
  have has : ∀ n ∈ neighbor.remoteAs.map (Nat.cast : ℕ → ℤ), 0 < n :=
    forall_mem_map_natCast fun n hn => Int.natCast_pos.2 (neighbor.remoteAs_pos n hn)
  have hpositive : requireOptional (requirePositive "BgpNeighborObservation.remote_as")
      (neighbor.remoteAs.map Nat.cast) = .ok ⟨has⟩ :=
    requireOptional_eq_ok (fun _ h => requirePositive_eq_ok h) has
  have hcounts : neighbor.state ≠ .established →
      neighbor.prefixesReceived.map (Nat.cast : ℕ → ℤ) = none ∧
        neighbor.uptimeMs.map (Nat.cast : ℕ → ℤ) = none := by
    intro hstate
    obtain ⟨hprefixes, huptime⟩ := neighbor.counts_established hstate
    rw [hprefixes, huptime]
    exact ⟨rfl, rfl⟩
  rw [BgpNeighborObservation.new, requireIpAddress_eq_ok neighbor.neighborIp_valid, ok_bind,
    hpositive, ok_bind, requireNonNegative_natCast, ok_bind, requireNonNegative_natCast, ok_bind,
    require_eq_ok _ hcounts, ok_bind]
  simp only [map_toNat_map_natCast]
  rfl

theorem BgpObservation.new_self (bgp : BgpObservation) :
    BgpObservation.new bgp.localAs bgp.routerId bgp.neighbors = .ok bgp := by
  have has : (0 : ℤ) < bgp.localAs := Int.natCast_pos.2 bgp.localAs_pos
  rw [BgpObservation.new, requirePositive_eq_ok has, ok_bind,
    requireIpAddress_eq_ok bgp.routerId_valid, ok_bind, requireUnique_eq_ok bgp.neighbors_nodup,
    ok_bind]
  rfl

theorem NextHop.new_self (hop : NextHop) : NextHop.new hop.ip hop.interface = .ok hop := by
  have hip := requireOptional_eq_ok (fun _ h => requireIpAddress_eq_ok h) hop.ip_valid
  have hinterface : requireOptional (requireNonEmpty · "NextHop.interface") hop.interface =
      .ok ⟨hop.interface_not_blank⟩ :=
    requireOptional_eq_ok (fun _ h => requireNonEmpty_eq_ok (h := ⟨h⟩)) hop.interface_not_blank
  rw [NextHop.new, require_eq_ok _ hop.ip_or_interface, ok_bind, hip, ok_bind, hinterface, ok_bind]
  rfl

theorem RouteObservation.new_self (route : RouteObservation) :
    RouteObservation.new route.prefixText route.protocol route.nextHops = .ok route := by
  have hstart : requireIpNetwork route.prefixText = .ok ⟨route.prefix_valid⟩ := require_eq_ok _ _
  rw [RouteObservation.new, hstart, ok_bind,
    requireNonEmpty_eq_ok (h := ⟨route.protocol_not_blank⟩), ok_bind,
    require_eq_ok _ route.nextHops_ne_nil, ok_bind, require_eq_ok _ route.nextHops_nodup, ok_bind]
  rfl

theorem ReachabilityObservation.new_self (probe : ReachabilityObservation) :
    ReachabilityObservation.new probe.fromNode probe.target probe.sent probe.received =
      .ok probe := by
  have hsent : (0 : ℤ) < probe.sent := Int.natCast_pos.2 probe.sent_pos
  have hreceived : (0 : ℤ) ≤ probe.received ∧ (probe.received : ℤ) ≤ probe.sent :=
    ⟨Int.natCast_nonneg _, Int.ofNat_le.2 probe.received_le⟩
  rw [ReachabilityObservation.new, requireNonEmpty_eq_ok (h := ⟨probe.fromNode_not_blank⟩), ok_bind,
    requireIpAddress_eq_ok probe.target_valid, ok_bind, requirePositive_eq_ok hsent, ok_bind,
    require_eq_ok _ hreceived, ok_bind]
  rfl

theorem UnavailableObservation.new_self (item : UnavailableObservation) :
    UnavailableObservation.new item.facet item.reason = .ok item := by
  rw [UnavailableObservation.new, requireNonEmpty_eq_ok (h := ⟨item.reason_not_blank⟩), ok_bind]
  rfl

theorem ObservationFacet.value_injective : Function.Injective ObservationFacet.value := by
  intro a b h
  cases a <;> cases b <;> first | rfl | exact absurd h (by decide)

theorem requireNoData_eq_ok {α : Type} [DecidableEq α] {unavailable : List UnavailableObservation}
    {facet : ObservationFacet} {data : List α}
    (h : facetUnavailable unavailable facet = true → data = []) :
    requireNoData unavailable facet data = .ok ⟨h⟩ := require_eq_ok _ h

theorem NormalizedOperationalState.new_self (node : NormalizedOperationalState) :
    NormalizedOperationalState.new node.nodeId node.role (.utc node.collectedAt) node.source
      node.interfaces node.bgp node.routes node.reachability node.unavailable = .ok node := by
  have hfacets : (node.unavailable.map (·.facet.value)).Nodup := by
    have hnodup := node.unavailable_nodup.map ObservationFacet.value_injective
    rwa [List.map_map] at hnodup
  rw [NormalizedOperationalState.new, requireNonEmpty_eq_ok (h := ⟨node.nodeId_not_blank⟩), ok_bind,
    requireUtc_utc, ok_bind, requireUnique_eq_ok node.interfaces_nodup, ok_bind,
    requireUnique_eq_ok node.routes_nodup, ok_bind, requireUnique_eq_ok hfacets, ok_bind,
    requireNoData_eq_ok node.interfaces_unavailable, ok_bind,
    requireNoData_eq_ok node.routes_unavailable, ok_bind,
    requireNoData_eq_ok node.reachability_unavailable, ok_bind, require_eq_ok _ node.host_bgp,
    ok_bind, require_eq_ok _ node.router_bgp, ok_bind]
  rfl

theorem requireOfPass_eq_ok {collectedAt : Timestamp} {collectionId : String}
    {node : NormalizedOperationalState}
    (h : node.collectedAt = collectedAt ∧ node.source.collectionId = collectionId) :
    requireOfPass collectedAt collectionId node = .ok ⟨h⟩ := by
  rw [requireOfPass, require_eq_ok _ h.1, ok_bind, require_eq_ok _ h.2]
  rfl

theorem FabricOperationalState.new_self (fabric : FabricOperationalState) :
    FabricOperationalState.new fabric.collectionId (.utc fabric.collectedAt) fabric.nodes =
      .ok fabric := by
  have hnodes : requireEach (requireOfPass fabric.collectedAt fabric.collectionId) fabric.nodes =
      .ok ⟨fun node hnode => ⟨fabric.nodes_collectedAt node hnode,
        fabric.nodes_collectionId node hnode⟩⟩ :=
    requireEach_eq_ok (fun _ h => requireOfPass_eq_ok h) _
  rw [FabricOperationalState.new, requireNonEmpty_eq_ok (h := ⟨fabric.collectionId_not_blank⟩),
    ok_bind, requireUtc_utc, ok_bind, requireUnique_eq_ok fabric.nodes_nodup, ok_bind, hnodes,
    ok_bind]
  rfl

/-! ### What a constructor raises -/

/-- A `ValueError`. -/
def IsValueError : Error → Prop
  | .valueError _ _ => True
  | _ => False

theorem requireNonEmpty_raises {value fieldName : String} :
    RaisesOnly IsValueError (requireNonEmpty value fieldName) := by
  by_cases h : isBlank value = true
  · rw [requireNonEmpty, dif_pos h]
    exact raisesOnly_error trivial
  · rw [requireNonEmpty, dif_neg h]
    exact raisesOnly_ok _

theorem requireUtc_raises {value : Datetime} {fieldName : String} :
    RaisesOnly IsValueError (requireUtc value fieldName) := by
  obtain ⟨wall, offset⟩ := value
  cases offset with
  | none => exact raisesOnly_error trivial
  | some offset =>
      rw [requireUtc]
      by_cases h : offset = 0
      · simp only [h, if_true]
        exact raisesOnly_ok _
      · simp only [h, if_false]
        exact raisesOnly_error trivial

theorem CollectionSource.new_raises {collector labName collectionId : String} :
    RaisesOnly IsValueError (CollectionSource.new collector labName collectionId) := by
  refine requireNonEmpty_raises.bind fun _ => requireNonEmpty_raises.bind fun _ => ?_
  exact requireNonEmpty_raises.bind fun _ => raisesOnly_pure _

theorem InterfaceObservation.new_raises {name : String} {operState : InterfaceOperState}
    {addresses : List String} :
    RaisesOnly IsValueError (InterfaceObservation.new name operState addresses) := by
  refine requireNonEmpty_raises.bind fun _ => ?_
  refine (raisesOnly_requireEach fun _ => raisesOnly_require trivial).bind fun _ => ?_
  exact (raisesOnly_require trivial).bind fun _ => raisesOnly_pure _

theorem BgpNeighborObservation.new_raises {neighborIp : String} {remoteAs : Option ℤ}
    {state : BgpSessionState} {rawState : Option String} {prefixesReceived uptimeMs : Option ℤ} :
    RaisesOnly IsValueError (BgpNeighborObservation.new neighborIp remoteAs state rawState
      prefixesReceived uptimeMs) := by
  refine (raisesOnly_require trivial).bind fun _ => ?_
  refine (raisesOnly_requireOptional fun _ => raisesOnly_require trivial).bind fun _ => ?_
  refine (raisesOnly_requireOptional fun _ => raisesOnly_require trivial).bind fun _ => ?_
  refine (raisesOnly_requireOptional fun _ => raisesOnly_require trivial).bind fun _ => ?_
  exact (raisesOnly_require trivial).bind fun _ => raisesOnly_pure _

theorem BgpObservation.new_raises {localAs : ℤ} {routerId : String}
    {neighbors : List BgpNeighborObservation} :
    RaisesOnly IsValueError (BgpObservation.new localAs routerId neighbors) := by
  refine (raisesOnly_require trivial).bind fun _ => (raisesOnly_require trivial).bind fun _ => ?_
  exact (raisesOnly_require trivial).bind fun _ => raisesOnly_pure _

theorem NextHop.new_raises {ip interface : Option String} :
    RaisesOnly IsValueError (NextHop.new ip interface) := by
  refine (raisesOnly_require trivial).bind fun _ => ?_
  refine (raisesOnly_requireOptional fun _ => raisesOnly_require trivial).bind fun _ => ?_
  exact (raisesOnly_requireOptional fun _ => requireNonEmpty_raises).bind fun _ => raisesOnly_pure _

theorem RouteObservation.new_raises {prefixText protocol : String} {nextHops : List NextHop} :
    RaisesOnly IsValueError (RouteObservation.new prefixText protocol nextHops) := by
  refine (raisesOnly_require trivial).bind fun _ => requireNonEmpty_raises.bind fun _ => ?_
  refine (raisesOnly_require trivial).bind fun _ => ?_
  exact (raisesOnly_require trivial).bind fun _ => raisesOnly_pure _

theorem ReachabilityObservation.new_raises {fromNode target : String} {sent received : ℤ} :
    RaisesOnly IsValueError (ReachabilityObservation.new fromNode target sent received) := by
  refine requireNonEmpty_raises.bind fun _ => (raisesOnly_require trivial).bind fun _ => ?_
  refine (raisesOnly_require trivial).bind fun _ => ?_
  exact (raisesOnly_require trivial).bind fun _ => raisesOnly_pure _

theorem UnavailableObservation.new_raises {facet : ObservationFacet} {reason : String} :
    RaisesOnly IsValueError (UnavailableObservation.new facet reason) :=
  requireNonEmpty_raises.bind fun _ => raisesOnly_pure _

theorem NormalizedOperationalState.new_raises {nodeId : String} {role : NodeRole}
    {collectedAt : Datetime} {source : CollectionSource} {interfaces : List InterfaceObservation}
    {bgp : Option BgpObservation} {routes : List RouteObservation}
    {reachability : List ReachabilityObservation} {unavailable : List UnavailableObservation} :
    RaisesOnly IsValueError (NormalizedOperationalState.new nodeId role collectedAt source
      interfaces bgp routes reachability unavailable) := by
  refine requireNonEmpty_raises.bind fun _ => requireUtc_raises.bind fun _ => ?_
  refine (raisesOnly_require trivial).bind fun _ => (raisesOnly_require trivial).bind fun _ => ?_
  refine (raisesOnly_require trivial).bind fun _ => (raisesOnly_require trivial).bind fun _ => ?_
  refine (raisesOnly_require trivial).bind fun _ => (raisesOnly_require trivial).bind fun _ => ?_
  refine (raisesOnly_require trivial).bind fun _ => ?_
  exact (raisesOnly_require trivial).bind fun _ => raisesOnly_pure _

theorem FabricOperationalState.new_raises {collectionId : String} {collectedAt : Datetime}
    {nodes : List NormalizedOperationalState} :
    RaisesOnly IsValueError (FabricOperationalState.new collectionId collectedAt nodes) := by
  refine requireNonEmpty_raises.bind fun _ => requireUtc_raises.bind fun _ => ?_
  refine (raisesOnly_require trivial).bind fun _ => ?_
  refine (raisesOnly_requireEach fun _ => ?_).bind fun _ => raisesOnly_pure _
  refine (raisesOnly_require trivial).bind fun _ => ?_
  exact (raisesOnly_require trivial).bind fun _ => raisesOnly_pure _

/-! ### What a constructor that passes returns

The value has the fields it was made of. -/

theorem CollectionSource.of_new {collector labName collectionId : String}
    {source : CollectionSource} (h : CollectionSource.new collector labName collectionId = .ok source) :
    source.collector = collector ∧ source.labName = labName ∧
      source.collectionId = collectionId := by
  obtain ⟨_, -, h⟩ := except_bind_eq_ok.1 h
  obtain ⟨_, -, h⟩ := except_bind_eq_ok.1 h
  obtain ⟨_, -, h⟩ := except_bind_eq_ok.1 h
  cases h
  exact ⟨rfl, rfl, rfl⟩

theorem InterfaceObservation.of_new {name : String} {operState : InterfaceOperState}
    {addresses : List String} {interface : InterfaceObservation}
    (h : InterfaceObservation.new name operState addresses = .ok interface) :
    interface.name = name ∧ interface.operState = operState ∧ interface.addresses = addresses := by
  obtain ⟨_, -, h⟩ := except_bind_eq_ok.1 h
  obtain ⟨_, -, h⟩ := except_bind_eq_ok.1 h
  obtain ⟨_, -, h⟩ := except_bind_eq_ok.1 h
  cases h
  exact ⟨rfl, rfl, rfl⟩

theorem BgpNeighborObservation.of_new {neighborIp : String} {remoteAs : Option ℤ}
    {state : BgpSessionState} {rawState : Option String} {prefixesReceived uptimeMs : Option ℤ}
    {neighbor : BgpNeighborObservation}
    (h : BgpNeighborObservation.new neighborIp remoteAs state rawState prefixesReceived uptimeMs =
      .ok neighbor) :
    neighbor.neighborIp = neighborIp ∧ neighbor.remoteAs = remoteAs.map Int.toNat ∧
      neighbor.state = state ∧ neighbor.rawState = rawState ∧
      neighbor.prefixesReceived = prefixesReceived.map Int.toNat ∧
      neighbor.uptimeMs = uptimeMs.map Int.toNat := by
  obtain ⟨_, -, h⟩ := except_bind_eq_ok.1 h
  obtain ⟨_, -, h⟩ := except_bind_eq_ok.1 h
  obtain ⟨_, -, h⟩ := except_bind_eq_ok.1 h
  obtain ⟨_, -, h⟩ := except_bind_eq_ok.1 h
  obtain ⟨_, -, h⟩ := except_bind_eq_ok.1 h
  cases h
  exact ⟨rfl, rfl, rfl, rfl, rfl, rfl⟩

theorem BgpObservation.of_new {localAs : ℤ} {routerId : String}
    {neighbors : List BgpNeighborObservation} {bgp : BgpObservation}
    (h : BgpObservation.new localAs routerId neighbors = .ok bgp) :
    bgp.localAs = localAs.toNat ∧ bgp.routerId = routerId ∧ bgp.neighbors = neighbors := by
  obtain ⟨_, -, h⟩ := except_bind_eq_ok.1 h
  obtain ⟨_, -, h⟩ := except_bind_eq_ok.1 h
  obtain ⟨_, -, h⟩ := except_bind_eq_ok.1 h
  cases h
  exact ⟨rfl, rfl, rfl⟩

theorem NextHop.of_new {ip interface : Option String} {hop : NextHop}
    (h : NextHop.new ip interface = .ok hop) : hop.ip = ip ∧ hop.interface = interface := by
  obtain ⟨_, -, h⟩ := except_bind_eq_ok.1 h
  obtain ⟨_, -, h⟩ := except_bind_eq_ok.1 h
  obtain ⟨_, -, h⟩ := except_bind_eq_ok.1 h
  cases h
  exact ⟨rfl, rfl⟩

theorem RouteObservation.of_new {prefixText protocol : String} {nextHops : List NextHop}
    {route : RouteObservation} (h : RouteObservation.new prefixText protocol nextHops = .ok route) :
    route.prefixText = prefixText ∧ route.protocol = protocol ∧ route.nextHops = nextHops := by
  obtain ⟨_, -, h⟩ := except_bind_eq_ok.1 h
  obtain ⟨_, -, h⟩ := except_bind_eq_ok.1 h
  obtain ⟨_, -, h⟩ := except_bind_eq_ok.1 h
  obtain ⟨_, -, h⟩ := except_bind_eq_ok.1 h
  cases h
  exact ⟨rfl, rfl, rfl⟩

theorem ReachabilityObservation.of_new {fromNode target : String} {sent received : ℤ}
    {probe : ReachabilityObservation}
    (h : ReachabilityObservation.new fromNode target sent received = .ok probe) :
    probe.fromNode = fromNode ∧ probe.target = target ∧ (probe.sent : ℤ) = sent ∧
      (probe.received : ℤ) = received := by
  obtain ⟨_, -, h⟩ := except_bind_eq_ok.1 h
  obtain ⟨_, -, h⟩ := except_bind_eq_ok.1 h
  obtain ⟨hsent, -, h⟩ := except_bind_eq_ok.1 h
  obtain ⟨hreceived, -, h⟩ := except_bind_eq_ok.1 h
  cases h
  exact ⟨rfl, rfl, Int.toNat_of_nonneg hsent.down.le, Int.toNat_of_nonneg hreceived.down.1⟩

theorem UnavailableObservation.of_new {facet : ObservationFacet} {reason : String}
    {item : UnavailableObservation} (h : UnavailableObservation.new facet reason = .ok item) :
    item.facet = facet ∧ item.reason = reason := by
  obtain ⟨_, -, h⟩ := except_bind_eq_ok.1 h
  cases h
  exact ⟨rfl, rfl⟩

theorem NormalizedOperationalState.of_new {nodeId : String} {role : NodeRole}
    {collectedAt : Datetime} {source : CollectionSource} {interfaces : List InterfaceObservation}
    {bgp : Option BgpObservation} {routes : List RouteObservation}
    {reachability : List ReachabilityObservation} {unavailable : List UnavailableObservation}
    {node : NormalizedOperationalState}
    (h : NormalizedOperationalState.new nodeId role collectedAt source interfaces bgp routes
      reachability unavailable = .ok node) :
    node.nodeId = nodeId ∧ node.role = role ∧ collectedAt = .utc node.collectedAt ∧
      node.source = source ∧ node.interfaces = interfaces ∧ node.bgp = bgp ∧
      node.routes = routes ∧ node.reachability = reachability ∧
      node.unavailable = unavailable := by
  obtain ⟨_, -, h⟩ := except_bind_eq_ok.1 h
  obtain ⟨t, ht, h⟩ := requireUtc_bind_eq_ok.1 h
  obtain ⟨_, -, h⟩ := except_bind_eq_ok.1 h
  obtain ⟨_, -, h⟩ := except_bind_eq_ok.1 h
  obtain ⟨_, -, h⟩ := except_bind_eq_ok.1 h
  obtain ⟨_, -, h⟩ := except_bind_eq_ok.1 h
  obtain ⟨_, -, h⟩ := except_bind_eq_ok.1 h
  obtain ⟨_, -, h⟩ := except_bind_eq_ok.1 h
  obtain ⟨_, -, h⟩ := except_bind_eq_ok.1 h
  obtain ⟨_, -, h⟩ := except_bind_eq_ok.1 h
  cases h
  exact ⟨rfl, rfl, ht, rfl, rfl, rfl, rfl, rfl, rfl⟩

theorem FabricOperationalState.of_new {collectionId : String} {collectedAt : Datetime}
    {nodes : List NormalizedOperationalState} {fabric : FabricOperationalState}
    (h : FabricOperationalState.new collectionId collectedAt nodes = .ok fabric) :
    fabric.collectionId = collectionId ∧ collectedAt = .utc fabric.collectedAt ∧
      fabric.nodes = nodes := by
  obtain ⟨_, -, h⟩ := except_bind_eq_ok.1 h
  obtain ⟨t, ht, h⟩ := requireUtc_bind_eq_ok.1 h
  obtain ⟨_, -, h⟩ := except_bind_eq_ok.1 h
  obtain ⟨_, -, h⟩ := except_bind_eq_ok.1 h
  cases h
  exact ⟨rfl, ht, rfl⟩

end MetaRne
