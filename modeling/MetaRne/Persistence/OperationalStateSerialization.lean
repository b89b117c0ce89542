/-
# The operational state's JSON

`persistence/operational_state_serialization.py`: the document a fabric is stored
as, and its decoder.  Every key is required and every type is checked, and what a
constructor refuses of a stored value is a `SerializationError` too.

* `fabricFromJson_fabricToJson`: what is stored is read back;
* `fabricFromJson_raises`: nothing but `SerializationError` is raised, whatever the
  version and the document.  A fabric that is returned carries its invariants.
-/

import MetaRne.Domain.OperationalStateConstruction
import MetaRne.Persistence.DecoderContract

namespace MetaRne

open Library.Effect Python

/-- `OPERATIONAL_STATE_SCHEMA_VERSION`. -/
def operationalStateSchemaVersion : ℤ := 1

/-! ### Typed field readers -/

namespace FieldReader

/-- `_str`. -/
def str (data : Json) (key what : String) : Except Error String := do
  let value ← getKey data key what
  match value with
  | .str s => .ok s
  | other => .error (.serialization "%s.%s must be a string, got %s" [what, key, other.typeName])

/-- `_opt_str`. -/
def optStr (data : Json) (key what : String) : Except Error (Option String) := do
  let value ← getKey data key what
  match value with
  | .null => .ok none
  | .str s => .ok (some s)
  | _ => .error (.serialization "%s.%s must be a string or null" [what, key])

/-- `_int`. -/
def int (data : Json) (key what : String) : Except Error ℤ := do
  let value ← getKey data key what
  match value with
  | .int n => .ok n
  | other => .error (.serialization "%s.%s must be an integer, got %s" [what, key, other.typeName])

/-- `_opt_int`. -/
def optInt (data : Json) (key what : String) : Except Error (Option ℤ) := do
  let value ← getKey data key what
  match value with
  | .null => .ok none
  | .int n => .ok (some n)
  | _ => .error (.serialization "%s.%s must be an integer or null" [what, key])

/-- `_str_list`. -/
def strList (data : Json) (key what : String) : Except Error (List String) := do
  let value ← getKey data key what
  let items ← requireList value (what ++ "." ++ key)
  items.mapM fun item =>
    match item with
    | .str s => .ok s
    | _ => .error (.serialization "%s.%s must contain only strings" [what, key])

/-- `_objects`. -/
def objects (data : Json) (key what : String) : Except Error (List Json) := do
  let value ← getKey data key what
  let items ← requireList value (what ++ "." ++ key)
  items.mapM fun item => requireDict item (what ++ "." ++ key ++ "[]")

/-- `_timestamp`. -/
def timestamp (data : Json) (key what : String) : Except Error Timestamp := do
  let value ← getKey data key what
  utcDatetimeFromJson value (what ++ "." ++ key)

/-- `_enum(enum_cls, _get(data, key, what), what)`. -/
def enum (α : Type) [StrEnum α] (data : Json) (key what : String) : Except Error α := do
  let value ← getKey data key what
  enumMember α value what

/-- `except (ValueError, TypeError) as exc: raise SerializationError(...)`. -/
def notPersisted (what : String) : Error → Error
  | .valueError message values =>
      .serialization (what ++ " is not a valid persisted value: " ++ message) values
  | .typeError message =>
      .serialization (what ++ " is not a valid persisted value: " ++ message) []
  | e => e

/-- `_construct`. -/
def construct {α : Type} (what : String) (build : Except Error α) : Except Error α :=
  translate (notPersisted what) build

end FieldReader

/-! ### Encode -/

def interfaceObservationToJson (interface : InterfaceObservation) : Json :=
  .obj [("name", .str interface.name),
    ("oper_state", enumToJson interface.operState),
    ("addresses", .arr (interface.addresses.map .str))]

def neighborToJson (neighbor : BgpNeighborObservation) : Json :=
  .obj [("neighbor_ip", .str neighbor.neighborIp),
    ("remote_as", .ofOption .int (neighbor.remoteAs.map Nat.cast)),
    ("state", enumToJson neighbor.state),
    ("raw_state", .ofOption .str neighbor.rawState),
    ("prefixes_received", .ofOption .int (neighbor.prefixesReceived.map Nat.cast)),
    ("uptime_ms", .ofOption .int (neighbor.uptimeMs.map Nat.cast))]

def bgpToJson (bgp : BgpObservation) : Json :=
  .obj [("local_as", .int bgp.localAs),
    ("router_id", .str bgp.routerId),
    ("neighbors", .arr (bgp.neighbors.map neighborToJson))]

def nextHopToJson (hop : NextHop) : Json :=
  .obj [("ip", .ofOption .str hop.ip), ("interface", .ofOption .str hop.interface)]

def routeToJson (route : RouteObservation) : Json :=
  .obj [("prefix", .str route.prefixText),
    ("protocol", .str route.protocol),
    ("next_hops", .arr (route.nextHops.map nextHopToJson))]

def probeToJson (probe : ReachabilityObservation) : Json :=
  .obj [("from_node", .str probe.fromNode),
    ("target", .str probe.target),
    ("sent", .int probe.sent),
    ("received", .int probe.received)]

def unavailableToJson (item : UnavailableObservation) : Json :=
  .obj [("facet", enumToJson item.facet), ("reason", .str item.reason)]

def sourceToJson (source : CollectionSource) : Json :=
  .obj [("collector", .str source.collector),
    ("lab_name", .str source.labName),
    ("collection_id", .str source.collectionId)]

/-- `_node_to_json`. -/
def nodeToJson (node : NormalizedOperationalState) : Json :=
  .obj [("node_id", .str node.nodeId),
    ("role", enumToJson node.role),
    ("collected_at", .str (isoformat node.collectedAt)),
    ("source", sourceToJson node.source),
    ("interfaces", .arr (node.interfaces.map interfaceObservationToJson)),
    ("bgp", .ofOption bgpToJson node.bgp),
    ("routes", .arr (node.routes.map routeToJson)),
    ("reachability", .arr (node.reachability.map probeToJson)),
    ("unavailable", .arr (node.unavailable.map unavailableToJson))]

/-- `fabric_to_json`. -/
def fabricToJson (fabric : FabricOperationalState) : Json :=
  .obj [("collection_id", .str fabric.collectionId),
    ("collected_at", .str (isoformat fabric.collectedAt)),
    ("nodes", .arr (fabric.nodes.map nodeToJson))]

/-! ### Decode -/

open FieldReader

/-- `_interface_from_json`. -/
def interfaceObservationFromJson (data : Json) : Except Error InterfaceObservation :=
  construct "interface" do
    let name ← str data "name" "interface"
    let operState ← enum InterfaceOperState data "oper_state" "interface"
    let addresses ← strList data "addresses" "interface"
    InterfaceObservation.new name operState addresses

/-- `_neighbor_from_json`. -/
def neighborFromJson (data : Json) : Except Error BgpNeighborObservation :=
  construct "bgp neighbor" do
    let neighborIp ← str data "neighbor_ip" "bgp neighbor"
    let remoteAs ← optInt data "remote_as" "bgp neighbor"
    let state ← enum BgpSessionState data "state" "bgp neighbor"
    let rawState ← optStr data "raw_state" "bgp neighbor"
    let prefixesReceived ← optInt data "prefixes_received" "bgp neighbor"
    let uptimeMs ← optInt data "uptime_ms" "bgp neighbor"
    BgpNeighborObservation.new neighborIp remoteAs state rawState prefixesReceived uptimeMs

/-- `_bgp_from_json`. -/
def bgpFromJson (raw : Json) : Except Error (Option BgpObservation) :=
  match raw with
  | .null => .ok none
  | raw => do
      let data ← requireDict raw "bgp"
      some <$> construct "bgp" do
        let localAs ← int data "local_as" "bgp"
        let routerId ← str data "router_id" "bgp"
        let neighbors ← objects data "neighbors" "bgp"
        let neighbors ← neighbors.mapM neighborFromJson
        BgpObservation.new localAs routerId neighbors

/-- `_next_hop_from_json`. -/
def nextHopFromJson (data : Json) : Except Error NextHop :=
  construct "next hop" do
    let ip ← optStr data "ip" "next hop"
    let interface ← optStr data "interface" "next hop"
    NextHop.new ip interface

/-- `_route_from_json`. -/
def routeFromJson (data : Json) : Except Error RouteObservation :=
  construct "route" do
    let prefixText ← str data "prefix" "route"
    let protocol ← str data "protocol" "route"
    let nextHops ← objects data "next_hops" "route"
    let nextHops ← nextHops.mapM nextHopFromJson
    RouteObservation.new prefixText protocol nextHops

/-- `_probe_from_json`. -/
def probeFromJson (data : Json) : Except Error ReachabilityObservation :=
  construct "reachability" do
    let fromNode ← str data "from_node" "reachability"
    let target ← str data "target" "reachability"
    let sent ← int data "sent" "reachability"
    let received ← int data "received" "reachability"
    ReachabilityObservation.new fromNode target sent received

/-- `_unavailable_from_json`. -/
def unavailableFromJson (data : Json) : Except Error UnavailableObservation :=
  construct "unavailable" do
    let facet ← enum ObservationFacet data "facet" "unavailable"
    let reason ← str data "reason" "unavailable"
    UnavailableObservation.new facet reason

/-- `_source_from_json`. -/
def sourceFromJson (raw : Json) : Except Error CollectionSource := do
  let data ← requireDict raw "source"
  construct "source" do
    let collector ← str data "collector" "source"
    let labName ← str data "lab_name" "source"
    let collectionId ← str data "collection_id" "source"
    CollectionSource.new collector labName collectionId

/-- `_node_from_json`. -/
def nodeFromJson (data : Json) : Except Error NormalizedOperationalState :=
  construct "node" do
    let nodeId ← str data "node_id" "node"
    let role ← enum NodeRole data "role" "node"
    let collectedAt ← timestamp data "collected_at" "node"
    let raw ← getKey data "source" "node"
    let source ← sourceFromJson raw
    let interfaces ← objects data "interfaces" "node"
    let interfaces ← interfaces.mapM interfaceObservationFromJson
    let raw ← getKey data "bgp" "node"
    let bgp ← bgpFromJson raw
    let routes ← objects data "routes" "node"
    let routes ← routes.mapM routeFromJson
    let reachability ← objects data "reachability" "node"
    let reachability ← reachability.mapM probeFromJson
    let unavailable ← objects data "unavailable" "node"
    let unavailable ← unavailable.mapM unavailableFromJson
    NormalizedOperationalState.new nodeId role (.utc collectedAt) source interfaces bgp routes
      reachability unavailable

/-- `fabric_from_json`. -/
def fabricFromJson (schemaVersion document : Json) : Except Error FabricOperationalState :=
  let unsupported : Error := .serialization
    "unsupported operational state schema_version: %r (supported: %s)"
    [.json schemaVersion, .int operationalStateSchemaVersion]
  match schemaVersion with
  | .int version =>
    if version ≠ operationalStateSchemaVersion then .error unsupported
    else do
      let data ← requireDict document "operational state"
      construct "operational state" do
        let collectionId ← str data "collection_id" "operational state"
        let collectedAt ← timestamp data "collected_at" "operational state"
        let nodes ← objects data "nodes" "operational state"
        let nodes ← nodes.mapM nodeFromJson
        FabricOperationalState.new collectionId (.utc collectedAt) nodes
  | _ => .error unsupported

/-! ### What is stored is read back -/

section RoundTrip

variable {key key' what : String} {fields : List (String × Json)} {value : Json}

@[simp] theorem construct_ok {α : Type} (a : α) : construct what (.ok a) = .ok a := rfl

theorem optStr_cons_self (o : Option String) :
    optStr (.obj ((key, .ofOption .str o) :: fields)) key what = .ok o := by
  rw [optStr, getKey_cons_self, ok_bind]
  cases o <;> rfl

theorem optStr_cons_of_ne (h : key ≠ key') :
    optStr (.obj ((key', value) :: fields)) key what = optStr (.obj fields) key what := by
  rw [optStr, getKey_cons_of_ne _ h, optStr]

theorem optInt_cons_self (o : Option ℤ) :
    optInt (.obj ((key, .ofOption .int o) :: fields)) key what = .ok o := by
  rw [optInt, getKey_cons_self, ok_bind]
  cases o <;> rfl

theorem optInt_cons_of_ne (h : key ≠ key') :
    optInt (.obj ((key', value) :: fields)) key what = optInt (.obj fields) key what := by
  rw [optInt, getKey_cons_of_ne _ h, optInt]

/-- An array is decoded element by element. -/
theorem mapM_map_encode {α : Type} {encode : α → Json} {decode : Json → Except Error α}
    {as : List α} (h : ∀ a ∈ as, decode (encode a) = .ok a) :
    (as.map encode).mapM decode = .ok as := by
  have hmap := mapM_map_eq_ok h
  rwa [List.map_id'] at hmap

theorem strList_cons_self (texts : List String) :
    strList (.obj ((key, .arr (texts.map .str)) :: fields)) key what = .ok texts := by
  rw [strList, getKey_cons_self, ok_bind, requireList_arr, ok_bind]
  exact mapM_map_encode fun text _ => rfl

/-- An encoder that makes objects. -/
def MakesObjects {α : Type} (encode : α → Json) : Prop := ∀ a, ∃ fields, encode a = .obj fields

theorem objects_cons_self {α : Type} {encode : α → Json} (h : MakesObjects encode) (as : List α) :
    objects (.obj ((key, .arr (as.map encode)) :: fields)) key what = .ok (as.map encode) := by
  have hdict : ∀ a ∈ as, requireDict (encode a) (what ++ "." ++ key ++ "[]") = .ok (encode a) :=
    fun a _ => requireDict_eq_ok.2 ⟨h a, rfl⟩
  rw [objects, getKey_cons_self, ok_bind, requireList_arr, ok_bind, mapM_map_eq_ok hdict]

theorem objects_cons_of_ne (h : key ≠ key') :
    objects (.obj ((key', value) :: fields)) key what = objects (.obj fields) key what := by
  rw [objects, getKey_cons_of_ne _ h, objects]

theorem interfaceObservationFromJson_toJson (interface : InterfaceObservation) :
    interfaceObservationFromJson (interfaceObservationToJson interface) = .ok interface := by
  have haddresses : strList (interfaceObservationToJson interface) "addresses" "interface" =
      .ok interface.addresses := by
    rw [interfaceObservationToJson, strList, getKey_cons_of_ne _ (by decide),
      getKey_cons_of_ne _ (by decide)]
    exact strList_cons_self interface.addresses
  simp (disch := decide) only [interfaceObservationFromJson, haddresses, ok_bind]
  simp (disch := decide) only [interfaceObservationToJson, str, enum, getKey_cons_self,
    getKey_cons_of_ne, enumMember_value, ok_bind, InterfaceObservation.new_self, construct_ok]

theorem neighborFromJson_toJson (neighbor : BgpNeighborObservation) :
    neighborFromJson (neighborToJson neighbor) = .ok neighbor := by
  simp (disch := decide) only [neighborFromJson, neighborToJson, str, enum, getKey_cons_self,
    getKey_cons_of_ne, enumMember_value, optInt_cons_self, optInt_cons_of_ne, optStr_cons_self,
    optStr_cons_of_ne, ok_bind, BgpNeighborObservation.new_self, construct_ok]

theorem bgpFromJson_toJson (bgp : Option BgpObservation) :
    bgpFromJson (.ofOption bgpToJson bgp) = .ok bgp := by
  cases bgp with
  | none => rfl
  | some bgp =>
      have hobjects : MakesObjects neighborToJson := fun _ => ⟨_, rfl⟩
      have hneighbors : (bgp.neighbors.map neighborToJson).mapM neighborFromJson = .ok _ :=
        mapM_map_encode fun neighbor _ => neighborFromJson_toJson neighbor
      simp (disch := decide) only [Json.ofOption, bgpFromJson, bgpToJson, requireDict_obj, int, str,
        getKey_cons_self, getKey_cons_of_ne, objects_cons_self hobjects, objects_cons_of_ne,
        hneighbors, ok_bind, BgpObservation.new_self, construct_ok]
      rfl

theorem nextHopFromJson_toJson (hop : NextHop) :
    nextHopFromJson (nextHopToJson hop) = .ok hop := by
  simp (disch := decide) only [nextHopFromJson, nextHopToJson, optStr_cons_self, optStr_cons_of_ne,
    ok_bind, NextHop.new_self, construct_ok]

theorem routeFromJson_toJson (route : RouteObservation) :
    routeFromJson (routeToJson route) = .ok route := by
  have hobjects : MakesObjects nextHopToJson := fun _ => ⟨_, rfl⟩
  have hhops : (route.nextHops.map nextHopToJson).mapM nextHopFromJson = .ok _ :=
    mapM_map_encode fun hop _ => nextHopFromJson_toJson hop
  simp (disch := decide) only [routeFromJson, routeToJson, str, getKey_cons_self, getKey_cons_of_ne,
    objects_cons_self hobjects, objects_cons_of_ne, hhops, ok_bind, RouteObservation.new_self,
    construct_ok]

theorem probeFromJson_toJson (probe : ReachabilityObservation) :
    probeFromJson (probeToJson probe) = .ok probe := by
  simp (disch := decide) only [probeFromJson, probeToJson, str, int, getKey_cons_self,
    getKey_cons_of_ne, ok_bind, ReachabilityObservation.new_self, construct_ok]

theorem unavailableFromJson_toJson (item : UnavailableObservation) :
    unavailableFromJson (unavailableToJson item) = .ok item := by
  simp (disch := decide) only [unavailableFromJson, unavailableToJson, str, enum, getKey_cons_self,
    getKey_cons_of_ne, enumMember_value, ok_bind, UnavailableObservation.new_self, construct_ok]

theorem sourceFromJson_toJson (source : CollectionSource) :
    sourceFromJson (sourceToJson source) = .ok source := by
  simp (disch := decide) only [sourceFromJson, sourceToJson, requireDict_obj, str, getKey_cons_self,
    getKey_cons_of_ne, ok_bind, CollectionSource.new_self, construct_ok]

theorem nodeFromJson_toJson {node : NormalizedOperationalState}
    (h : node.collectedAt ≤ maxTimestamp) : nodeFromJson (nodeToJson node) = .ok node := by
  have hinterfaces : (node.interfaces.map interfaceObservationToJson).mapM
      interfaceObservationFromJson = .ok _ :=
    mapM_map_encode fun interface _ => interfaceObservationFromJson_toJson interface
  have hroutes : (node.routes.map routeToJson).mapM routeFromJson = .ok _ :=
    mapM_map_encode fun route _ => routeFromJson_toJson route
  have hprobes : (node.reachability.map probeToJson).mapM probeFromJson = .ok _ :=
    mapM_map_encode fun probe _ => probeFromJson_toJson probe
  have hunavailable : (node.unavailable.map unavailableToJson).mapM unavailableFromJson = .ok _ :=
    mapM_map_encode fun item _ => unavailableFromJson_toJson item
  have hobjects : MakesObjects interfaceObservationToJson ∧ MakesObjects routeToJson ∧
      MakesObjects probeToJson ∧ MakesObjects unavailableToJson :=
    ⟨fun _ => ⟨_, rfl⟩, fun _ => ⟨_, rfl⟩, fun _ => ⟨_, rfl⟩, fun _ => ⟨_, rfl⟩⟩
  simp (disch := decide) only [nodeFromJson, nodeToJson, str, enum, timestamp, getKey_cons_self,
    getKey_cons_of_ne, enumMember_value, utcDatetimeFromJson_isoformat h, sourceFromJson_toJson,
    bgpFromJson_toJson, objects_cons_self hobjects.1, objects_cons_self hobjects.2.1,
    objects_cons_self hobjects.2.2.1, objects_cons_self hobjects.2.2.2, objects_cons_of_ne,
    hinterfaces, hroutes, hprobes, hunavailable, ok_bind, NormalizedOperationalState.new_self,
    construct_ok]

/-- **A fabric is read back as it was stored.** -/
theorem fabricFromJson_fabricToJson {fabric : FabricOperationalState}
    (h : fabric.collectedAt ≤ maxTimestamp) :
    fabricFromJson (.int operationalStateSchemaVersion) (fabricToJson fabric) = .ok fabric := by
  have hobjects : MakesObjects nodeToJson := fun _ => ⟨_, rfl⟩
  have hnodes : (fabric.nodes.map nodeToJson).mapM nodeFromJson = .ok fabric.nodes := by
    refine mapM_map_encode fun node hnode => nodeFromJson_toJson ?_
    rwa [fabric.nodes_collectedAt node hnode]
  simp (disch := decide) only [fabricFromJson, fabricToJson, ne_eq, not_true_eq_false, if_false,
    requireDict_obj, str, timestamp, getKey_cons_self, getKey_cons_of_ne,
    utcDatetimeFromJson_isoformat h, objects_cons_self hobjects, objects_cons_of_ne, hnodes, ok_bind,
    FabricOperationalState.new_self, construct_ok]

end RoundTrip

/-! ### What is raised -/

/-- What `_construct` turns into a `SerializationError`, itself included. -/
def IsRefused : Error → Prop
  | .serialization _ _ | .valueError _ _ | .typeError _ => True
  | _ => False

theorem IsSerializationError.refused {e : Error} (h : IsSerializationError e) : IsRefused e := by
  cases e with
  | serialization message values => trivial
  | _ => exact h.elim

theorem IsValueError.refused {e : Error} (h : IsValueError e) : IsRefused e := by
  cases e with
  | valueError message values => trivial
  | _ => exact h.elim

section Raises

variable {data raw value : Json} {key what : String}

theorem construct_raises {α : Type} {build : Except Error α} (h : RaisesOnly IsRefused build) :
    RaisesOnly IsSerializationError (construct what build) := by
  refine h.translate fun e he => ?_
  cases e with
  | serialization message values => trivial
  | valueError message values => trivial
  | typeError message => trivial
  | _ => exact he.elim

theorem serialization_refused {α : Type} {x : Except Error α}
    (h : RaisesOnly IsSerializationError x) : RaisesOnly IsRefused x := h.mono fun _ => IsSerializationError.refused

theorem new_refused {α : Type} {x : Except Error α} (h : RaisesOnly IsValueError x) :
    RaisesOnly IsRefused x := h.mono fun _ => IsValueError.refused

theorem getKey_refused : RaisesOnly IsRefused (getKey data key what) := by
  cases data with
  | obj fields =>
      rw [getKey]
      cases fields.lookup key with
      | none => exact raisesOnly_error trivial
      | some value => exact raisesOnly_ok _
  | _ => exact raisesOnly_error trivial

theorem str_refused : RaisesOnly IsRefused (str data key what) := by
  refine getKey_refused.bind fun value => ?_
  cases value with
  | str s => exact raisesOnly_ok _
  | _ => exact raisesOnly_error trivial

theorem optStr_refused : RaisesOnly IsRefused (optStr data key what) := by
  refine getKey_refused.bind fun value => ?_
  cases value with
  | null => exact raisesOnly_ok _
  | str s => exact raisesOnly_ok _
  | _ => exact raisesOnly_error trivial

theorem int_refused : RaisesOnly IsRefused (int data key what) := by
  refine getKey_refused.bind fun value => ?_
  cases value with
  | int n => exact raisesOnly_ok _
  | _ => exact raisesOnly_error trivial

theorem optInt_refused : RaisesOnly IsRefused (optInt data key what) := by
  refine getKey_refused.bind fun value => ?_
  cases value with
  | null => exact raisesOnly_ok _
  | int n => exact raisesOnly_ok _
  | _ => exact raisesOnly_error trivial

theorem strList_refused : RaisesOnly IsRefused (strList data key what) := by
  refine getKey_refused.bind fun value => ?_
  refine (serialization_refused requireList_raises).bind fun items => ?_
  refine RaisesOnly.mapM fun item _ => ?_
  cases item with
  | str s => exact raisesOnly_ok _
  | _ => exact raisesOnly_error trivial

theorem objects_refused : RaisesOnly IsRefused (objects data key what) := by
  refine getKey_refused.bind fun value => ?_
  refine (serialization_refused requireList_raises).bind fun items => ?_
  exact RaisesOnly.mapM fun item _ => serialization_refused requireDict_raises

theorem timestamp_refused : RaisesOnly IsRefused (timestamp data key what) :=
  getKey_refused.bind fun _ => serialization_refused utcDatetimeFromJson_raises

theorem enum_refused (α : Type) [StrEnum α] : RaisesOnly IsRefused (enum α data key what) :=
  getKey_refused.bind fun _ => serialization_refused (enumMember_raises α)

/-- The objects of an array, each decoded. -/
theorem mapM_refused {α : Type} {decode : Json → Except Error α} {items : List Json}
    (h : ∀ item, RaisesOnly IsSerializationError (decode item)) :
    RaisesOnly IsRefused (items.mapM decode) :=
  RaisesOnly.mapM fun item _ => serialization_refused (h item)

theorem interfaceObservationFromJson_raises (data : Json) :
    RaisesOnly IsSerializationError (interfaceObservationFromJson data) := by
  refine construct_raises (str_refused.bind fun _ => (enum_refused _).bind fun _ => ?_)
  exact strList_refused.bind fun _ => new_refused InterfaceObservation.new_raises

theorem neighborFromJson_raises (data : Json) :
    RaisesOnly IsSerializationError (neighborFromJson data) := by
  refine construct_raises (str_refused.bind fun _ => optInt_refused.bind fun _ => ?_)
  refine (enum_refused _).bind fun _ => optStr_refused.bind fun _ => optInt_refused.bind fun _ => ?_
  exact optInt_refused.bind fun _ => new_refused BgpNeighborObservation.new_raises

theorem bgpFromJson_raises (raw : Json) : RaisesOnly IsSerializationError (bgpFromJson raw) := by
  have hbgp : ∀ data, RaisesOnly IsRefused (do
      let localAs ← int data "local_as" "bgp"
      let routerId ← str data "router_id" "bgp"
      let neighbors ← objects data "neighbors" "bgp"
      let neighbors ← neighbors.mapM neighborFromJson
      BgpObservation.new localAs routerId neighbors) := by
    intro data
    refine int_refused.bind fun _ => str_refused.bind fun _ => objects_refused.bind fun _ => ?_
    exact (mapM_refused neighborFromJson_raises).bind fun _ => new_refused BgpObservation.new_raises
  cases raw with
  | null => exact raisesOnly_ok _
  | _ => exact requireDict_raises.bind fun data => (construct_raises (hbgp data)).map _

theorem nextHopFromJson_raises (data : Json) :
    RaisesOnly IsSerializationError (nextHopFromJson data) := by
  refine construct_raises (optStr_refused.bind fun _ => optStr_refused.bind fun _ => ?_)
  exact new_refused NextHop.new_raises

theorem routeFromJson_raises (data : Json) :
    RaisesOnly IsSerializationError (routeFromJson data) := by
  refine construct_raises (str_refused.bind fun _ => str_refused.bind fun _ => ?_)
  refine objects_refused.bind fun _ => (mapM_refused nextHopFromJson_raises).bind fun _ => ?_
  exact new_refused RouteObservation.new_raises

theorem probeFromJson_raises (data : Json) :
    RaisesOnly IsSerializationError (probeFromJson data) := by
  refine construct_raises (str_refused.bind fun _ => str_refused.bind fun _ => ?_)
  refine int_refused.bind fun _ => int_refused.bind fun _ => ?_
  exact new_refused ReachabilityObservation.new_raises

theorem unavailableFromJson_raises (data : Json) :
    RaisesOnly IsSerializationError (unavailableFromJson data) := by
  refine construct_raises ((enum_refused _).bind fun _ => str_refused.bind fun _ => ?_)
  exact new_refused UnavailableObservation.new_raises

theorem sourceFromJson_raises (raw : Json) :
    RaisesOnly IsSerializationError (sourceFromJson raw) := by
  refine requireDict_raises.bind fun data => construct_raises (str_refused.bind fun _ => ?_)
  refine str_refused.bind fun _ => str_refused.bind fun _ => ?_
  exact new_refused CollectionSource.new_raises

theorem nodeFromJson_raises (data : Json) :
    RaisesOnly IsSerializationError (nodeFromJson data) := by
  refine construct_raises (str_refused.bind fun _ => (enum_refused _).bind fun _ => ?_)
  refine timestamp_refused.bind fun _ => getKey_refused.bind fun raw => ?_
  refine (serialization_refused (sourceFromJson_raises raw)).bind fun _ => ?_
  refine objects_refused.bind fun _ => ?_
  refine (mapM_refused interfaceObservationFromJson_raises).bind fun _ => ?_
  refine getKey_refused.bind fun raw => ?_
  refine (serialization_refused (bgpFromJson_raises raw)).bind fun _ => ?_
  refine objects_refused.bind fun _ => (mapM_refused routeFromJson_raises).bind fun _ => ?_
  refine objects_refused.bind fun _ => (mapM_refused probeFromJson_raises).bind fun _ => ?_
  refine objects_refused.bind fun _ => (mapM_refused unavailableFromJson_raises).bind fun _ => ?_
  exact new_refused NormalizedOperationalState.new_raises

/-- **Reading a fabric raises nothing but `SerializationError`.** -/
theorem fabricFromJson_raises (schemaVersion document : Json) :
    RaisesOnly IsSerializationError (fabricFromJson schemaVersion document) := by
  cases schemaVersion with
  | int version =>
      rw [fabricFromJson]
      split_ifs with hversion
      · exact raisesOnly_error trivial
      refine requireDict_raises.bind fun data => construct_raises (str_refused.bind fun _ => ?_)
      refine timestamp_refused.bind fun _ => objects_refused.bind fun _ => ?_
      refine (mapM_refused nodeFromJson_raises).bind fun _ => ?_
      exact new_refused FabricOperationalState.new_raises
  | _ => exact raisesOnly_error trivial

end Raises

/-- Raising nothing but `SerializationError` is keeping the contract, where what is
returned is a domain value. -/
theorem keepsContract_of_raisesOnly {α : Type} {result : Except Error α}
    (h : RaisesOnly IsSerializationError result) : KeepsContract id result := by
  cases result with
  | ok a => exact .inl ⟨a, rfl⟩
  | error e => exact .inr ((isSerializationError_iff.1 (h e rfl)).imp fun _ hm =>
      hm.imp fun _ hv => congrArg Except.error hv)

/-- **The fabric codec.**  A fabric is read back as it was stored; and whatever the
schema version and the document, its decoder returns a fabric, which carries its
invariants, or raises `SerializationError`. -/
theorem fabric_codec :
    (∀ fabric : FabricOperationalState, fabric.collectedAt ≤ maxTimestamp →
      fabricFromJson (.int 1) (fabricToJson fabric) = .ok fabric) ∧
    ∀ schemaVersion document : Json, KeepsContract id (fabricFromJson schemaVersion document) :=
  ⟨fun _ h => fabricFromJson_fabricToJson h,
    fun schemaVersion document =>
      keepsContract_of_raisesOnly (fabricFromJson_raises schemaVersion document)⟩

end MetaRne
