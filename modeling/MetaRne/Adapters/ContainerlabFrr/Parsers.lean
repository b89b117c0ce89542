/-
# Command output

`adapters/containerlab_frr/parsers.py`: what the commands of a collection print, read as
observations.  A parser returns observations or raises `OutputParseError`.  Whatever
`ValueError` comes up on the way, of `json.loads`, of `int` or of the domain model, is turned
into one (`normalizingErrors`), and nothing else comes up (`parseBgpSummary_raises`, …).

`json.loads`, the class `\w` and the text of an exception are taken as they are (`Builtins`).
-/

import MetaRne.Domain.OperationalStateConstruction
import MetaRne.Library.Dict
import MetaRne.Library.Regex
import MetaRne.Python.Integers
import MetaRne.Python.Lines
import Mathlib.Data.List.Sort
import Mathlib.Data.Prod.Lex
import Mathlib.Data.String.Basic

namespace MetaRne
namespace ContainerlabFrr

open Library Library.Effect Library.Regex Library.Regex.Matcher Python

/-- The parts of Python that the parsers call. -/
structure Builtins where
  /-- `json.loads`: a value, or the text of the `ValueError` it raises. -/
  loads : List Char → Except String Json
  /-- The class `\w`. -/
  isWord : Char → Bool
  /-- The text of an exception, of its format string and the values put into it. -/
  format : String → List Value → String

/-- What the parsers and the collector raise. -/
inductive Raised
  /-- `OutputParseError`. -/
  | outputParse (message : String) (values : List Value)
  /-- `CommandNotAllowedError`. -/
  | commandNotAllowed (message : String) (values : List Value)
  /-- An exception of the domain model, or a `ValueError` of Python's own. -/
  | error (error : Error)

/-- An exception passed on as it is. -/
def passOn {α : Type} : Except Error α → Except Raised α
  | .ok a => .ok a
  | .error e => .error (.error e)

/-- What `_normalizing_errors` makes of an exception: a `ValueError` becomes an
`OutputParseError` that names the parser. -/
def normalized (parser : String) : Raised → Raised
  | .error (.valueError message values) => .outputParse (parser ++ ": " ++ message) values
  | raised => raised

/-- `_normalizing_errors`. -/
def normalizingErrors {α : Type} (parser : String) (x : Except Raised α) : Except Raised α :=
  translate (normalized parser) x

/-- `OutputParseError(...)`. -/
def unparseable {α : Type} (message : String) (values : List Value) : Except Raised α :=
  .error (.outputParse message values)

variable (lib : Builtins)

/-- `_load_json`, up to the test of the value's type. -/
def loadJson (text : List Char) : Except Raised Json :=
  if text.all isSpace then unparseable "empty output" []
  else
    match lib.loads text with
    | .ok data => .ok data
    | .error message => .error (.error (.valueError "%s" [message]))

/-- `_load_json(text, list)`. -/
def loadList (text : List Char) : Except Raised (List Json) := do
  match ← loadJson lib text with
  | .arr items => return items
  | data => unparseable "expected a JSON list, got %s" [data.typeName]

/-- `_load_json(text, dict)`. -/
def loadDict (text : List Char) : Except Raised (List (String × Json)) := do
  match ← loadJson lib text with
  | .obj fields => return fields
  | data => unparseable "expected a JSON dict, got %s" [data.typeName]

/-- `value.get(key)` of an object, nothing for any other value. -/
def field (key : String) : Json → Option Json
  | .obj fields => fields.lookup key
  | _ => none

/-- A string, if the value is one. -/
def strOf? : Option Json → Option String
  | some (.str s) => some s
  | _ => none

/-- An integer, if the value is one that `p` holds of: `_is_int`. -/
def intOf? (p : ℤ → Bool) : Option Json → Option ℤ
  | some (.int n) => if p n then some n else none
  | _ => none

/-! ### Interfaces -/

/-- `_OPER_STATE_BY_LINUX_NAME`. -/
def operStateByLinuxName : List (String × InterfaceOperState) :=
  [("UP", .up), ("DOWN", .down), ("LOWERLAYERDOWN", .down)]

/-- `value.upper()`, as far as those names go: of no character outside of ASCII the upper case
is one of their letters. -/
def upper (value : String) : String := String.ofList (value.toList.map Char.toUpper)

/-- `_oper_state`: Linux reports `UNKNOWN` for the loopback; that is not down. -/
def operState : Option Json → InterfaceOperState
  | some (.str value) => (operStateByLinuxName.lookup (upper value)).getD .unknown
  | _ => .unknown

/-- One entry of `addr_info`. -/
def addressOf (name : String) (address : Json) : Except Raised String :=
  match strOf? (field "local" address), intOf? (fun _ => true) (field "prefixlen" address) with
  | some ip, some len => .ok (ip ++ "/" ++ toString len)
  | _, _ => unparseable "interface %r: malformed addr_info entry" [name]

/-- The addresses of an entry; without `addr_info` there are none. -/
def addressesOf (name : String) : Option Json → Except Raised (List String)
  | none => .ok []
  | some (.arr addrInfo) => addrInfo.mapM (addressOf name)
  | some _ => unparseable "interface %r: addr_info is not a list" [name]

/-- The interface of an entry's fields. -/
def interfaceOf (fields : List (String × Json)) : Except Raised InterfaceObservation :=
  match strOf? (fields.lookup "ifname") with
  | some name =>
    if name = "" then unparseable "interface entry has no ifname" []
    else do
      let addresses ← addressesOf name (fields.lookup "addr_info")
      passOn (InterfaceObservation.new name (operState (fields.lookup "operstate")) addresses)
  | none => unparseable "interface entry has no ifname" []

/-- One entry of `ip -j addr`. -/
def interfaceEntry : Json → Except Raised InterfaceObservation
  | .obj fields => interfaceOf fields
  | _ => unparseable "interface entry is not an object" []

/-- `parse_ip_json_interfaces`. -/
def parseIpJsonInterfaces (text : List Char) : Except Raised (List InterfaceObservation) :=
  normalizingErrors "parse_ip_json_interfaces" do
    let entries ← loadList lib text
    entries.mapM interfaceEntry

/-- `_LINK_LINE`: the name of the interface. -/
def linkLine : Matcher String := do
  let _ ← plus isDecimal
  let _ ← literal ":"
  let _ ← plus isSpace
  let name ← plus fun c => !(isSpace c || c == ':' || c == '@')
  let _ ← optional do
    let _ ← literal "@"
    plus fun c => !isSpace c
  let _ ← literal ":"
  let _ ← plus isSpace
  let _ ← literal "<"
  let _ ← star (· != '>')
  let _ ← literal ">"
  return name

/-- `_LINK_STATE` behind a character: the word after `state`. -/
def linkState (before : Option Char) : Matcher String :=
  if before.any lib.isWord then fail
  else do
    let _ ← literal "state"
    let _ ← plus isSpace
    plus fun c => !isSpace c

/-- `_ADDR_LINE`: the name of the interface and an address of it. -/
def addrLine : Matcher (String × String) := do
  let _ ← plus isDecimal
  let _ ← literal ":"
  let _ ← plus isSpace
  let name ← plus fun c => !isSpace c
  let _ ← plus isSpace
  let _ ← literal "inet"
  let _ ← optional (literal "6")
  let _ ← plus isSpace
  let address ← plus fun c => !isSpace c
  return (name, address)

/-- The state a link line reports: what follows its first `state`. -/
def lineState (line : List Char) : InterfaceOperState :=
  operState (((findAll (linkState lib) line).head?).map Json.str)

/-- The lines of an output that are not blank. -/
def writtenLines (text : List Char) : List (List Char) :=
  (splitlines text).filter fun line => !line.all isSpace

/-- A line of `ip -o link show`. -/
def readLinkLine (states : Dict String InterfaceOperState) (line : List Char) :
    Except Raised (Dict String InterfaceOperState) :=
  match linkLine.match? line with
  | some name => .ok (states.set name (lineState lib line))
  | none => unparseable "unrecognized link line: %r" [String.ofList line]

/-- A line of `ip -o addr show`. -/
def readAddrLine (addresses : Dict String (List String)) (line : List Char) :
    Except Raised (Dict String (List String)) :=
  match addrLine.match? line with
  | some (name, address) =>
    match addresses.get? name with
    | some known => .ok (addresses.set name (known ++ [address]))
    | none => unparseable "address for unknown interface %r" [name]
  | none => unparseable "unrecognized address line: %r" [String.ofList line]

/-- Every interface of the link lines, without addresses so far. -/
def noAddresses (states : Dict String InterfaceOperState) : Dict String (List String) where
  entries := states.entries.map fun entry => (entry.1, [])
  nodup := by
    rw [List.map_map]
    exact states.nodup

/-- An interface of the link lines with the addresses found for it. -/
def onelineInterface (addresses : Dict String (List String))
    (entry : String × InterfaceOperState) : Except Raised InterfaceObservation :=
  passOn (InterfaceObservation.new entry.1 entry.2 ((addresses.get? entry.1).getD []))

/-- `parse_ip_oneline_interfaces`. -/
def parseIpOnelineInterfaces (linkText addrText : List Char) :
    Except Raised (List InterfaceObservation) :=
  normalizingErrors "parse_ip_oneline_interfaces" do
    let states ← (writtenLines linkText).foldlM (readLinkLine lib) .empty
    let _ ← raiseIf (states.entries = []) (.outputParse "no interfaces in ip -o link output" [])
    let addresses ← (writtenLines addrText).foldlM readAddrLine (noAddresses states)
    states.entries.mapM (onelineInterface addresses)

/-! ### BGP -/

/-- `_BGP_STATE_BY_NAME`. -/
def bgpStateByName : List (String × BgpSessionState) :=
  [.idle, .connect, .active, .openSent, .openConfirm, .established].map fun state =>
    (state.value, state)

/-- The state that a name stands for, if it is one that is known. -/
def bgpState (rawState : Option String) : BgpSessionState :=
  (rawState.bind fun raw => bgpStateByName.lookup raw).getD .unknown

/-- A count that is reported for an established session only. -/
def countOf (state : BgpSessionState) (value : Option Json) : Option ℤ :=
  if state = .established then intOf? (fun n => decide (0 ≤ n)) value else none

/-- `_neighbor`. -/
def neighbor (neighborIp : String) (peer : Json) : Except Raised BgpNeighborObservation :=
  let rawState := strOf? (field "state" peer)
  let state := bgpState rawState
  passOn (BgpNeighborObservation.new neighborIp
    (intOf? (fun n => decide (0 < n)) (field "remoteAs" peer)) state rawState
    (countOf state (field "pfxRcd" peer)) (countOf state (field "peerUptimeMsec" peer)))

/-- The value of an object, where it is one. -/
def dictOf? : Option Json → Option (List (String × Json))
  | some (.obj fields) => some fields
  | _ => none

/-- The observation of the `ipv4Unicast` section. -/
def bgpSection (section_ : List (String × Json)) : Except Raised BgpObservation :=
  match intOf? (fun _ => true) (section_.lookup "as"), strOf? (section_.lookup "routerId") with
  | some localAs, some routerId =>
    match dictOf? (section_.lookup "peers") with
    | some peers => do
      let neighbors ← peers.mapM fun peer => neighbor peer.1 peer.2
      passOn (BgpObservation.new localAs routerId neighbors)
    | none => unparseable "ipv4Unicast section has no peers object" []
  | _, _ => unparseable "ipv4Unicast section lacks a valid as/routerId" []

/-- `parse_bgp_summary`. -/
def parseBgpSummary (text : List Char) : Except Raised BgpObservation :=
  normalizingErrors "parse_bgp_summary" do
    let data ← loadDict lib text
    match dictOf? (data.lookup "ipv4Unicast") with
    | some section_ => bgpSection section_
    | none => unparseable "no ipv4Unicast section" []

/-! ### Routes -/

/-- `value is True`. -/
def isTrue : Option Json → Bool
  | some (.bool b) => b
  | _ => false

/-- `_next_hop`: nothing for a next hop that is not active. -/
def nextHop (raw : Json) : Except Raised (Option NextHop) :=
  match raw with
  | .obj fields =>
    if isTrue (fields.lookup "active") then
      some <$> passOn (NextHop.new (strOf? (fields.lookup "ip"))
        (strOf? (fields.lookup "interfaceName")))
    else .ok none
  | _ => unparseable "next-hop entry is not an object" []

/-- The order of next hops: `(hop.ip or "", hop.interface or "")`. -/
def hopKey (hop : NextHop) : String ×ₗ String := toLex (hop.ip.getD "", hop.interface.getD "")

/-- The route of an installed entry; nothing where no next hop is active. -/
def installedRoute (start protocol : String) (rawNextHops : List Json) :
    Except Raised (Option RouteObservation) := do
  let hops ← rawNextHops.mapM nextHop
  let active := (hops.filterMap id).insertionSort fun hop hop' => hopKey hop ≤ hopKey hop'
  if active = [] then return none
  else some <$> passOn (RouteObservation.new start protocol active)

/-- The route of an entry's fields; nothing where the entry is not installed. -/
def routeOf (start : String) (fields : List (String × Json)) :
    Except Raised (Option RouteObservation) :=
  match strOf? (fields.lookup "protocol") with
  | some protocol =>
    if protocol = "" then unparseable "route %r: entry has no protocol" [start]
    else if isTrue (fields.lookup "installed") then
      match fields.lookup "nexthops" with
      | some (.arr rawNextHops) => installedRoute start protocol rawNextHops
      | _ => unparseable "route %r: entry has no nexthops list" [start]
    else .ok none
  | none => unparseable "route %r: entry has no protocol" [start]

/-- One entry of a prefix. -/
def routeEntry (start : String) : Json → Except Raised (Option RouteObservation)
  | .obj fields => routeOf start fields
  | _ => unparseable "route %r: entry is not an object" [start]

/-- The routes of a prefix. -/
def prefixRoutes (entries : String × Json) : Except Raised (List RouteObservation) :=
  match entries.2 with
  | .arr items => do
    let routes ← items.mapM (routeEntry entries.1)
    return routes.filterMap id
  | _ => unparseable "route %r: entries is not a list" [entries.1]

/-- `parse_frr_routes`. -/
def parseFrrRoutes (text : List Char) : Except Raised (List RouteObservation) :=
  normalizingErrors "parse_frr_routes" do
    let prefixes ← loadDict lib text
    let routes ← prefixes.mapM prefixRoutes
    return routes.flatten

/-! ### Reachability -/

/-- `_PING_SUMMARY`. -/
def pingSummary : Matcher (String × String) := do
  let sent ← plus isDecimal
  let _ ← literal " packets transmitted, "
  let received ← plus isDecimal
  let _ ← literal " packets received"
  return (sent, received)

/-- `parse_ping_summary`: what was sent, what was received. -/
def parsePingSummary (text : List Char) : Except Raised (ℤ × ℤ) :=
  normalizingErrors "parse_ping_summary" do
    match search pingSummary text with
    | none => unparseable "no ping summary line" []
    | some (sent, received) => do
      let sent ← passOn (pyInt sent.toList)
      let received ← passOn (pyInt received.toList)
      let _ ← raiseIf (sent ≤ 0 ∨ sent < received)
        (.outputParse "implausible ping counts: %s sent, %s received" [.int sent, .int received])
      return (sent, received)

/-! ### What the parsers raise -/

/-- An `OutputParseError`. -/
def IsOutputParse : Raised → Prop
  | .outputParse _ _ => True
  | _ => False

/-- An exception that a parser's body raises: an `OutputParseError` or a `ValueError`. -/
def IsParserError : Raised → Prop
  | .outputParse _ _ => True
  | .commandNotAllowed _ _ => False
  | .error e => IsValueError e

section

variable {α : Type} {lib}

theorem unparseable_raises {message : String} {values : List Value} :
    RaisesOnly IsParserError (unparseable message values : Except Raised α) :=
  raisesOnly_error trivial

theorem passOn_raises {x : Except Error α} (h : RaisesOnly IsValueError x) :
    RaisesOnly IsParserError (passOn x) := by
  cases x with
  | ok a => exact raisesOnly_ok a
  | error e => exact raisesOnly_error (h e rfl)

/-- **The decorator leaves nothing but `OutputParseError`.** -/
theorem normalizingErrors_raises {parser : String} {x : Except Raised α}
    (h : RaisesOnly IsParserError x) : RaisesOnly IsOutputParse (normalizingErrors parser x) := by
  refine h.translate fun raised hraised => ?_
  cases raised with
  | outputParse message values => trivial
  | commandNotAllowed message values => exact hraised
  | error e =>
      cases e with
      | valueError message values => trivial
      | _ => exact hraised

theorem loadJson_raises {text : List Char} : RaisesOnly IsParserError (loadJson lib text) := by
  unfold loadJson
  split_ifs
  · exact unparseable_raises
  · cases lib.loads text with
    | ok data => exact raisesOnly_ok data
    | error message => exact raisesOnly_error trivial

theorem loadList_raises {text : List Char} : RaisesOnly IsParserError (loadList lib text) := by
  refine loadJson_raises.bind fun data => ?_
  cases data with
  | arr items => exact raisesOnly_pure items
  | _ => exact unparseable_raises

theorem loadDict_raises {text : List Char} : RaisesOnly IsParserError (loadDict lib text) := by
  refine loadJson_raises.bind fun data => ?_
  cases data with
  | obj fields => exact raisesOnly_pure fields
  | _ => exact unparseable_raises

theorem addressOf_raises {name : String} {address : Json} :
    RaisesOnly IsParserError (addressOf name address) := by
  unfold addressOf
  split
  · exact raisesOnly_ok _
  · exact unparseable_raises

theorem interfaceEntry_raises {entry : Json} : RaisesOnly IsParserError (interfaceEntry entry) := by
  have haddresses : ∀ name value, RaisesOnly IsParserError (addressesOf name value) := by
    intro name value
    unfold addressesOf
    split
    · exact raisesOnly_ok _
    · exact .mapM fun _ _ => addressOf_raises
    · exact unparseable_raises
  cases entry with
  | obj fields =>
      change RaisesOnly IsParserError (interfaceOf fields)
      unfold interfaceOf
      split
      · split_ifs
        · exact unparseable_raises
        · exact (haddresses _ _).bind fun _ => passOn_raises InterfaceObservation.new_raises
      · exact unparseable_raises
  | _ => exact unparseable_raises

theorem parseIpJsonInterfaces_raises {text : List Char} :
    RaisesOnly IsOutputParse (parseIpJsonInterfaces lib text) :=
  normalizingErrors_raises (loadList_raises.bind fun _ => .mapM fun _ _ => interfaceEntry_raises)

/-- A loop that reads lines raises what reading one raises. -/
theorem foldlM_raises {σ β : Type} {f : σ → β → Except Raised σ} {xs : List β} {s : σ}
    (h : ∀ s x, RaisesOnly IsParserError (f s x)) : RaisesOnly IsParserError (xs.foldlM f s) := by
  induction xs generalizing s with
  | nil => exact raisesOnly_pure s
  | cons x xs ih => exact (h s x).bind fun _ => ih

theorem parseIpOnelineInterfaces_raises {linkText addrText : List Char} :
    RaisesOnly IsOutputParse (parseIpOnelineInterfaces lib linkText addrText) := by
  refine normalizingErrors_raises ((foldlM_raises fun states line => ?_).bind fun states =>
    (raisesOnly_raiseIf trivial).bind fun _ => (foldlM_raises fun addresses line => ?_).bind
      fun addresses => .mapM fun entry _ => passOn_raises InterfaceObservation.new_raises)
  · unfold readLinkLine
    split
    · exact raisesOnly_ok _
    · exact unparseable_raises
  · unfold readAddrLine
    split
    · split
      · exact raisesOnly_ok _
      · exact unparseable_raises
    · exact unparseable_raises

theorem bgpSection_raises {section_ : List (String × Json)} :
    RaisesOnly IsParserError (bgpSection section_) := by
  unfold bgpSection
  split
  · split
    · exact RaisesOnly.bind (.mapM fun _ _ => passOn_raises BgpNeighborObservation.new_raises)
        fun _ => passOn_raises BgpObservation.new_raises
    · exact unparseable_raises
  · exact unparseable_raises

theorem parseBgpSummary_raises {text : List Char} :
    RaisesOnly IsOutputParse (parseBgpSummary lib text) := by
  refine normalizingErrors_raises (loadDict_raises.bind fun data => ?_)
  split
  · exact bgpSection_raises
  · exact unparseable_raises

theorem nextHop_raises {raw : Json} : RaisesOnly IsParserError (nextHop raw) := by
  cases raw with
  | obj fields =>
      change RaisesOnly IsParserError (if _ then _ else _)
      split_ifs
      · exact (passOn_raises NextHop.new_raises).map _
      · exact raisesOnly_ok _
  | _ => exact unparseable_raises

theorem routeEntry_raises {start : String} {entry : Json} :
    RaisesOnly IsParserError (routeEntry start entry) := by
  have hinstalled : ∀ protocol items,
      RaisesOnly IsParserError (installedRoute start protocol items) := by
    intro protocol items
    refine RaisesOnly.bind (.mapM fun _ _ => nextHop_raises) fun hops => ?_
    dsimp only
    split_ifs
    · exact raisesOnly_pure _
    · exact (passOn_raises RouteObservation.new_raises).map _
  cases entry with
  | obj fields =>
      change RaisesOnly IsParserError (routeOf start fields)
      unfold routeOf
      split
      · split_ifs
        · exact unparseable_raises
        · split
          · exact hinstalled _ _
          · exact unparseable_raises
        · exact raisesOnly_ok _
      · exact unparseable_raises
  | _ => exact unparseable_raises

theorem parseFrrRoutes_raises {text : List Char} :
    RaisesOnly IsOutputParse (parseFrrRoutes lib text) := by
  refine normalizingErrors_raises (loadDict_raises.bind fun prefixes =>
    RaisesOnly.bind (.mapM fun entries _ => ?_) fun _ => raisesOnly_pure _)
  unfold prefixRoutes
  split
  · exact RaisesOnly.bind (.mapM fun _ _ => routeEntry_raises) fun _ => raisesOnly_pure _
  · exact unparseable_raises

theorem pyInt_raises {text : List Char} : RaisesOnly IsValueError (pyInt text) := by
  unfold pyInt
  split
  · exact raisesOnly_error trivial
  · split_ifs
    · exact raisesOnly_error trivial
    · exact raisesOnly_ok _

theorem parsePingSummary_raises {text : List Char} :
    RaisesOnly IsOutputParse (parsePingSummary text) := by
  refine normalizingErrors_raises ?_
  split
  · exact unparseable_raises
  · exact (passOn_raises pyInt_raises).bind fun _ => (passOn_raises pyInt_raises).bind fun _ =>
      (raisesOnly_raiseIf trivial).bind fun _ => raisesOnly_pure _

end

end ContainerlabFrr
end MetaRne
