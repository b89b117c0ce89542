/-
# The topology contract

`lab_validate.py`: `validate_topology` and `_validate_links`, the offline check of the
lab's topology file.  A failure is its message's format and the values put into it.

A file passes only if the reader accepts it, so what the check can miss is what the
reader loses (`validateTopology_losesNothing_iff`): a repeated key overwrites the first
one, and lines half a step in under a `- key:` item are not read at all.
-/

import MetaRne.Lab.TopologyReading
import Mathlib.Data.List.Lex
import Mathlib.Data.List.Sort
import Mathlib.Data.List.Dedup
import Mathlib.Data.String.Basic

namespace MetaRne
namespace Lab

open Library.Effect Python

def labName : String := "meta-rne-bgp"
def routerImage : String := "quay.io/frrouting/frr:10.6.1"
def hostImage : String := "alpine:3.24.2"
def hostCmd : String := "tail -f /dev/null"

/-- `EXPECTED_MGMT`. -/
def expectedMgmt : List (String × String) :=
  [("network", "meta-rne-bgp-mgmt"), ("ipv4-subnet", "172.31.250.0/24"),
    ("ipv6-subnet", "3fff:172:31:250::/64")]

def labRouters : List String := ["spine-1", "spine-2", "leaf-1", "leaf-2"]
def labHosts : List String := ["host-1", "host-2"]

/-- `frozenset(endpoints)`: without order and repetition. -/
def linkOf (endpoints : List String) : List String := endpoints.dedup.insertionSort (· ≤ ·)

/-- `EXPECTED_LINKS`. -/
def expectedLinks : List (List String) :=
  [["leaf-1:eth1", "spine-1:eth1"], ["leaf-1:eth2", "spine-2:eth1"],
    ["leaf-2:eth1", "spine-1:eth2"], ["leaf-2:eth2", "spine-2:eth2"],
    ["host-1:eth1", "leaf-1:eth3"], ["host-2:eth1", "leaf-2:eth3"]].map linkOf

/-- `EXPECTED_HOST_EXEC`. -/
def expectedHostExec (host : String) : List String :=
  if host = "host-1" then ["ip link set eth1 up", "ip addr add 10.1.1.10/24 dev eth1",
    "ip route replace default via 10.1.1.1 dev eth1"]
  else ["ip link set eth1 up", "ip addr add 10.1.2.10/24 dev eth1",
    "ip route replace default via 10.1.2.1 dev eth1"]

/-- A failure of the contract. -/
structure LabFailure where
  message : String
  values : List TopologyValue

/-! ### Values -/

/-- A text as a value. -/
def textValue (text : String) : TopologyValue := .str text.toList

/-- A list of texts as a value. -/
def textsValue (texts : List String) : TopologyValue := .list (texts.map textValue)

/-- `entries.get(key)`. -/
def valueAt (entries : Entries) (key : String) : TopologyValue :=
  (entries.lookup key).getD .none

/-- `_as_dict`. -/
def asDict : TopologyValue → Entries
  | .dict entries => entries
  | _ => []

/-- `_as_list`. -/
def asList : TopologyValue → List TopologyValue
  | .list items => items
  | _ => []

/-- `value if isinstance(value, str)`. -/
def asText : TopologyValue → Option String
  | .str text => some (String.ofList text)
  | _ => none

/-- The texts of a list, `none` where an item is no text. -/
def asTexts (items : List TopologyValue) : Option (List String) := items.mapM asText

/-! ### The checks -/

/-- A value that must be a text. -/
def checkText (message : String) (names : List String) (expected : String)
    (value : TopologyValue) : List LabFailure :=
  if asText value = some expected then []
  else [⟨message, names.map textValue ++ [textValue expected, value]⟩]

/-- A value that must be a list of texts. -/
def checkTexts (message : String) (name : String) (expected : List String)
    (value : TopologyValue) : List LabFailure :=
  if asTexts (asList value) = some expected then []
  else [⟨message, [textValue name, textsValue expected, value]⟩]

/-- The checks of a router's node, unless it is missing or empty. -/
def checkRouter (nodes : Entries) (name : String) : List LabFailure :=
  let node := asDict (valueAt nodes name)
  if node.isEmpty then []
  else
    checkText "topology: %s kind must be %r, got %r" [name] "linux" (valueAt node "kind") ++
      checkText "topology: %s image must be %r, got %r" [name] routerImage
        (valueAt node "image") ++
      checkTexts "topology: %s binds must be %s, got %r" name
        ["frr/" ++ name ++ "/daemons:/etc/frr/daemons:ro",
          "frr/" ++ name ++ "/frr.conf:/etc/frr/frr.conf:ro"] (valueAt node "binds")

/-- The checks of a host's node, unless it is missing or empty. -/
def checkHost (nodes : Entries) (name : String) : List LabFailure :=
  let node := asDict (valueAt nodes name)
  if node.isEmpty then []
  else
    checkText "topology: %s kind must be %r, got %r" [name] "linux" (valueAt node "kind") ++
      checkText "topology: %s image must be %r, got %r" [name] hostImage (valueAt node "image") ++
      checkText "topology: %s cmd must be %r, got %r" [name] hostCmd (valueAt node "cmd") ++
      checkTexts "topology: %s exec must be %s, got %r" name (expectedHostExec name)
        (valueAt node "exec")

/-- The endpoints of a link, `none` where it is malformed. -/
def linkEndpoints (link : TopologyValue) : Option (List String) := do
  let endpoints ← asTexts (asList (valueAt (asDict link) "endpoints"))
  if endpoints.length = 2 then some (linkOf endpoints) else none

/-- `' <-> '.join(sorted(link))`. -/
def linkText (link : List String) : TopologyValue := textValue (" <-> ".intercalate link)

/-- `_validate_links`. -/
def validateLinks (links : List TopologyValue) : List LabFailure :=
  let seen := links.filterMap linkEndpoints
  (links.filter fun link => (linkEndpoints link).isNone).map
      (fun link => ⟨"topology: malformed link %r", [link]⟩) ++
    (if seen.Nodup then [] else [⟨"topology: duplicate dataplane link present", []⟩]) ++
    ((expectedLinks.filter (· ∉ seen)).insertionSort (· ≤ ·)).map
      (fun link => ⟨"topology: required link %s is missing", [linkText link]⟩) ++
    ((seen.dedup.filter (· ∉ expectedLinks)).insertionSort (· ≤ ·)).map
      (fun link => ⟨"topology: unexpected dataplane link %s", [linkText link]⟩) ++
    if seen.length = expectedLinks.length then []
    else [⟨"topology: expected %s links, found %s",
      [textValue (toString expectedLinks.length), textValue (toString seen.length)]⟩]

/-- `validate_topology`, of a file that the reader accepted. -/
def validateEntries (topo : Entries) : List LabFailure :=
  let mgmt := asDict (valueAt topo "mgmt")
  let topology := asDict (valueAt topo "topology")
  let nodes := asDict (valueAt topology "nodes")
  let names := nodes.map Prod.fst
  checkText "topology: name must be %r, got %r" [] labName (valueAt topo "name") ++
    expectedMgmt.flatMap (fun expected =>
      checkText "topology: mgmt %s must be %r, got %r" [expected.1] expected.2
        (valueAt mgmt expected.1)) ++
    (((labRouters ++ labHosts).filter (· ∉ names)).insertionSort (· ≤ ·)).map
      (fun missing => ⟨"topology: required node %r is missing", [textValue missing]⟩) ++
    ((names.filter (· ∉ labRouters ++ labHosts)).insertionSort (· ≤ ·)).map
      (fun extra => ⟨"topology: unexpected node %r", [textValue extra]⟩) ++
    labRouters.flatMap (checkRouter nodes) ++ labHosts.flatMap (checkHost nodes) ++
    validateLinks (asList (valueAt topology "links"))

/-- `validate_topology`. -/
def validateTopology (text : List Char) : Except ReaderError (List LabFailure) :=
  match parseTopology text with
  | .ok topo => .ok (validateEntries topo)
  | .error (.topologyParseError message values) =>
    .ok [⟨"topology: cannot parse (" ++ message ++ ")", values.map .str⟩]
  | .error e => .error e

/-! ### What the reader loses -/

/-- **The reader loses nothing of a text**: it rejects the text, raising nothing else, or
reads it whole; so a text that passes the check was read whole. -/
def LosesNothing (text : List Char) : Prop :=
  (∀ e, parseTopology text = .error e → IsRejection e) ∧
    (∀ entries, parseTopology text = .ok entries → ReadsWhole text entries) ∧
    (validateTopology text = .ok [] →
      ∃ entries, parseTopology text = .ok entries ∧ ReadsWhole text entries)

/-- A text that passes was accepted by the reader. -/
theorem exists_parseTopology_of_validateTopology {text : List Char}
    (h : validateTopology text = .ok []) : ∃ entries, parseTopology text = .ok entries := by
  unfold validateTopology at h
  cases hparse : parseTopology text with
  | ok entries => exact ⟨entries, rfl⟩
  | error e =>
      obtain ⟨message, values, rfl⟩ := parseTopology_error hparse
      rw [hparse] at h
      exact absurd (Except.ok.inj h) (List.cons_ne_nil _ _)

/-- **The reader loses nothing of a text exactly if it rejects it or the lines are tidy**: no
mapping has a key twice, and under a `- key:` item no line stands one column right of the
dash. -/
theorem validateTopology_losesNothing_iff (text : List Char) :
    LosesNothing text ↔
      ∀ entries, parseTopology text = .ok entries → Tidy [] (topologyLines text) := by
  obtain ⟨herror, hwhole⟩ := parseTopology_readsWhole_iff text
  constructor
  · rintro ⟨-, hreads, -⟩ entries hentries
    exact (hwhole entries hentries).1 (hreads entries hentries)
  · intro htidy
    have hreads : ∀ entries, parseTopology text = .ok entries → ReadsWhole text entries :=
      fun entries hentries => (hwhole entries hentries).2 (htidy entries hentries)
    refine ⟨herror, hreads, fun hvalid => ?_⟩
    obtain ⟨entries, hentries⟩ := exists_parseTopology_of_validateTopology hvalid
    exact ⟨entries, hentries, hreads entries hentries⟩

/-- A key twice in a mapping. -/
def repeatedKeyText : List Char := "name: a\nname: b".toList

/-- A line half a step in, under an item that opens a mapping. -/
def halfStepText : List Char := "links:\n  - a: b\n   c: d".toList

/-- Of a text that is accepted with lines that are not tidy, something is lost. -/
theorem not_losesNothing {text : List Char} (haccepted : (parseTopology text).isOk = true)
    (htidy : ¬ Tidy [] (topologyLines text)) : ¬ LosesNothing text := by
  rintro ⟨-, hreads, -⟩
  cases hparse : parseTopology text with
  | ok entries =>
      obtain ⟨n, hlaid⟩ := hreads entries hparse
      exact htidy (hlaid.tidy List.not_mem_nil)
  | error e =>
      rw [hparse] at haccepted
      cases haccepted

theorem not_losesNothing_repeatedKey :
    ¬ LosesNothing repeatedKeyText ∧ ¬ LosesNothing halfStepText :=
  ⟨not_losesNothing (by decide +kernel) (by decide +kernel),
    not_losesNothing (by decide +kernel) (by decide +kernel)⟩

end Lab
end MetaRne
