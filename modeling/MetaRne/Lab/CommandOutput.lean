/-
# What the lab's commands print

`lab_failure_scenario.py`: the helpers that read the output of a command.  A `frozenset`
is its members in order; a text that is looked for may be in the output of `vtysh`
anywhere among its warnings.

`json.loads`, `str` of a JSON value and the class `\w` are taken as they are
(`StandardLibrary`): nothing that is proved of the scenario depends on them.
-/

import MetaRne.Library.Dict
import MetaRne.Library.Regex
import MetaRne.Python.Integers
import MetaRne.Python.Lines
import Mathlib.Data.List.Dedup
import Mathlib.Data.List.Sort

namespace MetaRne
namespace Lab

open Library Library.Regex Library.Regex.Matcher Python

/-- What `json.loads` does: a value, a `JSONDecodeError`, or another exception. -/
inductive Loaded
  | value (data : Json)
  | decodeError
  | raised (repr : String)

/-- The parts of the standard library that the helpers call. -/
structure StandardLibrary where
  loads : List Char → Loaded
  /-- `str` of a value that is no `str`. -/
  str : Json → String
  /-- The class `\w`. -/
  isWord : Char → Bool

/-- An exception that is no `ScenarioError`. -/
inductive Unexpected
  /-- Of the command runner, of the monitor's start, or of `json.loads`: its `repr`. -/
  | raised (repr : String)
  /-- Of the helpers. -/
  | error (error : Error)

/-! ### `ip route show` -/

/-- `\d{1,3}`. -/
def octetPattern : Matcher String := between 1 3 isDecimal

/-- `\.\d{1,3}`. -/
def dottedOctetPattern : Matcher String := do
  let dot ← literal "."
  let octet ← octetPattern
  return dot ++ octet

/-- `\d{1,3}(?:\.\d{1,3}){3}`. -/
def addressPattern : Matcher String := do
  let first ← octetPattern
  let second ← dottedOctetPattern
  let third ← dottedOctetPattern
  let fourth ← dottedOctetPattern
  return first ++ second ++ third ++ fourth

/-- `_NEXT_HOP_RE` behind a character: `via` starts with a word character, so that `\b`
holds in front of it unless another one stands there. -/
def nextHopPattern (isWord : Char → Bool) (before : Option Char) : Matcher String :=
  if before.any isWord then fail
  else do
    let _ ← literal "via "
    let ip ← addressPattern
    let _ ← literal " dev "
    let dev ← plus fun c => !isSpace c
    return ip ++ " via " ++ dev

/-- `frozenset(items)`, which compares as its members do, each once and in order. -/
def frozenset (items : List String) : List String := items.dedup.insertionSort (· ≤ ·)

/-- `parse_next_hops`. -/
def parseNextHops (lib : StandardLibrary) (output : List Char) : List String :=
  frozenset (findAll (nextHopPattern lib.isWord) output)

/-! ### `show bgp summary json` -/

/-- `value.get(key, {})`. -/
def getObject (key : String) : Json → Except Unexpected Json
  | .obj fields => .ok ((fields.lookup key).getD (.obj []))
  | value => .error (.error (.attributeError
      ("'" ++ value.typeName ++ "' object has no attribute 'get'")))

/-- `value.items()`. -/
def objectItems : Json → Except Unexpected (List (String × Json))
  | .obj fields => .ok fields
  | value => .error (.error (.attributeError
      ("'" ++ value.typeName ++ "' object has no attribute 'items'")))

/-- `str(value)`. -/
def strOf (lib : StandardLibrary) : Json → String
  | .str text => text
  | value => lib.str value

/-- The state of a peer, `none` where its entry is no object. -/
def peerState (lib : StandardLibrary) (peer : String × Json) : Option (String × String) :=
  match peer.2 with
  | .obj info => some (peer.1, strOf lib ((info.lookup "state").getD (.str "Unknown")))
  | _ => none

/-- `output[start : end + 1]` from the first `{` to the last `}`, empty where there is none. -/
def outerBraces (output : List Char) : List Char :=
  ((output.dropWhile (· ≠ '{')).reverse.dropWhile (· ≠ '}')).reverse

/-- The peers of a summary that was loaded. -/
def summaryPeers : Json → Except Unexpected (List (String × Json))
  | .obj fields => do
    let unicast ← getObject "ipv4Unicast" (.obj fields)
    let peers ← getObject "peers" unicast
    objectItems peers
  | _ => .ok []

/-- `parse_bgp_peer_states`. -/
def parseBgpPeerStates (lib : StandardLibrary) (output : List Char) :
    Except Unexpected (List (String × String)) :=
  if (outerBraces output).isEmpty then .ok []
  else
    match lib.loads (outerBraces output) with
    | .decodeError => .ok []
    | .raised repr => .error (.raised repr)
    | .value data => do
      let peers ← summaryPeers data
      return peers.filterMap (peerState lib)

/-! ### `ping`, `systemctl show` -/

/-- `_PING_RE`. -/
def pingPattern : Matcher (String × String) := do
  let sent ← plus isDecimal
  let _ ← literal " packets transmitted, "
  let received ← plus isDecimal
  let _ ← literal " packets received"
  return (sent, received)

/-- `int(group)` of what a pattern captured. -/
def intOf (digits : String) : Except Unexpected ℤ :=
  match pyInt digits.toList with
  | .ok n => .ok n
  | .error e => .error (.error e)

/-- `parse_ping`. -/
def parsePing (output : List Char) : Except Unexpected (Option (ℤ × ℤ)) :=
  match search pingPattern output with
  | none => .ok none
  | some (sent, received) => do
    let sent ← intOf sent
    let received ← intOf received
    return some (sent, received)

/-- `line.partition("=")` of a line that has a `=`. -/
def keyValue (line : List Char) : Option (List Char × List Char) :=
  match line.dropWhile (· ≠ '=') with
  | [] => none
  | _ :: value => some (strip (line.takeWhile (· ≠ '=')), strip value)

/-- `parse_key_values`: a later line overwrites an earlier one. -/
def parseKeyValues (output : List Char) : Dict (List Char) (List Char) :=
  ((splitlines output).filterMap keyValue).foldl (fun values entry => values.set entry.1 entry.2)
    Dict.empty

/-- Of a route over two gateways both are found, and `via` inside of a word is none. -/
example : parseNextHops ⟨fun _ => .decodeError, fun _ => "", Char.isAlphanum⟩
    "nexthop via 10.255.0.2 dev eth2\nxvia 1.1.1.1 dev e\nnexthop via 10.255.0.0 dev eth1".toList =
      ["10.255.0.0 via eth1", "10.255.0.2 via eth2"] := by
  decide +kernel

end Lab
end MetaRne
