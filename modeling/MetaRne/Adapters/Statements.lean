/-
# The statements of a configuration text

The patterns that the vendor adapters recognise a line by, and what a stripped
line says under them: a `Declaration` at the top level, an `InterfaceCommand`,
an ACL entry or a BGP neighbour inside a block.  The order in which an adapter
tries its patterns is the order of the alternatives.

The two adapters of the source share no code, but most of it.  What differs is a
`Dialect`: the pattern that opens a named ACL, numbered ACLs, the `ip address`
command and the numbering of ACL entries.
-/

import MetaRne.Adapters.AclSequences
import MetaRne.Library.Regex
import MetaRne.Python.Integers
import MetaRne.Python.Lines

namespace MetaRne

open Library.Regex Library.Regex.Matcher Python

/-! ### Patterns -/

/-- `\s+`. -/
def spaces : Matcher String := plus isSpace

/-- `(\S+)`. -/
def token : Matcher String := plus fun c => !isSpace c

/-- `\s*$`. -/
def trailing : Matcher Unit := do
  let _ ← star isSpace
  endOfText

/-- `keyword\s+(\S+)\s*$`. -/
def oneArgument (keyword : String) : Matcher String := do
  let _ ← literal keyword
  let _ ← spaces
  let argument ← token
  trailing
  return argument

/-- `keyword\s+(\S+)\s+(\S+)\s*$`. -/
def twoArguments (keyword : String) : Matcher (String × String) := do
  let _ ← literal keyword
  let _ ← spaces
  let first ← token
  let _ ← spaces
  let second ← token
  trailing
  return (first, second)

/-- `_HOSTNAME_RE`. -/
def hostnameRe : Matcher String := oneArgument "hostname"

/-- `_INTERFACE_OPEN_RE`. -/
def interfaceOpenRe : Matcher String := oneArgument "interface"

/-- `_DESCRIPTION_RE`. -/
def descriptionRe : Matcher String := do
  let _ ← literal "description"
  let _ ← spaces
  let text ← lazyPlus fun c => c ≠ '\n'
  trailing
  return text

/-- `_ACCESS_GROUP_RE`. -/
def accessGroupRe : Matcher (String × String) := twoArguments "ip access-group"

/-- The texts of an ACL entry. -/
structure AclEntryTokens where
  sequence : Option String
  action : String
  protocol : String
  source : String
  destination : String

/-- `(permit|deny)\s+(\S+)\s+(\S+)\s+(\S+)\s*$`, after a sequence number. -/
def aclEntryRe (sequence : Option String) : Matcher AclEntryTokens := do
  let action ← either (literal "permit") (literal "deny")
  let _ ← spaces
  let protocol ← token
  let _ ← spaces
  let source ← token
  let _ ← spaces
  let destination ← token
  trailing
  return ⟨sequence, action, protocol, source, destination⟩

/-- `(\d+)\s+`. -/
def numberRe : Matcher String := do
  let number ← plus isDecimal
  let _ ← spaces
  return number

/-- `_ACL_NAMED_ENTRY_RE`. -/
def aclNamedEntryRe : Matcher AclEntryTokens := do
  let sequence ← optional numberRe
  aclEntryRe sequence

/-- `_ROUTER_BGP_OPEN_RE`. -/
def routerBgpOpenRe : Matcher Unit := do
  let _ ← literal "router bgp"
  let _ ← spaces
  let _ ← plus isDecimal
  trailing

/-- `_BGP_NEIGHBOR_RE`. -/
def bgpNeighborRe : Matcher (String × String) := do
  let _ ← literal "neighbor"
  let _ ← spaces
  let neighborIp ← token
  let _ ← spaces
  let _ ← literal "remote-as"
  let _ ← spaces
  let remoteAs ← token
  trailing
  return (neighborIp, remoteAs)

/-! ### What a line says -/

/-- What the adapters of the two vendors do differently. -/
structure Dialect where
  vendorId : String
  /-- `_ACL_NAMED_OPEN_RE`. -/
  aclNamedOpenRe : Matcher String
  /-- `_ACL_NUMBERED_RE`: the number of the ACL, and the entry. -/
  aclNumberedRe : Matcher (String × AclEntryTokens)
  /-- An `ip address` command: the address and prefix length, or why it has none. -/
  ipAddress : List Char → Option (Except ParseErrorCode String)
  /-- The message about an address that is no address. -/
  invalidAddressMessage : String
  /-- `_finalize_acl_entries`. -/
  finalizeAclEntries : List PendingAclEntry → List NormalizedAclEntry

/-- What a line at the top level declares. -/
inductive Declaration
  | hostname (name : String)
  | malformedHostname
  | interface (name : String)
  | malformedInterface
  | namedAcl (name : String)
  | numberedAcl (number : String) (entry : AclEntryTokens)
  | routerBgp
  | unrecognized

/-- `stripped.startswith(word)`. -/
def startsWith (word : String) (stripped : List Char) : Option Unit :=
  if word.toList.isPrefixOf stripped then some () else none

/-- The first pattern that matches. -/
def firstMatch {α : Type} (found : List (Option α)) (otherwise : α) : α :=
  (found.findSome? fun m => m).getD otherwise

/-- The patterns of a top-level line, tried in order. -/
def Dialect.declaration (d : Dialect) (stripped : List Char) : Declaration :=
  firstMatch
    [(hostnameRe.match? stripped).map .hostname,
      (startsWith "hostname" stripped).map fun _ => .malformedHostname,
      (interfaceOpenRe.match? stripped).map .interface,
      (startsWith "interface" stripped).map fun _ => .malformedInterface,
      (d.aclNamedOpenRe.match? stripped).map .namedAcl,
      (d.aclNumberedRe.match? stripped).map fun found => .numberedAcl found.1 found.2,
      (routerBgpOpenRe.match? stripped).map fun _ => .routerBgp]
    .unrecognized

/-- What a line inside an interface block says. -/
inductive InterfaceCommand
  | description (text : String)
  | ipAddress (parsed : Except ParseErrorCode String)
  | shutdown
  | noShutdown
  | accessGroup (aclName directionText : String)
  | unrecognized

/-- The patterns of a line of an interface block, tried in order. -/
def Dialect.interfaceCommand (d : Dialect) (stripped : List Char) : InterfaceCommand :=
  firstMatch
    [(descriptionRe.match? stripped).map .description,
      (d.ipAddress stripped).map .ipAddress,
      if stripped = "shutdown".toList then some .shutdown else none,
      if stripped = "no shutdown".toList then some .noShutdown else none,
      (accessGroupRe.match? stripped).map fun found => .accessGroup found.1 found.2]
    .unrecognized

example : hostnameRe.match? "hostname   core-1".toList = some "core-1" ∧
    hostnameRe.match? "hostname a b".toList = none ∧
    descriptionRe.match? "description  to the core".toList = some "to the core" ∧
    (aclNamedEntryRe.match? "10 permit ip any any".toList).map (·.sequence) = some (some "10") ∧
    bgpNeighborRe.match? "neighbor 10.0.0.1 remote-as 65001".toList =
      some ("10.0.0.1", "65001") := by
  decide

end MetaRne
