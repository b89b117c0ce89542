/-
# The line-oriented state machine

`parse` of the two vendor adapters, over a `Dialect`: what one line does to the
hostname, the interfaces, the ACLs and the BGP neighbours read so far and to the
block that is open, and what is made of them after the last line.

A line either is at the top level, closes the open block and may open another, or
is indented and belongs to the open block.  `readLine` is one round of the loop,
`readLines` the loop.  A rejection is returned by the source and an exception is
raised; both end the loop, and `Rejection` keeps them apart.
-/

import MetaRne.Adapters.Statements
import MetaRne.Library.Dict
import MetaRne.Library.Effect
import MetaRne.Python.Ipaddress

namespace MetaRne

open Library Library.Regex Library.Regex.Matcher Python

/-! ### What is read so far -/

/-- `_InterfaceBuilder`. -/
structure InterfaceBuilder where
  name : String
  description : Option String
  ipAddress : Option String
  adminState : AdminState
  aclIn : Option String
  aclOut : Option String
  deriving DecidableEq, Repr

/-- `_InterfaceBuilder(name=name)`. -/
def InterfaceBuilder.new (name : String) : InterfaceBuilder := ⟨name, none, none, .up, none, none⟩

/-- `_AclBuilder`. -/
structure AclBuilder where
  name : String
  entries : List PendingAclEntry
  deriving DecidableEq, Repr

/-- The block that is open, with the builder its lines are for. -/
inductive Context
  | none
  | interface (name : String)
  | acl (name : String)
  | bgp
  deriving DecidableEq, Repr

/-- The variables of the loop. -/
structure ParserState where
  hostname : Option String
  interfaces : Dict String InterfaceBuilder
  acls : Dict String AclBuilder
  bgpNeighbors : List NormalizedBgpNeighbor
  context : Context

namespace ParserState

/-- Before the first line. -/
def initial : ParserState := ⟨none, .empty, .empty, [], .none⟩

/-- Close the block that is open. -/
def close (s : ParserState) : ParserState := { s with context := .none }

/-- `interfaces.setdefault(name, _InterfaceBuilder(name=name))`, and open its block. -/
def openInterface (s : ParserState) (name : String) : ParserState :=
  { s with
    interfaces := s.interfaces.set name ((s.interfaces.get? name).getD (.new name))
    context := .interface name }

/-- `acls.setdefault(name, _AclBuilder(name=name))`. -/
def acl (s : ParserState) (name : String) : AclBuilder := (s.acls.get? name).getD ⟨name, []⟩

/-- Open the block of a named ACL. -/
def openAcl (s : ParserState) (name : String) : ParserState :=
  { s with acls := s.acls.set name (s.acl name), context := .acl name }

/-- Put an entry at the end of an ACL. -/
def appendEntry (s : ParserState) (name : String) (entry : PendingAclEntry) : ParserState :=
  { s with acls := s.acls.set name { s.acl name with entries := (s.acl name).entries ++ [entry] } }

end ParserState

/-! ### Rejections -/

/-- Why a text is not read to its end. -/
inductive Rejection
  | returned (parseError : ParseError)
  | raised (error : Error)

/-- An exception inside the loop. -/
def raising {α : Type} : Except Error α → Except Rejection α
  | .ok a => .ok a
  | .error e => .error (.raised e)

/-- A line of the text, with its number from 1. -/
structure SourceLine where
  number : ℕ
  raw : List Char

/-- `raw_line.strip()`. -/
def SourceLine.stripped (line : SourceLine) : List Char := strip line.raw

/-- What the loop asks of a line first. -/
inductive LineKind
  | blank
  | terminator
  | topLevel
  | child
  deriving DecidableEq, Repr

/-- A line is blank, a `!`, not indented, or indented. -/
def SourceLine.kind (line : SourceLine) : LineKind :=
  if line.stripped = [] then .blank
  else if line.stripped = ['!'] then .terminator
  else if line.raw = lstrip line.raw then .topLevel
  else .child

/-- The rejection of a line. -/
def SourceLine.reject (line : SourceLine) (code : ParseErrorCode) (message : String)
    (values : List String) : Rejection :=
  .returned ⟨code, message, values, some line.number, some (String.ofList line.raw)⟩

/-! ### Values -/

/-- `AclAction(value)`. -/
def AclAction.ofValue (value : String) : Except Error AclAction :=
  match [AclAction.permit, .deny].find? fun action => action.value == value with
  | some action => .ok action
  | none => .error (.valueError "%r is not a valid AclAction" [value])

/-- `AclDirection(value)`, without the exception. -/
def AclDirection.ofValue? (value : String) : Option AclDirection :=
  [AclDirection.in, .out].find? fun direction => direction.value == value

/-- `_try_normalize_bgp_neighbor`. -/
def tryNormalizeBgpNeighbor (neighborIpText remoteAsText : String) :
    Except ParseErrorCode NormalizedBgpNeighbor :=
  match ipv4Address neighborIpText.toList with
  | none => .error .invalidBgpNeighborIp
  | some address =>
    match pyInt remoteAsText.toList with
    | .error _ => .error .invalidBgpRemoteAs
    | .ok remoteAs =>
      if remoteAs ≤ 0 then .error .invalidBgpRemoteAs else .ok ⟨ipv4Text address, remoteAs⟩

/-- `_PendingAclEntry(...)` of the texts of an entry. -/
def pendingEntry (tokens : AclEntryTokens) : Except Error PendingAclEntry := do
  let sequence ← tokens.sequence.mapM fun text => pyInt text.toList
  let action ← AclAction.ofValue tokens.action
  return ⟨sequence, action, tokens.protocol, tokens.source, tokens.destination⟩

/-! ### One line -/

namespace Dialect

variable (d : Dialect)

/-- A line at the top level: it closes the open block before it is interpreted. -/
def readDeclaration (s : ParserState) (line : SourceLine) : Except Rejection ParserState :=
  match d.declaration line.stripped with
  | .hostname name => .ok { s.close with hostname := some name }
  | .malformedHostname => .error (line.reject .malformedHostname
      "hostname declaration has no single-token value" [])
  | .interface name => .ok (s.openInterface name)
  | .malformedInterface => .error (line.reject .malformedInterface
      "interface declaration has no single-token name" [])
  | .namedAcl name => .ok (s.openAcl name)
  | .numberedAcl number tokens => do
    let entry ← raising (pendingEntry tokens)
    return s.close.appendEntry number entry
  | .routerBgp => .ok { s with context := .bgp }
  | .unrecognized => .ok s.close

/-- A line of an interface block. -/
def configureInterface (builder : InterfaceBuilder) (line : SourceLine) :
    Except Rejection InterfaceBuilder :=
  match d.interfaceCommand line.stripped with
  | .description text => .ok { builder with description := some text }
  | .ipAddress (.ok address) => .ok { builder with ipAddress := some address }
  | .ipAddress (.error code) =>
    .error (line.reject code d.invalidAddressMessage [String.ofList line.stripped])
  | .shutdown => .ok { builder with adminState := .down }
  | .noShutdown => .ok { builder with adminState := .up }
  | .accessGroup aclName directionText =>
    match AclDirection.ofValue? directionText with
    | none => .error (line.reject .invalidAclDirection
        "invalid ip access-group direction: %r" [directionText])
    | some .in => .ok { builder with aclIn := some aclName }
    | some .out => .ok { builder with aclOut := some aclName }
  | .unrecognized => .ok builder

/-- An indented line of the interface block that is open. -/
def readInterfaceLine (s : ParserState) (name : String) (line : SourceLine) :
    Except Rejection ParserState :=
  match s.interfaces.get? name with
  | none => .ok s
  | some builder => do
    let configured ← d.configureInterface builder line
    return { s with interfaces := s.interfaces.set name configured }

/-- An indented line of the ACL block that is open. -/
def readAclLine (s : ParserState) (name : String) (line : SourceLine) :
    Except Rejection ParserState :=
  match aclNamedEntryRe.match? line.stripped with
  | none => .ok s
  | some tokens => do
    let entry ← raising (pendingEntry tokens)
    return s.appendEntry name entry

/-- An indented line of the BGP block that is open. -/
def readBgpLine (s : ParserState) (line : SourceLine) : Except Rejection ParserState :=
  match bgpNeighborRe.match? line.stripped with
  | none => .ok s
  | some found =>
    match tryNormalizeBgpNeighbor found.1 found.2 with
    | .error code => .error (line.reject code "invalid BGP neighbor declaration on line: %r"
        [String.ofList line.stripped])
    | .ok neighbor => .ok { s with bgpNeighbors := s.bgpNeighbors ++ [neighbor] }

/-- An indented line belongs to the block that is open. -/
def readChild (s : ParserState) (line : SourceLine) : Except Rejection ParserState :=
  match s.context with
  | .none => .ok s
  | .interface name => d.readInterfaceLine s name line
  | .acl name => readAclLine s name line
  | .bgp => readBgpLine s line

/-- One round of the loop over the lines. -/
def readLine (s : ParserState) (line : SourceLine) : Except Rejection ParserState :=
  match line.kind with
  | .blank => .ok s
  | .terminator => .ok s.close
  | .topLevel => d.readDeclaration s line
  | .child => d.readChild s line

/-- The lines of a text, counted from 1. -/
def sourceLines (text : String) : List SourceLine :=
  ((splitlines text.toList).zipIdx 1).map fun numbered => ⟨numbered.2, numbered.1⟩

/-- The loop over the lines. -/
def readLines (text : String) : Except Rejection ParserState :=
  (sourceLines text).foldlM d.readLine .initial

/-! ### After the last line -/

/-- The first reference of an interface to an ACL that is not declared. -/
def undeclaredReference (s : ParserState) : Option (String × String) :=
  s.interfaces.values.findSome? fun builder =>
    (([builder.aclIn, builder.aclOut].filterMap fun acl => acl).find? fun aclName =>
      aclName ∉ s.acls.keys).map fun aclName => (builder.name, aclName)

/-- `NormalizedInterface(...)` of a builder. -/
def normalizedInterface (builder : InterfaceBuilder) : NormalizedInterface where
  name := builder.name
  description := builder.description
  ipAddress := builder.ipAddress
  mtu := none
  adminState := builder.adminState
  aclIn := builder.aclIn
  aclOut := builder.aclOut

/-- `NormalizedAcl(...)` of a builder. -/
def normalizedAcl (builder : AclBuilder) : NormalizedAcl :=
  ⟨builder.name, d.finalizeAclEntries builder.entries⟩

/-- `IPv4Address(neighbor.neighbor_ip)`, what neighbours are sorted by: it was written
from an address, and is read back. -/
def neighborAddress (neighbor : NormalizedBgpNeighbor) : ℕ :=
  (ipv4Address neighbor.neighborIp.toList).getD 0

/-- The configuration that was read. -/
def normalizedConfiguration (s : ParserState) (hostname : String) : NormalizedConfiguration where
  hostname := hostname
  interfaces := (s.interfaces.values.map normalizedInterface).insertionSort
    fun a b => a.name ≤ b.name
  routing := ⟨s.bgpNeighbors.insertionSort fun a b => neighborAddress a ≤ neighborAddress b⟩
  acls := (s.acls.values.map d.normalizedAcl).insertionSort fun a b => a.name ≤ b.name

/-- What is made of the lines: the hostname and the ACL references are checked first. -/
def finish (s : ParserState) : Except Rejection NormalizedConfiguration :=
  match s.hostname with
  | none => .error (.returned ⟨.missingHostname, "configuration has no hostname declaration", [],
      none, none⟩)
  | some hostname =>
    match undeclaredReference s with
    | some reference => .error (.returned ⟨.undeclaredAclReference,
        "interface %r references undeclared ACL %r", [reference.1, reference.2], none, none⟩)
    | none => .ok (d.normalizedConfiguration s hostname)

/-- `parse`: a rejection is a value, an exception is raised. -/
def parse (text : String) : Except Error (NormalizedConfiguration ⊕ ParseError) :=
  if isBlank text then
    .ok (.inr ⟨.emptyConfiguration, "configuration text is empty or whitespace-only", [], none,
      none⟩)
  else
    match d.readLines text >>= d.finish with
    | .ok config => .ok (.inl config)
    | .error (.returned parseError) => .ok (.inr parseError)
    | .error (.raised error) => .error error

end Dialect
end MetaRne
