/-
# The domain's JSON

`persistence/serialization.py`: one encoder and one decoder per shape.

A decoder checks keys, arrays and enumeration words.  Plain values it passes on
to the domain constructors as they are, so what it builds has fields that hold
whatever the JSON held: the structures of `Stored` are the domain's structures
with JSON values in these places, and `of` is the domain value seen as one.
-/

import MetaRne.Domain.Incident
import MetaRne.Persistence.JsonReaders

namespace MetaRne

open Library.Effect Python

/-! ### What the decoders build -/

namespace Stored

structure Interface where
  name : Json
  description : Json
  ipAddress : Json
  mtu : Json
  adminState : AdminState
  aclIn : Json
  aclOut : Json

def Interface.of (interface : NormalizedInterface) : Interface where
  name := .str interface.name
  description := .ofOption .str interface.description
  ipAddress := .ofOption .str interface.ipAddress
  mtu := .ofOption .int interface.mtu
  adminState := interface.adminState
  aclIn := .ofOption .str interface.aclIn
  aclOut := .ofOption .str interface.aclOut

structure BgpNeighbor where
  neighborIp : Json
  remoteAs : Json

def BgpNeighbor.of (neighbor : NormalizedBgpNeighbor) : BgpNeighbor where
  neighborIp := .str neighbor.neighborIp
  remoteAs := .int neighbor.remoteAs

structure AclEntry where
  sequence : Json
  action : AclAction
  protocol : Json
  source : Json
  destination : Json

def AclEntry.of (entry : NormalizedAclEntry) : AclEntry where
  sequence := .int entry.sequence
  action := entry.action
  protocol := .str entry.protocol
  source := .str entry.source
  destination := .str entry.destination

structure Acl where
  name : Json
  entries : List AclEntry

def Acl.of (acl : NormalizedAcl) : Acl where
  name := .str acl.name
  entries := acl.entries.map AclEntry.of

structure Configuration where
  hostname : Json
  interfaces : List Interface
  bgpNeighbors : List BgpNeighbor
  acls : List Acl

def Configuration.of (config : NormalizedConfiguration) : Configuration where
  hostname := .str config.hostname
  interfaces := config.interfaces.map Interface.of
  bgpNeighbors := config.routing.bgpNeighbors.map BgpNeighbor.of
  acls := config.acls.map Acl.of

structure InterfaceState where
  name : Json
  operState : LinkState

def InterfaceState.of (state : MetaRne.InterfaceState) : InterfaceState where
  name := .str state.name
  operState := state.operState

structure BgpSession where
  neighborIp : Json
  state : BgpState

def BgpSession.of (session : MetaRne.BgpSession) : BgpSession where
  neighborIp := .str session.neighborIp
  state := session.state

structure PolicyViolationEvidence where
  sourceSnapshotId : Json
  violationType : ViolationType
  expectedAclName : Json
  actualAclName : Json
  interfaceName : Json
  direction : AclDirection

def PolicyViolationEvidence.of (evidence : PolicyViolationIncidentEvidence) :
    PolicyViolationEvidence where
  sourceSnapshotId := .str evidence.sourceSnapshotId
  violationType := evidence.violationType
  expectedAclName := .str evidence.expectedAclName
  actualAclName := .ofOption .str evidence.actualAclName
  interfaceName := .str evidence.interfaceName
  direction := evidence.direction

structure LinkFlap where
  interfaceName : Json
  transitions : List InterfaceTransitionEvidence

structure BgpDown where
  neighborIp : Json
  state : BgpState
  previousState : Option BgpState

inductive Evidence
  | cpuHigh (evidence : CpuHighEvidence)
  | linkFlap (evidence : LinkFlap)
  | bgpDown (evidence : BgpDown)

def Evidence.of : RuleEvidence → Evidence
  | .cpuHigh evidence => .cpuHigh evidence
  | .linkFlap evidence => .linkFlap ⟨.str evidence.interfaceName, evidence.transitions⟩
  | .bgpDown evidence => .bgpDown ⟨.str evidence.neighborIp, evidence.state, evidence.previousState⟩

end Stored

/-! ### Handlers and checks -/

/-- `except (KeyError, TypeError, AttributeError) as exc: raise SerializationError(...)`. -/
def malformed (what : String) : Error → Error
  | .keyError key => .serialization ("malformed " ++ what ++ ": %r") [key]
  | .typeError message => .serialization ("malformed " ++ what ++ ": " ++ message) []
  | .attributeError message => .serialization ("malformed " ++ what ++ ": " ++ message) []
  | e => e

/-- The handler of the two evidence decoders that catch `ValueError` too. -/
def malformedOrInvalid (what : String) : Error → Error
  | .valueError message values => .serialization ("malformed " ++ what ++ ": " ++ message) values
  | e => malformed what e

/-- `_require_non_empty` of a value that may be no string. -/
def requireNonEmptyValue (value : Json) (fieldName : String) :
    Except Error {s : String // isBlank s = false} :=
  match value with
  | .str s =>
    (fun ⟨h⟩ => ⟨s, h⟩) <$> requireNonEmpty s fieldName
  | other => .error (.attributeError ("'" ++ other.typeName ++ "' object has no attribute 'strip'"))

theorem requireNonEmptyValue_str {s : String} {fieldName : String} (h : isBlank s = false) :
    requireNonEmptyValue (.str s) fieldName = .ok ⟨s, h⟩ := by
  rw [requireNonEmptyValue, requireNonEmpty_eq_ok (h := ⟨h⟩)]
  rfl

theorem requireNonEmptyValue_blank {s : String} {fieldName : String} (h : isBlank s = true) :
    requireNonEmptyValue (.str s) fieldName =
      .error (.valueError "%s must not be empty" [fieldName]) := by
  rw [requireNonEmptyValue, requireNonEmpty, dif_pos h]
  rfl

/-- `_require_float`. -/
def requireFloat (value : Json) (what : String) : Except Error PyFloat :=
  match value with
  | .int n =>
    match floatOfInt n with
    | some x => .ok x
    | none => .error (.overflowError "int too large to convert to float")
  | .float x => .ok x
  | other => .error (.serialization "%s must be a number, got %s" [what, other.typeName])

/-! ### NormalizedConfiguration -/

def interfaceToJson (interface : NormalizedInterface) : Json :=
  .obj [("name", .str interface.name),
    ("description", .ofOption .str interface.description),
    ("ip_address", .ofOption .str interface.ipAddress),
    ("mtu", .ofOption .int interface.mtu),
    ("admin_state", enumToJson interface.adminState),
    ("acl_in", .ofOption .str interface.aclIn),
    ("acl_out", .ofOption .str interface.aclOut)]

def bgpNeighborToJson (neighbor : NormalizedBgpNeighbor) : Json :=
  .obj [("neighbor_ip", .str neighbor.neighborIp), ("remote_as", .int neighbor.remoteAs)]

def aclEntryToJson (entry : NormalizedAclEntry) : Json :=
  .obj [("sequence", .int entry.sequence),
    ("action", enumToJson entry.action),
    ("protocol", .str entry.protocol),
    ("source", .str entry.source),
    ("destination", .str entry.destination)]

def aclToJson (acl : NormalizedAcl) : Json :=
  .obj [("name", .str acl.name), ("entries", .arr (acl.entries.map aclEntryToJson))]

/-- `normalized_config_to_json`. -/
def normalizedConfigToJson (config : NormalizedConfiguration) : Json :=
  .obj [("hostname", .str config.hostname),
    ("interfaces", .arr (config.interfaces.map interfaceToJson)),
    ("routing", .obj [("bgp_neighbors", .arr (config.routing.bgpNeighbors.map bgpNeighborToJson))]),
    ("acls", .arr (config.acls.map aclToJson))]

def interfaceFromJson (item : Json) : Except Error Stored.Interface := do
  let name ← getKey item "name" "NormalizedInterface"
  let description ← getKey item "description" "NormalizedInterface"
  let ipAddress ← getKey item "ip_address" "NormalizedInterface"
  let mtu ← getKey item "mtu" "NormalizedInterface"
  let word ← getKey item "admin_state" "NormalizedInterface"
  let adminState ← enumMember AdminState word "admin_state"
  let aclIn ← getKey item "acl_in" "NormalizedInterface"
  let aclOut ← getKey item "acl_out" "NormalizedInterface"
  return ⟨name, description, ipAddress, mtu, adminState, aclIn, aclOut⟩

def bgpNeighborFromJson (item : Json) : Except Error Stored.BgpNeighbor := do
  let neighborIp ← getKey item "neighbor_ip" "NormalizedBgpNeighbor"
  let remoteAs ← getKey item "remote_as" "NormalizedBgpNeighbor"
  return ⟨neighborIp, remoteAs⟩

def aclEntryFromJson (entry : Json) : Except Error Stored.AclEntry := do
  let sequence ← getKey entry "sequence" "NormalizedAclEntry"
  let word ← getKey entry "action" "NormalizedAclEntry"
  let action ← enumMember AclAction word "action"
  let protocol ← getKey entry "protocol" "NormalizedAclEntry"
  let source ← getKey entry "source" "NormalizedAclEntry"
  let destination ← getKey entry "destination" "NormalizedAclEntry"
  return ⟨sequence, action, protocol, source, destination⟩

def aclFromJson (item : Json) : Except Error Stored.Acl := do
  let name ← getKey item "name" "NormalizedAcl"
  let value ← getKey item "entries" "NormalizedAcl"
  let entries ← requireList value "entries"
  let entries ← entries.mapM aclEntryFromJson
  return ⟨name, entries⟩

/-- The body of `normalized_config_from_json`. -/
def configurationFromJson (data : Json) : Except Error Stored.Configuration := do
  let value ← getKey data "interfaces" "NormalizedConfiguration"
  let interfaces ← requireList value "interfaces"
  let interfaces ← interfaces.mapM interfaceFromJson
  let value ← getKey data "routing" "NormalizedConfiguration"
  let routing ← requireDict value "routing"
  let value ← getKey routing "bgp_neighbors" "routing"
  let bgpNeighbors ← requireList value "bgp_neighbors"
  let bgpNeighbors ← bgpNeighbors.mapM bgpNeighborFromJson
  let value ← getKey data "acls" "NormalizedConfiguration"
  let acls ← requireList value "acls"
  let acls ← acls.mapM aclFromJson
  let hostname ← getKey data "hostname" "NormalizedConfiguration"
  return ⟨hostname, interfaces, bgpNeighbors, acls⟩

/-- `normalized_config_from_json`. -/
def normalizedConfigFromJson (data : Json) : Except Error Stored.Configuration := do
  let data ← requireDict data "NormalizedConfiguration"
  translate (malformed "NormalizedConfiguration") (configurationFromJson data)

/-! ### RequiredAclRule tuples -/

def requiredAclRuleToJson (rule : RequiredAclRule) : Json :=
  .obj [("acl_name", .str rule.aclName),
    ("interface_name", .str rule.interfaceName),
    ("direction", enumToJson rule.direction),
    ("severity", enumToJson rule.severity),
    ("recommendation", .str rule.recommendation)]

/-- `required_acl_rules_to_json`. -/
def requiredAclRulesToJson (rules : List RequiredAclRule) : Json :=
  .arr (rules.map requiredAclRuleToJson)

/-- `RequiredAclRule(...)` of values that may be no strings. -/
def newRequiredAclRule (aclName interfaceName : Json) (direction : AclDirection)
    (severity : Severity) (recommendation : Json) : Except Error RequiredAclRule := do
  let aclName ← requireNonEmptyValue aclName "RequiredAclRule.acl_name"
  let interfaceName ← requireNonEmptyValue interfaceName "RequiredAclRule.interface_name"
  let recommendation ← requireNonEmptyValue recommendation "RequiredAclRule.recommendation"
  return ⟨aclName, interfaceName, direction, severity, recommendation, aclName.2, interfaceName.2,
    recommendation.2⟩

def requiredAclRuleFromJson (item : Json) : Except Error RequiredAclRule := do
  let item ← requireDict item "RequiredAclRule"
  let aclName ← getKey item "acl_name" "RequiredAclRule"
  let interfaceName ← getKey item "interface_name" "RequiredAclRule"
  let word ← getKey item "direction" "RequiredAclRule"
  let direction ← enumMember AclDirection word "direction"
  let word ← getKey item "severity" "RequiredAclRule"
  let severity ← enumMember Severity word "severity"
  let recommendation ← getKey item "recommendation" "RequiredAclRule"
  newRequiredAclRule aclName interfaceName direction severity recommendation

/-- `required_acl_rules_from_json`. -/
def requiredAclRulesFromJson (data : Json) : Except Error (List RequiredAclRule) := do
  let items ← requireList data "RequiredAclRule list"
  translate (malformed "RequiredAclRule") (items.mapM requiredAclRuleFromJson)

/-! ### Telemetry -/

def interfaceStateToJson (state : InterfaceState) : Json :=
  .obj [("name", .str state.name), ("oper_state", enumToJson state.operState)]

/-- `interface_states_to_json`. -/
def interfaceStatesToJson (states : List InterfaceState) : Json :=
  .arr (states.map interfaceStateToJson)

def interfaceStateFromJson (item : Json) : Except Error Stored.InterfaceState := do
  let item ← requireDict item "InterfaceState"
  let name ← getKey item "name" "InterfaceState"
  let word ← getKey item "oper_state" "InterfaceState"
  let operState ← enumMember LinkState word "oper_state"
  return ⟨name, operState⟩

/-- `interface_states_from_json`. -/
def interfaceStatesFromJson (data : Json) : Except Error (List Stored.InterfaceState) := do
  let items ← requireList data "InterfaceState list"
  translate (malformed "InterfaceState") (items.mapM interfaceStateFromJson)

def bgpSessionToJson (session : BgpSession) : Json :=
  .obj [("neighbor_ip", .str session.neighborIp), ("state", enumToJson session.state)]

/-- `bgp_sessions_to_json`. -/
def bgpSessionsToJson (sessions : List BgpSession) : Json := .arr (sessions.map bgpSessionToJson)

def bgpSessionFromJson (item : Json) : Except Error Stored.BgpSession := do
  let item ← requireDict item "BgpSession"
  let neighborIp ← getKey item "neighbor_ip" "BgpSession"
  let word ← getKey item "state" "BgpSession"
  let state ← enumMember BgpState word "state"
  return ⟨neighborIp, state⟩

/-- `bgp_sessions_from_json`. -/
def bgpSessionsFromJson (data : Json) : Except Error (List Stored.BgpSession) := do
  let items ← requireList data "BgpSession list"
  translate (malformed "BgpSession") (items.mapM bgpSessionFromJson)

/-! ### PolicyViolationIncidentEvidence -/

/-- `policy_violation_evidence_to_json`. -/
def policyViolationEvidenceToJson (evidence : PolicyViolationIncidentEvidence) : Json :=
  .obj [("source_snapshot_id", .str evidence.sourceSnapshotId),
    ("violation_type", enumToJson evidence.violationType),
    ("expected_acl_name", .str evidence.expectedAclName),
    ("actual_acl_name", .ofOption .str evidence.actualAclName),
    ("interface_name", .str evidence.interfaceName),
    ("direction", enumToJson evidence.direction)]

/-- The body of `policy_violation_evidence_from_json`. -/
def policyViolationFromJson (data : Json) : Except Error Stored.PolicyViolationEvidence := do
  let sourceSnapshotId ← getKey data "source_snapshot_id" "PolicyViolationIncidentEvidence"
  let word ← getKey data "violation_type" "PolicyViolationIncidentEvidence"
  let violationType ← enumMember ViolationType word "violation_type"
  let expectedAclName ← getKey data "expected_acl_name" "PolicyViolationIncidentEvidence"
  let actualAclName ← getKey data "actual_acl_name" "PolicyViolationIncidentEvidence"
  let interfaceName ← getKey data "interface_name" "PolicyViolationIncidentEvidence"
  let word ← getKey data "direction" "PolicyViolationIncidentEvidence"
  let direction ← enumMember AclDirection word "direction"
  -- `PolicyViolationIncidentEvidence.__post_init__`.
  let _ ← requireNonEmptyValue sourceSnapshotId "PolicyViolationIncidentEvidence.source_snapshot_id"
  return ⟨sourceSnapshotId, violationType, expectedAclName, actualAclName, interfaceName, direction⟩

/-- `policy_violation_evidence_from_json`. -/
def policyViolationEvidenceFromJson (data : Json) :
    Except Error Stored.PolicyViolationEvidence := do
  let data ← requireDict data "PolicyViolationIncidentEvidence"
  translate (malformed "PolicyViolationIncidentEvidence") (policyViolationFromJson data)

/-! ### Anomaly evidence -/

def cpuSampleToJson (sample : CpuSampleEvidence) : Json :=
  .obj [("timestamp", .str (isoformat sample.timestamp)),
    ("cpu_utilization_pct", .float sample.cpuUtilizationPct)]

/-- `cpu_high_evidence_to_json`. -/
def cpuHighEvidenceToJson (evidence : CpuHighEvidence) : Json :=
  .obj [("samples", .arr (evidence.samples.map cpuSampleToJson))]

def cpuSampleFromJson (item : Json) : Except Error CpuSampleEvidence := do
  let item ← requireDict item "CpuSampleEvidence"
  let value ← getKey item "timestamp" "CpuSampleEvidence"
  let timestamp ← utcDatetimeFromJson value "CpuSampleEvidence.timestamp"
  let value ← getKey item "cpu_utilization_pct" "CpuSampleEvidence"
  let cpuUtilizationPct ← requireFloat value "CpuSampleEvidence.cpu_utilization_pct"
  return ⟨timestamp, cpuUtilizationPct⟩

/-- The body of `cpu_high_evidence_from_json`.  Its timestamps are UTC, as
`CpuHighEvidence.__post_init__` asks. -/
def cpuHighFromJson (data : Json) : Except Error CpuHighEvidence := do
  let value ← getKey data "samples" "CpuHighEvidence"
  let samples ← requireList value "samples"
  let samples ← samples.mapM cpuSampleFromJson
  return ⟨samples⟩

/-- `cpu_high_evidence_from_json`. -/
def cpuHighEvidenceFromJson (data : Json) : Except Error CpuHighEvidence := do
  let data ← requireDict data "CpuHighEvidence"
  translate (malformedOrInvalid "CpuHighEvidence") (cpuHighFromJson data)

def transitionToJson (transition : InterfaceTransitionEvidence) : Json :=
  .obj [("timestamp", .str (isoformat transition.timestamp)),
    ("oper_state", enumToJson transition.operState)]

/-- `link_flap_evidence_to_json`. -/
def linkFlapEvidenceToJson (evidence : LinkFlapEvidence) : Json :=
  .obj [("interface_name", .str evidence.interfaceName),
    ("transitions", .arr (evidence.transitions.map transitionToJson))]

def transitionFromJson (item : Json) : Except Error InterfaceTransitionEvidence := do
  let item ← requireDict item "InterfaceTransitionEvidence"
  let value ← getKey item "timestamp" "InterfaceTransitionEvidence"
  let timestamp ← utcDatetimeFromJson value "InterfaceTransitionEvidence.timestamp"
  let word ← getKey item "oper_state" "InterfaceTransitionEvidence"
  let operState ← enumMember LinkState word "oper_state"
  return ⟨timestamp, operState⟩

/-- The body of `link_flap_evidence_from_json`. -/
def linkFlapFromJson (data : Json) : Except Error Stored.LinkFlap := do
  let interfaceName ← getKey data "interface_name" "LinkFlapEvidence"
  let value ← getKey data "transitions" "LinkFlapEvidence"
  let transitions ← requireList value "transitions"
  let transitions ← transitions.mapM transitionFromJson
  return ⟨interfaceName, transitions⟩

/-- `link_flap_evidence_from_json`. -/
def linkFlapEvidenceFromJson (data : Json) : Except Error Stored.LinkFlap := do
  let data ← requireDict data "LinkFlapEvidence"
  translate (malformedOrInvalid "LinkFlapEvidence") (linkFlapFromJson data)

/-- `bgp_down_evidence_to_json`. -/
def bgpDownEvidenceToJson (evidence : BgpDownEvidence) : Json :=
  .obj [("neighbor_ip", .str evidence.neighborIp),
    ("state", enumToJson evidence.state),
    ("previous_state", .ofOption enumToJson evidence.previousState)]

/-- `_optional_bgp_state`. -/
def optionalBgpState (value : Json) : Except Error (Option BgpState) :=
  match value with
  | .null => .ok none
  | value => some <$> enumMember BgpState value "previous_state"

/-- The body of `bgp_down_evidence_from_json`. -/
def bgpDownFromJson (data : Json) : Except Error Stored.BgpDown := do
  let neighborIp ← getKey data "neighbor_ip" "BgpDownEvidence"
  let word ← getKey data "state" "BgpDownEvidence"
  let state ← enumMember BgpState word "state"
  let value ← getKey data "previous_state" "BgpDownEvidence"
  let previousState ← optionalBgpState value
  return ⟨neighborIp, state, previousState⟩

/-- `bgp_down_evidence_from_json`. -/
def bgpDownEvidenceFromJson (data : Json) : Except Error Stored.BgpDown := do
  let data ← requireDict data "BgpDownEvidence"
  translate (malformed "BgpDownEvidence") (bgpDownFromJson data)

/-- `anomaly_evidence_to_json`: by the type of the evidence. -/
def anomalyEvidenceToJson : RuleEvidence → Json
  | .cpuHigh evidence => cpuHighEvidenceToJson evidence
  | .linkFlap evidence => linkFlapEvidenceToJson evidence
  | .bgpDown evidence => bgpDownEvidenceToJson evidence

/-- `_ANOMALY_EVIDENCE_FROM_JSON_BY_RULE_ID`. -/
def evidenceFromJson (ruleId : RuleId) (data : Json) : Except Error Stored.Evidence :=
  match ruleId with
  | .cpuHigh => Stored.Evidence.cpuHigh <$> cpuHighEvidenceFromJson data
  | .linkFlap => Stored.Evidence.linkFlap <$> linkFlapEvidenceFromJson data
  | .bgpDown => Stored.Evidence.bgpDown <$> bgpDownEvidenceFromJson data

/-- `anomaly_evidence_from_json`: by the rule. -/
def anomalyEvidenceFromJson (ruleRef : String) (data : Json) : Except Error Stored.Evidence := do
  let ruleId ← enumMember RuleId (.str ruleRef) "rule_ref"
  evidenceFromJson ruleId data

end MetaRne
