/-
# Policy evaluation

`detection/policy_evaluator.py` and `detection/incident_factory.py`: which rules
of the policies of a device its configuration does not satisfy, and the incident
candidate of each.
-/

import MetaRne.Domain.Incident

namespace MetaRne

open Library Library.Effect Python

namespace PolicyEvaluator

/-- `_find_interface`. -/
def findInterface (config : NormalizedConfiguration) (interfaceName : String) :
    Option NormalizedInterface :=
  config.interfaces.find? fun interface => interface.name == interfaceName

/-- `_actual_acl_name`. -/
def actualAclName (interface : NormalizedInterface) (rule : RequiredAclRule) : Option String :=
  if rule.direction = .in then interface.aclIn else interface.aclOut

/-- `_affected_resource`. -/
def affectedResource (rule : RequiredAclRule) : String :=
  let slot := if rule.direction = .in then "acl_in" else "acl_out"
  "interface:" ++ rule.interfaceName ++ ":" ++ slot

/-- The violation of a rule, with what was found in place of its ACL. -/
def violation (deviceId sourceSnapshotId : String) (observedAt : Datetime)
    (policy : ConfigurationPolicy) (rule : RequiredAclRule) (violationType : ViolationType)
    (actualAclName : Option String) : ConfigurationViolation where
  deviceId := deviceId
  sourceSnapshotId := sourceSnapshotId
  ruleRef := policy.policyId
  violationType := violationType
  affectedResource := affectedResource rule
  severity := rule.severity
  evidence := ⟨rule.aclName, actualAclName, rule.interfaceName, rule.direction⟩
  recommendation := rule.recommendation
  detectedAt := observedAt

/-- `_evaluate_rule`. -/
def evaluateRule (deviceId sourceSnapshotId : String) (observedAt : Datetime)
    (config : NormalizedConfiguration) (policy : ConfigurationPolicy) (rule : RequiredAclRule) :
    Option ConfigurationViolation :=
  match findInterface config rule.interfaceName with
  | none =>
    some (violation deviceId sourceSnapshotId observedAt policy rule .targetInterfaceMissing none)
  | some interface =>
    if actualAclName interface rule = some rule.aclName then none
    else
      some (violation deviceId sourceSnapshotId observedAt policy rule .missingRequiredAcl
        (actualAclName interface rule))

/-- `PolicyEvaluator.evaluate`. -/
def evaluate (deviceId sourceSnapshotId : String) (observedAt : Datetime)
    (config : NormalizedConfiguration) (policies : List ConfigurationPolicy) :
    Except Error (List ConfigurationViolation) := do
  let _ ← requireNonEmpty deviceId "device_id"
  let _ ← requireNonEmpty sourceSnapshotId "source_snapshot_id"
  let _ ← requireUtc observedAt "observed_at"
  return policies.flatMap fun policy =>
    if policy.appliesTo ≠ deviceId then []
    else policy.requiredAcls.filterMap fun rule =>
      evaluateRule deviceId sourceSnapshotId observedAt config policy rule

end PolicyEvaluator

namespace IncidentFactory

/-- `IncidentFactory.build_candidate`. -/
def buildCandidate (violation : ConfigurationViolation) : Except Error IncidentCandidate := do
  let evidence ← PolicyViolationIncidentEvidence.new violation.sourceSnapshotId
    violation.violationType violation.evidence.expectedAclName violation.evidence.actualAclName
    violation.evidence.interfaceName violation.evidence.direction
  IncidentCandidate.new violation.deviceId .policyViolation violation.ruleRef
    violation.affectedResource violation.severity (.policyViolation evidence)
    violation.recommendation violation.detectedAt

end IncidentFactory
end MetaRne
