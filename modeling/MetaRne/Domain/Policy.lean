/-
# Configuration policies

`domain/policy.py`: the policies a configuration is held against, and what the
evaluator says about a rule that is not satisfied.
-/

import MetaRne.Domain.Checks
import MetaRne.Domain.Config

namespace MetaRne

open Python

inductive Severity
  | critical
  | high
  | medium
  | low
  deriving DecidableEq, Repr

def Severity.value : Severity → String
  | .critical => "Critical"
  | .high => "High"
  | .medium => "Medium"
  | .low => "Low"

inductive ViolationType
  | missingRequiredAcl
  | targetInterfaceMissing
  deriving DecidableEq, Repr

def ViolationType.value : ViolationType → String
  | .missingRequiredAcl => "MISSING_REQUIRED_ACL"
  | .targetInterfaceMissing => "TARGET_INTERFACE_MISSING"

structure AclAssignmentEvidence where
  expectedAclName : String
  actualAclName : Option String
  interfaceName : String
  direction : AclDirection
  deriving DecidableEq, Repr

structure ConfigurationViolation where
  deviceId : String
  sourceSnapshotId : String
  ruleRef : String
  violationType : ViolationType
  affectedResource : String
  severity : Severity
  evidence : AclAssignmentEvidence
  recommendation : String
  detectedAt : Datetime
  deriving DecidableEq, Repr

/-- A rule that an interface carry an ACL in one direction. -/
structure RequiredAclRule where
  aclName : String
  interfaceName : String
  direction : AclDirection
  severity : Severity
  recommendation : String
  aclName_not_blank : isBlank aclName = false
  interfaceName_not_blank : isBlank interfaceName = false
  recommendation_not_blank : isBlank recommendation = false

/-- What a rule is compared by. -/
def RequiredAclRule.fields (rule : RequiredAclRule) :
    String × String × AclDirection × Severity × String :=
  (rule.aclName, rule.interfaceName, rule.direction, rule.severity, rule.recommendation)

theorem RequiredAclRule.fields_injective : Function.Injective RequiredAclRule.fields := by
  rintro ⟨_, _, _, _, _, _, _, _⟩ ⟨_, _, _, _, _, _, _, _⟩ h
  cases h
  rfl

instance : DecidableEq RequiredAclRule := RequiredAclRule.fields_injective.decidableEq

/-- `RequiredAclRule(...)`. -/
def RequiredAclRule.new (aclName interfaceName : String) (direction : AclDirection)
    (severity : Severity) (recommendation : String) : Except Error RequiredAclRule := do
  let ⟨hacl⟩ ← requireNonEmpty aclName "RequiredAclRule.acl_name"
  let ⟨hif⟩ ← requireNonEmpty interfaceName "RequiredAclRule.interface_name"
  let ⟨hrec⟩ ← requireNonEmpty recommendation "RequiredAclRule.recommendation"
  return ⟨aclName, interfaceName, direction, severity, recommendation, hacl, hif, hrec⟩

/-- A policy: the devices it applies to and the rules it makes for them. -/
structure ConfigurationPolicy where
  policyId : String
  appliesTo : String
  requiredAcls : List RequiredAclRule
  createdAt : Timestamp
  policyId_not_blank : isBlank policyId = false
  appliesTo_not_blank : isBlank appliesTo = false

/-- `ConfigurationPolicy(...)`. -/
def ConfigurationPolicy.new (policyId appliesTo : String) (requiredAcls : List RequiredAclRule)
    (createdAt : Datetime) : Except Error ConfigurationPolicy := do
  let ⟨hid⟩ ← requireNonEmpty policyId "ConfigurationPolicy.policy_id"
  let ⟨happ⟩ ← requireNonEmpty appliesTo "ConfigurationPolicy.applies_to"
  let createdAt ← requireUtc createdAt "ConfigurationPolicy.created_at"
  return ⟨policyId, appliesTo, requiredAcls, createdAt, hid, happ⟩

end MetaRne
