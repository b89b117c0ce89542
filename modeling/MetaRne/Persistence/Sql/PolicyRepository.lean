/-
# The SQL policy repository

`seed_if_missing` of `persistence/sqlalchemy/policy_repository.py`.  A batch is
seeded inside one savepoint, a policy at a time: each is looked up and inserted
or compared before the next one is, so a policy meets those that came before it
in its own batch as well as the stored ones.

Nothing is written between the lookup and the insert, so the insert meets no row
of its id and the second try that the source keeps for that case has no run here.
What the database refuses is modelled with it: a text with a NUL character, in an
id that is looked up or in a row that is inserted.
-/

import MetaRne.Persistence.Memory.DeviceRepository
import MetaRne.Persistence.SerializationRoundTrip
import MetaRne.Persistence.Sql.IncidentRepository

namespace MetaRne
namespace Sql

open Library Library.Effect Python

/-- `_to_domain` of a policy's row, whose rules are a JSON column. -/
def policyToDomain (row : ConfigurationPolicy) : Except Error ConfigurationPolicy := do
  let requiredAcls ← requiredAclRulesFromJson (requiredAclRulesToJson row.requiredAcls)
  ConfigurationPolicy.new row.policyId row.appliesTo requiredAcls (.utc row.createdAt)

/-- The columns of a policy's row hold its texts. -/
def isStorablePolicy (policy : ConfigurationPolicy) : Bool :=
  isText policy.policyId && isText policy.appliesTo && policy.requiredAcls.all fun rule =>
    isText rule.aclName && isText rule.interfaceName && isText rule.recommendation

/-- The body of the loop of `_seed_batch`. -/
def seedModel (policy : ConfigurationPolicy) : Action Unit := do
  raiseIf (isText policy.policyId = false) (Error.data "invalid text representation")
  let s ← get
  match s.store.policies.get? policy.policyId with
  | none =>
    raiseIf (isStorablePolicy policy = false) (Error.data "invalid text representation")
    modify fun s => s.setPolicy policy
  | some row =>
    let stored ← policyToDomain row
    raiseIf (Memory.semanticallyEqual stored policy = false)
      (Error.policySeedConflict policy.policyId)

/-- `_seed_batch`. -/
def seedBatch (policies : List ConfigurationPolicy) : Action Unit := do
  let _ ← policies.mapM seedModel

/-- `SqlAlchemyConfigurationPolicyRepository.seed_if_missing`. -/
def seedIfMissing (policies : List ConfigurationPolicy) : Action Unit :=
  if policies.isEmpty then pure () else savepoint (seedBatch policies)

/-- A row is read back as the policy it was written from. -/
theorem policyToDomain_eq (row : ConfigurationPolicy) : policyToDomain row = .ok row := by
  rw [policyToDomain, requiredAclRulesFromJson_requiredAclRulesToJson]
  refine except_bind_eq_ok.2 ⟨row.requiredAcls, rfl, ?_⟩
  simp only [ConfigurationPolicy.new, requireNonEmpty_bind_eq_ok, requireUtc_bind_eq_ok]
  exact ⟨row.policyId_not_blank, row.appliesTo_not_blank, row.createdAt, rfl, rfl⟩

end Sql
end MetaRne
