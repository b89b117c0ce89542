/-
# Seeding the policies

`persistence/seeds.py` and `seed_slice1_policies` of `api/dependencies.py`: the
two policies of the first slice, written at startup when they are missing.
-/

import MetaRne.Domain.Policy
import MetaRne.Persistence.Memory.DeviceRepository
import MetaRne.Persistence.Memory.UnitOfWork

namespace MetaRne
namespace PolicySeeding

open Library.Effect Python

/-- The rule that `ACL-EXTERNAL-IN` be assigned inbound to an interface. -/
def externalInRule (interfaceName recommendation : String)
    (hname : isBlank interfaceName = false := by decide)
    (hrec : isBlank recommendation = false := by decide) : RequiredAclRule where
  aclName := "ACL-EXTERNAL-IN"
  interfaceName := interfaceName
  direction := .in
  severity := .medium
  recommendation := recommendation
  aclName_not_blank := by decide
  interfaceName_not_blank := hname
  recommendation_not_blank := hrec

/-- `build_slice1_policies`. -/
def buildSlice1Policies (createdAt : Timestamp) : List ConfigurationPolicy :=
  [{ policyId := "policy-acl-external-in"
     appliesTo := "spine-01"
     requiredAcls := [externalInRule "GigabitEthernet0/1"
      "Assign ACL-EXTERNAL-IN inbound to GigabitEthernet0/1"]
     createdAt := createdAt
     policyId_not_blank := by decide
     appliesTo_not_blank := by decide },
   { policyId := "policy-acl-external-in-leaf-02"
     appliesTo := "leaf-02"
     requiredAcls := [externalInRule "Ethernet1" "Assign ACL-EXTERNAL-IN inbound to Ethernet1"]
     createdAt := createdAt
     policyId_not_blank := by decide
     appliesTo_not_blank := by decide }]

/-- `seed_slice1_policies`, the clock reading `observedAt`. -/
def seedSlice1Policies (observedAt : Timestamp) : Service Unit :=
  writing (Memory.seedIfMissing (buildSlice1Policies observedAt)) .ok

end PolicySeeding
end MetaRne
