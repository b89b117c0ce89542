/-
# Configurations

`domain/config.py`: what a vendor adapter makes of a configuration text, and
the vendors themselves.
-/

import Mathlib.Data.Int.Notation

namespace MetaRne

/-- The network operating systems.  FRR has no configuration adapter. -/
inductive VendorType
  | ciscoIosXe
  | aristaEos
  | frr
  deriving DecidableEq, Repr

/-- The string a vendor is known by outside. -/
def VendorType.value : VendorType → String
  | .ciscoIosXe => "cisco-ios-xe"
  | .aristaEos => "arista-eos"
  | .frr => "frr"

inductive AdminState
  | up
  | down
  deriving DecidableEq, Repr

def AdminState.value : AdminState → String
  | .up => "up"
  | .down => "down"

inductive AclAction
  | permit
  | deny
  deriving DecidableEq, Repr

def AclAction.value : AclAction → String
  | .permit => "permit"
  | .deny => "deny"

inductive AclDirection
  | «in»
  | out
  deriving DecidableEq, Repr

def AclDirection.value : AclDirection → String
  | .in => "in"
  | .out => "out"

structure NormalizedAclEntry where
  sequence : ℤ
  action : AclAction
  protocol : String
  source : String
  destination : String
  deriving DecidableEq, Repr

structure NormalizedAcl where
  name : String
  entries : List NormalizedAclEntry
  deriving DecidableEq, Repr

structure NormalizedInterface where
  name : String
  description : Option String
  ipAddress : Option String
  mtu : Option ℤ
  adminState : AdminState
  aclIn : Option String
  aclOut : Option String
  deriving DecidableEq, Repr

structure NormalizedBgpNeighbor where
  neighborIp : String
  remoteAs : ℤ
  deriving DecidableEq, Repr

structure NormalizedRouting where
  bgpNeighbors : List NormalizedBgpNeighbor
  deriving DecidableEq, Repr

structure NormalizedConfiguration where
  hostname : String
  interfaces : List NormalizedInterface
  routing : NormalizedRouting
  acls : List NormalizedAcl
  deriving DecidableEq, Repr

end MetaRne
