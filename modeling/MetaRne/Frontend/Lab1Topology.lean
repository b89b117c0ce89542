/-
# The declared topology, in the client

`network/lab1Topology.ts`: the client's own copy of the links of Lab 1, with the
addresses of their ends, and of the paths that each leaf is designed to have.
-/

import MetaRne.Domain.OperationalState

namespace MetaRne
namespace Frontend

inductive TopologyTier
  | spine
  | leaf
  | host
  deriving DecidableEq, Repr

/-- A router's platform device, `none` for a host. -/
structure TopologyNode where
  id : String
  role : NodeRole
  tier : TopologyTier
  deviceId : Option String
  deriving DecidableEq

structure TopologyEndpoint where
  node : String
  interface : String
  address : String
  deriving DecidableEq

/-- `fabric` is a link between routers, `access` one of a host to a leaf. -/
inductive LinkKind
  | fabric
  | access
  deriving DecidableEq, Repr

structure TopologyLink where
  id : String
  kind : LinkKind
  a : TopologyEndpoint
  b : TopologyEndpoint
  deriving DecidableEq

/-- `LAB1_NODES`. -/
def lab1Nodes : List TopologyNode :=
  [⟨"spine-1", .router, .spine, some "lab1-spine-1"⟩,
    ⟨"spine-2", .router, .spine, some "lab1-spine-2"⟩,
    ⟨"leaf-1", .router, .leaf, some "lab1-leaf-1"⟩,
    ⟨"leaf-2", .router, .leaf, some "lab1-leaf-2"⟩,
    ⟨"host-1", .host, .host, none⟩, ⟨"host-2", .host, .host, none⟩]

/-- `link`. -/
def topologyLink (kind : LinkKind) (a b : TopologyEndpoint) : TopologyLink :=
  ⟨a.node ++ ":" ++ a.interface ++ "--" ++ b.node ++ ":" ++ b.interface, kind, a, b⟩

/-- `LAB1_LINKS`. -/
def topologyLinks : List TopologyLink :=
  [topologyLink .fabric ⟨"leaf-1", "eth1", "10.255.0.1"⟩ ⟨"spine-1", "eth1", "10.255.0.0"⟩,
    topologyLink .fabric ⟨"leaf-1", "eth2", "10.255.0.3"⟩ ⟨"spine-2", "eth1", "10.255.0.2"⟩,
    topologyLink .fabric ⟨"leaf-2", "eth1", "10.255.0.5"⟩ ⟨"spine-1", "eth2", "10.255.0.4"⟩,
    topologyLink .fabric ⟨"leaf-2", "eth2", "10.255.0.7"⟩ ⟨"spine-2", "eth2", "10.255.0.6"⟩,
    topologyLink .access ⟨"host-1", "eth1", "10.1.1.10"⟩ ⟨"leaf-1", "eth3", "10.1.1.1"⟩,
    topologyLink .access ⟨"host-2", "eth1", "10.1.2.10"⟩ ⟨"leaf-2", "eth3", "10.1.2.1"⟩]

structure EcmpExpectation where
  node : String
  prefixText : String
  towardsHost : String
  expectedPaths : ℕ
  deriving DecidableEq

/-- `LAB1_ECMP_EXPECTATIONS`. -/
def ecmpExpectations : List EcmpExpectation :=
  [⟨"leaf-1", "10.1.2.0/24", "host-2", 2⟩, ⟨"leaf-2", "10.1.1.0/24", "host-1", 2⟩]

/-- `fabricLinks`. -/
def fabricLinks : List TopologyLink := topologyLinks.filter fun link => link.kind == .fabric

end Frontend
end MetaRne
