/-
# The network state query

`application/network_state_query.py`: the latest state of one lab, with its source
and the time at which it was read.
-/

import MetaRne.Persistence.Memory.UnitOfWork
import MetaRne.Persistence.OperationalStateRepository

namespace MetaRne

/-- `NetworkStateResult`. -/
structure NetworkStateResult where
  fabric : FabricOperationalState
  source : FabricSourceIdentity
  retrievedAt : Timestamp

namespace GetNetworkState

/-- What the unit of work does. -/
def body (labName : String) (clock : Timestamp) : Action NetworkStateResult := do
  match ← getLatestOperationalState labName with
  | none => throw (Error.operationalStateNotFound labName)
  | some fabric =>
    let source ← deriveFabricSource fabric
    return ⟨fabric, source, clock⟩

/-- `GetNetworkStateService.get`. -/
def get (labName : String) (clock : Timestamp) : Service NetworkStateResult :=
  reading (body labName clock)

end GetNetworkState
end MetaRne
