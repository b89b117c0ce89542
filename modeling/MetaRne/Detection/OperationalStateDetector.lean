/-
# Failed sessions in a fabric

`detection/operational_state_detector.py`: every neighbour of a router that was
observed Idle or Active is an anomaly, at every evaluation.  A state that was
not observed is none.  The devices are those of Lab 1 (`lab1_identity.py`).
-/

import MetaRne.Domain.Anomaly
import MetaRne.Domain.OperationalState

namespace MetaRne

open Library Python

/-- `LAB1_LAB_NAME`. -/
def lab1LabName : String := "meta-rne-bgp"

/-- `LAB1_NODE_DEVICE_IDS`: the registered device of each router node. -/
def lab1NodeDeviceIds : List (String × String) :=
  [("spine-1", "lab1-spine-1"), ("spine-2", "lab1-spine-2"), ("leaf-1", "lab1-leaf-1"),
    ("leaf-2", "lab1-leaf-2")]

/-- The device of a node. -/
def lab1DeviceId? (nodeId : String) : Option String := lab1NodeDeviceIds.lookup nodeId

theorem mem_of_lab1DeviceId? {nodeId deviceId : String} (h : lab1DeviceId? nodeId = some deviceId) :
    (nodeId, deviceId) ∈ lab1NodeDeviceIds := by
  obtain ⟨l₁, l₂, hl, -⟩ := List.lookup_eq_some_iff.1 h
  rw [hl]
  exact List.mem_append_right _ (List.mem_cons_self ..)

/-- No two nodes have one device. -/
theorem lab1DeviceId?_injective {nodeId nodeId' deviceId : String}
    (h : lab1DeviceId? nodeId = some deviceId) (h' : lab1DeviceId? nodeId' = some deviceId) :
    nodeId = nodeId' := by
  have hnodup : (lab1NodeDeviceIds.map Prod.snd).Nodup := by decide
  exact congrArg Prod.fst (List.inj_on_of_nodup_map hnodup (mem_of_lab1DeviceId? h)
    (mem_of_lab1DeviceId? h') rfl)

theorem not_isBlank_of_lab1DeviceId? {nodeId deviceId : String}
    (h : lab1DeviceId? nodeId = some deviceId) : isBlank deviceId = false := by
  have hall : ∀ p ∈ lab1NodeDeviceIds, isBlank p.2 = false := by decide
  exact hall _ (mem_of_lab1DeviceId? h)

/-- `BgpState(state.value)`. -/
def BgpSessionState.toBgpState? : BgpSessionState → Option BgpState
  | .idle => some .idle
  | .connect => some .connect
  | .active => some .active
  | .openSent => some .openSent
  | .openConfirm => some .openConfirm
  | .established => some .established
  | .unknown => none

namespace OperationalStateDetector

/-- `_observed_down_state`. -/
def observedDownState (state : BgpSessionState) : Option BgpState :=
  match state.toBgpState? with
  | none => none
  | some state => if state ∈ bgpDownStates then some state else none

/-- The anomaly of one neighbour of a router, if its session is down. -/
def detectNeighbor (deviceId : String) (collectedAt : Timestamp)
    (neighbor : BgpNeighborObservation) : Except Error (Option Anomaly) :=
  match observedDownState neighbor.state with
  | none => .ok none
  | some downState => do
    let anomaly ← Anomaly.new deviceId .bgpDown (.bgpDown ⟨neighbor.neighborIp, downState, none⟩)
      (.utc collectedAt)
    return some anomaly

/-- The anomalies of the neighbours of one router. -/
def detectNeighbors (deviceId : String) (collectedAt : Timestamp)
    (neighbors : List BgpNeighborObservation) : Except Error (List Anomaly) := do
  let found ← neighbors.mapM (detectNeighbor deviceId collectedAt)
  return found.filterMap id

/-- The anomalies of one node. -/
def detectNode (collectedAt : Timestamp) (node : NormalizedOperationalState) :
    Except Error (List Anomaly) :=
  if node.role ≠ .router then .ok []
  else
    match lab1DeviceId? node.nodeId with
    | none => .error (.valueError
        "OperationalStateDetector: unknown router node %r; no registered device ID" [node.nodeId])
    | some deviceId =>
      match node.bgp with
      | none => .ok []
      | some bgp => detectNeighbors deviceId collectedAt bgp.neighbors

/-- `OperationalStateDetector.detect`. -/
def detect (fabric : FabricOperationalState) : Except Error (List Anomaly) := do
  let anomalies ← fabric.nodes.mapM (detectNode fabric.collectedAt)
  return anomalies.flatten

end OperationalStateDetector
end MetaRne
