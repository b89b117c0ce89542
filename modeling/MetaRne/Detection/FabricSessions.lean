/-
# The sessions of a fabric

What detection, recovery and diagnosis all read of a fabric: for each BGP
session that a router reported, what a finding about it is about, and its
state.  No session is reported twice (`nodup_sessions`), so a key has one state.

`detect_eq_ok` is what the detector makes of them: one anomaly for each session
that is down, when the fabric was collected.
-/

import MetaRne.Detection.AnomalyIncidentMapper
import MetaRne.Detection.OperationalStateDetector

namespace MetaRne

open Library Library.Effect Python

/-- What a failed session is about: the key that its failure and its recovery share. -/
def sessionKey (deviceId neighborIp : String) : FindingKey :=
  ⟨deviceId, .anomaly, RuleId.bgpDown.value,
    AnomalyIncidentMapper.bgpDownAffectedResource neighborIp⟩

theorem sessionKey_inj {deviceId deviceId' neighborIp neighborIp' : String} :
    sessionKey deviceId neighborIp = sessionKey deviceId' neighborIp' ↔
      deviceId = deviceId' ∧ neighborIp = neighborIp' := by
  simp only [sessionKey, FindingKey.mk.injEq, true_and,
    AnomalyIncidentMapper.bgpDownAffectedResource_injective.eq_iff]

/-- Idle or Active. -/
def BgpSessionState.isDown : BgpSessionState → Bool
  | .idle | .active => true
  | _ => false

/-- The sessions that one router reported. -/
def NormalizedOperationalState.sessions (node : NormalizedOperationalState) :
    List (FindingKey × BgpSessionState) :=
  if node.role = .router then
    match lab1DeviceId? node.nodeId, node.bgp with
    | some deviceId, some bgp => bgp.neighbors.map fun neighbor =>
        (sessionKey deviceId neighbor.neighborIp, neighbor.state)
    | _, _ => []
  else []

/-- The sessions that the routers of a fabric reported. -/
def FabricOperationalState.sessions (fabric : FabricOperationalState) :
    List (FindingKey × BgpSessionState) :=
  fabric.nodes.flatMap fun node => node.sessions

/-- The keys of the sessions that are down. -/
def FabricOperationalState.failing (fabric : FabricOperationalState) : Set FindingKey :=
  {key | ∃ state, (key, state) ∈ fabric.sessions ∧ state.isDown = true}

/-- The keys of the sessions that are established. -/
def FabricOperationalState.recovered (fabric : FabricOperationalState) : Set FindingKey :=
  {key | (key, .established) ∈ fabric.sessions}

/-- The keys of all the sessions. -/
def FabricOperationalState.sessionKeys (fabric : FabricOperationalState) : Set FindingKey :=
  {key | ∃ state, (key, state) ∈ fabric.sessions}

theorem mem_node_sessions {node : NormalizedOperationalState} {key : FindingKey}
    {state : BgpSessionState} :
    (key, state) ∈ node.sessions ↔ node.role = .router ∧ ∃ deviceId bgp neighbor,
      lab1DeviceId? node.nodeId = some deviceId ∧ node.bgp = some bgp ∧
        neighbor ∈ bgp.neighbors ∧ key = sessionKey deviceId neighbor.neighborIp ∧
        neighbor.state = state := by
  unfold NormalizedOperationalState.sessions
  split_ifs with hrole
  · split
    · next deviceId bgp hdev hbgp =>
      rw [List.mem_map]
      constructor
      · rintro ⟨neighbor, hmem, hkey⟩
        cases hkey
        exact ⟨hrole, deviceId, bgp, neighbor, hdev, hbgp, hmem, rfl, rfl⟩
      · rintro ⟨-, deviceId', bgp', neighbor, hdev', hbgp', hmem, rfl, rfl⟩
        rw [hdev, Option.some.injEq] at hdev'
        rw [hbgp, Option.some.injEq] at hbgp'
        subst hdev' hbgp'
        exact ⟨neighbor, hmem, rfl⟩
    · next hnone =>
      refine iff_of_false (List.not_mem_nil) ?_
      rintro ⟨-, deviceId, bgp, -, hdev, hbgp, -⟩
      exact hnone deviceId bgp hdev hbgp
  · exact iff_of_false (List.not_mem_nil) fun h => hrole h.1

theorem mem_sessions {fabric : FabricOperationalState} {key : FindingKey}
    {state : BgpSessionState} :
    (key, state) ∈ fabric.sessions ↔ ∃ node ∈ fabric.nodes, (key, state) ∈ node.sessions :=
  List.mem_flatMap

/-- **No session is reported twice.**  Neighbours are listed once, nodes are
listed once, and no two nodes are one device. -/
theorem nodup_sessions (fabric : FabricOperationalState) :
    (fabric.sessions.map Prod.fst).Nodup := by
  rw [FabricOperationalState.sessions, List.map_flatMap, List.nodup_flatMap]
  constructor
  · intro node _
    unfold NormalizedOperationalState.sessions
    split_ifs
    · split
      · next deviceId bgp hdev hbgp =>
        have hnodup := bgp.neighbors_nodup
        rw [List.map_map]
        refine List.Nodup.map_on (fun a ha b hb hab => ?_) hnodup.of_map
        exact List.inj_on_of_nodup_map hnodup ha hb (sessionKey_inj.1 hab).2
      · exact List.nodup_nil
    · exact List.nodup_nil
  · refine (List.pairwise_map.1 fabric.nodes_nodup).imp fun {a b} hne => ?_
    intro key ha hb
    obtain ⟨⟨_, stateA⟩, hmemA, rfl⟩ := List.mem_map.1 ha
    obtain ⟨⟨_, stateB⟩, hmemB, hkey⟩ := List.mem_map.1 hb
    obtain ⟨-, deviceA, _, _, hdevA, -, -, rfl, -⟩ := mem_node_sessions.1 hmemA
    obtain ⟨-, deviceB, _, _, hdevB, -, -, rfl, -⟩ := mem_node_sessions.1 hmemB
    obtain ⟨rfl, -⟩ := sessionKey_inj.1 hkey
    exact hne (lab1DeviceId?_injective hdevA hdevB)

/-- A session has one state. -/
theorem session_state_unique {fabric : FabricOperationalState} {key : FindingKey}
    {state state' : BgpSessionState} (h : (key, state) ∈ fabric.sessions)
    (h' : (key, state') ∈ fabric.sessions) : state = state' :=
  congrArg Prod.snd (List.inj_on_of_nodup_map (nodup_sessions fabric) h h' rfl)

theorem failing_disjoint_recovered {fabric : FabricOperationalState} {key : FindingKey}
    (h : key ∈ fabric.failing) : key ∉ fabric.recovered := by
  obtain ⟨state, hmem, hdown⟩ := h
  intro hrec
  rw [session_state_unique hmem hrec] at hdown
  cases hdown

/-! ### What the detector finds -/

namespace OperationalStateDetector

theorem observedDownState_eq_none {state : BgpSessionState} :
    observedDownState state = none ↔ state.isDown = false := by
  cases state <;> decide

/-- What the detector makes of one neighbour. -/
theorem detectNeighbor_eq_ok {deviceId : String} {collectedAt : Timestamp}
    {neighbor : BgpNeighborObservation} {found : Option Anomaly}
    (h : detectNeighbor deviceId collectedAt neighbor = .ok found) :
    (neighbor.state.isDown = false ∧ found = none) ∨
      (neighbor.state.isDown = true ∧ ∃ anomaly, found = some anomaly ∧
        AnomalyIncidentMapper.key anomaly = sessionKey deviceId neighbor.neighborIp ∧
        anomaly.detectedAt = collectedAt) := by
  unfold detectNeighbor at h
  cases hdown : observedDownState neighbor.state with
  | none =>
      rw [hdown] at h
      exact Or.inl ⟨observedDownState_eq_none.1 hdown, (Except.ok.inj h).symm⟩
  | some downState =>
      rw [hdown] at h
      obtain ⟨anomaly, hnew, h⟩ := except_bind_eq_ok.1 h
      obtain ⟨hdev, hrule, hevidence, hat⟩ := Anomaly.eq_of_new hnew
      refine Or.inr ⟨?_, anomaly, (Except.ok.inj h).symm, ?_, (Datetime.utc_inj.1 hat).symm⟩
      · by_contra hnot
        rw [observedDownState_eq_none.2 (Bool.eq_false_iff.2 hnot)] at hdown
        cases hdown
      · rw [AnomalyIncidentMapper.key, AnomalyIncidentMapper.affectedResource, hdev, hrule,
          hevidence]
        rfl

/-- The anomalies of a router's neighbours are those that are down. -/
theorem detectNeighbors_eq_ok {deviceId : String} {collectedAt : Timestamp}
    {neighbors : List BgpNeighborObservation} {anomalies : List Anomaly}
    (h : detectNeighbors deviceId collectedAt neighbors = .ok anomalies) :
    anomalies.map AnomalyIncidentMapper.key =
        ((neighbors.map fun neighbor =>
          (sessionKey deviceId neighbor.neighborIp, neighbor.state)).filter
            fun session => session.2.isDown).map Prod.fst ∧
      ∀ anomaly ∈ anomalies, anomaly.detectedAt = collectedAt := by
  obtain ⟨found, hfound, hreturn⟩ := except_bind_eq_ok.1 h
  obtain rfl := Except.ok.inj hreturn
  rw [except_mapM_eq_ok] at hfound
  clear h hreturn
  induction hfound with
  | nil => exact ⟨rfl, nofun⟩
  | @cons neighbor o neighbors found hhead _ ih =>
      rcases detectNeighbor_eq_ok hhead with ⟨hup, rfl⟩ | ⟨hdown, anomaly, rfl, hkey, hat⟩
      · simp only [List.filterMap_cons, List.map_cons, List.filter_cons, hup, Bool.false_eq_true,
          if_false, id]
        exact ih
      · simp only [List.filterMap_cons, List.map_cons, List.filter_cons, hdown, if_true, hkey, id]
        exact ⟨congrArg (_ :: ·) ih.1, List.forall_mem_cons.2 ⟨hat, ih.2⟩⟩

/-- The anomalies of a node are those of its sessions that are down; a router
that the detector passes has a device. -/
theorem detectNode_eq_ok {collectedAt : Timestamp} {node : NormalizedOperationalState}
    {anomalies : List Anomaly} (h : detectNode collectedAt node = .ok anomalies) :
    (node.role = .router → ∃ deviceId, lab1DeviceId? node.nodeId = some deviceId) ∧
      anomalies.map AnomalyIncidentMapper.key =
        (node.sessions.filter fun session => session.2.isDown).map Prod.fst ∧
      ∀ anomaly ∈ anomalies, anomaly.detectedAt = collectedAt := by
  unfold detectNode at h
  unfold NormalizedOperationalState.sessions
  by_cases hrole : node.role = .router
  · rw [if_neg (not_not.2 hrole)] at h
    rw [if_pos hrole]
    cases hdev : lab1DeviceId? node.nodeId with
    | none =>
        rw [hdev] at h
        cases h
    | some deviceId =>
        rw [hdev] at h
        refine ⟨fun _ => ⟨deviceId, rfl⟩, ?_⟩
        cases hbgp : node.bgp with
        | none =>
            rw [hbgp] at h
            obtain rfl := Except.ok.inj h
            exact ⟨rfl, nofun⟩
        | some bgp =>
            rw [hbgp] at h
            exact detectNeighbors_eq_ok h
  · rw [if_pos hrole] at h
    rw [if_neg hrole]
    obtain rfl := Except.ok.inj h
    exact ⟨fun h => absurd h hrole, rfl, nofun⟩

/-- **What the detector finds**: one anomaly for each session that is down,
detected when the fabric was collected. -/
theorem detect_eq_ok {fabric : FabricOperationalState} {anomalies : List Anomaly}
    (h : detect fabric = .ok anomalies) :
    (∀ node ∈ fabric.nodes, node.role = .router →
        ∃ deviceId, lab1DeviceId? node.nodeId = some deviceId) ∧
      anomalies.map AnomalyIncidentMapper.key =
        (fabric.sessions.filter fun session => session.2.isDown).map Prod.fst ∧
      ∀ anomaly ∈ anomalies, anomaly.detectedAt = fabric.collectedAt := by
  obtain ⟨found, hfound, hreturn⟩ := except_bind_eq_ok.1 h
  obtain rfl := Except.ok.inj hreturn
  rw [except_mapM_eq_ok] at hfound
  unfold FabricOperationalState.sessions
  clear h hreturn
  generalize fabric.nodes = nodes at hfound
  induction hfound with
  | nil => exact ⟨nofun, rfl, nofun⟩
  | cons hhead _ ih =>
      obtain ⟨hdev, hkeys, hat⟩ := detectNode_eq_ok hhead
      rw [List.flatten_cons, List.map_append, List.flatMap_cons, List.filter_append,
        List.map_append, hkeys, ih.2.1]
      refine ⟨List.forall_mem_cons.2 ⟨hdev, ih.1⟩, rfl, fun anomaly hmem => ?_⟩
      rcases List.mem_append.1 hmem with hmem | hmem
      · exact hat anomaly hmem
      · exact ih.2.2 anomaly hmem

/-- The keys of what was found are those of the sessions that are down, each once. -/
theorem detect_keys {fabric : FabricOperationalState} {anomalies : List Anomaly}
    (h : detect fabric = .ok anomalies) :
    (anomalies.map AnomalyIncidentMapper.key).Nodup ∧
      {key | key ∈ anomalies.map AnomalyIncidentMapper.key} = fabric.failing := by
  obtain ⟨-, hkeys, -⟩ := detect_eq_ok h
  rw [hkeys]
  constructor
  · exact (nodup_sessions fabric).sublist (List.filter_sublist.map _)
  · ext key
    simp only [List.mem_map, List.mem_filter, Prod.exists, exists_and_right, exists_eq_right,
      Set.mem_ofPred_eq, FabricOperationalState.failing]

end OperationalStateDetector
end MetaRne
