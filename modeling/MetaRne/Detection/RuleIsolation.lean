/-
# Rule-engine isolation

What the telemetry rules report for a device they report on its samples alone
(`evaluate_filter`), what they report for an interface or a neighbour is decided by
its observations (`mem_flap_iff`, `mem_down_iff`), and no two anomalies of one
evaluation have one key (`nodup_keys`).
-/

import MetaRne.Detection.RuleVerdicts
import MetaRne.Library.Sorting

namespace MetaRne
namespace RuleEngine

open Library Library.Effect Python

variable {observedAt : Datetime} {samples : List TelemetrySample} {anomalies : List Anomaly}
  {t : Timestamp} {anomaly : Anomaly}

/-- What an evaluation that returns reports. -/
theorem eq_of_evaluate (h : evaluate observedAt samples = .ok anomalies) :
    ∃ t, observedAt = .utc t ∧
      anomalies = (samplesByDevice samples).entries.filterMap (cpuVerdict t) ++
        ((interfaceObservations samples).entries.filterMap (flapVerdict t) ++
          (bgpObservations samples).entries.filterMap (downVerdict t)) := by
  obtain ⟨t, rfl, -⟩ := requireUtc_bind_eq_ok.1 h
  rw [evaluate_eq_verdicts, Except.ok.injEq] at h
  exact ⟨t, rfl, h.symm⟩

/-! ### One key, one anomaly -/

theorem key_of_mem_cpuVerdict {entry : String × List TelemetrySample}
    (hentry : entry ∈ (samplesByDevice samples).entries) (h : cpuVerdict t entry = some anomaly) :
    AnomalyIncidentMapper.key anomaly = cpuKey entry.1 := by
  refine of_cpuVerdict (fun sample hsample => ?_) h
  rw [(of_mem_samplesByDevice hentry).1] at hsample
  exact of_decide_eq_true (List.mem_filter.1 hsample).2

theorem cpuKeys (samples : List TelemetrySample) (t : Timestamp) :
    (((samplesByDevice samples).entries.filterMap (cpuVerdict t)).map
      AnomalyIncidentMapper.key).Sublist
        ((samplesByDevice samples).entries.map fun entry => cpuKey entry.1) :=
  Sorting.sublist_map_filterMap fun _ hentry _ h => key_of_mem_cpuVerdict hentry h

theorem flapKeys (samples : List TelemetrySample) (t : Timestamp) :
    (((interfaceObservations samples).entries.filterMap (flapVerdict t)).map
      AnomalyIncidentMapper.key).Sublist
        ((interfaceObservations samples).entries.map fun entry => flapKey entry.1.1 entry.1.2) :=
  Sorting.sublist_map_filterMap fun _ _ _ h => (of_flapVerdict h).2.2.2

theorem downKeys (samples : List TelemetrySample) (t : Timestamp) :
    (((bgpObservations samples).entries.filterMap (downVerdict t)).map
      AnomalyIncidentMapper.key).Sublist
        ((bgpObservations samples).entries.map fun entry => downKey entry.1.1 entry.1.2) :=
  Sorting.sublist_map_filterMap fun _ _ _ h => (of_downVerdict h).2

theorem flapKey_injective {a b : String × String} (h : flapKey a.1 a.2 = flapKey b.1 b.2) :
    a = b := by
  obtain ⟨hdevice, -, -, hresource⟩ := FindingKey.mk.inj h
  exact Prod.ext hdevice ((String.append_right_inj _).1 hresource)

theorem downKey_injective {a b : String × String} (h : downKey a.1 a.2 = downKey b.1 b.2) :
    a = b := by
  obtain ⟨hdevice, -, -, hresource⟩ := FindingKey.mk.inj h
  exact Prod.ext hdevice (AnomalyIncidentMapper.bgpDownAffectedResource_injective hresource)

/-- The keys of a dictionary's entries are distinct under an injective map. -/
theorem nodup_map_entries {κ ν : Type} (d : Dict κ ν) (keyOf : κ → FindingKey)
    (h : ∀ {a b}, keyOf a = keyOf b → a = b) : (d.entries.map fun entry => keyOf entry.1).Nodup := by
  have hmap : (d.entries.map fun entry => keyOf entry.1) = (d.entries.map Prod.fst).map keyOf := by
    rw [List.map_map]
    rfl
  rw [hmap]
  exact d.nodup.map fun _ _ hsame => h hsame

/-- **One evaluation reports at most one anomaly of one key.** -/
theorem nodup_keys (h : evaluate observedAt samples = .ok anomalies) :
    (anomalies.map AnomalyIncidentMapper.key).Nodup := by
  obtain ⟨t, -, rfl⟩ := eq_of_evaluate h
  rw [List.map_append, List.map_append]
  refine List.Nodup.sublist ((cpuKeys samples t).append
    ((flapKeys samples t).append (downKeys samples t))) ?_
  have hrules : RuleId.cpuHigh.value ≠ RuleId.linkFlap.value ∧
      RuleId.cpuHigh.value ≠ RuleId.bgpDown.value ∧
      RuleId.linkFlap.value ≠ RuleId.bgpDown.value := by decide
  refine List.nodup_append.2 ⟨?_, List.nodup_append.2 ⟨?_, ?_, ?_⟩, ?_⟩
  · exact nodup_map_entries _ cpuKey fun hsame => (FindingKey.mk.inj hsame).1
  · exact nodup_map_entries _ (fun key : String × String => flapKey key.1 key.2) flapKey_injective
  · exact nodup_map_entries _ (fun key : String × String => downKey key.1 key.2) downKey_injective
  · intro a ha b hb hsame
    obtain ⟨_, -, rfl⟩ := List.mem_map.1 ha
    obtain ⟨_, -, rfl⟩ := List.mem_map.1 hb
    exact hrules.2.2 (FindingKey.mk.inj hsame).2.2.1
  · intro a ha b hb hsame
    obtain ⟨_, -, rfl⟩ := List.mem_map.1 ha
    rcases List.mem_append.1 hb with hb | hb
    · obtain ⟨_, -, rfl⟩ := List.mem_map.1 hb
      exact hrules.1 (FindingKey.mk.inj hsame).2.2.1
    · obtain ⟨_, -, rfl⟩ := List.mem_map.1 hb
      exact hrules.2.1 (FindingKey.mk.inj hsame).2.2.1

/-! ### Resources -/

/-- An anomaly of a verdict has the rule of the verdict. -/
theorem ruleRef_of_mem {ε : Type} {v : ε → Option Anomaly} {keyOf : ε → FindingKey}
    {entries : List ε} (hsub : ((entries.filterMap v).map AnomalyIncidentMapper.key).Sublist
      (entries.map keyOf)) {value : String} (hrule : ∀ entry, (keyOf entry).ruleRef = value)
    (h : anomaly ∈ entries.filterMap v) : (AnomalyIncidentMapper.key anomaly).ruleRef = value := by
  obtain ⟨entry, -, hkey⟩ := List.mem_map.1 (hsub.subset (List.mem_map_of_mem h))
  rw [← hkey]
  exact hrule entry

/-- **The verdict on an interface** is decided by its observations. -/
theorem mem_flap_iff (h : evaluate (.utc t) samples = .ok anomalies)
    {deviceId interfaceName : String} :
    (anomaly ∈ anomalies ∧ AnomalyIncidentMapper.key anomaly = flapKey deviceId interfaceName) ↔
      flapVerdict t ((deviceId, interfaceName), observationsOf samples deviceId interfaceName) =
        some anomaly := by
  obtain ⟨t', hsame, rfl⟩ := eq_of_evaluate h
  obtain rfl := Datetime.utc_injective hsame
  constructor
  · rintro ⟨hmem, hkey⟩
    have hrule : (AnomalyIncidentMapper.key anomaly).ruleRef = RuleId.linkFlap.value := by rw [hkey]; rfl
    rcases List.mem_append.1 hmem with hcpu | hmem
    · have hother := ruleRef_of_mem (cpuKeys samples t) (fun _ => rfl) hcpu
      exact absurd (hrule.symm.trans hother) (by decide)
    rcases List.mem_append.1 hmem with hflap | hdown
    · obtain ⟨entry, hentry, hverdict⟩ := List.mem_filterMap.1 hflap
      have hkeys := (of_flapVerdict hverdict).2.2.2.symm.trans hkey
      obtain ⟨⟨_, _⟩, observations⟩ := entry
      obtain ⟨rfl, rfl⟩ := Prod.mk.inj (@flapKey_injective (_, _) (_, _) hkeys)
      have hobservations := of_mem_interfaceObservations hentry
      rw [← hobservations]
      exact hverdict
    · have hother := ruleRef_of_mem (downKeys samples t) (fun _ => rfl) hdown
      exact absurd (hrule.symm.trans hother) (by decide)
  · intro hverdict
    obtain ⟨⟨hmany, -⟩, -, -, hkey⟩ := of_flapVerdict hverdict
    have hne : observationsOf samples deviceId interfaceName ≠ [] := by
      intro hnil
      rw [hnil] at hmany
      exact Nat.not_succ_le_zero _ hmany
    exact ⟨List.mem_append_right _ (List.mem_append_left _ (List.mem_filterMap.2
      ⟨_, mem_interfaceObservations hne, hverdict⟩)), hkey⟩

/-- **The verdict on a neighbour** is decided by its observations. -/
theorem mem_down_iff (h : evaluate (.utc t) samples = .ok anomalies)
    {deviceId neighborIp : String} :
    (anomaly ∈ anomalies ∧ AnomalyIncidentMapper.key anomaly = downKey deviceId neighborIp) ↔
      downVerdict t ((deviceId, neighborIp), neighborObservationsOf samples deviceId neighborIp) =
        some anomaly := by
  obtain ⟨t', hsame, rfl⟩ := eq_of_evaluate h
  obtain rfl := Datetime.utc_injective hsame
  constructor
  · rintro ⟨hmem, hkey⟩
    have hrule : (AnomalyIncidentMapper.key anomaly).ruleRef = RuleId.bgpDown.value := by rw [hkey]; rfl
    rcases List.mem_append.1 hmem with hcpu | hmem
    · have hother := ruleRef_of_mem (cpuKeys samples t) (fun _ => rfl) hcpu
      exact absurd (hrule.symm.trans hother) (by decide)
    rcases List.mem_append.1 hmem with hflap | hdown
    · have hother := ruleRef_of_mem (flapKeys samples t) (fun _ => rfl) hflap
      exact absurd (hrule.symm.trans hother) (by decide)
    · obtain ⟨entry, hentry, hverdict⟩ := List.mem_filterMap.1 hdown
      have hkeys := (of_downVerdict hverdict).2.symm.trans hkey
      obtain ⟨⟨_, _⟩, observations⟩ := entry
      obtain ⟨rfl, rfl⟩ := Prod.mk.inj (@downKey_injective (_, _) (_, _) hkeys)
      have hobservations := of_mem_bgpObservations hentry
      rw [← hobservations]
      exact hverdict
  · intro hverdict
    obtain ⟨⟨_, _, hlast, -⟩, hkey⟩ := of_downVerdict hverdict
    have hne : neighborObservationsOf samples deviceId neighborIp ≠ [] := by
      intro hnil
      rw [hnil] at hlast
      cases hlast
    exact ⟨List.mem_append_right _ (List.mem_append_right _ (List.mem_filterMap.2
      ⟨_, mem_bgpObservations hne, hverdict⟩)), hkey⟩

/-! ### Devices -/

/-- Selecting the verdicts on a device is giving the verdicts on its entries. -/
theorem filter_filterMap_device {ε : Type} {v : ε → Option Anomaly} {keyOf : ε → FindingKey}
    {entries : List ε} (h : ∀ entry ∈ entries, ∀ anomaly, v entry = some anomaly →
      AnomalyIncidentMapper.key anomaly = keyOf entry) (deviceId : String) :
    (entries.filterMap v).filter (fun anomaly => anomaly.deviceId = deviceId) =
      (entries.filter fun entry => (keyOf entry).deviceId = deviceId).filterMap v := by
  induction entries with
  | nil => rfl
  | cons entry entries ih =>
      obtain ⟨hentry, hrest⟩ := List.forall_mem_cons.1 h
      have hsame := ih hrest
      cases hv : v entry with
      | none =>
          rw [List.filterMap_cons_none hv, hsame, List.filter_cons]
          split_ifs with hdevice
          · rw [List.filterMap_cons_none hv]
          · rfl
      | some anomaly =>
          have hdev : anomaly.deviceId = (keyOf entry).deviceId :=
            congrArg FindingKey.deviceId (hentry anomaly hv)
          rw [List.filterMap_cons_some hv, List.filter_cons, List.filter_cons, hdev, hsame]
          split_ifs with hdevice
          · rw [List.filterMap_cons_some hv]
          · rfl

/-- The groupings of a device's samples are those of all samples, restricted to it. -/
theorem samplesByDevice_filter (deviceId : String) (samples : List TelemetrySample) :
    samplesByDevice (samples.filter fun sample => sample.deviceId = deviceId) =
      (samplesByDevice samples).restrict fun key => key = deviceId := by
  unfold samplesByDevice
  rw [← Dict.group_filter, List.filter_map]
  rfl

/-- Selecting from what is put together is putting together what comes of the selected. -/
theorem filter_flatMap_of_forall {α β : Type} {f : α → List β} {keep : β → Bool}
    {test : α → Bool} (h : ∀ x, ∀ y ∈ f x, keep y = test x) (xs : List α) :
    (xs.flatMap f).filter keep = (xs.filter test).flatMap f := by
  induction xs with
  | nil => rfl
  | cons x xs ih =>
      rw [List.flatMap_cons, List.filter_append, ih]
      by_cases hx : test x = true
      · rw [List.filter_cons_of_pos hx, List.flatMap_cons,
          List.filter_eq_self.2 fun y hy => (h x y hy).trans hx]
      · have hnone : (f x).filter keep = [] := List.filter_eq_nil_iff.2 fun y hy => by
          rw [h x y hy]
          exact hx
        rw [List.filter_cons_of_neg hx, hnone, List.nil_append]

theorem interfaceObservations_filter (deviceId : String) (samples : List TelemetrySample) :
    interfaceObservations (samples.filter fun sample => sample.deviceId = deviceId) =
      (interfaceObservations samples).restrict fun key => key.1 = deviceId := by
  unfold interfaceObservations
  rw [← Dict.group_filter]
  refine congrArg Dict.group (filter_flatMap_of_forall (fun sample entry hentry => ?_) samples).symm
  obtain ⟨state, -, rfl⟩ := List.mem_map.1 hentry
  rfl

theorem bgpObservations_filter (deviceId : String) (samples : List TelemetrySample) :
    bgpObservations (samples.filter fun sample => sample.deviceId = deviceId) =
      (bgpObservations samples).restrict fun key => key.1 = deviceId := by
  unfold bgpObservations
  rw [← Dict.group_filter]
  refine congrArg Dict.group (filter_flatMap_of_forall (fun sample entry hentry => ?_) samples).symm
  obtain ⟨session, -, rfl⟩ := List.mem_map.1 hentry
  rfl

/-- **What is reported for a device is reported on its samples alone**, in the same order. -/
theorem evaluate_filter (observedAt : Datetime) (samples : List TelemetrySample)
    (deviceId : String) :
    evaluate observedAt (samples.filter fun sample => sample.deviceId = deviceId) =
      (evaluate observedAt samples).map fun anomalies =>
        anomalies.filter fun anomaly => anomaly.deviceId = deviceId := by
  cases hutc : requireUtc observedAt "observed_at" with
  | error e =>
      have hraises : ∀ samples, evaluate observedAt samples = .error e := fun samples => by
        unfold evaluate
        rw [hutc]
        rfl
      rw [hraises, hraises]
      rfl
  | ok t =>
      obtain rfl := requireUtc_eq_ok.1 hutc
      rw [evaluate_eq_verdicts, evaluate_eq_verdicts, samplesByDevice_filter,
        interfaceObservations_filter, bgpObservations_filter]
      refine congrArg Except.ok ?_
      dsimp only
      rw [List.filter_append, List.filter_append]
      have hcpu : ((samplesByDevice samples).entries.filterMap (cpuVerdict t)).filter
            (fun anomaly => anomaly.deviceId = deviceId) =
          ((samplesByDevice samples).entries.filter fun entry =>
            (cpuKey entry.1).deviceId = deviceId).filterMap (cpuVerdict t) :=
        filter_filterMap_device (fun _ hentry _ h => key_of_mem_cpuVerdict hentry h) deviceId
      have hflaps : ((interfaceObservations samples).entries.filterMap (flapVerdict t)).filter
            (fun anomaly => anomaly.deviceId = deviceId) =
          ((interfaceObservations samples).entries.filter fun entry =>
            (flapKey entry.1.1 entry.1.2).deviceId = deviceId).filterMap (flapVerdict t) :=
        filter_filterMap_device (fun _ _ _ h => (of_flapVerdict h).2.2.2) deviceId
      have hdowns : ((bgpObservations samples).entries.filterMap (downVerdict t)).filter
            (fun anomaly => anomaly.deviceId = deviceId) =
          ((bgpObservations samples).entries.filter fun entry =>
            (downKey entry.1.1 entry.1.2).deviceId = deviceId).filterMap (downVerdict t) :=
        filter_filterMap_device (fun _ _ _ h => (of_downVerdict h).2) deviceId
      rw [hcpu, hflaps, hdowns]
      rfl

end RuleEngine
end MetaRne
