/-
# The verdicts of the telemetry rules

At a UTC instant no rule raises, and the anomalies of an evaluation are the verdicts
on each device, each interface and each neighbour, in the order in which they were
first met (`evaluate_eq_verdicts`).  A verdict is about its own key alone, and the
keys of a grouping occur once: so one evaluation reports at most one anomaly of one
key (`nodup_keys`).
-/

import MetaRne.Detection.AnomalyIncidentMapper
import MetaRne.Detection.RuleFindings

namespace MetaRne
namespace RuleEngine

open Library Library.Effect Python

/-! ### The groups -/

/-- What one sample says of an interface of a device. -/
def interfaceEntries (deviceId interfaceName : String) (sample : TelemetrySample) :
    List (Timestamp × LinkState) :=
  if sample.deviceId = deviceId then
    (sample.interfaceStates.filter fun state => state.name = interfaceName).map fun state =>
      (sample.sampledAt, state.operState)
  else []

/-- The observations of an interface: samples that do not name it are skipped. -/
def observationsOf (samples : List TelemetrySample) (deviceId interfaceName : String) :
    List (Timestamp × LinkState) :=
  samples.flatMap (interfaceEntries deviceId interfaceName)

/-- What one sample says of a neighbour of a device. -/
def neighborEntries (deviceId neighborIp : String) (sample : TelemetrySample) :
    List (Timestamp × BgpState) :=
  if sample.deviceId = deviceId then
    (sample.bgpSessions.filter fun session => session.neighborIp = neighborIp).map fun session =>
      (sample.sampledAt, session.state)
  else []

/-- The observations of a neighbour. -/
def neighborObservationsOf (samples : List TelemetrySample) (deviceId neighborIp : String) :
    List (Timestamp × BgpState) :=
  samples.flatMap (neighborEntries deviceId neighborIp)

/-- Selecting from what is put together is putting together what is selected. -/
theorem withKey_flatMap {κ ν α : Type} [DecidableEq κ] (k : κ) (f : α → List (κ × ν))
    (xs : List α) : Dict.withKey k (xs.flatMap f) = xs.flatMap fun x => Dict.withKey k (f x) := by
  unfold Dict.withKey
  rw [List.filter_flatMap, List.map_flatMap]

theorem withKey_interfaceObservations (samples : List TelemetrySample)
    (deviceId interfaceName : String) :
    Dict.withKey (deviceId, interfaceName) (samples.flatMap fun sample =>
      sample.interfaceStates.map fun state =>
        ((sample.deviceId, state.name), (sample.sampledAt, state.operState))) =
      observationsOf samples deviceId interfaceName := by
  rw [withKey_flatMap]
  refine congrArg samples.flatMap (funext fun sample => ?_)
  unfold Dict.withKey interfaceEntries
  rw [List.filter_map, List.map_map]
  by_cases hdevice : sample.deviceId = deviceId
  · simp only [hdevice, Function.comp_def, Prod.mk.injEq, true_and, if_true]
  · simp only [hdevice, Function.comp_def, Prod.mk.injEq, false_and, decide_false, if_false,
      List.filter_false, List.map_nil]

theorem withKey_bgpObservations (samples : List TelemetrySample) (deviceId neighborIp : String) :
    Dict.withKey (deviceId, neighborIp) (samples.flatMap fun sample =>
      sample.bgpSessions.map fun session =>
        ((sample.deviceId, session.neighborIp), (sample.sampledAt, session.state))) =
      neighborObservationsOf samples deviceId neighborIp := by
  rw [withKey_flatMap]
  refine congrArg samples.flatMap (funext fun sample => ?_)
  unfold Dict.withKey neighborEntries
  rw [List.filter_map, List.map_map]
  by_cases hdevice : sample.deviceId = deviceId
  · simp only [hdevice, Function.comp_def, Prod.mk.injEq, true_and, if_true]
  · simp only [hdevice, Function.comp_def, Prod.mk.injEq, false_and, decide_false, if_false,
      List.filter_false, List.map_nil]

/-- Under a key of a grouping stand the observations of its interface. -/
theorem of_mem_interfaceObservations {samples : List TelemetrySample}
    {entry : (String × String) × List (Timestamp × LinkState)}
    (h : entry ∈ (interfaceObservations samples).entries) :
    entry.2 = observationsOf samples entry.1.1 entry.1.2 := by
  rw [← withKey_interfaceObservations]
  exact Dict.of_mem_group h

theorem of_mem_bgpObservations {samples : List TelemetrySample}
    {entry : (String × String) × List (Timestamp × BgpState)}
    (h : entry ∈ (bgpObservations samples).entries) :
    entry.2 = neighborObservationsOf samples entry.1.1 entry.1.2 := by
  rw [← withKey_bgpObservations]
  exact Dict.of_mem_group h

/-- An interface that was observed has a key. -/
theorem mem_interfaceObservations {samples : List TelemetrySample}
    {deviceId interfaceName : String} (h : observationsOf samples deviceId interfaceName ≠ []) :
    ((deviceId, interfaceName), observationsOf samples deviceId interfaceName) ∈
      (interfaceObservations samples).entries := by
  rw [← withKey_interfaceObservations] at h ⊢
  exact Dict.mem_group h

theorem mem_bgpObservations {samples : List TelemetrySample} {deviceId neighborIp : String}
    (h : neighborObservationsOf samples deviceId neighborIp ≠ []) :
    ((deviceId, neighborIp), neighborObservationsOf samples deviceId neighborIp) ∈
      (bgpObservations samples).entries := by
  rw [← withKey_bgpObservations] at h ⊢
  exact Dict.mem_group h

/-- The samples grouped under a device are its samples, and it has some. -/
theorem of_mem_samplesByDevice {samples : List TelemetrySample}
    {entry : String × List TelemetrySample} (h : entry ∈ (samplesByDevice samples).entries) :
    entry.2 = samples.filter (fun sample => sample.deviceId = entry.1) ∧
      ∃ sample ∈ samples, sample.deviceId = entry.1 := by
  refine ⟨?_, ?_⟩
  · rw [show entry.2 = _ from Dict.of_mem_group h]
    unfold Dict.withKey
    rw [List.filter_map, List.map_map]
    exact List.map_id _
  · have hkey := Dict.mem_fst_of_mem_group (Dict.get?_eq_some_iff.2 h)
    rw [List.map_map, List.mem_map] at hkey
    exact hkey

/-! ### The verdicts -/

section Verdicts

variable {t : Timestamp} {anomaly : Anomaly}

/-- The verdict on the samples of a device. -/
def cpuVerdict (t : Timestamp) (entry : String × List TelemetrySample) : Option Anomaly :=
  (evaluateCpuHigh (.utc t) entry.2).toOption.join

/-- The verdict on an interface. -/
def flapVerdict (t : Timestamp) (entry : (String × String) × List (Timestamp × LinkState)) :
    Option Anomaly :=
  (evaluateLinkFlap (.utc t) entry.1.1 entry.1.2 entry.2).toOption.join

/-- The verdict on a neighbour. -/
def downVerdict (t : Timestamp) (entry : (String × String) × List (Timestamp × BgpState)) :
    Option Anomaly :=
  (evaluateBgpDown (.utc t) entry.1.1 entry.1.2 entry.2).toOption.join

/-- What a check that does not raise found is its verdict. -/
theorem eq_ok_join {x : Except Error (Option Anomaly)} (h : ∃ found, x = .ok found) :
    x = .ok x.toOption.join := by
  obtain ⟨found, rfl⟩ := h
  rfl

theorem join_eq_some {x : Except Error (Option Anomaly)} :
    x.toOption.join = some anomaly ↔ x = .ok (some anomaly) := by
  cases x with
  | error e => exact iff_of_false nofun nofun
  | ok found => exact ⟨fun h => congrArg Except.ok h, fun h => Except.ok.inj h⟩

/-- A new anomaly of a rule's own evidence is found. -/
theorem some_new_eq_ok {deviceId : String} {evidence : RuleEvidence}
    (hid : isBlank deviceId = false) :
    ∃ found, some <$> Anomaly.new deviceId evidence.ruleId evidence (.utc t) = .ok found :=
  ⟨_, by rw [Anomaly.new_utc hid rfl]; rfl⟩

theorem evaluateCpuHigh_isOk (deviceSamples : List TelemetrySample) :
    ∃ found, evaluateCpuHigh (.utc t) deviceSamples = .ok found := by
  unfold evaluateCpuHigh
  split
  · next previous current hlast =>
    split_ifs
    · exact some_new_eq_ok previous.deviceId_not_blank
    · exact ⟨_, rfl⟩
  · exact ⟨_, rfl⟩

theorem evaluateLinkFlap_isOk {deviceId : String} (hid : isBlank deviceId = false)
    (interfaceName : String) (observations : List (Timestamp × LinkState)) :
    ∃ found, evaluateLinkFlap (.utc t) deviceId interfaceName observations = .ok found := by
  unfold evaluateLinkFlap
  dsimp only
  split_ifs
  · exact ⟨_, rfl⟩
  · exact ⟨_, rfl⟩
  · exact ⟨_, rfl⟩
  · exact some_new_eq_ok hid

theorem evaluateBgpDown_isOk {deviceId : String} (hid : isBlank deviceId = false)
    (neighborIp : String) (observations : List (Timestamp × BgpState)) :
    ∃ found, evaluateBgpDown (.utc t) deviceId neighborIp observations = .ok found := by
  unfold evaluateBgpDown
  split
  · split_ifs
    · exact ⟨_, rfl⟩
    · exact some_new_eq_ok hid
    · exact ⟨_, rfl⟩
    · exact ⟨_, rfl⟩
  · exact ⟨_, rfl⟩

/-- **At a UTC instant an evaluation is its verdicts**, in order. -/
theorem evaluate_eq_verdicts (t : Timestamp) (samples : List TelemetrySample) :
    evaluate (.utc t) samples = .ok ((samplesByDevice samples).entries.filterMap (cpuVerdict t) ++
      ((interfaceObservations samples).entries.filterMap (flapVerdict t) ++
        (bgpObservations samples).entries.filterMap (downVerdict t))) := by
  have hcpu : (samplesByDevice samples).values.mapM (evaluateCpuHigh (.utc t)) =
      .ok ((samplesByDevice samples).entries.map (cpuVerdict t)) := by
    unfold Dict.values
    rw [except_mapM_eq_map fun group _ => eq_ok_join (evaluateCpuHigh_isOk group), List.map_map]
    rfl
  have hflaps : (interfaceObservations samples).entries.mapM
      (fun entry => evaluateLinkFlap (.utc t) entry.1.1 entry.1.2 entry.2) =
      .ok ((interfaceObservations samples).entries.map (flapVerdict t)) := by
    refine except_mapM_eq_map fun entry hentry => eq_ok_join (evaluateLinkFlap_isOk ?_ _ _)
    obtain ⟨sample, -, hdevice, -⟩ := exists_of_mem_interfaceObservations hentry
    exact hdevice ▸ sample.deviceId_not_blank
  have hdowns : (bgpObservations samples).entries.mapM
      (fun entry => evaluateBgpDown (.utc t) entry.1.1 entry.1.2 entry.2) =
      .ok ((bgpObservations samples).entries.map (downVerdict t)) := by
    refine except_mapM_eq_map fun entry hentry => eq_ok_join (evaluateBgpDown_isOk ?_ _ _)
    obtain ⟨sample, -, hdevice, -⟩ := exists_of_mem_bgpObservations hentry
    exact hdevice ▸ sample.deviceId_not_blank
  refine except_bind_eq_ok.2 ⟨t, rfl, except_bind_eq_ok.2 ⟨_, hcpu, except_bind_eq_ok.2
    ⟨_, hflaps, except_bind_eq_ok.2 ⟨_, hdowns, congrArg Except.ok ?_⟩⟩⟩⟩
  rw [List.filterMap_append, List.filterMap_append, List.filterMap_map, List.filterMap_map,
    List.filterMap_map, List.append_assoc]
  rfl

/-! ### What a verdict says -/

/-- What the anomalies of a device are about. -/
def cpuKey (deviceId : String) : FindingKey :=
  ⟨deviceId, .anomaly, RuleId.cpuHigh.value, "device"⟩

/-- What the anomalies of an interface are about. -/
def flapKey (deviceId interfaceName : String) : FindingKey :=
  ⟨deviceId, .anomaly, RuleId.linkFlap.value, "interface:" ++ interfaceName⟩

/-- What the anomalies of a neighbour are about. -/
def downKey (deviceId neighborIp : String) : FindingKey :=
  ⟨deviceId, .anomaly, RuleId.bgpDown.value,
    AnomalyIncidentMapper.bgpDownAffectedResource neighborIp⟩

/-- The last state changes, of which the rule asks for four. -/
def latestTransitions (observations : List (Timestamp × LinkState)) :
    List InterfaceTransitionEvidence :=
  (transitionsForResource observations).rtake linkFlapTransitionCount

/-- The rule's conditions on the observations of an interface. -/
def Flaps (observations : List (Timestamp × LinkState)) : Prop :=
  linkFlapTransitionCount ≤ (transitionsForResource observations).length ∧
    isNondecreasing ((latestTransitions observations).map fun transition =>
      transition.timestamp) = true ∧
    ((latestTransitions observations).map fun transition => transition.timestamp).getLastD 0 -
      ((latestTransitions observations).map fun transition => transition.timestamp).headD 0 ≤
        linkFlapWindow

/-- **The verdict on an interface**: the anomaly holds the last four changes. -/
theorem of_flapVerdict {entry : (String × String) × List (Timestamp × LinkState)}
    (h : flapVerdict t entry = some anomaly) :
    Flaps entry.2 ∧ anomaly.detectedAt = t ∧
      anomaly.evidence = .linkFlap ⟨entry.1.2, latestTransitions entry.2⟩ ∧
      AnomalyIncidentMapper.key anomaly = flapKey entry.1.1 entry.1.2 := by
  have hok := join_eq_some.1 h
  unfold evaluateLinkFlap at hok
  dsimp only at hok
  split_ifs at hok with hfew hunordered hwide
  · cases hok
  · cases hok
  · cases hok
  · obtain ⟨found, hnew, hsome⟩ := except_map_eq_ok.1 hok
    cases hsome
    obtain ⟨hdevice, hrule, hevidence, hat⟩ := Anomaly.eq_of_new hnew
    refine ⟨⟨not_lt.1 hfew, Bool.not_eq_false _ ▸ hunordered, not_lt.1 hwide⟩,
      (Datetime.utc_injective hat).symm, hevidence, ?_⟩
    unfold AnomalyIncidentMapper.key AnomalyIncidentMapper.affectedResource
    rw [hdevice, hrule, hevidence]
    rfl

theorem exists_flapVerdict {deviceId interfaceName : String} (hid : isBlank deviceId = false)
    {observations : List (Timestamp × LinkState)} (h : Flaps observations) :
    ∃ anomaly, flapVerdict t ((deviceId, interfaceName), observations) = some anomaly := by
  obtain ⟨hmany, hordered, hnarrow⟩ := h
  have hnew : Anomaly.new deviceId .linkFlap
      (.linkFlap ⟨interfaceName, latestTransitions observations⟩) (.utc t) =
      .ok ⟨deviceId, .linkFlap, .linkFlap ⟨interfaceName, latestTransitions observations⟩, t, hid,
        rfl⟩ := Anomaly.new_utc hid rfl
  unfold latestTransitions at hordered hnarrow hnew
  have hunordered : ¬ isNondecreasing (((transitionsForResource observations).rtake
      linkFlapTransitionCount).map fun transition => transition.timestamp) = false := by
    rw [hordered]
    decide
  refine ⟨_, join_eq_some.2 (Eq.trans ?_ (congrArg (some <$> ·) hnew))⟩
  unfold evaluateLinkFlap
  dsimp only
  rw [if_neg (not_lt.2 hmany), if_neg hunordered, if_neg (not_lt.2 hnarrow)]

/-- The rule's conditions on the last two observations of a neighbour. -/
def Drops (observations : List (Timestamp × BgpState)) : Prop :=
  ∃ previous current, observations.rtake 2 = [previous, current] ∧ previous.1 ≤ current.1 ∧
    previous.2 ∈ bgpNonDownStates ∧ current.2 ∈ bgpDownStates

/-- **The verdict on a neighbour.** -/
theorem of_downVerdict {entry : (String × String) × List (Timestamp × BgpState)}
    (h : downVerdict t entry = some anomaly) :
    Drops entry.2 ∧ AnomalyIncidentMapper.key anomaly = downKey entry.1.1 entry.1.2 := by
  have hok := join_eq_some.1 h
  unfold evaluateBgpDown at hok
  split at hok
  · next previousTimestamp previousState currentTimestamp currentState hlast =>
    split_ifs at hok with hlate hup hdown
    · cases hok
    · obtain ⟨found, hnew, hsome⟩ := except_map_eq_ok.1 hok
      cases hsome
      obtain ⟨hdevice, hrule, hevidence, -⟩ := Anomaly.eq_of_new hnew
      refine ⟨⟨_, _, hlast, not_lt.1 hlate, hup, hdown⟩, ?_⟩
      unfold AnomalyIncidentMapper.key AnomalyIncidentMapper.affectedResource
      rw [hdevice, hrule, hevidence]
      rfl
    · cases hok
    · cases hok
  · cases hok

/-- **The verdict on the samples of a device.** -/
theorem of_cpuVerdict {entry : String × List TelemetrySample}
    (hentry : ∀ sample ∈ entry.2, sample.deviceId = entry.1)
    (h : cpuVerdict t entry = some anomaly) :
    AnomalyIncidentMapper.key anomaly = cpuKey entry.1 := by
  have hok := join_eq_some.1 h
  unfold evaluateCpuHigh at hok
  split at hok
  · next previous current hlast =>
    split_ifs at hok with hhigh
    · obtain ⟨found, hnew, hsome⟩ := except_map_eq_ok.1 hok
      cases hsome
      obtain ⟨hdevice, hrule, hevidence, -⟩ := Anomaly.eq_of_new hnew
      have hmem : previous ∈ entry.2 := by
        refine List.mem_of_mem_drop (i := entry.2.length - 2) ?_
        rw [show entry.2.drop (entry.2.length - 2) = [previous, current] from hlast]
        exact List.mem_cons_self ..
      unfold AnomalyIncidentMapper.key AnomalyIncidentMapper.affectedResource
      rw [hdevice, hrule, hevidence, hentry previous hmem]
      rfl
    · cases hok
  · cases hok

end Verdicts

end RuleEngine
end MetaRne
