/-
# What the telemetry rules find

Whatever the rules report, they read off the samples they were given: the device
is a sample's, and so is every number, interface name and neighbour address in
the evidence.  `evaluate_foundIn` says so of every anomaly.
-/

import MetaRne.Detection.RuleEngine

namespace MetaRne
namespace RuleEngine

open Library Library.Effect Python

/-- The evidence is read off samples of a device. -/
def EvidenceFoundIn (samples : List TelemetrySample) (deviceId : String) : RuleEvidence → Prop
  | .cpuHigh evidence => ∀ point ∈ evidence.samples, ∃ sample ∈ samples,
      point.cpuUtilizationPct = sample.cpuUtilizationPct
  | .linkFlap evidence => ∃ sample ∈ samples, sample.deviceId = deviceId ∧
      ∃ state ∈ sample.interfaceStates, state.name = evidence.interfaceName
  | .bgpDown evidence => ∃ sample ∈ samples, sample.deviceId = deviceId ∧
      ∃ session ∈ sample.bgpSessions, session.neighborIp = evidence.neighborIp

/-- An anomaly is read off samples: its device, its evidence, and the instant it
was observed at. -/
structure FoundIn (observedAt : Datetime) (samples : List TelemetrySample) (anomaly : Anomaly) :
    Prop where
  device : ∃ sample ∈ samples, sample.deviceId = anomaly.deviceId
  evidence : EvidenceFoundIn samples anomaly.deviceId anomaly.evidence
  observed : observedAt = .utc anomaly.detectedAt

variable {observedAt : Datetime} {samples : List TelemetrySample} {anomaly : Anomaly}

/-- The samples grouped under a device are among those given. -/
theorem mem_of_mem_samplesByDevice {group : List TelemetrySample} {sample : TelemetrySample}
    (hgroup : group ∈ (samplesByDevice samples).values) (hmem : sample ∈ group) :
    sample ∈ samples := by
  obtain ⟨deviceId, hget⟩ := Dict.mem_values_iff.1 hgroup
  rw [Dict.get?_eq_some_iff] at hget
  rw [Dict.of_mem_group hget, Dict.mem_withKey, List.mem_map] at hmem
  obtain ⟨sample', hmem', hpair⟩ := hmem
  have hsame : sample' = sample := congrArg Prod.snd hpair
  rw [← hsame]
  exact hmem'

theorem evaluateCpuHigh_foundIn {group : List TelemetrySample}
    (hgroup : ∀ sample ∈ group, sample ∈ samples)
    (h : evaluateCpuHigh observedAt group = .ok (some anomaly)) :
    FoundIn observedAt samples anomaly := by
  unfold evaluateCpuHigh at h
  split at h
  · next previous current hlast =>
    have hin : ∀ sample ∈ [previous, current], sample ∈ samples := fun sample hmem => by
      rw [← hlast] at hmem
      exact hgroup sample (List.mem_of_mem_drop hmem)
    split_ifs at h with hhigh
    · obtain ⟨found, hnew, hsome⟩ := except_map_eq_ok.1 h
      cases hsome
      obtain ⟨hdev, -, hevidence, hat⟩ := Anomaly.eq_of_new hnew
      refine ⟨⟨previous, hin previous (List.mem_cons_self ..), hdev.symm⟩, ?_, hat⟩
      rw [hevidence]
      intro point hpoint
      obtain ⟨sample, hmem, rfl⟩ := List.mem_map.1 hpoint
      exact ⟨sample, hin sample hmem, rfl⟩
    · cases h
  · cases h

theorem evaluateLinkFlap_foundIn {deviceId interfaceName : String}
    {observations : List (Timestamp × LinkState)}
    (hkey : ∃ sample ∈ samples, sample.deviceId = deviceId ∧
      ∃ state ∈ sample.interfaceStates, state.name = interfaceName)
    (h : evaluateLinkFlap observedAt deviceId interfaceName observations = .ok (some anomaly)) :
    FoundIn observedAt samples anomaly := by
  unfold evaluateLinkFlap at h
  dsimp only at h
  split_ifs at h with hfew hunordered hwide
  · cases h
  · cases h
  · cases h
  · obtain ⟨found, hnew, hsome⟩ := except_map_eq_ok.1 h
    cases hsome
    obtain ⟨hdev, -, hevidence, hat⟩ := Anomaly.eq_of_new hnew
    obtain ⟨sample, hmem, hsample, hstate⟩ := hkey
    refine ⟨⟨sample, hmem, hsample.trans hdev.symm⟩, ?_, hat⟩
    rw [hevidence, hdev]
    exact ⟨sample, hmem, hsample, hstate⟩

theorem evaluateBgpDown_foundIn {deviceId neighborIp : String}
    {observations : List (Timestamp × BgpState)}
    (hkey : ∃ sample ∈ samples, sample.deviceId = deviceId ∧
      ∃ session ∈ sample.bgpSessions, session.neighborIp = neighborIp)
    (h : evaluateBgpDown observedAt deviceId neighborIp observations = .ok (some anomaly)) :
    FoundIn observedAt samples anomaly := by
  unfold evaluateBgpDown at h
  split at h
  · next previousTimestamp previousState currentTimestamp currentState _ =>
    split_ifs at h with hlate hup hdown
    · cases h
    · obtain ⟨found, hnew, hsome⟩ := except_map_eq_ok.1 h
      cases hsome
      obtain ⟨hdev, -, hevidence, hat⟩ := Anomaly.eq_of_new hnew
      obtain ⟨sample, hmem, hsample, hsession⟩ := hkey
      refine ⟨⟨sample, hmem, hsample.trans hdev.symm⟩, ?_, hat⟩
      rw [hevidence, hdev]
      exact ⟨sample, hmem, hsample, hsession⟩
    · cases h
    · cases h
  · cases h

/-- The interface under which observations are grouped is one of a sample. -/
theorem exists_of_mem_interfaceObservations {deviceId interfaceName : String}
    {observations : List (Timestamp × LinkState)}
    (h : ((deviceId, interfaceName), observations) ∈ (interfaceObservations samples).entries) :
    ∃ sample ∈ samples, sample.deviceId = deviceId ∧
      ∃ state ∈ sample.interfaceStates, state.name = interfaceName := by
  have hmem := Dict.mem_fst_of_mem_group (Dict.get?_eq_some_iff.2 h)
  simp only [List.mem_map, List.mem_flatMap, Prod.exists, exists_and_right, exists_eq_right,
    Prod.mk.injEq] at hmem
  obtain ⟨_, _, sample, hsample, state, hstate, ⟨hdev, hname⟩, -⟩ := hmem
  exact ⟨sample, hsample, hdev, state, hstate, hname⟩

/-- The neighbour under which observations are grouped is one of a sample. -/
theorem exists_of_mem_bgpObservations {deviceId neighborIp : String}
    {observations : List (Timestamp × BgpState)}
    (h : ((deviceId, neighborIp), observations) ∈ (bgpObservations samples).entries) :
    ∃ sample ∈ samples, sample.deviceId = deviceId ∧
      ∃ session ∈ sample.bgpSessions, session.neighborIp = neighborIp := by
  have hmem := Dict.mem_fst_of_mem_group (Dict.get?_eq_some_iff.2 h)
  simp only [List.mem_map, List.mem_flatMap, Prod.exists, exists_and_right, exists_eq_right,
    Prod.mk.injEq] at hmem
  obtain ⟨_, _, sample, hsample, session, hsession, ⟨hdev, hname⟩, -⟩ := hmem
  exact ⟨sample, hsample, hdev, session, hsession, hname⟩

/-- **Every anomaly is read off the samples.** -/
theorem evaluate_foundIn {anomalies : List Anomaly}
    (h : evaluate observedAt samples = .ok anomalies) :
    ∀ anomaly ∈ anomalies, FoundIn observedAt samples anomaly := by
  obtain ⟨_, -, h⟩ := except_bind_eq_ok.1 h
  obtain ⟨cpu, hcpu, h⟩ := except_bind_eq_ok.1 h
  obtain ⟨flaps, hflaps, h⟩ := except_bind_eq_ok.1 h
  obtain ⟨downs, hdowns, h⟩ := except_bind_eq_ok.1 h
  obtain rfl := Except.ok.inj h
  intro anomaly hmem
  rw [List.mem_filterMap] at hmem
  obtain ⟨found, hfound, rfl⟩ := hmem
  simp only [List.mem_append] at hfound
  rcases hfound with (hfound | hfound) | hfound
  · obtain ⟨group, hgroup, hrun⟩ := exists_of_mem_except_mapM hcpu hfound
    exact evaluateCpuHigh_foundIn (fun _ => mem_of_mem_samplesByDevice hgroup) hrun
  · obtain ⟨⟨⟨deviceId, name⟩, observations⟩, hentry, hrun⟩ :=
      exists_of_mem_except_mapM hflaps hfound
    exact evaluateLinkFlap_foundIn (exists_of_mem_interfaceObservations hentry) hrun
  · obtain ⟨⟨⟨deviceId, neighborIp⟩, observations⟩, hentry, hrun⟩ :=
      exists_of_mem_except_mapM hdowns hfound
    exact evaluateBgpDown_foundIn (exists_of_mem_bgpObservations hentry) hrun

end RuleEngine
end MetaRne
