/-
# What one sample adds to the counts of the telemetry rules

The rules count the entries of a sample, and a sample may name an interface or a
neighbour more than once: its names are kept as they come.  So the last sample adds as
many observations as it has entries, and at most as many state changes; which is one of
each where it names everything once (`evaluate_sampleCounts`).
-/

import MetaRne.Detection.LinkFlaps

namespace MetaRne
namespace RuleEngine

open Library Python

/-- The state changes that the rule counts for an interface. -/
def changesCounted (samples : List TelemetrySample) (deviceId interfaceName : String) : ℕ :=
  (transitionsForResource
    (((interfaceObservations samples).get? (deviceId, interfaceName)).getD [])).length

/-- The observations that the rule counts for a neighbour. -/
def observationsCounted (samples : List TelemetrySample) (deviceId neighborIp : String) : ℕ :=
  (((bgpObservations samples).get? (deviceId, neighborIp)).getD []).length

/-- A sample names each interface and each neighbour at most once. -/
def NamesOnce (sample : TelemetrySample) : Prop :=
  (sample.interfaceStates.map InterfaceState.name).Nodup ∧
    (sample.bgpSessions.map BgpSession.neighborIp).Nodup

instance decidableNamesOnce (sample : TelemetrySample) : Decidable (NamesOnce sample) :=
  inferInstanceAs (Decidable (_ ∧ _))

variable {sample : TelemetrySample} {deviceId interfaceName neighborIp : String}

theorem changesCounted_eq (samples : List TelemetrySample) (deviceId interfaceName : String) :
    changesCounted samples deviceId interfaceName =
      (transitionsForResource (observationsOf samples deviceId interfaceName)).length := by
  unfold changesCounted interfaceObservations
  rw [Dict.getD_group, withKey_interfaceObservations]

theorem observationsCounted_eq (samples : List TelemetrySample) (deviceId neighborIp : String) :
    observationsCounted samples deviceId neighborIp =
      (neighborObservationsOf samples deviceId neighborIp).length := by
  unfold observationsCounted bgpObservations
  rw [Dict.getD_group, withKey_bgpObservations]

/-! ### State changes -/

theorem length_transitionsFrom_le (state : LinkState) (observations : List (Timestamp × LinkState)) :
    (transitionsFrom state observations).length ≤ observations.length := by
  induction observations generalizing state with
  | nil => exact le_refl 0
  | cons observation rest ih =>
      have hrest := ih observation.2
      rw [transitionsFrom]
      split_ifs
      · exact Nat.succ_le_succ hrest
      · exact Nat.le_succ_of_le hrest

/-- More observations add at most as many changes. -/
theorem length_transitionsFrom_append_le (state : LinkState)
    (observations more : List (Timestamp × LinkState)) :
    (transitionsFrom state (observations ++ more)).length ≤
      (transitionsFrom state observations).length + more.length := by
  induction observations generalizing state with
  | nil =>
      have hmore := length_transitionsFrom_le state more
      rw [List.nil_append, transitionsFrom, List.length_nil]
      omega
  | cons observation rest ih =>
      have hrest := ih observation.2
      rw [List.cons_append, transitionsFrom, transitionsFrom]
      split_ifs
      · rw [List.length_cons, List.length_cons]
        omega
      · exact hrest

/-- The first observation is no change. -/
theorem length_transitionsForResource_le (observations : List (Timestamp × LinkState)) :
    (transitionsForResource observations).length ≤ observations.length - 1 := by
  cases observations with
  | nil => exact le_refl 0
  | cons observation rest => exact length_transitionsFrom_le observation.2 rest

theorem length_transitionsForResource_append_le (observations more : List (Timestamp × LinkState)) :
    (transitionsForResource (observations ++ more)).length ≤
      (transitionsForResource observations).length + more.length := by
  cases observations with
  | nil =>
      have hmore := length_transitionsForResource_le more
      rw [List.nil_append]
      omega
  | cons observation rest => exact length_transitionsFrom_append_le observation.2 rest more

/-! ### Entries -/

/-- What names everything once has at most one entry of a name. -/
theorem length_filter_le_one {α : Type} {name : α → String} {xs : List α}
    (h : (xs.map name).Nodup) (wanted : String) :
    (xs.filter fun x => name x = wanted).length ≤ 1 := by
  have hcount : (xs.filter fun x => name x = wanted).length = (xs.map name).count wanted := by
    rw [List.count, List.countP_map, List.countP_eq_length_filter]
    rfl
  rw [hcount]
  exact List.nodup_iff_count_le_one.1 h wanted

theorem length_interfaceEntries_le_one (h : NamesOnce sample) :
    (interfaceEntries deviceId interfaceName sample).length ≤ 1 := by
  unfold interfaceEntries
  split_ifs
  · rw [List.length_map]
    exact length_filter_le_one h.1 interfaceName
  · exact Nat.zero_le 1

theorem length_neighborEntries_le_one (h : NamesOnce sample) :
    (neighborEntries deviceId neighborIp sample).length ≤ 1 := by
  unfold neighborEntries
  split_ifs
  · rw [List.length_map]
    exact length_filter_le_one h.2 neighborIp
  · exact Nat.zero_le 1

/-- The last sample adds its entries. -/
theorem observationsOf_concat (samples : List TelemetrySample) (sample : TelemetrySample) :
    observationsOf (samples ++ [sample]) deviceId interfaceName =
      observationsOf samples deviceId interfaceName ++
        interfaceEntries deviceId interfaceName sample := by
  unfold observationsOf
  rw [List.flatMap_append, List.flatMap_singleton]

theorem neighborObservationsOf_concat (samples : List TelemetrySample) (sample : TelemetrySample) :
    neighborObservationsOf (samples ++ [sample]) deviceId neighborIp =
      neighborObservationsOf samples deviceId neighborIp ++
        neighborEntries deviceId neighborIp sample := by
  unfold neighborObservationsOf
  rw [List.flatMap_append, List.flatMap_singleton]

/-- **The last sample adds at most as many changes as it has entries.** -/
theorem changesCounted_concat_le (samples : List TelemetrySample) (sample : TelemetrySample) :
    changesCounted (samples ++ [sample]) deviceId interfaceName ≤
      changesCounted samples deviceId interfaceName +
        (interfaceEntries deviceId interfaceName sample).length := by
  rw [changesCounted_eq, changesCounted_eq, observationsOf_concat]
  exact length_transitionsForResource_append_le _ _

theorem observationsCounted_concat (samples : List TelemetrySample) (sample : TelemetrySample) :
    observationsCounted (samples ++ [sample]) deviceId neighborIp =
      observationsCounted samples deviceId neighborIp +
        (neighborEntries deviceId neighborIp sample).length := by
  rw [observationsCounted_eq, observationsCounted_eq, neighborObservationsOf_concat,
    List.length_append]

/-- Samples that name an interface once are at least as many as its observations. -/
theorem length_observationsOf_le {samples : List TelemetrySample}
    (h : ∀ sample ∈ samples, NamesOnce sample) :
    (observationsOf samples deviceId interfaceName).length ≤ samples.length := by
  induction samples with
  | nil => exact le_refl 0
  | cons sample samples ih =>
      obtain ⟨hsample, hrest⟩ := List.forall_mem_cons.1 h
      have hone : (interfaceEntries deviceId interfaceName sample).length ≤ 1 :=
        length_interfaceEntries_le_one hsample
      have hmany := ih hrest
      unfold observationsOf at hmany ⊢
      rw [List.flatMap_cons, List.length_append, List.length_cons]
      omega

/-! ### What is reported -/

/-- A reported link flap is of an interface with four changes. -/
theorem four_le_changesCounted {observedAt : Datetime} {samples : List TelemetrySample}
    {anomalies : List Anomaly} (h : evaluate observedAt samples = .ok anomalies)
    {anomaly : Anomaly} (hmem : anomaly ∈ anomalies) (hrule : anomaly.ruleId = .linkFlap) :
    ∃ interfaceName, 4 ≤ changesCounted samples anomaly.deviceId interfaceName := by
  obtain ⟨t, rfl, -⟩ := eq_of_evaluate h
  have hsame := anomaly.evidence_ruleId.trans hrule
  cases hevidence : anomaly.evidence with
  | cpuHigh evidence =>
      rw [hevidence] at hsame
      cases hsame
  | bgpDown evidence =>
      rw [hevidence] at hsame
      cases hsame
  | linkFlap evidence =>
      have hkey := isLinkFlap_iff.1 ⟨hrule, rfl, evidence.transitions, hevidence⟩
      obtain ⟨⟨hmany, -⟩, -⟩ := of_flapVerdict ((mem_flap_iff h).1 ⟨hmem, hkey⟩)
      exact ⟨evidence.interfaceName, by rw [changesCounted_eq]; exact hmany⟩

/-- A reported session drop is of a neighbour with two observations. -/
theorem two_le_observationsCounted {observedAt : Datetime} {samples : List TelemetrySample}
    {anomalies : List Anomaly} (h : evaluate observedAt samples = .ok anomalies)
    {anomaly : Anomaly} (hmem : anomaly ∈ anomalies) (hrule : anomaly.ruleId = .bgpDown) :
    ∃ neighborIp, 2 ≤ observationsCounted samples anomaly.deviceId neighborIp := by
  obtain ⟨t, rfl, -⟩ := eq_of_evaluate h
  have hsame := anomaly.evidence_ruleId.trans hrule
  cases hevidence : anomaly.evidence with
  | cpuHigh evidence =>
      rw [hevidence] at hsame
      cases hsame
  | linkFlap evidence =>
      rw [hevidence] at hsame
      cases hsame
  | bgpDown evidence =>
      have hkey : AnomalyIncidentMapper.key anomaly =
          downKey anomaly.deviceId evidence.neighborIp := by
        unfold AnomalyIncidentMapper.key AnomalyIncidentMapper.affectedResource downKey
        rw [hrule, hevidence]
      obtain ⟨⟨_, _, hlast, -⟩, -⟩ := of_downVerdict ((mem_down_iff h).1 ⟨hmem, hkey⟩)
      refine ⟨evidence.neighborIp, ?_⟩
      rw [observationsCounted_eq]
      have hlength : (neighborObservationsOf samples anomaly.deviceId evidence.neighborIp).length -
          ((neighborObservationsOf samples anomaly.deviceId evidence.neighborIp).length - 2) = 2 := by
        rw [← List.length_drop]
        exact congrArg List.length hlast
      omega

/-- A single sample that names everything once is too little for a flap or a drop. -/
theorem evaluate_singleton {observedAt : Datetime} {anomalies : List Anomaly}
    (h : evaluate observedAt [sample] = .ok anomalies) (hnames : NamesOnce sample)
    {anomaly : Anomaly} (hmem : anomaly ∈ anomalies) : anomaly.ruleId = .cpuHigh := by
  cases hrule : anomaly.ruleId with
  | cpuHigh => rfl
  | linkFlap =>
      obtain ⟨interfaceName, hfour⟩ := four_le_changesCounted h hmem hrule
      have hnone : changesCounted [] anomaly.deviceId interfaceName = 0 := rfl
      have hadds : changesCounted [sample] anomaly.deviceId interfaceName ≤ _ :=
        changesCounted_concat_le [] sample
      have hone : (interfaceEntries anomaly.deviceId interfaceName sample).length ≤ 1 :=
        length_interfaceEntries_le_one hnames
      omega
  | bgpDown =>
      obtain ⟨neighborIp, htwo⟩ := two_le_observationsCounted h hmem hrule
      have hnone : observationsCounted [] anomaly.deviceId neighborIp = 0 := rfl
      have hadds : observationsCounted [sample] anomaly.deviceId neighborIp = _ :=
        observationsCounted_concat [] sample
      have hone : (neighborEntries anomaly.deviceId neighborIp sample).length ≤ 1 :=
        length_neighborEntries_le_one hnames
      omega

/-- **What one sample adds.**  The last sample adds at most as many state changes of an
interface, and exactly as many observations of a neighbour, as it has entries for it: at most
one, where it names everything once.  Such a sample alone is never reported as a flap or a
drop, and over such samples an interface has fewer changes than there are samples. -/
theorem evaluate_sampleCounts (samples : List TelemetrySample) (sample : TelemetrySample)
    (deviceId : String) :
    (∀ interfaceName, changesCounted (samples ++ [sample]) deviceId interfaceName ≤
      changesCounted samples deviceId interfaceName +
        (interfaceEntries deviceId interfaceName sample).length) ∧
    (∀ neighborIp, observationsCounted (samples ++ [sample]) deviceId neighborIp =
      observationsCounted samples deviceId neighborIp +
        (neighborEntries deviceId neighborIp sample).length) ∧
    (NamesOnce sample →
      (∀ interfaceName, changesCounted (samples ++ [sample]) deviceId interfaceName ≤
        changesCounted samples deviceId interfaceName + 1) ∧
      (∀ neighborIp, observationsCounted (samples ++ [sample]) deviceId neighborIp ≤
        observationsCounted samples deviceId neighborIp + 1) ∧
      ∀ observedAt anomalies, evaluate observedAt [sample] = .ok anomalies →
        ∀ anomaly ∈ anomalies, anomaly.ruleId ≠ .linkFlap ∧ anomaly.ruleId ≠ .bgpDown) ∧
    ((∀ each ∈ samples, NamesOnce each) → ∀ interfaceName,
      changesCounted samples deviceId interfaceName ≤ samples.length - 1) := by
  refine ⟨fun _ => changesCounted_concat_le samples sample,
    fun _ => observationsCounted_concat samples sample, fun hnames => ⟨?_, ?_, ?_⟩, ?_⟩
  · intro interfaceName
    exact (changesCounted_concat_le samples sample).trans
      (Nat.add_le_add_left (length_interfaceEntries_le_one hnames) _)
  · intro neighborIp
    rw [observationsCounted_concat]
    exact Nat.add_le_add_left (length_neighborEntries_le_one hnames) _
  · intro observedAt anomalies h anomaly hmem
    rw [evaluate_singleton h hnames hmem]
    decide
  · intro hnames interfaceName
    have hobservations : (observationsOf samples deviceId interfaceName).length ≤ samples.length :=
      length_observationsOf_le hnames
    have hchanges := length_transitionsForResource_le
      (observationsOf samples deviceId interfaceName)
    rw [changesCounted_eq]
    omega

/-- Up, down, up: the third of three samples adds one change, and there are two. -/
theorem evaluate_sampleCounts_third :
    changesCounted (flappingSamples.take 3) "r1" "eth0" ≤
        changesCounted (flappingSamples.take 2) "r1" "eth0" + 1 ∧
      changesCounted (flappingSamples.take 3) "r1" "eth0" ≤ 2 := by
  have hthree : flappingSamples.take 3 =
      flappingSamples.take 2 ++ [flappingSamples.get ⟨2, by decide⟩] := rfl
  obtain ⟨-, -, honce, -⟩ := evaluate_sampleCounts (flappingSamples.take 2)
    (flappingSamples.get ⟨2, by decide⟩) "r1"
  obtain ⟨-, -, -, hfew⟩ := evaluate_sampleCounts (flappingSamples.take 3)
    (flappingSamples.get ⟨2, by decide⟩) "r1"
  refine ⟨?_, hfew (by decide +kernel) "eth0"⟩
  rw [hthree]
  exact (honce (by decide +kernel)).1 "eth0"

/-- One sample that says of an interface and of a neighbour both this and that. -/
def repeatedSample : TelemetrySample :=
  ⟨"r1", 0, .finite 3, .finite 3, .finite 0,
    [⟨"eth0", .up⟩, ⟨"eth0", .down⟩, ⟨"eth0", .up⟩, ⟨"eth0", .down⟩, ⟨"eth0", .up⟩],
    [⟨"10.0.0.2", .established⟩, ⟨"10.0.0.2", .idle⟩], not_isBlank_r1, isPercentage_three,
    isPercentage_three⟩

/-- The domain admits it, and alone it is both a flap and a drop: it adds four changes, to none,
and two observations. -/
theorem evaluate_repeatedSample :
    TelemetrySample.new "r1" (.utc 0) (.finite 3) (.finite 3) (.finite 0)
        repeatedSample.interfaceStates repeatedSample.bgpSessions = .ok repeatedSample ∧
      ((evaluate (.utc 0) [repeatedSample]).toOption.map fun anomalies =>
        anomalies.map Anomaly.ruleId) = some [.linkFlap, .bgpDown] ∧
      changesCounted [repeatedSample] "r1" "eth0" = 4 ∧
      observationsCounted [repeatedSample] "r1" "10.0.0.2" = 2 := by
  refine ⟨rfl, ?_⟩
  decide +kernel

end RuleEngine
end MetaRne
