/-
# The link-flap rule meets its specification

Specified over the observations of an interface: its state changes are the observations
that differ from the one before, and it flaps if four of them lie in the minute that
ends with the last one.  The rule looks at the last four changes only, which is the same
where the samples are in order of time (`flaps_iff`).
-/

import MetaRne.Detection.RuleIsolation
import MetaRne.Library.Window

namespace MetaRne
namespace RuleEngine

open Library Library.Window Python

/-- The changes of state: observations that differ from the one before. -/
def stateChanges (observations : List (Timestamp × LinkState)) :
    List InterfaceTransitionEvidence :=
  ((observations.zip observations.tail).filter fun pair => pair.1.2 ≠ pair.2.2).map fun pair =>
    ⟨pair.2.1, pair.2.2⟩

/-- The time of the last change. -/
def lastChange (changes : List InterfaceTransitionEvidence) : Timestamp :=
  (changes.getLast?.map fun change => change.timestamp).getD 0

/-- The changes in the closed minute that ends with the last one. -/
def recentChanges (changes : List InterfaceTransitionEvidence) :
    List InterfaceTransitionEvidence :=
  changes.filter fun change =>
    lastChange changes ≤ change.timestamp + linkFlapWindow && change.timestamp ≤ lastChange changes

/-- An anomaly about the flapping of an interface. -/
def IsLinkFlap (deviceId interfaceName : String) (anomaly : Anomaly) : Prop :=
  anomaly.ruleId = .linkFlap ∧ anomaly.deviceId = deviceId ∧
    ∃ transitions, anomaly.evidence = .linkFlap ⟨interfaceName, transitions⟩

theorem transitionsFrom_eq (previous : Timestamp × LinkState)
    (observations : List (Timestamp × LinkState)) :
    transitionsFrom previous.2 observations = stateChanges (previous :: observations) := by
  induction observations generalizing previous with
  | nil => rfl
  | cons current rest ih =>
      have hrest := ih current
      unfold stateChanges at hrest ⊢
      rw [List.tail_cons, List.zip_cons_cons, transitionsFrom]
      rw [List.tail_cons] at hrest
      by_cases hsame : current.2 = previous.2
      · rw [if_neg (not_not.2 hsame), List.filter_cons_of_neg (by simp [hsame]), ← hrest]
      · rw [if_pos hsame, List.filter_cons_of_pos (by simp [Ne.symm hsame]), List.map_cons, ← hrest]

/-- The rule's state changes are those of the specification. -/
theorem transitionsForResource_eq (observations : List (Timestamp × LinkState)) :
    transitionsForResource observations = stateChanges observations := by
  cases observations with
  | nil => rfl
  | cons first rest => exact transitionsFrom_eq first rest

/-! ### In order of time -/

section Ordered

variable {observations : List (Timestamp × LinkState)}

/-- The changes of ordered observations are in order. -/
theorem stateChanges_inOrder (h : observations.Pairwise fun a b => a.1 ≤ b.1) :
    Window.InOrder InterfaceTransitionEvidence.timestamp (stateChanges observations) := by
  unfold Window.InOrder stateChanges
  rw [List.pairwise_map]
  refine List.Pairwise.filter _ ?_
  have hsecond : ((observations.zip observations.tail).map Prod.snd).Pairwise
      fun a b => a.1 ≤ b.1 := by
    refine List.Pairwise.sublist ?_ h
    refine (List.Sublist.trans ?_ (List.tail_sublist observations))
    rw [List.map_snd_zip (by rw [List.length_tail]; omega)]
  have hpairs := List.pairwise_map.1 hsecond
  exact hpairs

/-- No change is later than the last. -/
theorem timestamp_le_lastChange {changes : List InterfaceTransitionEvidence}
    (h : Window.InOrder InterfaceTransitionEvidence.timestamp changes)
    {change : InterfaceTransitionEvidence} (hmem : change ∈ changes) :
    change.timestamp ≤ lastChange changes := by
  cases hlast : changes.getLast? with
  | none =>
      rw [List.getLast?_eq_none_iff.1 hlast] at hmem
      exact absurd hmem List.not_mem_nil
  | some last =>
      obtain ⟨front, rfl⟩ := List.getLast?_eq_some_iff.1 hlast
      rw [lastChange, hlast]
      rcases List.mem_append.1 hmem with hmem | hmem
      · exact (List.pairwise_append.1 h).2.2 change hmem last (List.mem_singleton_self last)
      · rw [List.mem_singleton.1 hmem]
        exact le_refl _

theorem isNondecreasing_of_pairwise {timestamps : List Timestamp}
    (h : timestamps.Pairwise (· ≤ ·)) : isNondecreasing timestamps = true := by
  unfold isNondecreasing
  rw [List.all_eq_true]
  induction timestamps with
  | nil => exact nofun
  | cons first rest ih =>
      obtain ⟨hfirst, hrest⟩ := List.pairwise_cons.1 h
      cases rest with
      | nil => exact nofun
      | cons second rest =>
          rw [List.tail_cons, List.zip_cons_cons]
          intro pair hpair
          rcases List.mem_cons.1 hpair with rfl | hpair
          · exact decide_eq_true (hfirst second (List.mem_cons_self ..))
          · exact ih hrest pair hpair

/-- **The last four changes decide**: in order of time, they lie within a minute exactly
where four changes lie in the minute that ends with the last one. -/
theorem flaps_iff (h : observations.Pairwise fun a b => a.1 ≤ b.1) :
    Flaps observations ↔
      linkFlapTransitionCount ≤ (recentChanges (stateChanges observations)).length := by
  have hordered := stateChanges_inOrder h
  unfold Flaps latestTransitions
  rw [transitionsForResource_eq]
  generalize stateChanges observations = changes at hordered ⊢
  by_cases hmany : linkFlapTransitionCount ≤ changes.length
  · obtain ⟨first, rest, hlatest⟩ : ∃ first rest,
        changes.rtake linkFlapTransitionCount = first :: rest := by
      refine List.exists_cons_of_ne_nil fun hnil => ?_
      have hlength : (changes.rtake linkFlapTransitionCount).length = 0 := by rw [hnil]; rfl
      have hfour : linkFlapTransitionCount = 4 := rfl
      rw [List.rtake, List.length_drop] at hlength
      omega
    have hrecent : recentChanges changes = changes.filter fun change =>
        lastChange changes ≤ change.timestamp + linkFlapWindow :=
      List.filter_congr fun change hmem => by
        rw [decide_eq_true (timestamp_le_lastChange hordered hmem), Bool.and_true]
    have hlasting : Lasting InterfaceTransitionEvidence.timestamp fun change =>
        decide (lastChange changes ≤ change.timestamp + linkFlapWindow) := fun a b hle ha =>
      decide_eq_true ((of_decide_eq_true ha).trans (Nat.add_le_add_right hle _))
    have hsuffix : Window.InOrder InterfaceTransitionEvidence.timestamp (first :: rest) := by
      rw [← hlatest]
      exact hordered.drop
    have hlast : ((first :: rest).map fun change => change.timestamp).getLastD 0 =
        lastChange changes := by
      have hsplit : changes = changes.rdrop linkFlapTransitionCount ++ first :: rest := by
        rw [← hlatest, List.rdrop, List.rtake, List.take_append_drop]
      unfold lastChange
      rw [hsplit, List.getLast?_append_of_ne_nil _ (List.cons_ne_nil _ _),
        List.getLastD_eq_getLast?, List.getLast?_map]
    have hnondecreasing : isNondecreasing ((first :: rest).map fun change => change.timestamp) =
        true := isNondecreasing_of_pairwise (List.pairwise_map.2 hsuffix)
    rw [hrecent, le_length_filter_iff hlasting hordered hlatest hmany, hlatest, hlast,
      decide_eq_true_iff]
    constructor
    · rintro ⟨-, -, hnarrow⟩
      exact Nat.sub_le_iff_le_add'.1 hnarrow
    · intro hnarrow
      exact ⟨hmany, hnondecreasing, Nat.sub_le_iff_le_add'.2 hnarrow⟩
  · refine iff_of_false (fun hflaps => hmany hflaps.1) fun hrecent => hmany ?_
    exact hrecent.trans (List.length_filter_le ..)

end Ordered

/-! ### The anomalies -/

/-- The anomalies about an interface are those of its key. -/
theorem isLinkFlap_iff {deviceId interfaceName : String} {anomaly : Anomaly} :
    IsLinkFlap deviceId interfaceName anomaly ↔
      AnomalyIncidentMapper.key anomaly = flapKey deviceId interfaceName := by
  unfold IsLinkFlap AnomalyIncidentMapper.key flapKey
  rw [FindingKey.mk.injEq]
  constructor
  · rintro ⟨hrule, hdevice, transitions, hevidence⟩
    refine ⟨hdevice, rfl, by rw [hrule], ?_⟩
    unfold AnomalyIncidentMapper.affectedResource
    rw [hevidence]
  · rintro ⟨hdevice, -, hvalue, hresource⟩
    have hrule := RuleId.value_injective hvalue
    have hsame := anomaly.evidence_ruleId.trans hrule
    unfold AnomalyIncidentMapper.affectedResource at hresource
    cases hevidence : anomaly.evidence with
    | cpuHigh evidence =>
        rw [hevidence] at hsame
        cases hsame
    | bgpDown evidence =>
        rw [hevidence] at hsame
        cases hsame
    | linkFlap evidence =>
        rw [hevidence] at hresource
        exact ⟨hrule, hdevice, evidence.transitions,
          by rw [← (String.append_right_inj _).1 hresource]⟩

/-- An interface that was observed is one of a device with a name. -/
theorem not_isBlank_of_observed {samples : List TelemetrySample} {deviceId interfaceName : String}
    (h : observationsOf samples deviceId interfaceName ≠ []) : isBlank deviceId = false := by
  obtain ⟨observation, hmem⟩ := List.exists_mem_of_ne_nil _ h
  obtain ⟨sample, -, hentry⟩ := List.mem_flatMap.1 hmem
  unfold interfaceEntries at hentry
  split_ifs at hentry with hdevice
  · exact hdevice ▸ sample.deviceId_not_blank
  · exact absurd hentry List.not_mem_nil

/-- The observations of an interface are in the order of the samples. -/
theorem observationsOf_pairwise {samples : List TelemetrySample}
    (h : samples.Pairwise fun a b => a.sampledAt ≤ b.sampledAt) (deviceId interfaceName : String) :
    (observationsOf samples deviceId interfaceName).Pairwise fun a b => a.1 ≤ b.1 := by
  have htime : ∀ sample, ∀ observation ∈ interfaceEntries deviceId interfaceName sample,
      observation.1 = sample.sampledAt := by
    intro sample observation hmem
    unfold interfaceEntries at hmem
    split_ifs at hmem
    · obtain ⟨state, -, rfl⟩ := List.mem_map.1 hmem
      rfl
    · exact absurd hmem List.not_mem_nil
  unfold observationsOf
  rw [List.pairwise_flatMap]
  refine ⟨fun sample _ => ?_, h.imp fun {a b} hle x hx y hy => ?_⟩
  · exact List.pairwise_of_forall_mem_list fun x hx y hy => by
      rw [htime sample x hx, htime sample y hy]
  · rw [htime a x hx, htime b y hy]
    exact hle

/-- **The link-flap rule.**  Over samples in order of time, of any devices, an evaluation
reports an interface exactly where four of its state changes lie in the closed minute that
ends with the last one; and its evidence is the last four changes, in order. -/
theorem evaluate_linkFlap (t : Timestamp) (samples : List TelemetrySample)
    (hordered : samples.Pairwise fun a b => a.sampledAt ≤ b.sampledAt) :
    ∃ anomalies, evaluate (.utc t) samples = .ok anomalies ∧ ∀ deviceId interfaceName,
      ((∃ anomaly ∈ anomalies, IsLinkFlap deviceId interfaceName anomaly) ↔
        4 ≤ (recentChanges (stateChanges
          (observationsOf samples deviceId interfaceName))).length) ∧
      ∀ anomaly ∈ anomalies, IsLinkFlap deviceId interfaceName anomaly →
        anomaly.evidence = .linkFlap ⟨interfaceName,
          (stateChanges (observationsOf samples deviceId interfaceName)).rtake 4⟩ := by
  have hevaluate := evaluate_eq_verdicts t samples
  refine ⟨_, hevaluate, fun deviceId interfaceName => ⟨?_, fun anomaly hmem hflap => ?_⟩⟩
  · have hflaps := flaps_iff (observationsOf_pairwise hordered deviceId interfaceName)
    refine Iff.trans ?_ hflaps
    constructor
    · rintro ⟨anomaly, hmem, hflap⟩
      exact (of_flapVerdict ((mem_flap_iff hevaluate).1 ⟨hmem, isLinkFlap_iff.1 hflap⟩)).1
    · intro hflap
      have hne : observationsOf samples deviceId interfaceName ≠ [] := by
        intro hnil
        rw [hnil] at hflap
        exact Nat.not_succ_le_zero _ hflap.1
      obtain ⟨anomaly, hverdict⟩ : ∃ anomaly, flapVerdict t ((deviceId, interfaceName),
          observationsOf samples deviceId interfaceName) = some anomaly :=
        exists_flapVerdict (not_isBlank_of_observed hne) hflap
      obtain ⟨hmem, hkey⟩ := (mem_flap_iff hevaluate).2 hverdict
      exact ⟨anomaly, hmem, isLinkFlap_iff.2 hkey⟩
  · have hverdict := (mem_flap_iff hevaluate).1 ⟨hmem, isLinkFlap_iff.1 hflap⟩
    rw [(of_flapVerdict hverdict).2.2.1, latestTransitions, transitionsForResource_eq]
    rfl

/-- An interface that is up, down, up, down and up again, once each fifteen seconds. -/
def flappingSamples : List TelemetrySample :=
  [LinkState.up, .down, .up, .down, .up].zipIdx.map fun numbered =>
    ⟨"r1", 15000000 * numbered.2, .finite 3, .finite 3, .finite 0, [⟨"eth0", numbered.1⟩], [],
      not_isBlank_r1, isPercentage_three, isPercentage_three⟩

/-- The first and the last change are forty-five seconds apart: the interface flaps. -/
theorem evaluate_linkFlap_fourChanges : ∃ anomalies,
    evaluate (.utc 0) flappingSamples = .ok anomalies ∧
      ∃ anomaly ∈ anomalies, IsLinkFlap "r1" "eth0" anomaly := by
  obtain ⟨anomalies, hevaluate, hinterface⟩ :=
    evaluate_linkFlap 0 flappingSamples (by decide +kernel)
  exact ⟨anomalies, hevaluate, (hinterface "r1" "eth0").1.2 (by decide +kernel)⟩

end RuleEngine
end MetaRne
