/-
# What policy findings are about

A finding of the evaluator is about a device, a policy, an interface and a
direction.  The ACL that the rule asks for is in its evidence, and not in what it
is about.  So two rules of one policy that ask for two ACLs in one slot are two
findings with one identity (`distinctIdentities_iff`).
-/

import Mathlib.Data.List.Nodup
import MetaRne.Detection.PolicyEvaluator

namespace MetaRne
namespace PolicyEvaluator

open Library Library.Effect Python

variable {deviceId sourceSnapshotId : String} {observedAt : Datetime}
  {config : NormalizedConfiguration} {policies : List ConfigurationPolicy}

/-- The configuration does not give the rule's interface the rule's ACL. -/
def isUnsatisfied (config : NormalizedConfiguration) (rule : RequiredAclRule) : Bool :=
  match findInterface config rule.interfaceName with
  | none => true
  | some interface => actualAclName interface rule != some rule.aclName

/-- The interface and direction that a rule is for. -/
def slot (rule : RequiredAclRule) : String × AclDirection := (rule.interfaceName, rule.direction)

/-- The rules of a policy that are reported for a device. -/
def reportedOf (deviceId : String) (config : NormalizedConfiguration)
    (policy : ConfigurationPolicy) : List (ConfigurationPolicy × RequiredAclRule) :=
  if policy.appliesTo ≠ deviceId then []
  else (policy.requiredAcls.filter (isUnsatisfied config)).map fun rule => (policy, rule)

/-- The rules that are reported, each with its policy. -/
def reported (deviceId : String) (config : NormalizedConfiguration)
    (policies : List ConfigurationPolicy) : List (ConfigurationPolicy × RequiredAclRule) :=
  policies.flatMap (reportedOf deviceId config)

/-- What a finding is about. -/
def findingKey (deviceId : String) (finding : ConfigurationPolicy × RequiredAclRule) : FindingKey :=
  ⟨deviceId, .policyViolation, finding.1.policyId, affectedResource finding.2⟩

/-- Which rule a violation is of: its policy, ACL, interface and direction. -/
def ruleOf (v : ConfigurationViolation) : String × String × String × AclDirection :=
  (v.ruleRef, v.evidence.expectedAclName, v.evidence.interfaceName, v.evidence.direction)

/-- **Distinct findings have distinct identities**: two violations of different
rules become candidates that are not about the same. -/
def DistinctIdentities (violations : List ConfigurationViolation) : Prop :=
  ∀ v ∈ violations, ∀ v' ∈ violations, ruleOf v ≠ ruleOf v' → ∀ c c',
    IncidentFactory.buildCandidate v = .ok c → IncidentFactory.buildCandidate v' = .ok c' →
      c.key ≠ c'.key

/-- In every policy of the device, unsatisfied rules for one slot ask for one ACL. -/
def SlotsNameOneAcl (deviceId : String) (config : NormalizedConfiguration)
    (policies : List ConfigurationPolicy) : Prop :=
  ∀ policy ∈ policies, policy.appliesTo = deviceId → ∀ rule ∈ policy.requiredAcls,
    ∀ rule' ∈ policy.requiredAcls, isUnsatisfied config rule = true →
      isUnsatisfied config rule' = true → slot rule = slot rule' → rule.aclName = rule'.aclName

/-- In every policy of the device, the unsatisfied rules are for different slots. -/
def SlotsDistinct (deviceId : String) (config : NormalizedConfiguration)
    (policies : List ConfigurationPolicy) : Prop :=
  ∀ policy ∈ policies, policy.appliesTo = deviceId →
    ((policy.requiredAcls.filter (isUnsatisfied config)).map slot).Nodup

/-! ### What is reported -/

/-- A violation of a rule, whatever was found in place of its ACL. -/
structure IsFinding (deviceId sourceSnapshotId : String) (observedAt : Datetime)
    (finding : ConfigurationPolicy × RequiredAclRule) (v : ConfigurationViolation) : Prop where
  eq_violation : ∃ violationType actualAclName, v =
    violation deviceId sourceSnapshotId observedAt finding.1 finding.2 violationType actualAclName

theorem evaluateRule_of_unsatisfied (deviceId sourceSnapshotId : String) (observedAt : Datetime)
    (policy : ConfigurationPolicy) {rule : RequiredAclRule}
    (h : isUnsatisfied config rule = true) :
    ∃ v, evaluateRule deviceId sourceSnapshotId observedAt config policy rule = some v ∧
      IsFinding deviceId sourceSnapshotId observedAt (policy, rule) v := by
  unfold isUnsatisfied at h
  unfold evaluateRule
  cases hfind : findInterface config rule.interfaceName with
  | none => exact ⟨_, rfl, ⟨_, _, rfl⟩⟩
  | some interface =>
      simp only [hfind, bne_iff_ne, ne_eq] at h
      simp only [if_neg h]
      exact ⟨_, rfl, ⟨_, _, rfl⟩⟩

theorem evaluateRule_of_satisfied {policy : ConfigurationPolicy} {rule : RequiredAclRule}
    (h : isUnsatisfied config rule = false) :
    evaluateRule deviceId sourceSnapshotId observedAt config policy rule = none := by
  unfold isUnsatisfied at h
  unfold evaluateRule
  cases hfind : findInterface config rule.interfaceName with
  | none =>
      simp only [hfind] at h
      cases h
  | some interface =>
      simp only [hfind, bne_eq_false_iff_eq] at h
      simp only [if_pos h]

/-- The rules of one policy, evaluated. -/
theorem filterMap_evaluateRule (policy : ConfigurationPolicy) (rules : List RequiredAclRule) :
    List.Forall₂ (IsFinding deviceId sourceSnapshotId observedAt)
      ((rules.filter (isUnsatisfied config)).map fun rule => (policy, rule))
      (rules.filterMap fun rule =>
        evaluateRule deviceId sourceSnapshotId observedAt config policy rule) := by
  induction rules with
  | nil => exact .nil
  | cons rule rules ih =>
      cases hrule : isUnsatisfied config rule with
      | false =>
          rw [List.filter_cons_of_neg (by rw [hrule]; exact Bool.false_ne_true),
            List.filterMap_cons_none (evaluateRule_of_satisfied hrule)]
          exact ih
      | true =>
          obtain ⟨v, hv, hfinding⟩ :=
            evaluateRule_of_unsatisfied deviceId sourceSnapshotId observedAt policy hrule
          rw [List.filter_cons_of_pos hrule, List.filterMap_cons_some hv, List.map_cons]
          exact .cons hfinding ih

/-- The rules of all policies, evaluated. -/
theorem flatMap_evaluateRule (policies : List ConfigurationPolicy) :
    List.Forall₂ (IsFinding deviceId sourceSnapshotId observedAt)
      (reported deviceId config policies)
      (policies.flatMap fun policy =>
        if policy.appliesTo ≠ deviceId then []
        else policy.requiredAcls.filterMap fun rule =>
          evaluateRule deviceId sourceSnapshotId observedAt config policy rule) := by
  induction policies with
  | nil => exact .nil
  | cons policy policies ih =>
      unfold reported at ih ⊢
      rw [List.flatMap_cons, List.flatMap_cons]
      refine List.rel_append ?_ ih
      unfold reportedOf
      by_cases happlies : policy.appliesTo ≠ deviceId
      · rw [if_pos happlies, if_pos happlies]
        exact .nil
      · rw [if_neg happlies, if_neg happlies]
        exact filterMap_evaluateRule policy policy.requiredAcls

/-- **What the evaluator reports**: a violation of each reported rule, in order. -/
theorem evaluate_ok {violations : List ConfigurationViolation}
    (h : evaluate deviceId sourceSnapshotId observedAt config policies = .ok violations) :
    (isBlank deviceId = false ∧ isBlank sourceSnapshotId = false ∧ ∃ t, observedAt = .utc t) ∧
      List.Forall₂ (IsFinding deviceId sourceSnapshotId observedAt)
        (reported deviceId config policies) violations := by
  unfold evaluate at h
  obtain ⟨hdevice, h⟩ := requireNonEmpty_bind_eq_ok.1 h
  obtain ⟨hsnapshot, h⟩ := requireNonEmpty_bind_eq_ok.1 h
  obtain ⟨t, hutc, h⟩ := requireUtc_bind_eq_ok.1 h
  refine ⟨⟨hdevice, hsnapshot, t, hutc⟩, ?_⟩
  rw [← Except.ok.inj h]
  exact flatMap_evaluateRule policies

theorem mem_reportedOf {policy : ConfigurationPolicy}
    {finding : ConfigurationPolicy × RequiredAclRule} :
    finding ∈ reportedOf deviceId config policy ↔
      policy.appliesTo = deviceId ∧ finding.1 = policy ∧ finding.2 ∈ policy.requiredAcls ∧
        isUnsatisfied config finding.2 = true := by
  obtain ⟨policy', rule⟩ := finding
  unfold reportedOf
  by_cases happlies : policy.appliesTo = deviceId
  · rw [if_neg (not_not.2 happlies), List.mem_map]
    constructor
    · rintro ⟨rule', hrule, hpair⟩
      obtain ⟨rfl, rfl⟩ := Prod.mk.inj hpair
      exact ⟨happlies, rfl, List.mem_filter.1 hrule⟩
    · rintro ⟨-, rfl, hrule⟩
      exact ⟨rule, List.mem_filter.2 hrule, rfl⟩
  · rw [if_pos happlies]
    exact iff_of_false List.not_mem_nil fun h => happlies h.1

theorem mem_reported {finding : ConfigurationPolicy × RequiredAclRule} :
    finding ∈ reported deviceId config policies ↔
      finding.1 ∈ policies ∧ finding.1.appliesTo = deviceId ∧ finding.2 ∈ finding.1.requiredAcls ∧
        isUnsatisfied config finding.2 = true := by
  unfold reported
  rw [List.mem_flatMap]
  constructor
  · rintro ⟨policy, hpolicy, hmem⟩
    obtain ⟨happlies, rfl, hrule⟩ := mem_reportedOf.1 hmem
    exact ⟨hpolicy, happlies, hrule⟩
  · rintro ⟨hpolicy, happlies, hrule⟩
    exact ⟨finding.1, hpolicy, mem_reportedOf.2 ⟨happlies, rfl, hrule⟩⟩

/-! ### What it is about -/

/-- The end of a resource tells the direction, and what is left tells the interface. -/
theorem slot_eq_of_affectedResource {rule rule' : RequiredAclRule}
    (h : affectedResource rule = affectedResource rule') : slot rule = slot rule' := by
  have hchars := congrArg String.toList h
  unfold affectedResource at hchars
  simp only [String.toList_append] at hchars
  unfold slot
  cases hdirection : rule.direction <;> cases hdirection' : rule'.direction <;>
    simp only [hdirection, hdirection', if_true, if_false, reduceCtorEq] at hchars
  · rw [String.toList_inj.1 (List.append_cancel_left
      (List.append_cancel_right (List.append_cancel_right hchars)))]
  · have hlast := congrArg List.getLast? hchars
    rw [List.getLast?_append_of_ne_nil _ (by decide), List.getLast?_append_of_ne_nil _ (by decide)]
      at hlast
    exact absurd hlast (by decide)
  · have hlast := congrArg List.getLast? hchars
    rw [List.getLast?_append_of_ne_nil _ (by decide), List.getLast?_append_of_ne_nil _ (by decide)]
      at hlast
    exact absurd hlast (by decide)
  · rw [String.toList_inj.1 (List.append_cancel_left
      (List.append_cancel_right (List.append_cancel_right hchars)))]

/-- **The resource of a rule is its slot**, written out. -/
theorem affectedResource_eq_iff {rule rule' : RequiredAclRule} :
    affectedResource rule = affectedResource rule' ↔ slot rule = slot rule' := by
  refine ⟨slot_eq_of_affectedResource, fun h => ?_⟩
  obtain ⟨hname, hdirection⟩ := Prod.mk.inj h
  unfold affectedResource
  rw [hname, hdirection]

/-- A text that starts with a letter is not blank. -/
theorem affectedResource_not_blank (rule : RequiredAclRule) :
    isBlank (affectedResource rule) = false := by
  unfold affectedResource isBlank
  simp only [String.toList_append, List.all_append]
  rfl

section Candidate

variable {finding : ConfigurationPolicy × RequiredAclRule} {v : ConfigurationViolation}
  {c : IncidentCandidate}

/-- The candidate of a violation is about what the violation is, with its evidence. -/
theorem key_of_buildCandidate (h : IncidentFactory.buildCandidate v = .ok c) :
    c.key = ⟨v.deviceId, .policyViolation, v.ruleRef, v.affectedResource⟩ := by
  unfold IncidentFactory.buildCandidate at h
  obtain ⟨evidence, -, hnew⟩ := except_bind_eq_ok.1 h
  unfold IncidentCandidate.new at hnew
  obtain ⟨_, hrest⟩ := requireNonEmpty_bind_eq_ok.1 hnew
  obtain ⟨_, hrest₁⟩ := requireNonEmpty_bind_eq_ok.1 hrest
  obtain ⟨_, hrest₂⟩ := requireNonEmpty_bind_eq_ok.1 hrest₁
  obtain ⟨_, hrest₃⟩ := requireNonEmpty_bind_eq_ok.1 hrest₂
  obtain ⟨t, -, hbuild⟩ := requireUtc_bind_eq_ok.1 hrest₃
  rw [← Except.ok.inj hbuild]
  rfl

theorem IsFinding.key_eq (hv : IsFinding deviceId sourceSnapshotId observedAt finding v)
    (h : IncidentFactory.buildCandidate v = .ok c) : c.key = findingKey deviceId finding := by
  obtain ⟨violationType, actualAclName, rfl⟩ := hv.eq_violation
  exact key_of_buildCandidate h

theorem IsFinding.ruleOf_eq (hv : IsFinding deviceId sourceSnapshotId observedAt finding v) :
    ruleOf v = (finding.1.policyId, finding.2.aclName, finding.2.interfaceName,
      finding.2.direction) := by
  obtain ⟨violationType, actualAclName, rfl⟩ := hv.eq_violation
  rfl

/-- Every reported violation becomes a candidate. -/
theorem IsFinding.exists_candidate
    (hv : IsFinding deviceId sourceSnapshotId observedAt finding v)
    (hdevice : isBlank deviceId = false) (hsnapshot : isBlank sourceSnapshotId = false)
    {t : Timestamp} (hutc : observedAt = .utc t) :
    ∃ c, IncidentFactory.buildCandidate v = .ok c := by
  obtain ⟨violationType, actualAclName, rfl⟩ := hv.eq_violation
  subst hutc
  refine ⟨⟨deviceId, .policyViolation, finding.1.policyId, affectedResource finding.2,
    finding.2.severity, .policyViolation ⟨sourceSnapshotId, violationType, finding.2.aclName,
      actualAclName, finding.2.interfaceName, finding.2.direction, hsnapshot⟩,
    finding.2.recommendation, t, hdevice, finding.1.policyId_not_blank,
    affectedResource_not_blank _, finding.2.recommendation_not_blank⟩, ?_⟩
  unfold IncidentFactory.buildCandidate PolicyViolationIncidentEvidence.new IncidentCandidate.new
    violation
  rw [requireNonEmpty_eq_ok (h := ⟨hsnapshot⟩), requireNonEmpty_eq_ok (h := ⟨hdevice⟩),
    requireNonEmpty_eq_ok (h := ⟨finding.1.policyId_not_blank⟩),
    requireNonEmpty_eq_ok (h := ⟨affectedResource_not_blank finding.2⟩),
    requireNonEmpty_eq_ok (h := ⟨finding.2.recommendation_not_blank⟩), requireUtc_utc]
  rfl

end Candidate

/-! ### Findings of one identity -/

/-- With distinct ids, a policy is known by its id. -/
theorem policy_eq_of_policyId (hids : (policies.map fun policy => policy.policyId).Nodup)
    {policy policy' : ConfigurationPolicy} (hpolicy : policy ∈ policies)
    (hpolicy' : policy' ∈ policies) (h : policy.policyId = policy'.policyId) : policy = policy' :=
  List.inj_on_of_nodup_map hids hpolicy hpolicy' h

/-- Two findings are about the same exactly when they are of one policy and one slot. -/
theorem findingKey_eq_iff (hids : (policies.map fun policy => policy.policyId).Nodup)
    {finding finding' : ConfigurationPolicy × RequiredAclRule}
    (hmem : finding ∈ reported deviceId config policies)
    (hmem' : finding' ∈ reported deviceId config policies) :
    findingKey deviceId finding = findingKey deviceId finding' ↔
      finding.1 = finding'.1 ∧ slot finding.2 = slot finding'.2 := by
  unfold findingKey
  rw [FindingKey.mk.injEq, ← affectedResource_eq_iff]
  constructor
  · rintro ⟨-, -, hpolicy, hresource⟩
    exact ⟨policy_eq_of_policyId hids (mem_reported.1 hmem).1 (mem_reported.1 hmem').1 hpolicy,
      hresource⟩
  · rintro ⟨hpolicy, hresource⟩
    exact ⟨rfl, rfl, by rw [hpolicy], hresource⟩

/-- **Distinct findings of one evaluation have distinct identities exactly where no
two unsatisfied rules of a policy want different ACLs in one slot.** -/
theorem distinctIdentities_iff {violations : List ConfigurationViolation}
    (h : evaluate deviceId sourceSnapshotId observedAt config policies = .ok violations)
    (hids : (policies.map fun policy => policy.policyId).Nodup) :
    DistinctIdentities violations ↔ SlotsNameOneAcl deviceId config policies := by
  obtain ⟨⟨hdevice, hsnapshot, t, hutc⟩, hfindings⟩ := evaluate_ok h
  constructor
  · intro hdistinct policy hpolicy happlies rule hrule rule' hrule' hun hun' hslot
    by_contra hne
    have hmem : (policy, rule) ∈ reported deviceId config policies :=
      mem_reported.2 ⟨hpolicy, happlies, hrule, hun⟩
    have hmem' : (policy, rule') ∈ reported deviceId config policies :=
      mem_reported.2 ⟨hpolicy, happlies, hrule', hun'⟩
    obtain ⟨v, hv, hfinding⟩ := exists_right_of_forall₂ hfindings hmem
    obtain ⟨v', hv', hfinding'⟩ := exists_right_of_forall₂ hfindings hmem'
    obtain ⟨c, hc⟩ := hfinding.exists_candidate hdevice hsnapshot hutc
    obtain ⟨c', hc'⟩ := hfinding'.exists_candidate hdevice hsnapshot hutc
    refine hdistinct v hv v' hv' ?_ c c' hc hc' ?_
    · rw [hfinding.ruleOf_eq, hfinding'.ruleOf_eq]
      exact fun hsame => hne (Prod.mk.inj (Prod.mk.inj hsame).2).1
    · rw [hfinding.key_eq hc, hfinding'.key_eq hc']
      exact (findingKey_eq_iff hids hmem hmem').2 ⟨rfl, hslot⟩
  · intro hslots v hv v' hv' hne c c' hc hc' hkey
    obtain ⟨⟨policy, rule⟩, hmem, hfinding⟩ := exists_left_of_forall₂ hfindings hv
    obtain ⟨⟨policy', rule'⟩, hmem', hfinding'⟩ := exists_left_of_forall₂ hfindings hv'
    rw [hfinding.key_eq hc, hfinding'.key_eq hc'] at hkey
    obtain ⟨hpolicy, hslot⟩ := (findingKey_eq_iff hids hmem hmem').1 hkey
    dsimp only at hpolicy hslot
    subst hpolicy
    obtain ⟨hin, happlies, hrule, hun⟩ := mem_reported.1 hmem
    obtain ⟨-, -, hrule', hun'⟩ := mem_reported.1 hmem'
    have hacl : rule.aclName = rule'.aclName :=
      hslots policy hin happlies rule hrule rule' hrule' hun hun' hslot
    obtain ⟨hname, hdirection⟩ := Prod.mk.inj hslot
    rw [hfinding.ruleOf_eq, hfinding'.ruleOf_eq] at hne
    exact hne (by rw [hacl, hname, hdirection])

/-- **No two findings of one evaluation are about the same exactly where no two
unsatisfied rules of a policy are for one slot.** -/
theorem nodup_findingKey_iff (hids : (policies.map fun policy => policy.policyId).Nodup) :
    ((reported deviceId config policies).map (findingKey deviceId)).Nodup ↔
      SlotsDistinct deviceId config policies := by
  have hkey : ∀ (policy : ConfigurationPolicy) (rule rule' : RequiredAclRule),
      findingKey deviceId (policy, rule) = findingKey deviceId (policy, rule') ↔
        slot rule = slot rule' := by
    intro policy rule rule'
    unfold findingKey
    rw [FindingKey.mk.injEq, ← affectedResource_eq_iff]
    exact ⟨fun h => h.2.2.2, fun h => ⟨rfl, rfl, rfl, h⟩⟩
  have hslots : ∀ policy : ConfigurationPolicy,
      ((reportedOf deviceId config policy).map (findingKey deviceId)).Nodup ↔
        (policy.appliesTo = deviceId →
          ((policy.requiredAcls.filter (isUnsatisfied config)).map slot).Nodup) := by
    intro policy
    unfold reportedOf
    by_cases happlies : policy.appliesTo = deviceId
    · rw [if_neg (not_not.2 happlies), List.map_map]
      refine Iff.trans ?_ (forall_prop_of_true happlies).symm
      simp only [List.Nodup, List.pairwise_map, Function.comp_apply, ne_eq, hkey]
    · rw [if_pos happlies]
      exact iff_of_true List.nodup_nil fun h => absurd h happlies
  -- Policies of different ids report findings about different rules.
  have hdisjoint : policies.Pairwise (Function.onFun List.Disjoint fun policy =>
      (reportedOf deviceId config policy).map (findingKey deviceId)) := by
    have hruleRef : ∀ (policy : ConfigurationPolicy) (key : FindingKey),
        key ∈ (reportedOf deviceId config policy).map (findingKey deviceId) →
          key.ruleRef = policy.policyId := by
      intro policy key hmem
      obtain ⟨finding, hfinding, rfl⟩ := List.mem_map.1 hmem
      rw [← (mem_reportedOf.1 hfinding).2.1]
      rfl
    refine (List.pairwise_map.1 hids).imp fun hne key hmem hmem' => ?_
    exact hne ((hruleRef _ key hmem).symm.trans (hruleRef _ key hmem'))
  unfold reported SlotsDistinct
  rw [List.map_flatMap, List.nodup_flatMap]
  simp only [hslots]
  exact and_iff_left hdisjoint

end PolicyEvaluator
end MetaRne
