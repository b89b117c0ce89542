/-
# What is stored is read back

The decoders of `persistence/serialization.py` undo its encoders
(`serialization_round_trips`): every configuration, rule, telemetry state and
evidence comes back as it was, anomaly evidence under the rule that its incident
is stored under.
-/

import MetaRne.Persistence.IncidentValidation
import MetaRne.Persistence.Serialization

namespace MetaRne

open Library.Effect Python

/-! ### No value is lost in the stored form -/

namespace Stored

theorem ofOption_str_injective : Function.Injective (Json.ofOption Json.str) := by
  intro a b h
  cases a <;> cases b <;> cases h <;> rfl

theorem ofOption_int_injective : Function.Injective (Json.ofOption Json.int) := by
  intro a b h
  cases a <;> cases b <;> cases h <;> rfl

theorem Interface.of_injective : Function.Injective Interface.of := by
  rintro ⟨_, _, _, _, _, _, _⟩ ⟨_, _, _, _, _, _, _⟩ h
  simp only [Interface.of, Interface.mk.injEq, Json.str.injEq, ofOption_str_injective.eq_iff,
    ofOption_int_injective.eq_iff] at h
  simp only [NormalizedInterface.mk.injEq]
  exact h

theorem BgpNeighbor.of_injective : Function.Injective BgpNeighbor.of := by
  rintro ⟨_, _⟩ ⟨_, _⟩ h
  cases h
  rfl

theorem AclEntry.of_injective : Function.Injective AclEntry.of := by
  rintro ⟨_, _, _, _, _⟩ ⟨_, _, _, _, _⟩ h
  cases h
  rfl

theorem Acl.of_injective : Function.Injective Acl.of := by
  rintro ⟨_, _⟩ ⟨_, _⟩ h
  simp only [Acl.of, Acl.mk.injEq, Json.str.injEq,
    (List.map_injective_iff.2 AclEntry.of_injective).eq_iff] at h
  simp only [NormalizedAcl.mk.injEq]
  exact h

theorem Configuration.of_injective : Function.Injective Configuration.of := by
  rintro ⟨_, _, ⟨_⟩, _⟩ ⟨_, _, ⟨_⟩, _⟩ h
  simp only [Configuration.of, Configuration.mk.injEq, Json.str.injEq,
    (List.map_injective_iff.2 Interface.of_injective).eq_iff,
    (List.map_injective_iff.2 BgpNeighbor.of_injective).eq_iff,
    (List.map_injective_iff.2 Acl.of_injective).eq_iff] at h
  simp only [NormalizedConfiguration.mk.injEq, NormalizedRouting.mk.injEq]
  exact h

theorem InterfaceState.of_injective : Function.Injective InterfaceState.of := by
  rintro ⟨_, _⟩ ⟨_, _⟩ h
  cases h
  rfl

theorem BgpSession.of_injective : Function.Injective BgpSession.of := by
  rintro ⟨_, _⟩ ⟨_, _⟩ h
  cases h
  rfl

theorem PolicyViolationEvidence.of_injective : Function.Injective PolicyViolationEvidence.of := by
  rintro ⟨_, _, _, _, _, _, _⟩ ⟨_, _, _, _, _, _, _⟩ h
  simp only [PolicyViolationEvidence.of, PolicyViolationEvidence.mk.injEq, Json.str.injEq,
    ofOption_str_injective.eq_iff] at h
  simp only [PolicyViolationIncidentEvidence.mk.injEq]
  exact h

theorem Evidence.of_injective : Function.Injective Evidence.of := by
  rintro (_ | ⟨_, _⟩ | ⟨_, _, _⟩) (_ | ⟨_, _⟩ | ⟨_, _, _⟩) h <;> cases h <;> rfl

end Stored

/-! ### Configurations -/

theorem interfaceFromJson_interfaceToJson (interface : NormalizedInterface) :
    interfaceFromJson (interfaceToJson interface) = .ok (.of interface) := by
  simp (disch := decide) only [interfaceFromJson, interfaceToJson, getKey_cons_self,
    getKey_cons_of_ne, enumMember_value, ok_bind]
  rfl

theorem bgpNeighborFromJson_bgpNeighborToJson (neighbor : NormalizedBgpNeighbor) :
    bgpNeighborFromJson (bgpNeighborToJson neighbor) = .ok (.of neighbor) := by
  simp (disch := decide) only [bgpNeighborFromJson, bgpNeighborToJson, getKey_cons_self,
    getKey_cons_of_ne, ok_bind]
  rfl

theorem aclEntryFromJson_aclEntryToJson (entry : NormalizedAclEntry) :
    aclEntryFromJson (aclEntryToJson entry) = .ok (.of entry) := by
  simp (disch := decide) only [aclEntryFromJson, aclEntryToJson, getKey_cons_self,
    getKey_cons_of_ne, enumMember_value, ok_bind]
  rfl

theorem aclFromJson_aclToJson (acl : NormalizedAcl) :
    aclFromJson (aclToJson acl) = .ok (.of acl) := by
  have hentries : (acl.entries.map aclEntryToJson).mapM aclEntryFromJson =
      .ok (acl.entries.map Stored.AclEntry.of) :=
    mapM_map_eq_ok fun entry _ => aclEntryFromJson_aclEntryToJson entry
  simp (disch := decide) only [aclFromJson, aclToJson, getKey_cons_self, getKey_cons_of_ne,
    requireList_arr, hentries, ok_bind]
  rfl

theorem normalizedConfigFromJson_normalizedConfigToJson (config : NormalizedConfiguration) :
    normalizedConfigFromJson (normalizedConfigToJson config) = .ok (.of config) := by
  have hinterfaces : (config.interfaces.map interfaceToJson).mapM interfaceFromJson =
      .ok (config.interfaces.map Stored.Interface.of) :=
    mapM_map_eq_ok fun interface _ => interfaceFromJson_interfaceToJson interface
  have hneighbors : (config.routing.bgpNeighbors.map bgpNeighborToJson).mapM bgpNeighborFromJson =
      .ok (config.routing.bgpNeighbors.map Stored.BgpNeighbor.of) :=
    mapM_map_eq_ok fun neighbor _ => bgpNeighborFromJson_bgpNeighborToJson neighbor
  have hacls : (config.acls.map aclToJson).mapM aclFromJson =
      .ok (config.acls.map Stored.Acl.of) :=
    mapM_map_eq_ok fun acl _ => aclFromJson_aclToJson acl
  simp (disch := decide) only [normalizedConfigFromJson, configurationFromJson,
    normalizedConfigToJson, getKey_cons_self, getKey_cons_of_ne, requireDict_obj, requireList_arr,
    hinterfaces, hneighbors, hacls, ok_bind]
  rfl

/-! ### Rules, telemetry and policy evidence -/

theorem requiredAclRuleFromJson_requiredAclRuleToJson (rule : RequiredAclRule) :
    requiredAclRuleFromJson (requiredAclRuleToJson rule) = .ok rule := by
  simp (disch := decide) only [requiredAclRuleFromJson, requiredAclRuleToJson, requireDict_obj,
    getKey_cons_self, getKey_cons_of_ne, enumMember_value, ok_bind, newRequiredAclRule,
    requireNonEmptyValue_str rule.aclName_not_blank,
    requireNonEmptyValue_str rule.interfaceName_not_blank,
    requireNonEmptyValue_str rule.recommendation_not_blank]
  rfl

theorem requiredAclRulesFromJson_requiredAclRulesToJson (rules : List RequiredAclRule) :
    requiredAclRulesFromJson (requiredAclRulesToJson rules) = .ok rules := by
  have hrules : (rules.map requiredAclRuleToJson).mapM requiredAclRuleFromJson =
      .ok (rules.map fun rule => rule) :=
    mapM_map_eq_ok fun rule _ => requiredAclRuleFromJson_requiredAclRuleToJson rule
  simp only [requiredAclRulesFromJson, requiredAclRulesToJson, requireList_arr, hrules, ok_bind,
    translate_ok, List.map_id_fun', id_eq]

theorem interfaceStateFromJson_interfaceStateToJson (state : InterfaceState) :
    interfaceStateFromJson (interfaceStateToJson state) = .ok (.of state) := by
  simp (disch := decide) only [interfaceStateFromJson, interfaceStateToJson, requireDict_obj,
    getKey_cons_self, getKey_cons_of_ne, enumMember_value, ok_bind]
  rfl

theorem interfaceStatesFromJson_interfaceStatesToJson (states : List InterfaceState) :
    interfaceStatesFromJson (interfaceStatesToJson states) =
      .ok (states.map Stored.InterfaceState.of) := by
  have hstates : (states.map interfaceStateToJson).mapM interfaceStateFromJson =
      .ok (states.map Stored.InterfaceState.of) :=
    mapM_map_eq_ok fun state _ => interfaceStateFromJson_interfaceStateToJson state
  simp only [interfaceStatesFromJson, interfaceStatesToJson, requireList_arr, hstates, ok_bind,
    translate_ok]

theorem bgpSessionFromJson_bgpSessionToJson (session : BgpSession) :
    bgpSessionFromJson (bgpSessionToJson session) = .ok (.of session) := by
  simp (disch := decide) only [bgpSessionFromJson, bgpSessionToJson, requireDict_obj,
    getKey_cons_self, getKey_cons_of_ne, enumMember_value, ok_bind]
  rfl

theorem bgpSessionsFromJson_bgpSessionsToJson (sessions : List BgpSession) :
    bgpSessionsFromJson (bgpSessionsToJson sessions) =
      .ok (sessions.map Stored.BgpSession.of) := by
  have hsessions : (sessions.map bgpSessionToJson).mapM bgpSessionFromJson =
      .ok (sessions.map Stored.BgpSession.of) :=
    mapM_map_eq_ok fun session _ => bgpSessionFromJson_bgpSessionToJson session
  simp only [bgpSessionsFromJson, bgpSessionsToJson, requireList_arr, hsessions, ok_bind,
    translate_ok]

theorem policyViolationEvidenceFromJson_policyViolationEvidenceToJson
    (evidence : PolicyViolationIncidentEvidence) :
    policyViolationEvidenceFromJson (policyViolationEvidenceToJson evidence) =
      .ok (.of evidence) := by
  simp (disch := decide) only [policyViolationEvidenceFromJson, policyViolationFromJson,
    policyViolationEvidenceToJson, requireDict_obj, getKey_cons_self, getKey_cons_of_ne,
    enumMember_value, ok_bind, requireNonEmptyValue_str evidence.sourceSnapshotId_not_blank]
  rfl

/-! ### Anomaly evidence -/

/-- The timestamps of evidence are datetimes: none is after `datetime.max`. -/
def RuleEvidence.IsDated : RuleEvidence → Prop
  | .cpuHigh evidence => ∀ sample ∈ evidence.samples, sample.timestamp ≤ maxTimestamp
  | .linkFlap evidence => ∀ transition ∈ evidence.transitions, transition.timestamp ≤ maxTimestamp
  | .bgpDown _ => True

theorem requireFloat_float (x : PyFloat) (what : String) : requireFloat (.float x) what = .ok x := rfl

theorem cpuSampleFromJson_cpuSampleToJson {sample : CpuSampleEvidence}
    (h : sample.timestamp ≤ maxTimestamp) :
    cpuSampleFromJson (cpuSampleToJson sample) = .ok sample := by
  simp (disch := decide) only [cpuSampleFromJson, cpuSampleToJson, requireDict_obj,
    getKey_cons_self, getKey_cons_of_ne, utcDatetimeFromJson_isoformat h, requireFloat_float,
    ok_bind]
  rfl

theorem transitionFromJson_transitionToJson {transition : InterfaceTransitionEvidence}
    (h : transition.timestamp ≤ maxTimestamp) :
    transitionFromJson (transitionToJson transition) = .ok transition := by
  simp (disch := decide) only [transitionFromJson, transitionToJson, requireDict_obj,
    getKey_cons_self, getKey_cons_of_ne, utcDatetimeFromJson_isoformat h, enumMember_value, ok_bind]
  rfl

theorem optionalBgpState_ofOption (state : Option BgpState) :
    optionalBgpState (.ofOption enumToJson state) = .ok state := by
  cases state with
  | none => rfl
  | some state =>
      change some <$> enumMember BgpState (enumToJson state) "previous_state" = _
      rw [enumMember_value]
      rfl

/-- The decoder of a rule undoes the encoder of its evidence. -/
theorem evidenceFromJson_anomalyEvidenceToJson {evidence : RuleEvidence} (h : evidence.IsDated) :
    evidenceFromJson evidence.ruleId (anomalyEvidenceToJson evidence) = .ok (.of evidence) := by
  cases evidence with
  | cpuHigh evidence =>
      have hsamples : (evidence.samples.map cpuSampleToJson).mapM cpuSampleFromJson =
          .ok (evidence.samples.map fun sample => sample) :=
        mapM_map_eq_ok fun sample hsample => cpuSampleFromJson_cpuSampleToJson (h sample hsample)
      rw [List.map_id_fun', id_eq] at hsamples
      simp only [evidenceFromJson, anomalyEvidenceToJson, RuleEvidence.ruleId,
        cpuHighEvidenceFromJson, cpuHighFromJson, cpuHighEvidenceToJson, requireDict_obj,
        getKey_cons_self, requireList_arr, hsamples, ok_bind]
      rfl
  | linkFlap evidence =>
      have htransitions : (evidence.transitions.map transitionToJson).mapM transitionFromJson =
          .ok (evidence.transitions.map fun transition => transition) :=
        mapM_map_eq_ok fun transition htransition =>
          transitionFromJson_transitionToJson (h transition htransition)
      rw [List.map_id_fun', id_eq] at htransitions
      simp (disch := decide) only [evidenceFromJson, anomalyEvidenceToJson, RuleEvidence.ruleId,
        linkFlapEvidenceFromJson, linkFlapFromJson, linkFlapEvidenceToJson, requireDict_obj,
        getKey_cons_self, getKey_cons_of_ne, requireList_arr, htransitions, ok_bind]
      rfl
  | bgpDown evidence =>
      simp (disch := decide) only [evidenceFromJson, anomalyEvidenceToJson, RuleEvidence.ruleId,
        bgpDownEvidenceFromJson, bgpDownFromJson, bgpDownEvidenceToJson, requireDict_obj,
        getKey_cons_self, getKey_cons_of_ne, enumMember_value, optionalBgpState_ofOption, ok_bind]
      rfl

/-- Rule evidence is stored under its own rule. -/
theorem ruleRef_of_evidenceMatches {source : IncidentSource} {ruleRef : String}
    {evidence : RuleEvidence} (h : EvidenceMatches source ruleRef (.rule evidence)) :
    ruleRef = evidence.ruleId.value := by
  cases h
  rfl

/-- **Anomaly evidence comes back under the rule it is stored under.** -/
theorem anomalyEvidenceFromJson_anomalyEvidenceToJson {candidate : IncidentCandidate}
    {evidence : RuleEvidence} (hvalid : validateSourceAndEvidence candidate = .ok ())
    (hevidence : candidate.evidence = .rule evidence) (h : evidence.IsDated) :
    anomalyEvidenceFromJson candidate.ruleRef (anomalyEvidenceToJson evidence) =
      .ok (.of evidence) := by
  have hmatches := validateSourceAndEvidence_eq_ok.1 hvalid
  rw [hevidence] at hmatches
  have hrule : Json.str candidate.ruleRef = enumToJson evidence.ruleId :=
    congrArg Json.str (ruleRef_of_evidenceMatches hmatches)
  rw [anomalyEvidenceFromJson, hrule, enumMember_value, ok_bind,
    evidenceFromJson_anomalyEvidenceToJson h]

/-- **A decoder undoes an encoder**: it gives back the value that was stored, and no
two values have one stored form. -/
structure RoundTrips {α β : Type} (encode : α → Json) (decode : Json → Except Error β)
    (of : α → β) : Prop where
  decode_encode : ∀ a, decode (encode a) = .ok (of a)
  injective : Function.Injective of

/-- **Every domain value is read back as it was stored**, anomaly evidence by the rule
that an incident which carries it may be stored under. -/
theorem serialization_round_trips :
    RoundTrips normalizedConfigToJson normalizedConfigFromJson Stored.Configuration.of ∧
      RoundTrips requiredAclRulesToJson requiredAclRulesFromJson id ∧
      RoundTrips interfaceStatesToJson interfaceStatesFromJson
        (List.map Stored.InterfaceState.of) ∧
      RoundTrips bgpSessionsToJson bgpSessionsFromJson (List.map Stored.BgpSession.of) ∧
      RoundTrips policyViolationEvidenceToJson policyViolationEvidenceFromJson
        Stored.PolicyViolationEvidence.of ∧
      (∀ candidate evidence, validateSourceAndEvidence candidate = .ok () →
        candidate.evidence = .rule evidence → evidence.IsDated →
        anomalyEvidenceFromJson candidate.ruleRef (anomalyEvidenceToJson evidence) =
          .ok (Stored.Evidence.of evidence)) ∧
      Function.Injective Stored.Evidence.of := by
  refine ⟨⟨normalizedConfigFromJson_normalizedConfigToJson, Stored.Configuration.of_injective⟩,
    ⟨requiredAclRulesFromJson_requiredAclRulesToJson, Function.injective_id⟩,
    ⟨interfaceStatesFromJson_interfaceStatesToJson, ?_⟩,
    ⟨bgpSessionsFromJson_bgpSessionsToJson, ?_⟩,
    ⟨policyViolationEvidenceFromJson_policyViolationEvidenceToJson,
      Stored.PolicyViolationEvidence.of_injective⟩,
    fun _ _ hvalid hevidence h => anomalyEvidenceFromJson_anomalyEvidenceToJson hvalid hevidence h,
    Stored.Evidence.of_injective⟩
  · exact List.map_injective_iff.2 Stored.InterfaceState.of_injective
  · exact List.map_injective_iff.2 Stored.BgpSession.of_injective

end MetaRne
