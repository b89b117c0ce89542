/-
# When the incidents reach the operator

The guards of the incidents list take the evidence of an incident to name what it is
about, and `fetchIncidents` throws the whole list away for one incident that they
reject.  The backend asks less: an interface of a telemetry sample or the address of a
neighbor may be an empty text, and what is found of it is stored with it.

Whatever the calls of a run, the evidence of the store is that of its candidates
(`evidence_of_candidates`), and the client reads the list exactly if the evidence of
each stored incident is named (`incidents_read_iff`).
-/

import MetaRne.Frontend.NetworkDiagnosisServed
import MetaRne.Frontend.NewestIncidents

namespace MetaRne

open Library Library.Runs Python

/-- The evidence names what it is about, and its percentages are numbers. -/
def IncidentEvidence.Named : IncidentEvidence → Prop
  | .policyViolation evidence => evidence.expectedAclName ≠ "" ∧ evidence.interfaceName ≠ ""
  | .rule (.cpuHigh evidence) =>
    ∀ sample ∈ evidence.samples, sample.cpuUtilizationPct.isFinite = true
  | .rule (.linkFlap evidence) => evidence.interfaceName ≠ ""
  | .rule (.bgpDown evidence) => evidence.neighborIp ≠ ""

instance IncidentEvidence.decidableNamed (evidence : IncidentEvidence) :
    Decidable evidence.Named :=
  match evidence with
  | .policyViolation evidence =>
    inferInstanceAs (Decidable (evidence.expectedAclName ≠ "" ∧ evidence.interfaceName ≠ ""))
  | .rule (.cpuHigh evidence) =>
    inferInstanceAs (Decidable (∀ sample ∈ evidence.samples,
      sample.cpuUtilizationPct.isFinite = true))
  | .rule (.linkFlap evidence) => inferInstanceAs (Decidable (evidence.interfaceName ≠ ""))
  | .rule (.bgpDown evidence) => inferInstanceAs (Decidable (evidence.neighborIp ≠ ""))

/-! ### Where evidence comes from -/

section Runs

variable {backend : Backend} {ids : IdFactory} {s s' : Session} {i : Incident}

/-- A call stores evidence that was stored, or that of its own candidate. -/
theorem Answered.evidence {call : IncidentCall} {reply : IncidentReply}
    (h : Answered ids s call reply s') (hi : i ∈ s'.store.incidents.values) :
    (∃ j ∈ s.store.incidents.values, j.evidence = i.evidence) ∨
      ∃ candidate fingerprint observedAt,
        call = .upsert candidate fingerprint observedAt ∧ candidate.evidence = i.evidence := by
  cases h with
  | upserted hmatch hstep =>
      cases hstep with
      | created =>
          rcases Dict.mem_values_set hi with rfl | hi
          · exact Or.inr ⟨_, _, _, rfl, rfl⟩
          · exact Or.inl ⟨i, hi, rfl⟩
      | updated existing s₁ hdrawn =>
          rcases Dict.mem_values_set hi with rfl | hi
          · exact Or.inr ⟨_, _, _, rfl, rfl⟩
          · rw [SameStore.store_eq hdrawn] at hi
            exact Or.inl ⟨i, hi, rfl⟩
  | resolved hstep =>
      cases hstep with
      | unknown => exact Or.inl ⟨i, hi, rfl⟩
      | already => exact Or.inl ⟨i, hi, rfl⟩
      | resolved existing t _ hsome =>
          rcases Dict.mem_values_set hi with rfl | hi
          · exact Or.inl ⟨existing, Dict.mem_values_iff.2 ⟨_, hsome⟩, rfl⟩
          · exact Or.inl ⟨i, hi, rfl⟩
  | raised hsame =>
      rw [hsame.store_eq] at hi
      exact Or.inl ⟨i, hi, rfl⟩

/-- **The evidence of a store is that of the candidates** of its run. -/
theorem evidence_of_candidates (hempty : s.store.incidents = .empty) (calls : List IncidentCall)
    (hi : i ∈ (sessionAfter backend ids calls s).store.incidents.values) :
    ∃ candidate fingerprint observedAt,
      IncidentCall.upsert candidate fingerprint observedAt ∈ calls ∧
        candidate.evidence = i.evidence := by
  have hnone : ∀ j ∈ s.store.incidents.values, ∃ candidate fingerprint observedAt,
      IncidentCall.upsert candidate fingerprint observedAt ∈ calls ∧
        candidate.evidence = j.evidence := by
    intro j hj
    rw [hempty, Dict.values_empty] at hj
    exact absurd hj List.not_mem_nil
  have hall := (serve_invariant (answer backend ids)
    (P := fun _ s₁ => LedgerInvariant ids s₁ ∧ ∀ j ∈ s₁.store.incidents.values,
      ∃ candidate fingerprint observedAt,
        IncidentCall.upsert candidate fingerprint observedAt ∈ calls ∧
          candidate.evidence = j.evidence)
    calls ⟨.of_empty ids hempty, hnone⟩ fun _ s₁ call hcall h => ?_).2
  · exact hall i hi
  · have hanswered := answered backend h.1 call
    refine ⟨hanswered.invariant h.1, fun j hj => ?_⟩
    rcases hanswered.evidence hj with ⟨k, hk, hevidence⟩ | ⟨c, fingerprint, t, rfl, hevidence⟩
    · obtain ⟨c, fingerprint, t, hmem, hc⟩ := h.2 k hk
      exact ⟨c, fingerprint, t, hmem, hc.trans hevidence⟩
    · exact ⟨c, fingerprint, t, hcall, hevidence⟩

end Runs

namespace Frontend

open Api

/-! ### Texts -/

theorem isSome_nonEmptyString? {text : String} :
    (nonEmptyString? (.str text)).isSome = true ↔ text ≠ "" := by
  constructor
  · rintro h rfl
    cases h
  · intro h
    rw [nonEmptyString?_str h]
    rfl

theorem isSome_nullableString? (text : Option String) :
    (nullableString? (textJson text)).isSome = true := by
  cases text with
  | none => rfl
  | some text => rfl

theorem jsonText_ne_empty (t : Timestamp) : jsonText t ≠ "" := by
  intro h
  have hchars : (jsonText t).toList = [] := by rw [h]; rfl
  rw [jsonText, String.toList_ofList] at hchars
  exact absurd hchars (List.append_ne_nil_of_right_ne_nil _ (List.cons_ne_nil _ _))

theorem violationType_ne_empty (violationType : ViolationType) : violationType.value ≠ "" := by
  cases violationType <;> decide

theorem direction_ne_empty (direction : AclDirection) : direction.value ≠ "" := by
  cases direction <;> decide

theorem operState_ne_empty (operState : LinkState) : operState.value ≠ "" := by
  cases operState <;> decide

theorem bgpState_ne_empty (state : BgpState) : state.value ≠ "" := by
  cases state <;> decide

theorem nonEmptyString?_source (source : IncidentSource) :
    nonEmptyString? (.str source.value) = some source.value := by
  cases source <;> decide

/-! ### The four shapes -/

/-- The evidence of a policy violation is read if its names are there. -/
theorem isPolicyViolation_served_iff (evidence : PolicyViolationIncidentEvidence) :
    isPolicyViolationIncidentEvidenceResponse (policyViolationIncidentEvidenceResponse evidence) =
      true ↔ (IncidentEvidence.policyViolation evidence).Named := by
  have hid := ne_empty_of_not_isBlank evidence.sourceSnapshotId_not_blank
  simp (disch := decide) only [isPolicyViolationIncidentEvidenceResponse, hasProperty,
    policyViolationIncidentEvidenceResponse, field_cons_self, field_cons_of_ne, Option.bind_some,
    Bool.and_eq_true, isSome_nonEmptyString?, isSome_nullableString?]
  constructor
  · rintro ⟨⟨⟨⟨⟨-, -⟩, hacl⟩, -⟩, hinterface⟩, -⟩
    exact ⟨hacl, hinterface⟩
  · rintro ⟨hacl, hinterface⟩
    exact ⟨⟨⟨⟨⟨hid, violationType_ne_empty _⟩, hacl⟩, trivial⟩, hinterface⟩,
      direction_ne_empty _⟩

theorem isFiniteNumber_floatJson (x : PyFloat) : isFiniteNumber (floatJson x) = x.isFinite := by
  cases x with
  | nan => rfl
  | posInf => rfl
  | negInf => rfl
  | finite q => rfl

/-- The evidence of a busy processor is read if its percentages are numbers. -/
theorem isCpuHigh_served_iff (evidence : CpuHighEvidence) :
    isCpuHighEvidenceResponse (cpuHighEvidenceResponse evidence) = true ↔
      (IncidentEvidence.rule (.cpuHigh evidence)).Named := by
  have hsample (sample : CpuSampleEvidence) :
      isCpuSampleEvidenceResponse (cpuSampleEvidenceResponse sample) =
        sample.cpuUtilizationPct.isFinite := by
    simp (disch := decide) only [isCpuSampleEvidenceResponse, cpuSampleEvidenceResponse,
      hasProperty, field_cons_self, field_cons_of_ne, Option.bind_some, datetimeJson,
      nonEmptyString?_str (jsonText_ne_empty _), Option.isSome_some, Bool.true_and,
      Option.any_some, isFiniteNumber_floatJson]
  simp only [isCpuHighEvidenceResponse, cpuHighEvidenceResponse, hasArray, field_cons_self,
    listJson, List.all_map, List.all_eq_true, Function.comp_apply, hsample,
    IncidentEvidence.Named]

/-- The evidence of a flapping link is read if its interface is named. -/
theorem isLinkFlap_served_iff (evidence : LinkFlapEvidence) :
    isLinkFlapEvidenceResponse (linkFlapEvidenceResponse evidence) = true ↔
      (IncidentEvidence.rule (.linkFlap evidence)).Named := by
  have htransition (transition : InterfaceTransitionEvidence) :
      isInterfaceTransitionEvidenceResponse (interfaceTransitionEvidenceResponse transition) =
        true := by
    simp (disch := decide) only [isInterfaceTransitionEvidenceResponse, hasProperty,
      interfaceTransitionEvidenceResponse, field_cons_self, field_cons_of_ne, Option.bind_some,
      datetimeJson, nonEmptyString?_str (jsonText_ne_empty _),
      nonEmptyString?_str (operState_ne_empty _), Option.isSome_some, Bool.and_self]
  simp (disch := decide) only [isLinkFlapEvidenceResponse, linkFlapEvidenceResponse, hasProperty,
    hasArray, field_cons_self, field_cons_of_ne, Option.bind_some, listJson, List.all_map,
    Bool.and_eq_true, List.all_eq_true, Function.comp_apply, isSome_nonEmptyString?, htransition,
    implies_true, and_true, IncidentEvidence.Named]

/-- The evidence of a lost session is read if its neighbor is named. -/
theorem isBgpDown_served_iff (evidence : BgpDownEvidence) :
    isBgpDownEvidenceResponse (bgpDownEvidenceResponse evidence) = true ↔
      (IncidentEvidence.rule (.bgpDown evidence)).Named := by
  have hprevious : nullable nonEmptyString? (textJson (evidence.previousState.map BgpState.value)) =
      some (evidence.previousState.map BgpState.value) := by
    cases evidence.previousState with
    | none => rfl
    | some state => cases state <;> rfl
  simp (disch := decide) only [isBgpDownEvidenceResponse, bgpDownEvidenceResponse, hasProperty,
    field_cons_self, field_cons_of_ne, Option.bind_some, Bool.and_eq_true, isSome_nonEmptyString?,
    hprevious, Option.isSome_some, and_true, ne_eq, bgpState_ne_empty, not_false_eq_true,
    IncidentEvidence.Named]

/-! ### Incidents -/

section Incident

variable {i : Incident}

/-- **The evidence of an incident is consistent with its rule**, for the client, if it is
named. -/
theorem hasEvidenceConsistentWithRule_served_iff
    (hmatch : EvidenceMatches i.source i.ruleRef i.evidence) :
    hasEvidenceConsistentWithRule (servedIncident i) = true ↔ i.evidence.Named := by
  unfold hasEvidenceConsistentWithRule servedIncident
  dsimp only
  generalize i.source = source at hmatch ⊢
  generalize i.ruleRef = ruleRef at hmatch ⊢
  generalize i.evidence = evidence at hmatch ⊢
  cases hmatch with
  | policyViolation _ evidence =>
      rw [if_pos (by decide)]
      exact isPolicyViolation_served_iff evidence
  | anomaly evidence =>
      rw [if_neg (by decide)]
      cases evidence with
      | cpuHigh evidence =>
          rw [RuleEvidence.ruleId, if_pos (by decide)]
          exact isCpuHigh_served_iff evidence
      | linkFlap evidence =>
          rw [RuleEvidence.ruleId, if_neg (by decide), if_pos (by decide)]
          exact isLinkFlap_served_iff evidence
      | bgpDown evidence =>
          rw [RuleEvidence.ruleId, if_neg (by decide), if_neg (by decide), if_pos (by decide)]
          exact isBgpDown_served_iff evidence

theorem incidentEvidenceResponse?_of_named (h : i.evidence.Named) :
    incidentEvidenceResponse? (Api.incidentEvidenceResponse i.evidence) =
      some (Api.incidentEvidenceResponse i.evidence) := by
  refine if_pos ?_
  simp only [Bool.or_eq_true]
  cases hevidence : i.evidence with
  | policyViolation evidence =>
      rw [hevidence] at h
      exact Or.inl (Or.inl (Or.inl ((isPolicyViolation_served_iff evidence).2 h)))
  | rule evidence =>
      rw [hevidence] at h
      cases evidence with
      | cpuHigh evidence => exact Or.inl (Or.inl (Or.inr ((isCpuHigh_served_iff evidence).2 h)))
      | linkFlap evidence => exact Or.inl (Or.inr ((isLinkFlap_served_iff evidence).2 h))
      | bgpDown evidence => exact Or.inr ((isBgpDown_served_iff evidence).2 h)

/-- **An incident with named evidence is read**, as it was served. -/
theorem incidentResponse?_of_named (hvalid : i.Valid) (h : i.evidence.Named) :
    incidentResponse? (incidentResponse i) = some (servedIncident i) := by
  have hfingerprint : i.fingerprint ≠ "" := by
    intro hempty
    have hhex := hvalid.fingerprint_hex
    rw [hempty] at hhex
    exact absurd hhex (by decide)
  have hresolved : nullable nonEmptyString? (Json.ofOption datetimeJson i.resolvedAt) =
      some (i.resolvedAt.map jsonText) :=
    nullable_ofOption i.resolvedAt (fun _ _ => Json.noConfusion) fun t _ =>
      nonEmptyString?_str (jsonText_ne_empty t)
  simp (disch := decide) only [incidentResponse?, incidentResponse, field_cons_self,
    field_cons_of_ne, nonEmptyString?_of_not_blank hvalid.incidentId_not_blank,
    nonEmptyString?_str hfingerprint, nonEmptyString?_of_not_blank hvalid.deviceId_not_blank,
    nonEmptyString?_source, nonEmptyString?_of_not_blank hvalid.ruleRef_not_blank,
    nonEmptyString?_of_not_blank hvalid.affectedResource_not_blank, nonEmptyString?_severity,
    nonEmptyString?_status, incidentEvidenceResponse?_of_named h, string?, datetimeJson,
    nonEmptyString?_str (jsonText_ne_empty _), nonNegativeInteger?_ofNat, hresolved,
    Option.bind_eq_bind, Option.bind_some]
  rfl

end Incident

/-! ### Lists -/

/-- A list is read if the evidence of each of its incidents is named. -/
theorem fetchIncidents_isSome_iff {incidents : List Incident} (hvalid : ∀ i ∈ incidents, i.Valid)
    (hmatch : ∀ i ∈ incidents, EvidenceMatches i.source i.ruleRef i.evidence) :
    (fetchIncidents (incidentListResponse incidents)).isSome = true ↔
      ∀ i ∈ incidents, i.evidence.Named := by
  constructor
  · intro h i hi
    obtain ⟨response, hresponse⟩ := Option.isSome_iff_exists.1 h
    have hserved := fetchIncidents_served hresponse
    obtain ⟨accepted, -, hconsistent⟩ := Option.bind_eq_some_iff.1 hresponse
    split_ifs at hconsistent with hall
    rw [Option.some.inj hconsistent, hserved] at hall
    exact (hasEvidenceConsistentWithRule_served_iff (hmatch i hi)).1
      (List.all_eq_true.1 hall _ (List.mem_map_of_mem hi))
  · intro h
    have hread : arrayOf incidentResponse? (incidentListResponse incidents) =
        some (incidents.map servedIncident) :=
      arrayOf_listJson fun i hi => incidentResponse?_of_named (hvalid i hi) (h i hi)
    have hall : (incidents.map servedIncident).all hasEvidenceConsistentWithRule = true := by
      rw [List.all_map, List.all_eq_true]
      exact fun i hi => (hasEvidenceConsistentWithRule_served_iff (hmatch i hi)).2 (h i hi)
    rw [fetchIncidents, hread, Option.bind_eq_bind, Option.bind_some, if_pos hall]
    rfl

theorem exists_listIncidents (backend : Backend) (s : Session) :
    ∃ incidents s', (Backend.listIncidents backend).run s = .ok incidents s' := by
  cases backend with
  | memory => exact ⟨_, _, rfl⟩
  | sql => exact ⟨_, _, rfl⟩

/-- **The incidents reach the operator all or not at all.**  From an empty incident store,
through any calls of either backend, the client reads the list if and only if the evidence
of each stored incident is named, so it does where that of each candidate was; and what it
reads are the incidents of the store, each once. -/
theorem incidents_read_iff (backend : Backend) (ids : IdFactory) {s : Session}
    (hempty : s.store.incidents = .empty) (calls : List IncidentCall)
    (hfree : CollisionFree (candidateKeys calls)) :
    ((getIncidents backend (sessionAfter backend ids calls s)).isSome = true ↔
      ∀ i ∈ (sessionAfter backend ids calls s).store.incidents.values, i.evidence.Named) ∧
    ((∀ candidate fingerprint observedAt,
        IncidentCall.upsert candidate fingerprint observedAt ∈ calls → candidate.evidence.Named) →
      (getIncidents backend (sessionAfter backend ids calls s)).isSome = true) ∧
    ∀ response, getIncidents backend (sessionAfter backend ids calls s) = some response →
      response.Perm
        ((sessionAfter backend ids calls s).store.incidents.values.map servedIncident) := by
  have hledger := sessionAfter_ledger backend ids hempty calls
  have hevidence : EvidenceInvariant (candidateKeys calls) (sessionAfter backend ids calls s) :=
    sessionAfter_evidence hempty calls hfree subset_rfl
  obtain ⟨incidents, s', hlist⟩ := exists_listIncidents backend (sessionAfter backend ids calls s)
  have hperm := perm_of_listIncidents hlist
  have hget : getIncidents backend (sessionAfter backend ids calls s) =
      fetchIncidents (incidentListResponse incidents) := by
    rw [getIncidents, hlist]
  have hstored : ∀ i ∈ incidents,
      ∃ id, (sessionAfter backend ids calls s).store.incidents.get? id = some i :=
    fun i hi => Dict.mem_values_iff.1 (hperm.mem_iff.1 hi)
  have hvalid : ∀ i ∈ incidents, i.Valid := by
    intro i hi
    obtain ⟨id, hid⟩ := hstored i hi
    exact (hledger.well_kept hid).valid
  have hmatch : ∀ i ∈ incidents, EvidenceMatches i.source i.ruleRef i.evidence := by
    intro i hi
    obtain ⟨id, hid⟩ := hstored i hi
    exact hevidence.evidence_matches hid
  have hread : (getIncidents backend (sessionAfter backend ids calls s)).isSome = true ↔
      ∀ i ∈ (sessionAfter backend ids calls s).store.incidents.values, i.evidence.Named := by
    rw [hget, fetchIncidents_isSome_iff hvalid hmatch]
    exact forall_congr' fun i => by rw [hperm.mem_iff]
  refine ⟨hread, fun hnamed => hread.2 fun i hi => ?_, fun response h => ?_⟩
  · obtain ⟨candidate, fingerprint, observedAt, hmem, heq⟩ :=
      evidence_of_candidates hempty calls hi
    rw [← heq]
    exact hnamed candidate fingerprint observedAt hmem
  · rw [hget] at h
    rw [fetchIncidents_served h]
    exact hperm.map servedIncident

/-- An interface without a name, flapping. -/
def namelessFlap : IncidentCandidate :=
  { neighborDown 6 with
    ruleRef := "RULE-LINK-FLAP"
    affectedResource := "interface:"
    severity := .high
    evidence := .rule (.linkFlap ⟨"", [⟨4, .down⟩, ⟨5, .up⟩, ⟨6, .down⟩]⟩)
    recommendation := "Check the cable."
    ruleRef_not_blank := by decide
    affectedResource_not_blank := by decide
    recommendation_not_blank := by decide }

/-- A lost session, and then the interface. -/
def namelessCalls : List IncidentCall :=
  [.upsert (neighborDown 5) (neighborDown 5).fingerprint (.utc 5),
    .upsert namelessFlap namelessFlap.fingerprint (.utc 6)]

theorem collisionFree_namelessCalls : CollisionFree (candidateKeys namelessCalls) := by
  have hne : (neighborDown 5).key.fingerprint ≠ namelessFlap.key.fingerprint := by
    decide +kernel
  have hkeys : ∀ key ∈ candidateKeys namelessCalls,
      key = (neighborDown 5).key ∨ key = namelessFlap.key := by
    rintro key ⟨candidate, fingerprint, observedAt, hmem, rfl⟩
    simp only [namelessCalls, List.mem_cons, List.not_mem_nil, or_false,
      IncidentCall.upsert.injEq] at hmem
    rcases hmem with ⟨rfl, -⟩ | ⟨rfl, -⟩
    · exact Or.inl rfl
    · exact Or.inr rfl
  intro key hkey key' hkey' heq
  rcases hkeys key hkey with rfl | rfl <;> rcases hkeys key' hkey' with rfl | rfl
  · rfl
  · exact absurd heq hne
  · exact absurd heq.symm hne
  · rfl

set_option maxRecDepth 20000 in
/-- The list is read before the interface flaps, and not after. -/
theorem incidents_read_iff_nameless :
    (getIncidents .memory (sessionAfter .memory (tallyIds 'I') (namelessCalls.take 1)
      routerSession)).isSome = true ∧
    (getIncidents .memory (sessionAfter .memory (tallyIds 'I') namelessCalls
      routerSession)).isSome = false := by
  have hfree : CollisionFree (candidateKeys (namelessCalls.take 1)) := by
    refine collisionFree_namelessCalls.mono ?_
    rintro key ⟨candidate, fingerprint, observedAt, hmem, rfl⟩
    exact ⟨candidate, fingerprint, observedAt, List.mem_of_mem_take hmem, rfl⟩
  have hnamed : ∀ candidate fingerprint observedAt,
      IncidentCall.upsert candidate fingerprint observedAt ∈ namelessCalls.take 1 →
        candidate.evidence.Named := by
    intro candidate fingerprint observedAt hmem
    obtain ⟨rfl, -⟩ := IncidentCall.upsert.inj (List.mem_singleton.1 hmem)
    exact (by decide : "::1" ≠ "")
  have hunnamed : ¬∀ i ∈ (sessionAfter .memory (tallyIds 'I') namelessCalls
      routerSession).store.incidents.values, i.evidence.Named := by
    decide +kernel
  refine ⟨(incidents_read_iff .memory (tallyIds 'I') rfl _ hfree).2.1 hnamed, ?_⟩
  have hread :=
    (incidents_read_iff .memory (tallyIds 'I') (s := routerSession) rfl namelessCalls
      collisionFree_namelessCalls).1
  exact Bool.not_eq_true _ |>.mp (mt hread.1 hunnamed)

end Frontend
end MetaRne
