/-
# Validating an upsert

`persistence/incident_validation.py`: the checks both implementations of
`upsert_open_incident` make before they touch anything.  `EvidenceMatches` is
what they ask of the evidence, and `validateCandidateConsistency_eq_ok` says
what is left when they pass.
-/

import MetaRne.Domain.Incident

namespace MetaRne

open Library Library.Effect Python

/-- The evidence is the one its source and rule call for: a policy violation's,
or that of the rule `ruleRef` names.  No evidence is called for by a drift. -/
inductive EvidenceMatches : IncidentSource → String → IncidentEvidence → Prop
  | policyViolation (ruleRef : String) (evidence : PolicyViolationIncidentEvidence) :
      EvidenceMatches .policyViolation ruleRef (.policyViolation evidence)
  | anomaly (evidence : RuleEvidence) :
      EvidenceMatches .anomaly evidence.ruleId.value (.rule evidence)

/-- `_validate_source_and_evidence`. -/
def validateSourceAndEvidence (candidate : IncidentCandidate) : Except Error Unit :=
  match candidate.source with
  | .policyViolation =>
    match candidate.evidence with
    | .policyViolation _ => .ok ()
    | evidence => .error (.valueError
        ("IncidentCandidate.evidence must be a PolicyViolationIncidentEvidence for " ++
          "source POLICY_VIOLATION, got %s") [evidence.typeName])
  | .anomaly =>
    match RuleId.ofValue? candidate.ruleRef with
    | none => .error (.valueError
        "unsupported IncidentCandidate.rule_ref for source ANOMALY: %r" [candidate.ruleRef])
    | some ruleId =>
      let mismatch : Error := .valueError
        "IncidentCandidate.evidence must be a %s for rule_ref %r, got %s"
        [ruleId.evidenceTypeName, candidate.ruleRef, candidate.evidence.typeName]
      match candidate.evidence with
      | .rule evidence => raiseIf (evidence.ruleId ≠ ruleId) mismatch
      | .policyViolation _ => .error mismatch
  | source => .error (.valueError
      "unsupported IncidentCandidate.source for upsert_open_incident: %r" [source.value])

/-- `validate_candidate_consistency`. -/
def validateCandidateConsistency (candidate : IncidentCandidate) (fingerprint : String)
    (observedAt : Datetime) : Except Error Unit := do
  let expectedFingerprint ← computeFingerprint candidate.deviceId candidate.source
    candidate.ruleRef candidate.affectedResource
  raiseIf (fingerprint ≠ expectedFingerprint) (.valueError
    ("fingerprint does not match compute_fingerprint(candidate.device_id, " ++
      "candidate.source, candidate.rule_ref, candidate.affected_resource)") [])
  raiseIf (observedAt.eq (.utc candidate.observedAt) = false) (.valueError
    "observed_at does not match candidate.observed_at" [])
  validateSourceAndEvidence candidate

/-- `require_non_empty_incident_id`. -/
def requireNonEmptyIncidentId (incidentId : String) : Except Error Unit :=
  raiseIf (isBlank incidentId = true) (.valueError
    "incident_id_factory produced an empty or whitespace-only ID" [])

theorem validateSourceAndEvidence_eq_ok {candidate : IncidentCandidate} {u : Unit} :
    validateSourceAndEvidence candidate = .ok u ↔
      EvidenceMatches candidate.source candidate.ruleRef candidate.evidence := by
  obtain ⟨deviceId, source, ruleRef, resource, severity, evidence, recommendation, observedAt, _, _,
    _, _⟩ := candidate
  simp only [validateSourceAndEvidence]
  cases source with
  | policyViolation =>
      cases evidence with
      | policyViolation evidence => exact iff_of_true rfl (.policyViolation ruleRef evidence)
      | rule evidence => exact iff_of_false (fun h => by cases h) fun h => by cases h
  | drift => exact iff_of_false (fun h => by cases h) fun h => by cases h
  | anomaly =>
      cases hrule : RuleId.ofValue? ruleRef with
      | none =>
          refine iff_of_false (fun h => by cases h) fun h => ?_
          cases h with
          | anomaly evidence =>
              rw [RuleId.ofValue?_value] at hrule
              cases hrule
      | some ruleId =>
          cases evidence with
          | policyViolation evidence => exact iff_of_false (fun h => by cases h) fun h => by cases h
          | rule evidence =>
              simp only [raiseIf_eq_ok, ne_eq, not_not]
              constructor
              · rintro rfl
                rw [← RuleId.value_of_ofValue? hrule]
                exact .anomaly evidence
              · intro h
                cases h with
                | anomaly =>
                    rw [RuleId.ofValue?_value] at hrule
                    exact Option.some.inj hrule

/-- **What a candidate that passes is**: handed in with its own fingerprint, its
own instant of observation and the evidence its source and rule call for. -/
theorem validateCandidateConsistency_eq_ok {candidate : IncidentCandidate} {fingerprint : String}
    {observedAt : Datetime} {u : Unit} :
    validateCandidateConsistency candidate fingerprint observedAt = .ok u ↔
      fingerprint = candidate.fingerprint ∧
        observedAt.instant? = some (candidate.observedAt : ℤ) ∧
        EvidenceMatches candidate.source candidate.ruleRef candidate.evidence := by
  rw [validateCandidateConsistency, candidate.computeFingerprint_eq]
  change (raiseIf _ _ >>= fun _ => _) = _ ↔ _
  rw [raiseIf_bind_eq_ok, raiseIf_bind_eq_ok, validateSourceAndEvidence_eq_ok, ne_eq, not_not,
    Bool.not_eq_false, Datetime.eq_utc_iff]

theorem validateSourceAndEvidence_error {candidate : IncidentCandidate} {e : Error}
    (h : validateSourceAndEvidence candidate = .error e) :
    ∃ message values, e = .valueError message values := by
  unfold validateSourceAndEvidence at h
  split at h
  · split at h
    · cases h
    · exact ⟨_, _, (Except.error.inj h).symm⟩
  · split at h
    · exact ⟨_, _, (Except.error.inj h).symm⟩
    · dsimp only at h
      split at h
      · exact ⟨_, _, (raiseIf_eq_error.1 h).2.symm⟩
      · exact ⟨_, _, (Except.error.inj h).symm⟩
  · exact ⟨_, _, (Except.error.inj h).symm⟩

/-- A candidate that does not pass is a `ValueError`. -/
theorem validateCandidateConsistency_error {candidate : IncidentCandidate} {fingerprint : String}
    {observedAt : Datetime} {e : Error}
    (h : validateCandidateConsistency candidate fingerprint observedAt = .error e) :
    ∃ message values, e = .valueError message values := by
  rw [validateCandidateConsistency, candidate.computeFingerprint_eq] at h
  rcases except_bind_eq_error.1 h with h | ⟨fp, -, h⟩
  · cases h
  rcases except_bind_eq_error.1 h with h | ⟨-, -, h⟩
  · exact ⟨_, _, (raiseIf_eq_error.1 h).2.symm⟩
  rcases except_bind_eq_error.1 h with h | ⟨-, -, h⟩
  · exact ⟨_, _, (raiseIf_eq_error.1 h).2.symm⟩
  · exact validateSourceAndEvidence_error h

theorem requireNonEmptyIncidentId_eq_ok {incidentId : String} {u : Unit} :
    requireNonEmptyIncidentId incidentId = .ok u ↔ isBlank incidentId = false := by
  rw [requireNonEmptyIncidentId, raiseIf_eq_ok, Bool.not_eq_true]

end MetaRne
