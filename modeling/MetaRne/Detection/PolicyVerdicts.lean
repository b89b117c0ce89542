/-
# Policies held against parsed configurations

The evaluator compares the ACL that an interface names with the one that a rule
asks for, and never looks whether that ACL is declared.  That it need not is due
to the adapters: in a configuration they accept, every ACL that an interface names
is declared.  So the evaluator reports exactly the rules that the configuration
does not satisfy, declaration included.
-/

import MetaRne.Adapters.ParsedConfiguration
import MetaRne.Adapters.Vendors
import MetaRne.Detection.PolicyFindings

namespace MetaRne
namespace PolicyEvaluator

open Library Library.Effect Python

/-- The ACL of an interface in a direction. -/
def assignedAcl (interface : NormalizedInterface) : AclDirection → Option String
  | .in => interface.aclIn
  | .out => interface.aclOut

/-- The configuration has the interface. -/
def HasInterface (config : NormalizedConfiguration) (interfaceName : String) : Prop :=
  ∃ interface ∈ config.interfaces, interface.name = interfaceName

/-- **A rule is satisfied**: its interface exists and has its ACL in its direction,
and the ACL is declared. -/
def Satisfied (config : NormalizedConfiguration) (rule : RequiredAclRule) : Prop :=
  (∃ interface ∈ config.interfaces, interface.name = rule.interfaceName ∧
    assignedAcl interface rule.direction = some rule.aclName) ∧
  ∃ acl ∈ config.acls, acl.name = rule.aclName

instance decidableHasInterface (config : NormalizedConfiguration) (interfaceName : String) :
    Decidable (HasInterface config interfaceName) :=
  inferInstanceAs (Decidable (∃ interface ∈ config.interfaces, interface.name = interfaceName))

instance decidableSatisfied (config : NormalizedConfiguration) (rule : RequiredAclRule) :
    Decidable (Satisfied config rule) :=
  inferInstanceAs (Decidable ((∃ interface ∈ config.interfaces,
    interface.name = rule.interfaceName ∧ assignedAcl interface rule.direction = some rule.aclName) ∧
    ∃ acl ∈ config.acls, acl.name = rule.aclName))

/-- The unsatisfied rules of the policies of a device, in their order. -/
def unsatisfied (deviceId : String) (config : NormalizedConfiguration)
    (policies : List ConfigurationPolicy) : List (ConfigurationPolicy × RequiredAclRule) :=
  (policies.filter fun policy => policy.appliesTo = deviceId).flatMap fun policy =>
    (policy.requiredAcls.filter fun rule => ¬ Satisfied config rule).map fun rule => (policy, rule)

/-- The violation of an unsatisfied rule: why it is one, and the ACL that was found. -/
def verdict (deviceId sourceSnapshotId : String) (observedAt : Datetime)
    (config : NormalizedConfiguration) (finding : ConfigurationPolicy × RequiredAclRule) :
    ConfigurationViolation :=
  violation deviceId sourceSnapshotId observedAt finding.1 finding.2
    (if HasInterface config finding.2.interfaceName then .missingRequiredAcl
      else .targetInterfaceMissing)
    ((findInterface config finding.2.interfaceName).bind fun interface =>
      assignedAcl interface finding.2.direction)

variable {config : NormalizedConfiguration}

theorem actualAclName_eq (interface : NormalizedInterface) (rule : RequiredAclRule) :
    actualAclName interface rule = assignedAcl interface rule.direction := by
  unfold actualAclName assignedAcl
  cases rule.direction with
  | «in» => rfl
  | out => rfl

theorem findInterface_eq_none {interfaceName : String} :
    findInterface config interfaceName = none ↔ ¬ HasInterface config interfaceName := by
  unfold findInterface HasInterface
  rw [List.find?_eq_none]
  simp only [beq_iff_eq, not_exists, not_and]

/-- What an adapter guarantees of a configuration it accepts. -/
structure WellReferenced (config : NormalizedConfiguration) : Prop where
  nodup : (config.interfaces.map (·.name)).Nodup
  declared : ∀ {interface}, interface ∈ config.interfaces → ∀ {aclName},
    (interface.aclIn = some aclName ∨ interface.aclOut = some aclName) →
      aclName ∈ config.acls.map (·.name)

theorem wellReferenced_of_accepted {adapter : VendorConfigAdapter}
    (hadapter : adapter ∈ adapterRegistry.adapters) {text : String}
    (h : adapter.accepted? text = some config) : WellReferenced config := by
  obtain ⟨d, rfl⟩ := exists_dialect hadapter
  have hparse := VendorConfigAdapter.accepted?_eq_some.1 h
  exact ⟨Dialect.nodup_interfaceNames hparse, Dialect.declared_of_assigned hparse⟩

/-- An ACL in either direction is declared. -/
theorem WellReferenced.of_assigned (h : WellReferenced config) {interface : NormalizedInterface}
    (hinterface : interface ∈ config.interfaces) {direction : AclDirection} {aclName : String}
    (hacl : assignedAcl interface direction = some aclName) :
    ∃ acl ∈ config.acls, acl.name = aclName := by
  refine List.mem_map.1 (h.declared hinterface ?_)
  cases direction with
  | «in» => exact Or.inl hacl
  | out => exact Or.inr hacl

/-- **What the evaluator finds of a rule is whether it is satisfied.** -/
theorem WellReferenced.isUnsatisfied_eq (h : WellReferenced config) (rule : RequiredAclRule) :
    isUnsatisfied config rule = decide (¬ Satisfied config rule) := by
  unfold isUnsatisfied
  cases hfind : findInterface config rule.interfaceName with
  | none =>
      have habsent := findInterface_eq_none.1 hfind
      refine (decide_eq_true ?_).symm
      rintro ⟨⟨interface, hinterface, hname, -⟩, -⟩
      exact habsent ⟨interface, hinterface, hname⟩
  | some interface =>
      have hinterface := List.mem_of_find?_eq_some hfind
      have hname : interface.name = rule.interfaceName := by
        simpa using List.find?_some hfind
      rw [Bool.eq_iff_iff, decide_eq_true_iff, bne_iff_ne, actualAclName_eq]
      refine not_congr ⟨fun hacl => ?_, ?_⟩
      · exact ⟨⟨interface, hinterface, hname, hacl⟩, h.of_assigned hinterface hacl⟩
      · rintro ⟨⟨other, hother, hothername, hacl⟩, -⟩
        -- Interface names are distinct, so the rule's interface is the one found.
        have hsame : other = interface :=
          List.inj_on_of_nodup_map h.nodup hother hinterface (hothername.trans hname.symm)
        rw [← hsame]
        exact hacl

/-- A rule is evaluated to its verdict, or to nothing if it is satisfied. -/
theorem WellReferenced.evaluateRule_eq (h : WellReferenced config)
    (deviceId sourceSnapshotId : String) (observedAt : Datetime) (policy : ConfigurationPolicy)
    (rule : RequiredAclRule) :
    evaluateRule deviceId sourceSnapshotId observedAt config policy rule =
      if Satisfied config rule then none
      else some (verdict deviceId sourceSnapshotId observedAt config (policy, rule)) := by
  have hun := h.isUnsatisfied_eq rule
  by_cases hsatisfied : Satisfied config rule
  · rw [if_pos hsatisfied]
    exact evaluateRule_of_satisfied (hun.trans (decide_eq_false (not_not.2 hsatisfied)))
  · rw [if_neg hsatisfied]
    rw [decide_eq_true hsatisfied] at hun
    unfold isUnsatisfied at hun
    unfold evaluateRule verdict
    cases hfind : findInterface config rule.interfaceName with
    | none =>
        simp only [if_neg (findInterface_eq_none.1 hfind), Option.bind_none]
    | some interface =>
        have hhas : HasInterface config rule.interfaceName := by
          by_contra habsent
          rw [findInterface_eq_none.2 habsent] at hfind
          cases hfind
        simp only [hfind, bne_iff_ne, ne_eq, actualAclName_eq] at hun
        simp only [if_neg hun, if_pos hhas, Option.bind_some, actualAclName_eq]

/-- The rules of one policy: those that are not satisfied, each with its verdict. -/
theorem WellReferenced.filterMap_evaluateRule_eq (h : WellReferenced config)
    (deviceId sourceSnapshotId : String) (observedAt : Datetime) (policy : ConfigurationPolicy)
    (rules : List RequiredAclRule) :
    (rules.filterMap fun rule =>
        evaluateRule deviceId sourceSnapshotId observedAt config policy rule) =
      ((rules.filter fun rule => ¬ Satisfied config rule).map fun rule => (policy, rule)).map
        (verdict deviceId sourceSnapshotId observedAt config) := by
  induction rules with
  | nil => rfl
  | cons rule rules ih =>
      have hrule := h.evaluateRule_eq deviceId sourceSnapshotId observedAt policy rule
      by_cases hsatisfied : Satisfied config rule
      · rw [if_pos hsatisfied] at hrule
        rw [List.filterMap_cons_none hrule, ih, List.filter_cons_of_neg (by simpa using hsatisfied)]
      · rw [if_neg hsatisfied] at hrule
        rw [List.filterMap_cons_some hrule, ih, List.filter_cons_of_pos (by simpa using hsatisfied)]
        rfl

/-- **What the evaluator returns on a configuration with declared references.** -/
theorem WellReferenced.evaluate_eq (h : WellReferenced config) {deviceId sourceSnapshotId : String}
    (hdevice : isBlank deviceId = false) (hsnapshot : isBlank sourceSnapshotId = false)
    (observedAt : Timestamp) (policies : List ConfigurationPolicy) :
    evaluate deviceId sourceSnapshotId (.utc observedAt) config policies =
      .ok ((unsatisfied deviceId config policies).map
        (verdict deviceId sourceSnapshotId (.utc observedAt) config)) := by
  unfold evaluate
  rw [requireNonEmpty_eq_ok (h := ⟨hdevice⟩), requireNonEmpty_eq_ok (h := ⟨hsnapshot⟩), requireUtc_utc]
  refine congrArg Except.ok ?_
  unfold unsatisfied
  induction policies with
  | nil => rfl
  | cons policy policies ih =>
      rw [List.flatMap_cons, ih]
      by_cases happlies : policy.appliesTo = deviceId
      · rw [if_neg (not_not.2 happlies), List.filter_cons_of_pos (by simpa using happlies),
          List.flatMap_cons, List.map_append, h.filterMap_evaluateRule_eq]
      · rw [if_pos happlies, List.filter_cons_of_neg (by simpa using happlies), List.nil_append]

/-- **Policies over parsed configurations.**  On a configuration that the Cisco or
the Arista adapter accepts a text as, the evaluator returns one violation for each
unsatisfied rule of the policies of the device, in their order, and no other; its
reason is a missing interface exactly where the configuration lacks the interface. -/
theorem evaluate_accepted {adapter : VendorConfigAdapter}
    (hadapter : adapter ∈ adapterRegistry.adapters) {text : String}
    (h : adapter.accepted? text = some config) (device : Device) {sourceSnapshotId : String}
    (hsnapshot : isBlank sourceSnapshotId = false) (observedAt : Timestamp)
    (policies : List ConfigurationPolicy) :
    evaluate device.deviceId sourceSnapshotId (.utc observedAt) config policies =
        .ok ((unsatisfied device.deviceId config policies).map
          (verdict device.deviceId sourceSnapshotId (.utc observedAt) config)) ∧
      ∀ finding, (verdict device.deviceId sourceSnapshotId (.utc observedAt) config
          finding).violationType = .targetInterfaceMissing ↔
        ¬ ∃ interface ∈ config.interfaces, interface.name = finding.2.interfaceName := by
  refine ⟨(wellReferenced_of_accepted hadapter h).evaluate_eq device.deviceId_not_blank hsnapshot
    observedAt policies, fun finding => ?_⟩
  by_cases hhas : HasInterface config finding.2.interfaceName
  · refine iff_of_false ?_ (not_not.2 hhas)
    simp only [verdict, violation, if_pos hhas]
    exact nofun
  · exact iff_of_true (by simp only [verdict, violation, if_neg hhas]) hhas

/-! ### One text -/

/-- An ACL on one interface, declared after the reference to it. -/
def edgeText : String :=
  "hostname edge-1\ninterface Gi0/1\n ip access-group EDGE-IN in\n!\n" ++
    "ip access-list extended EDGE-IN\n permit ip any any\n"

/-- What the Cisco adapter makes of it. -/
def edgeConfig : NormalizedConfiguration where
  hostname := "edge-1"
  interfaces := [⟨"Gi0/1", none, none, none, .up, some "EDGE-IN", none⟩]
  routing := ⟨[]⟩
  acls := [⟨"EDGE-IN", [⟨10, .permit, "ip", "any", "any"⟩]⟩]

/-- A rule for an interface of the edge, inbound. -/
def edgeRule (interfaceName : String) (h : isBlank interfaceName = false) : RequiredAclRule :=
  ⟨"EDGE-IN", interfaceName, .in, .high, "apply the ACL", by decide, h, by decide⟩

/-- A policy that wants the ACL on two interfaces. -/
def edgePolicy : ConfigurationPolicy :=
  ⟨"POL-EDGE", "border-1", [edgeRule "Gi0/1" (by decide), edgeRule "Gi0/2" (by decide)], 0,
    by decide, by decide⟩

set_option maxRecDepth 20000 in
/-- The first rule is satisfied and the second has no interface. -/
theorem evaluate_accepted_edge :
    CiscoAdapter.adapter.accepted? edgeText = some edgeConfig ∧
      ∃ v, evaluate "border-1" "snapshot-1" (.utc 0) edgeConfig [edgePolicy] = .ok [v] ∧
        v.evidence.interfaceName = "Gi0/2" ∧ v.violationType = .targetInterfaceMissing := by
  have htext : edgeText.toList = _ := toList_append_eq String.toList_ofList String.toList_ofList
  have haccepted : CiscoAdapter.adapter.accepted? edgeText = some edgeConfig :=
    (CiscoAdapter.dialect.accepted?_eq_of_toList htext).trans (by decide +kernel)
  obtain ⟨border, hborder⟩ : ∃ device : Device, device.deviceId = "border-1" :=
    ⟨⟨"border-1", .ciscoIosXe, none, none, 0, 0, by decide, fun _ => ⟨rfl, rfl⟩, le_rfl⟩, rfl⟩
  have hverdicts := (evaluate_accepted (List.mem_cons_self ..) haccepted border
    (by decide : isBlank "snapshot-1" = false) 0 [edgePolicy]).1
  rw [hborder] at hverdicts
  refine ⟨haccepted, _, hverdicts, rfl, ?_⟩
  decide +kernel

end PolicyEvaluator
end MetaRne
