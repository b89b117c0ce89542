/-
# Seeding policies in the two stores

Both repositories seed a batch of policies where their ids are missing, and turn
away a batch with a policy whose id is in use with other content.  The database
compares a policy with the store as it has grown so far; the in-memory repository
compares it with the store as it was, so it does not see two policies of one
batch that contradict each other, keeps the first, and turns the same batch away
when it is seeded again.

`seeds_alike_iff` says for which batches the two agree, and that nothing else
sets them apart but a text that the database cannot hold.
-/

import MetaRne.Persistence.Sql.PolicyRepository

namespace MetaRne

open Library Library.Effect Python

/-- Two policies of one id with other content. -/
def ConfigurationPolicy.Contradicts (policy other : ConfigurationPolicy) : Prop :=
  policy.policyId = other.policyId ∧ Memory.semanticallyEqual policy other = false

/-- A policy contradicts the stored one of its id. -/
def ContradictsStored (policies : Dict String ConfigurationPolicy) (policy : ConfigurationPolicy) :
    Prop :=
  ∃ existing, policies.get? policy.policyId = some existing ∧
    Memory.semanticallyEqual existing policy = false

/-- **A batch without a contradiction**, whose texts the database can hold where it
looks them up or writes them. -/
structure SeedsCleanly (policies : Dict String ConfigurationPolicy)
    (batch : List ConfigurationPolicy) : Prop where
  text : ∀ policy ∈ batch, Sql.isText policy.policyId = true
  storable : ∀ policy ∈ batch, policies.get? policy.policyId = none →
    Sql.isStorablePolicy policy = true
  stored : ∀ policy ∈ batch, ¬ ContradictsStored policies policy
  each : batch.Pairwise fun policy other => ¬ policy.Contradicts other

/-- The first policy of a batch that the database cannot seed is one that contradicts
a stored policy, or a new one before it in the batch. -/
def FirstContradicts (policies : Dict String ConfigurationPolicy)
    (batch : List ConfigurationPolicy) : Prop :=
  ∃ before policy after, batch = before ++ policy :: after ∧ SeedsCleanly policies before ∧
    Sql.isText policy.policyId = true ∧
    (ContradictsStored policies policy ∨ (policies.get? policy.policyId = none ∧
      ∃ other ∈ before, other.Contradicts policy))

/-- How a call of `seed_if_missing` ends. -/
inductive SeedOutcome
  | success
  | conflict
  | failure
  deriving DecidableEq

def seedOutcome : Except Error Unit → SeedOutcome
  | .ok _ => .success
  | .error (.policySeedConflict _) => .conflict
  | .error _ => .failure

/-- A batch is seeded whole or not at all, and once: again it changes nothing. -/
structure SeedsOnce (seed : List ConfigurationPolicy → Action Unit) (s : Session)
    (batch : List ConfigurationPolicy) : Prop where
  all_or_nothing : ∀ e s', (seed batch).run s = .error e s' → s' = s
  idempotent : ∀ s', (seed batch).run s = .ok () s' → (seed batch).run s' = .ok () s'

/-- **The two repositories agree on a batch**: how the call ends, the policies it
leaves, and that it is whole and idempotent. -/
structure SeedsAlike (s : Session) (batch : List ConfigurationPolicy) : Prop where
  outcome : seedOutcome (attempt (Memory.seedIfMissing batch) s).1 =
    seedOutcome (attempt (Sql.seedIfMissing batch) s).1
  policies : (final (Memory.seedIfMissing batch) s).store.policies =
    (final (Sql.seedIfMissing batch) s).store.policies
  memory : SeedsOnce Memory.seedIfMissing s batch
  sql : SeedsOnce Sql.seedIfMissing s batch

/-! ### Content -/

theorem semanticallyEqual_iff {policy other : ConfigurationPolicy} :
    Memory.semanticallyEqual policy other = true ↔
      policy.appliesTo = other.appliesTo ∧ policy.requiredAcls = other.requiredAcls := by
  rw [Memory.semanticallyEqual, Bool.and_eq_true, beq_iff_eq, beq_iff_eq]

theorem semanticallyEqual_refl (policy : ConfigurationPolicy) :
    Memory.semanticallyEqual policy policy = true := semanticallyEqual_iff.2 ⟨rfl, rfl⟩

/-- Two policies with the content of a third have the same content. -/
theorem semanticallyEqual_of_common {policy other third : ConfigurationPolicy}
    (h : Memory.semanticallyEqual third policy = true)
    (h' : Memory.semanticallyEqual third other = true) :
    Memory.semanticallyEqual policy other = true := by
  obtain ⟨happ, hrules⟩ := semanticallyEqual_iff.1 h
  obtain ⟨happ', hrules'⟩ := semanticallyEqual_iff.1 h'
  exact semanticallyEqual_iff.2 ⟨happ.symm.trans happ', hrules.symm.trans hrules'⟩

/-- Policies of one id and content fit the same columns. -/
theorem isStorablePolicy_congr {policy other : ConfigurationPolicy}
    (hid : policy.policyId = other.policyId)
    (hsame : Memory.semanticallyEqual policy other = true) :
    Sql.isStorablePolicy policy = Sql.isStorablePolicy other := by
  obtain ⟨happ, hrules⟩ := semanticallyEqual_iff.1 hsame
  rw [Sql.isStorablePolicy, Sql.isStorablePolicy, hid, happ, hrules]

theorem not_contradictsStored_iff {policies : Dict String ConfigurationPolicy}
    {policy : ConfigurationPolicy} : ¬ ContradictsStored policies policy ↔
      ∀ existing, policies.get? policy.policyId = some existing →
        Memory.semanticallyEqual existing policy = true := by
  simp only [ContradictsStored, not_exists, not_and, Bool.not_eq_false]

theorem not_contradicts_iff {policy other : ConfigurationPolicy} : ¬ policy.Contradicts other ↔
    (policy.policyId = other.policyId → Memory.semanticallyEqual policy other = true) := by
  simp only [ConfigurationPolicy.Contradicts, not_and, Bool.not_eq_false]

theorem ConfigurationPolicy.Contradicts.symm {policy other : ConfigurationPolicy}
    (h : policy.Contradicts other) : other.Contradicts policy := by
  refine ⟨h.1.symm, Bool.eq_false_iff.2 fun hsame => ?_⟩
  have hback := semanticallyEqual_of_common hsame (semanticallyEqual_refl other)
  rw [h.2] at hback
  cases hback

theorem not_contradicts_self (policy : ConfigurationPolicy) : ¬ policy.Contradicts policy :=
  not_contradicts_iff.2 fun _ => semanticallyEqual_refl policy

/-! ### Growing the store -/

/-- The policies after one has been seeded. -/
def seeded (policies : Dict String ConfigurationPolicy) (policy : ConfigurationPolicy) :
    Dict String ConfigurationPolicy :=
  if (policies.get? policy.policyId).isNone then policies.set policy.policyId policy else policies

/-- A stored policy stays, and a new one is stored under its id. -/
theorem get?_seeded (policies : Dict String ConfigurationPolicy) (policy : ConfigurationPolicy)
    (policyId : String) :
    (seeded policies policy).get? policyId =
      (policies.get? policyId).or (if policyId = policy.policyId then some policy else none) := by
  unfold seeded
  by_cases hid : policyId = policy.policyId
  · subst hid
    cases h : policies.get? policy.policyId with
    | none => rw [if_pos Option.isNone_none, Dict.get?_set_self, if_pos rfl, Option.none_or]
    | some existing =>
        rw [if_neg (by rw [Option.isNone_some]; decide), h, Option.some_or]
  · split_ifs
    · rw [Dict.get?_set_of_ne _ _ hid, Option.or_none]
    · rw [Option.or_none]

theorem get?_seeded_of_some {policies : Dict String ConfigurationPolicy}
    {existing p : ConfigurationPolicy} {policyId : String}
    (h : policies.get? policyId = some existing) :
    (seeded policies p).get? policyId = some existing := by
  rw [get?_seeded, h, Option.some_or]

/-- The session with its policies seeded by a batch. -/
def Session.seed (s : Session) (policy : ConfigurationPolicy) : Session :=
  { s with store := { s.store with policies := seeded s.store.policies policy } }

def Session.seedAll (s : Session) (batch : List ConfigurationPolicy) : Session :=
  batch.foldl Session.seed s

theorem policies_seedAll (s : Session) (batch : List ConfigurationPolicy) :
    (s.seedAll batch).store.policies = batch.foldl seeded s.store.policies := by
  induction batch generalizing s with
  | nil => rfl
  | cons policy batch ih =>
      change ((s.seed policy).seedAll batch).store.policies = _
      rw [ih]
      rfl

/-- The database seeds a policy: it writes it, or finds its content in use already. -/
structure Admits (policies : Dict String ConfigurationPolicy) (policy : ConfigurationPolicy) :
    Prop where
  text : Sql.isText policy.policyId = true
  storable : policies.get? policy.policyId = none → Sql.isStorablePolicy policy = true
  stored : ¬ ContradictsStored policies policy

/-- A batch is clean if its first policy is admitted and the rest is clean after it. -/
theorem seedsCleanly_cons {policies : Dict String ConfigurationPolicy}
    {policy : ConfigurationPolicy} {batch : List ConfigurationPolicy} :
    SeedsCleanly policies (policy :: batch) ↔
      Admits policies policy ∧ SeedsCleanly (seeded policies policy) batch := by
  constructor
  · intro h
    obtain ⟨htext, htexts⟩ := List.forall_mem_cons.1 h.text
    obtain ⟨hstorable, hstorables⟩ := List.forall_mem_cons.1 h.storable
    obtain ⟨hstored, hstoreds⟩ := List.forall_mem_cons.1 h.stored
    obtain ⟨hhead, htail⟩ := List.pairwise_cons.1 h.each
    refine ⟨⟨htext, hstorable, hstored⟩, htexts, fun other hother hnone => ?_,
      fun other hother => ?_, htail⟩
    · rw [get?_seeded, Option.or_eq_none_iff] at hnone
      exact hstorables other hother hnone.1
    · refine not_contradictsStored_iff.2 fun existing hexisting => ?_
      rw [get?_seeded, Option.or_eq_some_iff] at hexisting
      rcases hexisting with hexisting | ⟨-, hnew⟩
      · exact not_contradictsStored_iff.1 (hstoreds other hother) existing hexisting
      · split_ifs at hnew with hid
        obtain rfl := Option.some.inj hnew
        exact not_contradicts_iff.1 (hhead other hother) hid.symm
  · rintro ⟨⟨htext, hstorable, hstored⟩, h⟩
    have hsame : ∀ other ∈ batch, policy.policyId = other.policyId →
        Memory.semanticallyEqual policy other = true := by
      intro other hother hid
      cases hexisting : policies.get? policy.policyId with
      | none =>
          refine not_contradictsStored_iff.1 (h.stored other hother) policy ?_
          rw [get?_seeded, ← hid, hexisting, if_pos rfl, Option.none_or]
      | some existing =>
          have hpolicy := not_contradictsStored_iff.1 hstored existing hexisting
          have hother := not_contradictsStored_iff.1 (h.stored other hother) existing
            (get?_seeded_of_some (hid ▸ hexisting))
          exact semanticallyEqual_of_common hpolicy hother
    refine ⟨List.forall_mem_cons.2 ⟨htext, h.text⟩,
      List.forall_mem_cons.2 ⟨hstorable, fun other hother hnone => ?_⟩,
      List.forall_mem_cons.2 ⟨hstored, fun other hother => ?_⟩,
      List.pairwise_cons.2 ⟨fun other hother => not_contradicts_iff.2 (hsame other hother),
        h.each⟩⟩
    · by_cases hid : policy.policyId = other.policyId
      · rw [← isStorablePolicy_congr hid (hsame other hother hid)]
        exact hstorable (hid ▸ hnone)
      · refine h.storable other hother ?_
        rw [get?_seeded, hnone, if_neg (Ne.symm hid), Option.none_or]
    · refine not_contradictsStored_iff.2 fun existing hexisting => ?_
      exact not_contradictsStored_iff.1 (h.stored other hother) existing
        (get?_seeded_of_some hexisting)

theorem seedsCleanly_nil (policies : Dict String ConfigurationPolicy) :
    SeedsCleanly policies [] :=
  ⟨List.forall_mem_nil _, List.forall_mem_nil _, List.forall_mem_nil _, List.Pairwise.nil⟩

/-- What contradicts the store that a clean batch has grown: what contradicted it
before, or a new policy of the batch. -/
theorem contradictsStored_foldl {policies : Dict String ConfigurationPolicy}
    {before : List ConfigurationPolicy} (h : SeedsCleanly policies before)
    (policy : ConfigurationPolicy) :
    ContradictsStored (before.foldl seeded policies) policy ↔
      ContradictsStored policies policy ∨ (policies.get? policy.policyId = none ∧
        ∃ other ∈ before, other.Contradicts policy) := by
  induction before generalizing policies with
  | nil =>
      simp only [List.foldl_nil, List.not_mem_nil, false_and, exists_false, and_false, or_false]
  | cons first rest ih =>
      obtain ⟨hadmits, hrest⟩ := seedsCleanly_cons.1 h
      rw [List.foldl_cons, ih hrest]
      cases hstored : policies.get? policy.policyId with
      | some existing =>
          have hseeded := get?_seeded_of_some (p := first) hstored
          simp only [ContradictsStored, hstored, hseeded, reduceCtorEq, false_and, or_false]
      | none =>
          by_cases hid : policy.policyId = first.policyId
          · have hseeded : (seeded policies first).get? policy.policyId = some first := by
              rw [get?_seeded, hstored, if_pos hid, Option.none_or]
            simp only [ContradictsStored, hstored, hseeded, reduceCtorEq, false_and, or_false,
              exists_false, Option.some.injEq, exists_eq_left', false_or, true_and]
            constructor
            · exact fun hfirst => ⟨first, List.mem_cons_self .., hid.symm, hfirst⟩
            · rintro ⟨other, hother, hsame, hcontent⟩
              refine Bool.eq_false_iff.2 fun hfirst => ?_
              refine Bool.eq_false_iff.1 hcontent (semanticallyEqual_of_common ?_ hfirst)
              rcases List.mem_cons.1 hother with rfl | hother
              · exact semanticallyEqual_refl _
              · exact not_contradicts_iff.1 ((List.pairwise_cons.1 h.each).1 other hother)
                  (hid.symm.trans hsame.symm)
          · have hseeded : (seeded policies first).get? policy.policyId = none := by
              rw [get?_seeded, hstored, if_neg hid, Option.none_or]
            have hfirst : ¬ first.Contradicts policy := fun hc => hid hc.1.symm
            simp only [ContradictsStored, hstored, hseeded, reduceCtorEq, false_and, exists_false,
              false_or, true_and, List.mem_cons, exists_eq_or_imp, hfirst]

/-- After a clean batch each of its policies has its id in use. -/
theorem isSome_get?_foldl {policies : Dict String ConfigurationPolicy}
    {batch : List ConfigurationPolicy} :
    (∀ policyId, (policies.get? policyId).isSome →
        ((batch.foldl seeded policies).get? policyId).isSome) ∧
      ∀ policy ∈ batch, ((batch.foldl seeded policies).get? policy.policyId).isSome := by
  induction batch generalizing policies with
  | nil => exact ⟨fun _ h => h, List.forall_mem_nil _⟩
  | cons first rest ih =>
      obtain ⟨hkeeps, hrest⟩ := @ih (seeded policies first)
      refine ⟨fun policyId h => hkeeps policyId ?_, List.forall_mem_cons.2 ⟨hkeeps _ ?_, hrest⟩⟩
      · obtain ⟨existing, hexisting⟩ := Option.isSome_iff_exists.1 h
        rw [get?_seeded_of_some hexisting, Option.isSome_some]
      · rw [get?_seeded, if_pos rfl, Option.isSome_or, Option.isSome_some, Bool.or_true]

/-- A clean batch is clean again after it was seeded. -/
theorem SeedsCleanly.again {policies : Dict String ConfigurationPolicy}
    {batch : List ConfigurationPolicy} (h : SeedsCleanly policies batch) :
    SeedsCleanly (batch.foldl seeded policies) batch := by
  refine ⟨h.text, fun policy hmem hnone => ?_, fun policy hmem hstored => ?_, h.each⟩
  · have hsome : ((batch.foldl seeded policies).get? policy.policyId).isSome :=
      isSome_get?_foldl.2 policy hmem
    rw [hnone] at hsome
    cases hsome
  · rcases (contradictsStored_foldl h policy).1 hstored with hstored | ⟨-, other, hother, hother'⟩
    · exact h.stored policy hmem hstored
    · have hflip := h.each.imp fun {p q} hpq (hqp : q.Contradicts p) => hpq hqp.symm
      exact h.each.forall_of_forall_of_flip (fun p _ => not_contradicts_self p) hflip
        hother hmem hother'

/-- Seeding policies whose ids are in use changes nothing. -/
theorem seedAll_of_isSome {s : Session} {batch : List ConfigurationPolicy}
    (h : ∀ policy ∈ batch, (s.store.policies.get? policy.policyId).isSome) :
    s.seedAll batch = s := by
  induction batch with
  | nil => rfl
  | cons policy batch ih =>
      have hseed : s.seed policy = s := by
        have hnone : ¬ (s.store.policies.get? policy.policyId).isNone = true := by
          rw [Bool.not_eq_true, Option.isNone_eq_false_iff]
          exact h policy (List.mem_cons_self ..)
        rw [Session.seed, seeded, if_neg hnone]
      change (s.seed policy).seedAll batch = s
      rw [hseed]
      exact ih fun other hother => h other (List.mem_cons_of_mem _ hother)

theorem seedAll_again (s : Session) (batch : List ConfigurationPolicy) :
    (s.seedAll batch).seedAll batch = s.seedAll batch := by
  refine seedAll_of_isSome fun policy hmem => ?_
  rw [policies_seedAll]
  exact isSome_get?_foldl.2 policy hmem

/-! ### The two calls -/

/-- The check of the in-memory repository is of the stored policies alone. -/
theorem validateSeed_eq_ok {policies : Dict String ConfigurationPolicy}
    {policy : ConfigurationPolicy} {u : Unit} :
    Memory.validateSeed policies policy = .ok u ↔ ¬ ContradictsStored policies policy := by
  rw [not_contradictsStored_iff, Memory.validateSeed]
  cases policies.get? policy.policyId with
  | none => exact iff_of_true rfl fun _ h => by cases h
  | some existing =>
      simp only [raiseIf_eq_ok, Bool.not_eq_false, Option.some.injEq, forall_eq']

theorem validateSeed_eq_error {policies : Dict String ConfigurationPolicy}
    {policy : ConfigurationPolicy} {e : Error} (h : Memory.validateSeed policies policy = .error e) :
    e = .policySeedConflict policy.policyId := by
  unfold Memory.validateSeed at h
  cases hexisting : policies.get? policy.policyId with
  | none =>
      rw [hexisting] at h
      cases h
  | some existing =>
      rw [hexisting] at h
      exact (raiseIf_eq_error.1 h).2.symm

theorem seedPolicy_run (policy : ConfigurationPolicy) (s : Session) :
    (Memory.seedPolicy policy).run s = .ok () (s.seed policy) := by
  rw [Memory.seedPolicy, get_bind, Session.seed, seeded]
  split_ifs <;> rfl

theorem mapM_seedPolicy_run (batch : List ConfigurationPolicy) (s : Session) :
    ∃ units, (batch.mapM Memory.seedPolicy).run s = .ok units (s.seedAll batch) := by
  induction batch generalizing s with
  | nil => exact ⟨[], rfl⟩
  | cons policy batch ih =>
      obtain ⟨units, hrest⟩ := ih (s.seed policy)
      rw [List.mapM_cons]
      refine ⟨() :: units, bind_eq_ok.2 ⟨(), _, seedPolicy_run policy s, ?_⟩⟩
      exact bind_eq_ok.2 ⟨units, _, hrest, rfl⟩

/-- **The in-memory repository** seeds every batch that no stored policy contradicts. -/
theorem memory_seedIfMissing_run (batch : List ConfigurationPolicy) (s : Session) :
    ((∀ policy ∈ batch, ¬ ContradictsStored s.store.policies policy) ∧
        (Memory.seedIfMissing batch).run s = .ok () (s.seedAll batch)) ∨
      ((∃ policy ∈ batch, ContradictsStored s.store.policies policy) ∧
        ∃ policyId, (Memory.seedIfMissing batch).run s =
          .error (.policySeedConflict policyId) s) := by
  rw [Memory.seedIfMissing, get_bind]
  cases hvalid : (batch.mapM (Memory.validateSeed s.store.policies) : Except Error (List Unit)) with
  | ok units =>
      refine Or.inl ⟨fun policy hmem => ?_, ?_⟩
      · obtain ⟨u, -, hu⟩ := exists_right_of_forall₂ (except_mapM_eq_ok.1 hvalid) hmem
        exact validateSeed_eq_ok.1 hu
      · obtain ⟨units', hrun⟩ := mapM_seedPolicy_run batch s
        rw [check_bind_of_ok rfl]
        exact bind_eq_ok.2 ⟨units', _, hrun, rfl⟩
  | error e =>
      obtain ⟨before, policy, after, rfl, -, hraised⟩ := mapM_eq_error.1 hvalid
      refine Or.inr ⟨⟨policy, List.mem_append_right _ (List.mem_cons_self ..), by_contra fun hnot => ?_⟩, policy.policyId, ?_⟩
      · have hok : Memory.validateSeed s.store.policies policy = .ok () :=
          validateSeed_eq_ok.2 hnot
        rw [hok] at hraised
        cases hraised
      · rw [check_bind_of_error rfl, validateSeed_eq_error hraised]

/-- A policy that is admitted is seeded. -/
theorem seedModel_of_admits {policy : ConfigurationPolicy} {s : Session}
    (h : Admits s.store.policies policy) :
    (Sql.seedModel policy).run s = .ok () (s.seed policy) := by
  have htext := ne_false_of_eq_true h.text
  rw [Sql.seedModel, raiseIf_bind_of_not htext, get_bind, Session.seed, seeded]
  cases hstored : s.store.policies.get? policy.policyId with
  | none =>
      have hstorable := h.storable hstored
      rw [hstorable]
      rfl
  | some row =>
      have hsame := not_contradictsStored_iff.1 h.stored row hstored
      simp only [Sql.policyToDomain_eq, Option.isNone_some, Bool.false_eq_true, if_false]
      rw [check_bind_of_ok rfl, hsame]
      rfl

/-- A policy that contradicts the stored one of its id is turned away. -/
theorem seedModel_of_contradicts {policy : ConfigurationPolicy} {s : Session}
    (htext : Sql.isText policy.policyId = true)
    (h : ContradictsStored s.store.policies policy) :
    (Sql.seedModel policy).run s = .error (.policySeedConflict policy.policyId) s := by
  obtain ⟨row, hstored, hsame⟩ := h
  rw [Sql.seedModel, raiseIf_bind_of_not (ne_false_of_eq_true htext), get_bind, hstored]
  simp only [Sql.policyToDomain_eq]
  rw [check_bind_of_ok rfl, hsame]
  rfl

/-- Any other policy has a text that the database cannot hold. -/
theorem seedModel_of_refused {policy : ConfigurationPolicy} {s : Session}
    (h : ¬ Admits s.store.policies policy)
    (hnot : ¬ (Sql.isText policy.policyId = true ∧ ContradictsStored s.store.policies policy)) :
    ∃ message, (Sql.seedModel policy).run s = .error (.data message) s := by
  refine ⟨"invalid text representation", ?_⟩
  cases htext : Sql.isText policy.policyId with
  | false =>
      rw [Sql.seedModel, htext]
      exact check_bind_of_error rfl _ s
  | true =>
      have hstored : ¬ ContradictsStored s.store.policies policy := fun hc => hnot ⟨htext, hc⟩
      cases hget : s.store.policies.get? policy.policyId with
      | some existing =>
          refine absurd ⟨htext, fun hnone => ?_, hstored⟩ h
          rw [hget] at hnone
          cases hnone
      | none =>
          have hstorable : Sql.isStorablePolicy policy = false :=
            Bool.eq_false_iff.2 fun hs => h ⟨htext, fun _ => hs, hstored⟩
          rw [Sql.seedModel, raiseIf_bind_of_not (ne_false_of_eq_true htext), get_bind, hget]
          simp only [hstorable]
          exact check_bind_of_error rfl _ s

/-- A clean batch is seeded, a policy at a time. -/
theorem mapM_seedModel_of_clean {batch : List ConfigurationPolicy} {s : Session}
    (h : SeedsCleanly s.store.policies batch) :
    ∃ units, (batch.mapM Sql.seedModel).run s = .ok units (s.seedAll batch) := by
  induction batch generalizing s with
  | nil => exact ⟨[], rfl⟩
  | cons policy batch ih =>
      obtain ⟨hadmits, hclean⟩ := seedsCleanly_cons.1 h
      obtain ⟨units, hrest⟩ := ih (s := s.seed policy) hclean
      rw [List.mapM_cons]
      refine ⟨() :: units, bind_eq_ok.2 ⟨(), _, seedModel_of_admits hadmits, ?_⟩⟩
      exact bind_eq_ok.2 ⟨units, _, hrest, rfl⟩

/-- A batch stops at the policy after a clean start that is not seeded. -/
theorem mapM_seedModel_of_stop {before : List ConfigurationPolicy}
    (after : List ConfigurationPolicy) {policy : ConfigurationPolicy} {s : Session} {e : Error} {s' : Session}
    (h : SeedsCleanly s.store.policies before)
    (hstop : (Sql.seedModel policy).run (s.seedAll before) = .error e s') :
    ((before ++ policy :: after).mapM Sql.seedModel).run s = .error e s' := by
  induction before generalizing s with
  | nil =>
      rw [List.nil_append, List.mapM_cons]
      exact bind_eq_error.2 (Or.inl hstop)
  | cons first before ih =>
      obtain ⟨hadmits, hclean⟩ := seedsCleanly_cons.1 h
      have hrest := ih (s := s.seed first) hclean hstop
      rw [List.cons_append, List.mapM_cons]
      refine bind_eq_error.2 (Or.inr ⟨(), _, seedModel_of_admits hadmits, ?_⟩)
      exact bind_eq_error.2 (Or.inl hrest)

/-- A batch is clean, or has a clean start and then a policy that is not admitted. -/
theorem exists_stop {policies : Dict String ConfigurationPolicy}
    {batch : List ConfigurationPolicy} (h : ¬ SeedsCleanly policies batch) :
    ∃ before policy after, batch = before ++ policy :: after ∧ SeedsCleanly policies before ∧
      ¬ Admits (before.foldl seeded policies) policy := by
  induction batch generalizing policies with
  | nil => exact absurd (seedsCleanly_nil policies) h
  | cons first rest ih =>
      by_cases hadmits : Admits policies first
      · have hrest : ¬ SeedsCleanly (seeded policies first) rest := fun hclean =>
          h (seedsCleanly_cons.2 ⟨hadmits, hclean⟩)
        obtain ⟨before, policy, after, rfl, hclean, hstop⟩ := ih hrest
        exact ⟨first :: before, policy, after, rfl, seedsCleanly_cons.2 ⟨hadmits, hclean⟩, hstop⟩
      · exact ⟨[], first, rest, rfl, seedsCleanly_nil policies, hadmits⟩

theorem sql_seedIfMissing_eq (batch : List ConfigurationPolicy) (s : Session) :
    (Sql.seedIfMissing batch).run s = (savepoint (Sql.seedBatch batch)).run s := by
  rw [Sql.seedIfMissing]
  split_ifs with hempty
  · rw [List.isEmpty_iff.1 hempty]
    rfl
  · rfl

/-- **The SQL repository** seeds a clean batch, and turns any other away whole: for a
contradiction if that is what stops it first, else for a text it cannot hold. -/
theorem sql_seedIfMissing_run (batch : List ConfigurationPolicy) (s : Session) :
    (SeedsCleanly s.store.policies batch ∧
        (Sql.seedIfMissing batch).run s = .ok () (s.seedAll batch)) ∨
      (¬ SeedsCleanly s.store.policies batch ∧ FirstContradicts s.store.policies batch ∧
        ∃ policyId, (Sql.seedIfMissing batch).run s = .error (.policySeedConflict policyId) s) ∨
      (¬ SeedsCleanly s.store.policies batch ∧ ¬ FirstContradicts s.store.policies batch ∧
        ∃ message, (Sql.seedIfMissing batch).run s = .error (.data message) s) := by
  rw [sql_seedIfMissing_eq]
  by_cases hclean : SeedsCleanly s.store.policies batch
  · obtain ⟨units, hrun⟩ := mapM_seedModel_of_clean hclean
    exact Or.inl ⟨hclean, savepoint_of_ok (bind_eq_ok.2 ⟨units, _, hrun, rfl⟩)⟩
  · by_cases hfirst : FirstContradicts s.store.policies batch
    · refine Or.inr (Or.inl ⟨hclean, hfirst, ?_⟩)
      obtain ⟨before, policy, after, rfl, hbefore, htext, hcontra⟩ := hfirst
      have hgrown : ContradictsStored (s.seedAll before).store.policies policy := by
        rw [policies_seedAll]
        exact (contradictsStored_foldl hbefore policy).2 hcontra
      have hstop := mapM_seedModel_of_stop after hbefore (seedModel_of_contradicts htext hgrown)
      exact ⟨policy.policyId, savepoint_of_error (bind_eq_error.2 (Or.inl hstop))⟩
    · refine Or.inr (Or.inr ⟨hclean, hfirst, ?_⟩)
      obtain ⟨before, policy, after, rfl, hbefore, hnot⟩ := exists_stop hclean
      rw [← policies_seedAll] at hnot
      obtain ⟨message, hrun⟩ := seedModel_of_refused hnot fun hc => hfirst
        ⟨before, policy, after, rfl, hbefore, hc.1, by
          rw [policies_seedAll] at hc
          exact (contradictsStored_foldl hbefore policy).1 hc.2⟩
      have hstop := mapM_seedModel_of_stop after hbefore hrun
      exact ⟨message, savepoint_of_error (bind_eq_error.2 (Or.inl hstop))⟩

/-- In either repository a batch that is turned away leaves the session alone. -/
theorem seedIfMissing_all_or_nothing {batch : List ConfigurationPolicy} {s s' : Session}
    {e : Error} (h : (Memory.seedIfMissing batch).run s = .error e s' ∨
      (Sql.seedIfMissing batch).run s = .error e s') : s' = s := by
  rcases h with h | h
  · rcases memory_seedIfMissing_run batch s with ⟨-, hrun⟩ | ⟨-, _, hrun⟩
    · rw [hrun] at h
      cases h
    · rw [hrun] at h
      cases h
      rfl
  · rcases sql_seedIfMissing_run batch s with ⟨-, hrun⟩ | ⟨-, -, _, hrun⟩ | ⟨-, -, _, hrun⟩
    · rw [hrun] at h
      cases h
    · rw [hrun] at h
      cases h
      rfl
    · rw [hrun] at h
      cases h
      rfl

/-- A batch that raised in a repository is whole: nothing of it was written. -/
theorem SeedsOnce.of_raised {seed : List ConfigurationPolicy → Action Unit} {s : Session}
    {batch : List ConfigurationPolicy} {e : Error} (h : (seed batch).run s = .error e s) :
    SeedsOnce seed s batch where
  all_or_nothing := by
    intro e' s' h'
    rw [h] at h'
    cases h'
    rfl
  idempotent := by
    intro s' h'
    rw [h] at h'
    cases h'

/-- Seeding once and again, where the batch is still seeded the second time. -/
theorem SeedsOnce.of_seeded {seed : List ConfigurationPolicy → Action Unit} {s : Session}
    {batch : List ConfigurationPolicy} (h : (seed batch).run s = .ok () (s.seedAll batch))
    (hagain : (seed batch).run (s.seedAll batch) = .ok () ((s.seedAll batch).seedAll batch)) :
    SeedsOnce seed s batch where
  all_or_nothing := by
    intro e' s' h'
    rw [h] at h'
    cases h'
  idempotent := by
    intro s' h'
    rw [h] at h'
    cases h'
    rw [seedAll_again] at hagain
    exact hagain

/-- The repositories agree on a clean batch. -/
theorem SeedsCleanly.alike {s : Session} {batch : List ConfigurationPolicy}
    (h : SeedsCleanly s.store.policies batch) : SeedsAlike s batch := by
  have hmemory : ∀ {s : Session}, SeedsCleanly s.store.policies batch →
      (Memory.seedIfMissing batch).run s = .ok () (s.seedAll batch) := by
    intro s h
    rcases memory_seedIfMissing_run batch s with ⟨-, hrun⟩ | ⟨⟨policy, hmem, hstored⟩, -⟩
    · exact hrun
    · exact absurd hstored (h.stored policy hmem)
  have hsql : ∀ {s : Session}, SeedsCleanly s.store.policies batch →
      (Sql.seedIfMissing batch).run s = .ok () (s.seedAll batch) := by
    intro s h
    rcases sql_seedIfMissing_run batch s with ⟨-, hrun⟩ | ⟨hnot, -⟩ | ⟨hnot, -⟩
    · exact hrun
    · exact absurd h hnot
    · exact absurd h hnot
  have hagain : SeedsCleanly (s.seedAll batch).store.policies batch := by
    rw [policies_seedAll]
    exact h.again
  refine ⟨?_, ?_, .of_seeded (hmemory h) (hmemory hagain), .of_seeded (hsql h) (hsql hagain)⟩
  · rw [attempt_of_ok (hmemory h), attempt_of_ok (hsql h)]
  · rw [final_of_ok (hmemory h), final_of_ok (hsql h)]

/-- The repositories agree on a batch that both turn away for a contradiction. -/
theorem seedsAlike_of_conflicts {s : Session} {batch : List ConfigurationPolicy}
    {policyId policyId' : String}
    (hmemory : (Memory.seedIfMissing batch).run s = .error (.policySeedConflict policyId) s)
    (hsql : (Sql.seedIfMissing batch).run s = .error (.policySeedConflict policyId') s) :
    SeedsAlike s batch := by
  refine ⟨?_, ?_, .of_raised hmemory, .of_raised hsql⟩
  · rw [attempt_of_error hmemory, attempt_of_error hsql]
    rfl
  · rw [final_of_error hmemory, final_of_error hsql]

/-- **When the repositories agree.**  On every store they agree on exactly the
batches without a contradiction, and on those that contradict a stored policy and
are stopped by a contradiction in the database as well. -/
theorem seeds_alike_iff (s : Session) (batch : List ConfigurationPolicy) :
    SeedsAlike s batch ↔ SeedsCleanly s.store.policies batch ∨
      ((∃ policy ∈ batch, ContradictsStored s.store.policies policy) ∧
        FirstContradicts s.store.policies batch) := by
  constructor
  · intro h
    have houtcome := h.outcome
    rcases sql_seedIfMissing_run batch s with ⟨hclean, -⟩ | ⟨-, hfirst, id, hsql⟩ | ⟨-, -, m, hsql⟩
    · exact Or.inl hclean
    · rcases memory_seedIfMissing_run batch s with ⟨-, hmemory⟩ | ⟨hstored, -⟩
      · rw [attempt_of_ok hmemory, attempt_of_error hsql] at houtcome
        cases houtcome
      · exact Or.inr ⟨hstored, hfirst⟩
    · rcases memory_seedIfMissing_run batch s with ⟨-, hmemory⟩ | ⟨-, id, hmemory⟩
      · rw [attempt_of_ok hmemory, attempt_of_error hsql] at houtcome
        cases houtcome
      · rw [attempt_of_error hmemory, attempt_of_error hsql] at houtcome
        cases houtcome
  · rintro (hclean | ⟨⟨policy, hmem, hstored⟩, hfirst⟩)
    · exact hclean.alike
    · rcases memory_seedIfMissing_run batch s with ⟨hnone, -⟩ | ⟨-, id, hmemory⟩
      · exact absurd hstored (hnone policy hmem)
      · rcases sql_seedIfMissing_run batch s with ⟨hclean, -⟩ | ⟨-, -, id', hsql⟩ | ⟨-, hnot, -⟩
        · exact hclean.alike
        · exact seedsAlike_of_conflicts hmemory hsql
        · exact absurd hfirst hnot

/-! Two policies of one id, for two devices, in one batch. -/

/-- The policy `acl-edge`, for a device. -/
def edgePolicy (deviceId : String) (h : isBlank deviceId = false) : ConfigurationPolicy :=
  ⟨"acl-edge", deviceId, [], 0, by decide, h⟩

/-- The policy for `core-1`, and then for `core-2`. -/
def twoEdgePolicies : List ConfigurationPolicy :=
  [edgePolicy "core-1" (by decide), edgePolicy "core-2" (by decide)]

/-- The in-memory repository seeds the first of them; the database turns both away. -/
theorem not_seedsAlike_twice : ¬ SeedsAlike ⟨.empty, 0, 0⟩ twoEdgePolicies := by
  intro h
  have houtcome := h.outcome
  revert houtcome
  decide +kernel

end MetaRne
