/-
# The incident ledger

What an incident store is for, whatever keeps it: an observation opens an
incident when none is open for its fingerprint and is counted by the open one
otherwise; an open incident can be resolved; nothing else happens.
`UpsertStep` and `ResolveStep` say what a call that returns does to the store,
and both implementations are shown to do exactly that.

`LedgerInvariant` is what holds of a store all of whose writes were such steps.
That an open incident was last updated when it was last seen is the part that
nothing states and that resolving, refreshing and recovering all rest on.
`EvidenceInvariant` is the part that needs fingerprints to tell keys apart.

`Evolves` is what a step keeps of the incidents that were there before.
-/

import MetaRne.Persistence.IncidentValidation
import MetaRne.Persistence.Store

namespace MetaRne

open Library Library.Effect Python

/-- `_find_open_by_fingerprint`. -/
def findOpenByFingerprint (incidents : Dict String Incident) (fingerprint : String) :
    Option Incident :=
  incidents.values.find? fun incident =>
    incident.status == .open && incident.fingerprint == fingerprint

/-- The incident that an observation opens. -/
def IncidentCandidate.opened (c : IncidentCandidate) (incidentId : String) : Incident where
  incidentId := incidentId
  fingerprint := c.fingerprint
  deviceId := c.deviceId
  source := c.source
  ruleRef := c.ruleRef
  affectedResource := c.affectedResource
  severity := c.severity
  status := .open
  evidence := c.evidence
  recommendation := c.recommendation
  createdAt := c.observedAt
  lastSeenAt := c.observedAt
  occurrenceCount := 1
  updatedAt := c.observedAt
  resolvedAt := none

/-- The incident after one more observation. -/
def Incident.seenAgain (i : Incident) (c : IncidentCandidate) : Incident :=
  { i with
    severity := c.severity
    evidence := c.evidence
    recommendation := c.recommendation
    lastSeenAt := c.observedAt
    occurrenceCount := i.occurrenceCount + 1
    updatedAt := c.observedAt }

/-! ### The steps -/

/-- What an upsert that returns does. -/
inductive UpsertStep (ids : IdFactory) (c : IncidentCandidate) (s : Session) :
    IncidentUpsertResult → Session → Prop
  | created (hnone : findOpenByFingerprint s.store.incidents c.fingerprint = none)
      (hdevice : (s.store.devices.get? c.deviceId).isSome) :
      UpsertStep ids c s ⟨c.opened (ids.next s.incidentIdsDrawn), .created⟩
        (s.drawIncidentId.setIncident (ids.next s.incidentIdsDrawn)
          (c.opened (ids.next s.incidentIdsDrawn)))
  | updated (existing : Incident) (s₁ : Session)
      (hdrawn : s₁ = s ∨ s₁ = s.drawIncidentId)
      (hopen : findOpenByFingerprint s.store.incidents c.fingerprint = some existing)
      (hle : existing.lastSeenAt ≤ c.observedAt) :
      UpsertStep ids c s ⟨existing.seenAgain c, .updated⟩
        (s₁.setIncident existing.incidentId (existing.seenAgain c))

/-- What a resolve that returns does. -/
inductive ResolveStep (incidentId : String) (resolvedAt : Datetime) (s : Session) :
    Option Incident → Session → Prop
  | unknown (hnone : s.store.incidents.get? incidentId = none) :
      ResolveStep incidentId resolvedAt s none s
  | already (existing : Incident) (hsome : s.store.incidents.get? incidentId = some existing)
      (hresolved : existing.status = .resolved) :
      ResolveStep incidentId resolvedAt s (some existing) s
  | resolved (existing : Incident) (t : Timestamp)
      (hinstant : resolvedAt.instant? = some (t : ℤ))
      (hsome : s.store.incidents.get? incidentId = some existing)
      (hopen : existing.status = .open) (hle : existing.updatedAt ≤ t) :
      ResolveStep incidentId resolvedAt s (some (existing.resolvedAs t))
        (s.setIncident incidentId (existing.resolvedAs t))

/-- The store is as it was; ids may have been handed out. -/
def SameStore (s s' : Session) : Prop := s' = s ∨ s' = s.drawIncidentId

theorem SameStore.store_eq {s s' : Session} (h : SameStore s s') : s'.store = s.store := by
  rcases h with rfl | rfl <;> rfl

theorem SameStore.le_drawn {s s' : Session} (h : SameStore s s') :
    s.incidentIdsDrawn ≤ s'.incidentIdsDrawn := by
  rcases h with rfl | rfl
  · exact le_rfl
  · exact Nat.le_succ _

/-! ### The invariant -/

/-- What is true of every stored incident on its own. -/
structure Incident.WellKept (devices : Dict String Device) (i : Incident) : Prop where
  valid : i.Valid
  open_or_resolved : i.status = .open ∨ i.status = .resolved
  updatedAt_of_open : i.status = .open → i.updatedAt = i.lastSeenAt
  fingerprint_eq : i.fingerprint = i.key.fingerprint
  device_exists : (devices.get? i.deviceId).isSome

/-- What is true of a store that only ledger steps have written. -/
structure LedgerInvariant (ids : IdFactory) (s : Session) : Prop where
  well_kept : ∀ {id i}, s.store.incidents.get? id = some i → i.WellKept s.store.devices
  filed : ∀ {id i}, s.store.incidents.get? id = some i → i.incidentId = id
  drawn : ∀ {id i}, s.store.incidents.get? id = some i →
    ∃ n < s.incidentIdsDrawn, id = ids.next n
  unique_open : ∀ {id id' i i'}, s.store.incidents.get? id = some i →
    s.store.incidents.get? id' = some i' → i.status = .open → i'.status = .open →
    i.fingerprint = i'.fingerprint → i = i'

/-- What is true, besides, of a store whose findings are about `keys`, no two of
which have one fingerprint: the evidence of an incident is what it calls for. -/
structure EvidenceInvariant (keys : Set FindingKey) (s : Session) : Prop where
  key_mem : ∀ {id i}, s.store.incidents.get? id = some i → i.key ∈ keys
  evidence_matches : ∀ {id i}, s.store.incidents.get? id = some i →
    EvidenceMatches i.source i.ruleRef i.evidence

/-- What a step keeps of an incident: what it is about, its id and when it was created. -/
structure Incident.SameIdentity (i i' : Incident) : Prop where
  incidentId : i'.incidentId = i.incidentId
  fingerprint : i'.fingerprint = i.fingerprint
  key : i'.key = i.key
  createdAt : i'.createdAt = i.createdAt

/-- **How a ledger evolves**: no incident is lost or takes another identity, and
a resolved one stays as it is. -/
def Evolves (d d' : Dict String Incident) : Prop :=
  ∀ id i, d.get? id = some i →
    ∃ i', d'.get? id = some i' ∧ i.SameIdentity i' ∧ (i.status = .resolved → i' = i)

theorem Incident.SameIdentity.refl (i : Incident) : i.SameIdentity i := ⟨rfl, rfl, rfl, rfl⟩

theorem Incident.SameIdentity.trans {i j k : Incident} (h : i.SameIdentity j)
    (h' : j.SameIdentity k) : i.SameIdentity k :=
  ⟨h'.incidentId.trans h.incidentId, h'.fingerprint.trans h.fingerprint, h'.key.trans h.key,
    h'.createdAt.trans h.createdAt⟩

theorem Evolves.refl (d : Dict String Incident) : Evolves d d :=
  fun _ i h => ⟨i, h, .refl i, fun _ => rfl⟩

theorem Evolves.trans {d d' d'' : Dict String Incident} (h : Evolves d d') (h' : Evolves d' d'') :
    Evolves d d'' := by
  intro id i hi
  obtain ⟨j, hj, hij, hres⟩ := h id i hi
  obtain ⟨k, hk, hjk, hres'⟩ := h' id j hj
  refine ⟨k, hk, hij.trans hjk, fun hr => ?_⟩
  have hji : j = i := hres hr
  rw [hres' (by rw [hji]; exact hr), hji]

/-- Writing an incident over the open one it continues, or under a new id. -/
theorem Evolves.set {d : Dict String Incident} {id : String} {j : Incident}
    (h : ∀ i, d.get? id = some i → i.SameIdentity j ∧ i.status ≠ .resolved) :
    Evolves d (d.set id j) := by
  intro id' i hi
  rw [Dict.get?_set]
  split_ifs with hid
  · subst hid
    obtain ⟨hsame, hnot⟩ := h i hi
    exact ⟨j, rfl, hsame, fun hr => absurd hr hnot⟩
  · exact ⟨i, hi, .refl i, fun _ => rfl⟩

section Preservation

variable {ids : IdFactory} {keys : Set FindingKey} {s s' : Session}

/-- The open incident of a fingerprint is stored under its id. -/
theorem LedgerInvariant.get?_of_findOpen (hs : LedgerInvariant ids s) {fingerprint : String}
    {i : Incident} (h : findOpenByFingerprint s.store.incidents fingerprint = some i) :
    s.store.incidents.get? i.incidentId = some i ∧ i.status = .open ∧
      i.fingerprint = fingerprint := by
  unfold findOpenByFingerprint at h
  have hp := List.find?_some h
  rw [Bool.and_eq_true, beq_iff_eq, beq_iff_eq] at hp
  obtain ⟨id, hid⟩ := Dict.mem_values_iff.1 (List.mem_of_find?_eq_some h)
  exact ⟨by rw [hs.filed hid]; exact hid, hp.1, hp.2⟩

theorem findOpenByFingerprint_eq_none {incidents : Dict String Incident} {fingerprint : String} :
    findOpenByFingerprint incidents fingerprint = none ↔
      ∀ id i, incidents.get? id = some i → i.status = .open → i.fingerprint ≠ fingerprint := by
  unfold findOpenByFingerprint
  simp only [List.find?_eq_none, Dict.mem_values_iff, Bool.and_eq_true, beq_iff_eq, not_and,
    forall_exists_index]
  exact forall_comm

/-- The id handed out next is not in use. -/
theorem LedgerInvariant.get?_next (hs : LedgerInvariant ids s) :
    s.store.incidents.get? (ids.next s.incidentIdsDrawn) = none := by
  rw [Option.eq_none_iff_forall_not_mem]
  intro i hi
  obtain ⟨n, hn, hid⟩ := hs.drawn hi
  exact absurd (ids.injective hid) hn.ne'

/-- The invariant survives the writing of one incident, given what is new about
it: that it is well kept, filed and open only if no other incident of its
fingerprint is. -/
theorem LedgerInvariant.setIncident (hs : LedgerInvariant ids s) {id : String} {j : Incident}
    (hkept : j.WellKept s.store.devices) (hfiled : j.incidentId = id)
    (hdrawn : ∃ n < s.incidentIdsDrawn, id = ids.next n)
    (hopen : j.status = .open → ∀ id' i, s.store.incidents.get? id' = some i → i.status = .open →
      i.fingerprint = j.fingerprint → id' = id) :
    LedgerInvariant ids (s.setIncident id j) where
  well_kept := by
    intro id' i h
    change (s.store.incidents.set id j).get? id' = some i at h
    rw [Dict.get?_set] at h
    split_ifs at h with hid
    · rw [← Option.some.inj h]
      exact hkept
    · exact hs.well_kept h
  filed := by
    intro id' i h
    change (s.store.incidents.set id j).get? id' = some i at h
    rw [Dict.get?_set] at h
    split_ifs at h with hid
    · rw [← Option.some.inj h, hid]
      exact hfiled
    · exact hs.filed h
  drawn := by
    intro id' i h
    change (s.store.incidents.set id j).get? id' = some i at h
    rw [Dict.get?_set] at h
    split_ifs at h with hid
    · rw [hid]
      exact hdrawn
    · exact hs.drawn h
  unique_open := by
    intro id₁ id₂ i₁ i₂ h₁ h₂ ho₁ ho₂ hfp
    change (s.store.incidents.set id j).get? id₁ = some i₁ at h₁
    change (s.store.incidents.set id j).get? id₂ = some i₂ at h₂
    rw [Dict.get?_set] at h₁ h₂
    split_ifs at h₁ h₂ with hid₁ hid₂ hid₂
    · exact (Option.some.inj h₁).symm.trans (Option.some.inj h₂)
    · cases h₁
      exact absurd (hopen ho₁ id₂ i₂ h₂ ho₂ hfp.symm) hid₂
    · cases h₂
      exact absurd (hopen ho₂ id₁ i₁ h₁ ho₁ hfp) hid₁
    · exact hs.unique_open h₁ h₂ ho₁ ho₂ hfp

/-- Handing out an id keeps the invariant. -/
theorem LedgerInvariant.sameStore (hs : LedgerInvariant ids s) (h : SameStore s s') :
    LedgerInvariant ids s' := by
  rcases h with rfl | rfl
  · exact hs
  · refine ⟨hs.well_kept, hs.filed, fun h => ?_, hs.unique_open⟩
    obtain ⟨n, hn, hid⟩ := hs.drawn h
    exact ⟨n, Nat.lt_succ_of_lt hn, hid⟩

theorem IncidentCandidate.opened_valid (c : IncidentCandidate) (ids : IdFactory) (n : ℕ) :
    (c.opened (ids.next n)).Valid where
  incidentId_not_blank := ids.not_blank n
  deviceId_not_blank := c.deviceId_not_blank
  ruleRef_not_blank := c.ruleRef_not_blank
  affectedResource_not_blank := c.affectedResource_not_blank
  recommendation_not_blank := c.recommendation_not_blank
  fingerprint_hex := isSha256Hexdigest_sha256Hexdigest _
  one_le_occurrenceCount := le_rfl
  createdAt_le := le_rfl
  lastSeenAt_le := le_rfl
  resolvedAt_le := nofun
  resolved_iff := ⟨nofun, nofun⟩

theorem Incident.Valid.seenAgain {i : Incident} (hi : i.Valid) (ho : i.status = .open)
    {c : IncidentCandidate} (hle : i.lastSeenAt ≤ c.observedAt) : (i.seenAgain c).Valid :=
  { hi with
    recommendation_not_blank := c.recommendation_not_blank
    one_le_occurrenceCount := Nat.le_add_left 1 _
    createdAt_le := hi.createdAt_le.trans hle
    lastSeenAt_le := le_rfl
    resolvedAt_le := fun t ht => by
      have hr := hi.resolved_iff.2 (Option.isSome_iff_exists.2 ⟨t, ht⟩)
      rw [ho] at hr
      cases hr }

theorem IncidentCandidate.opened_wellKept (c : IncidentCandidate) (ids : IdFactory) (n : ℕ)
    {devices : Dict String Device} (hdevice : (devices.get? c.deviceId).isSome) :
    (c.opened (ids.next n)).WellKept devices where
  valid := c.opened_valid ids n
  open_or_resolved := Or.inl rfl
  updatedAt_of_open := fun _ => rfl
  fingerprint_eq := rfl
  device_exists := hdevice

theorem Incident.WellKept.seenAgain {i : Incident} {devices : Dict String Device}
    (hi : i.WellKept devices) (ho : i.status = .open) {c : IncidentCandidate}
    (hle : i.lastSeenAt ≤ c.observedAt) : (i.seenAgain c).WellKept devices where
  valid := hi.valid.seenAgain ho hle
  open_or_resolved := hi.open_or_resolved
  updatedAt_of_open := fun _ => rfl
  fingerprint_eq := hi.fingerprint_eq
  device_exists := hi.device_exists

theorem Incident.WellKept.resolvedAs {i : Incident} {devices : Dict String Device}
    (hi : i.WellKept devices) {t : Timestamp} (ht : i.updatedAt ≤ t) :
    (i.resolvedAs t).WellKept devices :=
  { hi with
    valid := hi.valid.resolvedAs ht
    open_or_resolved := Or.inr rfl
    updatedAt_of_open := nofun }

/-- **An upsert keeps the invariant.** -/
theorem UpsertStep.invariant {c : IncidentCandidate} {r : IncidentUpsertResult}
    (h : UpsertStep ids c s r s') (hs : LedgerInvariant ids s) : LedgerInvariant ids s' := by
  cases h with
  | created hnone hdevice =>
      refine (hs.sameStore (Or.inr rfl)).setIncident
        (c.opened_wellKept ids _ hdevice) rfl ⟨_, Nat.lt_succ_self _, rfl⟩ ?_
      exact fun _ id' i hi ho hfp =>
        absurd hfp (findOpenByFingerprint_eq_none.1 hnone id' i hi ho)
  | updated existing s₁ hdrawn hopen hle =>
      obtain ⟨hget, ho, -⟩ := hs.get?_of_findOpen hopen
      have hkept := hs.well_kept hget
      have hs₁ : LedgerInvariant ids s₁ := hs.sameStore hdrawn
      have hstore : s₁.store = s.store := SameStore.store_eq hdrawn
      rw [← hstore] at hget hkept
      refine hs₁.setIncident (hkept.seenAgain ho hle) rfl (hs₁.drawn hget)
        fun _ id' i hi hio hifp => ?_
      rw [← hs₁.filed hi, hs₁.unique_open hi hget hio ho hifp]

/-- What is true of the evidence of the incidents of a store stays so when one
is written that has the right evidence. -/
theorem EvidenceInvariant.setIncident (hs : EvidenceInvariant keys s) {id : String} {j : Incident}
    (hkey : j.key ∈ keys) (hmatch : EvidenceMatches j.source j.ruleRef j.evidence) :
    EvidenceInvariant keys (s.setIncident id j) where
  key_mem := by
    intro id' i h
    change (s.store.incidents.set id j).get? id' = some i at h
    rw [Dict.get?_set] at h
    split_ifs at h with hid
    · rw [← Option.some.inj h]
      exact hkey
    · exact hs.key_mem h
  evidence_matches := by
    intro id' i h
    change (s.store.incidents.set id j).get? id' = some i at h
    rw [Dict.get?_set] at h
    split_ifs at h with hid
    · rw [← Option.some.inj h]
      exact hmatch
    · exact hs.evidence_matches h

theorem EvidenceInvariant.of_store_eq (hs : EvidenceInvariant keys s)
    (h : s'.store = s.store) : EvidenceInvariant keys s' := by
  refine ⟨fun hi => ?_, fun hi => ?_⟩ <;> rw [h] at hi
  · exact hs.key_mem hi
  · exact hs.evidence_matches hi

/-- **An upsert keeps the evidence right.**  When the open incident of the
fingerprint counts the observation, it takes over the candidate's evidence: that
this is of the type it calls for needs that the two are about the same key. -/
theorem UpsertStep.evidenceInvariant {c : IncidentCandidate} {r : IncidentUpsertResult}
    (h : UpsertStep ids c s r s') (hs : LedgerInvariant ids s) (he : EvidenceInvariant keys s)
    (hfree : CollisionFree keys) (hkey : c.key ∈ keys)
    (hmatch : EvidenceMatches c.source c.ruleRef c.evidence) : EvidenceInvariant keys s' := by
  cases h with
  | created hnone hdevice =>
      have hdrawn : EvidenceInvariant keys s.drawIncidentId := he.of_store_eq rfl
      exact hdrawn.setIncident hkey hmatch
  | updated existing s₁ hdrawn hopen hle =>
      obtain ⟨hget, -, hfp⟩ := hs.get?_of_findOpen hopen
      have hmem : existing.key ∈ keys := he.key_mem hget
      have hsame : existing.key = c.key :=
        hfree hmem hkey ((hs.well_kept hget).fingerprint_eq.symm.trans hfp)
      refine (he.of_store_eq (SameStore.store_eq hdrawn)).setIncident hmem ?_
      have hsource : existing.source = c.source := congrArg FindingKey.source hsame
      have hrule : existing.ruleRef = c.ruleRef := congrArg FindingKey.ruleRef hsame
      change EvidenceMatches existing.source existing.ruleRef c.evidence
      rw [hsource, hrule]
      exact hmatch

theorem UpsertStep.evolves {c : IncidentCandidate} {r : IncidentUpsertResult}
    (h : UpsertStep ids c s r s') (hs : LedgerInvariant ids s) :
    Evolves s.store.incidents s'.store.incidents := by
  cases h with
  | created hnone hdevice =>
      refine Evolves.set fun i hi => ?_
      change s.store.incidents.get? _ = some i at hi
      rw [hs.get?_next] at hi
      cases hi
  | updated existing s₁ hdrawn hopen hle =>
      obtain ⟨hget, ho, -⟩ := hs.get?_of_findOpen hopen
      have hstore : s₁.store = s.store := SameStore.store_eq hdrawn
      change Evolves _ (s₁.store.incidents.set _ _)
      rw [hstore]
      refine Evolves.set fun i hi => ?_
      rw [hget, Option.some.injEq] at hi
      subst hi
      rw [ho]
      exact ⟨⟨rfl, rfl, rfl, rfl⟩, nofun⟩

/-- **A resolve keeps the invariant.** -/
theorem ResolveStep.invariant {incidentId : String} {resolvedAt : Datetime}
    {r : Option Incident} (h : ResolveStep incidentId resolvedAt s r s') (hs : LedgerInvariant ids s) :
    LedgerInvariant ids s' := by
  cases h with
  | unknown hnone => exact hs
  | already existing hsome hresolved => exact hs
  | resolved existing t hinstant hsome hopen hle =>
      have hfiled : existing.incidentId = incidentId := hs.filed hsome
      exact hs.setIncident ((hs.well_kept hsome).resolvedAs hle) hfiled (hs.drawn hsome) nofun

theorem ResolveStep.evidenceInvariant {incidentId : String} {resolvedAt : Datetime}
    {r : Option Incident} (h : ResolveStep incidentId resolvedAt s r s') (he : EvidenceInvariant keys s) :
    EvidenceInvariant keys s' := by
  cases h with
  | unknown hnone => exact he
  | already existing hsome hresolved => exact he
  | resolved existing t hinstant hsome hopen hle =>
      have hmem : existing.key ∈ keys := he.key_mem hsome
      have hmatch := he.evidence_matches hsome
      exact he.setIncident hmem hmatch

theorem ResolveStep.evolves {incidentId : String} {resolvedAt : Datetime}
    {r : Option Incident} (h : ResolveStep incidentId resolvedAt s r s') : Evolves s.store.incidents s'.store.incidents := by
  cases h with
  | unknown hnone => exact Evolves.refl _
  | already existing hsome hresolved => exact Evolves.refl _
  | resolved existing t hinstant hsome hopen hle =>
      refine Evolves.set fun i hi => ?_
      rw [hsome, Option.some.injEq] at hi
      subst hi
      rw [hopen]
      exact ⟨⟨rfl, rfl, rfl, rfl⟩, nofun⟩

end Preservation

/-! ### Counting -/

/-- How often an incident counts a fingerprint. -/
def Incident.counts (fingerprint : String) (i : Incident) : ℕ :=
  if i.fingerprint = fingerprint then i.occurrenceCount else 0

/-- How often a fingerprint was observed, over all its incidents. -/
def occurrences (fingerprint : String) (incidents : Dict String Incident) : ℕ :=
  (incidents.values.map (Incident.counts fingerprint)).sum

/-- Whether an upsert counts for a fingerprint. -/
def IncidentCandidate.countsFor (c : IncidentCandidate) (fingerprint : String) : ℕ :=
  if c.fingerprint = fingerprint then 1 else 0

/-- An upsert that returns opened an incident, or did not. -/
def IncidentUpsertResult.opened (r : IncidentUpsertResult) : ℕ :=
  if r.outcome = .created then 1 else 0

section Counting

variable {ids : IdFactory} {s s' : Session}

/-- **An upsert is counted once**, for its own fingerprint. -/
theorem UpsertStep.occurrences_eq {c : IncidentCandidate} {r : IncidentUpsertResult}
    (h : UpsertStep ids c s r s') (hs : LedgerInvariant ids s) (fingerprint : String) :
    occurrences fingerprint s'.store.incidents =
      occurrences fingerprint s.store.incidents + c.countsFor fingerprint := by
  cases h with
  | created hnone hdevice =>
      change occurrences fingerprint (s.store.incidents.set _ _) = _
      rw [occurrences, Dict.values_set_of_get?_none _ hs.get?_next, List.map_append,
        List.sum_append, List.map_singleton, List.sum_singleton]
      rfl
  | updated existing s₁ hdrawn hopen hle =>
      obtain ⟨hget, -, hfp⟩ := hs.get?_of_findOpen hopen
      have hstore : s₁.store = s.store := SameStore.store_eq hdrawn
      change occurrences fingerprint (s₁.store.incidents.set _ _) = _
      rw [hstore]
      have hsum := Dict.sum_values_set (Incident.counts fingerprint) (existing.seenAgain c) hget
      have hcount : (existing.seenAgain c).counts fingerprint =
          existing.counts fingerprint + c.countsFor fingerprint := by
        change (if existing.fingerprint = _ then existing.occurrenceCount + 1 else 0) = _
        rw [Incident.counts, IncidentCandidate.countsFor, hfp]
        split_ifs <;> rfl
      rw [hcount] at hsum
      unfold occurrences
      omega

/-- The incidents grow by one exactly when the upsert says that it opened one. -/
theorem UpsertStep.size_eq {c : IncidentCandidate} {r : IncidentUpsertResult}
    (h : UpsertStep ids c s r s') (hs : LedgerInvariant ids s) :
    s'.store.incidents.size = s.store.incidents.size + r.opened := by
  cases h with
  | created hnone hdevice => exact Dict.size_set_of_get?_none _ hs.get?_next
  | updated existing s₁ hdrawn hopen hle =>
      obtain ⟨hget, -, -⟩ := hs.get?_of_findOpen hopen
      have hstore : s₁.store = s.store := SameStore.store_eq hdrawn
      change (s₁.store.incidents.set _ _).size = _
      rw [hstore]
      exact Dict.size_set_of_get?_some _ hget

/-- A resolve counts nothing. -/
theorem ResolveStep.occurrences_eq {incidentId : String} {resolvedAt : Datetime}
    {r : Option Incident} (h : ResolveStep incidentId resolvedAt s r s') (fingerprint : String) :
    occurrences fingerprint s'.store.incidents = occurrences fingerprint s.store.incidents := by
  cases h with
  | unknown hnone => rfl
  | already existing hsome hresolved => rfl
  | resolved existing t hinstant hsome hopen hle =>
      have hsum := Dict.sum_values_set (Incident.counts fingerprint) (existing.resolvedAs t) hsome
      exact Nat.add_right_cancel hsum

theorem ResolveStep.size_eq {incidentId : String} {resolvedAt : Datetime}
    {r : Option Incident} (h : ResolveStep incidentId resolvedAt s r s') :
    s'.store.incidents.size = s.store.incidents.size := by
  cases h with
  | unknown hnone => rfl
  | already existing hsome hresolved => rfl
  | resolved existing t hinstant hsome hopen hle => exact Dict.size_set_of_get?_some _ hsome

end Counting

/-- A store without incidents satisfies both invariants. -/
theorem LedgerInvariant.of_empty (ids : IdFactory) {s : Session}
    (h : s.store.incidents = .empty) : LedgerInvariant ids s where
  well_kept := by rw [h]; nofun
  filed := by rw [h]; nofun
  drawn := by rw [h]; nofun
  unique_open := by rw [h]; nofun

theorem EvidenceInvariant.of_empty (keys : Set FindingKey) {s : Session}
    (h : s.store.incidents = .empty) : EvidenceInvariant keys s where
  key_mem := by rw [h]; nofun
  evidence_matches := by rw [h]; nofun

end MetaRne
