/-
# What the repositories write

Every service works through the repositories, so whatever a unit of work does to
its session is a sequence of the writes that they make: an upsert or a resolve
of the ledger, a device that succeeds the stored one, a new snapshot, a new
policy, a lab's latest state, a telemetry sample.  `Write` lists them once, with
the part of the store that each is to; the other parts are as they were
(`Writes.same`).

What one write keeps, every service keeps: the ledger's invariant, the incidents
that were there, the snapshots, and of a device its vendor, its creation time
and a baseline once set.
-/

import Mathlib.Logic.Relation
import MetaRne.Persistence.IncidentLedger
import MetaRne.Persistence.Memory.DeviceRepository
import MetaRne.Persistence.Memory.IncidentRepository
import MetaRne.Persistence.OperationalStateRepository
import MetaRne.Persistence.TelemetryRepository

namespace MetaRne

open Library Library.Effect Python Relation

/-- The parts of a store that are written separately. -/
inductive Part
  | incidents
  | devices
  | snapshots
  | policies
  | operationalStates
  | telemetry
  deriving DecidableEq, Repr

/-- Two stores agree in one part. -/
def Part.Same : Part → Store → Store → Prop
  | .incidents, store, store' => store'.incidents = store.incidents
  | .devices, store, store' => store'.devices = store.devices
  | .snapshots, store, store' => store'.snapshots = store.snapshots
  | .policies, store, store' => store'.policies = store.policies
  | .operationalStates, store, store' => store'.operationalStates = store.operationalStates
  | .telemetry, store, store' => store'.telemetrySamples = store.telemetrySamples ∧
      store'.telemetrySequence = store.telemetrySequence

/-- One write of a repository, to one part of the store. -/
inductive Write (ids : IdFactory) (s : Session) : Part → Session → Prop
  | idDrawn : Write ids s .incidents s.drawIncidentId
  | upserted {c r s'} (hmatch : EvidenceMatches c.source c.ruleRef c.evidence)
      (hstep : UpsertStep ids c s r s') : Write ids s .incidents s'
  | resolved {incidentId resolvedAt r s'} (hstep : ResolveStep incidentId resolvedAt s r s') :
      Write ids s .incidents s'
  | device {device : Device}
      (hsucceeds : ∀ existing, s.store.devices.get? device.deviceId = some existing →
        Memory.DeviceSucceeds existing device) : Write ids s .devices (s.setDevice device)
  | snapshot {snapshot : ConfigurationSnapshot}
      (hnew : s.store.snapshots.get? snapshot.snapshotId = none) :
      Write ids s .snapshots (s.setSnapshot snapshot)
  | policy {policy : ConfigurationPolicy}
      (hnew : s.store.policies.get? policy.policyId = none) :
      Write ids s .policies (s.setPolicy policy)
  | operationalState {fabric outcome s'} (hstep : SaveStep fabric s outcome s') :
      Write ids s .operationalStates s'
  | telemetryCounted : Write ids s .telemetry s.countTelemetry
  | telemetry (deviceId : String) (entries : List StoredTelemetrySample)
      (hfiled : ∀ entry ∈ entries, entry.sample.deviceId = deviceId) :
      Write ids s .telemetry (s.setTelemetry deviceId entries hfiled)

/-- A sequence of writes to the given parts. -/
def Writes (ids : IdFactory) (parts : List Part) : Session → Session → Prop :=
  ReflTransGen fun s s' => ∃ part ∈ parts, Write ids s part s'

section

variable {ids : IdFactory} {parts : List Part} {part : Part} {s s' : Session} {α β : Type}

theorem Writes.refl (s : Session) : Writes ids parts s s := ReflTransGen.refl

theorem Writes.trans (s₁ s₂ s₃ : Session) (h : Writes ids parts s₁ s₂)
    (h' : Writes ids parts s₂ s₃) : Writes ids parts s₁ s₃ := ReflTransGen.trans h h'

theorem Write.writes (h : Write ids s part s') (hpart : part ∈ parts) : Writes ids parts s s' :=
  .single ⟨part, hpart, h⟩

/-! ### The actions that only write so -/

/-- Every run of the action, returning or raising, is a sequence of writes to the
given parts. -/
def OnlyWrites (ids : IdFactory) (parts : List Part) (x : Action α) : Prop :=
  Respects (Writes ids parts) x

theorem OnlyWrites.bind {x : Action α} {f : α → Action β} (hx : OnlyWrites ids parts x)
    (hf : ∀ a, OnlyWrites ids parts (f a)) : OnlyWrites ids parts (x >>= f) :=
  Respects.bind Writes.trans hx hf

theorem onlyWrites_pure (a : α) : OnlyWrites ids parts (pure a : Action α) := respects_pure .refl a

theorem onlyWrites_throw (e : Error) : OnlyWrites ids parts (throw e : Action α) := respects_throw .refl e

theorem onlyWrites_check (x : Except Error α) : OnlyWrites ids parts (liftM x : Action α) :=
  respects_check .refl x

theorem onlyWrites_get : OnlyWrites ids parts (get : Action Session) := fun s => .refl s

/-- Reading the session is no write. -/
theorem onlyWrites_read (f : Session → α) : OnlyWrites ids parts (do return f (← get)) := fun s => .refl s

theorem OnlyWrites.mapM {f : α → Action β} (xs : List α) (hf : ∀ x ∈ xs, OnlyWrites ids parts (f x)) :
    OnlyWrites ids parts (xs.mapM f) :=
  Respects.mapM .refl Writes.trans xs hf

theorem OnlyWrites.mono {parts' : List Part} {x : Action α} (hx : OnlyWrites ids parts x)
    (hparts : parts ⊆ parts') : OnlyWrites ids parts' x := by
  refine Respects.mono hx fun s s' h => ?_
  induction h with
  | refl => exact .refl s
  | tail _ hstep ih =>
      obtain ⟨part, hpart, hstep⟩ := hstep
      exact ih.tail ⟨part, hparts hpart, hstep⟩

theorem onlyWrites_of_cases {x : Action α}
    (hok : ∀ s a s', x.run s = .ok a s' → Writes ids parts s s')
    (herr : ∀ s e s', x.run s = .error e s' → Writes ids parts s s') : OnlyWrites ids parts x :=
  respects_of_cases hok herr

theorem onlyWrites_getDevice (deviceId : String) :
    OnlyWrites ids parts (Memory.getDevice deviceId) := onlyWrites_read _

theorem onlyWrites_saveDevice (hparts : .devices ∈ parts) (device : Device) :
    OnlyWrites ids parts (Memory.saveDevice device) := by
  refine onlyWrites_of_cases (fun s _ s' h => ?_) fun s e s' h => ?_
  · obtain ⟨hsucceeds, -, -, rfl⟩ := Memory.saveDevice_ok h
    exact (Write.device hsucceeds).writes hparts
  · simp only [Memory.saveDevice, get_bind, check_bind_eq_error] at h
    obtain ⟨-, rfl⟩ | ⟨_, -, ⟨-, rfl⟩ | ⟨_, -, ⟨-, rfl⟩ | ⟨_, -, h⟩⟩⟩ := h
    · exact .refl _
    · exact .refl _
    · exact .refl _
    · cases h

theorem onlyWrites_addSnapshot (hparts : .snapshots ∈ parts) (snapshot : ConfigurationSnapshot) :
    OnlyWrites ids parts (Memory.addSnapshot snapshot) := by
  refine onlyWrites_of_cases (fun s _ s' h => ?_) fun s e s' h => ?_
  · obtain ⟨hnew, -, rfl⟩ := Memory.addSnapshot_ok h
    exact (Write.snapshot hnew).writes hparts
  · simp only [Memory.addSnapshot, get_bind, check_bind_eq_error] at h
    obtain ⟨-, rfl⟩ | ⟨_, -, ⟨-, rfl⟩ | ⟨_, -, h⟩⟩ := h
    · exact .refl _
    · exact .refl _
    · cases h

theorem onlyWrites_seedPolicy (hparts : .policies ∈ parts) (policy : ConfigurationPolicy) :
    OnlyWrites ids parts (Memory.seedPolicy policy) := by
  intro s
  by_cases h : (s.store.policies.get? policy.policyId).isNone
  · have hrun : (Memory.seedPolicy policy).run s = .ok () (s.setPolicy policy) := by
      simp only [Memory.seedPolicy, get_bind, h, if_true]
      rfl
    rw [final_of_ok hrun]
    exact (Write.policy (Option.isNone_iff_eq_none.1 h)).writes hparts
  · have hrun : (Memory.seedPolicy policy).run s = .ok () s := by
      simp only [Memory.seedPolicy, get_bind, h]
      rfl
    rw [final_of_ok hrun]
    exact .refl _

theorem onlyWrites_seedIfMissing (hparts : .policies ∈ parts)
    (policies : List ConfigurationPolicy) :
    OnlyWrites ids parts (Memory.seedIfMissing policies) := by
  refine onlyWrites_get.bind fun _ => (onlyWrites_check _).bind fun _ => ?_
  exact (OnlyWrites.mapM policies fun policy _ => onlyWrites_seedPolicy hparts policy).bind
    fun _ => onlyWrites_pure _

theorem onlyWrites_getApplicableToDevice (deviceId : String) :
    OnlyWrites ids parts (Memory.getApplicableToDevice deviceId) := onlyWrites_read _

theorem onlyWrites_upsertOpenIncident (hparts : .incidents ∈ parts) (candidate : IncidentCandidate)
    (fingerprint : String) (observedAt : Datetime) :
    OnlyWrites ids parts (Memory.upsertOpenIncident ids candidate fingerprint observedAt) := by
  refine onlyWrites_of_cases (fun s _ s' h => ?_) fun s e s' h => ?_
  · obtain ⟨-, hmatch, hstep⟩ := Memory.upsertOpenIncident_ok h
    exact (Write.upserted hmatch hstep).writes hparts
  · obtain rfl | rfl := Memory.upsertOpenIncident_error h
    · exact .refl _
    · exact Write.idDrawn.writes hparts

theorem onlyWrites_resolve (hparts : .incidents ∈ parts) (incidentId : String)
    (resolvedAt : Datetime) :
    OnlyWrites ids parts (Memory.resolve incidentId resolvedAt) := by
  refine onlyWrites_of_cases (fun s _ s' h => ?_) fun s e s' h => ?_
  · exact (Write.resolved (Memory.resolve_ok h)).writes hparts
  · rw [Memory.resolve_error h]
    exact .refl _

theorem onlyWrites_getOpenByFingerprint (fingerprint : String) :
    OnlyWrites ids parts (Memory.getOpenByFingerprint fingerprint) := onlyWrites_read _

theorem onlyWrites_saveLatest (hparts : .operationalStates ∈ parts)
    (fabric : FabricOperationalState) :
    OnlyWrites ids parts (Memory.saveLatest fabric) := by
  refine onlyWrites_of_cases (fun s _ s' h => ?_) fun s e s' h => ?_
  · exact (Write.operationalState (Memory.saveLatest_ok h)).writes hparts
  · rw [Memory.saveLatest_error h]
    exact .refl _

theorem onlyWrites_getLatestTelemetry (deviceId : String) :
    OnlyWrites ids parts (Memory.getLatestTelemetry deviceId) := onlyWrites_read _

theorem onlyWrites_getRecentTelemetry (deviceId : String) (since : Timestamp) :
    OnlyWrites ids parts (Memory.getRecentTelemetry deviceId since) := onlyWrites_read _

theorem onlyWrites_saveTelemetry (hparts : .telemetry ∈ parts) (deviceId : String)
    (sample : TelemetrySample) :
    OnlyWrites ids parts (Memory.saveTelemetry deviceId sample) := by
  refine (onlyWrites_check _).bind fun _ => onlyWrites_get.bind fun s₀ => ?_
  refine OnlyWrites.bind (fun _ => Write.telemetryCounted.writes hparts) fun _ => ?_
  refine (onlyWrites_check _).bind fun cutoff => ?_
  exact fun _ => (Write.telemetry _ _ (Memory.retained_filed cutoff)).writes hparts

end

/-! ### What a write keeps -/

namespace Memory

theorem DeviceSucceeds.refl (device : Device) : DeviceSucceeds device device :=
  ⟨rfl, rfl, le_rfl, fun _ => rfl, id⟩

theorem DeviceSucceeds.trans {d d' d'' : Device} (h : DeviceSucceeds d d')
    (h' : DeviceSucceeds d' d'') : DeviceSucceeds d d'' where
  vendor := h'.vendor.trans h.vendor
  createdAt := h'.createdAt.trans h.createdAt
  updatedAt_le := h.updatedAt_le.trans h'.updatedAt_le
  baseline := fun hset => by
    have hd' := h.baseline hset
    rw [h'.baseline (by rwa [hd']), hd']
  current := fun hset => h'.current (h.current hset)

end Memory

/-- What a session keeps of an earlier one: its devices have successors, its
snapshots are there unchanged, and the ids it drew stay drawn. -/
structure Later (s s' : Session) : Prop where
  devices : ∀ {id device}, s.store.devices.get? id = some device →
    ∃ device', s'.store.devices.get? id = some device' ∧ Memory.DeviceSucceeds device device'
  snapshots : ∀ {id snapshot}, s.store.snapshots.get? id = some snapshot →
    s'.store.snapshots.get? id = some snapshot
  incidentIdsDrawn : s.incidentIdsDrawn ≤ s'.incidentIdsDrawn

section Kept

variable {ids : IdFactory} {parts : List Part} {part part' : Part} {s s' s'' : Session}

theorem Later.of_eq (hdevices : s'.store.devices = s.store.devices)
    (hsnapshots : s'.store.snapshots = s.store.snapshots)
    (hdrawn : s.incidentIdsDrawn ≤ s'.incidentIdsDrawn) : Later s s' where
  devices := fun h => ⟨_, by rw [hdevices]; exact h, .refl _⟩
  snapshots := fun h => by rw [hsnapshots]; exact h
  incidentIdsDrawn := hdrawn

theorem Later.refl (s : Session) : Later s s := .of_eq rfl rfl le_rfl

theorem Later.trans (h : Later s s') (h' : Later s' s'') : Later s s'' where
  devices := fun hget => by
    obtain ⟨d', hd', hsucc⟩ := h.devices hget
    obtain ⟨d'', hd'', hsucc'⟩ := h'.devices hd'
    exact ⟨d'', hd'', hsucc.trans hsucc'⟩
  snapshots := fun hget => h'.snapshots (h.snapshots hget)
  incidentIdsDrawn := h.incidentIdsDrawn.trans h'.incidentIdsDrawn

theorem Later.isSome_device (h : Later s s') {id : String}
    (hsome : (s.store.devices.get? id).isSome) : (s'.store.devices.get? id).isSome := by
  obtain ⟨device, hget⟩ := Option.isSome_iff_exists.1 hsome
  obtain ⟨device', hget', -⟩ := h.devices hget
  rw [hget']
  rfl

/-- An upsert writes the incidents alone. -/
theorem UpsertStep.later {c : IncidentCandidate} {r : IncidentUpsertResult}
    (h : UpsertStep ids c s r s') : Later s s' := by
  cases h with
  | created hnone hdevice => exact .of_eq rfl rfl (Nat.le_succ _)
  | updated existing s₁ hdrawn hopen hle =>
      rcases hdrawn with rfl | rfl
      · exact .of_eq rfl rfl le_rfl
      · exact .of_eq rfl rfl (Nat.le_succ _)

theorem ResolveStep.later {incidentId : String} {resolvedAt : Datetime} {r : Option Incident}
    (h : ResolveStep incidentId resolvedAt s r s') : Later s s' := by
  cases h with
  | unknown hnone => exact .refl s
  | already existing hsome hresolved => exact .refl s
  | resolved existing t hinstant hsome hopen hle => exact .of_eq rfl rfl le_rfl

/-- Saving a lab's latest state writes the operational states alone. -/
theorem SaveStep.later {fabric : FabricOperationalState} {outcome : OperationalStateSaveOutcome}
    (h : SaveStep fabric s outcome s') : Later s s' := by
  cases h with
  | created hsource hnone => exact .of_eq rfl rfl le_rfl
  | replaced hsource hsome hid hlt => exact .of_eq rfl rfl le_rfl
  | unchanged hsource hsome => exact .refl s

theorem SaveStep.incidents_eq {fabric : FabricOperationalState}
    {outcome : OperationalStateSaveOutcome} (h : SaveStep fabric s outcome s') :
    s'.store.incidents = s.store.incidents := by
  cases h with
  | created hsource hnone => rfl
  | replaced hsource hsome hid hlt => rfl
  | unchanged hsource hsome => rfl

/-- **The frame of a write**: every other part of the store is as it was. -/
theorem Write.same (h : Write ids s part s') (hne : part' ≠ part) :
    part'.Same s.store s'.store := by
  cases h with
  | upserted hmatch hstep =>
      cases hstep with
      | created hnone hdevice => cases part' <;> first | exact absurd rfl hne | trivial
      | updated existing s₁ hdrawn hopen hle =>
          rcases hdrawn with rfl | rfl <;>
            cases part' <;> first | exact absurd rfl hne | trivial
  | resolved hstep =>
      cases hstep <;> cases part' <;> first | exact absurd rfl hne | trivial
  | operationalState hstep =>
      cases hstep <;> cases part' <;> first | exact absurd rfl hne | trivial
  | _ => cases part' <;> first | exact absurd rfl hne | trivial

theorem Write.later (h : Write ids s part s') : Later s s' := by
  cases h with
  | idDrawn => exact .of_eq rfl rfl (Nat.le_succ _)
  | upserted hmatch hstep => exact hstep.later
  | resolved hstep => exact hstep.later
  | @device device hsucceeds =>
      refine ⟨fun {id d} hget => ?_, fun hget => hget, le_rfl⟩
      change ∃ d', (s.store.devices.set _ _).get? id = some d' ∧ _
      rw [Dict.get?_set]
      split_ifs with hid
      · subst hid
        exact ⟨device, rfl, hsucceeds d hget⟩
      · exact ⟨d, hget, .refl d⟩
  | @snapshot snapshot hnew =>
      refine ⟨fun hget => ⟨_, hget, .refl _⟩, fun {id sn} hget => ?_, le_rfl⟩
      change (s.store.snapshots.set _ _).get? id = some sn
      rw [Dict.get?_set_of_ne _ _ fun hid => ?_]
      · exact hget
      · rw [hid, hnew] at hget
        cases hget
  | policy hnew => exact .of_eq rfl rfl le_rfl
  | operationalState hstep => exact hstep.later
  | telemetryCounted => exact .of_eq rfl rfl le_rfl
  | telemetry deviceId entries hfiled => exact .of_eq rfl rfl le_rfl

/-- The invariant of a ledger that was not written to survives whatever else was. -/
theorem LedgerInvariant.later (hs : LedgerInvariant ids s) (h : Later s s')
    (hincidents : s'.store.incidents = s.store.incidents) : LedgerInvariant ids s' where
  well_kept := fun hi => by
    rw [hincidents] at hi
    have hkept := hs.well_kept hi
    exact { hkept with device_exists := h.isSome_device hkept.device_exists }
  filed := fun hi => hs.filed (hincidents ▸ hi)
  drawn := fun hi => by
    rw [hincidents] at hi
    obtain ⟨n, hn, hid⟩ := hs.drawn hi
    exact ⟨n, hn.trans_le h.incidentIdsDrawn, hid⟩
  unique_open := fun hi hi' => hs.unique_open (hincidents ▸ hi) (hincidents ▸ hi')

/-- **A write keeps the ledger's invariant**, and every incident what it was about. -/
theorem Write.ledger (h : Write ids s part s') (hs : LedgerInvariant ids s) :
    LedgerInvariant ids s' ∧ Evolves s.store.incidents s'.store.incidents := by
  have hlater := h.later
  cases h with
  | idDrawn => exact ⟨hs.later hlater rfl, .refl _⟩
  | upserted hmatch hstep => exact ⟨hstep.invariant hs, hstep.evolves hs⟩
  | resolved hstep => exact ⟨hstep.invariant hs, hstep.evolves⟩
  | device hsucceeds => exact ⟨hs.later hlater rfl, .refl _⟩
  | snapshot hnew => exact ⟨hs.later hlater rfl, .refl _⟩
  | policy hnew => exact ⟨hs.later hlater rfl, .refl _⟩
  | operationalState hstep =>
      rw [hstep.incidents_eq]
      exact ⟨hs.later hlater hstep.incidents_eq, .refl _⟩
  | telemetryCounted => exact ⟨hs.later hlater rfl, .refl _⟩
  | telemetry deviceId entries hfiled => exact ⟨hs.later hlater rfl, .refl _⟩

theorem Part.Same.refl (part : Part) (store : Store) : part.Same store store := by
  cases part <;> trivial

theorem Part.Same.trans {store store' store'' : Store} (h : part.Same store store')
    (h' : part.Same store' store'') : part.Same store store'' := by
  cases part with
  | telemetry => exact ⟨Eq.trans h'.1 h.1, Eq.trans h'.2 h.2⟩
  | _ => exact Eq.trans h' h

/-- **The frame of a sequence of writes**: the parts it does not name are as they were. -/
theorem Writes.same (h : Writes ids parts s s') (hpart : part ∉ parts) :
    part.Same s.store s'.store := by
  induction h with
  | refl => exact .refl part s.store
  | tail _ hstep ih =>
      obtain ⟨part', hpart', hstep⟩ := hstep
      refine ih.trans (hstep.same fun heq => hpart ?_)
      rw [heq]
      exact hpart'

/-- What writes nothing leaves the session as it was. -/
theorem Writes.eq_of_nil (h : Writes ids [] s s') : s' = s := by
  induction h with
  | refl => rfl
  | tail _ hstep ih =>
      obtain ⟨part, hpart, -⟩ := hstep
      exact absurd hpart List.not_mem_nil

theorem Writes.later (h : Writes ids parts s s') : Later s s' := by
  induction h with
  | refl => exact .refl s
  | tail _ hstep ih =>
      obtain ⟨part, -, hstep⟩ := hstep
      exact ih.trans hstep.later

/-- **A sequence of writes keeps the ledger's invariant**, and every incident
what it was about. -/
theorem Writes.ledger (h : Writes ids parts s s') (hs : LedgerInvariant ids s) :
    LedgerInvariant ids s' ∧ Evolves s.store.incidents s'.store.incidents := by
  induction h with
  | refl => exact ⟨hs, .refl _⟩
  | tail _ hstep ih =>
      obtain ⟨part, -, hstep⟩ := hstep
      obtain ⟨hinv, hevolves⟩ := hstep.ledger ih.1
      exact ⟨hinv, ih.2.trans hevolves⟩

end Kept

end MetaRne
