/-
# Requests to the platform

The six requests that write, and the platform that a run of them leaves behind.
A request is a call of one application service; a reply is its result or its
exception.  A list of requests is one order in which they were handled.

The body of every service only writes as the repositories do (`OnlyWrites`), so
every platform that requests can reach has the ledger's invariant
(`reachable_ledger`), and a request keeps the devices, the snapshots and what
the incidents are about (`respond_later`, `respond_evolves`).
-/

import MetaRne.Application.ConfigIngestion
import MetaRne.Application.IncidentResolution
import MetaRne.Application.LabDeviceRegistration
import MetaRne.Application.OperationalStateIngestion
import MetaRne.Application.PolicySeeding
import MetaRne.Application.TelemetryIngestion
import MetaRne.Library.Runs
import MetaRne.Persistence.Writes

namespace MetaRne

open Library Library.Effect Library.Runs Python

/-- What the services are constructed with. -/
structure Deployment where
  registry : AdapterRegistry
  snapshotIds : IdFactory
  incidentIds : IdFactory

/-- A call of a service that writes. -/
inductive Request
  | seedPolicies (observedAt : Timestamp)
  | submitConfiguration (command : IngestConfigurationCommand)
  | submitTelemetry (command : TelemetryIngestionCommand)
  | ingestOperationalState (fabric : FabricOperationalState)
  | registerLabDevices (observedAt : Datetime)
  | resolveIncident (incidentId : String) (now : Datetime)

/-- What a service returns. -/
inductive Reply
  | seeded
  | configuration (result : ConfigIngestionResult)
  | telemetry (result : TelemetryIngestionResult)
  | operationalState (result : OperationalStateIngestionResult)
  | registered (result : LabDeviceRegistrationResult)
  | resolved (incident : Incident)

/-- The service a request calls. -/
def Request.handle (d : Deployment) : Request → Service Reply
  | .seedPolicies observedAt => (fun _ => .seeded) <$> PolicySeeding.seedSlice1Policies observedAt
  | .submitConfiguration command =>
    .configuration <$> ConfigIngestion.ingest d.registry d.snapshotIds d.incidentIds command
  | .submitTelemetry command => .telemetry <$> TelemetryIngestion.ingest d.incidentIds command
  | .ingestOperationalState fabric =>
    .operationalState <$> OperationalStateIngestion.ingest d.incidentIds fabric
  | .registerLabDevices observedAt => .registered <$> LabDeviceRegistration.register observedAt
  | .resolveIncident incidentId now => .resolved <$> IncidentResolution.resolve incidentId now

/-- Handle one request: the result or the exception, and the platform after it. -/
def respond (d : Deployment) (request : Request) (p : Platform) : Except Error Reply × Platform :=
  attempt (request.handle d) p

/-- The platform after a run of requests. -/
def platformAfter (d : Deployment) (requests : List Request) : Platform :=
  (serve (respond d) requests .initial).2

/-- A platform that some run of requests leaves behind. -/
def Reachable (d : Deployment) (p : Platform) : Prop := ∃ requests, platformAfter d requests = p

theorem respond_snd (d : Deployment) (request : Request) (p : Platform) :
    (respond d request p).2 = final (request.handle d) p := by
  unfold respond attempt final
  cases (request.handle d).run p <;> rfl

/-! ### The bodies of the services only write -/

section Bodies

variable {ids : IdFactory} {parts : List Part}

theorem TelemetryIngestion.onlyWrites_upsertAnomaly (hparts : .incidents ∈ parts)
    (anomaly : Anomaly) : OnlyWrites ids parts (TelemetryIngestion.upsertAnomaly ids anomaly) :=
  (onlyWrites_check _).bind fun _ => (onlyWrites_check _).bind fun _ =>
    onlyWrites_upsertOpenIncident hparts _ _ _

theorem TelemetryIngestion.onlyWrites_body (command : TelemetryIngestionCommand) :
    OnlyWrites ids [.telemetry, .incidents]
      (TelemetryIngestion.body Memory.telemetryRepository ids command) := by
  refine (onlyWrites_getDevice _).bind fun _ => (onlyWrites_check _).bind fun _ => ?_
  refine (onlyWrites_getLatestTelemetry _).bind fun _ => (onlyWrites_check _).bind fun _ => ?_
  refine (onlyWrites_getRecentTelemetry _ _).bind fun _ => ?_
  refine (onlyWrites_saveTelemetry (by decide) _ _).bind fun _ => (onlyWrites_check _).bind fun anomalies => ?_
  exact (OnlyWrites.mapM anomalies fun anomaly _ =>
    onlyWrites_upsertAnomaly (by decide) anomaly).bind
    fun _ => onlyWrites_pure _

theorem ConfigIngestion.onlyWrites_persistDeviceAndSnapshot (prepared : PreparedIngestion)
    (observedAt : Timestamp) : OnlyWrites ids [.devices, .snapshots]
      (persistDeviceAndSnapshot prepared observedAt) := by
  refine (onlyWrites_getDevice _).bind fun existing => ?_
  cases existing with
  | none =>
      refine (onlyWrites_check _).bind fun bare => (onlyWrites_saveDevice (by decide) bare).bind fun _ => ?_
      refine (onlyWrites_addSnapshot (by decide) _).bind fun _ => (onlyWrites_check _).bind fun device => ?_
      exact onlyWrites_saveDevice (by decide) device
  | some existing =>
      refine (onlyWrites_addSnapshot (by decide) _).bind fun _ => (onlyWrites_check _).bind fun device => ?_
      exact onlyWrites_saveDevice (by decide) device

theorem ConfigIngestion.onlyWrites_evaluateAndUpsertIncidents (prepared : PreparedIngestion)
    (observedAt : Timestamp) (hparts : .incidents ∈ parts := by decide) :
    OnlyWrites ids parts (evaluateAndUpsertIncidents ids prepared observedAt) := by
  refine (onlyWrites_getApplicableToDevice _).bind fun _ => ?_
  refine (onlyWrites_check _).bind fun violations => ?_
  refine (OnlyWrites.mapM violations fun violation _ => ?_).bind fun _ => onlyWrites_pure _
  exact (onlyWrites_check _).bind fun _ => (onlyWrites_check _).bind fun _ =>
    onlyWrites_upsertOpenIncident hparts _ _ _

theorem ConfigIngestion.onlyWrites_body (command : IngestConfigurationCommand)
    (prepared : PreparedIngestion) :
    OnlyWrites ids [.devices, .snapshots, .incidents] (body ids command prepared) :=
  ((onlyWrites_persistDeviceAndSnapshot prepared command.observedAt).mono (by decide)).bind
    fun _ => onlyWrites_evaluateAndUpsertIncidents prepared command.observedAt

theorem OperationalStateIngestion.onlyWrites_recoverNeighbor (hparts : .incidents ∈ parts)
    (collectedAt : Timestamp) (failing : List String) (deviceId : String)
    (neighbor : BgpNeighborObservation) :
    OnlyWrites ids parts (recoverNeighbor collectedAt failing deviceId neighbor) := by
  unfold recoverNeighbor
  split
  · exact onlyWrites_pure _
  · refine (onlyWrites_check _).bind fun fingerprint => ?_
    split
    · exact onlyWrites_pure _
    · refine (onlyWrites_getOpenByFingerprint _).bind fun openIncident => ?_
      cases openIncident with
      | none => exact onlyWrites_pure _
      | some openIncident =>
          refine (onlyWrites_check _).bind fun _ => (onlyWrites_resolve hparts _ _).bind
            fun resolved => ?_
          cases resolved with
          | none => exact onlyWrites_throw _
          | some resolved => exact onlyWrites_pure _

theorem OperationalStateIngestion.onlyWrites_recoverNode (hparts : .incidents ∈ parts)
    (collectedAt : Timestamp) (failing : List String) (node : NormalizedOperationalState) :
    OnlyWrites ids parts (recoverNode collectedAt failing node) := by
  unfold recoverNode
  split
  · exact onlyWrites_pure _
  · split
    · exact onlyWrites_pure _
    · next bgp _ =>
      refine (onlyWrites_check _).bind fun deviceId => ?_
      exact OnlyWrites.mapM bgp.neighbors fun _ _ => onlyWrites_recoverNeighbor hparts _ _ _ _

theorem OperationalStateIngestion.onlyWrites_recover (hparts : .incidents ∈ parts)
    (fabric : FabricOperationalState) (upserts : List IncidentUpsertResult) :
    OnlyWrites ids parts (recover fabric upserts) :=
  (OnlyWrites.mapM fabric.nodes fun _ _ => onlyWrites_recoverNode hparts _ _ _).bind
    fun _ => onlyWrites_pure _

theorem OperationalStateIngestion.onlyWrites_requireDevice (deviceId : String) :
    OnlyWrites ids parts (requireDevice deviceId) :=
  (onlyWrites_getDevice _).bind fun _ => onlyWrites_check _

theorem OperationalStateIngestion.onlyWrites_body (fabric : FabricOperationalState) :
    OnlyWrites ids [.operationalStates, .incidents] (body ids fabric) := by
  refine (onlyWrites_check _).bind fun _ => (onlyWrites_check _).bind fun anomalies => ?_
  refine (OnlyWrites.mapM _ fun _ _ => onlyWrites_requireDevice _).bind fun _ => ?_
  refine (onlyWrites_saveLatest (by decide) _).bind fun outcome => ?_
  split
  · exact onlyWrites_pure _
  · refine (OnlyWrites.mapM _ fun anomaly _ =>
      TelemetryIngestion.onlyWrites_upsertAnomaly (by decide) anomaly).bind fun upserts => ?_
    exact (onlyWrites_recover (by decide) fabric upserts).bind fun _ => onlyWrites_pure _

theorem LabDeviceRegistration.onlyWrites_isMissing (deviceId : String) :
    OnlyWrites ids parts (isMissing deviceId) := by
  refine (onlyWrites_getDevice _).bind fun existing => ?_
  cases existing with
  | none => exact onlyWrites_pure _
  | some existing => exact (onlyWrites_check _).bind fun _ => onlyWrites_pure _

theorem LabDeviceRegistration.onlyWrites_body (observedAt : Datetime) :
    OnlyWrites ids [.devices] (body observedAt) := by
  refine (OnlyWrites.mapM _ fun deviceId _ => onlyWrites_isMissing deviceId).bind fun _ => ?_
  refine (OnlyWrites.mapM _ fun deviceId _ => ?_).bind fun _ => onlyWrites_pure _
  exact (onlyWrites_check _).bind fun device => onlyWrites_saveDevice (by decide) device

theorem IncidentResolution.onlyWrites_body (incidentId : String) (now : Datetime) :
    OnlyWrites ids [.incidents] (body incidentId now) := by
  refine (onlyWrites_read _).bind fun incident => ?_
  cases incident with
  | none => exact onlyWrites_throw _
  | some incident =>
      dsimp only
      split
      · exact onlyWrites_pure _
      · refine (onlyWrites_resolve (by decide) _ _).bind fun resolved => ?_
        cases resolved with
        | none => exact onlyWrites_throw _
        | some resolved => exact onlyWrites_pure _

end Bodies

/-! ### What a request does to the platform -/

/-- The parts of the store that a request may write. -/
def Request.parts : Request → List Part
  | .seedPolicies _ => [.policies]
  | .submitConfiguration _ => [.devices, .snapshots, .incidents]
  | .submitTelemetry _ => [.telemetry, .incidents]
  | .ingestOperationalState _ => [.operationalStates, .incidents]
  | .registerLabDevices _ => [.devices]
  | .resolveIncident _ _ => [.incidents]

/-- How the platform moves on: the ledger's invariant stays, devices and
snapshots are kept, incidents stay about what they were about, and only the
given parts of the store change. -/
structure Progress (ids : IdFactory) (parts : List Part) (p p' : Platform) : Prop where
  ledger : LedgerInvariant ids p.openUnitOfWork → LedgerInvariant ids p'.openUnitOfWork
  later : Later p.openUnitOfWork p'.openUnitOfWork
  evolves : LedgerInvariant ids p.openUnitOfWork →
    Evolves p.committed.incidents p'.committed.incidents
  same : ∀ part ∉ parts, part.Same p.committed p'.committed

section Platform

variable {ids : IdFactory} {parts : List Part} {p p' p'' : Platform} {α β : Type}

theorem Progress.refl (p : Platform) : Progress ids parts p p :=
  ⟨id, .refl _, fun _ => .refl _, fun part _ => .refl part _⟩

theorem Progress.trans (p p' p'' : Platform) (h : Progress ids parts p p') (h' : Progress ids parts p' p'') :
    Progress ids parts p p'' where
  ledger := fun hp => h'.ledger (h.ledger hp)
  later := h.later.trans h'.later
  evolves := fun hp => (h.evolves hp).trans (h'.evolves (h.ledger hp))
  same := fun part hpart => (h.same part hpart).trans (h'.same part hpart)

theorem Progress.commit {s : Session} (h : Writes ids parts p.openUnitOfWork s) :
    Progress ids parts p (p.commit s) where
  ledger := fun hp => (h.ledger hp).1
  later := h.later
  evolves := fun hp => (h.ledger hp).2
  same := fun _ hpart => h.same hpart

theorem Progress.abandon {s : Session} (h : Writes ids parts p.openUnitOfWork s) :
    Progress ids parts p (p.abandon s) := by
  have hlater : Later p.openUnitOfWork (p.abandon s).openUnitOfWork :=
    .of_eq rfl rfl h.later.incidentIdsDrawn
  exact ⟨fun hp => hp.later hlater rfl, hlater, fun _ => .refl _, fun part _ => .refl part _⟩

/-- A unit of work whose body only writes moves the platform on. -/
theorem progress_unitOfWork {commits : α → Bool} {body : Action α} {finish : α → Except Error β}
    (hbody : OnlyWrites ids parts body) : Respects (Progress ids parts) (unitOfWork commits body finish) := by
  refine respects_of_cases (fun p b p' h => ?_) fun p e p' h => ?_
  · obtain ⟨a, s, hrun, -, rfl⟩ := unitOfWork_ok h
    split
    · exact .commit (hbody.of_ok hrun)
    · exact .abandon (hbody.of_ok hrun)
  · rcases unitOfWork_error h with ⟨s, hrun, rfl⟩ | ⟨a, s, hrun, -, rfl⟩
    · exact .abandon (hbody.of_error hrun)
    · split
      · exact .commit (hbody.of_ok hrun)
      · exact .abandon (hbody.of_ok hrun)

theorem progress_check (x : Except Error α) :
    Respects (Progress ids parts) (liftM x : Service α) := respects_check .refl x

theorem ConfigIngestion.progress_prepare (registry : AdapterRegistry) (snapshotIds : IdFactory)
    (command : IngestConfigurationCommand) :
    Respects (Progress ids parts) (prepare registry snapshotIds command) := by
  refine (progress_check _).bind .trans fun _ => (progress_check _).bind .trans fun _ => ?_
  refine (progress_check _).bind .trans fun _ => (progress_check _).bind .trans fun _ => ?_
  refine Respects.bind .trans (fun p => ?_) fun _ => ?_
  · have hlater : Later p.openUnitOfWork (final (drawSnapshotId snapshotIds) p).openUnitOfWork :=
      .of_eq rfl rfl le_rfl
    exact ⟨fun hp => hp.later hlater rfl, hlater, fun _ => .refl _, fun part _ => .refl part _⟩
  · exact (progress_check _).bind .trans fun _ => (progress_check _).bind .trans fun _ =>
      respects_pure .refl _

theorem ConfigIngestion.progress_ingest (registry : AdapterRegistry) (snapshotIds : IdFactory)
    (command : IngestConfigurationCommand) :
    Respects (Progress ids [.devices, .snapshots, .incidents])
      (ingest registry snapshotIds ids command) :=
  (progress_prepare registry snapshotIds command).bind .trans fun prepared =>
    progress_unitOfWork (onlyWrites_body command prepared)

theorem LabDeviceRegistration.progress_register (observedAt : Datetime) :
    Respects (Progress ids [.devices]) (register observedAt) :=
  (progress_check _).bind .trans fun _ => progress_unitOfWork (onlyWrites_body observedAt)

/-- **Every request moves the platform on**, whether it returns or raises. -/
theorem respond_progress (d : Deployment) (request : Request) (p : Platform) :
    Progress d.incidentIds request.parts p (respond d request p).2 := by
  rw [respond_snd]
  revert p
  change Respects (Progress d.incidentIds request.parts) (request.handle d)
  cases request with
  | seedPolicies observedAt =>
      have hseed : Respects (Progress d.incidentIds [.policies])
          (PolicySeeding.seedSlice1Policies observedAt) := by
        unfold PolicySeeding.seedSlice1Policies writing
        exact progress_unitOfWork (onlyWrites_seedIfMissing (by decide) _)
      exact hseed.map .refl .trans
  | submitConfiguration command =>
      exact (ConfigIngestion.progress_ingest _ _ command).map .refl .trans
  | submitTelemetry command =>
      exact (progress_unitOfWork (TelemetryIngestion.onlyWrites_body command)).map .refl .trans
  | ingestOperationalState fabric =>
      exact (progress_unitOfWork (OperationalStateIngestion.onlyWrites_body fabric)).map
        .refl .trans
  | registerLabDevices observedAt =>
      exact (LabDeviceRegistration.progress_register observedAt).map .refl .trans
  | resolveIncident incidentId now =>
      exact (progress_unitOfWork (IncidentResolution.onlyWrites_body incidentId now)).map
        .refl .trans

/-- **Every platform that requests can reach has the ledger's invariant.** -/
theorem reachable_ledger {d : Deployment} {p : Platform} (h : Reachable d p) :
    LedgerInvariant d.incidentIds p.openUnitOfWork := by
  obtain ⟨requests, rfl⟩ := h
  exact serve_invariant (fun request p => respond d request p)
    (P := fun _ p => LedgerInvariant d.incidentIds p.openUnitOfWork) requests
    (.of_empty _ (s := Platform.initial.openUnitOfWork) rfl)
    fun _ p request _ hp => (respond_progress d request p).ledger hp

end Platform

end MetaRne
