/-
# Who looks at the labs' states

Of the services that write, only the ingestion of operational state reads or
writes the latest states of the labs, and it looks at the lab of its own fabric
alone.  So nothing that any other service does, and nothing that an ingestion
for one lab does, depends on the states kept for the others: stores that differ
in those alone (`SameLab`) are answered alike (`unaware_handle`).
-/

import MetaRne.Application.IncidentFrame
import MetaRne.Application.LatestObservation
import MetaRne.Library.Noninterference

namespace MetaRne

open Library Library.Effect Library.Runs Python

/-- A session with other states of the labs. -/
def Session.withStates (states : Dict String FabricOperationalState) (s : Session) : Session :=
  { s with store := { s.store with operationalStates := states } }

/-- Two sessions that cannot be told apart from within one lab: they differ in the
states of other labs at most. -/
structure SameLab (labName : String) (s t : Session) : Prop where
  rest : t = s.withStates t.store.operationalStates
  latest : t.store.operationalStates.get? labName = s.store.operationalStates.get? labName

section Blind

variable {states : Dict String FabricOperationalState}

/-- Other states of the labs spare what the incident repository reads. -/
theorem sparesIncidents_withStates : SparesIncidents (Session.withStates states) :=
  ⟨fun _ => rfl, fun _ => rfl, fun _ => rfl, fun _ => rfl, fun _ _ _ => rfl⟩

/-- A read of something else. -/
theorem blind_read {α : Type} {f : Session → α} (h : ∀ s, f (s.withStates states) = f s) :
    Blind (Session.withStates states) (do return f (← get) : Action α) :=
  blind_get_bind (fun s => congrArg pure (h s)) fun _ => blind_pure _

theorem blind_getDevice (deviceId : String) :
    Blind (Session.withStates states) (Memory.getDevice deviceId) := blind_read fun _ => rfl

theorem blind_saveDevice (device : Device) :
    Blind (Session.withStates states) (Memory.saveDevice device) := by
  refine blind_get_bind (fun _ => rfl) fun s => (blind_check _).bind fun _ => ?_
  exact (blind_check _).bind fun _ => (blind_check _).bind fun _ _ => rfl

theorem blind_addSnapshot (snapshot : ConfigurationSnapshot) :
    Blind (Session.withStates states) (Memory.addSnapshot snapshot) := by
  refine blind_get_bind (fun _ => rfl) fun s => (blind_check _).bind fun _ => ?_
  exact (blind_check _).bind fun _ _ => rfl

theorem blind_seedPolicy (policy : ConfigurationPolicy) :
    Blind (Session.withStates states) (Memory.seedPolicy policy) := by
  refine blind_get_bind (fun _ => rfl) fun s => ?_
  split
  · exact fun _ => rfl
  · exact blind_pure _

theorem blind_seedIfMissing (policies : List ConfigurationPolicy) :
    Blind (Session.withStates states) (Memory.seedIfMissing policies) := by
  refine blind_get_bind (fun _ => rfl) fun s => (blind_check _).bind fun _ => ?_
  exact (Blind.mapM blind_seedPolicy policies).bind fun _ => blind_pure _

theorem blind_saveTelemetry (deviceId : String) (sample : TelemetrySample) :
    Blind (Session.withStates states) (Memory.saveTelemetry deviceId sample) := by
  refine (blind_check _).bind fun _ => blind_get_bind (fun _ => rfl) fun s => ?_
  refine Blind.bind (fun _ => rfl) fun _ => ?_
  exact (blind_check _).bind fun _ _ => rfl

theorem ConfigIngestion.blind_persistDeviceAndSnapshot (prepared : PreparedIngestion)
    (observedAt : Timestamp) :
    Blind (Session.withStates states) (persistDeviceAndSnapshot prepared observedAt) := by
  refine (blind_getDevice _).bind fun existing => ?_
  cases existing with
  | none =>
      refine (blind_check _).bind fun bare => (blind_saveDevice bare).bind fun _ => ?_
      refine (blind_addSnapshot _).bind fun _ => (blind_check _).bind fun device => ?_
      exact blind_saveDevice device
  | some existing =>
      refine (blind_addSnapshot _).bind fun _ => (blind_check _).bind fun device => ?_
      exact blind_saveDevice device

theorem ConfigIngestion.blind_body (ids : IdFactory) (command : IngestConfigurationCommand)
    (prepared : PreparedIngestion) :
    Blind (Session.withStates states) (body ids command prepared) := by
  refine (blind_persistDeviceAndSnapshot prepared command.observedAt).bind fun _ => ?_
  refine (blind_read fun _ => rfl).bind fun policies => (blind_check _).bind fun violations => ?_
  refine (Blind.mapM (fun violation => ?_) violations).bind fun _ => blind_pure _
  refine (blind_check _).bind fun candidate => (blind_check _).bind fun fingerprint => ?_
  exact sparesIncidents_withStates.blind_upsertOpenIncident ids _ _ _

theorem TelemetryIngestion.blind_body (ids : IdFactory) (command : TelemetryIngestionCommand) :
    Blind (Session.withStates states) (body Memory.telemetryRepository ids command) := by
  refine (blind_getDevice _).bind fun device => (blind_check _).bind fun _ => ?_
  refine (blind_read fun _ => rfl).bind fun existingLatest => (blind_check _).bind fun cutoff => ?_
  refine (blind_read fun _ => rfl).bind fun history => ?_
  refine (blind_saveTelemetry _ _).bind fun _ => (blind_check _).bind fun anomalies => ?_
  exact (Blind.mapM (sparesIncidents_withStates.blind_upsertAnomaly ids) anomalies).bind
    fun _ => blind_pure _

theorem LabDeviceRegistration.blind_body (observedAt : Datetime) :
    Blind (Session.withStates states) (body observedAt) := by
  refine (Blind.mapM (fun deviceId => (blind_getDevice deviceId).bind fun existing => ?_) _).bind
    fun missing => ?_
  · cases existing with
    | none => exact blind_pure _
    | some existing => exact (blind_check _).bind fun _ => blind_pure _
  · refine (Blind.mapM (fun deviceId => ?_) _).bind fun _ => blind_pure _
    exact (blind_check _).bind fun device => blind_saveDevice device

theorem IncidentResolution.blind_body (incidentId : String) (now : Datetime) :
    Blind (Session.withStates states) (body incidentId now) := by
  refine (blind_read fun _ => rfl).bind fun incident => ?_
  cases incident with
  | none => exact fun _ => rfl
  | some incident =>
      dsimp only
      split
      · exact blind_pure _
      · refine (sparesIncidents_withStates.blind_resolve _ _).bind fun resolved => ?_
        cases resolved with
        | none => exact fun _ => rfl
        | some resolved => exact blind_pure _

theorem OperationalStateIngestion.blind_requireDevice (deviceId : String) :
    Blind (Session.withStates states) (requireDevice deviceId) :=
  (blind_getDevice _).bind fun _ => blind_check _

theorem OperationalStateIngestion.blind_recoverNeighbor (collectedAt : Timestamp)
    (failing : List String) (deviceId : String) (neighbor : BgpNeighborObservation) :
    Blind (Session.withStates states) (recoverNeighbor collectedAt failing deviceId neighbor) := by
  unfold recoverNeighbor
  split
  · exact blind_pure _
  · refine (blind_check _).bind fun fingerprint => ?_
    split
    · exact blind_pure _
    · refine (sparesIncidents_withStates.blind_getOpenByFingerprint _).bind fun openIncident => ?_
      cases openIncident with
      | none => exact blind_pure _
      | some openIncident =>
          refine (blind_check _).bind fun _ => ?_
          refine (sparesIncidents_withStates.blind_resolve _ _).bind fun resolved => ?_
          cases resolved with
          | none => exact fun _ => rfl
          | some resolved => exact blind_pure _

theorem OperationalStateIngestion.blind_recover (fabric : FabricOperationalState)
    (upserts : List IncidentUpsertResult) :
    Blind (Session.withStates states) (recover fabric upserts) := by
  refine (Blind.mapM (fun node => ?_) fabric.nodes).bind fun _ => blind_pure _
  unfold recoverNode
  split
  · exact blind_pure _
  · split
    · exact blind_pure _
    · exact (blind_check _).bind fun deviceId => Blind.mapM (blind_recoverNeighbor _ _ deviceId) _

end Blind

/-! ### Side by side -/

namespace SameLab

variable {labName : String} {s t u : Session}

theorem refl (s : Session) : SameLab labName s s := ⟨rfl, rfl⟩

theorem symm (h : SameLab labName s t) : SameLab labName t s := by
  refine ⟨?_, h.latest.symm⟩
  rw [h.rest]
  rfl

theorem trans (h : SameLab labName s t) (h' : SameLab labName t u) : SameLab labName s u := by
  refine ⟨?_, h'.latest.trans h.latest⟩
  have hrest := h'.rest
  rw [h.rest] at hrest
  exact hrest

theorem incidentIdsDrawn (h : SameLab labName s t) : t.incidentIdsDrawn = s.incidentIdsDrawn := by
  rw [h.rest]
  rfl

theorem snapshotIdsDrawn (h : SameLab labName s t) : t.snapshotIdsDrawn = s.snapshotIdsDrawn := by
  rw [h.rest]
  rfl

/-- Writing the state of one lab is not seen from within another. -/
theorem setOperationalState {other : String} (hne : other ≠ labName) (s : Session)
    (fabric : FabricOperationalState) : SameLab labName s (s.setOperationalState other fabric) :=
  ⟨rfl, Dict.get?_set_of_ne _ _ hne.symm⟩

end SameLab

/-- **An action that is blind to the labs' states** is unaware of other labs. -/
theorem unaware_of_blind {labName : String} {α : Type} {x : Action α}
    (hx : ∀ states, Blind (Session.withStates states) x) : Unaware (SameLab labName) x := by
  refine Unaware.of_blind hx (fun s t h => ⟨_, h.rest⟩) fun states s h => ⟨rfl, ?_⟩
  -- it does not write them either: run it with the states that are there
  have hsame : (final x s).store.operationalStates = s.store.operationalStates := by
    have hrun := hx s.store.operationalStates s
    rw [show s.withStates s.store.operationalStates = s from rfl] at hrun
    unfold final
    cases h : x.run s with
    | ok a s' =>
        rw [h] at hrun
        injection hrun with _ hs'
        have hstates := congrArg (fun s : Session => s.store.operationalStates) hs'
        exact hstates
    | error e s' =>
        rw [h] at hrun
        injection hrun with _ hs'
        have hstates := congrArg (fun s : Session => s.store.operationalStates) hs'
        exact hstates
  change states.get? labName = (final x s).store.operationalStates.get? labName
  rw [hsame]
  exact h.latest

/-- A save for a lab looks at that lab's state alone; one that names no lab raises. -/
theorem unaware_saveLatest {labName : String} {fabric : FabricOperationalState}
    (hlab : ∀ source, deriveFabricSource fabric = .ok source → source.labName = labName) :
    Unaware (SameLab labName) (Memory.saveLatest fabric) := by
  cases hsource : deriveFabricSource fabric with
  | error e =>
      intro s t h
      unfold Memory.saveLatest
      rw [check_bind_of_error hsource, check_bind_of_error hsource]
      exact .error rfl h
  | ok source =>
      obtain rfl := hlab source hsource
      intro s t h
      have hset : SameLab source.labName (s.setOperationalState source.labName fabric)
          (t.setOperationalState source.labName fabric) := by
        refine ⟨?_, ?_⟩
        · rw [h.rest]
          rfl
        · exact (Dict.get?_set ..).trans ((if_pos rfl).trans
            ((Dict.get?_set ..).trans (if_pos rfl)).symm)
      unfold Memory.saveLatest
      rw [check_bind_of_ok hsource, check_bind_of_ok hsource, get_bind, get_bind, h.latest]
      cases s.store.operationalStates.get? source.labName with
      | none => exact .ok _ hset
      | some stored =>
          dsimp only
          cases decideLatestWrite source.labName stored fabric with
          | error e =>
              rw [check_bind_of_error rfl, check_bind_of_error rfl]
              exact .error rfl h
          | ok decision =>
              rw [check_bind_of_ok rfl, check_bind_of_ok rfl]
              split
              · exact .ok _ h
              · exact .ok _ hset

/-- The body of an ingestion for a lab looks at that lab's state alone. -/
theorem OperationalStateIngestion.unaware_body {labName : String} (ids : IdFactory)
    {fabric : FabricOperationalState}
    (hlab : ∀ source, deriveFabricSource fabric = .ok source → source.labName = labName) :
    Unaware (SameLab labName) (body ids fabric) := by
  refine (unaware_check _).bind fun _ => (unaware_check _).bind fun anomalies => ?_
  refine (Unaware.mapM _ fun _ _ => unaware_of_blind fun _ => blind_requireDevice _).bind
    fun _ => ?_
  refine (unaware_saveLatest hlab).bind fun outcome => ?_
  split
  · exact unaware_pure _
  · refine (Unaware.mapM _ fun anomaly _ => unaware_of_blind fun _ =>
      sparesIncidents_withStates.blind_upsertAnomaly ids anomaly).bind fun upserts => ?_
    exact (unaware_of_blind fun _ => blind_recover fabric upserts).bind fun _ => unaware_pure _

/-! ### Requests -/

/-- Two platforms that cannot be told apart from within one lab. -/
def SamePlatform (labName : String) (p q : Platform) : Prop :=
  SameLab labName p.openUnitOfWork q.openUnitOfWork

section Platform

variable {labName : String} {α β : Type} {commits : α → Bool} {body : Action α}
  {finish : α → Except Error β} {p q : Platform} {s t : Session}

theorem SamePlatform.commit (h : SameLab labName s t) :
    SamePlatform labName (p.commit s) (q.commit t) := h

theorem SamePlatform.abandon (hp : SamePlatform labName p q) (h : SameLab labName s t) :
    SamePlatform labName (p.abandon s) (q.abandon t) := by
  refine ⟨?_, hp.latest⟩
  have hstore : q.committed = { p.committed with
      operationalStates := q.committed.operationalStates } := congrArg Session.store hp.rest
  change Session.mk q.committed t.incidentIdsDrawn t.snapshotIdsDrawn = _
  rw [h.incidentIdsDrawn, h.snapshotIdsDrawn, hstore]
  rfl

theorem SamePlatform.ended (hp : SamePlatform labName p q) (h : SameLab labName s t) (c : Bool) :
    SamePlatform labName (if c then p.commit s else p.abandon s)
      (if c then q.commit t else q.abandon t) := by
  cases c with
  | true => exact .commit h
  | false => exact .abandon hp h

/-- A unit of work is as unaware as its body. -/
theorem unaware_unitOfWork (hbody : Unaware (SameLab labName) body) :
    Unaware (SamePlatform labName) (unitOfWork commits body finish) := by
  intro p q h
  have hruns := hbody _ _ h
  change Alike _ _ (unitOfWork commits body finish p) (unitOfWork commits body finish q)
  unfold unitOfWork
  revert hruns
  generalize body.run p.openUnitOfWork = r
  generalize body.run q.openUnitOfWork = r'
  rintro (⟨a, hs⟩ | ⟨rfl, hs⟩)
  · dsimp only
    cases finish a with
    | ok b => exact .ok b (SamePlatform.ended h hs _)
    | error e => exact .error rfl (SamePlatform.ended h hs _)
  · exact .error rfl (SamePlatform.abandon h hs)

/-- The lab a request is for, if it is an ingestion of a fabric that names one. -/
def Request.labName? : Request → Option String
  | .ingestOperationalState fabric => fabric.labName?
  | _ => none

/-- **A request that is for no other lab** is answered the same whatever the states
of other labs. -/
theorem unaware_handle {d : Deployment} {request : Request}
    (h : ∀ other, request.labName? = some other → other = labName) :
    Unaware (SamePlatform labName) (request.handle d) := by
  cases request with
  | seedPolicies observedAt =>
      have hseed : Unaware (SamePlatform labName) (PolicySeeding.seedSlice1Policies observedAt) := by
        unfold PolicySeeding.seedSlice1Policies writing
        exact unaware_unitOfWork (unaware_of_blind fun _ => blind_seedIfMissing _)
      exact hseed.map
  | submitConfiguration command =>
      have hprepare : Unaware (SamePlatform labName)
          (ConfigIngestion.prepare d.registry d.snapshotIds command) := by
        refine (unaware_check _).bind fun _ => (unaware_check _).bind fun _ => ?_
        refine (unaware_check _).bind fun _ => (unaware_check _).bind fun _ => ?_
        refine Unaware.bind (fun p q h => ?_) fun _ => ?_
        · have hdrawn : q.snapshotIdsDrawn = p.snapshotIdsDrawn := h.snapshotIdsDrawn
          change Alike _ _ (.ok (d.snapshotIds.next p.snapshotIdsDrawn) _)
            (.ok (d.snapshotIds.next q.snapshotIdsDrawn) _)
          rw [hdrawn]
          exact .ok _ ⟨congrArg (fun s : Session =>
            { s with snapshotIdsDrawn := p.snapshotIdsDrawn + 1 }) h.rest, h.latest⟩
        · exact (unaware_check _).bind fun _ => (unaware_check _).bind fun _ => unaware_pure _
      exact (hprepare.bind fun prepared => unaware_unitOfWork (unaware_of_blind fun _ =>
        ConfigIngestion.blind_body d.incidentIds command prepared)).map
  | submitTelemetry command =>
      exact (unaware_unitOfWork (unaware_of_blind fun _ =>
        TelemetryIngestion.blind_body d.incidentIds command)).map
  | ingestOperationalState fabric =>
      refine (unaware_unitOfWork (OperationalStateIngestion.unaware_body d.incidentIds ?_)).map
      intro source hsource
      refine h source.labName ?_
      rw [Request.labName?, FabricOperationalState.labName?, hsource]
  | registerLabDevices observedAt =>
      exact ((unaware_check _).bind fun _ => unaware_unitOfWork (unaware_of_blind fun _ =>
        LabDeviceRegistration.blind_body observedAt)).map
  | resolveIncident incidentId now =>
      exact (unaware_unitOfWork (unaware_of_blind fun _ =>
        IncidentResolution.blind_body incidentId now)).map

end Platform

end MetaRne
