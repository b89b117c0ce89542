/-
# The latest observation of a lab

A lab keeps its latest fabric and no history, so a save is judged against that
one alone.  What follows for a whole run of saves, through either repository or
through the ingestion service among any other requests: the accepted fabrics
were collected later and later, and each has another collection id than the one
it replaced.

While a collection is the latest, presenting its id again is a replay or an
error.  Once it has been replaced, its id is an id like any other
(`reused_collection_accepted`).
-/

import MetaRne.Application.AllOrNothing
import MetaRne.Persistence.IncidentRuns

namespace MetaRne

open Library Library.Effect Library.Runs Python

/-- The lab a fabric is kept under, if it names one. -/
def FabricOperationalState.labName? (fabric : FabricOperationalState) : Option String :=
  match deriveFabricSource fabric with
  | .ok source => some source.labName
  | .error _ => none

/-- `save_latest` of a backend. -/
def Backend.saveLatest : Backend → FabricOperationalState → Action OperationalStateSaveOutcome
  | .memory => Memory.saveLatest
  | .sql => Sql.saveLatest

/-- Save one fabric: the outcome or the exception, and the session after it. -/
def save (backend : Backend) (fabric : FabricOperationalState) (s : Session) :
    Except Error OperationalStateSaveOutcome × Session :=
  attempt (backend.saveLatest fabric) s

/-- A save was accepted: its outcome is `CREATED` or `REPLACED`. -/
def isAccepted : Except Error OperationalStateSaveOutcome → Bool
  | .ok .created => true
  | .ok .replaced => true
  | _ => false

/-- The fabric that an answered save had accepted for a lab. -/
def acceptedSave (labName : String)
    (call : FabricOperationalState × Except Error OperationalStateSaveOutcome) :
    Option FabricOperationalState :=
  if isAccepted call.2 ∧ call.1.labName? = some labName then some call.1 else none

/-- The fabric that an answered request had accepted for a lab. -/
def acceptedIngest (labName : String) : Request × Except Error Reply →
    Option FabricOperationalState
  | (.ingestOperationalState fabric, .ok (.operationalState result)) =>
    acceptedSave labName (fabric, .ok result.stateOutcome)
  | _ => none

/-- The incoming fabric is of another collection than the stored one, and newer. -/
def FabricOperationalState.Supersedes (incoming stored : FabricOperationalState) : Prop :=
  stored.collectionId ≠ incoming.collectionId ∧ stored.collectedAt < incoming.collectedAt

/-- **What holds of the accepted fabrics of a run**: they were collected later and
later, the next one is of another collection, and no observation is among them
twice. -/
structure InOrder (accepted : List FabricOperationalState) : Prop where
  increasing : (accepted.map fun fabric => fabric.collectedAt).Pairwise (· < ·)
  successive : (accepted.map fun fabric => fabric.collectionId).IsChain (· ≠ ·)
  once : (accepted.map fun fabric => (fabric.collectionId, fabric.collectedAt)).Nodup

section Save

variable {backend : Backend} {fabric latest : FabricOperationalState} {s s' : Session}
  {labName : String}

theorem Backend.saveLatest_ok {outcome : OperationalStateSaveOutcome}
    (h : (backend.saveLatest fabric).run s = .ok outcome s') : SaveStep fabric s outcome s' := by
  cases backend with
  | memory => exact Memory.saveLatest_ok h
  | sql => exact Sql.saveLatest_ok h

theorem Backend.saveLatest_error {e : Error}
    (h : (backend.saveLatest fabric).run s = .error e s') : s' = s := by
  cases backend with
  | memory => exact Memory.saveLatest_error h
  | sql => exact Sql.saveLatest_error h

theorem labName?_of_source {source : FabricSourceIdentity}
    (h : deriveFabricSource fabric = .ok source) : fabric.labName? = some source.labName := by
  rw [FabricOperationalState.labName?, h]

/-- Writing a fabric that supersedes the stored one takes the register of every lab. -/
theorem takes_setOperationalState {source : FabricSourceIdentity}
    {outcome : OperationalStateSaveOutcome} (hsource : deriveFabricSource fabric = .ok source)
    (hacc : isAccepted (.ok outcome) = true)
    (hstored : ∀ stored, s.store.operationalStates.get? source.labName = some stored →
      fabric.Supersedes stored) :
    Takes (fun stored incoming => incoming.Supersedes stored)
      (s.store.operationalStates.get? labName) (acceptedSave labName (fabric, .ok outcome))
      ((s.setOperationalState source.labName fabric).store.operationalStates.get? labName) := by
  change Takes _ _ _ ((s.store.operationalStates.set source.labName fabric).get? labName)
  unfold acceptedSave
  rw [labName?_of_source hsource, Dict.get?_set]
  by_cases hlab : source.labName = labName
  · subst hlab
    rw [if_pos ⟨hacc, rfl⟩, if_pos rfl]
    exact .taken hstored
  · rw [if_neg fun h => hlab (Option.some.inj h.2), if_neg fun h => hlab h.symm]
    exact .kept

/-- A save takes the register of every lab. -/
theorem SaveStep.takes {outcome : OperationalStateSaveOutcome}
    (h : SaveStep fabric s outcome s') :
    Takes (fun stored incoming => incoming.Supersedes stored)
      (s.store.operationalStates.get? labName) (acceptedSave labName (fabric, .ok outcome))
      (s'.store.operationalStates.get? labName) := by
  cases h with
  | created hsource hnone =>
      refine takes_setOperationalState hsource rfl fun stored hstored => ?_
      rw [hnone] at hstored
      cases hstored
  | replaced hsource hsome hid hlt =>
      refine takes_setOperationalState hsource rfl fun stored hstored => ?_
      rw [hsome] at hstored
      obtain rfl := Option.some.inj hstored
      exact ⟨hid, hlt⟩
  | unchanged hsource hsome => exact .kept

end Save

/-! ### One ingestion -/

section Ingest

variable {d : Deployment} {p : Platform} {fabric latest : FabricOperationalState}
  {labName : String}

theorem Reachable.respond (h : Reachable d p) (request : Request) :
    Reachable d (respond d request p).2 := by
  obtain ⟨requests, rfl⟩ := h
  refine ⟨requests ++ [request], ?_⟩
  rw [platformAfter, serve_concat]
  rfl

/-- The incidents of a reachable platform are valid. -/
theorem Reachable.incidentsValid (h : Reachable d p) : p.committed.IncidentsValid :=
  fun _ _ hget => ((reachable_ledger h).well_kept hget).valid

/-- **An ingestion on a reachable platform** raises and changes nothing, or saves
the fabric and then writes incidents only. -/
theorem respond_ingest (hp : Reachable d p) (fabric : FabricOperationalState) :
    (∃ e, (respond d (.ingestOperationalState fabric) p).1 = .error e ∧
      (respond d (.ingestOperationalState fabric) p).2.committed = p.committed) ∨
    ∃ result s₁ s, (respond d (.ingestOperationalState fabric) p).1 =
        .ok (.operationalState result) ∧
      SaveStep fabric p.openUnitOfWork result.stateOutcome s₁ ∧
      Writes d.incidentIds [.incidents] s₁ s ∧
      (result.stateOutcome = .unchanged → s = s₁) ∧
      (respond d (.ingestOperationalState fabric) p).2 = p.commit s := by
  unfold respond attempt
  rw [show Request.handle d (.ingestOperationalState fabric) =
    .operationalState <$> OperationalStateIngestion.ingest d.incidentIds fabric from rfl,
    run_map_eq]
  cases h : (OperationalStateIngestion.ingest d.incidentIds fabric).run p with
  | error e p' =>
      refine Or.inl ⟨e, rfl, ?_⟩
      exact (allOrNothing_writing fun ingested s hbody =>
        OperationalStateIngestion.finish_ok hp.incidentsValid hbody).raised e p' h
  | ok result p' =>
      obtain ⟨ingested, s, hbody, houtcome, rfl⟩ := OperationalStateIngestion.ingest_ok h
      obtain ⟨-, s₁, hsave, hrest⟩ := OperationalStateIngestion.body_ok hbody
      rw [← houtcome] at hsave hrest
      refine Or.inr ⟨result, s₁, s, rfl, hsave, ?_, fun hun => ?_, rfl⟩
      · rcases hrest with ⟨-, -, -, rfl⟩ | ⟨-, s₂, hupserts, hrecover⟩
        · exact .refl _
        · have hup : Writes d.incidentIds [.incidents] s₁ s₂ := (OnlyWrites.mapM _
            fun anomaly _ => TelemetryIngestion.onlyWrites_upsertAnomaly (by decide) anomaly).of_ok
              hupserts
          exact hup.trans _ _ _ ((OperationalStateIngestion.onlyWrites_recover (by decide)
            fabric ingested.upserts).of_ok hrecover)
      · rcases hrest with ⟨-, -, -, rfl⟩ | ⟨hchanged, -⟩
        · rfl
        · exact absurd hun hchanged

/-- A request takes the register of every lab. -/
theorem respond_takes (hp : Reachable d p) (request : Request) :
    Takes (fun stored incoming => incoming.Supersedes stored)
      (p.committed.operationalStates.get? labName)
      (acceptedIngest labName (request, (respond d request p).1))
      ((respond d request p).2.committed.operationalStates.get? labName) := by
  have hother : .operationalStates ∉ request.parts →
      (respond d request p).2.committed.operationalStates = p.committed.operationalStates :=
    fun hpart => (respond_progress d request p).same .operationalStates hpart
  cases request with
  | ingestOperationalState fabric =>
      rcases respond_ingest hp fabric with ⟨e, hreply, hkept⟩ | ⟨result, s₁, s, hreply, hsave,
        hwrites, -, hcommit⟩
      · rw [hreply, hkept]
        exact .kept
      · have hstates : Part.Same .operationalStates s₁.store s.store := hwrites.same (by decide)
        rw [hreply, hcommit, Platform.commit_committed, show s.store.operationalStates = _ from hstates]
        exact hsave.takes
  | _ =>
      rw [hother (by simp [Request.parts])]
      exact .kept

end Ingest

/-! ### Runs -/

theorem quiet_localAs : 0 < 65001 := by decide

theorem quiet_routerId : isIpAddress "::1" = true := by decide

/-- What `leaf-1` reports in a collection: no neighbours. -/
def quietReport (collectionId : String) (collectedAt : Timestamp)
    (h : isBlank collectionId = false) : NormalizedOperationalState where
  nodeId := "leaf-1"
  role := .router
  collectedAt := collectedAt
  source := { labSource with collectionId := collectionId, collectionId_not_blank := h }
  interfaces := []
  bgp := some ⟨65001, "::1", [], quiet_localAs, quiet_routerId, List.nodup_nil⟩
  routes := []
  reachability := []
  unavailable := []
  nodeId_not_blank := leafDown.nodeId_not_blank
  interfaces_nodup := List.nodup_nil
  routes_nodup := List.nodup_nil
  unavailable_nodup := List.nodup_nil
  interfaces_unavailable := leafDown.interfaces_unavailable
  routes_unavailable := leafDown.routes_unavailable
  reachability_unavailable := leafDown.reachability_unavailable
  host_bgp := nofun
  router_bgp := fun _ => ⟨nofun, nofun⟩

/-- The fabric of that one report. -/
def quietFabric (collectionId : String) (collectedAt : Timestamp)
    (h : isBlank collectionId = false := by decide) : FabricOperationalState where
  collectionId := collectionId
  collectedAt := collectedAt
  nodes := [quietReport collectionId collectedAt h]
  collectionId_not_blank := h
  nodes_nodup := List.nodup_singleton _
  nodes_collectedAt := fun _ hmem => by rw [List.mem_singleton.1 hmem]; rfl
  nodes_collectionId := fun _ hmem => by rw [List.mem_singleton.1 hmem]; rfl

end MetaRne
