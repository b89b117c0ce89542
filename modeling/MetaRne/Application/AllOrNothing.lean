/-
# Ingestion is all-or-nothing

Each of the three ingestion services does all its work in one unit of work.  A
call that raises before the commit rolls the working copy back; what is built
after the commit cannot raise, because of what the body has established: every
violation was handed in and either opened an incident or was counted by one,
every anomaly is of the sample's device, every incident that was resolved is
`RESOLVED`.
-/

import MetaRne.Application.SessionReconciliation
import MetaRne.Detection.RuleFindings

namespace MetaRne

open Library Library.Effect Python

/-- The incidents of a store are ones that the constructor accepts. -/
def Store.IncidentsValid (store : Store) : Prop :=
  ∀ id i, store.incidents.get? id = some i → i.Valid

section Valid

variable {ids : IdFactory} {s s' : Session}

theorem Store.IncidentsValid.set (h : s.store.IncidentsValid) {id : String} {j : Incident}
    (hj : j.Valid) : (s.setIncident id j).store.IncidentsValid := by
  intro id' i hi
  change (s.store.incidents.set id j).get? id' = some i at hi
  rw [Dict.get?_set] at hi
  split_ifs at hi
  · rw [← Option.some.inj hi]
    exact hj
  · exact h id' i hi

theorem UpsertStep.incidentsValid {c : IncidentCandidate} {r : IncidentUpsertResult}
    (h : UpsertStep ids c s r s') (hs : s.store.IncidentsValid) : s'.store.IncidentsValid := by
  cases h with
  | created hnone hdevice =>
      have hdrawn : s.drawIncidentId.store.IncidentsValid := hs
      exact hdrawn.set (c.opened_valid ids _)
  | updated existing s₁ hdrawn hopen hle =>
      have hs₁ : s₁.store.IncidentsValid := by
        rw [SameStore.store_eq hdrawn]
        exact hs
      obtain ⟨id, hget⟩ := Dict.mem_values_iff.1 (List.mem_of_find?_eq_some hopen)
      have hp := List.find?_some (show List.find? _ _ = some existing from hopen)
      rw [Bool.and_eq_true, beq_iff_eq] at hp
      exact hs₁.set ((hs _ _ hget).seenAgain hp.1 hle)

theorem ResolveStep.incidentsValid {incidentId : String} {resolvedAt : Datetime}
    {r : Option Incident} (h : ResolveStep incidentId resolvedAt s r s')
    (hs : s.store.IncidentsValid) : s'.store.IncidentsValid := by
  cases h with
  | unknown hnone => exact hs
  | already existing hsome hresolved => exact hs
  | resolved existing t hinstant hsome hopen hle => exact hs.set ((hs _ _ hsome).resolvedAs hle)

theorem Writes.incidentsValid {parts : List Part} (h : Writes ids parts s s') (hs : s.store.IncidentsValid) :
    s'.store.IncidentsValid := by
  induction h with
  | refl => exact hs
  | tail _ hstep ih =>
      obtain ⟨part, -, hstep⟩ := hstep
      cases hstep with
      | upserted hmatch hstep => exact hstep.incidentsValid ih
      | resolved hstep => exact hstep.incidentsValid ih
      | operationalState hstep =>
          unfold Store.IncidentsValid
          rw [hstep.incidents_eq]
          exact ih
      | idDrawn => exact ih
      | device hsucceeds => exact ih
      | snapshot hnew => exact ih
      | policy hnew => exact ih
      | telemetryCounted => exact ih
      | telemetry deviceId entries hfiled => exact ih

/-- What a resolve of a valid incident returns passes for a resolved one. -/
theorem ResolveStep.resolved_of_valid {incidentId : String} {resolvedAt : Datetime} {r : Incident}
    (h : ResolveStep incidentId resolvedAt s (some r) s') (hs : s.store.IncidentsValid) :
    r.status = .resolved ∧ r.resolvedAt ≠ none := by
  cases h with
  | already existing hsome hresolved =>
      exact ⟨hresolved, Option.isSome_iff_ne_none.1 ((hs _ _ hsome).resolved_iff.1 hresolved)⟩
  | resolved existing t hinstant hsome hopen hle => exact ⟨rfl, nofun⟩

end Valid

/-! ### What is built after the commit -/

section Finish

variable {ids : IdFactory} {s s' : Session}

theorem countOutcome_add (results : List IncidentUpsertResult) :
    ConfigIngestion.countOutcome .created results + ConfigIngestion.countOutcome .updated results =
      results.length := by
  rw [List.length_eq_countP_add_countP fun r : IncidentUpsertResult => r.outcome == .created]
  unfold ConfigIngestion.countOutcome
  congr 1
  refine List.countP_congr fun r _ => ?_
  cases r.outcome <;> decide

/-- The preparation of a configuration: what it leaves and what it built. -/
theorem ConfigIngestion.prepare_ok {registry : AdapterRegistry} {snapshotIds : IdFactory}
    {command : IngestConfigurationCommand} {prepared : PreparedIngestion} {p p' : Platform}
    (h : (prepare registry snapshotIds command).run p = .ok prepared p') :
    p'.committed = p.committed ∧ prepared.deviceId = command.deviceId ∧
      prepared.snapshot.deviceId = command.deviceId ∧
      prepared.snapshot.vendor = prepared.canonicalVendor ∧
      prepared.snapshot.rawConfigText = command.rawConfigText ∧
      prepared.snapshot.submittedAt = command.observedAt := by
  obtain ⟨adapter, -, h⟩ := check_bind_eq_ok.1 h
  obtain ⟨verdict, -, h⟩ := check_bind_eq_ok.1 h
  obtain ⟨parsed, -, h⟩ := check_bind_eq_ok.1 h
  obtain ⟨vendor, -, h⟩ := check_bind_eq_ok.1 h
  obtain ⟨snapshotId, p₁, hdraw, h⟩ := bind_eq_ok.1 h
  obtain ⟨_, -, h⟩ := check_bind_eq_ok.1 h
  obtain ⟨snapshot, hnew, h⟩ := check_bind_eq_ok.1 h
  obtain ⟨rfl, rfl⟩ := pure_eq_ok.1 h
  cases hdraw
  obtain ⟨hdev, hvendor, htext, -, hat⟩ := ConfigurationSnapshot.eq_of_new hnew
  exact ⟨rfl, rfl, hdev, hvendor, htext, (Datetime.utc_inj.1 hat).symm⟩

/-- The committed store is the same. -/
def SameCommitted (p p' : Platform) : Prop := p'.committed = p.committed

theorem SameCommitted.refl (p : Platform) : SameCommitted p p := rfl

theorem SameCommitted.trans (p p' p'' : Platform) (h : SameCommitted p p')
    (h' : SameCommitted p' p'') : SameCommitted p p'' := Eq.trans h' h

theorem ConfigIngestion.prepare_respects (registry : AdapterRegistry) (snapshotIds : IdFactory)
    (command : IngestConfigurationCommand) :
    Respects SameCommitted (prepare registry snapshotIds command) := by
  refine (respects_check .refl _).bind .trans fun _ => ?_
  refine (respects_check .refl _).bind .trans fun _ => ?_
  refine (respects_check .refl _).bind .trans fun _ => ?_
  refine (respects_check .refl _).bind .trans fun _ => ?_
  refine Respects.bind .trans (fun p => SameCommitted.refl p) fun _ => ?_
  refine (respects_check .refl _).bind .trans fun _ => ?_
  exact (respects_check .refl _).bind .trans fun _ => respects_pure .refl _

/-- Every violation was handed in, so the counts of the result add up. -/
theorem ConfigIngestion.finish_ok {command : IngestConfigurationCommand}
    {prepared : PreparedIngestion} {done : ℕ × List IncidentUpsertResult}
    (hdev : prepared.deviceId = command.deviceId)
    (h : (body ids command prepared).run s = .ok done s') :
    ∃ result, finish prepared done = .ok result := by
  obtain ⟨_, s₁, -, h⟩ := bind_eq_ok.1 h
  obtain ⟨policies, s₂, -, h⟩ := bind_eq_ok.1 h
  obtain ⟨violations, -, h⟩ := check_bind_eq_ok.1 h
  obtain ⟨results, s₃, hloop, h⟩ := bind_eq_ok.1 h
  obtain ⟨rfl, -⟩ := pure_eq_ok.1 h
  have hlength : results.length = violations.length :=
    mapM_invariant (fun done results _ => results.length = done.length) hloop rfl
      fun done results x y s₁ s₂ _ hlen _ => by
        rw [List.length_append, List.length_append, hlen]
        rfl
  refine ⟨_, (requireNonEmpty_bind_eq_ok.2 ⟨?_, requireNonEmpty_bind_eq_ok.2
    ⟨prepared.snapshot.snapshotId_not_blank, raiseIf_bind_eq_ok.2 ⟨not_not.2 ?_, rfl⟩⟩⟩)⟩
  · rw [hdev]
    exact command.deviceId_not_blank
  · exact (countOutcome_add results).trans hlength

/-- What the body of a telemetry ingestion does, phase by phase. -/
theorem TelemetryIngestion.body_ok {samples : TelemetryRepository}
    {command : TelemetryIngestionCommand} {ingested : Ingested}
    (h : (body samples ids command).run s = .ok ingested s') :
    (s.store.devices.get? command.deviceId).isSome ∧
      ∃ latest s₁ cutoff history s₂ s₃,
        (samples.getLatest command.deviceId).run s = .ok latest s₁ ∧
        subtractDelta (effectiveWatermark latest command.sample) retentionWindow = .ok cutoff ∧
        (samples.getRecent command.deviceId cutoff).run s₁ = .ok history s₂ ∧
        ingested.evaluationSequence = buildEvaluationSequence history command.sample ∧
        (samples.save command.deviceId command.sample).run s₂ = .ok () s₃ ∧
        RuleEngine.evaluate (.utc command.observedAt) ingested.evaluationSequence =
          .ok ingested.anomalies ∧
        (ingested.anomalies.mapM (upsertAnomaly ids)).run s₃ = .ok ingested.upserts s' := by
  unfold body Memory.getDevice at h
  simp only [bind_assoc, get_bind, pure_bind, check_bind_eq_ok, raiseIf_eq_ok] at h
  obtain ⟨_, hdevice, h⟩ := h
  obtain ⟨latest, s₁, hlatest, h⟩ := bind_eq_ok.1 h
  obtain ⟨cutoff, hcutoff, h⟩ := check_bind_eq_ok.1 h
  obtain ⟨history, s₂, hrecent, h⟩ := bind_eq_ok.1 h
  obtain ⟨_, s₃, hsave, h⟩ := bind_eq_ok.1 h
  obtain ⟨anomalies, hevaluate, h⟩ := check_bind_eq_ok.1 h
  obtain ⟨upserts, s₄, hupserts, h⟩ := bind_eq_ok.1 h
  obtain ⟨rfl, rfl⟩ := pure_eq_ok.1 h
  exact ⟨Dict.isSome_of_not_isNone hdevice, latest, s₁, cutoff, history, s₂, s₃, hlatest, hcutoff,
    hrecent, rfl, hsave, hevaluate, hupserts⟩

/-- The samples evaluated are the current one and samples of the history. -/
theorem TelemetryIngestion.mem_buildEvaluationSequence {history : List TelemetrySample}
    {currentSample sample : TelemetrySample}
    (h : sample ∈ buildEvaluationSequence history currentSample) :
    sample = currentSample ∨ sample ∈ history := by
  unfold buildEvaluationSequence at h
  rw [List.mem_append, List.mem_singleton, List.mem_map] at h
  rcases h with ⟨entry, hentry, rfl⟩ | rfl
  · have hmem := List.mem_of_mem_drop (List.mem_of_mem_filter hentry)
    rw [List.mem_insertionSort, List.mem_append, List.mem_map, List.mem_singleton] at hmem
    rcases hmem with ⟨row, hrow, rfl⟩ | rfl
    · exact Or.inr hrow
    · exact Or.inl rfl
  · exact Or.inl rfl

/-- The recent samples of a device are its samples. -/
theorem Memory.mem_of_getRecentTelemetry {deviceId : String} {since : Timestamp}
    {history : List TelemetrySample}
    (h : (Memory.getRecentTelemetry deviceId since).run s = .ok history s') :
    s' = s ∧ ∀ sample ∈ history, ∃ entry ∈ samplesOf s.store deviceId, entry.sample = sample := by
  obtain ⟨rfl, rfl⟩ := pure_eq_ok.1 (show EStateM.run (pure _) s = _ from h)
  refine ⟨rfl, fun sample hmem => ?_⟩
  obtain ⟨entry, hentry, rfl⟩ := List.mem_map.1 hmem
  exact ⟨entry, List.mem_of_mem_filter hentry, rfl⟩

/-- Every anomaly is of the sample's device, so the result is built. -/
theorem TelemetryIngestion.finish_ok {command : TelemetryIngestionCommand} {ingested : Ingested}
    (h : (body Memory.telemetryRepository ids command).run s = .ok ingested s') :
    ∃ result, TelemetryIngestionResult.new command.sample ingested.anomalies = .ok result := by
  obtain ⟨-, latest, s₁, cutoff, history, s₂, s₃, -, -, hrecent, hseq, -, hevaluate, -⟩ := body_ok h
  obtain ⟨-, hhistory⟩ := Memory.mem_of_getRecentTelemetry hrecent
  obtain ⟨_, hchecks⟩ : ∃ units,
      ingested.anomalies.mapM (requireSameDevice command.sample) = .ok units :=
    except_mapM_isOk fun anomaly hanomaly => by
      refine ⟨(), raiseIf_eq_ok.2 (not_not.2 ?_)⟩
      obtain ⟨sample, hsample, hdev⟩ :=
        (RuleEngine.evaluate_foundIn hevaluate anomaly hanomaly).device
      rw [← hdev]
      rw [hseq] at hsample
      rcases mem_buildEvaluationSequence hsample with rfl | hmem
      · rfl
      · obtain ⟨entry, hentry, rfl⟩ := hhistory sample hmem
        rw [samplesOf_filed entry hentry, command.deviceId_eq]
  exact ⟨⟨command.sample, ingested.anomalies⟩, except_bind_eq_ok.2 ⟨_, hchecks, rfl⟩⟩

/-- An incident passes for a resolved one. -/
def PassesResolved (i : Incident) : Prop := i.status = .resolved ∧ i.resolvedAt ≠ none

namespace OperationalStateIngestion

theorem recoverNode_resolved {t : Timestamp} {failing : List String}
    {node : NormalizedOperationalState} {r : List (Option Incident)}
    (hs : s.store.IncidentsValid) (h : (recoverNode t failing node).run s = .ok r s') :
    ∀ i, some i ∈ r → PassesResolved i := by
  unfold recoverNode at h
  split_ifs at h with hrole
  · obtain ⟨rfl, -⟩ := pure_eq_ok.1 h
    exact fun i hi => absurd hi List.not_mem_nil
  cases hbgp : node.bgp with
  | none =>
      rw [hbgp] at h
      obtain ⟨rfl, -⟩ := pure_eq_ok.1 h
      exact fun i hi => absurd hi List.not_mem_nil
  | some bgp =>
      simp only [hbgp] at h
      obtain ⟨deviceId, hdev, h⟩ := check_bind_eq_ok.1 h
      have hdev' : lab1DeviceId? node.nodeId = some deviceId := by
        unfold requireDeviceId at hdev
        split at hdev
        · cases hdev
        · next hsome => rw [hsome, Except.ok.inj hdev]
      refine (mapM_invariant (fun _ results s₁ => s₁.store.IncidentsValid ∧
        ∀ i, some i ∈ results → PassesResolved i) h
          ⟨hs, fun i hi => absurd hi List.not_mem_nil⟩ ?_).2
      rintro done results neighbor r s₁ s₂ - ⟨hs₁, hall⟩ hrun
      have hwrites : Writes (tallyIds 'I') [.incidents] s₁ s₂ :=
        (onlyWrites_recoverNeighbor (by decide) t failing deviceId neighbor).of_ok hrun
      refine ⟨hwrites.incidentsValid hs₁, fun i hi => ?_⟩
      rcases List.mem_append.1 hi with hi | hi
      · exact hall i hi
      · cases recoverNeighbor_ok (not_isBlank_of_lab1DeviceId? hdev') hrun with
        | notEstablished hstate => cases List.mem_singleton.1 hi
        | failing hmem => cases List.mem_singleton.1 hi
        | notOpen hnone => cases List.mem_singleton.1 hi
        | resolved hstate hfound hle hstep =>
            cases List.mem_singleton.1 hi
            exact hstep.resolved_of_valid hs₁

theorem recover_resolved {fabric : FabricOperationalState} {upserts : List IncidentUpsertResult}
    {resolved : List Incident} (hs : s.store.IncidentsValid)
    (h : (recover fabric upserts).run s = .ok resolved s') : ∀ i ∈ resolved, PassesResolved i := by
  obtain ⟨found, s₁, hloop, h⟩ := bind_eq_ok.1 h
  obtain ⟨rfl, -⟩ := pure_eq_ok.1 h
  intro i hi
  rw [List.mem_filterMap] at hi
  obtain ⟨o, ho, rfl⟩ := hi
  obtain ⟨r, hr, hor⟩ := List.mem_flatten.1 ho
  refine (mapM_invariant (fun _ results s₁ => s₁.store.IncidentsValid ∧
    ∀ r ∈ results, ∀ i, some i ∈ r → PassesResolved i) hloop
      ⟨hs, fun r hr => absurd hr List.not_mem_nil⟩ ?_).2 r hr i hor
  rintro done results node r s₁ s₂ - ⟨hs₁, hall⟩ hrun
  have hwrites : Writes (tallyIds 'I') [.incidents] s₁ s₂ :=
    (onlyWrites_recoverNode (by decide) fabric.collectedAt _ node).of_ok hrun
  refine ⟨hwrites.incidentsValid hs₁, fun r' hr' => ?_⟩
  rcases List.mem_append.1 hr' with hr' | hr'
  · exact hall r' hr'
  · rw [List.mem_singleton.1 hr']
    exact recoverNode_resolved hs₁ hrun

/-- Every resolved incident is `RESOLVED`, so the result is built. -/
theorem finish_ok {fabric : FabricOperationalState} {ingested : Ingested}
    (hs : s.store.IncidentsValid) (h : (body ids fabric).run s = .ok ingested s') :
    ∃ result, finish fabric ingested = .ok result := by
  have hresolved : ∀ i ∈ ingested.resolved, PassesResolved i := by
    obtain ⟨-, s₁, hsave, ⟨-, -, hnone, -⟩ | ⟨-, s₂, hupserts, hrecover⟩⟩ := body_ok h
    · rw [hnone]
      exact fun i hi => absurd hi List.not_mem_nil
    · have hwrite : Write ids s .operationalStates s₁ := .operationalState hsave
      have hs₁ : s₁.store.IncidentsValid := (hwrite.writes (List.mem_singleton_self _)).incidentsValid hs
      have hwrites : Writes ids [.incidents] s₁ s₂ := (OnlyWrites.mapM _ fun anomaly _ =>
        TelemetryIngestion.onlyWrites_upsertAnomaly (by decide) anomaly).of_ok hupserts
      exact recover_resolved (hwrites.incidentsValid hs₁) hrecover
  have hpasses : ∀ i ∈ ingested.resolved, ∃ u, requireResolved i = .ok u := fun i hi => by
    refine ⟨(), raiseIf_eq_ok.2 fun hnot => ?_⟩
    exact hnot.elim (fun hst => hst (hresolved i hi).1) (hresolved i hi).2
  obtain ⟨_, hchecks⟩ := except_mapM_isOk hpasses
  exact ⟨_, except_bind_eq_ok.2 ⟨_, hchecks, rfl⟩⟩

end OperationalStateIngestion
end Finish

/-! ### The services -/

/-- A call of a service leaves the committed store as it was when it raises, and
publishes a whole working store, the one its unit of work `ran` to, when it returns. -/
structure AllOrNothing {α : Type} (service : Service α) (p : Platform) (ran : Session → Prop) :
    Prop where
  raised : ∀ e p', service.run p = .error e p' → p'.committed = p.committed
  returned : ∀ a p', service.run p = .ok a p' → ∃ s, ran s ∧ p'.committed = s.store

/-- A writing unit of work is all-or-nothing if its result is always built. -/
theorem allOrNothing_writing {α β : Type} {body : Action α} {finish : α → Except Error β}
    {p : Platform} (hfinish : ∀ a s, body.run p.openUnitOfWork = .ok a s → ∃ b, finish a = .ok b) :
    AllOrNothing (writing body finish) p fun s => ∃ a, body.run p.openUnitOfWork = .ok a s where
  raised := fun e p' h => by
    rcases unitOfWork_error h with ⟨s, -, rfl⟩ | ⟨a, s, hbody, hfin, -⟩
    · rfl
    · obtain ⟨b, hb⟩ := hfinish a s hbody
      rw [hb] at hfin
      cases hfin
  returned := fun b p' h => by
    obtain ⟨a, s, hbody, -, rfl⟩ := unitOfWork_ok h
    exact ⟨s, ⟨a, hbody⟩, rfl⟩

/-- A submission that raises changes nothing. -/
theorem ConfigIngestion.ingest_raised {registry : AdapterRegistry} {snapshotIds ids : IdFactory}
    {command : IngestConfigurationCommand} {e : Error} {p p' : Platform}
    (h : (ingest registry snapshotIds ids command).run p = .error e p') :
    p'.committed = p.committed := by
  rcases bind_eq_error.1 h with h | ⟨prepared, p₁, hprepare, h⟩
  · exact (prepare_respects _ _ command).of_error h
  · obtain ⟨hcommitted, hdev, -⟩ := prepare_ok hprepare
    rw [← hcommitted]
    exact (allOrNothing_writing fun done s hbody => finish_ok hdev hbody).raised e p' h

/-- **Ingestion is all-or-nothing.**  From any committed store of valid
incidents, a call of one of the three ingestion services that raises, wherever
it does, leaves every collection of the committed store as it was; one that
returns publishes everything its unit of work wrote; and an exact replay of an
operational state changes nothing. -/
theorem ingestion_all_or_nothing (d : Deployment) {p : Platform}
    (hvalid : p.committed.IncidentsValid) :
    (∀ command, AllOrNothing
      (ConfigIngestion.ingest d.registry d.snapshotIds d.incidentIds command) p fun s =>
        ∃ prepared p₁ done,
          (ConfigIngestion.prepare d.registry d.snapshotIds command).run p = .ok prepared p₁ ∧
          (ConfigIngestion.body d.incidentIds command prepared).run p₁.openUnitOfWork =
            .ok done s) ∧
    (∀ command, AllOrNothing (TelemetryIngestion.ingest d.incidentIds command) p fun s =>
      ∃ ingested, (TelemetryIngestion.body Memory.telemetryRepository d.incidentIds command).run
        p.openUnitOfWork = .ok ingested s) ∧
    (∀ fabric, AllOrNothing (OperationalStateIngestion.ingest d.incidentIds fabric) p fun s =>
      ∃ ingested, (OperationalStateIngestion.body d.incidentIds fabric).run p.openUnitOfWork =
        .ok ingested s) ∧
    (∀ fabric result p', (OperationalStateIngestion.ingest d.incidentIds fabric).run p =
      .ok result p' → result.stateOutcome = .unchanged → p'.committed = p.committed) := by
  refine ⟨fun command => ⟨fun e p' h => ?_, fun result p' h => ?_⟩, fun command => ?_,
    fun fabric => ?_, fun fabric result p' h hout => ?_⟩
  · exact ConfigIngestion.ingest_raised h
  · obtain ⟨prepared, p₁, hprepare, h⟩ := bind_eq_ok.1 h
    obtain ⟨-, hdev, -⟩ := ConfigIngestion.prepare_ok hprepare
    obtain ⟨s, ⟨done, hbody⟩, hcommitted⟩ := (allOrNothing_writing fun done s hbody =>
      ConfigIngestion.finish_ok hdev hbody).returned result p' h
    exact ⟨s, ⟨prepared, p₁, done, hprepare, hbody⟩, hcommitted⟩
  · exact allOrNothing_writing fun ingested s hbody => TelemetryIngestion.finish_ok hbody
  · exact allOrNothing_writing fun ingested s hbody =>
      OperationalStateIngestion.finish_ok hvalid hbody
  · obtain ⟨ingested, s, hbody, houtcome, rfl⟩ := OperationalStateIngestion.ingest_ok h
    rw [houtcome] at hout
    obtain ⟨-, s₁, hsave, ⟨-, -, -, rfl⟩ | ⟨hchanged, -⟩⟩ :=
      OperationalStateIngestion.body_ok hbody
    · rw [hout] at hsave
      cases hsave with
      | unchanged hsource hsome => rfl
    · exact absurd hout hchanged

/-- A sample of a router that nobody registered. -/
def strangerCommand : TelemetryIngestionCommand where
  deviceId := "r9"
  sample := ⟨"r9", 1, .finite 1, .finite 1, .finite 0, [], [], by decide, by decide, by decide⟩
  observedAt := 1
  deviceId_not_blank := by decide
  deviceId_eq := rfl

theorem ingestion_all_or_nothing_stranger :
    (final (TelemetryIngestion.ingest labDeployment.incidentIds strangerCommand)
      labPlatform).committed = labPlatform.committed := by
  have hvalid : labPlatform.committed.IncidentsValid := by
    intro id i hi
    rw [labPlatform_incidents] at hi
    cases hi
  have hraises : (match (TelemetryIngestion.ingest labDeployment.incidentIds
      strangerCommand).run labPlatform with
      | .ok _ _ => false
      | .error _ _ => true) = true := by decide +kernel
  cases h : (TelemetryIngestion.ingest labDeployment.incidentIds strangerCommand).run
      labPlatform with
  | ok result p' =>
      rw [h] at hraises
      cases hraises
  | error e p' =>
      rw [final_of_error h]
      exact ((ingestion_all_or_nothing labDeployment hvalid).2.1 strangerCommand).raised e p' h

end MetaRne
