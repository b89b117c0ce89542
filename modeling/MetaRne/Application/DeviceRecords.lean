/-
# Devices and their snapshots through a run

Every successful submission of a configuration writes its snapshot and points
the device at it; the first one also sets the baseline.  Registering the lab's
routers writes devices that point at nothing, and no other request writes a
device or a snapshot.

`DeviceRecords` holds a store against the log of the answered requests: the
pointers of a device are the first and the latest submission in it.  So a query
never finds a pointer missing or dangling.
-/

import MetaRne.Application.AllOrNothing
import MetaRne.Application.Queries

namespace MetaRne

open Library Library.Effect Library.Runs Python

/-- A submission that was answered with a result. -/
structure Submission where
  command : IngestConfigurationCommand
  result : ConfigIngestionResult

/-- The submission that an answered request is, if it is one for the device and it
was successful. -/
def submissionOf (deviceId : String) : Request × Except Error Reply → Option Submission
  | (.submitConfiguration command, .ok (.configuration result)) =>
    if command.deviceId = deviceId then some ⟨command, result⟩ else none
  | _ => none

/-- The successful submissions for a device, in order. -/
def submissions (deviceId : String) (log : List (Request × Except Error Reply)) :
    List Submission :=
  log.filterMap (submissionOf deviceId)

/-- The snapshot of a submission is stored: the submitted text, of the device and
of its vendor. -/
def SnapshotStored (store : Store) (device : Device) (submission : Submission) : Prop :=
  ∃ snapshot, store.snapshots.get? submission.result.snapshotId = some snapshot ∧
    snapshot.deviceId = device.deviceId ∧ snapshot.vendor = device.vendor ∧
    snapshot.rawConfigText = submission.command.rawConfigText ∧
    snapshot.submittedAt = submission.command.observedAt

/-- **A store agrees with the log of a run** about its devices and snapshots. -/
structure DeviceRecords (log : List (Request × Except Error Reply)) (store : Store) : Prop where
  filed : ∀ {id device}, store.devices.get? id = some device → device.deviceId = id
  /-- A device that is not an FRR router points at its first and its latest submission. -/
  pointers : ∀ {id device}, store.devices.get? id = some device → device.vendor ≠ .frr →
    ∃ first latest, (submissions id log).head? = some first ∧
      (submissions id log).getLast? = some latest ∧
      device.baselineSnapshotId = some first.result.snapshotId ∧
      device.currentSnapshotId = some latest.result.snapshotId
  /-- Every submission is for a stored device, and its snapshot is stored. -/
  stored : ∀ {id submission}, submission ∈ submissions id log →
    ∃ device, store.devices.get? id = some device ∧ SnapshotStored store device submission
  /-- An FRR router points at nothing. -/
  frr : ∀ {id device}, store.devices.get? id = some device → device.vendor = .frr →
    device.baselineSnapshotId = none ∧ device.currentSnapshotId = none

variable {log : List (Request × Except Error Reply)} {store store' : Store} {deviceId : String}

theorem submissions_concat (deviceId : String) (log : List (Request × Except Error Reply))
    (call : Request × Except Error Reply) :
    submissions deviceId (log ++ [call]) =
      submissions deviceId log ++ (submissionOf deviceId call).toList := by
  unfold submissions
  rw [List.filterMap_append]
  cases hcall : submissionOf deviceId call with
  | none => rw [List.filterMap_cons_none hcall]; rfl
  | some submission => rw [List.filterMap_cons_some hcall]; rfl

/-- Only the devices and the snapshots of a store are held against the log. -/
theorem DeviceRecords.congr (h : DeviceRecords log store) (hdevices : store'.devices = store.devices)
    (hsnapshots : store'.snapshots = store.snapshots) : DeviceRecords log store' where
  filed := fun hget => h.filed (hdevices ▸ hget)
  pointers := fun hget hvendor => h.pointers (hdevices ▸ hget) hvendor
  stored := fun hmem => by
    obtain ⟨device, hget, snapshot, hsnapshot, hrest⟩ := h.stored hmem
    refine ⟨device, ?_, snapshot, ?_, hrest⟩
    · rw [hdevices]
      exact hget
    · rw [hsnapshots]
      exact hsnapshot
  frr := fun hget hvendor => h.frr (hdevices ▸ hget) hvendor

/-- A call that is no successful submission adds nothing to the log. -/
theorem DeviceRecords.logged (h : DeviceRecords log store) {call : Request × Except Error Reply}
    (hcall : ∀ deviceId, submissionOf deviceId call = none) :
    DeviceRecords (log ++ [call]) store := by
  have hsame : ∀ id, submissions id (log ++ [call]) = submissions id log := fun id => by
    rw [submissions_concat, hcall, Option.toList_none, List.append_nil]
  refine ⟨h.filed, fun hget hvendor => ?_, fun hmem => ?_, h.frr⟩
  · rw [hsame]
    exact h.pointers hget hvendor
  · rw [hsame] at hmem
    exact h.stored hmem

/-- A submission is never for an FRR router. -/
theorem DeviceRecords.not_frr (h : DeviceRecords log store) {id : String} {device : Device}
    (hget : store.devices.get? id = some device) {submission : Submission}
    (hmem : submission ∈ submissions id log) : device.vendor ≠ .frr := by
  obtain ⟨device', hget', snapshot, -, -, hvendor, -⟩ := h.stored hmem
  rw [hget, Option.some.injEq] at hget'
  rw [hget', ← hvendor]
  exact snapshot.vendor_ne_frr

/-! ### What a submission writes -/

section Submits

variable {ids : IdFactory} {s s' : Session}

/-- **What persisting a device and its snapshot does**: the snapshot is new and is
written; the device is written pointing at it, with the baseline it had or, if
it is new, with this one. -/
structure Persists (prepared : ConfigIngestion.PreparedIngestion) (store store' : Store)
    (device : Device) : Prop where
  new_snapshot : store.snapshots.get? prepared.snapshot.snapshotId = none
  snapshots : store'.snapshots =
    store.snapshots.set prepared.snapshot.snapshotId prepared.snapshot
  devices : ∀ id, store'.devices.get? id =
    if id = prepared.deviceId then some device else store.devices.get? id
  deviceId : device.deviceId = prepared.deviceId
  vendor : device.vendor = prepared.canonicalVendor
  current : device.currentSnapshotId = some prepared.snapshot.snapshotId
  baseline : (store.devices.get? prepared.deviceId = none ∧
      device.baselineSnapshotId = some prepared.snapshot.snapshotId) ∨
    ∃ existing, store.devices.get? prepared.deviceId = some existing ∧
      existing.vendor = device.vendor ∧
      device.baselineSnapshotId = existing.baselineSnapshotId

theorem ConfigIngestion.persistDeviceAndSnapshot_ok {prepared : PreparedIngestion}
    {observedAt : Timestamp}
    (hfiled : ∀ {id device}, s.store.devices.get? id = some device → device.deviceId = id)
    (h : (persistDeviceAndSnapshot prepared observedAt).run s = .ok () s') :
    ∃ device, Persists prepared s.store s'.store device := by
  unfold persistDeviceAndSnapshot Memory.getDevice at h
  simp only [bind_assoc, get_bind, pure_bind] at h
  cases hget : s.store.devices.get? prepared.deviceId with
  | none =>
      simp only [hget] at h
      obtain ⟨bare, hbare, h₁⟩ := check_bind_eq_ok.1 h
      obtain ⟨_, s₁, hsave₁, h₂⟩ := bind_eq_ok.1 h₁
      obtain ⟨_, s₂, hadd, h₃⟩ := bind_eq_ok.1 h₂
      obtain ⟨device, hdevice, hsave₂⟩ := check_bind_eq_ok.1 h₃
      obtain ⟨-, -, -, rfl⟩ := Memory.saveDevice_ok hsave₁
      obtain ⟨hnew, -, rfl⟩ := Memory.addSnapshot_ok hadd
      obtain ⟨-, -, -, rfl⟩ := Memory.saveDevice_ok hsave₂
      obtain ⟨hbareId, -⟩ := Device.eq_of_new hbare
      obtain ⟨hid, hvendor, hcurrent, hbaseline⟩ := Device.eq_of_new hdevice
      refine ⟨device, hnew, rfl, fun id => ?_, hid, hvendor, hcurrent, Or.inl ⟨hget, hbaseline⟩⟩
      change ((s.store.devices.set bare.deviceId bare).set device.deviceId device).get? id = _
      rw [Dict.get?_set, Dict.get?_set, hid, hbareId]
      split_ifs <;> rfl
  | some existing =>
      simp only [hget] at h
      obtain ⟨_, s₁, hadd, h₁⟩ := bind_eq_ok.1 h
      obtain ⟨device, hdevice, hsave⟩ := check_bind_eq_ok.1 h₁
      obtain ⟨hnew, -, rfl⟩ := Memory.addSnapshot_ok hadd
      obtain ⟨hsucceeds, -, -, rfl⟩ := Memory.saveDevice_ok hsave
      obtain ⟨hid, hvendor, hcurrent, hbaseline⟩ := Device.eq_of_new hdevice
      have hdev : device.deviceId = prepared.deviceId := hid.trans (hfiled hget)
      have hvendorSame : device.vendor = existing.vendor := by
        refine (hsucceeds existing ?_).vendor
        rw [hdev]
        exact hget
      refine ⟨device, hnew, rfl, fun id => ?_, hdev, hvendor, hcurrent,
        Or.inr ⟨existing, hget, hvendorSame.symm, hbaseline⟩⟩
      change (s.store.devices.set device.deviceId device).get? id = _
      rw [Dict.get?_set, hdev]

theorem submissionOf_submit (id : String) (command : IngestConfigurationCommand)
    (result : ConfigIngestionResult) :
    submissionOf id (.submitConfiguration command, .ok (.configuration result)) =
      if command.deviceId = id then some ⟨command, result⟩ else none := rfl

section Persists

variable {prepared : ConfigIngestion.PreparedIngestion} {device : Device}

/-- A device that is stored afterwards is the one that was written, or was there. -/
theorem Persists.device_or (h : Persists prepared store store' device) {id : String} {d : Device}
    (hget : store'.devices.get? id = some d) :
    (id = prepared.deviceId ∧ d = device) ∨
      (id ≠ prepared.deviceId ∧ store.devices.get? id = some d) := by
  rw [h.devices] at hget
  split_ifs at hget with hid
  · exact Or.inl ⟨hid, (Option.some.inj hget).symm⟩
  · exact Or.inr ⟨hid, hget⟩

/-- The device that was written has the vendor of the one it replaces. -/
theorem Persists.vendor_eq (h : Persists prepared store store' device) {old : Device}
    (hold : store.devices.get? prepared.deviceId = some old) : device.vendor = old.vendor := by
  rcases h.baseline with ⟨hnone, -⟩ | ⟨existing, hexisting, hvendor, -⟩
  · rw [hnone] at hold
    cases hold
  · rw [hold, Option.some.injEq] at hexisting
    rw [hexisting, hvendor]

/-- What was stored for a device stays stored for its successor. -/
theorem Persists.snapshotStored (h : Persists prepared store store' device)
    {submission : Submission} {d d' : Device} (hid : d'.deviceId = d.deviceId)
    (hvendor : d'.vendor = d.vendor) (hstored : SnapshotStored store d submission) :
    SnapshotStored store' d' submission := by
  obtain ⟨snapshot, hget, hsdev, hsvendor, hrest⟩ := hstored
  refine ⟨snapshot, ?_, hsdev.trans hid.symm, hsvendor.trans hvendor.symm, hrest⟩
  rw [h.snapshots, Dict.get?_set_of_ne _ _ fun heq => ?_]
  · exact hget
  · rw [heq, h.new_snapshot] at hget
    cases hget

end Persists

/-- What a submission prepares: its snapshot, under the id that its result names. -/
structure Prepares (command : IngestConfigurationCommand)
    (prepared : ConfigIngestion.PreparedIngestion) (result : ConfigIngestionResult) : Prop where
  deviceId : prepared.deviceId = command.deviceId
  snapshot_deviceId : prepared.snapshot.deviceId = command.deviceId
  snapshot_vendor : prepared.snapshot.vendor = prepared.canonicalVendor
  snapshot_text : prepared.snapshot.rawConfigText = command.rawConfigText
  snapshot_submittedAt : prepared.snapshot.submittedAt = command.observedAt
  snapshotId : result.snapshotId = prepared.snapshot.snapshotId

section Submitted

variable {command : IngestConfigurationCommand} {result : ConfigIngestionResult}
  {prepared : ConfigIngestion.PreparedIngestion} {device : Device}

theorem submissions_submitted (id : String) :
    submissions id (log ++ [(.submitConfiguration command, .ok (.configuration result))]) =
      submissions id log ++ if command.deviceId = id then [⟨command, result⟩] else [] := by
  rw [submissions_concat, submissionOf_submit]
  split_ifs <;> rfl

/-- The pointers of the device that a submission writes. -/
theorem DeviceRecords.pointers_submitted (h : DeviceRecords log store)
    (hpersists : Persists prepared store store' device)
    (hprepares : Prepares command prepared result) :
    ∃ first : Submission,
      (submissions command.deviceId log ++ [Submission.mk command result]).head? = some first ∧
      device.baselineSnapshotId = some first.result.snapshotId ∧
      device.currentSnapshotId = some result.snapshotId := by
  have hcurrent : device.currentSnapshotId = some result.snapshotId := by
    rw [hpersists.current, hprepares.snapshotId]
  have hnotFrr : device.vendor ≠ .frr := by
    rw [hpersists.vendor, ← hprepares.snapshot_vendor]
    exact prepared.snapshot.vendor_ne_frr
  rcases hpersists.baseline with ⟨hnone, hbaseline⟩ | ⟨existing, hex, hsame, hbaseline⟩
  · -- A device that was not stored has no submissions, so this one is the first.
    have hempty : submissions command.deviceId log = [] := by
      refine List.eq_nil_iff_forall_not_mem.2 fun submission hmem => ?_
      obtain ⟨old, hold, -⟩ := h.stored hmem
      rw [← hprepares.deviceId, hnone] at hold
      cases hold
    rw [hempty]
    refine ⟨⟨command, result⟩, rfl, ?_, hcurrent⟩
    rw [hbaseline, hprepares.snapshotId]
  · rw [hprepares.deviceId] at hex
    obtain ⟨first, latest, hfirst, -, hbase, -⟩ := h.pointers hex (by rwa [hsame])
    refine ⟨first, ?_, hbaseline.trans hbase, hcurrent⟩
    rw [List.head?_append, hfirst]
    rfl

/-- **A successful submission keeps the records.** -/
theorem DeviceRecords.submitted (h : DeviceRecords log store)
    (hpersists : Persists prepared store store' device)
    (hprepares : Prepares command prepared result) :
    DeviceRecords (log ++ [(.submitConfiguration command, .ok (.configuration result))]) store' := by
  have hdev := hprepares.deviceId
  have hnotFrr : device.vendor ≠ .frr := by
    rw [hpersists.vendor, ← hprepares.snapshot_vendor]
    exact prepared.snapshot.vendor_ne_frr
  refine ⟨fun {id d} hget => ?_, fun {id d} hget hvendor => ?_, fun {id submission} hmem => ?_,
    fun {id d} hget hvendor => ?_⟩
  · rcases hpersists.device_or hget with ⟨rfl, rfl⟩ | ⟨-, hold⟩
    · exact hpersists.deviceId
    · exact h.filed hold
  · rw [submissions_submitted]
    rcases hpersists.device_or hget with ⟨rfl, rfl⟩ | ⟨hid, hold⟩
    · obtain ⟨first, hfirst, hbaseline, hcurrent⟩ := h.pointers_submitted hpersists hprepares
      rw [if_pos hdev.symm, hdev]
      exact ⟨first, ⟨command, result⟩, hfirst, List.getLast?_concat .., hbaseline, hcurrent⟩
    · rw [if_neg fun heq => hid (heq.symm.trans hdev.symm), List.append_nil]
      exact h.pointers hold hvendor
  · rw [submissions_submitted, List.mem_append] at hmem
    rcases hmem with hmem | hmem
    · obtain ⟨old, hold, hstored⟩ := h.stored hmem
      by_cases hid : id = prepared.deviceId
      · subst hid
        have hsameId : device.deviceId = old.deviceId := by
          rw [hpersists.deviceId, h.filed hold]
        refine ⟨device, ?_, hpersists.snapshotStored hsameId (hpersists.vendor_eq hold) hstored⟩
        rw [hpersists.devices, if_pos rfl]
      · refine ⟨old, ?_, hpersists.snapshotStored rfl rfl hstored⟩
        rw [hpersists.devices, if_neg hid]
        exact hold
    · split_ifs at hmem with hid
      · obtain rfl := List.mem_singleton.1 hmem
        refine ⟨device, ?_, prepared.snapshot, ?_, ?_, ?_, hprepares.snapshot_text,
          hprepares.snapshot_submittedAt⟩
        · rw [hpersists.devices, if_pos (hid.symm.trans hdev.symm)]
        · rw [hpersists.snapshots, hprepares.snapshotId, Dict.get?_set_self]
        · rw [hprepares.snapshot_deviceId, hpersists.deviceId, hdev]
        · rw [hprepares.snapshot_vendor, hpersists.vendor]
      · exact absurd hmem List.not_mem_nil
  · exact (d.frr_no_snapshots hvendor).symm

end Submitted

end Submits

/-! ### Every request keeps the records -/

section Requests

variable {p : Platform} {s s' : Session}

/-- **Registering a router keeps the records**: it writes a device that points at
nothing, and never over one with a submission. -/
theorem DeviceRecords.registered (h : DeviceRecords log s.store) {observedAt : Datetime}
    {deviceId : String}
    (hrun : (LabDeviceRegistration.registerRouter observedAt deviceId).run s = .ok () s') :
    DeviceRecords log s'.store := by
  obtain ⟨device, hnew, hsave⟩ := check_bind_eq_ok.1 hrun
  obtain ⟨hid, hvendor, -⟩ := Device.eq_of_new hnew
  obtain ⟨hsucceeds, -, -, rfl⟩ := Memory.saveDevice_ok hsave
  have hget : ∀ id, (s.setDevice device).store.devices.get? id =
      if id = device.deviceId then some device else s.store.devices.get? id :=
    fun id => Dict.get?_set ..
  refine ⟨fun {id d} hd => ?_, fun {id d} hd hnotFrr => ?_, fun {id submission} hmem => ?_,
    fun {id d} _ hfrr => (d.frr_no_snapshots hfrr).symm⟩
  · rw [hget] at hd
    split_ifs at hd with heq
    · rw [← Option.some.inj hd, heq]
    · exact h.filed hd
  · rw [hget] at hd
    split_ifs at hd with heq
    · rw [← Option.some.inj hd] at hnotFrr
      exact absurd hvendor hnotFrr
    · exact h.pointers hd hnotFrr
  · obtain ⟨old, hold, hstored⟩ := h.stored hmem
    refine ⟨old, ?_, hstored⟩
    rw [hget, if_neg fun heq => ?_]
    · exact hold
    · rw [heq] at hold
      refine h.not_frr hold (heq ▸ hmem) ?_
      rw [← (hsucceeds old hold).vendor]
      exact hvendor

/-- A registration leaves the platform with the records it had. -/
theorem DeviceRecords.register (h : DeviceRecords log p.committed) (observedAt : Datetime) :
    DeviceRecords log (final (LabDeviceRegistration.register observedAt) p).committed := by
  cases hrun : (LabDeviceRegistration.register observedAt).run p with
  | error e p' =>
      rw [final_of_error hrun]
      rcases check_bind_eq_error.1 hrun with ⟨-, rfl⟩ | ⟨_, -, hrun⟩
      · exact h
      · rw [(allOrNothing_writing fun registered s _ => ⟨_, rfl⟩).raised e p' hrun]
        exact h
  | ok result p' =>
      rw [final_of_ok hrun]
      obtain ⟨_, -, hwriting⟩ := check_bind_eq_ok.1 hrun
      obtain ⟨registered, s, hbody, -, rfl⟩ := unitOfWork_ok hwriting
      obtain ⟨missing, s₁, hmissing, hrest⟩ := bind_eq_ok.1 hbody
      obtain ⟨_, s₂, hregister, hreturn⟩ := bind_eq_ok.1 hrest
      obtain ⟨-, rfl⟩ := pure_eq_ok.1 hreturn
      have hwrites : Writes (tallyIds 'I') [] p.openUnitOfWork s₁ :=
        (OnlyWrites.mapM _ fun deviceId _ =>
          LabDeviceRegistration.onlyWrites_isMissing deviceId).of_ok hmissing
      obtain rfl := hwrites.eq_of_nil
      exact mapM_invariant (fun _ _ s => DeviceRecords log s.store) hregister h
        fun _ _ _ _ _ _ _ hs hround => hs.registered hround

/-- **A submission** raises and changes nothing, or persists what it prepared and
then writes incidents only. -/
theorem ConfigIngestion.ingest_persists {registry : AdapterRegistry} {snapshotIds ids : IdFactory}
    {command : IngestConfigurationCommand} {result : ConfigIngestionResult} {p p' : Platform}
    (hfiled : ∀ {id device}, p.committed.devices.get? id = some device → device.deviceId = id)
    (h : (ingest registry snapshotIds ids command).run p = .ok result p') :
    ∃ prepared p₁ store₁ device, (prepare registry snapshotIds command).run p = .ok prepared p₁ ∧
      Prepares command prepared result ∧ Persists prepared p.committed store₁ device ∧
      p'.committed.devices = store₁.devices ∧ p'.committed.snapshots = store₁.snapshots := by
  obtain ⟨prepared, p₁, hprepare, hwriting⟩ := bind_eq_ok.1 h
  obtain ⟨hcommitted, hdev, hsdev, hsvendor, hstext, hsat⟩ := prepare_ok hprepare
  obtain ⟨done, s, hbody, hfinish, rfl⟩ := unitOfWork_ok hwriting
  obtain ⟨_, s₁, hpersist, hevaluate⟩ := bind_eq_ok.1 hbody
  have hstore : p₁.openUnitOfWork.store = p.committed := hcommitted
  obtain ⟨device, hpersists⟩ := persistDeviceAndSnapshot_ok (fun hget => hfiled (hstore ▸ hget))
    hpersist
  rw [hstore] at hpersists
  have hresult : result.snapshotId = prepared.snapshot.snapshotId := by
    obtain ⟨-, hrest⟩ := requireNonEmpty_bind_eq_ok.1 hfinish
    obtain ⟨-, hrest'⟩ := requireNonEmpty_bind_eq_ok.1 hrest
    obtain ⟨-, hreturn⟩ := raiseIf_bind_eq_ok.1 hrest'
    rw [← Except.ok.inj hreturn]
  have hwrites : Writes ids [.incidents] s₁ s :=
    (onlyWrites_evaluateAndUpsertIncidents prepared command.observedAt).of_ok hevaluate
  exact ⟨prepared, p₁, s₁.store, device, hprepare,
    ⟨hdev, hsdev, hsvendor, hstext, hsat, hresult⟩, hpersists,
    hwrites.same (by decide : Part.devices ∉ _), hwrites.same (by decide : Part.snapshots ∉ _)⟩

/-- **Every answered request keeps the records.** -/
theorem respond_deviceRecords (d : Deployment) (request : Request)
    (h : DeviceRecords log p.committed) :
    DeviceRecords (log ++ [(request, (respond d request p).1)])
      (respond d request p).2.committed := by
  have hprogress := respond_progress d request p
  cases request with
  | submitConfiguration command =>
      unfold respond attempt
      rw [show Request.handle d (.submitConfiguration command) = .configuration <$>
        ConfigIngestion.ingest d.registry d.snapshotIds d.incidentIds command from rfl, run_map_eq]
      cases hrun : (ConfigIngestion.ingest d.registry d.snapshotIds d.incidentIds command).run p with
      | error e p' =>
          refine (h.congr ?_ ?_).logged fun _ => rfl
          · rw [ConfigIngestion.ingest_raised hrun]
          · rw [ConfigIngestion.ingest_raised hrun]
      | ok result p' =>
          obtain ⟨prepared, p₁, store₁, device, -, hprepares, hpersists, hdevices, hsnapshots⟩ :=
            ConfigIngestion.ingest_persists h.filed hrun
          exact (h.submitted hpersists hprepares).congr hdevices hsnapshots
  | registerLabDevices observedAt =>
      refine DeviceRecords.logged ?_ fun _ => rfl
      rw [respond_snd, show Request.handle d (.registerLabDevices observedAt) =
        .registered <$> LabDeviceRegistration.register observedAt from rfl, final_map]
      exact h.register observedAt
  | _ =>
      refine (h.congr ?_ ?_).logged fun _ => rfl
      · exact hprogress.same .devices (by simp [Request.parts])
      · exact hprogress.same .snapshots (by simp [Request.parts])

end Requests

/-! ### The queries -/

section Queries

variable {p p' : Platform} {id : String} {device : Device} {s : Session}

/-- The snapshots of the first and of the latest submission, which the pointers of
a device lead to, are stored. -/
theorem DeviceRecords.pointed (h : DeviceRecords log store)
    (hget : store.devices.get? id = some device) (hvendor : device.vendor ≠ .frr) :
    ∃ first latest, (submissions id log).head? = some first ∧
      (submissions id log).getLast? = some latest ∧
      device.baselineSnapshotId = some first.result.snapshotId ∧
      device.currentSnapshotId = some latest.result.snapshotId ∧
      SnapshotStored store device first ∧ SnapshotStored store device latest := by
  obtain ⟨first, latest, hfirst, hlatest, hbaseline, hcurrent⟩ := h.pointers hget hvendor
  have hstored : ∀ submission ∈ submissions id log, SnapshotStored store device submission := by
    intro submission hmem
    obtain ⟨device', hget', hstored⟩ := h.stored hmem
    rw [hget, Option.some.injEq] at hget'
    rw [hget']
    exact hstored
  exact ⟨first, latest, hfirst, hlatest, hbaseline, hcurrent,
    hstored first (List.mem_of_head? hfirst), hstored latest (List.mem_of_getLast? hlatest)⟩

theorem GetDeviceDrift.requireSnapshot_of_stored {which : String} {submission : Submission}
    (h : SnapshotStored s.store device submission) {β : Type}
    (f : ConfigurationSnapshot → Action β) :
    ∃ snapshot : ConfigurationSnapshot, snapshot.deviceId = device.deviceId ∧
      snapshot.vendor = device.vendor ∧
      (requireSnapshot id which submission.result.snapshotId >>= f).run s = (f snapshot).run s := by
  obtain ⟨snapshot, hget, hdev, hvendor, -⟩ := h
  refine ⟨snapshot, hdev, hvendor, ?_⟩
  unfold requireSnapshot Memory.getSnapshot
  simp only [bind_assoc, get_bind, pure_bind, hget]

/-- **The drift of a device with configurations is always computed.** -/
theorem GetDeviceDrift.body_ok (h : DeviceRecords log s.store)
    (hget : s.store.devices.get? id = some device) (hvendor : device.vendor ≠ .frr) :
    ∃ report, (body id).run s = .ok report s := by
  obtain ⟨first, latest, -, -, hbaseline, hcurrent, hfirst, hlatest⟩ := h.pointed hget hvendor
  unfold body Memory.getDevice
  simp only [bind_assoc, get_bind, pure_bind, hget]
  rw [raiseIf_bind_of_not hvendor, hbaseline,
    check_bind_of_ok (requirePointer_some ..), hcurrent, check_bind_of_ok (requirePointer_some ..)]
  obtain ⟨baseline, -, -, hrun⟩ := requireSnapshot_of_stored hfirst _
  rw [hrun]
  obtain ⟨current, -, -, hrun'⟩ := requireSnapshot_of_stored hlatest _
  rw [hrun']
  obtain ⟨report, hreport⟩ :=
    DriftDetector.compare_eq_ok baseline.normalizedConfig current.normalizedConfig
  refine ⟨report, ?_⟩
  rw [hreport]
  rfl

/-- **The detail of a device is always found.** -/
theorem GetDeviceDetail.body_ok (h : DeviceRecords log s.store)
    (hget : s.store.devices.get? id = some device) :
    ∃ detail, (body id).run s = .ok detail s := by
  unfold body Memory.getDevice
  simp only [bind_assoc, get_bind, pure_bind, hget]
  by_cases hvendor : device.vendor = .frr
  · rw [if_pos hvendor]
    exact ⟨_, rfl⟩
  · rw [if_neg hvendor]
    obtain ⟨first, latest, -, -, -, hcurrent, -, hlatest⟩ := h.pointed hget hvendor
    unfold detailFromCurrentSnapshot
    rw [hcurrent, check_bind_of_ok (GetDeviceDrift.requirePointer_some ..)]
    obtain ⟨current, hdev, hsame, hrun⟩ := GetDeviceDrift.requireSnapshot_of_stored hlatest _
    rw [hrun, raiseIf_bind_of_not (not_not.2 hdev), raiseIf_bind_of_not (not_not.2 hsame)]
    exact ⟨_, rfl⟩

/-- What the two queries of a device can raise: that there is no such device, or
that an FRR router has no drift. -/
structure QueriesAnswer (p : Platform) (id : String) : Prop where
  drift : ∀ e p', (GetDeviceDrift.getDrift id).run p = .error e p' →
    (p.committed.devices.get? id = none ∧ e = .deviceNotFound id) ∨
      ∃ device, p.committed.devices.get? id = some device ∧ device.vendor = .frr ∧
        e = .driftNotApplicable id
  detail : ∀ e p', (GetDeviceDetail.get id).run p = .error e p' →
    p.committed.devices.get? id = none ∧ e = .deviceNotFound id

theorem DeviceRecords.queriesAnswer (h : DeviceRecords log p.committed) (id : String) :
    QueriesAnswer p id := by
  have hstore : DeviceRecords log p.openUnitOfWork.store := h
  constructor
  · intro e p' hrun
    obtain ⟨s, hbody⟩ := reading_error hrun
    cases hget : p.committed.devices.get? id with
    | none =>
        unfold GetDeviceDrift.body Memory.getDevice at hbody
        simp only [bind_assoc, get_bind, pure_bind, Platform.openUnitOfWork_store, hget] at hbody
        exact Or.inl ⟨rfl, (throw_eq_error.1 hbody).1.symm⟩
    | some device =>
        by_cases hvendor : device.vendor = .frr
        · unfold GetDeviceDrift.body Memory.getDevice at hbody
          simp only [bind_assoc, get_bind, pure_bind, Platform.openUnitOfWork_store, hget] at hbody
          rw [check_bind_of_error (raiseIf_eq_error.2 ⟨hvendor, rfl⟩)] at hbody
          cases hbody
          exact Or.inr ⟨device, rfl, hvendor, rfl⟩
        · obtain ⟨report, hok⟩ := GetDeviceDrift.body_ok hstore hget hvendor
          rw [hok] at hbody
          cases hbody
  · intro e p' hrun
    obtain ⟨s, hbody⟩ := reading_error hrun
    cases hget : p.committed.devices.get? id with
    | none =>
        unfold GetDeviceDetail.body Memory.getDevice at hbody
        simp only [bind_assoc, get_bind, pure_bind, Platform.openUnitOfWork_store, hget] at hbody
        exact ⟨rfl, (throw_eq_error.1 hbody).1.symm⟩
    | some device =>
        obtain ⟨detail, hok⟩ := GetDeviceDetail.body_ok hstore hget
        rw [hok] at hbody
        cases hbody

end Queries

/-! ### Runs -/

/-- What later requests keep of a store's devices and snapshots. -/
structure DevicesKept (store store' : Store) : Prop where
  device : ∀ {id device}, store.devices.get? id = some device →
    ∃ device', store'.devices.get? id = some device' ∧ device'.vendor = device.vendor ∧
      device'.createdAt = device.createdAt ∧
      device'.baselineSnapshotId = device.baselineSnapshotId ∧
      device.updatedAt ≤ device'.updatedAt
  snapshot : ∀ {id snapshot}, store.snapshots.get? id = some snapshot →
    store'.snapshots.get? id = some snapshot

/-- The baseline of a device with configurations is set, and that of a router never is,
so neither changes. -/
theorem DevicesKept.of_later {log' : List (Request × Except Error Reply)} {p p' : Platform}
    (h : Later p.openUnitOfWork p'.openUnitOfWork) (hp : DeviceRecords log p.committed)
    (hp' : DeviceRecords log' p'.committed) : DevicesKept p.committed p'.committed where
  device := fun {id device} hget => by
    obtain ⟨device', hget', hsucceeds⟩ := h.devices hget
    refine ⟨device', hget', hsucceeds.vendor, hsucceeds.createdAt, ?_, hsucceeds.updatedAt_le⟩
    by_cases hvendor : device.vendor = .frr
    · rw [(hp.frr hget hvendor).1, (hp'.frr hget' (hsucceeds.vendor.trans hvendor)).1]
    · obtain ⟨first, latest, -, -, hbaseline, -⟩ := hp.pointers hget hvendor
      refine hsucceeds.baseline ?_
      rw [hbaseline]
      exact Option.some_ne_none _
  snapshot := h.snapshots

theorem deviceRecords_of_run (d : Deployment) (requests : List Request) :
    DeviceRecords (serve (respond d) requests .initial).1 (platformAfter d requests).committed :=
  serve_invariant (respond d) (P := fun log p => DeviceRecords log p.committed) requests
    ⟨nofun, nofun, nofun, nofun⟩ fun _ _ request _ h => respond_deviceRecords d request h

theorem later_of_run (d : Deployment) (p : Platform) (requests : List Request) :
    Later p.openUnitOfWork (serve (respond d) requests p).2.openUnitOfWork :=
  serve_invariant (respond d) (P := fun _ p' => Later p.openUnitOfWork p'.openUnitOfWork) requests
    (.refl _) fun _ p' request _ h => h.trans (respond_progress d request p').later

/-- **Devices and snapshots through any run.**  After any requests, answered or
turned away, the pointers of every device are its first and its latest
successful submission, whose snapshots are stored; the queries find them; and
whatever is requested next keeps each device's vendor, creation time and
baseline, moves its update time forward only, and keeps every snapshot. -/
theorem device_records_through_runs (d : Deployment) (requests : List Request) :
    DeviceRecords (serve (respond d) requests .initial).1 (platformAfter d requests).committed ∧
    (∀ id, QueriesAnswer (platformAfter d requests) id) ∧
    (∀ next, DevicesKept (platformAfter d requests).committed
      (platformAfter d (requests ++ next)).committed) := by
  have hrecords := deviceRecords_of_run d requests
  refine ⟨hrecords, hrecords.queriesAnswer, fun next => ?_⟩
  have hlater := later_of_run d (platformAfter d requests) next
  have hsame : (serve (respond d) next (platformAfter d requests)).2 =
      platformAfter d (requests ++ next) := by
    rw [platformAfter, platformAfter, serve_append]
  rw [hsame] at hlater
  exact .of_later hlater hrecords (deviceRecords_of_run d (requests ++ next))

end MetaRne
