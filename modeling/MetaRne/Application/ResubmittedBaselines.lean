/-
# Resubmitting a baseline

What a stored snapshot holds is what an adapter of its device's vendor made of its
text, through any run (`snapshotsParsed_of_run`).  So where the first and the latest
text of a device are the same, its drift is that of one parsed configuration against
itself (`drift_of_resubmission`).

A configuration whose names are unique has no drift against itself.  The adapters keep
interfaces and ACLs by name, but not BGP neighbours, and so a text that states a
neighbour twice is accepted with two neighbours of one address: `selfConsistent_iff`
says that these are the only texts that fail.
-/

import MetaRne.Adapters.NeighborStatements
import MetaRne.Application.DeviceRecords
import MetaRne.Detection.DriftExactness

namespace MetaRne

open Library Library.Effect Library.Runs Python

/-! ### Snapshots hold parsed texts -/

/-- Every stored snapshot is its text, parsed by the adapter of its vendor. -/
def SnapshotsParsed (registry : AdapterRegistry) (store : Store) : Prop :=
  ∀ id snapshot, store.snapshots.get? id = some snapshot → ∃ adapter,
    registry.resolve snapshot.vendor.value = .ok adapter ∧
      adapter.parse snapshot.rawConfigText = .ok (.inl snapshot.normalizedConfig)

theorem VendorType.value_of_ofValue {value : String} {vendor : VendorType}
    (h : VendorType.ofValue value = .ok vendor) : vendor.value = value := by
  unfold VendorType.ofValue at h
  split at h
  · next found hfind =>
    cases h
    simpa using List.find?_some hfind
  · cases h

theorem AdapterRegistry.vendorId_of_resolve {registry : AdapterRegistry} {vendor : String}
    {adapter : VendorConfigAdapter} (h : registry.resolve vendor = .ok adapter) :
    adapter.vendorId = vendor := by
  unfold AdapterRegistry.resolve at h
  split at h
  · next found hfind =>
    cases h
    simpa using List.find?_some hfind
  · cases h

/-- A prepared snapshot is its text, parsed. -/
theorem ConfigIngestion.parsed_of_prepare {registry : AdapterRegistry} {snapshotIds : IdFactory}
    {command : IngestConfigurationCommand} {prepared : PreparedIngestion} {p p' : Platform}
    (h : (prepare registry snapshotIds command).run p = .ok prepared p') :
    ∃ adapter, registry.resolve prepared.snapshot.vendor.value = .ok adapter ∧
      adapter.parse prepared.snapshot.rawConfigText =
        .ok (.inl prepared.snapshot.normalizedConfig) := by
  obtain ⟨adapter, hresolve, hparse⟩ := check_bind_eq_ok.1 h
  obtain ⟨verdict, hverdict, hrequire⟩ := check_bind_eq_ok.1 hparse
  obtain ⟨parsed, hparsed, hvendor⟩ := check_bind_eq_ok.1 hrequire
  obtain ⟨vendor, hofValue, hdraw⟩ := check_bind_eq_ok.1 hvendor
  obtain ⟨snapshotId, p₁, -, hchecks⟩ := bind_eq_ok.1 hdraw
  obtain ⟨_, -, hbuild⟩ := check_bind_eq_ok.1 hchecks
  obtain ⟨snapshot, hnew, hreturn⟩ := check_bind_eq_ok.1 hbuild
  obtain ⟨rfl, -⟩ := pure_eq_ok.1 hreturn
  obtain ⟨-, hsvendor, htext, hconfig, -⟩ := ConfigurationSnapshot.eq_of_new hnew
  have hvalue : snapshot.vendor.value = command.vendor := by
    rw [hsvendor, VendorType.value_of_ofValue hofValue,
      AdapterRegistry.vendorId_of_resolve hresolve]
  refine ⟨adapter, by rw [hvalue, hresolve], ?_⟩
  rw [htext, hverdict, hconfig]
  unfold requireParsed at hparsed
  split at hparsed
  · cases hparsed
    rfl
  · cases hparsed

/-- **Every answered request keeps the snapshots parsed.** -/
theorem respond_snapshotsParsed (d : Deployment) (request : Request) {p : Platform}
    {log : List (Request × Except Error Reply)} (hrecords : DeviceRecords log p.committed)
    (h : SnapshotsParsed d.registry p.committed) :
    SnapshotsParsed d.registry (respond d request p).2.committed := by
  intro id snapshot hget
  by_cases hsame : (respond d request p).2.committed.snapshots = p.committed.snapshots
  · rw [hsame] at hget
    exact h id snapshot hget
  · cases request with
    | submitConfiguration command =>
        rw [respond_snd, show Request.handle d (.submitConfiguration command) = .configuration <$>
          ConfigIngestion.ingest d.registry d.snapshotIds d.incidentIds command from rfl,
          final_map] at hget hsame
        cases hrun : (ConfigIngestion.ingest d.registry d.snapshotIds d.incidentIds command).run p
        with
        | error e p' =>
            rw [final_of_error hrun] at hsame
            exact absurd (by rw [ConfigIngestion.ingest_raised hrun]) hsame
        | ok result p' =>
            obtain ⟨prepared, p₁, store₁, device, hprepare, -, hpersists, -, hsnapshots⟩ :=
              ConfigIngestion.ingest_persists hrecords.filed hrun
            rw [final_of_ok hrun, hsnapshots, hpersists.snapshots, Dict.get?_set] at hget
            split_ifs at hget with hid
            · rw [← Option.some.inj hget]
              exact ConfigIngestion.parsed_of_prepare hprepare
            · exact h id snapshot hget
    | _ =>
        refine absurd ((respond_progress d _ p).same .snapshots ?_) hsame
        simp [Request.parts]

theorem snapshotsParsed_of_run (d : Deployment) (requests : List Request) :
    SnapshotsParsed d.registry (platformAfter d requests).committed := by
  have hrecords : DeviceRecords [] Platform.initial.committed := ⟨nofun, nofun, nofun, nofun⟩
  have hparsed : SnapshotsParsed d.registry Platform.initial.committed := fun _ _ hget => nomatch hget
  have hboth := serve_invariant (respond d)
    (P := fun log p => DeviceRecords log p.committed ∧ SnapshotsParsed d.registry p.committed)
    requests ⟨hrecords, hparsed⟩ fun _ _ request _ h =>
      ⟨respond_deviceRecords d request h.1, respond_snapshotsParsed d request h.1 h.2⟩
  exact hboth.2

/-- The snapshot that a pointer leads to is the submitted text, parsed. -/
theorem exists_snapshot {registry : AdapterRegistry} {s : Session} {device : Device}
    {submission : Submission} {adapter : VendorConfigAdapter} {config : NormalizedConfiguration}
    (hparsed : SnapshotsParsed registry s.store)
    (hstored : SnapshotStored s.store device submission)
    (hadapter : registry.resolve device.vendor.value = .ok adapter)
    (hconfig : adapter.parse submission.command.rawConfigText = .ok (.inl config)) :
    ∃ snapshot, s.store.snapshots.get? submission.result.snapshotId = some snapshot ∧
      snapshot.normalizedConfig = config := by
  obtain ⟨snapshot, hget, -, hvendor, htext, -⟩ := hstored
  obtain ⟨adapter', hadapter', hconfig'⟩ := hparsed _ _ hget
  rw [hvendor, hadapter, Except.ok.injEq] at hadapter'
  rw [← hadapter', htext, hconfig, Except.ok.injEq, Sum.inl.injEq] at hconfig'
  exact ⟨snapshot, hget, hconfig'.symm⟩

theorem GetDeviceDrift.requireSnapshot_of_get? {s : Session} {deviceId which snapshotId : String}
    {snapshot : ConfigurationSnapshot} (h : s.store.snapshots.get? snapshotId = some snapshot)
    {β : Type} (f : ConfigurationSnapshot → Action β) :
    (requireSnapshot deviceId which snapshotId >>= f).run s = (f snapshot).run s := by
  unfold requireSnapshot Memory.getSnapshot
  simp only [bind_assoc, get_bind, pure_bind, h]

/-- **Where the first and the latest text are the same, the drift is that of one
configuration against itself.** -/
theorem drift_of_resubmission {d : Deployment} {requests : List Request} {id : String}
    {device : Device} {first latest : Submission} {adapter : VendorConfigAdapter}
    {config : NormalizedConfiguration} {report : DriftReport}
    (hget : (platformAfter d requests).committed.devices.get? id = some device)
    (hfirst : (submissions id (serve (respond d) requests .initial).1).head? = some first)
    (hlatest : (submissions id (serve (respond d) requests .initial).1).getLast? = some latest)
    (hsame : latest.command.rawConfigText = first.command.rawConfigText)
    (hadapter : d.registry.resolve device.vendor.value = .ok adapter)
    (hconfig : adapter.parse first.command.rawConfigText = .ok (.inl config))
    (hcompare : DriftDetector.compare config config = .ok report) :
    (GetDeviceDrift.getDrift id).run (platformAfter d requests) =
      .ok report (platformAfter d requests) := by
  have hrecords := deviceRecords_of_run d requests
  have hparsed := snapshotsParsed_of_run d requests
  have hvendor : device.vendor ≠ .frr := hrecords.not_frr hget (List.mem_of_head? hfirst)
  obtain ⟨first', latest', hfirst', hlatest', hbaseline, hcurrent, hstored, hstored'⟩ :=
    hrecords.pointed hget hvendor
  rw [hfirst, Option.some.injEq] at hfirst'
  rw [hlatest, Option.some.injEq] at hlatest'
  subst hfirst' hlatest'
  obtain ⟨baseline, hbget, hbconfig⟩ :=
    exists_snapshot (s := (platformAfter d requests).openUnitOfWork) hparsed hstored hadapter hconfig
  obtain ⟨current, hcget, hcconfig⟩ :=
    exists_snapshot (s := (platformAfter d requests).openUnitOfWork) hparsed hstored' hadapter
      (hsame ▸ hconfig)
  refine reading_ok ?_
  unfold GetDeviceDrift.body Memory.getDevice
  simp only [bind_assoc, get_bind, pure_bind, Platform.openUnitOfWork_store, hget]
  rw [raiseIf_bind_of_not hvendor, hbaseline, check_bind_of_ok (GetDeviceDrift.requirePointer_some ..),
    hcurrent, check_bind_of_ok (GetDeviceDrift.requirePointer_some ..),
    GetDeviceDrift.requireSnapshot_of_get? hbget, GetDeviceDrift.requireSnapshot_of_get? hcget,
    hbconfig, hcconfig, hcompare]
  rfl

/-! ### A configuration against itself -/

/-- **A configuration is consistent with itself**: the names that it is compared by are
unique, and it has no drift against itself. -/
structure SelfConsistent (config : NormalizedConfiguration) : Prop where
  uniqueNames : DriftDetector.UniqueNames config
  noDrift : DriftDetector.compare config config = .ok ⟨[], [], []⟩

/-- Whenever a device of the dialect's vendor was first and last submitted with a text,
its drift report is empty. -/
def ResubmitsWithoutDrift (d : Dialect) (text : String) : Prop :=
  ∀ (deployment : Deployment), deployment.registry = adapterRegistry →
    ∀ (requests : List Request) (id : String) (device : Device) (first latest : Submission),
      (platformAfter deployment requests).committed.devices.get? id = some device →
      device.vendor.value = d.vendorId →
      (submissions id (serve (respond deployment) requests .initial).1).head? = some first →
      (submissions id (serve (respond deployment) requests .initial).1).getLast? = some latest →
      first.command.rawConfigText = text → latest.command.rawConfigText = text →
      (GetDeviceDrift.getDrift id).run (platformAfter deployment requests) =
        .ok ⟨[], [], []⟩ (platformAfter deployment requests)

/-- Unique names leave nothing to report of a configuration against itself. -/
theorem selfConsistent_of_uniqueNames {config : NormalizedConfiguration}
    (h : DriftDetector.UniqueNames config) : SelfConsistent config := by
  obtain ⟨report, hcompare, hexact⟩ := DriftDetector.exact_compare h h
  refine ⟨h, ?_⟩
  rw [hcompare, hexact.empty_iff.2 fun _ _ => rfl]

theorem resolve_dialect {d : Dialect} (hd : d = CiscoAdapter.dialect ∨ d = AristaAdapter.dialect) :
    adapterRegistry.resolve d.vendorId = .ok d.adapter := by
  rcases hd with rfl | rfl
  · rfl
  · rfl

/-- **Drift self-consistency from text.**  For a text that the Cisco or the Arista
adapter accepts as a configuration, the configuration is consistent with itself, and
resubmitting the text leaves no drift, exactly where the addresses that the text
states BGP neighbours for are distinct. -/
theorem selfConsistent_iff {d : Dialect}
    (hd : d = CiscoAdapter.dialect ∨ d = AristaAdapter.dialect) {text : String}
    {config : NormalizedConfiguration} (h : d.adapter.accepted? text = some config) :
    SelfConsistent config ∧ ResubmitsWithoutDrift d text ↔ (d.neighborAddresses text).Nodup := by
  have hparse : d.parse text = .ok (.inl config) := VendorConfigAdapter.accepted?_eq_some.1 h
  rw [← Dialect.nodup_neighborIps_iff hparse]
  refine ⟨fun hconsistent => hconsistent.1.uniqueNames.neighbors, fun hneighbors => ?_⟩
  have hself := selfConsistent_of_uniqueNames
    ⟨Dialect.nodup_interfaceNames hparse, hneighbors, Dialect.nodup_aclNames hparse⟩
  refine ⟨hself, ?_⟩
  intro deployment hregistry requests id device first latest hget hvendor hfirst hlatest htext htext'
  have hadapter : deployment.registry.resolve device.vendor.value = .ok d.adapter := by
    rw [hregistry, hvendor, resolve_dialect hd]
  exact drift_of_resubmission hget hfirst hlatest (htext'.trans htext.symm) hadapter
    (htext ▸ hparse) hself.noDrift

/-! ### One text -/

/-- A neighbour stated twice, with two AS numbers. -/
def repeatedNeighborText : String :=
  "hostname edge-1\nrouter bgp 65000\n neighbor 10.0.0.2 remote-as 65001\n" ++
    " neighbor 10.0.0.2 remote-as 65002\n"

/-- What either adapter makes of it. -/
def repeatedNeighborConfig : NormalizedConfiguration where
  hostname := "edge-1"
  interfaces := []
  routing := ⟨[⟨"10.0.0.2", 65001⟩, ⟨"10.0.0.2", 65002⟩]⟩
  acls := []

set_option maxRecDepth 20000 in
/-- Both adapters accept the text, with two neighbours of one address, and compared with
itself the configuration has drifted. -/
theorem not_selfConsistent_repeatedNeighbor :
    CiscoAdapter.adapter.accepted? repeatedNeighborText = some repeatedNeighborConfig ∧
      AristaAdapter.adapter.accepted? repeatedNeighborText = some repeatedNeighborConfig ∧
      ¬ (repeatedNeighborConfig.routing.bgpNeighbors.map (·.neighborIp)).Nodup ∧
      (DriftDetector.compare repeatedNeighborConfig repeatedNeighborConfig).toOption =
        some ⟨[], [], [⟨"bgp_neighbor:10.0.0.2", some "remote_as", some "65001", some "65002"⟩]⟩ := by
  have htext : repeatedNeighborText.toList = _ :=
    toList_append_eq String.toList_ofList String.toList_ofList
  refine ⟨?_, ?_, by decide, by decide +kernel⟩
  · exact (CiscoAdapter.dialect.accepted?_eq_of_toList htext).trans (by decide +kernel)
  · exact (AristaAdapter.dialect.accepted?_eq_of_toList htext).trans (by decide +kernel)

/-- The same neighbour stated once. -/
def singleNeighborText : String :=
  "hostname edge-1\nrouter bgp 65000\n neighbor 10.0.0.2 remote-as 65001\n"

/-- What the Arista adapter makes of it. -/
def singleNeighborConfig : NormalizedConfiguration where
  hostname := "edge-1"
  interfaces := []
  routing := ⟨[⟨"10.0.0.2", 65001⟩]⟩
  acls := []

set_option maxRecDepth 20000 in
/-- Stated once, the neighbour leaves no drift. -/
theorem selfConsistent_singleNeighbor :
    AristaAdapter.adapter.accepted? singleNeighborText = some singleNeighborConfig ∧
      SelfConsistent singleNeighborConfig := by
  have htext : singleNeighborText.toList = _ := String.toList_ofList
  have haccepted : AristaAdapter.adapter.accepted? singleNeighborText =
      some singleNeighborConfig :=
    (AristaAdapter.dialect.accepted?_eq_of_toList htext).trans (by decide +kernel)
  exact ⟨haccepted, ((selfConsistent_iff (Or.inr rfl) haccepted).2 (by decide +kernel)).1⟩

end MetaRne
