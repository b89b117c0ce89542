/-
# The engine returns

The engine as the source writes it, with every constructor that may reject its
arguments, every lookup that may miss and every address that may not parse: each of
them raises here.  None of them does on a fabric, whose fields have passed the checks
of their own constructors; what is returned is what the engine of `Engine` builds
together with its proofs (`buildDiagnoses_eq_ok`).
-/

import MetaRne.Diagnosis.LinkDiagnoses

namespace MetaRne
namespace DiagnosisEngine

open Library.Effect Python

/-- `ip_interface(address)`: the text of the address, if it is an IPv4 one. -/
def ipInterface (address : String) : Except Error (Option String) :=
  if isIpInterface address then .ok (ipv4InterfaceIp? address)
  else .error (.valueError "%r does not appear to be an IPv4 or IPv6 interface" [address])

/-- `LAB1_NODE_DEVICE_IDS[node_id]`. -/
def deviceIdOf (nodeId : String) : Except Error String :=
  match lab1DeviceId? nodeId with
  | some deviceId => .ok deviceId
  | none => .error (.keyError nodeId)

/-- `_observed_ipv4`. -/
def parseObservedIpv4 (interface : InterfaceObservation) : Except Error (List String) := do
  let parsed ← interface.addresses.mapM ipInterface
  return (parsed.filterMap id).insertionSort fun a b => a ≤ b

/-- `_address_matches`. -/
def parseAddressMatches (view : EndView) : Except Error (List String × Option Bool) :=
  match view.interface with
  | none => .ok ([], none)
  | some interface => do
    match ← parseObservedIpv4 interface with
    | [] => return ([], none)
    | observed => return (observed, some (observed.contains view.endpoint.address))

/-! ### Evidence -/

/-- `_interface_item`. -/
def buildInterfaceItem (dtype : DiagnosisType) (view : EndView) : Except Error EvidenceItem :=
  EvidenceItem.new .interfaceState view.endpoint.nodeId view.endpoint.interfaceName
    (.interfaceState ⟨view.endpoint.interfaceName, view.interfaceState⟩)
    (interfaceRole dtype view.interfaceState)

/-- `_bgp_item`. -/
def buildBgpItem (view : EndView) : Except Error EvidenceItem :=
  EvidenceItem.new .bgpSession view.endpoint.nodeId (bgpNeighborResource view.peer.address)
    (.bgpSession ⟨view.peer.address, view.bgpState,
      view.neighbor.bind fun neighbor => neighbor.rawState⟩)
    (bgpRole view.bgpState)

/-- `_address_item`. -/
def buildAddressItem (view : EndView) : Except Error EvidenceItem := do
  let (observed, matched) ← parseAddressMatches view
  EvidenceItem.new .addressMatch view.endpoint.nodeId view.endpoint.interfaceName
    (.addressMatch ⟨view.endpoint.interfaceName, view.endpoint.address, observed, matched⟩)
    (match matched with
      | none => .unknown
      | some true => .supports
      | some false => .contradicts)

/-- `_next_hop_item`. -/
def buildNextHopItem (view : EndView) : Except Error EvidenceItem :=
  let count := view.node.bind fun node =>
    if node.isUnavailable .routes then none
    else some (node.routes.countP fun route =>
      route.nextHops.any fun nextHop => nextHop.ip == some view.peer.address)
  EvidenceItem.new .routeNextHop view.endpoint.nodeId ("next-hop:" ++ view.peer.address)
    (.routeNextHop ⟨view.peer.address, view.endpoint.interfaceName, count⟩)
    (if count = some 0 then .supports else .unknown)

/-- One item of `_ecmp_items`. -/
def buildEcmpItem (fabric : FabricOperationalState) (expectation : EcmpExpectation)
    (linkNextHop : String) : Except Error EvidenceItem :=
  let routes := (fabric.node? expectation.nodeId).bind fun node =>
    if node.isUnavailable .routes then none
    else some (node.routes.filter fun route =>
      route.prefixText == expectation.prefixText && route.protocol == "bgp")
  let count := routes.map fun routes => (routes.map fun route => route.nextHops.length).sum
  let pathPresent := routes.map fun routes => routes.any fun route =>
    route.nextHops.any fun nextHop => nextHop.ip == some linkNextHop
  EvidenceItem.new .ecmpPaths expectation.nodeId expectation.prefixText
    (.ecmpPaths ⟨expectation.prefixText, count, expectation.expectedPathCount, linkNextHop,
      pathPresent⟩)
    (if pathPresent = some false then .supports else .unknown)

/-- `_ecmp_items`. -/
def buildEcmpItems (fabric : FabricOperationalState) (link : PhysicalLink) :
    Except Error (List EvidenceItem) :=
  (lab1EcmpExpectations.filterMap fun expectation =>
    (ecmpNextHopLostWithLink expectation link).map fun nextHop => (expectation, nextHop)).mapM
      fun lost => buildEcmpItem fabric lost.1 lost.2

/-- The item of a host whose probes were not observed. -/
def buildUnobservedItem (hostId : String) : Except Error EvidenceItem :=
  EvidenceItem.new .reachability hostId "reachability" (.reachability ⟨"", none, none⟩) .unknown

/-- The item of a probe. -/
def buildProbeItem (hostId : String) (probe : ReachabilityObservation) :
    Except Error EvidenceItem :=
  EvidenceItem.new .reachability hostId probe.target
    (.reachability ⟨probe.target, some probe.sent, some probe.received⟩)
    (if probe.succeeded then .unknown else .supports)

/-- The items of one host. -/
def buildHostReachabilityItems (fabric : FabricOperationalState) (hostId : String) :
    Except Error (List EvidenceItem) :=
  match fabric.node? hostId with
  | none => List.singleton <$> buildUnobservedItem hostId
  | some node =>
    if node.isUnavailable .reachability || node.reachability.isEmpty then
      List.singleton <$> buildUnobservedItem hostId
    else node.reachability.mapM (buildProbeItem hostId)

/-- `_reachability_items`. -/
def buildReachabilityItems (fabric : FabricOperationalState) : Except Error (List EvidenceItem) := do
  let items ← lab1HostNodeIds.mapM (buildHostReachabilityItems fabric)
  return items.flatten

/-! ### Diagnoses -/

/-- The symptom keys of the ends whose session is down. -/
def buildSymptomKeys (views : List EndView) : Except Error (List SymptomKey) := do
  let keys ← (views.filter fun view => view.bgpState == .down).mapM fun view => do
    let deviceId ← deviceIdOf view.endpoint.nodeId
    SymptomKey.new deviceId (bgpNeighborResource view.peer.address)
  return keys.dedup.insertionSort fun a b => a.deviceId < b.deviceId ∨
    (a.deviceId = b.deviceId ∧ a.affectedResource ≤ b.affectedResource)

/-- The evidence about the ends themselves. -/
def buildEndEvidence (dtype : DiagnosisType) (a b : EndView) : Except Error (List EvidenceItem) :=
  [buildInterfaceItem dtype a, buildInterfaceItem dtype b, buildBgpItem a, buildBgpItem b,
    buildAddressItem a, buildAddressItem b].mapM id

/-- The evidence that only an attributed fault has. -/
def buildContext (fabric : FabricOperationalState) (link : PhysicalLink) (dtype : DiagnosisType)
    (a b : EndView) : Except Error (List EvidenceItem) :=
  if dtype ≠ .insufficientEvidence then do
    let nextHops ← [a, b].mapM buildNextHopItem
    let paths ← buildEcmpItems fabric link
    let probes ← buildReachabilityItems fabric
    return nextHops ++ paths ++ probes
  else .ok []

/-- `_diagnose_link`. -/
def buildDiagnosis (fabric : FabricOperationalState) (link : RouterLink) :
    Except Error (Option Diagnosis) :=
  let a := (views fabric link).1
  let b := (views fabric link).2
  if isSymptomatic a b = false then .ok none
  else do
    let classified := classify [a.interfaceState, b.interfaceState] [a.bgpState, b.bgpState]
    let dtype := classified.1
    let ends ← buildEndEvidence dtype a b
    let confidence :=
      if addressConflict ends then classified.2.map capAtMedium else classified.2
    let context ← buildContext fabric link.1 dtype a b
    let symptomKeys ← buildSymptomKeys [a, b]
    let resource ← LinkRef.new link.1.endpointA.nodeId link.1.endpointA.interfaceName
      link.1.endpointB.nodeId link.1.endpointB.interfaceName
    some <$> Diagnosis.new dtype resource confidence ((ends ++ context).insertionSort evidenceLe)
      symptomKeys fabric.collectionId (.utc fabric.collectedAt)

/-- `DeterministicDiagnosisEngine.diagnose`. -/
def buildDiagnoses (fabric : FabricOperationalState) : Except Error (List Diagnosis) := do
  let diagnoses ← lab1RouterLinks.mapM (buildDiagnosis fabric)
  return (diagnoses.filterMap id).insertionSort fun a b =>
    a.resource.resourceId ≤ b.resource.resourceId

/-! ### Nothing raises -/

section Returns

variable (fabric : FabricOperationalState)

/-- The addresses of an interface were parsed before. -/
theorem parseObservedIpv4_eq_ok (interface : InterfaceObservation) :
    parseObservedIpv4 interface = .ok (observedIpv4 interface) := by
  have hparsed : interface.addresses.mapM ipInterface =
      .ok (interface.addresses.map ipv4InterfaceIp?) :=
    except_mapM_eq_map fun address hmem => if_pos (interface.addresses_valid address hmem)
  refine except_bind_eq_ok.2 ⟨_, hparsed, ?_⟩
  rw [List.filterMap_map]
  rfl

theorem parseAddressMatches_eq_ok (view : EndView) :
    parseAddressMatches view = .ok (addressMatches view) := by
  unfold parseAddressMatches addressMatches
  cases view.interface with
  | none => rfl
  | some interface =>
      refine except_bind_eq_ok.2 ⟨_, parseObservedIpv4_eq_ok interface, ?_⟩
      dsimp only
      cases observedIpv4 interface with
      | nil => rfl
      | cons address addresses => rfl

theorem buildAddressItem_eq_ok (view : EndView) :
    buildAddressItem view = .ok (addressItem view) :=
  except_bind_eq_ok.2 ⟨_, parseAddressMatches_eq_ok view, EvidenceItem.new_eq_ok (addressItem view)⟩

theorem buildEndEvidence_eq_ok (dtype : DiagnosisType) (a b : EndView) :
    buildEndEvidence dtype a b = .ok (endEvidence dtype a b) := by
  have hinterface : ∀ view, buildInterfaceItem dtype view = .ok (interfaceItem dtype view) :=
    fun view => EvidenceItem.new_eq_ok (interfaceItem dtype view)
  have hbgp : ∀ view, buildBgpItem view = .ok (bgpItem view) :=
    fun view => EvidenceItem.new_eq_ok (bgpItem view)
  unfold buildEndEvidence
  rw [hinterface, hinterface, hbgp, hbgp, buildAddressItem_eq_ok, buildAddressItem_eq_ok]
  rfl

theorem buildEcmpItems_eq_ok (link : PhysicalLink) :
    buildEcmpItems fabric link = .ok (ecmpItems fabric link) := by
  have hitem : ∀ lost : EcmpExpectation × String,
      buildEcmpItem fabric lost.1 lost.2 = .ok (ecmpItem fabric lost.1 lost.2) :=
    fun lost => EvidenceItem.new_eq_ok (ecmpItem fabric lost.1 lost.2)
  unfold buildEcmpItems ecmpItems
  rw [except_mapM_eq_map fun lost _ => hitem lost, List.map_filterMap]
  refine congrArg Except.ok (List.filterMap_congr fun expectation _ => ?_)
  rw [Option.map_map]
  rfl

theorem buildHostReachabilityItems_eq_ok {hostId : String} (h : isBlank hostId = false) :
    buildHostReachabilityItems fabric hostId = .ok (hostReachabilityItems fabric hostId h) := by
  have hunobserved : List.singleton <$> buildUnobservedItem hostId =
      .ok [unobservedReachabilityItem hostId h] :=
    congrArg (List.singleton <$> ·) (EvidenceItem.new_eq_ok (unobservedReachabilityItem hostId h))
  unfold buildHostReachabilityItems hostReachabilityItems
  cases fabric.node? hostId with
  | none => exact hunobserved
  | some node =>
      dsimp only
      split_ifs
      · exact hunobserved
      · exact except_mapM_eq_map fun probe _ => EvidenceItem.new_eq_ok (probeItem hostId h probe)

theorem buildReachabilityItems_eq_ok :
    buildReachabilityItems fabric = .ok (reachabilityItems fabric) := by
  have hitems : lab1HostNodeIds.mapM (buildHostReachabilityItems fabric) =
      .ok (lab1HostNodeIds.attach.map fun hostId =>
        hostReachabilityItems fabric hostId.1 (lab1HostNodeIds_not_blank hostId.1 hostId.2)) := by
    have hall : lab1HostNodeIds.attach.mapM (fun hostId =>
        buildHostReachabilityItems fabric hostId.1) = _ := except_mapM_eq_map fun hostId _ =>
      buildHostReachabilityItems_eq_ok fabric (lab1HostNodeIds_not_blank hostId.1 hostId.2)
    rw [← hall, List.mapM_subtype fun _ _ => rfl, List.unattach_attach]
  exact except_bind_eq_ok.2 ⟨_, hitems, congrArg Except.ok List.flatMap_def.symm⟩

/-- The ends of a link between routers have devices. -/
theorem buildSymptomKeys_eq_ok (views : List EndView) :
    buildSymptomKeys views = .ok (symptomKeys views) := by
  have hkey : ∀ view : EndView, (do
      let deviceId ← deviceIdOf view.endpoint.nodeId
      SymptomKey.new deviceId (bgpNeighborResource view.peer.address)) = .ok (symptomKey view) := by
    intro view
    have hdevice : deviceIdOf view.endpoint.nodeId =
        .ok ((lab1DeviceId? view.endpoint.nodeId).get view.device_known) := by
      unfold deviceIdOf
      split
      · next deviceId hsome => simp only [hsome, Option.get_some]
      · next hnone =>
        have hknown := view.device_known
        rw [hnone] at hknown
        cases hknown
    exact except_bind_eq_ok.2 ⟨_, hdevice, SymptomKey.new_eq_ok (symptomKey view)⟩
  exact except_bind_eq_ok.2 ⟨_, except_mapM_eq_map fun view _ => hkey view, rfl⟩

theorem buildContext_eq_ok (link : PhysicalLink) (dtype : DiagnosisType) (a b : EndView) :
    buildContext fabric link dtype a b = .ok (if dtype ≠ .insufficientEvidence then
      [nextHopItem a, nextHopItem b] ++ ecmpItems fabric link ++ reachabilityItems fabric
      else []) := by
  have hnextHops : [a, b].mapM buildNextHopItem = .ok ([a, b].map nextHopItem) :=
    except_mapM_eq_map fun view _ => EvidenceItem.new_eq_ok (nextHopItem view)
  unfold buildContext
  split_ifs
  swap
  · rfl
  exact except_bind_eq_ok.2 ⟨_, hnextHops, except_bind_eq_ok.2 ⟨_, buildEcmpItems_eq_ok fabric link,
    except_bind_eq_ok.2 ⟨_, buildReachabilityItems_eq_ok fabric, rfl⟩⟩⟩

theorem buildDiagnosis_eq_ok (link : RouterLink) :
    buildDiagnosis fabric link = .ok (diagnoseLink fabric link) := by
  unfold buildDiagnosis
  dsimp only
  by_cases hquiet : isSymptomatic (views fabric link).1 (views fabric link).2 = false
  · unfold diagnoseLink
    dsimp only
    rw [if_pos hquiet, if_pos hquiet]
  · obtain ⟨diagnosis, hdiagnosed⟩ := exists_diagnoseLink (Bool.not_eq_false _ |>.mp hquiet)
    have hbuilt : some <$> Diagnosis.new diagnosis.diagnosisType diagnosis.resource
        diagnosis.confidence diagnosis.evidence diagnosis.symptomKeys diagnosis.collectionId
        (.utc diagnosis.collectedAt) = .ok (some diagnosis) :=
      congrArg (some <$> ·) (Diagnosis.new_eq_ok diagnosis)
    rw [if_neg hquiet, hdiagnosed]
    unfold diagnoseLink at hdiagnosed
    dsimp only at hdiagnosed
    rw [if_neg hquiet] at hdiagnosed
    obtain rfl := Option.some.inj hdiagnosed
    exact except_bind_eq_ok.2 ⟨_, buildEndEvidence_eq_ok _ _ _, except_bind_eq_ok.2
      ⟨_, buildContext_eq_ok _ _ _ _ _, except_bind_eq_ok.2 ⟨_, buildSymptomKeys_eq_ok _,
        except_bind_eq_ok.2 ⟨_, LinkRef.new_eq_ok (linkRef link.1), hbuilt⟩⟩⟩⟩

/-- **Nothing raises**: the engine returns, and returns the diagnoses. -/
theorem buildDiagnoses_eq_ok : buildDiagnoses fabric = .ok (diagnose fabric) := by
  have hlinks : lab1RouterLinks.mapM (buildDiagnosis fabric) =
      .ok (lab1RouterLinks.map (diagnoseLink fabric)) :=
    except_mapM_eq_map fun link _ => buildDiagnosis_eq_ok fabric link
  refine except_bind_eq_ok.2 ⟨_, hlinks, ?_⟩
  rw [List.filterMap_map]
  rfl

end Returns

end DiagnosisEngine
end MetaRne
