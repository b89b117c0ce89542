/-
# Whole collections

What holds of every collection, whatever the lab answers to whatever command, and however an
answer depends on what was run before.

A collection runs nothing outside of the allowlist, and each of its commands once
(`collect_runs_labCommands`).  It returns unless a router's output names something twice
(`collect_returns_iff`), and then it has in each facet what the facet's own commands said
(`collect_reads`): another facet cannot disturb it (`collect_facet_isolated`), and nothing is
in it that those commands did not state (`collect_stated`).
-/

import MetaRne.Adapters.ContainerlabFrr.StatedFacts

namespace MetaRne
namespace ContainerlabFrr

open Library Library.Effect Library.Interview Python

/-- What the lab answers to each command of a collection. -/
def labAnswers (runner : NodeCommandRunner) : Answers := answers runner [] labCommands

variable {lib : Builtins} {runner : NodeCommandRunner} {collectedAt : Datetime}
  {collectionId : String}

/-! ### The allowlist -/

theorem nodeOf_containerName {node : String} (h : node ∈ routerNodes ++ hostNodes) :
    nodeOf (containerName node) = node := by
  have hall : ((routerNodes ++ hostNodes).all fun node => nodeOf (containerName node) == node) =
      true := by decide +kernel
  exact beq_iff_eq.1 (List.all_eq_true.1 hall node h)

theorem allowedCommands_eq_ok {node : String} {allowed : List Argv}
    (h : allowedCommands node = .ok allowed) {argv : Argv} (hargv : argv ∈ allowed) :
    ⟨containerName node, argv⟩ ∈ nodeCommands node := by
  unfold allowedCommands at h
  unfold nodeCommands
  split_ifs at h with hrouter hhost
  · cases h
    rw [if_pos hrouter]
    exact List.mem_map_of_mem hargv
  · cases h
    rw [if_neg hrouter]
    exact List.mem_map_of_mem hargv

/-- **The allowlist is the commands of a collection**, and nothing besides them. -/
theorem assertCommandAllowed_eq_ok_iff {command : Command} :
    assertCommandAllowed command = .ok () ↔ command ∈ labCommands := by
  refine ⟨fun h => ?_, assertCommandAllowed_of_mem⟩
  obtain ⟨_, hcontainer, h⟩ := except_bind_eq_ok.1 h
  obtain ⟨allowed, hallowed, h⟩ := except_bind_eq_ok.1 h
  obtain ⟨node, hnode, hname⟩ := List.mem_map.1 (not_not.1 (raiseIf_eq_ok.1 hcontainer))
  have hargv : command.argv ∈ allowed := by simpa using raiseIf_eq_ok.1 h
  rw [← hname, nodeOf_containerName hnode] at hallowed
  have hcommand := allowedCommands_eq_ok hallowed hargv
  rw [hname] at hcommand
  exact mem_labCommands hnode hcommand

/-! ### What is raised -/

/-- A `ValueError` of the domain model. -/
def IsDomainError : Raised → Prop
  | .error e => IsValueError e
  | _ => False

theorem passOn_raises_domain {α : Type} {x : Except Error α} (h : RaisesOnly IsValueError x) :
    RaisesOnly IsDomainError (passOn x) := by
  cases x with
  | ok a => exact raisesOnly_ok a
  | error e => exact raisesOnly_error (h e rfl)

/-- A node that cannot be built raises what the domain model raises. -/
theorem nodeOutcome_raises {source : CollectionSource} {node : String} {answer : Answers}
    (hnode : node ∈ routerNodes ++ hostNodes) :
    RaisesOnly IsDomainError (nodeOutcome lib collectedAt source node answer) := by
  unfold nodeOutcome
  by_cases hrouter : node ∈ routerNodes
  · rw [if_pos hrouter]
    obtain ⟨interfaces, bgp, routes, -, -, -, heq⟩ :=
      routerOutcome_eq lib collectedAt source node answer
    rw [heq]
    exact passOn_raises_domain NormalizedOperationalState.new_raises
  · rw [if_neg hrouter]
    obtain ⟨interfaces, reachability, -, -, -, -, -, heq⟩ := hostOutcome_eq lib collectedAt source
      answer ((List.mem_append.1 hnode).resolve_left hrouter)
    rw [heq]
    exact passOn_raises_domain NormalizedOperationalState.new_raises

theorem assembled_raises (answer : Answers) :
    RaisesOnly IsDomainError (assembled lib collectedAt collectionId answer) := by
  refine (passOn_raises_domain CollectionSource.new_raises).bind fun source => ?_
  refine (RaisesOnly.mapM fun node hnode => nodeOutcome_raises hnode).bind fun nodes => ?_
  exact passOn_raises_domain FabricOperationalState.new_raises

/-! ### What is returned -/

/-- **A fabric that is returned**: its six nodes in order, each as its commands say. -/
structure FabricReads (lib : Builtins) (answer : Answers) (fabric : FabricOperationalState) :
    Prop where
  nodeIds : fabric.nodes.map (·.nodeId) = routerNodes ++ hostNodes
  source : ∀ node ∈ fabric.nodes, node.source.collector = collectorName ∧
    node.source.labName = lab1LabName
  router : ∀ node ∈ fabric.nodes, node.nodeId ∈ routerNodes → RouterReads lib answer node
  host : ∀ node ∈ fabric.nodes, node.nodeId ∈ hostNodes → HostReads lib answer node

theorem not_mem_routerNodes {node : String} (h : node ∈ hostNodes) : node ∉ routerNodes := by
  have hall : (hostNodes.all fun node => !routerNodes.contains node) = true := by decide
  have hnode := List.all_eq_true.1 hall node h
  rwa [Bool.not_eq_true', List.contains_eq_mem, decide_eq_false_iff_not] at hnode

/-- What the state of a node that is built reads. -/
theorem nodeOutcome_reads {source : CollectionSource} {node : String} {answer : Answers}
    (hnode : node ∈ routerNodes ++ hostNodes) {state : NormalizedOperationalState}
    (h : nodeOutcome lib collectedAt source node answer = .ok state) :
    state.nodeId = node ∧ state.source = source ∧ collectedAt = .utc state.collectedAt ∧
      (node ∈ routerNodes → RouterReads lib answer state) ∧
      (node ∈ hostNodes → HostReads lib answer state) := by
  unfold nodeOutcome at h
  by_cases hrouter : node ∈ routerNodes
  · rw [if_pos hrouter] at h
    obtain ⟨hid, hsource, htime, hreads⟩ := routerOutcome_reads h
    exact ⟨hid, hsource, htime, fun _ => hreads, fun hhost =>
      absurd hrouter (not_mem_routerNodes hhost)⟩
  · have hhost := (List.mem_append.1 hnode).resolve_left hrouter
    rw [if_neg hrouter] at h
    obtain ⟨hid, hsource, htime, hreads⟩ := hostOutcome_reads hhost h
    exact ⟨hid, hsource, htime, fun hmem => absurd hmem hrouter, fun _ => hreads⟩

/-- The nodes come in the order in which they were asked. -/
theorem nodeIds_of_mapM {source : CollectionSource} {answer : Answers}
    {nodes : List NormalizedOperationalState}
    (h : (routerNodes ++ hostNodes).mapM (fun node =>
      nodeOutcome lib collectedAt source node answer) = .ok nodes) :
    nodes.map (·.nodeId) = routerNodes ++ hostNodes := by
  have hall := except_mapM_eq_ok.1 h
  refine (List.forall₂_eq_eq_eq ▸ List.forall₂_map_right_iff.2 ?_ :
    routerNodes ++ hostNodes = nodes.map (·.nodeId)).symm
  refine List.forall₂_iff_get.2 ⟨hall.length_eq, fun i hi hi' => ?_⟩
  have hstate := (List.forall₂_iff_get.1 hall).2 i hi hi'
  exact (nodeOutcome_reads (List.get_mem ..) hstate).1.symm

theorem assembled_eq_ok {answer : Answers} {fabric : FabricOperationalState}
    (h : assembled lib collectedAt collectionId answer = .ok fabric) :
    fabric.collectionId = collectionId ∧ collectedAt = .utc fabric.collectedAt ∧
      FabricReads lib answer fabric := by
  obtain ⟨source, hsource, h⟩ := except_bind_eq_ok.1 h
  obtain ⟨nodes, hnodes, h⟩ := except_bind_eq_ok.1 h
  obtain ⟨hcollector, hlab, -⟩ := CollectionSource.of_new (passOn_eq_ok.1 hsource)
  obtain ⟨hid, htime, hfabric⟩ := FabricOperationalState.of_new (passOn_eq_ok.1 h)
  have hreads : ∀ state ∈ fabric.nodes, ∃ node ∈ routerNodes ++ hostNodes,
      nodeOutcome lib collectedAt source node answer = .ok state := by
    intro state hstate
    rw [hfabric] at hstate
    exact exists_of_mem_except_mapM hnodes hstate
  refine ⟨hid, htime, ?_, fun state hstate => ?_, fun state hstate hrouter => ?_,
    fun state hstate hhost => ?_⟩
  · rw [hfabric]
    exact nodeIds_of_mapM hnodes
  · obtain ⟨node, hnode, heq⟩ := hreads state hstate
    rw [(nodeOutcome_reads hnode heq).2.1]
    exact ⟨hcollector, hlab⟩
  · obtain ⟨node, hnode, heq⟩ := hreads state hstate
    obtain ⟨hid, -, -, hreads, -⟩ := nodeOutcome_reads hnode heq
    exact hreads (hid ▸ hrouter)
  · obtain ⟨node, hnode, heq⟩ := hreads state hstate
    obtain ⟨hid, -, -, -, hreads⟩ := nodeOutcome_reads hnode heq
    exact hreads (hid ▸ hhost)

theorem collect_run_eq_ok {fabric : FabricOperationalState} {log : List Command} :
    (collect lib runner collectedAt collectionId).run [] = .ok fabric log ↔
      assembled lib collectedAt collectionId (labAnswers runner) = .ok fabric ∧
        log = labCommands :=
  (collect_asks collectionId).run_eq_ok

/-! ### When it returns -/

theorem hostInterfacesRead_nodup (node : String) (answer : Answers) :
    ∀ interfaces ∈ hostInterfacesRead lib node answer, (interfaces.map (·.name)).Nodup := by
  intro interfaces h
  unfold hostInterfacesRead outputOf at h
  dsimp only at h
  split_ifs at h
  · cases hparse : parseIpOnelineInterfaces lib (answer ⟨containerName node, hostLink⟩).stdout
      (answer ⟨containerName node, hostAddr⟩).stdout with
    | ok read =>
        rw [hparse] at h
        cases h
        exact parseIpOnelineInterfaces_nodup hparse
    | error raised =>
        rw [hparse] at h
        cases h
  · cases h
  · cases h

/-- **The answers make a fabric** unless an output of a router names something twice. -/
theorem assembled_isOk_iff (answer : Answers) :
    (∃ fabric, assembled lib collectedAt collectionId answer = .ok fabric) ↔
      (∃ time, collectedAt = .utc time) ∧ isBlank collectionId = false ∧
        ∀ node ∈ routerNodes, NamesOnce lib answer node := by
  constructor
  · rintro ⟨fabric, h⟩
    obtain ⟨hid, htime, -⟩ := assembled_eq_ok h
    refine ⟨⟨_, htime⟩, hid ▸ fabric.collectionId_not_blank, fun node hnode => ?_⟩
    obtain ⟨source, -, h⟩ := except_bind_eq_ok.1 h
    obtain ⟨nodes, hnodes, -⟩ := except_bind_eq_ok.1 h
    obtain ⟨state, -, hstate⟩ := exists_right_of_forall₂ (except_mapM_eq_ok.1 hnodes)
      (List.mem_append_left hostNodes hnode)
    rw [nodeOutcome, if_pos hnode, htime] at hstate
    exact (routerOutcome_isOk_iff _ hnode).1 ⟨state, hstate⟩
  · rintro ⟨⟨time, rfl⟩, hid, hnames⟩
    let source : CollectionSource := ⟨collectorName, lab1LabName, collectionId, by decide, by decide, hid⟩
    have hsource : CollectionSource.new collectorName lab1LabName collectionId = .ok source :=
      CollectionSource.new_self source
    obtain ⟨nodes, hnodes⟩ : ∃ nodes, (routerNodes ++ hostNodes).mapM (fun node =>
        nodeOutcome lib (.utc time) source node answer) = .ok nodes := by
      refine except_mapM_isOk fun node hnode => ?_
      unfold nodeOutcome
      by_cases hrouter : node ∈ routerNodes
      · rw [if_pos hrouter]
        exact (routerOutcome_isOk_iff time hrouter).2 (hnames node hrouter)
      · rw [if_neg hrouter]
        exact hostOutcome_isOk time ((List.mem_append.1 hnode).resolve_left hrouter)
          (hostInterfacesRead_nodup node answer)
    have hread : ∀ state ∈ nodes, state.source = source ∧ state.collectedAt = time := by
      intro state hstate
      obtain ⟨node, hnode, heq⟩ := exists_of_mem_except_mapM hnodes hstate
      obtain ⟨-, hsource, htime, -⟩ := nodeOutcome_reads hnode heq
      exact ⟨hsource, (Datetime.utc_inj.1 htime).symm⟩
    let fabric : FabricOperationalState := {
      collectionId := collectionId
      collectedAt := time
      nodes := nodes
      collectionId_not_blank := hid
      nodes_nodup := by
        rw [nodeIds_of_mapM hnodes]
        decide
      nodes_collectedAt := fun state hstate => (hread state hstate).2
      nodes_collectionId := fun state hstate => by rw [(hread state hstate).1] }
    refine ⟨fabric, ?_⟩
    rw [assembled, hsource]
    change ((routerNodes ++ hostNodes).mapM (fun node =>
      nodeOutcome lib (.utc time) source node answer) >>= _) = _
    rw [hnodes, ok_bind, passOn_eq_ok]
    exact FabricOperationalState.new_self fabric

/-! ### A lab

Its routers list one interface and answer nothing else; its hosts run only `ping`. -/

/-- What `ip -j addr` prints there. -/
def oneLinkText : String := "[\x7b\"ifname\": \"eth1\", \"operstate\": \"UP\"\x7d]"

/-- The parts of Python, as far as this lab needs them. -/
def oneLink : Builtins where
  loads text :=
    if text = oneLinkText.toList then
      .ok (.arr [.obj [("ifname", .str "eth1"), ("operstate", .str "UP")]])
    else .error "Expecting value: line 1 column 1 (char 0)"
  isWord c := c.isAlphanum || c == '_'
  format message _ := message

/-- The lab, with what `ping` prints. -/
def oneLinkRunner (ping : String) : NodeCommandRunner := fun _ command =>
  if command.argv = routerInterfaces then ⟨0, oneLinkText.toList, []⟩
  else if command.argv.head? = some "ping" then ⟨1, ping.toList, []⟩
  else ⟨1, [], "Error response from daemon".toList⟩

/-- A `ping` that lost everything. -/
def totalLoss : String := "3 packets transmitted, 0 packets received, 100% packet loss"

theorem labAnswers_oneLink (ping : String) (command : Command) :
    labAnswers (oneLinkRunner ping) command = oneLinkRunner ping [] command := rfl

set_option maxRecDepth 20000 in
theorem oneLink_interfaces : ((parseIpJsonInterfaces oneLink oneLinkText.toList).toOption.map
    fun interfaces => interfaces.map (·.name)) = some ["eth1"] := by
  decide +kernel

theorem oneLink_namesOnce (ping : String) :
    ∀ node ∈ routerNodes, NamesOnce oneLink (labAnswers (oneLinkRunner ping)) node := by
  intro node _
  constructor
  · intro interfaces h
    rw [interfacesRead, labAnswers_oneLink, oneLinkRunner, if_pos rfl] at h
    have hnames := oneLink_interfaces
    rw [show (parseIpJsonInterfaces oneLink oneLinkText.toList).toOption = some interfaces from h,
      Option.map_some, Option.some.injEq] at hnames
    rw [hnames]
    decide
  · intro routes h
    have hargv : routerRoutes ≠ routerInterfaces ∧ routerRoutes.head? ≠ some "ping" := by decide
    rw [routesRead, labAnswers_oneLink, oneLinkRunner, if_neg hargv.1, if_neg hargv.2] at h
    cases h

theorem oneLink_collected (ping : String) : ∃ fabric,
    (collect oneLink (oneLinkRunner ping) (.utc 0) "pass-1").run [] = .ok fabric labCommands := by
  have hid : isBlank "pass-1" = false := by decide
  obtain ⟨fabric, h⟩ := (assembled_isOk_iff _).2 ⟨⟨0, rfl⟩, hid, oneLink_namesOnce ping⟩
  exact ⟨fabric, collect_run_eq_ok.2 ⟨h, rfl⟩⟩

/-! ### Every collection -/

/-- **A collection runs commands of the allowlist only**: a beginning of `labCommands`, each
once, and all of them where it returns.  The allowlist, which has nothing else on it, never
stops it, and what stops it is a check of the domain model. -/
theorem collect_runs_labCommands (lib : Builtins) (runner : NodeCommandRunner)
    (collectedAt : Datetime) (collectionId : String) :
    final (collect lib runner collectedAt collectionId) [] <+: labCommands ∧
      (final (collect lib runner collectedAt collectionId) []).Nodup ∧
      (∀ command, assertCommandAllowed command = .ok () ↔ command ∈ labCommands) ∧
      (∀ fabric log, (collect lib runner collectedAt collectionId).run [] = .ok fabric log →
        log = labCommands) ∧
      ∀ raised log, (collect lib runner collectedAt collectionId).run [] = .error raised log →
        IsDomainError raised := by
  have hasks := @collect_asks lib runner collectedAt collectionId
  obtain ⟨log, hlog, hfinal⟩ := hasks.final_log []
  rw [List.nil_append] at hfinal
  rw [hfinal]
  refine ⟨hlog, labCommands_checked.2.sublist hlog.sublist, fun _ => assertCommandAllowed_eq_ok_iff,
    fun fabric log h => (collect_run_eq_ok.1 h).2, fun raised log h => ?_⟩
  exact assembled_raises _ _ (hasks.eq_of_run_eq_error h)

/-- **A collection returns unless a router's output names something twice.**  Failed commands
and unreadable outputs do not stop it. -/
theorem collect_returns_iff (lib : Builtins) (runner : NodeCommandRunner) (collectedAt : Datetime)
    (collectionId : String) :
    (∃ fabric log, (collect lib runner collectedAt collectionId).run [] = .ok fabric log) ↔
      (∃ time, collectedAt = .utc time) ∧ isBlank collectionId = false ∧
        ∀ node ∈ routerNodes, NamesOnce lib (labAnswers runner) node := by
  rw [← assembled_isOk_iff]
  constructor
  · rintro ⟨fabric, log, h⟩
    exact ⟨fabric, (collect_run_eq_ok.1 h).1⟩
  · rintro ⟨fabric, h⟩
    exact ⟨fabric, labCommands, collect_run_eq_ok.2 ⟨h, rfl⟩⟩

section

variable {fabric : FabricOperationalState} {log : List Command}

/-- **A fabric has in each facet what the commands of the facet say**, and marks it where they
say nothing. -/
theorem collect_reads
    (h : (collect lib runner collectedAt collectionId).run [] = .ok fabric log) :
    fabric.collectionId = collectionId ∧ collectedAt = .utc fabric.collectedAt ∧
      FabricReads lib (labAnswers runner) fabric :=
  assembled_eq_ok (collect_run_eq_ok.1 h).1

/-- The lab of one link, where everything is lost. -/
theorem collect_reads_oneLink : ∃ fabric,
    (collect oneLink (oneLinkRunner totalLoss) (.utc 0) "pass-1").run [] = .ok fabric labCommands ∧
      FabricReads oneLink (labAnswers (oneLinkRunner totalLoss)) fabric := by
  obtain ⟨fabric, h⟩ := oneLink_collected totalLoss
  exact ⟨fabric, h, (collect_reads h).2.2⟩

/-! ### Isolation -/

/-- The commands that a facet of a node is read of. -/
def facetCommands (node : String) (facet : ObservationFacet) : List Command :=
  (if node ∈ routerNodes then
    match facet with
    | .interfaces => [routerInterfaces]
    | .bgp => [routerBgp]
    | .routes => [routerRoutes]
    | .reachability => []
  else
    match facet with
    | .interfaces => [hostLink, hostAddr]
    | .reachability => [pingCommand node]
    | .bgp => []
    | .routes => []).map fun argv => ⟨containerName node, argv⟩

/-- Two states of a node with the same data in a facet. -/
def SameFacet (facet : ObservationFacet) (state state' : NormalizedOperationalState) : Prop :=
  match facet with
  | .interfaces => state.interfaces = state'.interfaces
  | .bgp => state.bgp = state'.bgp
  | .routes => state.routes = state'.routes
  | .reachability => state.reachability = state'.reachability

theorem forall₂_probes_eq {node : String} {counts : Option (ℤ × ℤ)}
    {probes probes' : List ReachabilityObservation}
    (h : List.Forall₂ (Probes node) counts.toList probes)
    (h' : List.Forall₂ (Probes node) counts.toList probes') : probes = probes' := by
  have hunique : Relator.RightUnique (Probes node) := by
    intro counts probe probe' hprobe hprobe'
    obtain ⟨hfrom, htarget, hsent, hreceived⟩ := hprobe
    rw [← hprobe'.fromNode] at hfrom
    rw [← hprobe'.target] at htarget
    rw [← hprobe'.sent, Int.natCast_inj] at hsent
    rw [← hprobe'.received, Int.natCast_inj] at hreceived
    cases probe
    cases probe'
    dsimp only at hfrom htarget hsent hreceived
    subst hfrom htarget hsent hreceived
    rfl
  exact hunique.forall₂ h h'

theorem RouterReads.sameFacet {answer answer' : Answers} {state state' : NormalizedOperationalState}
    (h : RouterReads lib answer state) (h' : RouterReads lib answer' state')
    (hid : state.nodeId = state'.nodeId) (hrouter : state.nodeId ∈ routerNodes)
    {facet : ObservationFacet}
    (hagree : ∀ command ∈ facetCommands state.nodeId facet, answer command = answer' command) :
    SameFacet facet state state' ∧ state.isUnavailable facet = state'.isUnavailable facet := by
  unfold facetCommands at hagree
  rw [if_pos hrouter, List.forall_mem_map] at hagree
  have hunavailable := h.unavailable facet
  have hunavailable' := h'.unavailable facet
  rw [← hid] at hunavailable'
  cases facet with
  | interfaces =>
      have hread : interfacesRead lib state.nodeId answer = interfacesRead lib state.nodeId answer' :=
        congrArg (outputOf _) (hagree _ (List.mem_singleton_self _))
      rw [hread] at hunavailable
      refine ⟨?_, Bool.eq_iff_iff.2 ?_⟩
      · rw [SameFacet, h.interfaces, h'.interfaces, ← hid, hread]
      · rw [hunavailable, hunavailable']
        simp
  | bgp =>
      have hread : bgpRead lib state.nodeId answer = bgpRead lib state.nodeId answer' :=
        congrArg (outputOf _) (hagree _ (List.mem_singleton_self _))
      rw [hread] at hunavailable
      refine ⟨?_, Bool.eq_iff_iff.2 ?_⟩
      · rw [SameFacet, h.bgp, h'.bgp, ← hid, hread]
      · rw [hunavailable, hunavailable']
        simp
  | routes =>
      have hread : routesRead lib state.nodeId answer = routesRead lib state.nodeId answer' :=
        congrArg (outputOf _) (hagree _ (List.mem_singleton_self _))
      rw [hread] at hunavailable
      refine ⟨?_, Bool.eq_iff_iff.2 ?_⟩
      · rw [SameFacet, h.routes, h'.routes, ← hid, hread]
      · rw [hunavailable, hunavailable']
        simp
  | reachability =>
      refine ⟨h.reachability.trans h'.reachability.symm, Bool.eq_iff_iff.2 ?_⟩
      rw [hunavailable, hunavailable']
      simp

theorem HostReads.sameFacet {answer answer' : Answers} {state state' : NormalizedOperationalState}
    (h : HostReads lib answer state) (h' : HostReads lib answer' state')
    (hid : state.nodeId = state'.nodeId) (hrouter : state.nodeId ∉ routerNodes)
    {facet : ObservationFacet}
    (hagree : ∀ command ∈ facetCommands state.nodeId facet, answer command = answer' command) :
    SameFacet facet state state' ∧ state.isUnavailable facet = state'.isUnavailable facet := by
  unfold facetCommands at hagree
  rw [if_neg hrouter, List.forall_mem_map] at hagree
  have hunavailable := h.unavailable facet
  have hunavailable' := h'.unavailable facet
  rw [← hid] at hunavailable'
  cases facet with
  | interfaces =>
      have hread : hostInterfacesRead lib state.nodeId answer =
          hostInterfacesRead lib state.nodeId answer' := by
        unfold hostInterfacesRead
        rw [hagree hostLink (List.mem_cons_self ..), hagree hostAddr (by simp)]
      rw [hread] at hunavailable
      refine ⟨?_, Bool.eq_iff_iff.2 ?_⟩
      · rw [SameFacet, h.interfaces, h'.interfaces, ← hid, hread]
      · rw [hunavailable, hunavailable']
        simp
  | bgp =>
      refine ⟨h.bgp.trans h'.bgp.symm, Bool.eq_iff_iff.2 ?_⟩
      rw [hunavailable, hunavailable']
      simp
  | routes =>
      refine ⟨h.routes.trans h'.routes.symm, Bool.eq_iff_iff.2 ?_⟩
      rw [hunavailable, hunavailable']
      simp
  | reachability =>
      have hread : reachabilityRead state.nodeId answer = reachabilityRead state.nodeId answer' := by
        unfold reachabilityRead
        rw [hagree _ (List.mem_singleton_self _)]
      have hprobes := h.reachability
      have hprobes' := h'.reachability
      rw [hread] at hprobes hunavailable
      rw [← hid] at hprobes'
      refine ⟨forall₂_probes_eq hprobes hprobes', Bool.eq_iff_iff.2 ?_⟩
      rw [hunavailable, hunavailable']
      simp

/-- A node of a fabric is a router or a host of the lab. -/
theorem FabricReads.node_mem {answer : Answers} (h : FabricReads lib answer fabric)
    {state : NormalizedOperationalState} (hstate : state ∈ fabric.nodes) :
    state.nodeId ∈ routerNodes ∨ state.nodeId ∈ hostNodes := by
  rw [← List.mem_append, ← h.nodeIds]
  exact List.mem_map_of_mem hstate

/-- **No facet disturbs another.**  Where two collections return, and the commands of a facet
of a node were answered alike, the facet is the same in both: what it has, and whether it is
marked. -/
theorem collect_facet_isolated {runner' : NodeCommandRunner} {collectedAt' : Datetime}
    {collectionId' : String} {fabric' : FabricOperationalState} {log' : List Command}
    (h : (collect lib runner collectedAt collectionId).run [] = .ok fabric log)
    (h' : (collect lib runner' collectedAt' collectionId').run [] = .ok fabric' log')
    {state state' : NormalizedOperationalState} (hstate : state ∈ fabric.nodes)
    (hstate' : state' ∈ fabric'.nodes) (hid : state.nodeId = state'.nodeId)
    {facet : ObservationFacet}
    (hagree : ∀ command ∈ facetCommands state.nodeId facet,
      labAnswers runner command = labAnswers runner' command) :
    SameFacet facet state state' ∧ state.isUnavailable facet = state'.isUnavailable facet := by
  obtain ⟨-, -, hreads⟩ := assembled_eq_ok (collect_run_eq_ok.1 h).1
  obtain ⟨-, -, hreads'⟩ := assembled_eq_ok (collect_run_eq_ok.1 h').1
  rcases hreads.node_mem hstate with hrouter | hhost
  · exact (hreads.router state hstate hrouter).sameFacet
      (hreads'.router state' hstate' (hid ▸ hrouter)) hid hrouter hagree
  · exact (hreads.host state hstate hhost).sameFacet
      (hreads'.host state' hstate' (hid ▸ hhost)) hid (not_mem_routerNodes hhost) hagree

/-- A `ping` that prints nothing leaves the interfaces of the host as they were. -/
theorem collect_facet_isolated_oneLink : ∃ state state' : NormalizedOperationalState,
    state.nodeId = "host-1" ∧ state'.nodeId = "host-1" ∧ SameFacet .interfaces state state' := by
  obtain ⟨fabric, h⟩ := oneLink_collected totalLoss
  obtain ⟨fabric', h'⟩ := oneLink_collected ""
  have hnode : ∀ fabric ping, (collect oneLink (oneLinkRunner ping) (.utc 0) "pass-1").run [] =
      .ok fabric labCommands → ∃ state ∈ fabric.nodes, state.nodeId = "host-1" := by
    intro fabric ping h
    obtain ⟨-, -, hreads⟩ := assembled_eq_ok (collect_run_eq_ok.1 h).1
    exact List.mem_map.1 (hreads.nodeIds ▸ (by decide : "host-1" ∈ routerNodes ++ hostNodes))
  obtain ⟨state, hstate, hid⟩ := hnode fabric totalLoss h
  obtain ⟨state', hstate', hid'⟩ := hnode fabric' "" h'
  refine ⟨state, state', hid, hid', ?_⟩
  refine (collect_facet_isolated h h' hstate hstate' (hid.trans hid'.symm) fun command hmem => ?_).1
  rw [hid, show facetCommands "host-1" .interfaces =
    [⟨containerName "host-1", hostLink⟩, ⟨containerName "host-1", hostAddr⟩] from rfl] at hmem
  rcases List.mem_cons.1 hmem with rfl | hmem
  · rfl
  · cases List.mem_singleton.1 hmem
    rfl

/-! ### Statements -/

/-- The output of a command that succeeded. -/
def Printed (answer : Answers) (node : String) (argv : Argv) (text : List Char) : Prop :=
  (answer ⟨containerName node, argv⟩).returncode = 0 ∧
    (answer ⟨containerName node, argv⟩).stdout = text

/-- **What a router has is stated** by what its own commands printed. -/
structure RouterStated (lib : Builtins) (answer : Answers) (state : NormalizedOperationalState) :
    Prop where
  interfaces : ∀ interface ∈ state.interfaces, ∃ text,
    Printed answer state.nodeId routerInterfaces text ∧ InterfaceStated lib text interface
  neighbors : ∀ bgp ∈ state.bgp, ∀ neighbor ∈ bgp.neighbors, ∃ text,
    Printed answer state.nodeId routerBgp text ∧ NeighborStated lib text neighbor
  routes : ∀ route ∈ state.routes, ∃ text,
    Printed answer state.nodeId routerRoutes text ∧ RouteStated lib text route

/-- **What a host has is stated**, likewise; its `ping` may have failed. -/
structure HostStated (lib : Builtins) (answer : Answers) (state : NormalizedOperationalState) :
    Prop where
  interfaces : ∀ interface ∈ state.interfaces, ∃ link addr, Printed answer state.nodeId hostLink link ∧
    Printed answer state.nodeId hostAddr addr ∧ LineStated lib link addr interface
  probes : ∀ probe ∈ state.reachability, probe.fromNode = state.nodeId ∧
    probe.target = pingTarget state.nodeId ∧
    ProbeStated (answer ⟨containerName state.nodeId, pingCommand state.nodeId⟩).stdout probe

theorem outputOf_eq_some {α : Type} {parse : List Char → Except Raised α} {result : CommandResult}
    {a : α} : outputOf parse result = some a ↔
      result.returncode = 0 ∧ parse result.stdout = .ok a := by
  unfold outputOf
  split_ifs with hcode
  · rw [and_iff_right hcode]
    cases parse result.stdout with
    | ok b => rw [Except.ok.injEq, Except.toOption, Option.some.injEq]
    | error raised => exact iff_of_false (fun h => by cases h) fun h => by cases h
  · exact iff_of_false (fun h => by cases h) fun h => hcode h.1

/-- A member of what was read is a member of what was parsed. -/
theorem exists_of_mem_getD {α : Type} {reading : Option (List α)} {a : α} (h : a ∈ reading.getD []) :
    ∃ items, reading = some items ∧ a ∈ items := by
  cases reading with
  | none => exact absurd h List.not_mem_nil
  | some items => exact ⟨items, rfl, h⟩

theorem RouterReads.stated {answer : Answers} {state : NormalizedOperationalState}
    (h : RouterReads lib answer state) : RouterStated lib answer state := by
  constructor
  · intro interface hmem
    rw [h.interfaces] at hmem
    obtain ⟨items, hread, hmem⟩ := exists_of_mem_getD hmem
    obtain ⟨hcode, hparse⟩ := outputOf_eq_some.1 hread
    exact ⟨_, ⟨hcode, rfl⟩, parseIpJsonInterfaces_stated hparse interface hmem⟩
  · intro bgp hbgp neighbor hmem
    rw [h.bgp] at hbgp
    obtain ⟨hcode, hparse⟩ := outputOf_eq_some.1 hbgp
    exact ⟨_, ⟨hcode, rfl⟩, parseBgpSummary_stated hparse neighbor hmem⟩
  · intro route hmem
    rw [h.routes] at hmem
    obtain ⟨items, hread, hmem⟩ := exists_of_mem_getD hmem
    obtain ⟨hcode, hparse⟩ := outputOf_eq_some.1 hread
    exact ⟨_, ⟨hcode, rfl⟩, parseFrrRoutes_stated hparse route hmem⟩

theorem HostReads.stated {answer : Answers} {state : NormalizedOperationalState}
    (h : HostReads lib answer state) : HostStated lib answer state := by
  constructor
  · intro interface hmem
    rw [h.interfaces] at hmem
    obtain ⟨items, hread, hmem⟩ := exists_of_mem_getD hmem
    unfold hostInterfacesRead at hread
    dsimp only at hread
    split_ifs at hread with hlink
    obtain ⟨hcode, hparse⟩ := outputOf_eq_some.1 hread
    exact ⟨_, _, ⟨hlink, rfl⟩, ⟨hcode, rfl⟩, parseIpOnelineInterfaces_stated hparse interface hmem⟩
  · intro probe hmem
    have hprobes := h.reachability
    unfold reachabilityRead at hprobes
    cases hparse : parsePingSummary
        (answer ⟨containerName state.nodeId, pingCommand state.nodeId⟩).stdout with
    | ok counts =>
        rw [hparse] at hprobes
        obtain ⟨counts', hcounts, hprobe⟩ := exists_left_of_forall₂ hprobes hmem
        cases List.mem_singleton.1 hcounts
        exact ⟨hprobe.fromNode, hprobe.target, parsePingSummary_stated hparse hprobe⟩
    | error raised =>
        rw [hparse] at hprobes
        rw [List.forall₂_nil_left_iff.1 hprobes] at hmem
        exact absurd hmem List.not_mem_nil

/-- **Nothing is made up.**  Each interface, session, route and probe of a fabric is stated by
what the node's own command printed, and except for a probe the command succeeded. -/
theorem collect_stated (h : (collect lib runner collectedAt collectionId).run [] = .ok fabric log) :
    ∀ state ∈ fabric.nodes,
      (state.nodeId ∈ routerNodes ∧ RouterStated lib (labAnswers runner) state) ∨
        (state.nodeId ∈ hostNodes ∧ HostStated lib (labAnswers runner) state) := by
  obtain ⟨-, -, hreads⟩ := assembled_eq_ok (collect_run_eq_ok.1 h).1
  intro state hstate
  rcases hreads.node_mem hstate with hrouter | hhost
  · exact .inl ⟨hrouter, (hreads.router state hstate hrouter).stated⟩
  · exact .inr ⟨hhost, (hreads.host state hstate hhost).stated⟩

theorem collect_stated_oneLink : ∃ fabric,
    (collect oneLink (oneLinkRunner totalLoss) (.utc 0) "pass-1").run [] = .ok fabric labCommands ∧
      ∀ state ∈ fabric.nodes,
        (state.nodeId ∈ routerNodes ∧
          RouterStated oneLink (labAnswers (oneLinkRunner totalLoss)) state) ∨
        (state.nodeId ∈ hostNodes ∧
          HostStated oneLink (labAnswers (oneLinkRunner totalLoss)) state) := by
  obtain ⟨fabric, h⟩ := oneLink_collected totalLoss
  exact ⟨fabric, h, collect_stated h⟩

end

end ContainerlabFrr
end MetaRne
