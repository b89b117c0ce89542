/-
# What a collection runs and what it makes of the answers

A collection runs the eighteen commands of `labCommands`, each once and in their order,
whatever is answered, and what it returns or raises is a function of the answers alone
(`collect_asks`): `assembled`.
-/

import MetaRne.Adapters.ContainerlabFrr.Collector

namespace MetaRne
namespace ContainerlabFrr

open Library Library.Effect Library.Interview Python

variable (lib : Builtins)

/-! ### Outcomes -/

/-- The answer to each command. -/
abbrev Answers := Command → CommandResult

/-- The state of a router, of the answers to its commands. -/
def routerOutcome (collectedAt : Datetime) (source : CollectionSource) (node : String)
    (answer : Answers) : Except Raised NormalizedOperationalState := do
  let interfaces ← observed lib .interfaces routerInterfaces (parseIpJsonInterfaces lib)
    (answer ⟨containerName node, routerInterfaces⟩)
  let bgp ← observed lib .bgp routerBgp (parseBgpSummary lib)
    (answer ⟨containerName node, routerBgp⟩)
  let routes ← observed lib .routes routerRoutes (parseFrrRoutes lib)
    (answer ⟨containerName node, routerRoutes⟩)
  routerState node collectedAt source interfaces bgp routes

/-- The state of a host, of the answers to its commands. -/
def hostOutcome (collectedAt : Datetime) (source : CollectionSource) (node : String)
    (answer : Answers) : Except Raised NormalizedOperationalState := do
  let interfaces ← observedHostInterfaces lib (answer ⟨containerName node, hostLink⟩)
    (answer ⟨containerName node, hostAddr⟩)
  let reachability ← observedReachability lib node (answer ⟨containerName node, pingCommand node⟩)
  hostState node collectedAt source interfaces reachability

/-- The state of a node. -/
def nodeOutcome (collectedAt : Datetime) (source : CollectionSource) (node : String)
    (answer : Answers) : Except Raised NormalizedOperationalState :=
  if node ∈ routerNodes then routerOutcome lib collectedAt source node answer
  else hostOutcome lib collectedAt source node answer

/-- The fabric that is put together of the answers to `labCommands`. -/
def assembled (collectedAt : Datetime) (collectionId : String) (answer : Answers) :
    Except Raised FabricOperationalState := do
  let source ← passOn (CollectionSource.new collectorName lab1LabName collectionId)
  let nodes ← (routerNodes ++ hostNodes).mapM fun node => nodeOutcome lib collectedAt source node answer
  passOn (FabricOperationalState.new collectionId collectedAt nodes)

/-! ### The commands -/

/-- Every command of a collection is on the allowlist, and none is run twice. -/
theorem labCommands_checked :
    (labCommands.all fun command => (assertCommandAllowed command).toBool) = true ∧
      labCommands.Nodup := by
  decide +kernel

theorem assertCommandAllowed_of_mem {command : Command} (h : command ∈ labCommands) :
    assertCommandAllowed command = .ok () := by
  have hchecked := List.all_eq_true.1 labCommands_checked.1 command h
  cases hassert : assertCommandAllowed command with
  | ok u => rfl
  | error e =>
      rw [hassert] at hchecked
      cases hchecked

variable {lib} {runner : NodeCommandRunner} {collectedAt : Datetime} {source : CollectionSource}
  {node : String}

/-- A command that is allowed is run. -/
theorem run_asks {argv : Argv} (h : ⟨containerName node, argv⟩ ∈ labCommands) :
    Asks runner (run runner node argv) [⟨containerName node, argv⟩]
      fun answer => .ok (answer ⟨containerName node, argv⟩) := by
  have hallowed : Asks runner (liftM (assertCommandAllowed ⟨containerName node, argv⟩) :
      Collecting Unit) [] fun _ => assertCommandAllowed ⟨containerName node, argv⟩ := asks_check _
  refine (hallowed.bind (fun _ => asks_ask _) fun _ _ => List.not_mem_nil).congr fun answer => ?_
  rw [assertCommandAllowed_of_mem h]
  rfl

theorem observe_asks {α : Type} {facet : ObservationFacet} {argv : Argv}
    {parse : List Char → Except Raised α} (h : ⟨containerName node, argv⟩ ∈ labCommands) :
    Asks runner (observe lib runner node facet argv parse) [⟨containerName node, argv⟩]
      fun answer => observed lib facet argv parse (answer ⟨containerName node, argv⟩) :=
  (run_asks h).bind (fun result => asks_check (observed lib facet argv parse result))
    fun _ hq => absurd hq List.not_mem_nil

theorem mem_labCommands {command : Command} (hnode : node ∈ routerNodes ++ hostNodes)
    (h : command ∈ nodeCommands node) : command ∈ labCommands :=
  List.mem_flatMap.2 ⟨node, hnode, h⟩

/-- **A router is asked its three commands.** -/
theorem collectRouter_asks (hnode : node ∈ routerNodes) :
    Asks runner (collectRouter lib runner node collectedAt source) (nodeCommands node)
      (routerOutcome lib collectedAt source node) := by
  have hcommands : nodeCommands node = [⟨containerName node, routerInterfaces⟩] ++
      ([⟨containerName node, routerBgp⟩] ++ ([⟨containerName node, routerRoutes⟩] ++ [])) := by
    rw [nodeCommands, if_pos hnode]
    rfl
  have hmem : ∀ command ∈ nodeCommands node, command ∈ labCommands :=
    fun command => mem_labCommands (List.mem_append_left _ hnode)
  rw [hcommands] at hmem ⊢
  refine (observe_asks (hmem _ (by simp))).bind (fun interfaces => ?_) (by
    simp [routerInterfaces, routerBgp, routerRoutes])
  refine (observe_asks (hmem _ (by simp))).bind (fun bgp => ?_) (by simp [routerBgp, routerRoutes])
  exact (observe_asks (hmem _ (by simp))).bind (fun routes => asks_check _) fun _ hq =>
    absurd hq List.not_mem_nil

/-- **A host is asked its three commands.** -/
theorem collectHost_asks (hnode : node ∈ hostNodes) (hrouter : node ∉ routerNodes) :
    Asks runner (collectHost lib runner node collectedAt source) (nodeCommands node)
      (hostOutcome lib collectedAt source node) := by
  have hcommands : nodeCommands node = ([⟨containerName node, hostLink⟩] ++
      ([⟨containerName node, hostAddr⟩] ++ [])) ++
        (([⟨containerName node, pingCommand node⟩] ++ []) ++ []) := by
    rw [nodeCommands, if_neg hrouter]
    rfl
  have hmem : ∀ command ∈ nodeCommands node, command ∈ labCommands :=
    fun command => mem_labCommands (List.mem_append_right _ hnode)
  rw [hcommands] at hmem ⊢
  have hlink : ⟨containerName node, hostLink⟩ ∈ labCommands := hmem _ (by simp)
  have haddr : ⟨containerName node, hostAddr⟩ ∈ labCommands := hmem _ (by simp)
  have hping : ⟨containerName node, pingCommand node⟩ ∈ labCommands := hmem _ (by simp)
  have hinterfaces : Asks runner (hostInterfaces lib runner node)
      ([⟨containerName node, hostLink⟩] ++ ([⟨containerName node, hostAddr⟩] ++ []))
      fun answer => observedHostInterfaces lib (answer ⟨containerName node, hostLink⟩)
        (answer ⟨containerName node, hostAddr⟩) := by
    refine (run_asks hlink).bind (fun link => (run_asks haddr).bind (fun addr => asks_check _)
      fun _ hq => absurd hq List.not_mem_nil) ?_
    simp [hostLink, hostAddr]
  have hreachability : Asks runner (hostReachability lib runner node)
      ([⟨containerName node, pingCommand node⟩] ++ [])
      fun answer => observedReachability lib node (answer ⟨containerName node, pingCommand node⟩) :=
    (run_asks hping).bind (fun ping => asks_check _) fun _ hq =>
      absurd hq List.not_mem_nil
  refine hinterfaces.bind (fun interfaces => ?_) (by simp [hostLink, hostAddr, pingCommand])
  exact hreachability.bind (fun reachability => asks_check _) fun _ hq => absurd hq List.not_mem_nil

theorem collectNode_asks (hnode : node ∈ routerNodes ++ hostNodes) :
    Asks runner (collectNode lib runner collectedAt source node) (nodeCommands node)
      (nodeOutcome lib collectedAt source node) := by
  unfold collectNode nodeOutcome
  by_cases hrouter : node ∈ routerNodes
  · simp only [if_pos hrouter]
    exact collectRouter_asks hrouter
  · simp only [if_neg hrouter]
    exact collectHost_asks ((List.mem_append.1 hnode).resolve_left hrouter) hrouter

/-- **A collection asks the commands of the lab**, and what it makes of the answers is what
`assembled` makes of them. -/
theorem collect_asks (collectionId : String) :
    Asks runner (collect lib runner collectedAt collectionId) labCommands
      (assembled lib collectedAt collectionId) := by
  have hnodes : ∀ source, Asks runner
      ((routerNodes ++ hostNodes).mapM (collectNode lib runner collectedAt source)) labCommands
      fun answer => (routerNodes ++ hostNodes).mapM fun node =>
        nodeOutcome lib collectedAt source node answer :=
    fun source => .mapM (fun node hnode => collectNode_asks hnode) labCommands_checked.2
  have hsource : Asks runner (liftM (passOn (CollectionSource.new collectorName lab1LabName
      collectionId)) : Collecting CollectionSource) [] fun _ =>
        passOn (CollectionSource.new collectorName lab1LabName collectionId) := asks_check _
  have hfabric : ∀ nodes, Asks runner (liftM (passOn (FabricOperationalState.new collectionId
      collectedAt nodes)) : Collecting FabricOperationalState) [] fun _ =>
        passOn (FabricOperationalState.new collectionId collectedAt nodes) := fun _ => asks_check _
  have hall := hsource.bind (fun source => (hnodes source).bind hfabric
    fun _ hq => absurd hq List.not_mem_nil) fun _ _ => List.not_mem_nil
  rwa [List.append_nil, List.nil_append] at hall

end ContainerlabFrr
end MetaRne
