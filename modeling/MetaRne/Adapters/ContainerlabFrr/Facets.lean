/-
# Facet by facet

What the commands of a facet say of it (`interfacesRead`, `bgpRead`, `routesRead`,
`reachabilityRead`): what their output parses to, or nothing where a command failed or its
output does not parse.  The state of a node has exactly this in each facet and marks the
others unavailable (`RouterReads`, `HostReads`).

The domain model checks a facet as a whole only when the node is built, outside of the
guard around a command.  So a router whose interfaces or routes parse, but come up twice,
makes the whole collection raise (`routerOutcome_isOk_iff`).
-/

import MetaRne.Adapters.ContainerlabFrr.Collected

namespace MetaRne
namespace ContainerlabFrr

open Library Library.Effect Library.Regex Library.Regex.Matcher Python

variable (lib : Builtins)

/-- What a command says: what its output parses to, where it succeeded. -/
def outputOf {α : Type} (parse : List Char → Except Raised α) (result : CommandResult) :
    Option α :=
  if result.returncode = 0 then (parse result.stdout).toOption else none

/-- What the commands of a router's interfaces say. -/
def interfacesRead (node : String) (answer : Answers) : Option (List InterfaceObservation) :=
  outputOf (parseIpJsonInterfaces lib) (answer ⟨containerName node, routerInterfaces⟩)

/-- What the command of a router's sessions says. -/
def bgpRead (node : String) (answer : Answers) : Option BgpObservation :=
  outputOf (parseBgpSummary lib) (answer ⟨containerName node, routerBgp⟩)

/-- What the command of a router's routes says. -/
def routesRead (node : String) (answer : Answers) : Option (List RouteObservation) :=
  outputOf (parseFrrRoutes lib) (answer ⟨containerName node, routerRoutes⟩)

/-- What the two commands of a host's interfaces say. -/
def hostInterfacesRead (node : String) (answer : Answers) : Option (List InterfaceObservation) :=
  let link := answer ⟨containerName node, hostLink⟩
  if link.returncode = 0 then
    outputOf (parseIpOnelineInterfaces lib link.stdout) (answer ⟨containerName node, hostAddr⟩)
  else none

/-- What the `ping` of a host says, however it exited. -/
def reachabilityRead (node : String) (answer : Answers) : Option (ℤ × ℤ) :=
  (parsePingSummary (answer ⟨containerName node, pingCommand node⟩).stdout).toOption

/-! ### One facet -/

/-- What was seen of a facet: its reading, or a problem that names the facet. -/
structure Observes {α : Type} (facet : ObservationFacet) (reading : Option α)
    (seen : Option α × Option UnavailableObservation) : Prop where
  data : seen.1 = reading
  facet : ∀ problem ∈ seen.2, problem.facet = facet
  unavailable : seen.2.isSome ↔ reading = none

section

variable {lib} {α : Type} {facet : ObservationFacet}

theorem passOn_eq_ok {x : Except Error α} {a : α} : passOn x = .ok a ↔ x = .ok a := by
  cases x with
  | ok b =>
      change Except.ok b = Except.ok a ↔ Except.ok b = Except.ok a
      rw [Except.ok.injEq, Except.ok.injEq]
  | error e => exact iff_of_false (fun h => by cases h) fun h => by cases h

theorem observes_some (a : α) : Observes facet (some a) (some a, none) :=
  ⟨rfl, fun _ h => (Option.some_ne_none _ h.symm).elim,
    iff_of_false Bool.false_ne_true (Option.some_ne_none a)⟩

theorem unavailableFor_observes {reason : String} (h : isBlank reason = false) :
    ∃ seen, unavailableFor facet reason = .ok seen ∧ Observes facet (none : Option α) seen := by
  have hproblem : UnavailableObservation.new facet reason = .ok ⟨facet, reason, h⟩ := by
    rw [UnavailableObservation.new, requireNonEmpty_eq_ok (h := ⟨h⟩)]
    rfl
  refine ⟨(none, some ⟨facet, reason, h⟩), ?_, rfl, fun problem hproblem => ?_, ?_⟩
  · rw [unavailableFor, hproblem]
    rfl
  · cases hproblem
    rfl
  · exact iff_of_true rfl rfl

theorem failureReason_not_blank (argv : Argv) (result : CommandResult) :
    isBlank (failureReason argv result) = false := by
  have hquote : ∀ rest, isBlank ("'" ++ rest) = false :=
    fun rest => isBlank_append_of_left (by decide) rest
  unfold failureReason
  dsimp only
  split_ifs
  · rw [String.append_assoc, String.append_assoc]
    exact hquote _
  · rw [String.append_assoc, String.append_assoc, String.append_assoc, String.append_assoc]
    exact hquote _

/-- **A guarded parser** reads what it parses, and else marks the facet. -/
theorem parsed_observes {output : Except Raised α} (h : RaisesOnly IsOutputParse output) :
    ∃ seen, parsed lib facet output = .ok seen ∧ Observes facet output.toOption seen := by
  cases output with
  | ok a => exact ⟨_, rfl, observes_some a⟩
  | error raised =>
      cases raised with
      | outputParse message values =>
          exact unavailableFor_observes (isBlank_append_of_left (by decide) _)
      | _ => exact (h _ rfl).elim

theorem observed_observes (lib : Builtins) (facet : ObservationFacet) (argv : Argv)
    {parse : List Char → Except Raised α} (h : ∀ text, RaisesOnly IsOutputParse (parse text))
    (result : CommandResult) : ∃ seen, observed lib facet argv parse result = .ok seen ∧
      Observes facet (outputOf parse result) seen := by
  unfold observed outputOf
  by_cases hcode : result.returncode = 0
  · rw [if_neg (not_not_intro hcode), if_pos hcode]
    exact parsed_observes (h _)
  · rw [if_pos hcode, if_neg hcode]
    exact unavailableFor_observes (failureReason_not_blank _ _)

theorem observedHostInterfaces_observes (lib : Builtins) (node : String) (answer : Answers) :
    ∃ seen, observedHostInterfaces lib (answer ⟨containerName node, hostLink⟩)
        (answer ⟨containerName node, hostAddr⟩) = .ok seen ∧
      Observes .interfaces (hostInterfacesRead lib node answer) seen := by
  unfold observedHostInterfaces hostInterfacesRead outputOf
  dsimp only
  by_cases hlink : (answer ⟨containerName node, hostLink⟩).returncode = 0
  · rw [if_neg (not_not_intro hlink), if_pos hlink]
    by_cases haddr : (answer ⟨containerName node, hostAddr⟩).returncode = 0
    · rw [if_neg (not_not_intro haddr), if_pos haddr]
      exact parsed_observes parseIpOnelineInterfaces_raises
    · rw [if_pos haddr, if_neg haddr]
      exact unavailableFor_observes (failureReason_not_blank _ _)
  · rw [if_pos hlink, if_neg hlink]
    exact unavailableFor_observes (failureReason_not_blank _ _)

/-! ### Counts -/

/-- Digits denote no negative number. -/
theorem pyInt_nonneg {text : List Char} (hne : text ≠ [])
    (hall : ∀ c ∈ text, isDecimal c = true) {n : ℤ} (h : pyInt text = .ok n) : 0 ≤ n := by
  have hsign : splitSign text = (1, text) := by
    unfold splitSign
    split
    · exact absurd (hall '+' (List.mem_cons_self ..)) (by decide)
    · exact absurd (hall '-' (List.mem_cons_self ..)) (by decide)
    · rfl
  unfold pyInt at h
  rw [hsign] at h
  dsimp only at h
  split at h
  · cases h
  · split_ifs at h
    rw [← Except.ok.inj h, one_mul]
    exact Int.natCast_nonneg _

/-- What the summary of a `ping` captures: two runs of digits and the words between them. -/
theorem of_match?_pingSummary {text : List Char} {sent received : String}
    (h : pingSummary.match? text = some (sent, received)) :
    (∃ rest, text = sent.toList ++ (" packets transmitted, ".toList ++ (received.toList ++
      (" packets received".toList ++ rest)))) ∧
      (sent.toList ≠ [] ∧ ∀ c ∈ sent.toList, isDecimal c = true) ∧
      received.toList ≠ [] ∧ ∀ c ∈ received.toList, isDecimal c = true := by
  obtain ⟨rest, hmem⟩ := mem_of_match? h
  obtain ⟨_, _, hsent, hmem⟩ := mem_bind.1 hmem
  obtain ⟨_, _, hwords, hmem⟩ := mem_bind.1 hmem
  obtain ⟨_, _, hreceived, hmem⟩ := mem_bind.1 hmem
  obtain ⟨_, _, hend, hmem⟩ := mem_bind.1 hmem
  cases mem_pure.1 hmem
  obtain ⟨rfl, hsentAll, hsentNe⟩ := mem_plus.1 hsent
  obtain ⟨rfl, rfl⟩ := mem_literal.1 hwords
  obtain ⟨rfl, hreceivedAll, hreceivedNe⟩ := mem_plus.1 hreceived
  obtain ⟨rfl, rfl⟩ := mem_literal.1 hend
  exact ⟨⟨rest, rfl⟩, ⟨hsentNe, hsentAll⟩, hreceivedNe, hreceivedAll⟩

/-- **The counts of a `ping`** are those of its first summary, and plausible. -/
theorem parsePingSummary_eq_ok {text : List Char} {sent received : ℤ}
    (h : parsePingSummary text = .ok (sent, received)) :
    (∃ sentText receivedText, search pingSummary text = some (sentText, receivedText) ∧
      pyInt sentText.toList = .ok sent ∧ pyInt receivedText.toList = .ok received) ∧
      0 < sent ∧ 0 ≤ received ∧ received ≤ sent := by
  have h := translate_eq_ok.1 h
  cases hsearch : search pingSummary text with
  | none =>
      rw [hsearch] at h
      cases h
  | some found =>
      rw [hsearch] at h
      obtain ⟨n, hn, h⟩ := except_bind_eq_ok.1 h
      obtain ⟨k, hk, h⟩ := except_bind_eq_ok.1 h
      obtain ⟨hcounts, h⟩ := raiseIf_bind_eq_ok.1 h
      cases h
      rw [passOn_eq_ok] at hn hk
      obtain ⟨_, after, rfl, hmatch, -⟩ := search_eq_some hsearch
      obtain ⟨-, -, hne, hall⟩ := of_match?_pingSummary hmatch
      refine ⟨⟨found.1, found.2, rfl, hn, hk⟩, ?_, pyInt_nonneg hne hall hk, ?_⟩ <;> omega

theorem pingTarget_valid {node : String} (h : node ∈ hostNodes) :
    isIpAddress (pingTarget node) = true := by
  have hall : (hostNodes.all fun node => isIpAddress (pingTarget node)) = true := by decide +kernel
  exact List.all_eq_true.1 hall node h

theorem node_not_blank {node : String} (h : node ∈ routerNodes ++ hostNodes) :
    isBlank node = false := by
  have hall : ((routerNodes ++ hostNodes).all fun node => !isBlank node) = true := by decide
  have hnode := List.all_eq_true.1 hall node h
  rwa [Bool.not_eq_true'] at hnode

/-- A probe with these counts, of this host to its target. -/
structure Probes (node : String) (counts : ℤ × ℤ) (probe : ReachabilityObservation) : Prop where
  fromNode : probe.fromNode = node
  target : probe.target = pingTarget node
  sent : (probe.sent : ℤ) = counts.1
  received : (probe.received : ℤ) = counts.2

/-- **The reachability of a host** is the probe that its `ping` counts, if it counts one. -/
theorem observedReachability_observes (lib : Builtins) {node : String} (hnode : node ∈ hostNodes)
    (answer : Answers) : ∃ seen reading, observedReachability lib node
        (answer ⟨containerName node, pingCommand node⟩) = .ok seen ∧
      Observes .reachability reading seen ∧
      List.Forall₂ (Probes node) (reachabilityRead node answer).toList (reading.getD []) ∧
      (reading = none ↔ reachabilityRead node answer = none) := by
  have hblank := node_not_blank (List.mem_append_right _ hnode)
  unfold observedReachability reachabilityRead
  cases hparse : parsePingSummary (answer ⟨containerName node, pingCommand node⟩).stdout with
  | ok counts =>
      obtain ⟨-, hsent, hreceived, hle⟩ := parsePingSummary_eq_ok hparse
      let probe : ReachabilityObservation := ⟨node, pingTarget node, counts.1.toNat,
        counts.2.toNat, hblank, pingTarget_valid hnode, by omega, by omega⟩
      have hsentCast : ((probe.sent : ℕ) : ℤ) = counts.1 := Int.toNat_of_nonneg hsent.le
      have hreceivedCast : ((probe.received : ℕ) : ℤ) = counts.2 := Int.toNat_of_nonneg hreceived
      have hprobe := ReachabilityObservation.new_self probe
      rw [hsentCast, hreceivedCast] at hprobe
      refine ⟨(some [probe], none), some [probe], ?_, observes_some _, ?_, ?_⟩
      · change (passOn (ReachabilityObservation.new node (pingTarget node) counts.1 counts.2) >>=
          fun probe => pure (some [probe], none)) = _
        rw [hprobe]
        rfl
      · exact .cons ⟨rfl, rfl, hsentCast, hreceivedCast⟩ .nil
      · exact iff_of_false (Option.some_ne_none _) (Option.some_ne_none _)
  | error raised =>
      cases raised with
      | outputParse message values =>
          have hreason : isBlank (if (answer ⟨containerName node, pingCommand node⟩).returncode ≠ 0
              then failureReason (pingCommand node) (answer ⟨containerName node, pingCommand node⟩)
              else "unparseable output: " ++ lib.format message values) = false := by
            split_ifs
            · exact failureReason_not_blank _ _
            · exact isBlank_append_of_left (by decide) _
          obtain ⟨seen, hseen, hobserves⟩ : ∃ seen, unavailableFor .reachability _ = .ok seen ∧
              Observes .reachability (none : Option (List ReachabilityObservation)) seen :=
            unavailableFor_observes hreason
          exact ⟨seen, none, hseen, hobserves, .nil, iff_of_true rfl rfl⟩
      | _ => exact (parsePingSummary_raises _ hparse).elim

/-! ### One node -/

/-- The facet that is marked is the one without a reading. -/
theorem Observes.marks_iff {reading : Option α}
    {seen : Option α × Option UnavailableObservation} (h : Observes facet reading seen)
    (other : ObservationFacet) :
    (seen.2.any fun problem => problem.facet == other) = true ↔ other = facet ∧ reading = none := by
  cases hseen : seen.2 with
  | none =>
      have hnone := h.unavailable.not.1 (by rw [hseen]; exact Bool.false_ne_true)
      exact iff_of_false Bool.false_ne_true fun hmark => hnone hmark.2
  | some problem =>
      have hreading := h.unavailable.1 (by rw [hseen]; rfl)
      rw [Option.any_some, beq_iff_eq, h.facet problem hseen, and_iff_left hreading]
      exact eq_comm

theorem facetUnavailable_filterMap (problems : List (Option UnavailableObservation))
    (facet : ObservationFacet) : facetUnavailable (problems.filterMap id) facet =
      problems.any fun problem => problem.any fun item => item.facet == facet := by
  rw [facetUnavailable, List.any_filterMap]
  rfl

/-- **The state of a router**: in each facet what its command says, and marked where it says
nothing. -/
structure RouterReads (lib : Builtins) (answer : Answers) (state : NormalizedOperationalState) :
    Prop where
  role : state.role = .router
  interfaces : state.interfaces = (interfacesRead lib state.nodeId answer).getD []
  bgp : state.bgp = bgpRead lib state.nodeId answer
  routes : state.routes = (routesRead lib state.nodeId answer).getD []
  reachability : state.reachability = []
  unavailable : ∀ facet, state.isUnavailable facet = true ↔
    (facet = .interfaces ∧ interfacesRead lib state.nodeId answer = none) ∨
      (facet = .bgp ∧ bgpRead lib state.nodeId answer = none) ∨
      (facet = .routes ∧ routesRead lib state.nodeId answer = none)

/-- **The state of a host**, likewise. -/
structure HostReads (lib : Builtins) (answer : Answers) (state : NormalizedOperationalState) :
    Prop where
  role : state.role = .host
  interfaces : state.interfaces = (hostInterfacesRead lib state.nodeId answer).getD []
  bgp : state.bgp = none
  routes : state.routes = []
  reachability : List.Forall₂ (Probes state.nodeId) (reachabilityRead state.nodeId answer).toList
    state.reachability
  unavailable : ∀ facet, state.isUnavailable facet = true ↔
    (facet = .interfaces ∧ hostInterfacesRead lib state.nodeId answer = none) ∨
      (facet = .reachability ∧ reachabilityRead state.nodeId answer = none)

/-- No name of an interface and no pair of prefix and protocol comes up twice in what a
router's commands say. -/
def NamesOnce (lib : Builtins) (answer : Answers) (node : String) : Prop :=
  (∀ interfaces ∈ interfacesRead lib node answer, (interfaces.map (·.name)).Nodup) ∧
    ∀ routes ∈ routesRead lib node answer,
      (routes.map fun route => route.prefixText ++ "|" ++ route.protocol).Nodup

variable {collectedAt : Datetime} {source : CollectionSource} {node : String} {answer : Answers}

theorem nodup_getD {β κ : Type} {key : β → κ} {reading : Option (List β)}
    (h : ∀ items ∈ reading, (items.map key).Nodup) : ((reading.getD []).map key).Nodup := by
  cases reading with
  | none => exact List.nodup_nil
  | some items => exact h items rfl

theorem getD_eq_nil {β : Type} {reading : Option (List β)} (h : reading = none) :
    reading.getD [] = [] := by
  rw [h]
  rfl

variable (lib collectedAt source node answer) in
theorem routerOutcome_eq : ∃ interfaces bgp routes,
    Observes .interfaces (interfacesRead lib node answer) interfaces ∧
      Observes .bgp (bgpRead lib node answer) bgp ∧
      Observes .routes (routesRead lib node answer) routes ∧
      routerOutcome lib collectedAt source node answer =
        routerState node collectedAt source interfaces bgp routes := by
  obtain ⟨interfaces, hinterfaces, hreads⟩ := observed_observes lib .interfaces routerInterfaces
    (fun _ => @parseIpJsonInterfaces_raises lib _) (answer ⟨containerName node, routerInterfaces⟩)
  obtain ⟨bgp, hbgp, hreads'⟩ := observed_observes lib .bgp routerBgp
    (fun _ => @parseBgpSummary_raises lib _) (answer ⟨containerName node, routerBgp⟩)
  obtain ⟨routes, hroutes, hreads''⟩ := observed_observes lib .routes routerRoutes
    (fun _ => @parseFrrRoutes_raises lib _) (answer ⟨containerName node, routerRoutes⟩)
  refine ⟨interfaces, bgp, routes, hreads, hreads', hreads'', ?_⟩
  rw [routerOutcome, hinterfaces, ok_bind, hbgp, ok_bind, hroutes, ok_bind]

variable (lib collectedAt source answer) in
theorem hostOutcome_eq (hnode : node ∈ hostNodes) : ∃ interfaces reachability reading,
    Observes .interfaces (hostInterfacesRead lib node answer) interfaces ∧
      Observes .reachability reading reachability ∧
      List.Forall₂ (Probes node) (reachabilityRead node answer).toList (reading.getD []) ∧
      (reading = none ↔ reachabilityRead node answer = none) ∧
      hostOutcome lib collectedAt source node answer =
        hostState node collectedAt source interfaces reachability := by
  obtain ⟨interfaces, hinterfaces, hreads⟩ := observedHostInterfaces_observes lib node answer
  obtain ⟨reachability, reading, hreachability, hreads', hprobes, hnone⟩ :=
    observedReachability_observes lib hnode answer
  refine ⟨interfaces, reachability, reading, hreads, hreads', hprobes, hnone, ?_⟩
  rw [hostOutcome, hinterfaces, ok_bind, hreachability, ok_bind]

/-- **A router that is built has in each facet what its command says.** -/
theorem routerOutcome_reads {state : NormalizedOperationalState}
    (h : routerOutcome lib collectedAt source node answer = .ok state) :
    state.nodeId = node ∧ state.source = source ∧ collectedAt = .utc state.collectedAt ∧
      RouterReads lib answer state := by
  obtain ⟨interfaces, bgp, routes, hinterfaces, hbgp, hroutes, heq⟩ :=
    routerOutcome_eq lib collectedAt source node answer
  rw [heq, routerState, passOn_eq_ok] at h
  obtain ⟨rfl, hrole, htime, hsource, hin, hb, hr, hreach, hun⟩ := NormalizedOperationalState.of_new h
  refine ⟨rfl, hsource, htime, hrole, ?_, ?_, ?_, hreach, fun facet => ?_⟩
  · rw [hin, hinterfaces.data]
  · rw [hb, hbgp.data]
  · rw [hr, hroutes.data]
  · rw [NormalizedOperationalState.isUnavailable, hun, facetUnavailable_filterMap]
    simp only [List.any_cons, List.any_nil, Bool.or_eq_true, Bool.or_false, hinterfaces.marks_iff,
      hbgp.marks_iff, hroutes.marks_iff]

/-- **A host that is built**, likewise. -/
theorem hostOutcome_reads (hnode : node ∈ hostNodes) {state : NormalizedOperationalState}
    (h : hostOutcome lib collectedAt source node answer = .ok state) :
    state.nodeId = node ∧ state.source = source ∧ collectedAt = .utc state.collectedAt ∧
      HostReads lib answer state := by
  obtain ⟨interfaces, reachability, reading, hinterfaces, hreachability, hprobes, hnone, heq⟩ :=
    hostOutcome_eq lib collectedAt source answer hnode
  rw [heq, hostState, passOn_eq_ok] at h
  obtain ⟨rfl, hrole, htime, hsource, hin, hb, hr, hreach, hun⟩ := NormalizedOperationalState.of_new h
  refine ⟨rfl, hsource, htime, hrole, ?_, hb, hr, ?_, fun facet => ?_⟩
  · rw [hin, hinterfaces.data]
  · rw [hreach, hreachability.data]
    exact hprobes
  · rw [NormalizedOperationalState.isUnavailable, hun, facetUnavailable_filterMap]
    simp only [List.any_cons, List.any_nil, Bool.or_eq_true, Bool.or_false, hinterfaces.marks_iff,
      hreachability.marks_iff, hnone]

/-- **A router is built unless something comes up twice.** -/
theorem routerOutcome_isOk_iff (time : Timestamp) (hnode : node ∈ routerNodes) :
    (∃ state, routerOutcome lib (.utc time) source node answer = .ok state) ↔
      NamesOnce lib answer node := by
  constructor
  · rintro ⟨state, h⟩
    obtain ⟨rfl, -, -, hreads⟩ := routerOutcome_reads h
    constructor
    · intro interfaces hmem
      have hnodup := state.interfaces_nodup
      rwa [hreads.interfaces, hmem] at hnodup
    · intro routes hmem
      have hnodup := state.routes_nodup
      rwa [hreads.routes, hmem] at hnodup
  · rintro ⟨hnames, hkeys⟩
    obtain ⟨interfaces, bgp, routes, hinterfaces, hbgp, hroutes, heq⟩ :=
      routerOutcome_eq lib (.utc time) source node answer
    have hmarks : ∀ facet, facetUnavailable ([interfaces.2, bgp.2, routes.2].filterMap id) facet = true ↔
        (facet = .interfaces ∧ interfacesRead lib node answer = none) ∨
          (facet = .bgp ∧ bgpRead lib node answer = none) ∨
          (facet = .routes ∧ routesRead lib node answer = none) := by
      intro facet
      rw [facetUnavailable_filterMap]
      simp only [List.any_cons, List.any_nil, Bool.or_eq_true, Bool.or_false,
        hinterfaces.marks_iff, hbgp.marks_iff, hroutes.marks_iff]
    have hfacets : (([interfaces.2, bgp.2, routes.2].filterMap id).map (·.facet)).Nodup := by
      rw [List.Nodup, List.pairwise_map, List.pairwise_filterMap]
      simp only [List.pairwise_cons, List.mem_cons, List.not_mem_nil, or_false, id_eq,
        forall_eq_or_imp, forall_eq, false_implies, implies_true, List.Pairwise.nil, and_true]
      refine ⟨⟨fun p hp q hq => ?_, fun p hp q hq => ?_⟩, fun p hp q hq => ?_⟩
      · rw [hinterfaces.facet p hp, hbgp.facet q hq]
        decide
      · rw [hinterfaces.facet p hp, hroutes.facet q hq]
        decide
      · rw [hbgp.facet p hp, hroutes.facet q hq]
        decide
    let state : NormalizedOperationalState := {
      nodeId := node
      role := .router
      collectedAt := time
      source := source
      interfaces := interfaces.1.getD []
      bgp := bgp.1
      routes := routes.1.getD []
      reachability := []
      unavailable := [interfaces.2, bgp.2, routes.2].filterMap id
      nodeId_not_blank := node_not_blank (List.mem_append_left _ hnode)
      interfaces_nodup := by
        rw [hinterfaces.data]
        exact nodup_getD hnames
      routes_nodup := by
        rw [hroutes.data]
        exact nodup_getD hkeys
      unavailable_nodup := hfacets
      interfaces_unavailable := fun h => by
        rw [hinterfaces.data]
        exact getD_eq_nil (by simpa using (hmarks _).1 h)
      routes_unavailable := fun h => by
        rw [hroutes.data]
        exact getD_eq_nil (by simpa using (hmarks _).1 h)
      reachability_unavailable := fun _ => rfl
      host_bgp := fun h => by cases h
      router_bgp := fun _ => by
        rw [hmarks, hbgp.data]
        simp }
    refine ⟨state, ?_⟩
    rw [heq, routerState, passOn_eq_ok]
    exact NormalizedOperationalState.new_self state

/-- **A host is always built.** -/
theorem hostOutcome_isOk (time : Timestamp) (hnode : node ∈ hostNodes)
    (hnames : ∀ interfaces ∈ hostInterfacesRead lib node answer, (interfaces.map (·.name)).Nodup) :
    ∃ state, hostOutcome lib (.utc time) source node answer = .ok state := by
  obtain ⟨interfaces, reachability, reading, hinterfaces, hreachability, hprobes, hnone, heq⟩ :=
    hostOutcome_eq lib (.utc time) source answer hnode
  have hmarks : ∀ facet, facetUnavailable ([interfaces.2, reachability.2].filterMap id) facet = true ↔
      (facet = .interfaces ∧ hostInterfacesRead lib node answer = none) ∨
        (facet = .reachability ∧ reading = none) := by
    intro facet
    rw [facetUnavailable_filterMap]
    simp only [List.any_cons, List.any_nil, Bool.or_eq_true, Bool.or_false,
      hinterfaces.marks_iff, hreachability.marks_iff]
  have hfacets : (([interfaces.2, reachability.2].filterMap id).map (·.facet)).Nodup := by
    rw [List.Nodup, List.pairwise_map, List.pairwise_filterMap]
    simp only [List.pairwise_cons, List.mem_cons, List.not_mem_nil, or_false, id_eq, forall_eq,
      false_implies, implies_true, List.Pairwise.nil, and_true]
    intro p hp q hq
    rw [hinterfaces.facet p hp, hreachability.facet q hq]
    decide
  let state : NormalizedOperationalState := {
    nodeId := node
    role := .host
    collectedAt := time
    source := source
    interfaces := interfaces.1.getD []
    bgp := none
    routes := []
    reachability := reachability.1.getD []
    unavailable := [interfaces.2, reachability.2].filterMap id
    nodeId_not_blank := node_not_blank (List.mem_append_right _ hnode)
    interfaces_nodup := by
      rw [hinterfaces.data]
      exact nodup_getD hnames
    routes_nodup := List.nodup_nil
    unavailable_nodup := hfacets
    interfaces_unavailable := fun h => by
      rw [hinterfaces.data]
      exact getD_eq_nil (by simpa using (hmarks _).1 h)
    routes_unavailable := fun _ => rfl
    reachability_unavailable := fun h => by
      rw [hreachability.data]
      exact getD_eq_nil (by simpa using (hmarks _).1 h)
    host_bgp := fun _ => ⟨rfl, Bool.eq_false_iff.2 fun h => by simpa using (hmarks _).1 h⟩
    router_bgp := fun h => by cases h }
  refine ⟨state, ?_⟩
  rw [heq, hostState, passOn_eq_ok]
  exact NormalizedOperationalState.new_self state

end

end ContainerlabFrr
end MetaRne
