/-
# The BGP neighbours of a text

Which neighbour statements a text makes, read off its lines without the parser's
state: only whether a `router bgp` block is open is carried along.  The parser
keeps one neighbour for each of them (`neighborIps_of_accepted`); unlike interfaces
and ACLs, which it keeps by name, it does not ask whether the neighbour is there
already.
-/

import MetaRne.Adapters.ParsedConfiguration
import MetaRne.Adapters.Vendors

namespace MetaRne

open Library Library.Effect Library.Regex Library.Regex.Matcher Python

/-- The open block is one of BGP. -/
def Context.isBgp : Context → Bool
  | .bgp => true
  | _ => false

/-- The line opens a `router bgp` block. -/
def Declaration.isRouterBgp : Declaration → Bool
  | .routerBgp => true
  | _ => false

namespace Dialect

variable {d : Dialect} {s s' : ParserState} {line : SourceLine}

/-- Whether a BGP block is open after a line. -/
def bgpOpenAfter (d : Dialect) (isOpen : Bool) (line : SourceLine) : Bool :=
  match line.kind with
  | .blank => isOpen
  | .terminator => false
  | .topLevel => (d.declaration line.stripped).isRouterBgp
  | .child => isOpen

/-- The address that a line of an open BGP block states a neighbour for. -/
def neighborStatement (isOpen : Bool) (line : SourceLine) : Option ℕ :=
  match line.kind with
  | .child => if isOpen then (bgpNeighborRe.match? line.stripped).bind fun found =>
      ipv4Address found.1.toList else none
  | _ => none

/-- The addresses that the lines state neighbours for. -/
def neighborStatements (d : Dialect) : Bool → List SourceLine → List ℕ
  | _, [] => []
  | isOpen, line :: rest => (neighborStatement isOpen line).toList ++
      neighborStatements d (d.bgpOpenAfter isOpen line) rest

/-- The addresses that a text states BGP neighbours for, in order. -/
def neighborAddresses (d : Dialect) (text : String) : List ℕ :=
  d.neighborStatements false (sourceLines text)

/-- What a neighbour that passes its checks is. -/
theorem eq_of_tryNormalizeBgpNeighbor {neighborIpText remoteAsText : String}
    {neighbor : NormalizedBgpNeighbor}
    (h : tryNormalizeBgpNeighbor neighborIpText remoteAsText = .ok neighbor) :
    ∃ address, ipv4Address neighborIpText.toList = some address ∧
      pyInt remoteAsText.toList = .ok neighbor.remoteAs ∧ 0 < neighbor.remoteAs ∧
      neighbor.neighborIp = ipv4Text address := by
  unfold tryNormalizeBgpNeighbor at h
  cases haddress : ipv4Address neighborIpText.toList with
  | none => simp only [haddress] at h; cases h
  | some address =>
      cases hremote : pyInt remoteAsText.toList with
      | error e => simp only [haddress, hremote] at h; cases h
      | ok remoteAs =>
          simp only [haddress, hremote] at h
          split_ifs at h with hle
          cases h
          exact ⟨address, rfl, rfl, not_le.1 hle, rfl⟩

/-- **A line keeps track of the open BGP block, and adds the neighbour it states.** -/
theorem Reads.neighbors (h : Reads d s line s') :
    s'.context.isBgp = d.bgpOpenAfter s.context.isBgp line ∧
      s'.bgpNeighbors.map (·.neighborIp) = s.bgpNeighbors.map (·.neighborIp) ++
        ((neighborStatement s.context.isBgp line).toList).map ipv4Text := by
  unfold bgpOpenAfter neighborStatement
  cases h with
  | blank hkind => simp [hkind]
  | terminator hkind => simp [hkind, ParserState.close, Context.isBgp]
  | hostname name hkind hline =>
      simp [hkind, hline, ParserState.close, Context.isBgp, Declaration.isRouterBgp]
  | interface name hkind hline =>
      simp [hkind, hline, ParserState.openInterface, Context.isBgp, Declaration.isRouterBgp]
  | namedAcl name hkind hline =>
      simp [hkind, hline, ParserState.openAcl, Context.isBgp, Declaration.isRouterBgp]
  | numberedAcl number tokens entry hkind hline =>
      simp [hkind, hline, ParserState.appendEntry, ParserState.close, Context.isBgp,
        Declaration.isRouterBgp]
  | routerBgp hkind hline => simp [hkind, hline, Context.isBgp, Declaration.isRouterBgp]
  | unrecognized hkind hline =>
      simp [hkind, hline, ParserState.close, Context.isBgp, Declaration.isRouterBgp]
  | ignored hkind hbgp =>
      refine ⟨by simp [hkind], ?_⟩
      cases hcontext : s.context with
      | bgp => simp [hkind, hbgp hcontext]
      | none => simp [hkind, Context.isBgp]
      | interface name => simp [hkind, Context.isBgp]
      | acl name => simp [hkind, Context.isBgp]
  | interfaceLine name builder configured hkind hcontext =>
      simp [hkind, hcontext, Context.isBgp]
  | aclLine name tokens entry hkind hcontext =>
      simp [hkind, hcontext, Context.isBgp, ParserState.appendEntry]
  | bgpLine found neighbor hkind hcontext hline hneighbor =>
      obtain ⟨address, haddress, -, -, hip⟩ := eq_of_tryNormalizeBgpNeighbor hneighbor
      simp [hkind, hcontext, Context.isBgp, hline, haddress, hip]

/-- **The neighbours of the lines are those that they state.** -/
theorem neighborIps_of_foldlM {lines : List SourceLine} (h : lines.foldlM d.readLine s = .ok s') :
    s'.bgpNeighbors.map (·.neighborIp) = s.bgpNeighbors.map (·.neighborIp) ++
      (d.neighborStatements s.context.isBgp lines).map ipv4Text := by
  induction lines generalizing s with
  | nil =>
      cases h
      rw [neighborStatements, List.map_nil, List.append_nil]
  | cons line lines ih =>
      rw [List.foldlM_cons] at h
      obtain ⟨s₁, hline, hrest⟩ := except_bind_eq_ok.1 h
      obtain ⟨hopen, hneighbors⟩ := (reads_of_readLine hline).neighbors
      rw [ih hrest, hneighbors, hopen, neighborStatements, List.map_append, List.append_assoc]

theorem neighborStatements_lt (d : Dialect) (isOpen : Bool) (lines : List SourceLine) :
    ∀ n ∈ d.neighborStatements isOpen lines, n < 2 ^ 32 := by
  induction lines generalizing isOpen with
  | nil => exact nofun
  | cons line lines ih =>
      intro n hn
      rw [neighborStatements, List.mem_append, Option.mem_toList] at hn
      rcases hn with hn | hn
      · unfold neighborStatement at hn
        split at hn
        · split_ifs at hn
          obtain ⟨found, -, haddress⟩ := Option.bind_eq_some_iff.1 hn
          exact ipv4Address_lt haddress
        · cases hn
      · exact ih _ n hn

/-- **The neighbours of an accepted text**, in some order. -/
theorem neighborIps_of_accepted {text : String} {config : NormalizedConfiguration}
    (h : d.parse text = .ok (.inl config)) :
    (config.routing.bgpNeighbors.map (·.neighborIp)).Perm
      ((d.neighborAddresses text).map ipv4Text) := by
  obtain ⟨s, hostname, hlines, -, -, rfl⟩ := parse_eq_ok h
  have hneighbors := neighborIps_of_foldlM hlines
  refine ((List.perm_insertionSort _ _).map _).trans ?_
  rw [hneighbors]
  exact List.Perm.refl _

/-- **The neighbours of an accepted text are distinct exactly where the addresses that
it states are.** -/
theorem nodup_neighborIps_iff {text : String} {config : NormalizedConfiguration}
    (h : d.parse text = .ok (.inl config)) :
    (config.routing.bgpNeighbors.map (·.neighborIp)).Nodup ↔ (d.neighborAddresses text).Nodup := by
  rw [(neighborIps_of_accepted h).nodup_iff]
  refine ⟨List.Nodup.of_map _, fun hnodup => hnodup.map_on fun m hm n hn hsame => ?_⟩
  exact (ipv4Text_inj (neighborStatements_lt d _ _ m hm) (neighborStatements_lt d _ _ n hn)).1 hsame

end Dialect
end MetaRne
