/-
# What an adapter accepts

`Reads` lists everything that one line can do to the parser.  From it: every
builder is filed under its own name, through any lines (`readLines_filed`), and so
in every configuration that an adapter accepts the interfaces have distinct names,
the ACLs have distinct names, and an ACL that an interface names is declared.
-/

import Mathlib.Data.String.Basic
import MetaRne.Adapters.LineParser

namespace MetaRne

open Library Library.Effect Library.Regex Library.Regex.Matcher Python

theorem raising_eq_ok {α : Type} {x : Except Error α} {a : α} :
    raising x = .ok a ↔ x = .ok a := by
  cases x with
  | ok b =>
      constructor
      · intro h
        cases h
        rfl
      · intro h
        cases h
        rfl
  | error e => exact iff_of_false nofun nofun

namespace Dialect

variable {d : Dialect} {s s' : ParserState} {line : SourceLine}

/-- **Everything that a line can do**, where it is not rejected. -/
inductive Reads (d : Dialect) (s : ParserState) (line : SourceLine) : ParserState → Prop
  | blank (hkind : line.kind = .blank) : Reads d s line s
  | terminator (hkind : line.kind = .terminator) : Reads d s line s.close
  | hostname (name : String) (hkind : line.kind = .topLevel)
      (hline : d.declaration line.stripped = .hostname name) :
      Reads d s line { s.close with hostname := some name }
  | interface (name : String) (hkind : line.kind = .topLevel)
      (hline : d.declaration line.stripped = .interface name) :
      Reads d s line (s.openInterface name)
  | namedAcl (name : String) (hkind : line.kind = .topLevel)
      (hline : d.declaration line.stripped = .namedAcl name) : Reads d s line (s.openAcl name)
  | numberedAcl (number : String) (tokens : AclEntryTokens) (entry : PendingAclEntry)
      (hkind : line.kind = .topLevel)
      (hline : d.declaration line.stripped = .numberedAcl number tokens)
      (hentry : pendingEntry tokens = .ok entry) :
      Reads d s line (s.close.appendEntry number entry)
  | routerBgp (hkind : line.kind = .topLevel)
      (hline : d.declaration line.stripped = .routerBgp) :
      Reads d s line { s with context := .bgp }
  | unrecognized (hkind : line.kind = .topLevel)
      (hline : d.declaration line.stripped = .unrecognized) : Reads d s line s.close
  /-- An indented line that no block takes up. -/
  | ignored (hkind : line.kind = .child)
      (hbgp : s.context = .bgp → bgpNeighborRe.match? line.stripped = none) : Reads d s line s
  | interfaceLine (name : String) (builder configured : InterfaceBuilder)
      (hkind : line.kind = .child) (hcontext : s.context = .interface name)
      (hbuilder : s.interfaces.get? name = some builder)
      (hconfigured : d.configureInterface builder line = .ok configured) :
      Reads d s line { s with interfaces := s.interfaces.set name configured }
  | aclLine (name : String) (tokens : AclEntryTokens) (entry : PendingAclEntry)
      (hkind : line.kind = .child) (hcontext : s.context = .acl name)
      (hline : aclNamedEntryRe.match? line.stripped = some tokens)
      (hentry : pendingEntry tokens = .ok entry) : Reads d s line (s.appendEntry name entry)
  | bgpLine (found : String × String) (neighbor : NormalizedBgpNeighbor)
      (hkind : line.kind = .child) (hcontext : s.context = .bgp)
      (hline : bgpNeighborRe.match? line.stripped = some found)
      (hneighbor : tryNormalizeBgpNeighbor found.1 found.2 = .ok neighbor) :
      Reads d s line { s with bgpNeighbors := s.bgpNeighbors ++ [neighbor] }

theorem reads_of_readDeclaration (hkind : line.kind = .topLevel)
    (h : d.readDeclaration s line = .ok s') : Reads d s line s' := by
  unfold readDeclaration at h
  cases hline : d.declaration line.stripped with
  | hostname name =>
      simp only [hline] at h
      cases h
      exact .hostname name hkind hline
  | malformedHostname =>
      simp only [hline] at h
      cases h
  | interface name =>
      simp only [hline] at h
      cases h
      exact .interface name hkind hline
  | malformedInterface =>
      simp only [hline] at h
      cases h
  | namedAcl name =>
      simp only [hline] at h
      cases h
      exact .namedAcl name hkind hline
  | numberedAcl number tokens =>
      simp only [hline] at h
      obtain ⟨entry, hentry, hreturn⟩ := except_bind_eq_ok.1 h
      cases hreturn
      exact .numberedAcl number tokens entry hkind hline (raising_eq_ok.1 hentry)
  | routerBgp =>
      simp only [hline] at h
      cases h
      exact .routerBgp hkind hline
  | unrecognized =>
      simp only [hline] at h
      cases h
      exact .unrecognized hkind hline

theorem reads_of_readInterfaceLine {name : String} (hkind : line.kind = .child)
    (hcontext : s.context = .interface name) (h : d.readInterfaceLine s name line = .ok s') :
    Reads d s line s' := by
  unfold readInterfaceLine at h
  cases hbuilder : s.interfaces.get? name with
  | none =>
      simp only [hbuilder] at h
      cases h
      exact .ignored hkind fun hbgp => by rw [hcontext] at hbgp; cases hbgp
  | some builder =>
      simp only [hbuilder] at h
      obtain ⟨configured, hconfigured, hreturn⟩ := except_bind_eq_ok.1 h
      cases hreturn
      exact .interfaceLine name builder configured hkind hcontext hbuilder hconfigured

theorem reads_of_readAclLine {name : String} (hkind : line.kind = .child)
    (hcontext : s.context = .acl name) (h : readAclLine s name line = .ok s') :
    Reads d s line s' := by
  unfold readAclLine at h
  cases hline : aclNamedEntryRe.match? line.stripped with
  | none =>
      simp only [hline] at h
      cases h
      exact .ignored hkind fun hbgp => by rw [hcontext] at hbgp; cases hbgp
  | some tokens =>
      simp only [hline] at h
      obtain ⟨entry, hentry, hreturn⟩ := except_bind_eq_ok.1 h
      cases hreturn
      exact .aclLine name tokens entry hkind hcontext hline (raising_eq_ok.1 hentry)

theorem reads_of_readBgpLine (hkind : line.kind = .child) (hcontext : s.context = .bgp)
    (h : readBgpLine s line = .ok s') : Reads d s line s' := by
  unfold readBgpLine at h
  cases hline : bgpNeighborRe.match? line.stripped with
  | none =>
      simp only [hline] at h
      cases h
      exact .ignored hkind fun _ => hline
  | some found =>
      simp only [hline] at h
      cases hneighbor : tryNormalizeBgpNeighbor found.1 found.2 with
      | error code =>
          simp only [hneighbor] at h
          cases h
      | ok neighbor =>
          simp only [hneighbor] at h
          cases h
          exact .bgpLine found neighbor hkind hcontext hline hneighbor

/-- **A line that is not rejected does one of these things.** -/
theorem reads_of_readLine (h : d.readLine s line = .ok s') : Reads d s line s' := by
  unfold readLine at h
  cases hkind : line.kind with
  | blank =>
      simp only [hkind] at h
      cases h
      exact .blank hkind
  | terminator =>
      simp only [hkind] at h
      cases h
      exact .terminator hkind
  | topLevel =>
      simp only [hkind] at h
      exact reads_of_readDeclaration hkind h
  | child =>
      simp only [hkind] at h
      unfold readChild at h
      cases hcontext : s.context with
      | none =>
          simp only [hcontext] at h
          cases h
          exact .ignored hkind fun hbgp => by rw [hcontext] at hbgp; cases hbgp
      | interface name =>
          simp only [hcontext] at h
          exact reads_of_readInterfaceLine hkind hcontext h
      | acl name =>
          simp only [hcontext] at h
          exact reads_of_readAclLine hkind hcontext h
      | bgp =>
          simp only [hcontext] at h
          exact reads_of_readBgpLine hkind hcontext h

/-- What every line keeps is kept by all of them. -/
theorem foldlM_readLine_invariant {P : ParserState → Prop} {lines : List SourceLine}
    (hstep : ∀ line ∈ lines, ∀ {s s'}, Reads d s line s' → P s → P s')
    (h : lines.foldlM d.readLine s = .ok s') (hs : P s) : P s' := by
  induction lines generalizing s with
  | nil =>
      cases h
      exact hs
  | cons line lines ih =>
      rw [List.foldlM_cons] at h
      obtain ⟨s₁, hline, hrest⟩ := except_bind_eq_ok.1 h
      have hkept : P s₁ := hstep line (List.mem_cons_self ..) (reads_of_readLine hline) hs
      exact ih (fun line hmem => hstep line (List.mem_cons_of_mem _ hmem)) hrest hkept

/-! ### Builders are filed under their names -/

/-- Every builder is under its own name. -/
structure Filed (s : ParserState) : Prop where
  interfaces : ∀ {name builder}, s.interfaces.get? name = some builder → builder.name = name
  acls : ∀ {name builder}, s.acls.get? name = some builder → builder.name = name

theorem filed_initial : Filed .initial := ⟨nofun, nofun⟩

/-- **What a line of an interface block can do**: it keeps the name of the interface, and
an address that is new is the one that the line gives. -/
theorem of_configureInterface {builder configured : InterfaceBuilder}
    (h : d.configureInterface builder line = .ok configured) :
    configured.name = builder.name ∧ (configured.ipAddress = builder.ipAddress ∨
      ∃ address, d.interfaceCommand line.stripped = .ipAddress (.ok address) ∧
        configured.ipAddress = some address) := by
  unfold configureInterface at h
  cases hcommand : d.interfaceCommand line.stripped with
  | description text =>
      simp only [hcommand] at h
      cases h
      exact ⟨rfl, Or.inl rfl⟩
  | ipAddress parsed =>
      cases parsed with
      | error code =>
          simp only [hcommand] at h
          cases h
      | ok address =>
          simp only [hcommand] at h
          cases h
          exact ⟨rfl, Or.inr ⟨address, rfl, rfl⟩⟩
  | shutdown =>
      simp only [hcommand] at h
      cases h
      exact ⟨rfl, Or.inl rfl⟩
  | noShutdown =>
      simp only [hcommand] at h
      cases h
      exact ⟨rfl, Or.inl rfl⟩
  | accessGroup aclName directionText =>
      cases hdirection : AclDirection.ofValue? directionText with
      | none =>
          simp only [hcommand, hdirection] at h
          cases h
      | some direction =>
          cases direction with
          | «in» =>
              simp only [hcommand, hdirection] at h
              cases h
              exact ⟨rfl, Or.inl rfl⟩
          | out =>
              simp only [hcommand, hdirection] at h
              cases h
              exact ⟨rfl, Or.inl rfl⟩
  | unrecognized =>
      simp only [hcommand] at h
      cases h
      exact ⟨rfl, Or.inl rfl⟩

theorem Filed.acl_name (h : Filed s) (name : String) : (s.acl name).name = name := by
  unfold ParserState.acl
  cases hget : s.acls.get? name with
  | none => rfl
  | some builder => exact h.acls hget

/-- Writing a builder under its name keeps the others where they are. -/
theorem filed_set {ν : Type} {nameOf : ν → String} {builders : Dict String ν}
    (h : ∀ {name builder}, builders.get? name = some builder → nameOf builder = name)
    {key : String} {written : ν} (hwritten : nameOf written = key) {name : String} {builder : ν}
    (hget : (builders.set key written).get? name = some builder) : nameOf builder = name := by
  rw [Dict.get?_set] at hget
  split_ifs at hget with hname
  · rw [← Option.some.inj hget, hwritten, hname]
  · exact h hget

theorem Filed.setInterface (h : Filed s) {name : String} {builder : InterfaceBuilder}
    (hname : builder.name = name) (context : Context) :
    Filed { s with interfaces := s.interfaces.set name builder, context := context } :=
  ⟨filed_set h.interfaces hname, h.acls⟩

theorem Filed.setAcl (h : Filed s) {name : String} {builder : AclBuilder}
    (hname : builder.name = name) (context : Context) :
    Filed { s with acls := s.acls.set name builder, context := context } :=
  ⟨h.interfaces, filed_set h.acls hname⟩

theorem Filed.appendEntry (h : Filed s) (name : String) (entry : PendingAclEntry) :
    Filed (s.appendEntry name entry) :=
  ⟨h.interfaces, filed_set h.acls (show
    ({ s.acl name with entries := (s.acl name).entries ++ [entry] } : AclBuilder).name = name from
      h.acl_name name)⟩

/-- **A line keeps the builders filed.** -/
theorem Reads.filed (h : Reads d s line s') (hs : Filed s) : Filed s' := by
  cases h with
  | blank => exact hs
  | terminator => exact ⟨hs.interfaces, hs.acls⟩
  | hostname => exact ⟨hs.interfaces, hs.acls⟩
  | interface name =>
      refine hs.setInterface ?_ _
      cases hget : s.interfaces.get? name with
      | none => rfl
      | some builder => exact hs.interfaces hget
  | namedAcl name => exact hs.setAcl (hs.acl_name name) _
  | numberedAcl number =>
      have hclosed : Filed s.close := ⟨hs.interfaces, hs.acls⟩
      exact hclosed.appendEntry number _
  | routerBgp => exact ⟨hs.interfaces, hs.acls⟩
  | unrecognized => exact ⟨hs.interfaces, hs.acls⟩
  | ignored => exact hs
  | interfaceLine name builder configured _ _ hbuilder hconfigured =>
      exact hs.setInterface
        ((of_configureInterface hconfigured).1.trans (hs.interfaces hbuilder)) _
  | aclLine name => exact hs.appendEntry name _
  | bgpLine => exact ⟨hs.interfaces, hs.acls⟩

theorem readLines_filed {text : String} (h : d.readLines text = .ok s) : Filed s :=
  foldlM_readLine_invariant (fun _ _ _ _ hreads hs => hreads.filed hs) h filed_initial

/-! ### An accepted text -/

/-- **What is behind a configuration**: the lines were read to the end, there was a
hostname, and every reference is to a declared ACL. -/
theorem parse_eq_ok {text : String} {config : NormalizedConfiguration}
    (h : d.parse text = .ok (.inl config)) :
    ∃ s hostname, d.readLines text = .ok s ∧ s.hostname = some hostname ∧
      undeclaredReference s = none ∧ config = d.normalizedConfiguration s hostname := by
  unfold parse at h
  split_ifs at h with hblank
  · cases h
  cases hread : d.readLines text >>= d.finish with
  | error rejection =>
      cases rejection with
      | returned parseError => simp only [hread] at h; cases h
      | raised error => simp only [hread] at h; cases h
  | ok config' =>
      simp only [hread] at h
      cases h
      obtain ⟨s, hlines, hfinish⟩ := except_bind_eq_ok.1 hread
      unfold finish at hfinish
      cases hhostname : s.hostname with
      | none => simp only [hhostname] at hfinish; cases hfinish
      | some hostname =>
          cases hreference : undeclaredReference s with
          | some reference => simp only [hhostname, hreference] at hfinish; cases hfinish
          | none =>
              simp only [hhostname, hreference] at hfinish
              cases hfinish
              exact ⟨s, hostname, hlines, hhostname, hreference, rfl⟩

section Accepted

variable {text : String} {config : NormalizedConfiguration}

/-- **Interface names are distinct.** -/
theorem nodup_interfaceNames (h : d.parse text = .ok (.inl config)) :
    (config.interfaces.map (·.name)).Nodup := by
  obtain ⟨s, hostname, hlines, -, -, rfl⟩ := parse_eq_ok h
  have hkeys : s.interfaces.values.map (·.name) = s.interfaces.keys :=
    Dict.map_values_eq_keys (readLines_filed hlines).interfaces
  refine ((List.perm_insertionSort _ _).map _).nodup_iff.2 ?_
  rw [List.map_map]
  exact hkeys ▸ s.interfaces.nodup

/-- The names of the ACLs are those of their builders. -/
theorem aclNames_perm {hostname : String} (hlines : d.readLines text = .ok s) :
    ((d.normalizedConfiguration s hostname).acls.map (·.name)).Perm s.acls.keys := by
  have hkeys : s.acls.values.map (·.name) = s.acls.keys :=
    Dict.map_values_eq_keys (readLines_filed hlines).acls
  rw [← hkeys]
  refine ((List.perm_insertionSort _ _).map _).trans ?_
  rw [List.map_map]
  rfl

/-- **ACL names are distinct.** -/
theorem nodup_aclNames (h : d.parse text = .ok (.inl config)) :
    (config.acls.map (·.name)).Nodup := by
  obtain ⟨s, hostname, hlines, -, -, rfl⟩ := parse_eq_ok h
  exact (aclNames_perm hlines).nodup_iff.2 s.acls.nodup

theorem declared_of_undeclaredReference (h : undeclaredReference s = none)
    {builder : InterfaceBuilder} (hbuilder : builder ∈ s.interfaces.values) {aclName : String}
    (hacl : builder.aclIn = some aclName ∨ builder.aclOut = some aclName) :
    aclName ∈ s.acls.keys := by
  unfold undeclaredReference at h
  have hnone := List.findSome?_eq_none_iff.1 h builder hbuilder
  rw [Option.map_eq_none_iff, List.find?_eq_none] at hnone
  have hmem : aclName ∈ [builder.aclIn, builder.aclOut].filterMap fun acl => acl := by
    rw [List.mem_filterMap]
    rcases hacl with hin | hout
    · exact ⟨_, List.mem_cons_self .., hin⟩
    · exact ⟨_, List.mem_cons_of_mem _ (List.mem_cons_self ..), hout⟩
  simpa using hnone aclName hmem

/-- **An ACL that an interface names is declared.** -/
theorem declared_of_assigned (h : d.parse text = .ok (.inl config))
    {interface : NormalizedInterface} (hinterface : interface ∈ config.interfaces)
    {aclName : String} (hacl : interface.aclIn = some aclName ∨ interface.aclOut = some aclName) :
    aclName ∈ config.acls.map (·.name) := by
  obtain ⟨s, hostname, hlines, -, hreference, rfl⟩ := parse_eq_ok h
  obtain ⟨builder, hbuilder, rfl⟩ := List.mem_map.1 ((List.mem_insertionSort _).1 hinterface)
  exact (aclNames_perm hlines).mem_iff.2 (declared_of_undeclaredReference hreference hbuilder hacl)

end Accepted

end Dialect
end MetaRne
