/-
# Blocks of a configuration text

A block is a line at the top level that opens something, with the lines under it.
What a text is read as is what its blocks are read as, each alone: a block adds what it
says to what was read before, whatever that was (`foldlM_readRaw_over`).  For this the
parser's state is taken for what it says (`Contents`), which forgets the order in which
names came up, and `Contents.onTopOf` puts one on top of another.

The line numbers matter to rejections only, so the lines are read here without them
(`readRaw`).
-/

import Mathlib.Data.List.Perm.Basic
import MetaRne.Adapters.Totality

namespace MetaRne

open Library Library.Effect Library.Regex Library.Regex.Matcher Python

/-! ### What a state says -/

/-- What has been read: the hostname, the builders under their names, the neighbours. -/
@[ext]
structure Contents where
  hostname : Option String
  interface : String → Option InterfaceBuilder
  acl : String → Option AclBuilder
  bgpNeighbors : List NormalizedBgpNeighbor

namespace Contents

/-- Nothing read. -/
def nothing : Contents := ⟨none, fun _ => none, fun _ => none, []⟩

/-- What is said later, over what was said before. -/
def onTopOf (later earlier : Contents) : Contents where
  hostname := later.hostname.or earlier.hostname
  interface name := (later.interface name).or (earlier.interface name)
  acl name := (later.acl name).or (earlier.acl name)
  bgpNeighbors := earlier.bgpNeighbors ++ later.bgpNeighbors

theorem onTopOf_nothing (c : Contents) : c.onTopOf nothing = c := by
  ext1
  · exact Option.or_none
  · exact funext fun _ => Option.or_none
  · exact funext fun _ => Option.or_none
  · exact List.nil_append _

theorem nothing_onTopOf (c : Contents) : nothing.onTopOf c = c := by
  ext1
  · exact Option.none_or
  · exact funext fun _ => Option.none_or
  · exact funext fun _ => Option.none_or
  · exact List.append_nil _

/-- At most one of two options is there. -/
def AtMostOne {α : Type} (x y : Option α) : Prop := x = none ∨ y = none

theorem or_comm_of_atMostOne {α : Type} {x y : Option α} (h : AtMostOne x y) (z : Option α) :
    x.or (y.or z) = y.or (x.or z) := by
  rcases h with rfl | rfl
  · rw [Option.none_or, Option.none_or]
  · rw [Option.none_or, Option.none_or]

/-- Two that say nothing about the same thing. -/
structure Apart (c c' : Contents) : Prop where
  hostname : AtMostOne c.hostname c'.hostname
  interface : ∀ name, AtMostOne (c.interface name) (c'.interface name)
  acl : ∀ name, AtMostOne (c.acl name) (c'.acl name)
  bgpNeighbors : c.bgpNeighbors = [] ∨ c'.bgpNeighbors = []

/-- **Their order does not matter.** -/
theorem Apart.onTopOf_comm {c c' : Contents} (h : c.Apart c') (earlier : Contents) :
    c.onTopOf (c'.onTopOf earlier) = c'.onTopOf (c.onTopOf earlier) := by
  ext1
  · exact or_comm_of_atMostOne h.hostname _
  · exact funext fun name => or_comm_of_atMostOne (h.interface name) _
  · exact funext fun name => or_comm_of_atMostOne (h.acl name) _
  · rcases h.bgpNeighbors with hnil | hnil
    · simp only [onTopOf, hnil, List.append_nil]
    · simp only [onTopOf, hnil, List.append_nil]

end Contents

/-- What a state of the parser says. -/
def ParserState.contents (s : ParserState) : Contents :=
  ⟨s.hostname, s.interfaces.get?, s.acls.get?, s.bgpNeighbors⟩

theorem contents_initial : ParserState.initial.contents = .nothing := rfl

/-! ### Reading without line numbers -/

/-- A line of which the number does not matter. -/
def SourceLine.ofRaw (raw : List Char) : SourceLine := ⟨0, raw⟩

namespace Dialect

variable {d : Dialect}

/-- One round of the loop, `none` where the text is not accepted. -/
def readRaw (d : Dialect) (s : ParserState) (raw : List Char) : Option ParserState :=
  (d.readLine s (.ofRaw raw)).toOption

/-- The number of a line goes into its rejection only. -/
theorem readLine_toOption (d : Dialect) (s : ParserState) (line : SourceLine) :
    (d.readLine s line).toOption = d.readRaw s line.raw := by
  have hkind : (SourceLine.ofRaw line.raw).kind = line.kind := rfl
  have hstripped : (SourceLine.ofRaw line.raw).stripped = line.stripped := rfl
  unfold readRaw readLine
  rw [hkind]
  cases line.kind with
  | blank => rfl
  | terminator => rfl
  | topLevel =>
      simp only [readDeclaration, hstripped]
      cases d.declaration line.stripped <;> rfl
  | child =>
      simp only [readChild]
      cases s.context with
      | none => rfl
      | interface name =>
          simp only [readInterfaceLine]
          cases s.interfaces.get? name with
          | none => rfl
          | some builder =>
              simp only [configureInterface, hstripped]
              cases d.interfaceCommand line.stripped with
              | ipAddress parsed => cases parsed <;> rfl
              | accessGroup aclName directionText =>
                  cases hdirection : AclDirection.ofValue? directionText with
                  | none => simp only [hdirection]; rfl
                  | some direction => cases direction <;> simp only [hdirection]
              | _ => rfl
      | acl name => rfl
      | bgp =>
          simp only [readBgpLine, hstripped]
          cases hline : bgpNeighborRe.match? line.stripped with
          | none => rfl
          | some found =>
              simp only
              cases tryNormalizeBgpNeighbor found.1 found.2 <;> rfl

theorem foldlM_readLine_toOption (d : Dialect) (lines : List SourceLine) (s : ParserState) :
    (lines.foldlM d.readLine s).toOption = (lines.map (·.raw)).foldlM d.readRaw s := by
  induction lines generalizing s with
  | nil => rfl
  | cons line lines ih =>
      have hline := d.readLine_toOption s line
      rw [List.foldlM_cons, List.map_cons, List.foldlM_cons, ← hline]
      cases d.readLine s line with
      | ok s' => exact ih s'
      | error e => rfl

/-! ### Reading over what was read before -/

end Dialect

/-- The declarations that blocks begin with. -/
def Declaration.isHeader : Declaration → Bool
  | .hostname _ => true
  | .interface _ => true
  | .namedAcl _ => true
  | .routerBgp => true
  | _ => false

/-- The name that a block is open for was not read before. -/
def Context.FreshIn (earlier : Contents) : Context → Prop
  | .interface name => earlier.interface name = Option.none
  | .acl name => earlier.acl name = Option.none
  | _ => True

/-- One state says what the other says over what was read before, and the same block is open. -/
structure ParserState.Over (earlier : Contents) (t s : ParserState) : Prop where
  contents : s.contents = t.contents.onTopOf earlier
  context : s.context = t.context

section

variable {earlier : Contents} {s t : ParserState}

theorem contents_eq_over : s.contents = t.contents.onTopOf earlier ↔
    s.hostname = t.hostname.or earlier.hostname ∧
      (∀ name, s.interfaces.get? name = (t.interfaces.get? name).or (earlier.interface name)) ∧
      (∀ name, s.acls.get? name = (t.acls.get? name).or (earlier.acl name)) ∧
      s.bgpNeighbors = earlier.bgpNeighbors ++ t.bgpNeighbors := by
  rw [Contents.ext_iff]
  exact and_congr_right' (and_congr funext_iff (and_congr_left' funext_iff))

/-- A write over what was there before. -/
theorem get?_set_or {ν : Type} {d d' : Dict String ν} {before : String → Option ν}
    (h : ∀ name, d'.get? name = (d.get? name).or (before name)) (key : String) (written : ν) :
    ∀ name, (d'.set key written).get? name = ((d.set key written).get? name).or (before name) := by
  intro name
  rw [Dict.get?_set, Dict.get?_set]
  split_ifs
  · rfl
  · exact h name

theorem over_setInterface (h : s.contents = t.contents.onTopOf earlier) (name : String)
    (builder : InterfaceBuilder) (context context' : Context) :
    ({ s with interfaces := s.interfaces.set name builder, context := context } :
        ParserState).contents =
      ({ t with interfaces := t.interfaces.set name builder, context := context' } :
        ParserState).contents.onTopOf earlier := by
  obtain ⟨hhostname, hinterfaces, hacls, hneighbors⟩ := contents_eq_over.1 h
  exact contents_eq_over.2 ⟨hhostname, get?_set_or hinterfaces name builder, hacls, hneighbors⟩

theorem over_setAcl (h : s.contents = t.contents.onTopOf earlier) (name : String)
    (builder : AclBuilder) (context context' : Context) :
    ({ s with acls := s.acls.set name builder, context := context } : ParserState).contents =
      ({ t with acls := t.acls.set name builder, context := context' } :
        ParserState).contents.onTopOf earlier := by
  obtain ⟨hhostname, hinterfaces, hacls, hneighbors⟩ := contents_eq_over.1 h
  exact contents_eq_over.2 ⟨hhostname, hinterfaces, get?_set_or hacls name builder, hneighbors⟩

/-- The builders of a name that was not read before. -/
theorem interface_of_over (h : s.contents = t.contents.onTopOf earlier) {name : String}
    (hfresh : earlier.interface name = none) :
    s.interfaces.get? name = t.interfaces.get? name := by
  rw [(contents_eq_over.1 h).2.1, hfresh, Option.or_none]

theorem acl_of_over (h : s.contents = t.contents.onTopOf earlier) {name : String}
    (hfresh : earlier.acl name = none) : s.acl name = t.acl name := by
  unfold ParserState.acl
  rw [(contents_eq_over.1 h).2.2.1, hfresh, Option.or_none]

namespace Dialect

variable {d : Dialect} {raw : List Char}

/-- **A line at the top level**, over what was read before: which block was open does not
matter. -/
theorem readDeclaration_over (h : s.contents = t.contents.onTopOf earlier) (line : SourceLine)
    (hheader : (d.declaration line.stripped).isHeader = true)
    (hfresh : (d.declaration line.stripped).opened.FreshIn earlier) :
    Option.Rel (ParserState.Over earlier) (d.readDeclaration t line).toOption
      (d.readDeclaration s line).toOption := by
  unfold readDeclaration
  cases hline : d.declaration line.stripped with
  | hostname name =>
      obtain ⟨-, hrest⟩ := contents_eq_over.1 h
      exact .some ⟨contents_eq_over.2 ⟨rfl, hrest⟩, rfl⟩
  | malformedHostname => exact .none
  | interface name =>
      rw [hline] at hfresh
      refine .some ⟨?_, rfl⟩
      unfold ParserState.openInterface
      rw [interface_of_over h hfresh]
      exact over_setInterface h name _ _ _
  | malformedInterface => exact .none
  | namedAcl name =>
      rw [hline] at hfresh
      refine .some ⟨?_, rfl⟩
      unfold ParserState.openAcl
      rw [acl_of_over h hfresh]
      exact over_setAcl h name _ _ _
  | numberedAcl number tokens =>
      rw [hline] at hheader
      cases hheader
  | routerBgp => exact .some ⟨h, rfl⟩
  | unrecognized => exact .some ⟨h, rfl⟩

/-- **An indented line**, over what was read before. -/
theorem readChild_over (h : ParserState.Over earlier t s) (line : SourceLine)
    (hfresh : t.context.FreshIn earlier) :
    Option.Rel (ParserState.Over earlier) (d.readChild t line).toOption
      (d.readChild s line).toOption := by
  unfold readChild
  rw [h.context]
  cases hcontext : t.context with
  | none => exact .some h
  | interface name =>
      rw [hcontext] at hfresh
      simp only [readInterfaceLine]
      rw [interface_of_over h.contents hfresh]
      cases t.interfaces.get? name with
      | none => exact .some h
      | some builder =>
          simp only
          cases d.configureInterface builder line with
          | error e => exact .none
          | ok configured =>
              exact .some ⟨over_setInterface h.contents name configured _ _, h.context⟩
  | acl name =>
      rw [hcontext] at hfresh
      simp only [readAclLine]
      cases aclNamedEntryRe.match? line.stripped with
      | none => exact .some h
      | some tokens =>
          simp only
          cases pendingEntry tokens with
          | error e => exact .none
          | ok entry =>
              refine .some ⟨?_, h.context⟩
              unfold ParserState.appendEntry
              rw [acl_of_over h.contents hfresh]
              exact over_setAcl h.contents name _ _ _
  | bgp =>
      simp only [readBgpLine]
      cases bgpNeighborRe.match? line.stripped with
      | none => exact .some h
      | some found =>
          simp only
          cases tryNormalizeBgpNeighbor found.1 found.2 with
          | error code => exact .none
          | ok neighbor =>
              obtain ⟨hhostname, hinterfaces, hacls, hneighbors⟩ := contents_eq_over.1 h.contents
              refine .some ⟨contents_eq_over.2 ⟨hhostname, hinterfaces, hacls, ?_⟩, h.context⟩
              show s.bgpNeighbors ++ [neighbor] = _ ++ (t.bgpNeighbors ++ [neighbor])
              rw [hneighbors, List.append_assoc]

/-- **A line of a body**, over what was read before. -/
theorem readRaw_over (h : ParserState.Over earlier t s)
    (hkind : (SourceLine.ofRaw raw).kind ≠ .topLevel) (hfresh : t.context.FreshIn earlier) :
    Option.Rel (ParserState.Over earlier) (d.readRaw t raw) (d.readRaw s raw) := by
  unfold readRaw readLine
  cases hcase : (SourceLine.ofRaw raw).kind with
  | blank => exact .some h
  | terminator => exact .some ⟨h.contents, rfl⟩
  | topLevel => exact absurd hcase hkind
  | child => exact readChild_over h _ hfresh

end Dialect

end

/-! ### Blocks -/

/-- A line at the top level, with the lines under it. -/
structure Block where
  header : List Char
  body : List (List Char)
  deriving DecidableEq, Repr

namespace Block

/-- The lines of a block. -/
def lines (b : Block) : List (List Char) := b.header :: b.body

/-- What a block declares. -/
def declaration (d : Dialect) (b : Block) : Declaration :=
  d.declaration (SourceLine.ofRaw b.header).stripped

/-- A block begins with a header at the top level, and no other line of it is there. -/
structure WellFormed (d : Dialect) (b : Block) : Prop where
  topLevel : (SourceLine.ofRaw b.header).kind = .topLevel
  isHeader : (b.declaration d).isHeader = true
  body : ∀ raw ∈ b.body, (SourceLine.ofRaw raw).kind ≠ .topLevel

/-- The state after a block that is read alone, `none` where it is not accepted. -/
def alone (d : Dialect) (b : Block) : Option ParserState := b.lines.foldlM d.readRaw .initial

/-- What a block says, read alone. -/
def own (d : Dialect) (b : Block) : ParserState := (b.alone d).getD .initial

end Block

/-- Two declarations are about the same thing. -/
def Declaration.Clash : Declaration → Declaration → Prop
  | .hostname _, .hostname _ => True
  | .interface name, .interface name' => name = name'
  | .namedAcl name, .namedAcl name' => name = name'
  | .routerBgp, .routerBgp => True
  | _, _ => False

/-- A state says nothing but what comes under a declaration. -/
structure Declaration.Bounds (declaration : Declaration) (t : ParserState) : Prop where
  context : t.context = .none ∨ t.context = declaration.opened
  hostname : (∀ name, declaration ≠ .hostname name) → t.hostname = none
  interface : ∀ name, declaration ≠ .interface name → t.interfaces.get? name = none
  acl : ∀ name, declaration ≠ .namedAcl name → t.acls.get? name = none
  bgpNeighbors : declaration ≠ .routerBgp → t.bgpNeighbors = []

namespace Dialect

variable {d : Dialect} {s t t' : ParserState} {declaration : Declaration}

theorem bounds_of_header {line : SourceLine} (hheader : (d.declaration line.stripped).isHeader = true)
    (h : d.readDeclaration .initial line = .ok t) : (d.declaration line.stripped).Bounds t := by
  unfold readDeclaration at h
  cases hline : d.declaration line.stripped with
  | hostname name =>
      simp only [hline] at h
      cases h
      exact ⟨Or.inl rfl, fun hne => absurd rfl (hne name), fun _ _ => rfl, fun _ _ => rfl,
        fun _ => rfl⟩
  | interface name =>
      simp only [hline] at h
      cases h
      refine ⟨Or.inr rfl, fun _ => rfl, fun other hne => ?_, fun _ _ => rfl, fun _ => rfl⟩
      exact Dict.get?_set_of_ne _ _ fun heq => hne (by rw [heq])
  | namedAcl name =>
      simp only [hline] at h
      cases h
      refine ⟨Or.inr rfl, fun _ => rfl, fun _ _ => rfl, fun other hne => ?_, fun _ => rfl⟩
      exact Dict.get?_set_of_ne _ _ fun heq => hne (by rw [heq])
  | routerBgp =>
      simp only [hline] at h
      cases h
      exact ⟨Or.inr rfl, fun _ => rfl, fun _ _ => rfl, fun _ _ => rfl, fun hne => absurd rfl hne⟩
  | malformedHostname => rw [hline] at hheader; cases hheader
  | malformedInterface => rw [hline] at hheader; cases hheader
  | numberedAcl number tokens => rw [hline] at hheader; cases hheader
  | unrecognized => rw [hline] at hheader; cases hheader

/-- The declaration behind the block that is open. -/
theorem opened_eq_interface {name : String} :
    declaration.opened = .interface name ↔ declaration = .interface name := by
  cases declaration <;> simp [Declaration.opened]

theorem opened_eq_acl {name : String} :
    declaration.opened = .acl name ↔ declaration = .namedAcl name := by
  cases declaration <;> simp [Declaration.opened]

theorem opened_eq_bgp : declaration.opened = .bgp ↔ declaration = .routerBgp := by
  cases declaration <;> simp [Declaration.opened]

/-- **A line of a body says nothing but what comes under the header.** -/
theorem Reads.bounds {line : SourceLine} (h : Reads d t line t') (hkind : line.kind ≠ .topLevel)
    (ht : declaration.Bounds t) : declaration.Bounds t' := by
  have hopened : ∀ context, t.context = context → context ≠ .none → declaration.opened = context := by
    intro context hcontext hne
    rcases ht.context with hnone | hopened
    · exact absurd (hcontext.symm.trans hnone) hne
    · exact hopened.symm.trans hcontext
  cases h with
  | blank => exact ht
  | terminator => exact ⟨Or.inl rfl, ht.hostname, ht.interface, ht.acl, ht.bgpNeighbors⟩
  | ignored => exact ht
  | interfaceLine name builder configured _ hcontext =>
      obtain rfl := opened_eq_interface.1 (hopened _ hcontext nofun)
      refine ⟨ht.context, ht.hostname, fun other hne => ?_, ht.acl, ht.bgpNeighbors⟩
      refine (Dict.get?_set_of_ne _ _ fun heq => hne (by rw [heq])).trans (ht.interface other hne)
  | aclLine name tokens entry _ hcontext =>
      obtain rfl := opened_eq_acl.1 (hopened _ hcontext nofun)
      refine ⟨ht.context, ht.hostname, ht.interface, fun other hne => ?_, ht.bgpNeighbors⟩
      exact (Dict.get?_set_of_ne _ _ fun heq => hne (by rw [heq])).trans (ht.acl other hne)
  | bgpLine found neighbor _ hcontext =>
      obtain rfl := opened_eq_bgp.1 (hopened _ hcontext nofun)
      exact ⟨ht.context, ht.hostname, ht.interface, ht.acl, fun hne => absurd rfl hne⟩
  | hostname name hother => exact absurd hother hkind
  | interface name hother => exact absurd hother hkind
  | namedAcl name hother => exact absurd hother hkind
  | numberedAcl number tokens entry hother => exact absurd hother hkind
  | routerBgp hother => exact absurd hother hkind
  | unrecognized hother => exact absurd hother hkind

theorem readRaw_eq_some {raw : List Char} :
    d.readRaw t raw = some t' ↔ d.readLine t (.ofRaw raw) = .ok t' := by
  unfold readRaw
  cases d.readLine t (.ofRaw raw) with
  | ok s => simp [Except.toOption]
  | error e => simp [Except.toOption]

/-- **A body over what was read before**, where its header is. -/
theorem body_over {earlier : Contents} {body : List (List Char)}
    (hbody : ∀ raw ∈ body, (SourceLine.ofRaw raw).kind ≠ .topLevel)
    (hfresh : declaration.opened.FreshIn earlier) (hbounds : declaration.Bounds t)
    (h : ParserState.Over earlier t s) :
    Option.Rel (ParserState.Over earlier) (body.foldlM d.readRaw t) (body.foldlM d.readRaw s) ∧
      ∀ t', body.foldlM d.readRaw t = some t' → declaration.Bounds t' := by
  induction body generalizing s t with
  | nil =>
      refine ⟨.some h, fun t' ht' => ?_⟩
      cases ht'
      exact hbounds
  | cons raw body ih =>
      obtain ⟨hraw, hbody⟩ := List.forall_mem_cons.1 hbody
      have hcontext : t.context.FreshIn earlier := by
        rcases hbounds.context with hnone | hopened
        · rw [hnone]
          trivial
        · rwa [hopened]
      have hrel := readRaw_over (d := d) h hraw hcontext
      rw [List.foldlM_cons, List.foldlM_cons]
      cases ht : d.readRaw t raw with
      | none =>
          rw [ht] at hrel
          generalize d.readRaw s raw = read at hrel ⊢
          cases hrel
          exact ⟨.none, nofun⟩
      | some t₁ =>
          rw [ht] at hrel
          generalize d.readRaw s raw = read at hrel ⊢
          cases hrel with
          | some hover =>
              exact ih hbody ((reads_of_readLine (readRaw_eq_some.1 ht)).bounds hraw hbounds) hover

/-- **A block over what was read before**: it says what it says alone, whichever block was
open, and that comes under its header. -/
theorem block_over {b : Block} (hb : b.WellFormed d)
    (hfresh : (b.declaration d).opened.FreshIn s.contents) :
    Option.Rel (ParserState.Over s.contents) (b.alone d) (b.lines.foldlM d.readRaw s) ∧
      ∀ t, b.alone d = some t → (b.declaration d).Bounds t := by
  have hread : ∀ s, d.readRaw s b.header =
      (d.readDeclaration s (.ofRaw b.header)).toOption := by
    intro s
    unfold readRaw readLine
    rw [hb.topLevel]
  have hover : s.contents = ParserState.initial.contents.onTopOf s.contents := by
    rw [contents_initial]
    exact (Contents.nothing_onTopOf _).symm
  have hrel := readDeclaration_over (d := d) hover (.ofRaw b.header) hb.isHeader hfresh
  unfold Block.alone Block.lines
  rw [List.foldlM_cons, List.foldlM_cons, hread, hread]
  cases ht : d.readDeclaration .initial (.ofRaw b.header) with
  | error e =>
      rw [ht] at hrel
      generalize (d.readDeclaration s (.ofRaw b.header)).toOption = read at hrel ⊢
      cases hrel
      exact ⟨.none, nofun⟩
  | ok t =>
      rw [ht] at hrel
      generalize (d.readDeclaration s (.ofRaw b.header)).toOption = read at hrel ⊢
      cases hrel with
      | some hover => exact body_over hb.body hfresh (bounds_of_header hb.isHeader ht) hover

end Dialect

end MetaRne
