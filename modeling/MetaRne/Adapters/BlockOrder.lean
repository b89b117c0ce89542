/-
# The order of the blocks does not matter

A text that is made of blocks about different things is read as its blocks alone are,
put over one another (`foldlM_of_madeOf`).  Blocks about different things say nothing
about the same thing (`apart_of_not_clash`), so the result is the same for every order of
the blocks, and what is made of it after the last line does not depend on the order in
which names came up (`finish_of_contents`): references to ACLs are looked up there, where
all of them are declared.

`blockOrder` says so of texts: the same blocks in another order, with other `!` lines
between them, are accepted or not alike, as the same configuration, which holds of each
block what it says alone and nothing else.
-/

import Mathlib.Data.List.Pairwise
import MetaRne.Adapters.Blocks
import MetaRne.Adapters.Vendors
import MetaRne.Library.Sorting

namespace MetaRne

open Library Library.Effect Library.Regex Library.Regex.Matcher Python

/-! ### Lines made of blocks -/

/-- Lines that are blocks, with lines of `!` and blank ones between them. -/
inductive MadeOf (d : Dialect) : List (List Char) → List Block → Prop
  | nil : MadeOf d [] []
  | separator {raw : List Char} {lines : List (List Char)} {blocks : List Block}
      (hkind : (SourceLine.ofRaw raw).kind = .terminator ∨ (SourceLine.ofRaw raw).kind = .blank)
      (hrest : MadeOf d lines blocks) : MadeOf d (raw :: lines) blocks
  | block {b : Block} {lines : List (List Char)} {blocks : List Block} (hblock : b.WellFormed d)
      (hrest : MadeOf d lines blocks) : MadeOf d (b.lines ++ lines) (b :: blocks)

/-- No two blocks are about the same thing. -/
def DistinctBlocks (d : Dialect) (blocks : List Block) : Prop :=
  blocks.Pairwise fun b b' => ¬ (b.declaration d).Clash (b'.declaration d)

namespace Dialect

variable {d : Dialect} {s t t' : ParserState} {declaration declaration' : Declaration}

/-- **States under declarations of different things say different things.** -/
theorem apart_of_not_clash (h : declaration.Bounds t) (h' : declaration'.Bounds t')
    (hclash : ¬ declaration.Clash declaration') : t.contents.Apart t'.contents where
  hostname := by
    by_cases hd : ∀ name, declaration ≠ .hostname name
    · exact Or.inl (h.hostname hd)
    · refine Or.inr (h'.hostname fun name' heq => ?_)
      push Not at hd
      obtain ⟨name, rfl⟩ := hd
      rw [heq] at hclash
      exact hclash trivial
  interface name := by
    by_cases hd : declaration = .interface name
    · refine Or.inr (h'.interface name fun heq => ?_)
      rw [hd, heq] at hclash
      exact hclash rfl
    · exact Or.inl (h.interface name hd)
  acl name := by
    by_cases hd : declaration = .namedAcl name
    · refine Or.inr (h'.acl name fun heq => ?_)
      rw [hd, heq] at hclash
      exact hclash rfl
    · exact Or.inl (h.acl name hd)
  bgpNeighbors := by
    by_cases hd : declaration = .routerBgp
    · refine Or.inr (h'.bgpNeighbors fun heq => ?_)
      rw [hd, heq] at hclash
      exact hclash trivial
    · exact Or.inl (h.bgpNeighbors hd)

/-- What is fresh stays fresh when something else is read. -/
theorem freshIn_over {earlier : Contents} (h : declaration.Bounds t)
    (hclash : ¬ declaration.Clash declaration') (hfresh : declaration'.opened.FreshIn earlier) :
    declaration'.opened.FreshIn (t.contents.onTopOf earlier) := by
  cases declaration' with
  | interface name =>
      have hnone : t.interfaces.get? name = none := h.interface name fun heq => by
        rw [heq] at hclash
        exact hclash rfl
      show (t.interfaces.get? name).or (earlier.interface name) = none
      rw [hnone, Option.none_or]
      exact hfresh
  | namedAcl name =>
      have hnone : t.acls.get? name = none := h.acl name fun heq => by
        rw [heq] at hclash
        exact hclash rfl
      show (t.acls.get? name).or (earlier.acl name) = none
      rw [hnone, Option.none_or]
      exact hfresh
  | hostname name => trivial
  | malformedHostname => trivial
  | malformedInterface => trivial
  | numberedAcl number tokens => trivial
  | routerBgp => trivial
  | unrecognized => trivial

/-- What blocks say, put over what was read before. -/
def contentsOf (d : Dialect) (earlier : Contents) (blocks : List Block) : Contents :=
  blocks.foldl (fun c b => (b.own d).contents.onTopOf c) earlier

/-- **Lines made of blocks say what the blocks say alone**, if each of them is accepted alone,
and are not accepted otherwise. -/
theorem foldlM_of_madeOf {lines : List (List Char)} {blocks : List Block}
    (h : MadeOf d lines blocks) (hdistinct : DistinctBlocks d blocks)
    (hfresh : ∀ b ∈ blocks, (b.declaration d).opened.FreshIn s.contents) :
    (lines.foldlM d.readRaw s).map ParserState.contents =
      if blocks.all fun b => (b.alone d).isSome then some (d.contentsOf s.contents blocks)
      else none := by
  induction h generalizing s with
  | nil => rfl
  | @separator raw lines blocks hkind hrest ih =>
      have hread : ∃ s', d.readRaw s raw = some s' ∧ s'.contents = s.contents := by
        unfold readRaw readLine
        rcases hkind with hterminator | hblank
        · rw [hterminator]
          exact ⟨s.close, rfl, rfl⟩
        · rw [hblank]
          exact ⟨s, rfl, rfl⟩
      obtain ⟨s', hread, hsame⟩ := hread
      rw [List.foldlM_cons, hread]
      have hrest := ih (s := s') hdistinct (by rwa [hsame])
      rw [hsame] at hrest
      exact hrest
  | @block b lines blocks hblock hrest ih =>
      obtain ⟨hclash, hdistinct⟩ := List.pairwise_cons.1 hdistinct
      obtain ⟨hb, hfresh⟩ := List.forall_mem_cons.1 hfresh
      obtain ⟨hrel, hbounds⟩ := block_over hblock hb
      rw [List.foldlM_append, List.all_cons]
      cases halone : b.alone d with
      | none =>
          rw [halone] at hrel
          generalize b.lines.foldlM d.readRaw s = read at hrel ⊢
          cases hrel
          rfl
      | some t =>
          rw [halone] at hrel
          generalize b.lines.foldlM d.readRaw s = read at hrel ⊢
          cases hrel with
          | @some _ s' hover =>
              have hown : b.own d = t := by
                unfold Block.own
                rw [halone, Option.getD_some]
              have hrest := ih (s := s') hdistinct fun b' hb' => by
                rw [hover.contents]
                exact freshIn_over (hbounds t halone) (hclash b' hb') (hfresh b' hb')
              rw [hover.contents] at hrest
              rw [Option.isSome_some, Bool.true_and, contentsOf, List.foldl_cons, hown]
              exact hrest

theorem clash_symm (h : declaration.Clash declaration') : declaration'.Clash declaration := by
  cases declaration <;> cases declaration' <;> first | exact h | exact h.symm

/-- What a block says alone comes under its header. -/
theorem bounds_own {b : Block} (hb : b.WellFormed d) : (b.declaration d).Bounds (b.own d) := by
  have hfresh : (b.declaration d).opened.FreshIn ParserState.initial.contents := by
    cases (b.declaration d).opened <;> trivial
  have hbounds := (block_over hb hfresh).2
  unfold Block.own
  cases halone : b.alone d with
  | some t => exact hbounds t halone
  | none => exact ⟨Or.inl rfl, fun _ => rfl, fun _ _ => rfl, fun _ _ => rfl, fun _ => rfl⟩

/-- **Blocks about different things say the same in every order.** -/
theorem contentsOf_perm {blocks blocks' : List Block} (hperm : blocks.Perm blocks')
    (hblocks : ∀ b ∈ blocks, b.WellFormed d) (hdistinct : DistinctBlocks d blocks)
    (earlier : Contents) : d.contentsOf earlier blocks = d.contentsOf earlier blocks' := by
  have : Std.Symm fun b b' : Block => ¬ (b.declaration d).Clash (b'.declaration d) :=
    ⟨fun b b' hnot h => hnot (clash_symm h)⟩
  have hclash := List.Pairwise.forall hdistinct
  refine hperm.foldl_eq' (fun b hb b' hb' c => ?_) earlier
  by_cases hsame : b = b'
  · rw [hsame]
  · exact (apart_of_not_clash (bounds_own (hblocks b' hb')) (bounds_own (hblocks b hb))
      (hclash hb' hb (Ne.symm hsame))).onTopOf_comm c

theorem wellFormed_of_madeOf {lines : List (List Char)} {blocks : List Block}
    (h : MadeOf d lines blocks) : ∀ b ∈ blocks, b.WellFormed d := by
  induction h with
  | nil => exact nofun
  | separator _ _ ih => exact ih
  | block hblock _ ih => exact List.forall_mem_cons.2 ⟨hblock, ih⟩

/-! ### After the last line -/

/-- Dictionaries with the same lookups have the same values, in some order. -/
theorem values_perm_of_get? {ν : Type} {dict dict' : Dict String ν}
    (h : dict.get? = dict'.get?) : dict.values.Perm dict'.values := by
  have hnodup : ∀ dict : Dict String ν, dict.entries.Nodup :=
    fun dict => List.Nodup.of_map _ dict.nodup
  have hentries : dict.entries.Perm dict'.entries := by
    refine (List.perm_ext_iff_of_nodup (hnodup dict) (hnodup dict')).2 fun entry => ?_
    rw [← Prod.mk.eta (p := entry), ← Dict.get?_eq_some_iff, ← Dict.get?_eq_some_iff, h]
  exact hentries.map _

/-- **References are to declared ACLs**, wherever those are declared. -/
theorem undeclaredReference_eq_none_iff : undeclaredReference s = none ↔
    ∀ name builder, s.contents.interface name = some builder →
      ∀ aclName ∈ [builder.aclIn, builder.aclOut].filterMap fun acl => acl,
        ∃ acl, s.contents.acl aclName = some acl := by
  unfold undeclaredReference
  rw [List.findSome?_eq_none_iff]
  constructor
  · intro h name builder hbuilder aclName hacl
    have hnone := h builder (Dict.mem_values_iff.2 ⟨name, hbuilder⟩)
    rw [Option.map_eq_none_iff, List.find?_eq_none] at hnone
    have hdeclared : aclName ∈ s.acls.keys := by simpa using hnone aclName hacl
    exact Dict.mem_keys_iff.1 hdeclared
  · intro h builder hbuilder
    obtain ⟨name, hname⟩ := Dict.mem_values_iff.1 hbuilder
    rw [Option.map_eq_none_iff, List.find?_eq_none]
    intro aclName hacl
    have hdeclared : aclName ∈ s.acls.keys := Dict.mem_keys_iff.2 (h name builder hname aclName hacl)
    simpa using hdeclared

/-- Values filed under their names are sorted by them, in whatever order they came up. -/
theorem sorted_values_eq {ν β : Type} {dict dict' : Dict String ν} {nameOf : ν → String}
    {finished : ν → β} {key : β → String} (hkey : ∀ v, key (finished v) = nameOf v)
    (hfiled : ∀ {name v}, dict.get? name = some v → nameOf v = name)
    (h : dict.get? = dict'.get?) :
    ((dict.values.map finished).insertionSort fun a b => key a ≤ key b) =
      (dict'.values.map finished).insertionSort fun a b => key a ≤ key b := by
  have hkeys : ∀ a b, key a ≤ key b ↔ key a ≤ key b := fun _ _ => Iff.rfl
  refine Sorting.insertionSort_eq_of_perm hkeys ((values_perm_of_get? h).map finished) ?_
  intro a ha b hb hsame
  obtain ⟨v, hv, rfl⟩ := List.mem_map.1 ha
  obtain ⟨w, hw, rfl⟩ := List.mem_map.1 hb
  obtain ⟨name, hname⟩ := Dict.mem_values_iff.1 hv
  obtain ⟨name', hname'⟩ := Dict.mem_values_iff.1 hw
  rw [hkey, hkey, hfiled hname, hfiled hname'] at hsame
  rw [hsame, hname'] at hname
  rw [Option.some.inj hname]

/-- **What is made of the lines depends on what was read only**, not on the order in which the
names came up. -/
theorem finish_of_contents (hfiled : Filed s) (h : s.contents = t.contents) :
    (d.finish s).toOption = (d.finish t).toOption := by
  have hhostname : s.hostname = t.hostname := congrArg Contents.hostname h
  have hconfig : ∀ hostname, d.normalizedConfiguration s hostname =
      d.normalizedConfiguration t hostname := by
    intro hostname
    unfold normalizedConfiguration
    congr 1
    · exact sorted_values_eq (fun _ => rfl) hfiled.interfaces (congrArg Contents.interface h)
    · rw [show s.bgpNeighbors = t.bgpNeighbors from congrArg Contents.bgpNeighbors h]
    · exact sorted_values_eq (fun _ => rfl) hfiled.acls (congrArg Contents.acl h)
  have hreferences : undeclaredReference s = none ↔ undeclaredReference t = none := by
    rw [undeclaredReference_eq_none_iff, undeclaredReference_eq_none_iff, h]
  unfold finish
  rw [hhostname]
  cases t.hostname with
  | none => rfl
  | some hostname =>
      simp only
      cases hs : undeclaredReference s with
      | none =>
          rw [hreferences.1 hs]
          exact congrArg some (hconfig hostname)
      | some reference =>
          cases ht : undeclaredReference t with
          | some reference' => rfl
          | none =>
              rw [hreferences.2 ht] at hs
              cases hs

/-! ### Texts -/

/-- What is in a line was in the text. -/
theorem mem_of_mem_splitlines {text : List Char} :
    ∀ line ∈ splitlines text, ∀ c ∈ line, c ∈ text := by
  have hcons : ∀ (c : Char) (lines : List (List Char)), ∀ line ∈ consLine c lines,
      ∀ x ∈ line, x = c ∨ ∃ line' ∈ lines, x ∈ line' := by
    intro c lines line hline x hx
    cases lines with
    | nil =>
        rw [consLine, List.mem_singleton] at hline
        rw [hline, List.mem_singleton] at hx
        exact Or.inl hx
    | cons first rest =>
        rw [consLine, List.mem_cons] at hline
        rcases hline with rfl | hline
        · rcases List.mem_cons.1 hx with rfl | hx
          · exact Or.inl rfl
          · exact Or.inr ⟨first, List.mem_cons_self .., hx⟩
        · exact Or.inr ⟨line, List.mem_cons_of_mem _ hline, hx⟩
  induction text using splitlines.induct with
  | case1 => exact nofun
  | case2 rest ih =>
      intro line hline c hc
      rw [splitlines] at hline
      rcases List.mem_cons.1 hline with rfl | hline
      · cases hc
      · exact List.mem_cons_of_mem _ (List.mem_cons_of_mem _ (ih line hline c hc))
  | case3 first rest hfirst hboundary ih =>
      intro line hline c hc
      rw [splitlines.eq_3 _ _ hfirst, if_pos hboundary] at hline
      rcases List.mem_cons.1 hline with rfl | hline
      · cases hc
      · exact List.mem_cons_of_mem _ (ih line hline c hc)
  | case4 first rest hfirst hboundary ih =>
      intro line hline c hc
      rw [splitlines.eq_3 _ _ hfirst, if_neg hboundary] at hline
      rcases hcons first _ line hline c hc with rfl | ⟨line', hline', hc⟩
      · exact List.mem_cons_self ..
      · exact List.mem_cons_of_mem _ (ih line' hline' c hc)

theorem kind_eq_blank {raw : List Char} (h : ∀ c ∈ raw, isSpace c = true) :
    (SourceLine.ofRaw raw).kind = .blank := by
  have hstripped : (SourceLine.ofRaw raw).stripped = [] := by
    unfold SourceLine.stripped strip
    have hleft : lstrip raw = [] := by
      unfold lstrip
      induction raw with
      | nil => rfl
      | cons c raw ih =>
          obtain ⟨hc, hraw⟩ := List.forall_mem_cons.1 h
          rw [List.dropWhile_cons_of_pos hc]
          exact ih hraw
    rw [show (SourceLine.ofRaw raw).raw = raw from rfl, hleft]
    rfl
  unfold SourceLine.kind
  rw [if_pos hstripped]

theorem readLines_toOption (d : Dialect) (text : String) :
    (d.readLines text).toOption = (splitlines text.toList).foldlM d.readRaw .initial := by
  have hraws : (sourceLines text).map (·.raw) = splitlines text.toList := by
    unfold sourceLines
    rw [List.map_map]
    exact List.zipIdx_map_fst 1 _
  unfold readLines
  rw [foldlM_readLine_toOption, hraws]

/-- A blank text has nothing to read, and no hostname. -/
theorem readLines_of_isBlank {text : String} (h : isBlank text = true) :
    (splitlines text.toList).foldlM d.readRaw .initial = some .initial := by
  have hblank : ∀ raw ∈ splitlines text.toList, d.readRaw .initial raw = some .initial := by
    intro raw hraw
    have hspace : ∀ c ∈ raw, isSpace c = true := fun c hc =>
      List.all_eq_true.1 h c (mem_of_mem_splitlines raw hraw c hc)
    unfold readRaw readLine
    rw [kind_eq_blank hspace]
    rfl
  generalize splitlines text.toList = lines at hblank
  induction lines with
  | nil => rfl
  | cons raw lines ih =>
      obtain ⟨hraw, hrest⟩ := List.forall_mem_cons.1 hblank
      rw [List.foldlM_cons, hraw]
      exact ih hrest

/-- **What a text is accepted as**, line by line. -/
theorem accepted?_eq (d : Dialect) (text : String) : d.adapter.accepted? text =
    (d.readLines text).toOption.bind fun s => (d.finish s).toOption := by
  unfold VendorConfigAdapter.accepted? adapter parse
  by_cases hblank : isBlank text = true
  · simp only [if_pos hblank]
    rw [readLines_toOption, readLines_of_isBlank hblank]
    rfl
  · simp only [if_neg hblank]
    cases d.readLines text with
    | error rejection => cases rejection <;> rfl
    | ok s =>
        have hbind : (Except.ok s >>= d.finish) = d.finish s := rfl
        simp only [hbind]
        cases hfinish : d.finish s with
        | ok config => simp [Except.toOption, hfinish]
        | error rejection => cases rejection <;> simp [Except.toOption, hfinish]

/-! ### What is there is what the blocks say -/

/-- What is said under one heading is said by some block. -/
theorem contentsOf_eq_some {α : Type} (field : Contents → Option α)
    (hover : ∀ c c', field (c.onTopOf c') = (field c).or (field c'))
    (hnothing : field .nothing = none) {blocks : List Block}
    (hblocks : ∀ b ∈ blocks, b.WellFormed d) (hdistinct : DistinctBlocks d blocks) {x : α} :
    field (d.contentsOf .nothing blocks) = some x ↔
      ∃ b ∈ blocks, field (b.own d).contents = some x := by
  have hsaid : ∀ (blocks : List Block) (earlier : Contents),
      field (d.contentsOf earlier blocks) = some x →
        field earlier = some x ∨ ∃ b ∈ blocks, field (b.own d).contents = some x := by
    intro blocks
    induction blocks with
    | nil => exact fun earlier h => Or.inl h
    | cons b blocks ih =>
        intro earlier h
        rcases ih _ h with hearlier | ⟨b', hb', hfield⟩
        · rw [hover, Option.or_eq_some_iff] at hearlier
          rcases hearlier with hown | ⟨-, hearlier⟩
          · exact Or.inr ⟨b, List.mem_cons_self .., hown⟩
          · exact Or.inl hearlier
        · exact Or.inr ⟨b', List.mem_cons_of_mem _ hb', hfield⟩
  constructor
  · intro h
    rcases hsaid blocks .nothing h with hnone | hblock
    · rw [hnothing] at hnone
      cases hnone
    · exact hblock
  · rintro ⟨b, hb, hfield⟩
    -- Its block may as well come last.
    have hperm : blocks.Perm (blocks.erase b ++ [b]) :=
      (List.perm_cons_erase hb).trans (List.perm_append_singleton b _).symm
    rw [contentsOf_perm hperm hblocks hdistinct, contentsOf, List.foldl_append, List.foldl_cons,
      List.foldl_nil, hover, hfield, Option.some_or]

theorem bgpNeighbors_contentsOf (d : Dialect) (blocks : List Block) (earlier : Contents) :
    (d.contentsOf earlier blocks).bgpNeighbors =
      earlier.bgpNeighbors ++ blocks.flatMap fun b => (b.own d).bgpNeighbors := by
  induction blocks generalizing earlier with
  | nil => exact (List.append_nil _).symm
  | cons b blocks ih =>
      rw [contentsOf, List.foldl_cons]
      refine (ih _).trans ?_
      rw [List.flatMap_cons, ← List.append_assoc]
      rfl

end Dialect

/-- A configuration holds what each block says alone, and nothing else. -/
structure HoldsBlocks (d : Dialect) (blocks : List Block) (config : NormalizedConfiguration) :
    Prop where
  hostname : ∃ b ∈ blocks, (b.own d).hostname = some config.hostname
  interfaces : ∀ interface, interface ∈ config.interfaces ↔
    ∃ b ∈ blocks, ∃ builder ∈ (b.own d).interfaces.values,
      Dialect.normalizedInterface builder = interface
  acls : ∀ acl, acl ∈ config.acls ↔
    ∃ b ∈ blocks, ∃ builder ∈ (b.own d).acls.values, d.normalizedAcl builder = acl
  bgpNeighbors : config.routing.bgpNeighbors.Perm (blocks.flatMap fun b => (b.own d).bgpNeighbors)

namespace Dialect

variable {d : Dialect} {s : ParserState}

/-- The values of a dictionary are those of the blocks' dictionaries. -/
theorem mem_map_values {ν β : Type} {dict : Dict String ν} {own : Block → Dict String ν}
    {blocks : List Block} {finished : ν → β}
    (h : ∀ name v, dict.get? name = some v ↔ ∃ b ∈ blocks, (own b).get? name = some v) (x : β) :
    x ∈ dict.values.map finished ↔
      ∃ b ∈ blocks, ∃ v ∈ (own b).values, finished v = x := by
  rw [List.mem_map]
  constructor
  · rintro ⟨v, hv, rfl⟩
    obtain ⟨name, hname⟩ := Dict.mem_values_iff.1 hv
    obtain ⟨b, hb, hown⟩ := (h name v).1 hname
    exact ⟨b, hb, v, Dict.mem_values_iff.2 ⟨name, hown⟩, rfl⟩
  · rintro ⟨b, hb, v, hv, rfl⟩
    obtain ⟨name, hown⟩ := Dict.mem_values_iff.1 hv
    exact ⟨v, Dict.mem_values_iff.2 ⟨name, (h name v).2 ⟨b, hb, hown⟩⟩, rfl⟩

/-- **A configuration that is made of the blocks' contents holds what the blocks say.** -/
theorem holdsBlocks_of_contents {blocks : List Block} (hblocks : ∀ b ∈ blocks, b.WellFormed d)
    (hdistinct : DistinctBlocks d blocks) (hs : s.contents = d.contentsOf .nothing blocks)
    {hostname : String} (hhostname : s.hostname = some hostname) :
    HoldsBlocks d blocks (d.normalizedConfiguration s hostname) where
  hostname := by
    refine (contentsOf_eq_some Contents.hostname (fun _ _ => rfl) rfl hblocks hdistinct).1 ?_
    rw [← hs]
    exact hhostname
  interfaces interface := by
    refine (List.mem_insertionSort _).trans (mem_map_values (fun name builder => ?_) interface)
    refine Iff.trans ?_ (contentsOf_eq_some (fun c => c.interface name) (fun _ _ => rfl) rfl
      hblocks hdistinct)
    rw [← hs]
    rfl
  acls acl := by
    refine (List.mem_insertionSort _).trans (mem_map_values (fun name builder => ?_) acl)
    refine Iff.trans ?_ (contentsOf_eq_some (fun c => c.acl name) (fun _ _ => rfl) rfl
      hblocks hdistinct)
    rw [← hs]
    rfl
  bgpNeighbors := by
    refine (List.perm_insertionSort _ _).trans (List.Perm.of_eq ?_)
    have hneighbors := congrArg Contents.bgpNeighbors hs
    rw [bgpNeighbors_contentsOf] at hneighbors
    exact hneighbors

theorem finish_eq_some {config : NormalizedConfiguration}
    (h : (d.finish s).toOption = some config) :
    ∃ hostname, s.hostname = some hostname ∧ d.normalizedConfiguration s hostname = config := by
  unfold finish at h
  cases hhostname : s.hostname with
  | none => rw [hhostname] at h; cases h
  | some hostname =>
      cases hreference : undeclaredReference s with
      | some reference => simp only [hhostname, hreference] at h; cases h
      | none =>
          simp only [hhostname, hreference] at h
          exact ⟨hostname, rfl, Option.some.inj h⟩

/-- What a text of blocks is read as. -/
theorem readLines_of_madeOf {text : String} {blocks : List Block}
    (hmade : MadeOf d (splitlines text.toList) blocks) (hdistinct : DistinctBlocks d blocks) :
    (d.readLines text).toOption.map ParserState.contents =
      if blocks.all fun b => (b.alone d).isSome then some (d.contentsOf .nothing blocks)
      else none := by
  rw [readLines_toOption]
  refine foldlM_of_madeOf hmade hdistinct fun b _ => ?_
  cases (b.declaration d).opened <;> trivial

end Dialect

/-- **Block-order independence.**  Texts of the same blocks, about different things, in any
order and with any separators, are accepted alike; and what is accepted holds what each block
says alone, so that no line goes to another block. -/
theorem blockOrder (d : Dialect) (text text' : String) (blocks blocks' : List Block)
    (hmade : MadeOf d (splitlines text.toList) blocks)
    (hmade' : MadeOf d (splitlines text'.toList) blocks') (hperm : blocks.Perm blocks')
    (hdistinct : DistinctBlocks d blocks) :
    d.adapter.accepted? text = d.adapter.accepted? text' ∧
      ∀ config, d.adapter.accepted? text = some config → HoldsBlocks d blocks config := by
  have hblocks := Dialect.wellFormed_of_madeOf hmade
  have hdistinct' : DistinctBlocks d blocks' :=
    (hperm.pairwise_iff fun hnot h => hnot (Dialect.clash_symm h)).1 hdistinct
  have hread := Dialect.readLines_of_madeOf hmade hdistinct
  have hread' := Dialect.readLines_of_madeOf hmade' hdistinct'
  rw [← hperm.all_eq, ← Dialect.contentsOf_perm hperm hblocks hdistinct, ← hread] at hread'
  rw [Dialect.accepted?_eq, Dialect.accepted?_eq]
  cases hs : d.readLines text with
  | error e =>
      rw [hs] at hread'
      cases hs' : d.readLines text' with
      | error e' => exact ⟨rfl, nofun⟩
      | ok s' => rw [hs'] at hread'; cases hread'
  | ok s =>
      rw [hs] at hread hread'
      cases hs' : d.readLines text' with
      | error e' => rw [hs'] at hread'; cases hread'
      | ok s' =>
          rw [hs'] at hread'
          have hsame : s'.contents = s.contents := Option.some.inj hread'
          refine ⟨Dialect.finish_of_contents (Dialect.readLines_filed hs) hsame.symm, ?_⟩
          intro config hconfig
          have hcontents : s.contents = d.contentsOf .nothing blocks := by
            split_ifs at hread with haccepted
            · exact Option.some.inj hread
            · cases hread
          obtain ⟨hostname, hhostname, rfl⟩ := Dialect.finish_eq_some hconfig
          exact Dialect.holdsBlocks_of_contents hblocks hdistinct hcontents hhostname

/-- An interface that refers to an ACL, and the ACL. -/
def referenceBlocks : List Block :=
  [⟨"hostname r1".toList, []⟩,
    ⟨"interface Ethernet1".toList, [" ip address 10.0.0.1/24".toList,
      " ip access-group EDGE in".toList]⟩,
    ⟨"ip access-list EDGE".toList, [" permit ip any any".toList]⟩]

/-- A text where the reference is before the ACL, and one where it is after it. -/
def forwardReferenceText : String :=
  "hostname r1\n!\ninterface Ethernet1\n ip address 10.0.0.1/24\n ip access-group EDGE in\n" ++
    "!\nip access-list EDGE\n permit ip any any\n"

def backwardReferenceText : String :=
  "ip access-list EDGE\n permit ip any any\ninterface Ethernet1\n ip address 10.0.0.1/24\n" ++
    " ip access-group EDGE in\n!\nhostname r1\n"

set_option maxRecDepth 20000 in
theorem splitlines_forwardReferenceText : splitlines forwardReferenceText.toList =
    (referenceBlocks[0]).lines ++ ("!".toList :: ((referenceBlocks[1]).lines ++
      ("!".toList :: ((referenceBlocks[2]).lines ++ [])))) := by
  have htext : forwardReferenceText.toList = _ :=
    toList_append_eq String.toList_ofList String.toList_ofList
  rw [htext]
  decide +kernel

set_option maxRecDepth 20000 in
theorem splitlines_backwardReferenceText : splitlines backwardReferenceText.toList =
    (referenceBlocks[2]).lines ++ ((referenceBlocks[1]).lines ++
      ("!".toList :: ((referenceBlocks[0]).lines ++ []))) := by
  have htext : backwardReferenceText.toList = _ :=
    toList_append_eq String.toList_ofList String.toList_ofList
  rw [htext]
  decide +kernel

set_option maxRecDepth 20000 in
theorem blockOrder_reference :
    AristaAdapter.dialect.adapter.accepted? forwardReferenceText =
        AristaAdapter.dialect.adapter.accepted? backwardReferenceText ∧
      ∀ config, AristaAdapter.dialect.adapter.accepted? forwardReferenceText = some config →
        HoldsBlocks AristaAdapter.dialect referenceBlocks config := by
  have hwell : ∀ b ∈ referenceBlocks, b.WellFormed AristaAdapter.dialect :=
    fun b hb => ⟨by revert b; decide, by revert b; decide, by revert b; decide⟩
  have hmade : MadeOf AristaAdapter.dialect (splitlines forwardReferenceText.toList)
      referenceBlocks := by
    rw [splitlines_forwardReferenceText]
    exact .block (hwell _ (by decide)) (.separator (Or.inl (by decide))
      (.block (hwell _ (by decide)) (.separator (Or.inl (by decide))
        (.block (hwell _ (by decide)) .nil))))
  have hmade' : MadeOf AristaAdapter.dialect (splitlines backwardReferenceText.toList)
      referenceBlocks.reverse := by
    rw [splitlines_backwardReferenceText]
    exact .block (hwell _ (by decide)) (.block (hwell _ (by decide))
      (.separator (Or.inl (by decide)) (.block (hwell _ (by decide)) .nil)))
  have hdistinct : DistinctBlocks AristaAdapter.dialect referenceBlocks := by
    have hdeclarations : referenceBlocks.map (Block.declaration AristaAdapter.dialect) =
        [.hostname "r1", .interface "Ethernet1", .namedAcl "EDGE"] := rfl
    have hpairwise : (referenceBlocks.map (Block.declaration AristaAdapter.dialect)).Pairwise
        fun a b => ¬ a.Clash b := by
      rw [hdeclarations]
      simp [Declaration.Clash]
    exact List.pairwise_map.1 hpairwise
  exact blockOrder _ _ _ _ _ hmade hmade' (List.reverse_perm _).symm hdistinct

end MetaRne
