/-
# When `parse` returns

Every conversion of the line parser is guarded but one: the sequence number of an
entry of a named ACL goes to `int()` as it is written, and a number of more than
4300 digits makes it raise.  `overlong` is such a line, and `reachesOverlong` says
of the lines of a text, without the parser's state, that one of them is come to:
its block is open, and no line before it is rejected.

`Outcome` is what a line does of returning, rejecting and raising, and
`readLine_outcome` the step; the run follows by induction.
-/

import MetaRne.Adapters.NormalForm

namespace MetaRne

open Library Library.Effect Library.Regex Library.Regex.Matcher Python

/-! ### What is read off the lines -/

/-- The block that a declaration opens. -/
def Declaration.opened : Declaration → Context
  | .interface name => .interface name
  | .namedAcl name => .acl name
  | .routerBgp => .bgp
  | _ => .none

/-- The keyword of the declaration is there, and its argument is not. -/
def Declaration.isMalformed : Declaration → Bool
  | .malformedHostname => true
  | .malformedInterface => true
  | _ => false

/-- The address or the direction that the command gives is none. -/
def InterfaceCommand.isMalformed : InterfaceCommand → Bool
  | .ipAddress (.error _) => true
  | .accessGroup _ directionText => (AclDirection.ofValue? directionText).isNone
  | _ => false

/-- The neighbour that a line states is none. -/
def isMalformedNeighbor (stripped : List Char) : Bool :=
  match bgpNeighborRe.match? stripped with
  | none => false
  | some found => (tryNormalizeBgpNeighbor found.1 found.2).toOption.isNone

/-- The entry of a named ACL has a sequence number of too many digits. -/
def isOverlongEntry (stripped : List Char) : Bool :=
  match (aclNamedEntryRe.match? stripped).bind (·.sequence) with
  | none => false
  | some number => decide (maxStrDigits < number.toList.length)

namespace Dialect

/-- The block that is open after a line. -/
def contextAfter (d : Dialect) (context : Context) (line : SourceLine) : Context :=
  match line.kind with
  | .blank => context
  | .terminator => .none
  | .topLevel => (d.declaration line.stripped).opened
  | .child => context

/-- The line ends the reading with a `ParseError`. -/
def rejects (d : Dialect) (context : Context) (line : SourceLine) : Bool :=
  match line.kind, context with
  | .topLevel, _ => (d.declaration line.stripped).isMalformed
  | .child, .interface _ => (d.interfaceCommand line.stripped).isMalformed
  | .child, .bgp => isMalformedNeighbor line.stripped
  | _, _ => false

/-- The line is an entry of the open named ACL, with a sequence number of too many digits. -/
def overlong (context : Context) (line : SourceLine) : Bool :=
  match line.kind, context with
  | .child, .acl _ => isOverlongEntry line.stripped
  | _, _ => false

/-- Reading the lines comes to an overlong one before it ends. -/
def reachesOverlong (d : Dialect) : Context → List SourceLine → Bool
  | _, [] => false
  | context, line :: rest =>
    overlong context line ||
      (!d.rejects context line && reachesOverlong d (d.contextAfter context line) rest)

/-! ### What a line does -/

/-- A rejection is raised only, or returned only, where it is said to be, and a line that is
read to its end leaves the block open that is said to be. -/
def Outcome (raises rejects : Bool) (after : Context) : Except Rejection ParserState → Prop
  | .error (.raised _) => raises = true
  | .error (.returned _) => raises = false ∧ rejects = true
  | .ok s => raises = false ∧ rejects = false ∧ s.context = after

variable {d : Dialect} {s s' : ParserState} {line : SourceLine}

/-- The interface whose block is open has a builder. -/
def Anchored (s : ParserState) : Prop :=
  ∀ name, s.context = .interface name → (s.interfaces.get? name).isSome

theorem anchored_of_context (context : Context) (hcontext : s.context = context)
    (h : ∀ name, context ≠ .interface name) : Anchored s :=
  fun name hname => absurd (hcontext.symm.trans hname) (h name)

/-- **A line keeps the open interface.** -/
theorem Reads.anchored (h : Reads d s line s') (hs : Anchored s) : Anchored s' := by
  cases h with
  | blank => exact hs
  | terminator => exact anchored_of_context .none rfl nofun
  | hostname => exact anchored_of_context .none rfl nofun
  | interface name =>
      intro name' hname
      obtain rfl := Context.interface.inj hname
      show ((s.interfaces.set name _).get? name).isSome
      rw [Dict.get?_set, if_pos rfl]
      rfl
  | namedAcl name => exact anchored_of_context (.acl name) rfl nofun
  | numberedAcl => exact anchored_of_context .none rfl nofun
  | routerBgp => exact anchored_of_context .bgp rfl nofun
  | unrecognized => exact anchored_of_context .none rfl nofun
  | ignored => exact hs
  | interfaceLine name builder configured =>
      intro name' hname
      show ((s.interfaces.set name configured).get? name').isSome
      rw [Dict.get?_set]
      split_ifs
      · rfl
      · exact hs name' hname
  | aclLine => exact hs
  | bgpLine => exact hs

/-- The entry of a pattern becomes one unless its sequence number is too long. -/
theorem pendingEntry_of_shape {tokens : AclEntryTokens} (h : EntryShape tokens) :
    (∃ entry, pendingEntry tokens = .ok entry) ↔
      ∀ number, tokens.sequence = some number → number.toList.length ≤ maxStrDigits := by
  obtain ⟨action, haction⟩ : ∃ action, AclAction.ofValue tokens.action = .ok action := by
    rcases h.action with hpermit | hdeny
    · exact ⟨.permit, by rw [hpermit]; rfl⟩
    · exact ⟨.deny, by rw [hdeny]; rfl⟩
  have hread : (∃ entry, pendingEntry tokens = .ok entry) ↔
      ∃ sequence, tokens.sequence.mapM (fun text => pyInt text.toList) = .ok sequence := by
    unfold pendingEntry
    constructor
    · rintro ⟨entry, hentry⟩
      obtain ⟨sequence, hsequence, -⟩ := except_bind_eq_ok.1 hentry
      exact ⟨sequence, hsequence⟩
    · rintro ⟨sequence, hsequence⟩
      rw [hsequence, haction]
      exact ⟨_, rfl⟩
  rw [hread]
  cases hsequence : tokens.sequence with
  | none => exact iff_of_true ⟨none, rfl⟩ nofun
  | some number =>
      obtain ⟨hne, hall⟩ := h.sequence number hsequence
      have hint := pyInt_of_isDecimal hne hall
      have hmap : (some number).mapM (fun text : String => pyInt text.toList) =
          some <$> pyInt number.toList := rfl
      rw [hmap]
      constructor
      · rintro ⟨sequence, hok⟩ number' hsame
        obtain rfl := Option.some.inj hsame
        cases hvalue : pyInt number.toList with
        | ok n => exact hint.1 ⟨n, hvalue⟩
        | error e =>
            rw [hvalue] at hok
            cases hok
      · intro hshort
        obtain ⟨n, hn⟩ := hint.2 (hshort number rfl)
        exact ⟨some n, by rw [hn]; rfl⟩

/-- An entry of a named ACL is overlong exactly where it cannot be read. -/
theorem isOverlongEntry_of_match? {stripped : List Char} {tokens : AclEntryTokens}
    (hline : aclNamedEntryRe.match? stripped = some tokens) :
    (∃ entry, pendingEntry tokens = .ok entry) ↔ isOverlongEntry stripped = false := by
  rw [pendingEntry_of_shape (shape_of_aclNamedEntryRe hline)]
  unfold isOverlongEntry
  rw [hline, Option.bind_some]
  cases tokens.sequence with
  | none => exact iff_of_true nofun rfl
  | some number =>
      simp only [Option.some.injEq, forall_eq', decide_eq_false_iff_not, not_lt]

theorem outcome_of_readDeclaration (hd : d.Lawful) :
    Outcome false (d.declaration line.stripped).isMalformed (d.declaration line.stripped).opened
      (d.readDeclaration s line) := by
  unfold readDeclaration
  cases hline : d.declaration line.stripped with
  | hostname name => exact ⟨rfl, rfl, rfl⟩
  | malformedHostname => exact ⟨rfl, rfl⟩
  | interface name => exact ⟨rfl, rfl, rfl⟩
  | malformedInterface => exact ⟨rfl, rfl⟩
  | namedAcl name => exact ⟨rfl, rfl, rfl⟩
  | numberedAcl number tokens =>
      -- A numbered entry has no sequence number, so there is nothing to convert.
      obtain ⟨hnone, haction⟩ := hd.numbered (match?_of_declaration_numberedAcl hline)
      have hshape : EntryShape tokens := ⟨haction, by rw [hnone]; exact nofun⟩
      obtain ⟨entry, hentry⟩ :=
        (pendingEntry_of_shape hshape).2 (by rw [hnone]; exact nofun)
      show Outcome _ _ _ (raising (pendingEntry tokens) >>= _)
      rw [hentry]
      exact ⟨rfl, rfl, rfl⟩
  | routerBgp => exact ⟨rfl, rfl, rfl⟩
  | unrecognized => exact ⟨rfl, rfl, rfl⟩

/-- A command is rejected exactly where it is malformed, and never raises. -/
theorem configureInterface_outcome (builder : InterfaceBuilder) :
    (∃ configured, d.configureInterface builder line = .ok configured ∧
      (d.interfaceCommand line.stripped).isMalformed = false) ∨
    ∃ parseError, d.configureInterface builder line = .error (.returned parseError) ∧
      (d.interfaceCommand line.stripped).isMalformed = true := by
  unfold configureInterface
  cases d.interfaceCommand line.stripped with
  | description text => exact Or.inl ⟨_, rfl, rfl⟩
  | ipAddress parsed =>
      cases parsed with
      | ok address => exact Or.inl ⟨_, rfl, rfl⟩
      | error code => exact Or.inr ⟨_, rfl, rfl⟩
  | shutdown => exact Or.inl ⟨_, rfl, rfl⟩
  | noShutdown => exact Or.inl ⟨_, rfl, rfl⟩
  | accessGroup aclName directionText =>
      unfold InterfaceCommand.isMalformed
      cases hdirection : AclDirection.ofValue? directionText with
      | none =>
          simp only [hdirection]
          exact Or.inr ⟨_, rfl, rfl⟩
      | some direction =>
          cases direction with
          | «in» =>
              simp only [hdirection]
              exact Or.inl ⟨_, rfl, rfl⟩
          | out =>
              simp only [hdirection]
              exact Or.inl ⟨_, rfl, rfl⟩
  | unrecognized => exact Or.inl ⟨_, rfl, rfl⟩

theorem outcome_of_readInterfaceLine {name : String} (hcontext : s.context = .interface name)
    (hs : Anchored s) :
    Outcome false (d.interfaceCommand line.stripped).isMalformed (.interface name)
      (d.readInterfaceLine s name line) := by
  obtain ⟨builder, hbuilder⟩ := Option.isSome_iff_exists.1 (hs name hcontext)
  unfold readInterfaceLine
  simp only [hbuilder]
  rcases @configureInterface_outcome d line builder with
    ⟨configured, hok, hwell⟩ | ⟨parseError, herror, hmalformed⟩
  · rw [hok]
    exact ⟨rfl, hwell, hcontext⟩
  · rw [herror]
    exact ⟨rfl, hmalformed⟩

theorem outcome_of_readAclLine {name : String} (hcontext : s.context = .acl name) :
    Outcome (isOverlongEntry line.stripped) false (.acl name) (readAclLine s name line) := by
  unfold readAclLine
  cases hline : aclNamedEntryRe.match? line.stripped with
  | none =>
      have hshort : isOverlongEntry line.stripped = false := by
        unfold isOverlongEntry
        rw [hline]
        rfl
      exact ⟨hshort, rfl, hcontext⟩
  | some tokens =>
      have hread := isOverlongEntry_of_match? hline
      show Outcome _ _ _ (raising (pendingEntry tokens) >>= _)
      cases hentry : pendingEntry tokens with
      | ok entry => exact ⟨hread.1 ⟨entry, hentry⟩, rfl, hcontext⟩
      | error e =>
          show isOverlongEntry line.stripped = true
          rw [← Bool.not_eq_false, ← hread]
          rintro ⟨entry, hok⟩
          rw [hentry] at hok
          cases hok

theorem outcome_of_readBgpLine (hcontext : s.context = .bgp) :
    Outcome false (isMalformedNeighbor line.stripped) .bgp (readBgpLine s line) := by
  unfold readBgpLine isMalformedNeighbor
  cases bgpNeighborRe.match? line.stripped with
  | none => exact ⟨rfl, rfl, hcontext⟩
  | some found =>
      cases hneighbor : tryNormalizeBgpNeighbor found.1 found.2 with
      | error code =>
          simp only [hneighbor]
          exact ⟨rfl, rfl⟩
      | ok neighbor =>
          simp only [hneighbor]
          exact ⟨rfl, rfl, hcontext⟩

/-- **What a line does is read off the line and the open block.** -/
theorem readLine_outcome (hd : d.Lawful) (hs : Anchored s) :
    Outcome (overlong s.context line) (d.rejects s.context line) (d.contextAfter s.context line)
      (d.readLine s line) := by
  unfold readLine overlong rejects contextAfter
  cases hkind : line.kind with
  | blank => exact ⟨rfl, rfl, rfl⟩
  | terminator => exact ⟨rfl, rfl, rfl⟩
  | topLevel => exact outcome_of_readDeclaration hd
  | child =>
      unfold readChild
      cases hcontext : s.context with
      | none => exact ⟨rfl, rfl, hcontext⟩
      | interface name => exact outcome_of_readInterfaceLine hcontext hs
      | acl name => exact outcome_of_readAclLine hcontext
      | bgp => exact outcome_of_readBgpLine hcontext

/-- **Reading lines raises exactly where it comes to an overlong one.** -/
theorem foldlM_readLine_raises (hd : d.Lawful) {lines : List SourceLine} (hs : Anchored s) :
    (∃ error, lines.foldlM d.readLine s = .error (.raised error)) ↔
      d.reachesOverlong s.context lines = true := by
  induction lines generalizing s with
  | nil => exact iff_of_false (fun ⟨_, h⟩ => nomatch h) Bool.false_ne_true
  | cons line lines ih =>
      have houtcome := @readLine_outcome d s line hd hs
      rw [List.foldlM_cons, reachesOverlong]
      cases hline : d.readLine s line with
      | error rejection =>
          rw [hline] at houtcome
          cases rejection with
          | raised error =>
              rw [show overlong s.context line = true from houtcome, Bool.true_or]
              exact iff_of_true ⟨error, rfl⟩ rfl
          | returned parseError =>
              rw [houtcome.1, houtcome.2]
              exact iff_of_false (fun ⟨_, h⟩ => nomatch h) Bool.false_ne_true
      | ok s₁ =>
          rw [hline] at houtcome
          obtain ⟨hshort, hkept, hcontext⟩ := houtcome
          rw [hshort, hkept, ← hcontext, Bool.false_or, Bool.not_false, Bool.true_and]
          exact ih ((reads_of_readLine hline).anchored hs)

theorem finish_ne_raised {error : Error} : d.finish s ≠ .error (.raised error) := by
  unfold finish
  cases s.hostname with
  | none => exact nofun
  | some hostname =>
      cases undeclaredReference s with
      | none => exact nofun
      | some reference => exact nofun

theorem parse_eq_error {text : String} {error : Error} :
    d.parse text = .error error ↔
      isBlank text = false ∧ d.readLines text >>= d.finish = .error (.raised error) := by
  unfold parse
  by_cases hblank : isBlank text = true
  · rw [if_pos hblank]
    exact iff_of_false nofun (fun h => nomatch hblank.symm.trans h.1)
  rw [if_neg hblank, Bool.not_eq_true] at *
  cases hread : d.readLines text >>= d.finish with
  | ok config => exact iff_of_false nofun (fun h => nomatch h.2)
  | error rejection =>
      cases rejection with
      | returned parseError => exact iff_of_false nofun (fun h => nomatch h.2)
      | raised error' =>
          simp only [Except.error.injEq, Rejection.raised.injEq, hblank, true_and]

/-- **`parse` raises exactly where it comes to an overlong line.** -/
theorem parse_raises (hd : d.Lawful) (text : String) :
    (∃ error, d.parse text = .error error) ↔
      isBlank text = false ∧ d.reachesOverlong .none (sourceLines text) = true := by
  have hlines : (∃ error, d.readLines text = .error (.raised error)) ↔
      d.reachesOverlong .none (sourceLines text) = true :=
    foldlM_readLine_raises (s := .initial) hd nofun
  simp only [parse_eq_error, ← hlines, exists_and_left]
  refine and_congr_right fun _ => exists_congr fun error => ?_
  cases d.readLines text with
  | error rejection =>
      show Except.error rejection = _ ↔ _
      rw [Except.error.injEq, Except.error.injEq]
  | ok s => exact iff_of_false finish_ne_raised nofun

/-- The addresses that neighbours are sorted by are read back from what was kept. -/
theorem ipv4Address_neighborIp (hd : d.Lawful) {text : String} (h : d.readLines text = .ok s)
    {neighbor : NormalizedBgpNeighbor} (hmem : neighbor ∈ s.bgpNeighbors) :
    ipv4Address neighbor.neighborIp.toList = some (neighborAddress neighbor) := by
  obtain ⟨-, n, hlt, hip⟩ := (readLines_checked hd h).neighbor neighbor hmem
  rw [neighborAddress_of_ipv4Text hlt hip, hip, ipv4Address_ipv4Text hlt]

end Dialect

/-- **When `parse` returns**: unless the text has a line before which nothing is rejected
and that is an entry of an open named ACL, with a sequence number of more than 4300 digits.
The sort after the last line converts nothing that is no address. -/
theorem parse_returns_iff {d : Dialect}
    (hd : d = CiscoAdapter.dialect ∨ d = AristaAdapter.dialect) (text : String) :
    ((∃ result, d.adapter.parse text = .ok result) ↔
      isBlank text = true ∨ d.reachesOverlong .none (Dialect.sourceLines text) = false) ∧
    ∀ s, d.readLines text = .ok s → ∀ neighbor ∈ s.bgpNeighbors,
      ipv4Address neighbor.neighborIp.toList = some (Dialect.neighborAddress neighbor) := by
  have hlawful := lawful_of_vendor hd
  refine ⟨?_, fun s hlines neighbor hmem =>
    Dialect.ipv4Address_neighborIp hlawful hlines hmem⟩
  have hraises := Dialect.parse_raises hlawful text
  have hreturns : (∃ result, d.parse text = .ok result) ↔ ¬ ∃ error, d.parse text = .error error := by
    cases d.parse text with
    | ok result => exact iff_of_true ⟨result, rfl⟩ (fun ⟨_, h⟩ => nomatch h)
    | error error => exact iff_of_false (fun ⟨_, h⟩ => nomatch h) (fun h => h ⟨error, rfl⟩)
  show (∃ result, d.parse text = .ok result) ↔ _
  rw [hreturns, hraises, not_and_or, Bool.not_eq_false, Bool.not_eq_true]

set_option maxRecDepth 20000 in
/-- A plain text is read to its end. -/
theorem parse_returns_plainText :
    ∃ result, AristaAdapter.dialect.adapter.parse
      "hostname edge-1\nip access-list A\n 10 permit ip any any\n" = .ok result :=
  (parse_returns_iff (Or.inr rfl) _).1.2 (Or.inr (by decide +kernel))

/-! ### A text that raises -/

/-- The sequence number of an entry, written with so many ones. -/
def ones (count : ℕ) : List Char := List.replicate count '1'

/-- An entry under a sequence number. -/
def numberedEntry (count : ℕ) : List Char := ones count ++ " permit ip any any".toList

/-- A text with one entry of an ACL. -/
def numberedEntryText (opening : String) (count : ℕ) : String :=
  String.ofList ("hostname r".toList ++ '\n' :: (opening.toList ++ '\n' ::
    ((' ' :: numberedEntry count) ++ ['\n'])))

/-- The pattern of an entry matches it. -/
theorem exists_match?_numberedEntry {count : ℕ} (hcount : 0 < count) :
    ∃ tokens, aclNamedEntryRe.match? (numberedEntry count) = some tokens := by
  suffices hway : ((⟨some (String.ofList (ones count)), "permit", "ip", "any", "any"⟩ :
      AclEntryTokens), ([] : List Char)) ∈ aclNamedEntryRe (numberedEntry count) from
    match?_isSome_of_mem hway
  refine mem_bind.2 ⟨some (String.ofList (ones count)), "permit ip any any".toList, ?_, ?_⟩
  · refine mem_either.2 (Or.inl (mem_bind.2 ⟨String.ofList (ones count),
      "permit ip any any".toList, ?_, mem_pure.2 rfl⟩))
    refine mem_bind.2 ⟨String.ofList (ones count), " permit ip any any".toList, ?_, ?_⟩
    · refine mem_plus.2 ⟨by rw [String.toList_ofList]; rfl, ?_, ?_⟩
      · intro c hc
        rw [String.toList_ofList] at hc
        rw [List.eq_of_mem_replicate hc]
        decide
      · rw [String.toList_ofList]
        exact List.ne_nil_of_length_pos (by rw [ones, List.length_replicate]; exact hcount)
    · exact mem_bind.2 ⟨" ", "permit ip any any".toList, by decide, mem_pure.2 rfl⟩
  · refine mem_bind.2 ⟨"permit", " ip any any".toList, by decide, ?_⟩
    refine mem_bind.2 ⟨" ", "ip any any".toList, by decide, ?_⟩
    refine mem_bind.2 ⟨"ip", " any any".toList, by decide, ?_⟩
    refine mem_bind.2 ⟨" ", "any any".toList, by decide, ?_⟩
    refine mem_bind.2 ⟨"any", " any".toList, by decide, ?_⟩
    refine mem_bind.2 ⟨" ", "any".toList, by decide, ?_⟩
    refine mem_bind.2 ⟨"any", [], by decide, ?_⟩
    exact mem_bind.2 ⟨(), [], by decide, mem_pure.2 rfl⟩

/-- However the pattern matches, all of the ones are its sequence number. -/
theorem le_length_of_numberRe {count : ℕ} {number : String} {rest : List Char}
    (h : (number, rest) ∈ numberRe (numberedEntry count)) : count ≤ number.toList.length := by
  obtain ⟨-, -, gap, hne, hgap, hsame⟩ := shape_of_mem_numberRe h
  rcases List.append_eq_append_iff.1 hsame with ⟨more, hnumber, -⟩ | ⟨left, hones, hgaprest⟩
  · rw [hnumber, List.length_append, ones, List.length_replicate]
    omega
  · cases left with
    | nil =>
        rw [← List.append_nil number.toList, ← hones, ones, List.length_replicate]
    | cons c left =>
        -- A one that is left over would be white space.
        obtain ⟨c', gap, rfl⟩ := List.exists_cons_of_ne_nil hne
        obtain ⟨rfl, -⟩ := List.cons.inj hgaprest
        have hone : c' = '1' := by
          refine List.eq_of_mem_replicate (n := count) ?_
          rw [← ones, hones]
          exact List.mem_append_right _ (List.mem_cons_self ..)
        have hspace := hgap c' (List.mem_cons_self ..)
        rw [hone] at hspace
        exact absurd hspace (by decide)

theorem isOverlongEntry_numberedEntry {count : ℕ} (hcount : maxStrDigits < count) :
    isOverlongEntry (numberedEntry count) = true := by
  obtain ⟨tokens, hmatch⟩ := exists_match?_numberedEntry (Nat.zero_lt_of_lt hcount)
  obtain ⟨rest, hmem⟩ := mem_of_match? hmatch
  obtain ⟨sequence, mid, hsequence, hentry⟩ := mem_bind.1 hmem
  obtain ⟨hsame, -⟩ := shape_of_mem_aclEntryRe hentry
  unfold isOverlongEntry
  rw [hmatch, Option.bind_some, hsame]
  cases sequence with
  | some number =>
      have hlength := le_length_of_numberRe (mem_of_mem_optional hsequence)
      exact decide_eq_true (lt_of_lt_of_le hcount hlength)
  | none =>
      -- Without its number, the entry would begin with an action.
      obtain rfl := eq_of_none_mem_optional hsequence
      obtain ⟨count, rfl⟩ := Nat.exists_eq_add_of_lt (Nat.zero_lt_of_lt hcount)
      obtain ⟨action, rest', haction, -⟩ := mem_bind.1 hentry
      rcases mem_either.1 haction with hpermit | hdeny
      · exact absurd (List.head_eq_of_cons_eq (mem_literal.1 hpermit).2) (by decide)
      · exact absurd (List.head_eq_of_cons_eq (mem_literal.1 hdeny).2) (by decide)

/-- The text has three lines. -/
theorem sourceLines_numberedEntryText {opening : String} (count : ℕ)
    (hopening : ∀ c ∈ opening.toList, isLineBoundary c = false) :
    Dialect.sourceLines (numberedEntryText opening count) = [⟨1, "hostname r".toList⟩,
      ⟨2, opening.toList⟩, ⟨3, ' ' :: numberedEntry count⟩] := by
  have hheader : ∀ c ∈ "hostname r".toList, isLineBoundary c = false :=
    isLineBoundary_eq_false_of_all (by decide)
  have hentry : ∀ c ∈ ' ' :: numberedEntry count, isLineBoundary c = false := by
    refine List.forall_mem_cons.2 ⟨by decide, fun c hc => ?_⟩
    rcases List.mem_append.1 hc with hone | hrest
    · rw [List.eq_of_mem_replicate hone]
      decide
    · have hplain : ∀ c ∈ " permit ip any any".toList, isLineBoundary c = false :=
        isLineBoundary_eq_false_of_all (by decide)
      exact hplain c hrest
  unfold Dialect.sourceLines numberedEntryText
  rw [String.toList_ofList, splitlines_append hheader, splitlines_append hopening,
    splitlines_append hentry, splitlines]
  rfl

/-- The number begins the line once it is stripped. -/
theorem strip_numberedEntry (count : ℕ) :
    strip (' ' :: numberedEntry (count + 1)) = numberedEntry (count + 1) := by
  have hshape : numberedEntry (count + 1) =
      '1' :: ((ones count ++ " permit ip any an".toList) ++ ['y']) := by
    unfold numberedEntry ones
    rw [List.replicate_succ, List.cons_append, List.append_assoc]
    rfl
  rw [hshape]
  exact strip_cons_space (by decide) (by decide)

/-- The line belongs to the open block. -/
theorem kind_numberedEntry (count : ℕ) :
    SourceLine.kind ⟨3, ' ' :: numberedEntry (count + 1)⟩ = .child := by
  have hfirst : numberedEntry (count + 1) = '1' :: (ones count ++ " permit ip any any".toList) := by
    unfold numberedEntry ones
    rw [List.replicate_succ, List.cons_append]
  have hindented : ' ' :: numberedEntry (count + 1) ≠ lstrip (' ' :: numberedEntry (count + 1)) := by
    have hlstrip : lstrip (' ' :: numberedEntry (count + 1)) = numberedEntry (count + 1) := by
      rw [hfirst, lstrip, List.dropWhile_cons_of_pos (by decide)]
      exact List.dropWhile_cons_of_neg (by decide)
    rw [hlstrip]
    exact fun hsame => absurd (congrArg List.length hsame) (by rw [List.length_cons]; omega)
  unfold SourceLine.kind SourceLine.stripped
  rw [strip_numberedEntry, if_neg, if_neg, if_neg hindented]
  · rw [hfirst]
    exact fun hsame => absurd (List.head_eq_of_cons_eq hsame) (by decide)
  · rw [hfirst]
    exact List.cons_ne_nil _ _

/-- **An entry with an overlong number is come to**, once its ACL is open. -/
theorem reachesOverlong_numberedEntryText {d : Dialect} {opening name : String} {count : ℕ}
    (hcount : maxStrDigits < count + 1)
    (hboundary : ∀ c ∈ opening.toList, isLineBoundary c = false)
    (hheader : d.contextAfter .none ⟨1, "hostname r".toList⟩ = .none ∧
      d.rejects .none ⟨1, "hostname r".toList⟩ = false)
    (hopening : d.contextAfter .none ⟨2, opening.toList⟩ = .acl name ∧
      d.rejects .none ⟨2, opening.toList⟩ = false) :
    d.reachesOverlong .none (Dialect.sourceLines (numberedEntryText opening (count + 1))) =
      true := by
  have hlong : Dialect.overlong (.acl name) ⟨3, ' ' :: numberedEntry (count + 1)⟩ = true := by
    unfold Dialect.overlong SourceLine.stripped
    rw [kind_numberedEntry, strip_numberedEntry]
    exact isOverlongEntry_numberedEntry hcount
  rw [sourceLines_numberedEntryText _ hboundary, Dialect.reachesOverlong, hheader.1, hheader.2,
    Dialect.reachesOverlong, hopening.1, hopening.2, Dialect.reachesOverlong, hlong]
  simp only [Bool.true_or, Bool.not_false, Bool.true_and, Bool.or_true]

theorem isBlank_numberedEntryText (opening : String) (count : ℕ) :
    isBlank (numberedEntryText opening count) = false := by
  have hheader : "hostname r".toList.all isSpace = false := by decide
  unfold isBlank numberedEntryText
  rw [String.toList_ofList, List.all_append, hheader, Bool.false_and]

/-- A dialect raises on one digit too many, once the ACL is open. -/
theorem parse_numberedEntryText {d : Dialect} (hd : d.Lawful) {opening name : String}
    (hboundary : ∀ c ∈ opening.toList, isLineBoundary c = false)
    (hheader : d.contextAfter .none ⟨1, "hostname r".toList⟩ = .none ∧
      d.rejects .none ⟨1, "hostname r".toList⟩ = false)
    (hopening : d.contextAfter .none ⟨2, opening.toList⟩ = .acl name ∧
      d.rejects .none ⟨2, opening.toList⟩ = false) :
    ¬ ∃ result, d.adapter.parse (numberedEntryText opening (maxStrDigits + 1)) = .ok result := by
  rintro ⟨result, hresult⟩
  obtain ⟨error, herror⟩ := (Dialect.parse_raises hd _).2 ⟨isBlank_numberedEntryText opening _,
    reachesOverlong_numberedEntryText (Nat.lt_succ_self _) hboundary hheader hopening⟩
  exact nomatch herror.symm.trans hresult

/-- **Neither adapter returns** on an entry whose sequence number has one digit too many. -/
theorem not_total_numberedEntryText :
    (¬ ∃ result, CiscoAdapter.dialect.adapter.parse
      (numberedEntryText "ip access-list extended A" (maxStrDigits + 1)) = .ok result) ∧
    ¬ ∃ result, AristaAdapter.dialect.adapter.parse
      (numberedEntryText "ip access-list A" (maxStrDigits + 1)) = .ok result := by
  have hcisco : CiscoAdapter.dialect.contextAfter .none
      ⟨2, "ip access-list extended A".toList⟩ = .acl "A" ∧ CiscoAdapter.dialect.rejects .none
      ⟨2, "ip access-list extended A".toList⟩ = false := by decide
  have harista : AristaAdapter.dialect.contextAfter .none
      ⟨2, "ip access-list A".toList⟩ = .acl "A" ∧ AristaAdapter.dialect.rejects .none
      ⟨2, "ip access-list A".toList⟩ = false := by decide
  exact ⟨parse_numberedEntryText CiscoAdapter.lawful_dialect
      (isLineBoundary_eq_false_of_all (by decide)) (by decide) hcisco,
    parse_numberedEntryText AristaAdapter.lawful_dialect
      (isLineBoundary_eq_false_of_all (by decide)) (by decide) harista⟩

end MetaRne
