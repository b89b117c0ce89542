/-
# What the patterns of a line capture

The shape of a line that a pattern matches, and of what it captures.  A dialect is
lawful (`Dialect.Lawful`) if the addresses that it reads are an IPv4 address and a
prefix length, and its numbered ACL entries come without a sequence number; both
vendors' dialects are.
-/

import MetaRne.Adapters.Vendors

namespace MetaRne

open Library.Regex Library.Regex.Matcher Python

/-- A token of a line: characters, and no white space. -/
structure IsToken (text : String) : Prop where
  ne_nil : text.toList ≠ []
  not_isSpace : ∀ c ∈ text.toList, isSpace c = false

theorem isToken_of_all {text : String} (hne : text.toList ≠ [])
    (hall : (text.toList.all fun c => !isSpace c) = true) : IsToken text :=
  ⟨hne, fun c hc => by simpa using List.all_eq_true.1 hall c hc⟩

/-- White space alone. -/
def IsGap (text : List Char) : Prop := ∀ c ∈ text, isSpace c = true

section Shapes

variable {text rest : List Char} {w : String}

theorem isToken_of_mem_token (h : (w, rest) ∈ token text) :
    text = w.toList ++ rest ∧ IsToken w := by
  obtain ⟨happend, hall, hne⟩ := mem_plus.1 h
  exact ⟨happend, hne, fun c hc => by simpa using hall c hc⟩

theorem isGap_of_mem_spaces (h : (w, rest) ∈ spaces text) :
    text = w.toList ++ rest ∧ IsGap w.toList ∧ w.toList ≠ [] := mem_plus.1 h

theorem isGap_of_mem_trailing {u : Unit} (h : (u, rest) ∈ trailing text) : IsGap text := by
  obtain ⟨gap, mid, hgap, hend⟩ := mem_bind.1 h
  obtain ⟨rfl, hall⟩ := mem_star.1 hgap
  intro c hc
  rcases List.mem_append.1 hc with hc | hc
  · exact hall c hc
  · rcases mem_endOfText hend with rfl | rfl
    · exact absurd hc List.not_mem_nil
    · obtain rfl := List.mem_singleton.1 hc
      decide

/-- **A keyword with one argument**: the argument is a token, with white space around it. -/
theorem shape_of_oneArgument {keyword argument : String}
    (h : (oneArgument keyword).match? text = some argument) :
    IsToken argument ∧ ∃ gap tail, gap ≠ [] ∧ IsGap gap ∧ IsGap tail ∧
      text = keyword.toList ++ (gap ++ (argument.toList ++ tail)) := by
  obtain ⟨rest, hmem⟩ := mem_of_match? h
  obtain ⟨_, mid, hkeyword, h₁⟩ := mem_bind.1 hmem
  obtain ⟨gap, mid', hgap, h₂⟩ := mem_bind.1 h₁
  obtain ⟨value, mid'', hvalue, h₃⟩ := mem_bind.1 h₂
  obtain ⟨u, mid₃, htrailing, h₄⟩ := mem_bind.1 h₃
  obtain ⟨rfl, rfl⟩ := Prod.mk.inj (mem_pure.1 h₄)
  obtain ⟨-, rfl⟩ := mem_literal.1 hkeyword
  obtain ⟨rfl, hspace, hne⟩ := isGap_of_mem_spaces hgap
  obtain ⟨rfl, htoken⟩ := isToken_of_mem_token hvalue
  exact ⟨htoken, gap.toList, mid'', hne, hspace, isGap_of_mem_trailing htrailing, rfl⟩

/-! ### Lines with given tokens -/

/-- Nothing follows, or white space does. -/
def StartsGap (text : List Char) : Prop := text = [] ∨ ∃ c rest, text = c :: rest ∧ isSpace c = true

theorem startsGap_of_isGap {gap : List Char} (h : IsGap gap) : StartsGap gap := by
  cases gap with
  | nil => exact Or.inl rfl
  | cons c gap => exact Or.inr ⟨c, gap, rfl, h c (List.mem_cons_self ..)⟩

theorem startsGap_append {gap : List Char} (h : IsGap gap) (hne : gap ≠ []) (rest : List Char) :
    StartsGap (gap ++ rest) := by
  obtain ⟨c, gap, rfl⟩ := List.exists_cons_of_ne_nil hne
  exact Or.inr ⟨c, gap ++ rest, rfl, h c (List.mem_cons_self ..)⟩

/-- **Where a token ends does not depend on what follows.** -/
theorem token_append_inj {first second : String} {rest rest' : List Char} (hfirst : IsToken first)
    (hsecond : IsToken second) (hrest : StartsGap rest) (hrest' : StartsGap rest')
    (h : first.toList ++ rest = second.toList ++ rest') : first = second ∧ rest = rest' := by
  have htake : ∀ {text : String} {rest : List Char}, IsToken text → StartsGap rest →
      (text.toList ++ rest).takeWhile (fun c => !isSpace c) = text.toList := by
    intro text rest htext hrest
    have hall : ∀ c ∈ text.toList, (!isSpace c) = true := fun c hc => by
      rw [htext.not_isSpace c hc, Bool.not_false]
    rw [List.takeWhile_append_of_pos hall]
    rcases hrest with rfl | ⟨c, rest, rfl, hc⟩
    · rw [List.takeWhile_nil, List.append_nil]
    · rw [List.takeWhile_cons_of_neg (by simp [hc]), List.append_nil]
  have hsame : first.toList = second.toList := by
    rw [← htake hfirst hrest, ← htake hsecond hrest', h]
  rw [hsame] at h
  exact ⟨String.toList_inj.1 hsame, List.append_cancel_left h⟩

/-- The white space before a token is all of it. -/
theorem gap_append_inj {gap gap' : List Char} {first second : String} {rest rest' : List Char}
    (hgap : IsGap gap) (hgap' : IsGap gap') (hfirst : IsToken first) (hsecond : IsToken second)
    (h : gap ++ (first.toList ++ rest) = gap' ++ (second.toList ++ rest')) :
    first.toList ++ rest = second.toList ++ rest' := by
  have hdrop : ∀ {gap : List Char} {text : String} {rest : List Char}, IsGap gap → IsToken text →
      (gap ++ (text.toList ++ rest)).dropWhile isSpace = text.toList ++ rest := by
    intro gap text rest hgap htext
    rw [List.dropWhile_append_of_pos hgap]
    obtain ⟨c, more, hcons⟩ := List.exists_cons_of_ne_nil htext.ne_nil
    have hc := htext.not_isSpace c (by rw [hcons]; exact List.mem_cons_self ..)
    rw [hcons, List.cons_append, List.dropWhile_cons_of_neg (by simp [hc])]
  rw [← hdrop hgap hfirst, ← hdrop hgap' hsecond, h]

theorem isGap_singleton : IsGap [' '] := by
  intro c hc
  obtain rfl := List.mem_singleton.1 hc
  decide

theorem mem_token {text : String} (h : IsToken text) (rest : List Char) :
    (text, rest) ∈ token (text.toList ++ rest) :=
  mem_plus.2 ⟨rfl, fun c hc => by rw [h.not_isSpace c hc, Bool.not_false], h.ne_nil⟩

theorem mem_spaces (rest : List Char) : (" ", rest) ∈ spaces (' ' :: rest) :=
  mem_plus.2 ⟨rfl, isGap_singleton, List.cons_ne_nil _ _⟩

theorem mem_trailing : ((), []) ∈ trailing [] :=
  mem_bind.2 ⟨"", [], by decide, by decide⟩

/-- A keyword and one token, as it is written. -/
theorem match?_oneArgument (keyword : String) {argument : String} (hargument : IsToken argument) :
    (oneArgument keyword).match? (keyword.toList ++ ' ' :: argument.toList) = some argument := by
  have hway : (argument, []) ∈
      oneArgument keyword (keyword.toList ++ ' ' :: (argument.toList ++ [])) :=
    mem_bind.2 ⟨keyword, _, mem_literal.2 ⟨rfl, rfl⟩, mem_bind.2 ⟨" ", _, mem_spaces _,
      mem_bind.2 ⟨argument, _, mem_token hargument _, mem_bind.2 ⟨(), [], mem_trailing,
        mem_pure.2 rfl⟩⟩⟩⟩
  rw [List.append_nil] at hway
  obtain ⟨found, hfound⟩ := match?_isSome_of_mem hway
  obtain ⟨htoken, gap, tail, -, hgap, htail, hsame⟩ := shape_of_oneArgument hfound
  rw [List.append_cancel_left_eq, ← List.append_nil argument.toList] at hsame
  have hafter := gap_append_inj isGap_singleton hgap hargument htoken hsame
  rw [hfound, (token_append_inj hargument htoken (Or.inl rfl) (startsGap_of_isGap htail) hafter).1]

/-- **A keyword with two arguments.** -/
theorem shape_of_twoArguments {keyword : String} {found : String × String}
    (h : (twoArguments keyword).match? text = some found) :
    IsToken found.1 ∧ IsToken found.2 ∧ ∃ gap gap' tail, IsGap gap ∧ gap' ≠ [] ∧ IsGap gap' ∧
      IsGap tail ∧ text = keyword.toList ++
        (gap ++ (found.1.toList ++ (gap' ++ (found.2.toList ++ tail)))) := by
  obtain ⟨rest, hmem⟩ := mem_of_match? h
  obtain ⟨_, mid, hkeyword, h₁⟩ := mem_bind.1 hmem
  obtain ⟨gap, mid', hgap, h₂⟩ := mem_bind.1 h₁
  obtain ⟨first, mid'', hfirst, h₃⟩ := mem_bind.1 h₂
  obtain ⟨gap', mid₃, hgap', h₄⟩ := mem_bind.1 h₃
  obtain ⟨second, mid₄, hsecond, h₅⟩ := mem_bind.1 h₄
  obtain ⟨u, mid₅, htrailing, h₆⟩ := mem_bind.1 h₅
  obtain ⟨rfl, rfl⟩ := Prod.mk.inj (mem_pure.1 h₆)
  obtain ⟨-, rfl⟩ := mem_literal.1 hkeyword
  obtain ⟨rfl, hspace, -⟩ := isGap_of_mem_spaces hgap
  obtain ⟨rfl, htoken⟩ := isToken_of_mem_token hfirst
  obtain ⟨rfl, hspace', hne⟩ := isGap_of_mem_spaces hgap'
  obtain ⟨rfl, htoken'⟩ := isToken_of_mem_token hsecond
  exact ⟨htoken, htoken', gap.toList, gap'.toList, mid₄, hspace, hne, hspace',
    isGap_of_mem_trailing htrailing, rfl⟩

/-- A keyword and two tokens, as they are written. -/
theorem match?_twoArguments (keyword : String) {first second : String} (hfirst : IsToken first)
    (hsecond : IsToken second) :
    (twoArguments keyword).match? (keyword.toList ++
      ' ' :: (first.toList ++ ' ' :: second.toList)) = some (first, second) := by
  have hway : ((first, second), []) ∈ twoArguments keyword (keyword.toList ++
      ' ' :: (first.toList ++ ' ' :: (second.toList ++ []))) :=
    mem_bind.2 ⟨keyword, _, mem_literal.2 ⟨rfl, rfl⟩, mem_bind.2 ⟨" ", _, mem_spaces _,
      mem_bind.2 ⟨first, _, mem_token hfirst _, mem_bind.2 ⟨" ", _, mem_spaces _,
        mem_bind.2 ⟨second, _, mem_token hsecond _, mem_bind.2 ⟨(), [], mem_trailing,
          mem_pure.2 rfl⟩⟩⟩⟩⟩⟩
  rw [List.append_nil] at hway
  obtain ⟨found, hfound⟩ := match?_isSome_of_mem hway
  obtain ⟨htoken, htoken', gap, gap', tail, hgap, hne, hgap', htail, hsame⟩ :=
    shape_of_twoArguments hfound
  rw [List.append_cancel_left_eq, ← List.append_nil second.toList] at hsame
  have hafter := gap_append_inj isGap_singleton hgap hfirst htoken hsame
  obtain ⟨rfl, hmore⟩ := token_append_inj hfirst htoken
    (startsGap_append isGap_singleton (List.cons_ne_nil _ _) _) (startsGap_append hgap' hne _) hafter
  have hlast := gap_append_inj isGap_singleton hgap' hsecond htoken' hmore
  obtain ⟨rfl, -⟩ :=
    token_append_inj hsecond htoken' (Or.inl rfl) (startsGap_of_isGap htail) hlast
  exact hfound

/-- A neighbour statement, as it is written. -/
theorem match?_bgpNeighborRe {neighborIp remoteAs : String} (hip : IsToken neighborIp)
    (has : IsToken remoteAs) :
    bgpNeighborRe.match? ("neighbor".toList ++ ' ' :: (neighborIp.toList ++
      ' ' :: ("remote-as".toList ++ ' ' :: remoteAs.toList))) = some (neighborIp, remoteAs) := by
  have hway : ((neighborIp, remoteAs), []) ∈ bgpNeighborRe ("neighbor".toList ++
      ' ' :: (neighborIp.toList ++
        ' ' :: ("remote-as".toList ++ ' ' :: (remoteAs.toList ++ [])))) :=
    mem_bind.2 ⟨"neighbor", _, mem_literal.2 ⟨rfl, rfl⟩, mem_bind.2 ⟨" ", _, mem_spaces _,
      mem_bind.2 ⟨neighborIp, _, mem_token hip _, mem_bind.2 ⟨" ", _, mem_spaces _,
        mem_bind.2 ⟨"remote-as", _, mem_literal.2 ⟨rfl, rfl⟩, mem_bind.2 ⟨" ", _, mem_spaces _,
          mem_bind.2 ⟨remoteAs, _, mem_token has _, mem_bind.2 ⟨(), [], mem_trailing,
            mem_pure.2 rfl⟩⟩⟩⟩⟩⟩⟩⟩
  rw [List.append_nil] at hway
  obtain ⟨found, hfound⟩ := match?_isSome_of_mem hway
  obtain ⟨rest, hmem⟩ := mem_of_match? hfound
  obtain ⟨_, mid, hkeyword, h₁⟩ := mem_bind.1 hmem
  obtain ⟨gap, mid', hgap, h₂⟩ := mem_bind.1 h₁
  obtain ⟨first, mid'', hfirst, h₃⟩ := mem_bind.1 h₂
  obtain ⟨gap', mid₃, hgap', h₄⟩ := mem_bind.1 h₃
  obtain ⟨_, mid₄, hword, h₅⟩ := mem_bind.1 h₄
  obtain ⟨gap'', mid₅, hgap'', h₆⟩ := mem_bind.1 h₅
  obtain ⟨second, mid₆, hsecond, h₇⟩ := mem_bind.1 h₆
  obtain ⟨u, mid₇, htrailing, h₈⟩ := mem_bind.1 h₇
  obtain ⟨rfl, rfl⟩ := Prod.mk.inj (mem_pure.1 h₈)
  obtain ⟨-, hsame⟩ := mem_literal.1 hkeyword
  obtain ⟨rfl, hspace, -⟩ := isGap_of_mem_spaces hgap
  obtain ⟨rfl, htoken⟩ := isToken_of_mem_token hfirst
  obtain ⟨rfl, hspace', hne⟩ := isGap_of_mem_spaces hgap'
  obtain ⟨-, rfl⟩ := mem_literal.1 hword
  obtain ⟨rfl, hspace'', -⟩ := isGap_of_mem_spaces hgap''
  obtain ⟨rfl, htoken'⟩ := isToken_of_mem_token hsecond
  rw [List.append_cancel_left_eq] at hsame
  have hafter := gap_append_inj isGap_singleton hspace hip htoken hsame
  obtain ⟨rfl, hmore⟩ := token_append_inj hip htoken
    (startsGap_append isGap_singleton (List.cons_ne_nil _ _) _) (startsGap_append hspace' hne _) hafter
  have hkeywordToken : IsToken "remote-as" :=
    isToken_of_all (by decide) (by decide)
  have hrest := gap_append_inj isGap_singleton hspace' hkeywordToken hkeywordToken hmore
  rw [List.append_cancel_left_eq, ← List.append_nil remoteAs.toList] at hrest
  have hlast := gap_append_inj isGap_singleton hspace'' has htoken' hrest
  obtain ⟨rfl, -⟩ := token_append_inj has htoken' (Or.inl rfl)
    (startsGap_of_isGap (isGap_of_mem_trailing htrailing)) hlast
  exact hfound

/-- The action of an ACL entry is one of the two, and its sequence number is passed through. -/
theorem shape_of_mem_aclEntryRe {sequence : Option String} {tokens : AclEntryTokens}
    (h : (tokens, rest) ∈ aclEntryRe sequence text) :
    tokens.sequence = sequence ∧ (tokens.action = "permit" ∨ tokens.action = "deny") := by
  obtain ⟨action, mid, haction, h₁⟩ := mem_bind.1 h
  obtain ⟨_, _, -, h₂⟩ := mem_bind.1 h₁
  obtain ⟨_, _, -, h₃⟩ := mem_bind.1 h₂
  obtain ⟨_, _, -, h₄⟩ := mem_bind.1 h₃
  obtain ⟨_, _, -, h₅⟩ := mem_bind.1 h₄
  obtain ⟨_, _, -, h₆⟩ := mem_bind.1 h₅
  obtain ⟨_, _, -, h₇⟩ := mem_bind.1 h₆
  obtain ⟨_, _, -, h₈⟩ := mem_bind.1 h₇
  obtain ⟨rfl, -⟩ := Prod.mk.inj (mem_pure.1 h₈)
  refine ⟨rfl, ?_⟩
  rcases mem_either.1 haction with hpermit | hdeny
  · exact Or.inl (mem_literal.1 hpermit).1
  · exact Or.inr (mem_literal.1 hdeny).1

/-- A number is digits, and the text starts with them. -/
theorem shape_of_mem_numberRe (h : (w, rest) ∈ numberRe text) :
    w.toList ≠ [] ∧ (∀ c ∈ w.toList, isDecimal c = true) ∧
      ∃ gap, gap ≠ [] ∧ IsGap gap ∧ text = w.toList ++ (gap ++ rest) := by
  obtain ⟨number, mid, hnumber, h₁⟩ := mem_bind.1 h
  obtain ⟨gap, mid', hgap, h₂⟩ := mem_bind.1 h₁
  obtain ⟨rfl, rfl⟩ := Prod.mk.inj (mem_pure.1 h₂)
  obtain ⟨rfl, hall, hne⟩ := mem_plus.1 hnumber
  obtain ⟨rfl, hspace, hgapne⟩ := isGap_of_mem_spaces hgap
  exact ⟨hne, hall, gap.toList, hgapne, hspace, rfl⟩

/-- The texts of an ACL entry that can become one: an action, and digits. -/
structure EntryShape (tokens : AclEntryTokens) : Prop where
  action : tokens.action = "permit" ∨ tokens.action = "deny"
  sequence : ∀ number, tokens.sequence = some number →
    number.toList ≠ [] ∧ ∀ c ∈ number.toList, isDecimal c = true

theorem shape_of_aclNamedEntryRe {tokens : AclEntryTokens}
    (h : aclNamedEntryRe.match? text = some tokens) : EntryShape tokens := by
  obtain ⟨rest, hmem⟩ := mem_of_match? h
  obtain ⟨sequence, mid, hsequence, hentry⟩ := mem_bind.1 hmem
  obtain ⟨hsame, haction⟩ := shape_of_mem_aclEntryRe hentry
  refine ⟨haction, fun number hnumber => ?_⟩
  rw [hsame] at hnumber
  subst hnumber
  obtain ⟨hne, hall, -⟩ := shape_of_mem_numberRe (mem_of_mem_optional hsequence)
  exact ⟨hne, hall⟩

end Shapes

/-! ### Lawful dialects -/

/-- An address as it is stored: a dotted quad and a prefix length. -/
def IsAddressWithLength (text : String) : Prop :=
  ∃ address length : ℕ, address < 2 ^ 32 ∧ length ≤ 32 ∧
    text = ipv4Text address ++ "/" ++ toString length

/-- What the adapters rely on of a dialect. -/
structure Dialect.Lawful (d : Dialect) : Prop where
  address : ∀ {stripped address}, d.ipAddress stripped = some (.ok address) →
    IsAddressWithLength address
  numbered : ∀ {stripped found}, d.aclNumberedRe.match? stripped = some found →
    found.2.sequence = none ∧ (found.2.action = "permit" ∨ found.2.action = "deny")

theorem prefixFromIpInt_le {n len : ℕ} (h : prefixFromIpInt 32 n = some len) : len ≤ 32 := by
  have hmem := List.mem_of_find?_eq_some h
  rw [List.mem_range] at hmem
  omega

theorem ipv4PrefixLength_le {text : List Char} {len : ℕ} (h : ipv4PrefixLength text = some len) :
    len ≤ 32 := by
  unfold ipv4PrefixLength at h
  cases hstart : prefixFromPrefixString 32 text with
  | some value =>
      simp only [hstart, Option.some.injEq] at h
      unfold prefixFromPrefixString at hstart
      split_ifs at hstart with _ _ hle
      rw [← h, ← Option.some.inj hstart]
      omega
  | none =>
      simp only [hstart] at h
      obtain ⟨n, -, hmask⟩ := Option.bind_eq_some_iff.1 h
      cases hnetmask : prefixFromIpInt 32 n with
      | some value =>
          simp only [hnetmask, Option.some.injEq] at hmask
          rw [← hmask]
          exact prefixFromIpInt_le hnetmask
      | none =>
          simp only [hnetmask] at hmask
          exact prefixFromIpInt_le hmask

namespace CiscoAdapter

theorem isAddressWithLength_of_normalizeIpAndMask {addressText maskText address : String}
    (h : normalizeIpAndMask addressText maskText = .ok address) : IsAddressWithLength address := by
  unfold normalizeIpAndMask at h
  cases haddress : ipv4Address addressText.toList with
  | none => simp only [haddress] at h; cases h
  | some n =>
      cases hmask : maskToPrefixLength maskText with
      | none => simp only [haddress, hmask] at h; cases h
      | some len =>
          simp only [haddress, hmask] at h
          cases h
          unfold maskToPrefixLength at hmask
          split_ifs at hmask
          exact ⟨n, len, ipv4Address_lt haddress, ipv4PrefixLength_le hmask, rfl⟩

theorem lawful_dialect : dialect.Lawful where
  address h := by
    obtain ⟨found, -, haddress⟩ := Option.map_eq_some_iff.1 h
    exact isAddressWithLength_of_normalizeIpAndMask haddress
  numbered h := by
    obtain ⟨rest, hmem⟩ := mem_of_match? h
    obtain ⟨_, _, -, h₁⟩ := mem_bind.1 hmem
    obtain ⟨_, _, -, h₂⟩ := mem_bind.1 h₁
    obtain ⟨_, _, -, h₃⟩ := mem_bind.1 h₂
    obtain ⟨entry, _, hentry, h₄⟩ := mem_bind.1 h₃
    obtain ⟨rfl, -⟩ := Prod.mk.inj (mem_pure.1 h₄)
    exact shape_of_mem_aclEntryRe hentry

end CiscoAdapter

namespace AristaAdapter

theorem isAddressWithLength_of_normalizeCidr {cidrText address : String}
    (h : normalizeCidr cidrText = .ok address) : IsAddressWithLength address := by
  unfold normalizeCidr at h
  dsimp only at h
  split at h
  · cases h
  · next prefixText _ =>
    cases haddress : ipv4Address (cidrText.toList.takeWhile (· ≠ '/')) with
    | none => simp only [haddress] at h; cases h
    | some n =>
        cases hint : pyInt prefixText with
        | error e => simp only [haddress, hint] at h; cases h
        | ok len =>
            simp only [haddress, hint] at h
            split_ifs at h with hrange
            cases h
            obtain ⟨len, rfl⟩ := Int.eq_ofNat_of_zero_le hrange.1
            exact ⟨n, len, ipv4Address_lt haddress, by omega, rfl⟩

theorem lawful_dialect : dialect.Lawful where
  address h := by
    obtain ⟨found, -, haddress⟩ := Option.map_eq_some_iff.1 h
    exact isAddressWithLength_of_normalizeCidr haddress
  numbered h := by
    obtain ⟨rest, hmem⟩ := mem_of_match? h
    exact absurd hmem List.not_mem_nil

end AristaAdapter

/-- The dialects of the application are lawful. -/
theorem lawful_of_vendor {d : Dialect}
    (hd : d = CiscoAdapter.dialect ∨ d = AristaAdapter.dialect) : d.Lawful := by
  rcases hd with rfl | rfl
  · exact CiscoAdapter.lawful_dialect
  · exact AristaAdapter.lawful_dialect

end MetaRne
