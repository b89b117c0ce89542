/-
# Address and number tokens

What the adapters make of the tokens of `ip address A M` (Cisco), `ip address A/P` (Arista)
and `neighbor N remote-as S` (both), for all tokens, and where that is what the tokens say:
a dotted quad, a netmask, ASCII digits.

Addresses are read exactly.  Masks and numbers go through `IPv4Network` and `int()`, which
read more: a hostmask is taken for the netmask of its complement and a bare length for a
mask, and a sign, underscores or the digits of another script are passed over.  And `int()`
refuses ASCII digits if they are too many.  Each theorem says that those tokens are all that
is read otherwise.
-/

import MetaRne.Adapters.Totality
import MetaRne.Python.Decoding

namespace MetaRne

open Library Library.Effect Library.Regex Library.Regex.Matcher Python

/-! ### Lines of tokens -/

/-- A line that begins and ends with no white space, indented by one blank. -/
def indented (number : ℕ) (text : List Char) : SourceLine := ⟨number, ' ' :: text⟩

section

variable {d : Dialect} {s s' : ParserState} {number : ℕ} {text : List Char}

/-- A text that starts with one character and ends with a token. -/
theorem stripped_indented (number : ℕ) {first : Char} (middle : List Char) {last : String}
    (hfirst : isSpace first = false) (hlast : IsToken last) :
    (indented number (first :: (middle ++ last.toList))).stripped =
      first :: (middle ++ last.toList) := by
  obtain ⟨c, hc⟩ : ∃ c, last.toList = last.toList.dropLast ++ [c] :=
    ⟨_, (List.dropLast_append_getLast hlast.ne_nil).symm⟩
  have hspace : isSpace c = false :=
    hlast.not_isSpace c (by rw [hc]; exact List.mem_append_right _ (List.mem_cons_self ..))
  unfold indented SourceLine.stripped
  rw [hc, ← List.append_assoc]
  exact strip_cons_space hfirst hspace

/-- Such a line belongs to the open block. -/
theorem kind_indented {first : Char} {middle : List Char} {last : String}
    (hfirst : isSpace first = false) (hlast : IsToken last) (hne : middle ≠ []) :
    (indented number (first :: (middle ++ last.toList))).kind = .child := by
  have hstripped := stripped_indented number middle hfirst hlast
  have hlstrip : lstrip (' ' :: first :: (middle ++ last.toList)) =
      first :: (middle ++ last.toList) := by
    unfold lstrip
    rw [List.dropWhile_cons_of_pos (by decide), List.dropWhile_cons_of_neg (by simp [hfirst])]
  unfold SourceLine.kind
  rw [hstripped, if_neg (List.cons_ne_nil _ _), if_neg, if_neg]
  · intro hsame
    have hlength := congrArg List.length (hsame.trans hlstrip)
    simp [indented] at hlength
  · intro hsame
    have hnil := (List.cons.inj hsame).2
    exact hne (List.append_eq_nil_iff.1 hnil).1

/-- A keyword, a blank and what ends with a token: an indented line of it is stripped to it and
belongs to the open block. -/
theorem child_of_keyword (number : ℕ) {keyword last : String} {first : Char} {rest tail between : List Char}
    (hkeyword : keyword.toList = first :: rest) (hfirst : isSpace first = false)
    (htail : tail = between ++ last.toList) (hlast : IsToken last) :
    (indented number (keyword.toList ++ ' ' :: tail)).stripped = keyword.toList ++ ' ' :: tail ∧
      (indented number (keyword.toList ++ ' ' :: tail)).kind = .child := by
  have hline : keyword.toList ++ ' ' :: tail =
      first :: ((rest ++ ' ' :: between) ++ last.toList) := by
    rw [hkeyword, htail]
    simp only [List.cons_append, List.append_assoc]
  rw [hline]
  exact ⟨stripped_indented number _ hfirst hlast,
    kind_indented hfirst hlast (List.append_ne_nil_of_right_ne_nil _ (List.cons_ne_nil _ _))⟩

/-- **An address line of the open interface**: it is accepted where it has an address, which
the interface gets. -/
theorem readLine_ipAddress {name : String} {builder : InterfaceBuilder} {line : SourceLine}
    {parsed : Except ParseErrorCode String} (hkind : line.kind = .child)
    (hcommand : d.interfaceCommand line.stripped = .ipAddress parsed)
    (hcontext : s.context = .interface name) (hbuilder : s.interfaces.get? name = some builder) :
    d.readLine s line = .ok s' ↔ ∃ address, parsed = .ok address ∧
      s' = { s with
        interfaces := s.interfaces.set name { builder with ipAddress := some address } } := by
  have hread : d.readLine s line = d.readInterfaceLine s name line := by
    unfold Dialect.readLine Dialect.readChild
    rw [hkind, hcontext]
  unfold Dialect.readInterfaceLine Dialect.configureInterface at hread
  simp only [hbuilder, hcommand] at hread
  rw [hread]
  cases parsed with
  | error code => exact iff_of_false nofun (fun ⟨_, h, _⟩ => nomatch h)
  | ok address =>
      constructor
      · intro h
        cases h
        exact ⟨address, rfl, rfl⟩
      · rintro ⟨address', hsame, rfl⟩
        cases hsame
        rfl

end

/-- A line that begins with `ip address` is no description. -/
theorem match?_descriptionRe (rest : List Char) :
    descriptionRe.match? ("ip address".toList ++ rest) = none := by
  cases hfound : descriptionRe.match? ("ip address".toList ++ rest) with
  | none => rfl
  | some found =>
      obtain ⟨left, hmem⟩ := mem_of_match? hfound
      obtain ⟨_, mid, hkeyword, -⟩ := mem_bind.1 hmem
      obtain ⟨-, hsame⟩ := mem_literal.1 hkeyword
      exact absurd (List.head_eq_of_cons_eq hsame) (by decide)

/-- What the adapter makes of the tokens is what the line says. -/
theorem interfaceCommand_of_ipAddress {d : Dialect} {rest : List Char}
    {parsed : Except ParseErrorCode String}
    (h : d.ipAddress ("ip address".toList ++ rest) = some parsed) :
    d.interfaceCommand ("ip address".toList ++ rest) = .ipAddress parsed := by
  unfold Dialect.interfaceCommand
  rw [h, match?_descriptionRe]
  rfl

namespace CiscoAdapter

/-- `ip address A M`. -/
def addressLine (addressText maskText : String) : List Char :=
  "ip address".toList ++ ' ' :: (addressText.toList ++ ' ' :: maskText.toList)

theorem interfaceCommand_addressLine {addressText maskText : String}
    (haddress : IsToken addressText) (hmask : IsToken maskText) :
    dialect.interfaceCommand (addressLine addressText maskText) =
      .ipAddress (normalizeIpAndMask addressText maskText) := by
  refine interfaceCommand_of_ipAddress ?_
  show (ipAddressRe.match? _).map _ = _
  rw [show ipAddressRe = twoArguments "ip address" from rfl,
    match?_twoArguments _ haddress hmask, Option.map_some]

/-- A wildcard mask: a hostmask that is no netmask. -/
def IsWildcardMask (maskText : String) : Prop :=
  ∃ len, 1 ≤ len ∧ len ≤ 31 ∧ maskText = ipv4Text (hostmask len)

/-- **What `_normalize_ip_and_mask` accepts.** -/
theorem normalizeIpAndMask_eq_ok_iff {addressText maskText stored : String} :
    normalizeIpAndMask addressText maskText = .ok stored ↔
      ∃ n < 2 ^ 32, addressText = ipv4Text n ∧ ∃ len, (IsBareLength maskText len ∨
        (len < 33 ∧ maskText = ipv4Text (netmask len)) ∨
        (1 ≤ len ∧ len ≤ 31 ∧ maskText = ipv4Text (hostmask len))) ∧
        stored = addressText ++ "/" ++ toString len := by
  have hmask : ∀ len, maskToPrefixLength maskText = some len ↔ (IsBareLength maskText len ∨
      (len < 33 ∧ maskText = ipv4Text (netmask len)) ∨
      (1 ≤ len ∧ len ≤ 31 ∧ maskText = ipv4Text (hostmask len))) := by
    intro len
    unfold maskToPrefixLength
    by_cases hslash : '/' ∈ maskText.toList
    · rw [if_pos hslash]
      refine iff_of_false nofun ?_
      rintro (h | ⟨-, rfl⟩ | ⟨-, -, rfl⟩)
      · exact slash_not_mem_of_isAsciiDigits h.digits hslash
      · exact slash_not_mem_ipv4Text _ hslash
      · exact slash_not_mem_ipv4Text _ hslash
    · rw [if_neg hslash]
      exact ipv4PrefixLength_eq_some_iff hslash
  unfold normalizeIpAndMask
  cases haddress : ipv4Address addressText.toList with
  | none =>
      refine iff_of_false nofun ?_
      rintro ⟨n, hn, htext, -⟩
      rw [ipv4Address_eq_some_iff.2 ⟨hn, htext⟩] at haddress
      cases haddress
  | some n =>
      obtain ⟨hn, htext⟩ := ipv4Address_eq_some_iff.1 haddress
      simp only
      cases hlength : maskToPrefixLength maskText with
      | none =>
          refine iff_of_false nofun ?_
          rintro ⟨_, -, -, len, hlen, -⟩
          rw [(hmask len).2 hlen] at hlength
          cases hlength
      | some len =>
          simp only [Except.ok.injEq]
          constructor
          · intro h
            exact ⟨n, hn, htext, len, (hmask len).1 hlength, by rw [htext, h]⟩
          · rintro ⟨_, -, -, len', hlen', rfl⟩
            have hsame := (hmask len').2 hlen'
            rw [hlength, Option.some.injEq] at hsame
            rw [htext, hsame]

/-- An address and a netmask say what is stored. -/
def SaysAddress (addressText maskText stored : String) : Prop :=
  ∃ n < 2 ^ 32, addressText = ipv4Text n ∧ ∃ len < 33, maskText = ipv4Text (netmask len) ∧
    stored = addressText ++ "/" ++ toString len

/-- The line `ip address A M` of an interface block is accepted exactly where `A` is a dotted
quad and `M` a netmask, and the interface gets the address and the number of ones. -/
def DecodesAddress (addressText maskText : String) : Prop :=
  ∀ (s s' : ParserState) (name : String) (builder : InterfaceBuilder) (number : ℕ),
    s.context = .interface name → s.interfaces.get? name = some builder →
      (dialect.readLine s (indented number (addressLine addressText maskText)) = .ok s' ↔
        ∃ stored, SaysAddress addressText maskText stored ∧
          s' = { s with
            interfaces := s.interfaces.set name { builder with ipAddress := some stored } })

/-- The line is accepted where `_normalize_ip_and_mask` accepts its tokens. -/
theorem readLine_addressLine (number : ℕ) {addressText maskText : String}
    (haddress : IsToken addressText) (hmask : IsToken maskText) {s s' : ParserState}
    {name : String} {builder : InterfaceBuilder} (hcontext : s.context = .interface name)
    (hbuilder : s.interfaces.get? name = some builder) :
    dialect.readLine s (indented number (addressLine addressText maskText)) = .ok s' ↔
      ∃ stored, normalizeIpAndMask addressText maskText = .ok stored ∧ s' = { s with
        interfaces := s.interfaces.set name { builder with ipAddress := some stored } } := by
  have htail : addressText.toList ++ ' ' :: maskText.toList =
      (addressText.toList ++ [' ']) ++ maskText.toList := by
    rw [List.append_assoc, List.singleton_append]
  have hkeyword : "ip address".toList = 'i' :: "p address".toList := by decide
  obtain ⟨hstripped, hkind⟩ := child_of_keyword number hkeyword (by decide) htail hmask
  refine readLine_ipAddress hkind ?_ hcontext hbuilder
  unfold addressLine
  rw [hstripped]
  exact interfaceCommand_addressLine haddress hmask

/-- **The line is decoded exactly unless the mask is a bare length or a wildcard mask**, with
an address before it. -/
theorem decodesAddress_iff {addressText maskText : String} (haddress : IsToken addressText)
    (hmask : IsToken maskText) : DecodesAddress addressText maskText ↔
      ¬ ((∃ n < 2 ^ 32, addressText = ipv4Text n) ∧
        ((∃ len, IsBareLength maskText len) ∨ IsWildcardMask maskText)) := by
  constructor
  · rintro hdecodes ⟨⟨n, hn, htext⟩, hloose⟩
    -- The mask gives a length, and is no netmask.
    have hstored : ∃ stored, normalizeIpAndMask addressText maskText = .ok stored := by
      rcases hloose with ⟨len, hlen⟩ | ⟨len, hone, hle, hlen⟩
      · exact ⟨_, normalizeIpAndMask_eq_ok_iff.2 ⟨n, hn, htext, len, Or.inl hlen, rfl⟩⟩
      · exact ⟨_, normalizeIpAndMask_eq_ok_iff.2
          ⟨n, hn, htext, len, Or.inr (Or.inr ⟨hone, hle, hlen⟩), rfl⟩⟩
    obtain ⟨stored, hstored⟩ := hstored
    have hopen : (ParserState.initial.openInterface "Vlan1").interfaces.get? "Vlan1" =
        some (.new "Vlan1") := Dict.get?_set_self _ _ _
    have hread := (readLine_addressLine 0 haddress hmask rfl hopen).2
      ⟨stored, hstored, rfl⟩
    obtain ⟨_, ⟨-, -, -, len, hlen, hnetmask, -⟩, -⟩ := (hdecodes _ _ _ _ 0 rfl hopen).1 hread
    rcases hloose with ⟨bare, hbare⟩ | ⟨host, hone, hle, hhost⟩
    · have hdigits := hbare.digits
      rw [hnetmask, isAsciiDigits_ipv4Text] at hdigits
      cases hdigits
    · have hlt := hostmask_eq_complement host (by omega)
      have hsame := (ipv4Text_inj (by omega) (netmask_lt len hlen)).1 (hhost.symm.trans hnetmask)
      exact hostmask_ne_netmask host (by omega) hone hle len hlen hsame
  · intro hexact s s' name builder number hcontext hbuilder
    rw [readLine_addressLine number haddress hmask hcontext hbuilder]
    refine exists_congr fun stored => and_congr_left fun _ => ?_
    rw [normalizeIpAndMask_eq_ok_iff]
    refine exists_congr fun n => and_congr_right fun hn => and_congr_right fun htext => ?_
    refine exists_congr fun len => ?_
    constructor
    · rintro ⟨hbare | hnetmask | hhost, hstored⟩
      · exact absurd ⟨⟨n, hn, htext⟩, Or.inl ⟨len, hbare⟩⟩ hexact
      · exact ⟨hnetmask.1, hnetmask.2, hstored⟩
      · exact absurd ⟨⟨n, hn, htext⟩, Or.inr ⟨len, hhost⟩⟩ hexact
    · rintro ⟨hlen, hnetmask, hstored⟩
      exact ⟨Or.inr (Or.inl ⟨hlen, hnetmask⟩), hstored⟩

end CiscoAdapter

/-- A text of ASCII digits that `int()` refuses for their number. -/
def IsOverlong (text : List Char) : Prop :=
  isAsciiDigits text = true ∧ maxStrDigits < text.length

namespace AristaAdapter

/-- `ip address A/P`. -/
def addressLine (cidrText : String) : List Char := "ip address".toList ++ ' ' :: cidrText.toList

theorem interfaceCommand_addressLine {cidrText : String} (hcidr : IsToken cidrText) :
    dialect.interfaceCommand (addressLine cidrText) = .ipAddress (normalizeCidr cidrText) := by
  refine interfaceCommand_of_ipAddress ?_
  show (ipAddressRe.match? _).map _ = _
  rw [show ipAddressRe = oneArgument "ip address" from rfl, match?_oneArgument _ hcidr,
    Option.map_some]

/-- **What `_normalize_cidr` accepts**: an address, a slash and what `int()` reads as a length. -/
theorem normalizeCidr_eq_ok_iff {cidrText stored : String} :
    normalizeCidr cidrText = .ok stored ↔
      ∃ n < 2 ^ 32, ∃ prefixText, cidrText = ipv4Text n ++ "/" ++ prefixText ∧
        ∃ len : ℕ, len < 33 ∧ pyInt prefixText.toList = .ok len ∧
          stored = ipv4Text n ++ "/" ++ toString len := by
  unfold normalizeCidr
  dsimp only
  constructor
  · intro h
    have hjoin := List.takeWhile_append_dropWhile (p := fun c => c ≠ '/') (l := cidrText.toList)
    cases hrest : cidrText.toList.dropWhile (fun c => c ≠ '/') with
    | nil => simp only [hrest] at h; cases h
    | cons slash prefixText =>
        simp only [hrest] at h
        rw [hrest] at hjoin
        have hslash : slash = '/' := by
          have hhead := List.head?_dropWhile_not (fun c => decide (c ≠ '/')) cidrText.toList
          rw [hrest] at hhead
          simpa using hhead
        cases haddress : ipv4Address (cidrText.toList.takeWhile fun c => c ≠ '/') with
        | none => simp only [haddress] at h; cases h
        | some n =>
            cases hint : pyInt prefixText with
            | error e => simp only [haddress, hint] at h; cases h
            | ok value =>
                simp only [haddress, hint] at h
                split_ifs at h with hrange
                obtain ⟨len, rfl⟩ := Int.eq_ofNat_of_zero_le hrange.1
                have hlen : len < 33 := by omega
                rw [← String.toList_ofList (l := cidrText.toList.takeWhile _)] at haddress
                obtain ⟨hn, htext⟩ := ipv4Address_eq_some_iff.1 haddress
                refine ⟨n, hn, String.ofList prefixText, ?_, len, hlen, ?_, ?_⟩
                · refine String.toList_inj.1 (hjoin.symm.trans ?_)
                  have hword : (String.ofList prefixText).toList = prefixText := String.toList_ofList
                  rw [← htext, hslash, String.toList_append, String.toList_append,
                    String.toList_ofList, List.append_assoc, hword]
                  rfl
                · rw [String.toList_ofList, hint]
                · exact (Except.ok.inj h).symm
  · rintro ⟨n, hn, prefixText, rfl, len, hlen, hint, rfl⟩
    have hslash : ∀ c ∈ (ipv4Text n).toList, decide (c ≠ '/') = true := by
      intro c hc
      rw [decide_eq_true_iff]
      rintro rfl
      exact slash_not_mem_ipv4Text n hc
    have htext : (ipv4Text n ++ "/" ++ prefixText).toList =
        (ipv4Text n).toList ++ '/' :: prefixText.toList := by
      rw [String.toList_append, String.toList_append, List.append_assoc]
      rfl
    have htake : (ipv4Text n ++ "/" ++ prefixText).toList.takeWhile (fun c => decide (c ≠ '/')) =
        (ipv4Text n).toList := by
      rw [htext, List.takeWhile_append_of_pos hslash, List.takeWhile_cons_of_neg (by decide),
        List.append_nil]
    have hdrop : (ipv4Text n ++ "/" ++ prefixText).toList.dropWhile (fun c => decide (c ≠ '/')) =
        '/' :: prefixText.toList := by
      rw [htext, List.dropWhile_append_of_pos hslash, List.dropWhile_cons_of_neg (by decide)]
    simp only [htake, hdrop, ipv4Address_ipv4Text hn, hint]
    rw [if_pos (by omega)]
    rfl

/-- An address and ASCII digits of a prefix length say what is stored. -/
def SaysAddress (cidrText stored : String) : Prop :=
  ∃ n < 2 ^ 32, ∃ prefixText : String, cidrText = ipv4Text n ++ "/" ++ prefixText ∧
    isAsciiDigits prefixText.toList = true ∧ digitsValue 10 prefixText.toList < 33 ∧
    stored = ipv4Text n ++ "/" ++ toString (digitsValue 10 prefixText.toList)

/-- The line `ip address A/P` of an interface block is accepted exactly where `A` is a dotted
quad and `P` ASCII digits of a value up to 32, and the interface gets the address and the
value. -/
def DecodesAddress (cidrText : String) : Prop :=
  ∀ (s s' : ParserState) (name : String) (builder : InterfaceBuilder) (number : ℕ),
    s.context = .interface name → s.interfaces.get? name = some builder →
      (dialect.readLine s (indented number (addressLine cidrText)) = .ok s' ↔
        ∃ stored, SaysAddress cidrText stored ∧
          s' = { s with
            interfaces := s.interfaces.set name { builder with ipAddress := some stored } })

/-- A prefix length that `int()` reads otherwise: a loose numeral up to 32, or overlong
digits of one. -/
def IsLooseLength (prefixText : String) : Prop :=
  (∃ len : ℕ, len < 33 ∧ IsLooseNumeral prefixText.toList len) ∨
    IsOverlong prefixText.toList ∧ digitsValue 10 prefixText.toList < 33

theorem readLine_addressLine (number : ℕ) {cidrText : String} (hcidr : IsToken cidrText)
    {s s' : ParserState} {name : String} {builder : InterfaceBuilder}
    (hcontext : s.context = .interface name) (hbuilder : s.interfaces.get? name = some builder) :
    dialect.readLine s (indented number (addressLine cidrText)) = .ok s' ↔
      ∃ stored, normalizeCidr cidrText = .ok stored ∧ s' = { s with
        interfaces := s.interfaces.set name { builder with ipAddress := some stored } } := by
  have hkeyword : "ip address".toList = 'i' :: "p address".toList := by decide
  obtain ⟨hstripped, hkind⟩ :=
    child_of_keyword number hkeyword (by decide) (List.nil_append _).symm hcidr
  refine readLine_ipAddress hkind ?_ hcontext hbuilder
  unfold addressLine
  rw [hstripped]
  exact interfaceCommand_addressLine hcidr

/-- A slash after an address is the first one. -/
theorem cidr_inj {m n : ℕ} (hm : m < 2 ^ 32) (hn : n < 2 ^ 32) {first second : String}
    (h : ipv4Text m ++ "/" ++ first = ipv4Text n ++ "/" ++ second) : m = n ∧ first = second := by
  have htake : ∀ (k : ℕ) (rest : String),
      (ipv4Text k ++ "/" ++ rest).toList.takeWhile (fun c => decide (c ≠ '/')) =
        (ipv4Text k).toList := by
    intro k rest
    have hslash : ∀ c ∈ (ipv4Text k).toList, decide (c ≠ '/') = true := by
      intro c hc
      rw [decide_eq_true_iff]
      rintro rfl
      exact slash_not_mem_ipv4Text k hc
    rw [String.toList_append, String.toList_append, List.append_assoc,
      List.takeWhile_append_of_pos hslash]
    show (ipv4Text k).toList ++ List.takeWhile _ ('/' :: rest.toList) = _
    rw [List.takeWhile_cons_of_neg (by decide), List.append_nil]
  have hsame : ipv4Text m = ipv4Text n := by
    rw [← String.toList_inj, ← htake m first, h, htake]
  rw [hsame] at h
  refine ⟨(ipv4Text_inj hm hn).1 hsame, String.toList_inj.1 ?_⟩
  have hlist := congrArg String.toList h
  rw [String.toList_append, String.toList_append (s := ipv4Text n ++ "/")] at hlist
  exact List.append_cancel_left hlist

/-- **The line is decoded exactly unless the prefix length is a loose numeral or overlong**,
with an address before it. -/
theorem decodesAddress_iff {cidrText : String} (hcidr : IsToken cidrText) :
    DecodesAddress cidrText ↔ ¬ ∃ n < 2 ^ 32, ∃ prefixText,
      cidrText = ipv4Text n ++ "/" ++ prefixText ∧ IsLooseLength prefixText := by
  constructor
  · rintro hdecodes ⟨n, hn, prefixText, htext, hloose⟩
    have hopen : (ParserState.initial.openInterface "Vlan1").interfaces.get? "Vlan1" =
        some (.new "Vlan1") := Dict.get?_set_self _ _ _
    have hread : ∀ s', dialect.readLine (ParserState.initial.openInterface "Vlan1")
        (indented 0 (addressLine cidrText)) = .ok s' ↔ _ := fun s' =>
      readLine_addressLine 0 hcidr rfl hopen
    rcases hloose with ⟨len, hlen, hloose⟩ | ⟨⟨hdigits, hlong⟩, hvalue⟩
    · -- It is read, but is not ASCII digits.
      have hstored := normalizeCidr_eq_ok_iff.2
        ⟨n, hn, prefixText, htext, len, hlen, pyInt_eq_ok_iff.2 (Or.inr hloose), rfl⟩
      obtain ⟨_, ⟨m, hm, other, hother, hdigits, -⟩, -⟩ :=
        (hdecodes _ _ _ _ 0 rfl hopen).1 ((hread _).2 ⟨_, hstored, rfl⟩)
      obtain ⟨-, rfl⟩ := cidr_inj hm hn (hother.symm.trans htext)
      rw [hloose.not_digits] at hdigits
      cases hdigits
    · -- It is ASCII digits, but is not read.
      obtain ⟨stored, hstored, -⟩ := (hread _).1 ((hdecodes _ _ _ _ 0 rfl hopen).2
        ⟨_, ⟨n, hn, prefixText, htext, hdigits, hvalue, rfl⟩, rfl⟩)
      obtain ⟨m, hm, other, hother, len, -, hint, -⟩ := normalizeCidr_eq_ok_iff.1 hstored
      obtain ⟨-, rfl⟩ := cidr_inj hm hn (hother.symm.trans htext)
      rcases pyInt_eq_ok_iff.1 hint with ⟨-, hle, -⟩ | hloose
      · omega
      · rw [hloose.not_digits] at hdigits
        cases hdigits
  · intro hexact s s' name builder number hcontext hbuilder
    rw [readLine_addressLine number hcidr hcontext hbuilder]
    refine exists_congr fun stored => and_congr_left fun _ => ?_
    rw [normalizeCidr_eq_ok_iff]
    refine exists_congr fun n => and_congr_right fun hn => exists_congr fun prefixText =>
      and_congr_right fun htext => ?_
    constructor
    · rintro ⟨len, hlen, hint, rfl⟩
      rcases pyInt_eq_ok_iff.1 hint with ⟨hdigits, -, hvalue⟩ | hloose
      · obtain rfl : len = digitsValue 10 prefixText.toList := by omega
        exact ⟨hdigits, hlen, rfl⟩
      · exact absurd ⟨n, hn, prefixText, htext, Or.inl ⟨len, hlen, hloose⟩⟩ hexact
    · rintro ⟨hdigits, hvalue, rfl⟩
      have hshort : prefixText.toList.length ≤ maxStrDigits := by
        by_contra hlong
        exact hexact ⟨n, hn, prefixText, htext, Or.inr ⟨⟨hdigits, by omega⟩, hvalue⟩⟩
      exact ⟨_, hvalue, pyInt_eq_ok_iff.2 (Or.inl ⟨hdigits, hshort, rfl⟩), rfl⟩

end AristaAdapter

/-! ### Neighbours -/

/-- `neighbor N remote-as S`. -/
def neighborLine (neighborIpText remoteAsText : String) : List Char :=
  "neighbor".toList ++ ' ' :: (neighborIpText.toList ++
    ' ' :: ("remote-as".toList ++ ' ' :: remoteAsText.toList))

/-- An address and ASCII digits of a positive number say what the neighbour is. -/
def SaysNeighbor (neighborIpText remoteAsText : String) (neighbor : NormalizedBgpNeighbor) :
    Prop :=
  (∃ n < 2 ^ 32, neighborIpText = ipv4Text n) ∧ isAsciiDigits remoteAsText.toList = true ∧
    0 < digitsValue 10 remoteAsText.toList ∧
    neighbor = ⟨neighborIpText, digitsValue 10 remoteAsText.toList⟩

/-- The line `neighbor N remote-as S` of a BGP block is accepted exactly where `N` is a dotted
quad and `S` ASCII digits of a positive number, and that neighbour is added. -/
def Dialect.DecodesNeighbor (d : Dialect) (neighborIpText remoteAsText : String) : Prop :=
  ∀ (s s' : ParserState) (number : ℕ), s.context = .bgp →
    (d.readLine s (indented number (neighborLine neighborIpText remoteAsText)) = .ok s' ↔
      ∃ neighbor, SaysNeighbor neighborIpText remoteAsText neighbor ∧
        s' = { s with bgpNeighbors := s.bgpNeighbors ++ [neighbor] })

/-- A number that `int()` reads otherwise: a positive loose numeral, or overlong digits of a
positive number. -/
def IsLooseAs (remoteAsText : String) : Prop :=
  (∃ value, 0 < value ∧ IsLooseNumeral remoteAsText.toList value) ∨
    IsOverlong remoteAsText.toList ∧ 0 < digitsValue 10 remoteAsText.toList

/-- **What `_try_normalize_bgp_neighbor` accepts.** -/
theorem tryNormalizeBgpNeighbor_eq_ok_iff {neighborIpText remoteAsText : String}
    {neighbor : NormalizedBgpNeighbor} :
    tryNormalizeBgpNeighbor neighborIpText remoteAsText = .ok neighbor ↔
      (∃ n < 2 ^ 32, neighborIpText = ipv4Text n) ∧ ∃ value, 0 < value ∧
        pyInt remoteAsText.toList = .ok value ∧ neighbor = ⟨neighborIpText, value⟩ := by
  unfold tryNormalizeBgpNeighbor
  cases haddress : ipv4Address neighborIpText.toList with
  | none =>
      refine iff_of_false nofun ?_
      rintro ⟨⟨n, hn, htext⟩, -⟩
      rw [ipv4Address_eq_some_iff.2 ⟨hn, htext⟩] at haddress
      cases haddress
  | some n =>
      obtain ⟨hn, htext⟩ := ipv4Address_eq_some_iff.1 haddress
      cases hint : pyInt remoteAsText.toList with
      | error e => exact iff_of_false nofun (fun ⟨_, _, _, h, _⟩ => nomatch h)
      | ok value =>
          simp only
          constructor
          · intro h
            split_ifs at h with hle
            exact ⟨⟨n, hn, htext⟩, value, by omega, rfl, by rw [htext]; exact (Except.ok.inj h).symm⟩
          · rintro ⟨-, value', hpos, hsame, rfl⟩
            cases hsame
            rw [if_neg (by omega), htext]

namespace Dialect

variable {d : Dialect}

theorem readLine_neighborLine {neighborIpText remoteAsText : String}
    (hip : IsToken neighborIpText) (has : IsToken remoteAsText) {s s' : ParserState} {number : ℕ}
    (hcontext : s.context = .bgp) :
    d.readLine s (indented number (neighborLine neighborIpText remoteAsText)) = .ok s' ↔
      ∃ neighbor, tryNormalizeBgpNeighbor neighborIpText remoteAsText = .ok neighbor ∧
        s' = { s with bgpNeighbors := s.bgpNeighbors ++ [neighbor] } := by
  have htail : neighborIpText.toList ++ ' ' :: ("remote-as".toList ++ ' ' :: remoteAsText.toList) =
      (neighborIpText.toList ++ ' ' :: ("remote-as".toList ++ [' '])) ++ remoteAsText.toList := by
    generalize "remote-as".toList = word
    simp only [List.cons_append, List.append_assoc, List.nil_append]
  have hkeyword : "neighbor".toList = 'n' :: "eighbor".toList := by decide
  obtain ⟨hstripped, hkind⟩ : (indented number (neighborLine neighborIpText remoteAsText)).stripped =
      neighborLine neighborIpText remoteAsText ∧
      (indented number (neighborLine neighborIpText remoteAsText)).kind = .child :=
    child_of_keyword number hkeyword (by decide) htail has
  have hread : d.readLine s (indented number (neighborLine neighborIpText remoteAsText)) =
      readBgpLine s (indented number (neighborLine neighborIpText remoteAsText)) := by
    unfold readLine readChild
    rw [hkind, hcontext]
  rw [hread]
  unfold readBgpLine
  rw [hstripped, show bgpNeighborRe.match? (neighborLine neighborIpText remoteAsText) =
    some (neighborIpText, remoteAsText) from match?_bgpNeighborRe hip has]
  simp only
  cases tryNormalizeBgpNeighbor neighborIpText remoteAsText with
  | error code => exact iff_of_false nofun (fun ⟨_, h, _⟩ => nomatch h)
  | ok neighbor =>
      constructor
      · intro h
        cases h
        exact ⟨neighbor, rfl, rfl⟩
      · rintro ⟨neighbor', hsame, rfl⟩
        cases hsame
        rfl

/-- **The line is decoded exactly unless the number is a loose numeral or overlong**, with an
address before it. -/
theorem decodesNeighbor_iff {neighborIpText remoteAsText : String}
    (hip : IsToken neighborIpText) (has : IsToken remoteAsText) :
    d.DecodesNeighbor neighborIpText remoteAsText ↔
      ¬ ((∃ n < 2 ^ 32, neighborIpText = ipv4Text n) ∧ IsLooseAs remoteAsText) := by
  constructor
  · rintro hdecodes ⟨hquad, hloose⟩
    have hopen : ({ ParserState.initial with context := .bgp } : ParserState).context = .bgp := rfl
    rcases hloose with ⟨value, hpos, hloose⟩ | ⟨⟨hdigits, hlong⟩, hvalue⟩
    · have hneighbor := tryNormalizeBgpNeighbor_eq_ok_iff.2
        ⟨hquad, value, hpos, pyInt_eq_ok_iff.2 (Or.inr hloose), rfl⟩
      obtain ⟨_, ⟨-, hdigits, -⟩, -⟩ := (hdecodes _ _ 0 hopen).1
        ((readLine_neighborLine hip has hopen).2 ⟨_, hneighbor, rfl⟩)
      rw [hloose.not_digits] at hdigits
      cases hdigits
    · obtain ⟨neighbor, hneighbor, -⟩ := (readLine_neighborLine hip has hopen).1
        ((hdecodes _ _ 0 hopen).2 ⟨_, ⟨hquad, hdigits, hvalue, rfl⟩, rfl⟩)
      obtain ⟨-, value, -, hint, -⟩ := tryNormalizeBgpNeighbor_eq_ok_iff.1 hneighbor
      rcases pyInt_eq_ok_iff.1 hint with ⟨-, hle, -⟩ | hloose
      · omega
      · rw [hloose.not_digits] at hdigits
        cases hdigits
  · intro hexact s s' number hcontext
    rw [readLine_neighborLine hip has hcontext]
    refine exists_congr fun neighbor => and_congr_left fun _ => ?_
    rw [tryNormalizeBgpNeighbor_eq_ok_iff]
    refine and_congr_right fun hquad => ?_
    constructor
    · rintro ⟨value, hpos, hint, rfl⟩
      rcases pyInt_eq_ok_iff.1 hint with ⟨hdigits, -, rfl⟩ | hloose
      · exact ⟨hdigits, by omega, rfl⟩
      · exact absurd ⟨hquad, Or.inl ⟨value, hpos, hloose⟩⟩ hexact
    · rintro ⟨hdigits, hvalue, rfl⟩
      have hshort : remoteAsText.toList.length ≤ maxStrDigits := by
        by_contra hlong
        exact hexact ⟨hquad, Or.inr ⟨⟨hdigits, by omega⟩, hvalue⟩⟩
      exact ⟨_, by omega, pyInt_eq_ok_iff.2 (Or.inl ⟨hdigits, hshort, rfl⟩), rfl⟩

end Dialect

/-! ### All three lines -/

/-- **Address and number tokens are decoded exactly but for these**: masks that are bare
lengths or wildcard masks, and numbers that are loose numerals or overlong. -/
theorem tokensDecoded_iff (d : Dialect) (addressText maskText cidrText neighborIpText remoteAsText :
      String)
    (htokens : ∀ text ∈ [addressText, maskText, cidrText, neighborIpText, remoteAsText],
      IsToken text) :
    (CiscoAdapter.DecodesAddress addressText maskText ↔
      ¬ ((∃ n < 2 ^ 32, addressText = ipv4Text n) ∧
        ((∃ len, IsBareLength maskText len) ∨ CiscoAdapter.IsWildcardMask maskText))) ∧
    (AristaAdapter.DecodesAddress cidrText ↔ ¬ ∃ n < 2 ^ 32, ∃ prefixText,
      cidrText = ipv4Text n ++ "/" ++ prefixText ∧ AristaAdapter.IsLooseLength prefixText) ∧
    (d.DecodesNeighbor neighborIpText remoteAsText ↔
      ¬ ((∃ n < 2 ^ 32, neighborIpText = ipv4Text n) ∧ IsLooseAs remoteAsText)) :=
  ⟨CiscoAdapter.decodesAddress_iff (htokens _ (by simp)) (htokens _ (by simp)),
    AristaAdapter.decodesAddress_iff (htokens _ (by simp)),
    Dialect.decodesNeighbor_iff (htokens _ (by simp)) (htokens _ (by simp))⟩

/-- Tokens as they are meant are decoded exactly. -/
theorem tokensDecoded_plain :
    (CiscoAdapter.DecodesAddress "10.0.0.1" "255.255.255.0" ↔
      ¬ ((∃ n < 2 ^ 32, "10.0.0.1" = ipv4Text n) ∧
        ((∃ len, IsBareLength "255.255.255.0" len) ∨
          CiscoAdapter.IsWildcardMask "255.255.255.0"))) ∧
    (AristaAdapter.DecodesAddress "10.0.0.1/24" ↔ ¬ ∃ n < 2 ^ 32, ∃ prefixText,
      "10.0.0.1/24" = ipv4Text n ++ "/" ++ prefixText ∧
        AristaAdapter.IsLooseLength prefixText) ∧
    (CiscoAdapter.dialect.DecodesNeighbor "10.0.0.2" "65001" ↔
      ¬ ((∃ n < 2 ^ 32, "10.0.0.2" = ipv4Text n) ∧ IsLooseAs "65001")) := by
  refine tokensDecoded_iff CiscoAdapter.dialect _ _ _ _ _ fun text htext => ?_
  simp only [List.mem_cons, List.not_mem_nil, or_false] at htext
  rcases htext with rfl | rfl | rfl | rfl | rfl <;>
    exact isToken_of_all (by decide) (by decide)

/-- What the Cisco adapter makes of an interface with one address. -/
def oneAddressConfig (address : String) : NormalizedConfiguration where
  hostname := "r1"
  interfaces := [⟨"Vlan1", none, some address, none, .up, none, none⟩]
  routing := ⟨[]⟩
  acls := []

/-- What either adapter makes of a text with one neighbour. -/
def oneNeighborConfig (remoteAs : ℤ) : NormalizedConfiguration where
  hostname := "r1"
  interfaces := []
  routing := ⟨[⟨"10.0.0.2", remoteAs⟩]⟩
  acls := []

set_option maxRecDepth 20000 in
/-- A wildcard mask and a bare length are taken for the netmask of 24 ones, and a sign and an
underscore are passed over; none of these tokens is what it is read as. -/
theorem not_tokensDecoded_loose :
    CiscoAdapter.adapter.accepted?
        "hostname r1\ninterface Vlan1\n ip address 10.0.0.1 0.0.0.255\n" =
      some (oneAddressConfig "10.0.0.1/24") ∧
    CiscoAdapter.adapter.accepted? "hostname r1\ninterface Vlan1\n ip address 10.0.0.1 24\n" =
      some (oneAddressConfig "10.0.0.1/24") ∧
    (∀ maskText ∈ ["0.0.0.255", "24"], ∀ len < 33, maskText ≠ ipv4Text (netmask len)) ∧
    AristaAdapter.adapter.accepted?
        "hostname r1\ninterface Vlan1\n ip address 10.0.0.1/+24\n" =
      some (oneAddressConfig "10.0.0.1/24") ∧
    AristaAdapter.adapter.accepted?
        "hostname r1\nrouter bgp 65000\n neighbor 10.0.0.2 remote-as 6_5001\n" =
      some (oneNeighborConfig 65001) ∧
    ∀ number ∈ ["+24", "6_5001"], isAsciiDigits number.toList = false := by
  refine ⟨?_, ?_, by decide +kernel, ?_, ?_, by decide +kernel⟩
  · exact (CiscoAdapter.dialect.accepted?_eq_of_toList String.toList_ofList).trans
      (by decide +kernel)
  · exact (CiscoAdapter.dialect.accepted?_eq_of_toList String.toList_ofList).trans
      (by decide +kernel)
  · exact (AristaAdapter.dialect.accepted?_eq_of_toList String.toList_ofList).trans
      (by decide +kernel)
  · exact (AristaAdapter.dialect.accepted?_eq_of_toList String.toList_ofList).trans
      (by decide +kernel)

end MetaRne
