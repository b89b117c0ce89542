/-
# Which texts are read as what

`ipaddress.IPv4Address` and `int()` turned around: the texts that give a number.  A text
is an IPv4 address exactly where it is the one that the address is written as
(`ipv4Address_eq_some_iff`).  A mask is a netmask, a hostmask or a bare prefix length
(`ipv4PrefixLength_eq_some_iff`).  And `int()` reads ASCII digits as they stand, unless
they are too many, but also texts with a sign, underscores or other digits
(`pyInt_eq_ok_iff`).
-/

import MetaRne.Python.Integers
import MetaRne.Python.Ipaddress

namespace MetaRne
namespace Python

/-! ### Addresses -/

/-- An ASCII digit. -/
theorem exists_digit {c : Char} (h : (48 ≤ c.toNat && c.toNat ≤ 57) = true) :
    ∃ digit : Fin 10, c = Char.ofNat (48 + digit) := by
  rw [Bool.and_eq_true, decide_eq_true_iff, decide_eq_true_iff] at h
  refine ⟨⟨c.toNat - 48, by omega⟩, ?_⟩
  rw [show 48 + (c.toNat - 48) = c.toNat by omega, Char.ofNat_toNat]

/-- A digit as a number, and written out. -/
theorem digit_read : ∀ a : Fin 10, hexValue? (Char.ofNat (48 + a)) = some a.val ∧
    Nat.digitChar a = Char.ofNat (48 + a) := by
  decide

theorem toList_toString_digit (a : Fin 10) :
    (toString a.val).toList = [Char.ofNat (48 + a)] := by
  rw [Nat.toString_eq_repr, Nat.toList_repr, Nat.toDigits_of_lt_base a.isLt, (digit_read a).2]

/-- A number with one digit more is written with that digit at the end. -/
theorem toList_toString_snoc {n : ℕ} (hn : 0 < n) (a : Fin 10) :
    (toString (n * 10 + a)).toList = (toString n).toList ++ [Char.ofNat (48 + a)] := by
  rw [Nat.mul_comm, ← toList_toString_digit, Nat.toString_eq_repr, Nat.toString_eq_repr,
    Nat.toString_eq_repr, Nat.toList_repr, Nat.toList_repr, Nat.toList_repr,
    Nat.toDigits_append_toDigits (by decide) hn a.isLt]

theorem digitsValue_digit (a : Fin 10) : digitsValue 10 [Char.ofNat (48 + a)] = a := by
  rw [digitsValue, List.foldl_cons, List.foldl_nil, (digit_read a).1, Option.getD_some, zero_mul,
    zero_add]

theorem digitsValue_snoc (text : List Char) (a : Fin 10) :
    digitsValue 10 (text ++ [Char.ofNat (48 + a)]) = digitsValue 10 text * 10 + a := by
  rw [digitsValue, List.foldl_append, List.foldl_cons, List.foldl_nil, (digit_read a).1,
    Option.getD_some, digitsValue]

theorem octet_one (a : Fin 10) : (toString (digitsValue 10 [Char.ofNat (48 + a)])).toList =
    [Char.ofNat (48 + a)] := by
  rw [digitsValue_digit, toList_toString_digit]

theorem octet_two (a b : Fin 10) (ha : a ≠ 0) :
    (toString (digitsValue 10 [Char.ofNat (48 + a), Char.ofNat (48 + b)])).toList =
      [Char.ofNat (48 + a), Char.ofNat (48 + b)] := by
  have hvalue := digitsValue_snoc [Char.ofNat (48 + a)] b
  rw [List.singleton_append, digitsValue_digit] at hvalue
  rw [hvalue, toList_toString_snoc (Fin.pos_iff_ne_zero.2 ha), toList_toString_digit,
    List.singleton_append]

theorem octet_three (a b c : Fin 10) (ha : a ≠ 0) :
    (toString (digitsValue 10 [Char.ofNat (48 + a), Char.ofNat (48 + b),
      Char.ofNat (48 + c)])).toList =
      [Char.ofNat (48 + a), Char.ofNat (48 + b), Char.ofNat (48 + c)] := by
  have hpos : 0 < digitsValue 10 [Char.ofNat (48 + a), Char.ofNat (48 + b)] := by
    have hvalue := digitsValue_snoc [Char.ofNat (48 + a)] b
    have ha' : 0 < a.val := Fin.pos_iff_ne_zero.2 ha
    rw [List.singleton_append, digitsValue_digit] at hvalue
    omega
  have hvalue := digitsValue_snoc [Char.ofNat (48 + a), Char.ofNat (48 + b)] c
  rw [List.cons_append, List.singleton_append] at hvalue
  rw [hvalue, toList_toString_snoc hpos, octet_two a b ha, List.cons_append,
    List.singleton_append]

/-- **An octet is written as its number is.** -/
theorem eq_toString_of_parseOctet {text : List Char} {k : ℕ} (h : parseOctet text = some k) :
    text = (toString k).toList := by
  unfold parseOctet at h
  split_ifs at h with hdigits hlength hzero hle
  rw [← Option.some.inj h]
  rw [Bool.not_eq_true, Bool.not_eq_false'] at hdigits
  obtain ⟨hne, hall⟩ := Bool.and_eq_true .. ▸ hdigits
  rw [List.all_eq_true] at hall
  -- A leading zero stands alone.
  have hhead : ∀ (digit : Fin 10) (rest : List Char), rest ≠ [] →
      text = Char.ofNat (48 + digit) :: rest → digit ≠ 0 := by
    rintro digit rest hrest rfl rfl
    exact hzero ⟨fun heq => hrest (List.cons.inj heq).2, rfl⟩
  match text, hne, hall, hlength, hhead with
  | [x], _, hall, _, _ =>
      obtain ⟨a, rfl⟩ := exists_digit (hall x (by simp))
      exact (octet_one a).symm
  | [x, y], _, hall, _, hhead =>
      obtain ⟨a, rfl⟩ := exists_digit (hall x (by simp))
      obtain ⟨b, rfl⟩ := exists_digit (hall y (by simp))
      exact (octet_two a b (hhead a _ (List.cons_ne_nil _ _) rfl)).symm
  | [x, y, z], _, hall, _, hhead =>
      obtain ⟨a, rfl⟩ := exists_digit (hall x (by simp))
      obtain ⟨b, rfl⟩ := exists_digit (hall y (by simp))
      obtain ⟨c, rfl⟩ := exists_digit (hall z (by simp))
      exact (octet_three a b c (hhead a _ (List.cons_ne_nil _ _) rfl)).symm
  | x :: y :: z :: w :: rest, _, _, hlength, _ =>
      simp only [List.length_cons] at hlength
      omega

/-- **A text is an address exactly where it is the address written out.** -/
theorem ipv4Address_eq_some_iff {text : String} {n : ℕ} :
    ipv4Address text.toList = some n ↔ n < 2 ^ 32 ∧ text = ipv4Text n := by
  constructor
  swap
  · rintro ⟨hn, rfl⟩
    exact ipv4Address_ipv4Text hn
  intro h
  refine ⟨ipv4Address_lt h, String.toList_inj.1 ?_⟩
  unfold ipv4Address at h
  split_ifs at h
  unfold ipv4IntFromString at h
  by_cases hlength : (text.toList.splitOn '.').length = 4
  swap
  · rw [if_pos hlength] at h
    cases h
  rw [if_neg (not_not.2 hlength)] at h
  obtain ⟨values, hvalues, hn⟩ := Option.bind_eq_some_iff.1 h
  have hjoin : ['.'].intercalate (text.toList.splitOn '.') = text.toList :=
    List.intercalate_splitOn '.'
  match hparts : text.toList.splitOn '.', hlength with
  | [a, b, c, d], _ =>
      rw [hparts] at hvalues hjoin
      simp only [List.mapM_cons, List.mapM_nil, Option.bind_eq_bind, Option.bind_eq_some_iff,
        Option.pure_def, Option.some.injEq] at hvalues
      obtain ⟨i, hi, _, ⟨j, hj, _, ⟨k, hk, _, ⟨l, hl, _, rfl, rfl⟩, rfl⟩, rfl⟩, rfl⟩ := hvalues
      have hi' := parseOctet_lt hi
      have hj' := parseOctet_lt hj
      have hk' := parseOctet_lt hk
      have hl' := parseOctet_lt hl
      rw [eq_toString_of_parseOctet hi, eq_toString_of_parseOctet hj,
        eq_toString_of_parseOctet hk, eq_toString_of_parseOctet hl] at hjoin
      have hnumber : n = ((i * 256 + j) * 256 + k) * 256 + l := by
        rw [← Option.some.inj hn]
        simp only [List.foldl_cons, List.foldl_nil, zero_mul, zero_add]
      have hoctets : n / 16777216 % 256 = i ∧ n / 65536 % 256 = j ∧ n / 256 % 256 = k ∧
          n % 256 = l := by omega
      rw [← hjoin, ipv4Text, hoctets.1, hoctets.2.1, hoctets.2.2.1, hoctets.2.2.2]
      simp [List.intercalate, List.intersperse]

/-! ### Masks -/

/-- The netmask of a prefix length: so many ones, then zeros. -/
def netmask (len : ℕ) : ℕ := (2 ^ len - 1) * 2 ^ (32 - len)

/-- The hostmask of a prefix length: zeros, then ones. -/
def hostmask (len : ℕ) : ℕ := 2 ^ (32 - len) - 1

/-- The masks of the prefix lengths, checked one by one: netmasks are distinct numbers of 32
bits, a hostmask is the complement of its netmask, and it is itself a netmask only when it
is all ones or all zeros. -/
theorem masks_checked :
    (∀ len < 33, ∀ len' < 33, netmask len = netmask len' → len = len') ∧
    (∀ len < 33, netmask len < 2 ^ 32) ∧
    (∀ len < 33, hostmask len = 2 ^ 32 - 1 - netmask len) ∧
    (∀ len < 33, 1 ≤ len → len ≤ 31 → ∀ len' < 33, hostmask len ≠ netmask len') ∧
    ∀ len < 33, ¬ (1 ≤ len ∧ len ≤ 31) → ∃ len' < 33, hostmask len = netmask len' := by
  decide +kernel

theorem netmask_inj : ∀ len < 33, ∀ len' < 33, netmask len = netmask len' → len = len' :=
  masks_checked.1

theorem netmask_lt : ∀ len < 33, netmask len < 2 ^ 32 := masks_checked.2.1

theorem hostmask_eq_complement : ∀ len < 33, hostmask len = 2 ^ 32 - 1 - netmask len :=
  masks_checked.2.2.1

/-- All ones and all zeros are netmasks; no other hostmask is one. -/
theorem hostmask_ne_netmask : ∀ len < 33, 1 ≤ len → len ≤ 31 → ∀ len' < 33,
    hostmask len ≠ netmask len' :=
  masks_checked.2.2.2.1

theorem hostmask_eq_netmask : ∀ len < 33, ¬ (1 ≤ len ∧ len ≤ 31) →
    ∃ len' < 33, hostmask len = netmask len' :=
  masks_checked.2.2.2.2

/-- The prefix length of a number is the one that it is the netmask of. -/
theorem prefixFromIpInt_eq_some_iff {n len : ℕ} :
    prefixFromIpInt 32 n = some len ↔ len < 33 ∧ n = netmask len := by
  unfold prefixFromIpInt
  constructor
  · intro h
    have hmask := List.find?_some h
    exact ⟨List.mem_range.1 (List.mem_of_find?_eq_some h), eq_of_beq hmask⟩
  · rintro ⟨hlen, rfl⟩
    cases hfound : (List.range (32 + 1)).find? fun len' =>
        netmask len == (2 ^ len' - 1) * 2 ^ (32 - len') with
    | none =>
        have hnot := List.find?_eq_none.1 hfound len (List.mem_range.2 hlen)
        exact absurd (beq_self_eq_true (netmask len)) hnot
    | some len' =>
        have hmem := List.mem_range.1 (List.mem_of_find?_eq_some hfound)
        have hmask := List.find?_some hfound
        rw [netmask_inj len hlen len' hmem (eq_of_beq hmask)]

theorem prefixFromIpInt_eq_none_iff {n : ℕ} :
    prefixFromIpInt 32 n = none ↔ ∀ len < 33, n ≠ netmask len := by
  rw [Option.eq_none_iff_forall_ne_some]
  constructor
  · intro h len hlen heq
    exact h len (prefixFromIpInt_eq_some_iff.2 ⟨hlen, heq⟩)
  · intro h len heq
    obtain ⟨hlen, hmask⟩ := prefixFromIpInt_eq_some_iff.1 heq
    exact h len hlen hmask

/-- An address has dots. -/
theorem isAsciiDigits_ipv4Text (n : ℕ) : isAsciiDigits (ipv4Text n).toList = false := by
  have hdot : '.' ∈ (ipv4Text n).toList := by
    rw [ipv4Text, String.toList_append]
    refine List.mem_append_left _ ?_
    rw [String.toList_append]
    exact List.mem_append_right _ (by decide)
  unfold isAsciiDigits
  rw [Bool.and_eq_false_iff]
  refine Or.inr ?_
  rw [← Bool.not_eq_true, List.all_eq_true]
  intro hall
  exact absurd (hall '.' hdot) (by decide)

theorem slash_not_mem_of_isAsciiDigits {text : List Char} (h : isAsciiDigits text = true) :
    '/' ∉ text := by
  intro hmem
  unfold isAsciiDigits at h
  rw [Bool.and_eq_true, List.all_eq_true] at h
  exact absurd (h.2 '/' hmem) (by decide)

/-- An address written out has no slash. -/
theorem slash_not_mem_ipv4Text (n : ℕ) : '/' ∉ (ipv4Text n).toList := by
  have hoctet : ∀ k, '/' ∉ (toString (k % 256)).toList := fun k hmem =>
    (ne_of_mem_octet (Nat.mod_lt k (by decide)) hmem).2 rfl
  have hdot : '/' ∉ ".".toList := by decide
  simp only [ipv4Text, String.toList_append, List.mem_append, not_or]
  exact ⟨⟨⟨⟨⟨⟨hoctet _, hdot⟩, hoctet _⟩, hdot⟩, hoctet _⟩, hdot⟩, hoctet _⟩

/-- A prefix length that stands for itself. -/
structure IsBareLength (text : String) (len : ℕ) : Prop where
  digits : isAsciiDigits text.toList = true
  length_le : text.toList.length ≤ maxStrDigits
  value_eq : digitsValue 10 text.toList = len
  le : len < 33

/-- **A mask is a bare prefix length, a netmask or a hostmask.** -/
theorem ipv4PrefixLength_eq_some_iff {text : String} {len : ℕ} (hslash : '/' ∉ text.toList) :
    ipv4PrefixLength text.toList = some len ↔ IsBareLength text len ∨
      (len < 33 ∧ text = ipv4Text (netmask len)) ∨
      (1 ≤ len ∧ len ≤ 31 ∧ text = ipv4Text (hostmask len)) := by
  have haddress : ipv4IntFromString text.toList = ipv4Address text.toList := by
    rw [ipv4Address, if_neg hslash]
  have hbare : ∀ len, prefixFromPrefixString 32 text.toList = some len ↔ IsBareLength text len := by
    intro len
    unfold prefixFromPrefixString
    constructor
    · intro h
      split_ifs at h with hdigits hlong hle
      exact ⟨by simpa using hdigits, not_lt.1 hlong, Option.some.inj h,
        by rw [← Option.some.inj h]; omega⟩
    · intro h
      rw [if_neg (by rw [h.digits]; decide), if_neg (not_lt.2 h.length_le),
        if_neg (by rw [h.value_eq]; have := h.le; omega), h.value_eq]
  unfold ipv4PrefixLength
  rw [haddress]
  cases hstart : prefixFromPrefixString 32 text.toList with
  | some value =>
      -- A bare length is no address.
      have hvalue := (hbare value).1 hstart
      have hnot : ∀ n, text ≠ ipv4Text n := by
        rintro n rfl
        exact Bool.false_ne_true ((isAsciiDigits_ipv4Text n).symm.trans hvalue.digits)
      constructor
      · intro h
        rw [← Option.some.inj h]
        exact Or.inl hvalue
      · rintro (h | ⟨-, h⟩ | ⟨-, -, h⟩)
        · exact hstart.symm.trans ((hbare len).2 h)
        · exact absurd h (hnot _)
        · exact absurd h (hnot _)
  | none =>
      have hnotBare : ¬ IsBareLength text len := fun h => by
        rw [(hbare len).2 h] at hstart
        cases hstart
      rw [or_iff_right hnotBare]
      constructor
      · intro h
        obtain ⟨n, hn, hresult⟩ := Option.bind_eq_some_iff.1 h
        obtain ⟨hlt, htext⟩ := ipv4Address_eq_some_iff.1 hn
        rw [htext]
        cases hmask : prefixFromIpInt 32 n with
        | some value =>
            simp only [hmask, Option.some.injEq] at hresult
            obtain ⟨hvalue, hnetmask⟩ := prefixFromIpInt_eq_some_iff.1 hmask
            rw [← hresult, hnetmask]
            exact Or.inl ⟨hvalue, rfl⟩
        | none =>
            simp only [hmask] at hresult
            obtain ⟨hlen, hcomplement⟩ := prefixFromIpInt_eq_some_iff.1 hresult
            have hhost : n = hostmask len := by
              have hnetmask := netmask_lt len hlen
              rw [hostmask_eq_complement len hlen]
              omega
            by_cases hinner : 1 ≤ len ∧ len ≤ 31
            · exact Or.inr ⟨hinner.1, hinner.2, by rw [hhost]⟩
            · obtain ⟨len', hlen', hsame⟩ := hostmask_eq_netmask len hlen hinner
              exact absurd (hhost.trans hsame) (prefixFromIpInt_eq_none_iff.1 hmask len' hlen')
      · rintro (⟨hlen, rfl⟩ | ⟨hone, hle, rfl⟩)
        · have hread := ipv4Address_ipv4Text (netmask_lt len hlen)
          refine Option.bind_eq_some_iff.2 ⟨netmask len, hread, ?_⟩
          simp only [prefixFromIpInt_eq_some_iff.2 ⟨hlen, rfl⟩]
        · have hlen : len < 33 := by omega
          have hhost := hostmask_eq_complement len hlen
          have hnetmask := netmask_lt len hlen
          have hread := ipv4Address_ipv4Text (n := hostmask len) (by omega)
          refine Option.bind_eq_some_iff.2 ⟨hostmask len, hread, ?_⟩
          simp only [prefixFromIpInt_eq_none_iff.2 (hostmask_ne_netmask len hlen hone hle)]
          exact prefixFromIpInt_eq_some_iff.2 ⟨hlen, by omega⟩

/-! ### Integers -/

theorem digit_values : ∀ a : Fin 10, decimalValue? (Char.ofNat (48 + a)) = some a.val ∧
    hexValue? (Char.ofNat (48 + a)) = some a.val := by
  decide +kernel

/-- ASCII digits are decimal digits, of the same value. -/
theorem digitValues?_of_isAsciiDigits {text : List Char} (h : isAsciiDigits text = true) :
    ∃ digits, digitValues? text = some digits ∧ digits.length = text.length ∧
      decimalNumber digits = digitsValue 10 text := by
  unfold isAsciiDigits at h
  rw [Bool.and_eq_true, Bool.not_eq_true', List.isEmpty_eq_false_iff, List.all_eq_true] at h
  have hvalue : ∀ c ∈ text, decimalValue? c = hexValue? c ∧ isDecimal c = true := by
    intro c hc
    obtain ⟨a, rfl⟩ := exists_digit (h.2 c hc)
    rw [isDecimal, (digit_values a).1, (digit_values a).2]
    exact ⟨rfl, rfl⟩
  refine ⟨_, digitValues?_of_isDecimal h.1 fun c hc => (hvalue c hc).2, List.length_map _, ?_⟩
  have hsame : (text.map fun c => (decimalValue? c).getD 0) =
      text.map fun c => (hexValue? c).getD 0 :=
    List.map_congr_left fun c hc => by rw [(hvalue c hc).1]
  rw [hsame, decimalNumber, List.foldl_map]
  rfl

theorem splitSign_of_isAsciiDigits {text : List Char} (h : isAsciiDigits text = true) :
    splitSign text = (1, text) := by
  unfold isAsciiDigits at h
  rw [Bool.and_eq_true, List.all_eq_true] at h
  unfold splitSign
  split
  · exact absurd (h.2 '+' (List.mem_cons_self ..)) (by decide)
  · exact absurd (h.2 '-' (List.mem_cons_self ..)) (by decide)
  · rfl

/-- A text that `int()` reads though it is not ASCII digits: it has a sign, an underscore or
a digit of another script. -/
structure IsLooseNumeral (text : List Char) (value : ℤ) : Prop where
  not_digits : isAsciiDigits text = false
  read : ∃ digits, digitValues? (splitSign text).2 = some digits ∧
    digits.length ≤ maxStrDigits ∧ value = (splitSign text).1 * decimalNumber digits

/-- **What `int()` reads**: ASCII digits, unless they are too many, and loose numerals. -/
theorem pyInt_eq_ok_iff {text : List Char} {value : ℤ} : pyInt text = .ok value ↔
    (isAsciiDigits text = true ∧ text.length ≤ maxStrDigits ∧ value = digitsValue 10 text) ∨
      IsLooseNumeral text value := by
  have hread : pyInt text = .ok value ↔ ∃ digits, digitValues? (splitSign text).2 = some digits ∧
      digits.length ≤ maxStrDigits ∧ value = (splitSign text).1 * decimalNumber digits := by
    unfold pyInt
    cases digitValues? (splitSign text).2 with
    | none => exact iff_of_false nofun (fun ⟨_, h, _⟩ => nomatch h)
    | some digits =>
        simp only [Option.some.injEq, exists_eq_left']
        by_cases hlong : maxStrDigits < digits.length
        · rw [if_pos hlong]
          exact iff_of_false nofun (fun h => absurd h.1 (not_le.2 hlong))
        · rw [if_neg hlong, Except.ok.injEq, eq_comm]
          exact ⟨fun h => ⟨not_lt.1 hlong, h⟩, fun h => h.2⟩
  rw [hread]
  cases hdigits : isAsciiDigits text with
  | true =>
      obtain ⟨digits, hvalues, hlength, hnumber⟩ := digitValues?_of_isAsciiDigits hdigits
      have hloose : ¬ IsLooseNumeral text value := fun h => by
        rw [h.not_digits] at hdigits
        cases hdigits
      rw [splitSign_of_isAsciiDigits hdigits, hvalues, or_iff_left hloose]
      simp only [Option.some.injEq, exists_eq_left', hlength, hnumber, one_mul, true_and]
  | false =>
      rw [or_iff_right (by simp)]
      exact ⟨fun h => ⟨hdigits, h⟩, fun h => h.read⟩

end Python
end MetaRne
