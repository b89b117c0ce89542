/-
# IP addresses

The parts of the standard library's `ipaddress` that the domain checks its
texts with: `ip_address`, `ip_interface` and `ip_network`, each for both
versions of the protocol.  They are modelled as the questions whether the
constructor raises; an address is parsed to its number because a network is
refused when bits are set beyond its prefix.

* an IPv4 octet has at most three ASCII digits and no leading zero;
* an IPv6 text has at most one `::`, may end in an IPv4 address and may carry a
  scope id after `%`;
* a mask is a prefix length, or for IPv4 also a netmask or a hostmask.
-/

import Mathlib.Data.List.Basic
import Mathlib.Algebra.Ring.Nat
import MetaRne.Python.Text

namespace MetaRne
namespace Python

/-- The value of a digit in base 16. -/
def hexValue? (c : Char) : Option ℕ :=
  let n := c.toNat
  if 48 ≤ n ∧ n ≤ 57 then some (n - 48)
  else if 97 ≤ n ∧ n ≤ 102 then some (n - 87)
  else if 65 ≤ n ∧ n ≤ 70 then some (n - 55)
  else none

/-- `text.isascii() and text.isdigit()`. -/
def isAsciiDigits (text : List Char) : Bool :=
  !text.isEmpty && text.all fun c => 48 ≤ c.toNat && c.toNat ≤ 57

/-- The number a text of digits denotes in a base. -/
def digitsValue (base : ℕ) (text : List Char) : ℕ :=
  text.foldl (fun n c => n * base + (hexValue? c).getD 0) 0

/-! ### IPv4 -/

/-- `IPv4Address._parse_octet`. -/
def parseOctet (text : List Char) : Option ℕ :=
  if !isAsciiDigits text then none
  else if 3 < text.length then none
  else if text ≠ ['0'] ∧ text.head? = some '0' then none
  else if 255 < digitsValue 10 text then none
  else some (digitsValue 10 text)

/-- `IPv4Address._ip_int_from_string`. -/
def ipv4IntFromString (text : List Char) : Option ℕ := do
  let octets := text.splitOn '.'
  if octets.length ≠ 4 then none
  else
    let values ← octets.mapM parseOctet
    return values.foldl (fun n octet => n * 256 + octet) 0

/-- `IPv4Address(text)`. -/
def ipv4Address (text : List Char) : Option ℕ :=
  if '/' ∈ text then none else ipv4IntFromString text

/-! ### IPv6 -/

/-- `IPv6Address._parse_hextet`. -/
def parseHextet (text : List Char) : Option ℕ :=
  if text.isEmpty || !text.all (fun c => (hexValue? c).isSome) then none
  else if 4 < text.length then none
  else some (digitsValue 16 text)

/-- Write the IPv4 address an IPv6 text ends in as its two hextets. -/
def expandEmbeddedIpv4 (parts : List (List Char)) : Option (List (List Char)) :=
  match parts.getLast? with
  | none => none
  | some last =>
    if '.' ∈ last then do
      let n ← ipv4Address last
      return parts.dropLast ++ [Nat.toDigits 16 (n / 65536), Nat.toDigits 16 (n % 65536)]
    else some parts

/-- The parts before the `::` and those after it, or all parts where there is
none.  At most one inner part is empty, an empty first part is that of a text
that starts with `::`, and likewise at the end. -/
def splitDoubleColon (parts : List (List Char)) : Option (List (List Char) × List (List Char)) :=
  let inner := (parts.drop 1).dropLast
  match (List.range inner.length).filter fun i => (inner.getD i []).isEmpty with
  | [] =>
    if parts.length ≠ 8 then none
    else if (parts.headD []).isEmpty || (parts.getLastD []).isEmpty then none
    else some (parts, [])
  | [i] =>
    let hi := parts.take (i + 1)
    let lo := parts.drop (i + 2)
    if (hi.headD []).isEmpty && 1 < hi.length then none
    else if (lo.getLastD []).isEmpty && 1 < lo.length then none
    else
      let hi := if (hi.headD []).isEmpty then [] else hi
      let lo := if (lo.getLastD []).isEmpty then [] else lo
      if 8 ≤ hi.length + lo.length then none else some (hi, lo)
  | _ => none

/-- `IPv6Address._ip_int_from_string`. -/
def ipv6IntFromString (text : List Char) : Option ℕ := do
  let parts := text.splitOn ':'
  if parts.length < 3 then none
  else
    let parts ← expandEmbeddedIpv4 parts
    if 9 < parts.length then none
    else
      let (hi, lo) ← splitDoubleColon parts
      let hi ← hi.mapM parseHextet
      let lo ← lo.mapM parseHextet
      let hextets := hi ++ List.replicate (8 - (hi.length + lo.length)) 0 ++ lo
      return hextets.foldl (fun n hextet => n * 65536 + hextet) 0

/-- `IPv6Address(text)`: the address, its scope id checked and left out. -/
def ipv6Address (text : List Char) : Option ℕ :=
  if '/' ∈ text then none
  else
    match text.splitOn '%' with
    | [addr] => ipv6IntFromString addr
    | [addr, scopeId] => if scopeId.isEmpty then none else ipv6IntFromString addr
    | _ => none

/-! ### Masks -/

/-- `_prefix_from_prefix_string`. -/
def prefixFromPrefixString (maxPrefixlen : ℕ) (text : List Char) : Option ℕ :=
  if !isAsciiDigits text then none
  else if maxStrDigits < text.length then none
  else if maxPrefixlen < digitsValue 10 text then none
  else some (digitsValue 10 text)

/-- `_prefix_from_ip_int`: the prefix length of a number that is ones, then zeros. -/
def prefixFromIpInt (maxPrefixlen n : ℕ) : Option ℕ :=
  (List.range (maxPrefixlen + 1)).find? fun len =>
    n == (2 ^ len - 1) * 2 ^ (maxPrefixlen - len)

/-- `IPv4Network._make_netmask` of a text. -/
def ipv4PrefixLength (text : List Char) : Option ℕ :=
  match prefixFromPrefixString 32 text with
  | some len => some len
  | none => do
    let n ← ipv4IntFromString text
    match prefixFromIpInt 32 n with
    | some len => some len
    | none => prefixFromIpInt 32 (2 ^ 32 - 1 - n)

/-- `IPv6Network._make_netmask` of a text. -/
def ipv6PrefixLength (text : List Char) : Option ℕ := prefixFromPrefixString 128 text

/-! ### What the domain asks -/

/-- An address, with a mask after a `/` or without one: its number and prefix length. -/
def addressWithPrefix (address prefixLength : List Char → Option ℕ) (maxPrefixlen : ℕ)
    (text : List Char) : Option (ℕ × ℕ) :=
  match text.splitOn '/' with
  | [addr] => (address addr).map fun n => (n, maxPrefixlen)
  | [addr, mask] => do
    let n ← address addr
    let len ← prefixLength mask
    return (n, len)
  | _ => none

/-- `ip_address(text)` does not raise. -/
def isIpAddress (text : String) : Bool :=
  (ipv4Address text.toList).isSome || (ipv6Address text.toList).isSome

/-- `ip_interface(text)` does not raise. -/
def isIpInterface (text : String) : Bool :=
  (addressWithPrefix ipv4Address ipv4PrefixLength 32 text.toList).isSome ||
    (addressWithPrefix ipv6Address ipv6PrefixLength 128 text.toList).isSome

/-- No bit of the address is set beyond the prefix. -/
def hasNoHostBits (maxPrefixlen : ℕ) (network : ℕ × ℕ) : Bool :=
  network.1 % 2 ^ (maxPrefixlen - network.2) == 0

/-- `ip_network(text)` does not raise. -/
def isIpNetwork (text : String) : Bool :=
  (addressWithPrefix ipv4Address ipv4PrefixLength 32 text.toList).any (hasNoHostBits 32) ||
    (addressWithPrefix ipv6Address ipv6PrefixLength 128 text.toList).any (hasNoHostBits 128)

/-- `IPv4Network(text)` does not raise. -/
def isIpv4Network (text : String) : Bool :=
  (addressWithPrefix ipv4Address ipv4PrefixLength 32 text.toList).any (hasNoHostBits 32)

/-- `IPv4Address._string_from_ip_int`. -/
def ipv4Text (n : ℕ) : String :=
  toString (n / 16777216 % 256) ++ "." ++ toString (n / 65536 % 256) ++ "." ++
    toString (n / 256 % 256) ++ "." ++ toString (n % 256)

/-- `str(parsed.ip)` of an `ip_interface(text)` that is an `IPv4Interface`. -/
def ipv4InterfaceIp? (text : String) : Option String :=
  (addressWithPrefix ipv4Address ipv4PrefixLength 32 text.toList).map fun parsed =>
    ipv4Text parsed.1

example : ipv4InterfaceIp? "10.255.0.1/31" = some "10.255.0.1" ∧ ipv4InterfaceIp? "::1/128" = none :=
  by decide

example : isIpAddress "10.0.12.1" = true ∧ isIpAddress "fe80::1%eth1" = true ∧
    isIpAddress "::ffff:10.0.0.1" = true ∧ isIpAddress "10.0.012.1" = false ∧
    isIpAddress "1::2::3" = false := by
  decide

example : isIpInterface "10.0.12.1/255.255.255.252" = true ∧ isIpNetwork "10.0.12.0/30" = true ∧
    isIpNetwork "10.0.12.1/30" = false := by
  decide

theorem isIpAddress_empty : isIpAddress "" = false := by decide

theorem isIpInterface_empty : isIpInterface "" = false := by decide

theorem isIpNetwork_empty : isIpNetwork "" = false := by decide

/-- An address is not the empty text. -/
theorem ne_empty_of_isIpAddress {text : String} (h : isIpAddress text = true) : text ≠ "" := by
  rintro rfl
  rw [isIpAddress_empty] at h
  cases h

theorem ne_empty_of_isIpInterface {text : String} (h : isIpInterface text = true) :
    text ≠ "" := by
  rintro rfl
  rw [isIpInterface_empty] at h
  cases h

theorem ne_empty_of_isIpNetwork {text : String} (h : isIpNetwork text = true) : text ≠ "" := by
  rintro rfl
  rw [isIpNetwork_empty] at h
  cases h

/-! ### White space is no address -/

/-- A text of white space alone is not split at another character. -/
theorem splitOn_of_isBlank {text : String} {sep : Char} (h : isBlank text = true)
    (hsep : isSpace sep = false) : text.toList.splitOn sep = [text.toList] := by
  refine List.splitOnP_eq_singleton fun c hc => ?_
  have hspace : isSpace c = true := List.all_eq_true.1 h c hc
  refine beq_eq_false_iff_ne.2 ?_
  rintro rfl
  rw [hspace] at hsep
  cases hsep

theorem ipv4Address_of_isBlank {text : String} (h : isBlank text = true) :
    ipv4Address text.toList = none := by
  have hoctets : ipv4IntFromString text.toList = none := by
    rw [ipv4IntFromString, splitOn_of_isBlank h (by decide)]
    rfl
  rw [ipv4Address, hoctets, ite_self]

theorem ipv6Address_of_isBlank {text : String} (h : isBlank text = true) :
    ipv6Address text.toList = none := by
  have hparts : ipv6IntFromString text.toList = none := by
    rw [ipv6IntFromString, splitOn_of_isBlank h (by decide)]
    rfl
  rw [ipv6Address, splitOn_of_isBlank h (by decide)]
  simp only [hparts, ite_self]

theorem not_isBlank_of_isIpAddress {text : String} (h : isIpAddress text = true) :
    isBlank text = false := by
  by_contra hblank
  rw [Bool.not_eq_false] at hblank
  rw [isIpAddress, ipv4Address_of_isBlank hblank, ipv6Address_of_isBlank hblank] at h
  cases h

theorem not_isBlank_of_isIpv4Network {text : String} (h : isIpv4Network text = true) :
    isBlank text = false := by
  by_contra hblank
  rw [Bool.not_eq_false] at hblank
  rw [isIpv4Network, addressWithPrefix, splitOn_of_isBlank hblank (by decide)] at h
  simp only [ipv4Address_of_isBlank hblank, Option.map_none, Option.any_none,
    Bool.false_eq_true] at h

/-! ### An IPv4 address written out -/

theorem digits_of_octet : ∀ k : Fin 256, parseOctet (toString k.val).toList = some k.val ∧
    ((toString k.val).toList.all fun c => c != '.' && c != '/') = true := by
  decide +kernel

theorem parseOctet_toString {k : ℕ} (hk : k < 256) : parseOctet (toString k).toList = some k :=
  (digits_of_octet ⟨k, hk⟩).1

theorem ne_of_mem_octet {k : ℕ} (hk : k < 256) {c : Char} (hc : c ∈ (toString k).toList) :
    c ≠ '.' ∧ c ≠ '/' := by
  have hall := List.all_eq_true.1 (digits_of_octet ⟨k, hk⟩).2 c hc
  rwa [Bool.and_eq_true, bne_iff_ne, bne_iff_ne] at hall

/-- Digits followed by a dot are split off. -/
theorem splitOn_octet {k : ℕ} (hk : k < 256) (rest : List Char) :
    ((toString k).toList ++ '.' :: rest).splitOn '.' = (toString k).toList :: rest.splitOn '.' :=
  List.splitOn_append_cons_self_of_not_mem (fun hdot => (ne_of_mem_octet hk hdot).1 rfl) _

/-- **An address written out is read back.** -/
theorem ipv4Address_ipv4Text {n : ℕ} (hn : n < 2 ^ 32) :
    ipv4Address (ipv4Text n).toList = some n := by
  have ha : n / 16777216 % 256 < 256 := Nat.mod_lt _ (by decide)
  have hb : n / 65536 % 256 < 256 := Nat.mod_lt _ (by decide)
  have hc : n / 256 % 256 < 256 := Nat.mod_lt _ (by decide)
  have hd : n % 256 < 256 := Nat.mod_lt _ (by decide)
  have htext : (ipv4Text n).toList = (toString (n / 16777216 % 256)).toList ++ '.' ::
      ((toString (n / 65536 % 256)).toList ++ '.' :: ((toString (n / 256 % 256)).toList ++ '.' ::
        (toString (n % 256)).toList)) := by
    simp only [ipv4Text, String.toList_append, List.append_assoc]
    rfl
  have hlast : ((toString (n % 256)).toList).splitOn '.' = [(toString (n % 256)).toList] :=
    List.splitOnP_eq_singleton fun c hc => beq_eq_false_iff_ne.2 (ne_of_mem_octet hd hc).1
  have hslash : '/' ∉ (ipv4Text n).toList := by
    rw [htext]
    simp only [List.mem_append, List.mem_cons, not_or]
    exact ⟨fun h => (ne_of_mem_octet ha h).2 rfl, by decide,
      fun h => (ne_of_mem_octet hb h).2 rfl, by decide,
      fun h => (ne_of_mem_octet hc h).2 rfl, by decide, fun h => (ne_of_mem_octet hd h).2 rfl⟩
  have hsum : ((n / 16777216 % 256 * 256 + n / 65536 % 256) * 256 + n / 256 % 256) * 256 + n % 256 =
      n := by omega
  rw [ipv4Address, if_neg hslash, ipv4IntFromString, htext, splitOn_octet ha, splitOn_octet hb,
    splitOn_octet hc, hlast]
  simp only [List.length_cons, List.length_nil, ne_eq, not_true_eq_false, if_false, List.mapM_cons,
    List.mapM_nil, parseOctet_toString ha, parseOctet_toString hb, parseOctet_toString hc,
    parseOctet_toString hd, Option.bind_eq_bind, Option.bind_some, Option.pure_def,
    List.foldl_cons, List.foldl_nil, zero_mul, zero_add, hsum]

theorem parseOctet_lt {text : List Char} {k : ℕ} (h : parseOctet text = some k) : k < 256 := by
  unfold parseOctet at h
  split_ifs at h with _ _ _ hle
  rw [← Option.some.inj h]
  omega

/-- Octets after a number: each multiplies it by 256 and adds less than that. -/
theorem foldl_octets_lt {octets : List (List Char)} {values : List ℕ}
    (h : octets.mapM parseOctet = some values) (n : ℕ) :
    values.foldl (fun n octet => n * 256 + octet) n + 1 ≤ (n + 1) * 256 ^ octets.length := by
  induction octets generalizing values n with
  | nil =>
      rw [List.mapM_nil] at h
      obtain rfl := Option.some.inj h
      simp only [List.foldl_nil, List.length_nil, pow_zero, mul_one, le_refl]
  | cons octet octets ih =>
      rw [List.mapM_cons] at h
      obtain ⟨value, hvalue, h₁⟩ := Option.bind_eq_some_iff.1 h
      obtain ⟨rest, hrest, h₂⟩ := Option.bind_eq_some_iff.1 h₁
      obtain rfl := Option.some.inj h₂
      have hlt := parseOctet_lt hvalue
      calc rest.foldl (fun n octet => n * 256 + octet) (n * 256 + value) + 1
          ≤ (n * 256 + value + 1) * 256 ^ octets.length := ih hrest _
        _ ≤ ((n + 1) * 256) * 256 ^ octets.length := Nat.mul_le_mul_right _ (by omega)
        _ = (n + 1) * 256 ^ (octets.length + 1) := by rw [pow_succ, mul_assoc, mul_comm 256]

/-- An address has 32 bits. -/
theorem ipv4Address_lt {text : List Char} {n : ℕ} (h : ipv4Address text = some n) :
    n < 2 ^ 32 := by
  unfold ipv4Address at h
  split_ifs at h
  unfold ipv4IntFromString at h
  by_cases hlength : (text.splitOn '.').length = 4
  swap
  · rw [if_pos hlength] at h
    cases h
  rw [if_neg (not_not.2 hlength)] at h
  obtain ⟨values, hvalues, hn⟩ := Option.bind_eq_some_iff.1 h
  have hle := foldl_octets_lt hvalues 0
  rw [hlength] at hle
  rw [← Option.some.inj hn]
  omega

/-- The text of an address tells the address. -/
theorem ipv4Text_inj {m n : ℕ} (hm : m < 2 ^ 32) (hn : n < 2 ^ 32) :
    ipv4Text m = ipv4Text n ↔ m = n := by
  refine ⟨fun h => ?_, congrArg _⟩
  have hread := ipv4Address_ipv4Text hm
  rw [h, ipv4Address_ipv4Text hn] at hread
  exact (Option.some.inj hread).symm

end Python
end MetaRne
