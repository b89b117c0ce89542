/-
# The vendor adapters

`adapters/cisco.py` and `adapters/arista.py`: each is the line parser in its own
dialect.  Cisco writes an interface address with a mask, names the kind of a named
ACL and has numbered ACLs; Arista writes a prefix length and has neither.
-/

import MetaRne.Adapters.LineParser
import MetaRne.Application.ConfigIngestion

namespace MetaRne

open Library.Regex Library.Regex.Matcher Python

/-- The adapter of a dialect. -/
def Dialect.adapter (d : Dialect) : VendorConfigAdapter := ⟨d.vendorId, d.parse⟩

namespace CiscoAdapter

/-- `_mask_to_prefix_length`, `none` for a `ValueError`: the text stands after a slash. -/
def maskToPrefixLength (maskText : String) : Option ℕ :=
  if '/' ∈ maskText.toList then none else ipv4PrefixLength maskText.toList

/-- `_normalize_ip_and_mask`. -/
def normalizeIpAndMask (addressText maskText : String) : Except ParseErrorCode String :=
  match ipv4Address addressText.toList with
  | none => .error .invalidInterfaceIp
  | some address =>
    match maskToPrefixLength maskText with
    | none => .error .invalidSubnetMask
    | some prefixLength => .ok (ipv4Text address ++ "/" ++ toString prefixLength)

/-- `_IP_ADDRESS_RE`. -/
def ipAddressRe : Matcher (String × String) := twoArguments "ip address"

/-- `_ACL_NAMED_OPEN_RE`. -/
def aclNamedOpenRe : Matcher String := do
  let _ ← literal "ip access-list"
  let _ ← spaces
  let _ ← either (literal "standard") (literal "extended")
  let _ ← spaces
  let name ← token
  trailing
  return name

/-- `_ACL_NUMBERED_RE`. -/
def aclNumberedRe : Matcher (String × AclEntryTokens) := do
  let _ ← literal "access-list"
  let _ ← spaces
  let number ← numberRe
  let entry ← aclEntryRe none
  return (number, entry)

/-- What is Cisco's own. -/
def dialect : Dialect where
  vendorId := VendorType.ciscoIosXe.value
  aclNamedOpenRe := aclNamedOpenRe
  aclNumberedRe := aclNumberedRe
  ipAddress stripped := (ipAddressRe.match? stripped).map fun found =>
    normalizeIpAndMask found.1 found.2
  invalidAddressMessage := "invalid interface address/mask on line: %r"
  finalizeAclEntries := finalizeAclEntries

/-- `CiscoAdapter`. -/
def adapter : VendorConfigAdapter := dialect.adapter

end CiscoAdapter

namespace AristaAdapter

/-- `_normalize_cidr`. -/
def normalizeCidr (cidrText : String) : Except ParseErrorCode String :=
  let addressText := cidrText.toList.takeWhile (· ≠ '/')
  match cidrText.toList.dropWhile (· ≠ '/') with
  | [] => .error .invalidSubnetMask
  | _ :: prefixText =>
    match ipv4Address addressText with
    | none => .error .invalidInterfaceIp
    | some address =>
      match pyInt prefixText with
      | .error _ => .error .invalidSubnetMask
      | .ok prefixLength =>
        if 0 ≤ prefixLength ∧ prefixLength ≤ 32 then
          .ok (ipv4Text address ++ "/" ++ toString prefixLength)
        else .error .invalidSubnetMask

/-- `_IP_ADDRESS_RE`. -/
def ipAddressRe : Matcher String := oneArgument "ip address"

/-- `_ACL_NAMED_OPEN_RE`. -/
def aclNamedOpenRe : Matcher String := oneArgument "ip access-list"

/-- What is Arista's own. -/
def dialect : Dialect where
  vendorId := VendorType.aristaEos.value
  aclNamedOpenRe := aclNamedOpenRe
  aclNumberedRe := fail
  ipAddress stripped := (ipAddressRe.match? stripped).map normalizeCidr
  invalidAddressMessage := "invalid interface address/prefix on line: %r"
  finalizeAclEntries := finalizeAclEntries

/-- `AristaAdapter`. -/
def adapter : VendorConfigAdapter := dialect.adapter

end AristaAdapter

/-- The registry that the application is built with (`api/dependencies.py`). -/
def adapterRegistry : AdapterRegistry := ⟨[CiscoAdapter.adapter, AristaAdapter.adapter]⟩

/-- The configuration that an adapter accepts a text as. -/
def VendorConfigAdapter.accepted? (adapter : VendorConfigAdapter) (text : String) :
    Option NormalizedConfiguration :=
  match adapter.parse text with
  | .ok (.inl config) => some config
  | _ => none

theorem VendorConfigAdapter.accepted?_eq_some {adapter : VendorConfigAdapter} {text : String}
    {config : NormalizedConfiguration} :
    adapter.accepted? text = some config ↔ adapter.parse text = .ok (.inl config) := by
  unfold accepted?
  constructor
  · intro h
    split at h
    · next hparse =>
        rw [hparse, Option.some.inj h]
    · cases h
  · intro h
    rw [h]

/-- The characters of a text decide what it is accepted as. -/
theorem Dialect.accepted?_eq_of_toList (d : Dialect) {text : String} {chars : List Char}
    (h : text.toList = chars) : d.adapter.accepted? text =
      if chars.all isSpace then none
      else ((((splitlines chars).zipIdx 1).map fun numbered =>
        (⟨numbered.2, numbered.1⟩ : SourceLine)).foldlM d.readLine .initial >>= d.finish).toOption := by
  subst h
  change (match d.parse text with
    | .ok (.inl config) => some config
    | _ => none) = _
  unfold parse isBlank readLines sourceLines
  by_cases hblank : text.toList.all isSpace = true
  · rw [if_pos hblank, if_pos hblank]
  · rw [if_neg hblank, if_neg hblank]
    cases List.foldlM d.readLine .initial _ >>= d.finish with
    | ok config => rfl
    | error rejection => cases rejection <;> rfl

/-- Each adapter of the application is the line parser in a dialect. -/
theorem exists_dialect {adapter : VendorConfigAdapter}
    (h : adapter ∈ adapterRegistry.adapters) : ∃ d : Dialect, adapter = d.adapter := by
  rcases List.mem_cons.1 h with rfl | h
  · exact ⟨CiscoAdapter.dialect, rfl⟩
  · obtain rfl := List.mem_singleton.1 h
    exact ⟨AristaAdapter.dialect, rfl⟩

end MetaRne
