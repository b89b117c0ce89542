/-
# The normal form of an accepted text

What holds of every configuration that a lawful dialect accepts (`NormalForm`).
`Checked` is the invariant of the lines: an address, a neighbour and a hostname
are only kept after their check.  `finish` checks the references, sorts the
interfaces, the ACLs and the neighbours, and the names it sorts are distinct
because builders are kept by name (`Filed`).
-/

import MetaRne.Adapters.NeighborStatements
import MetaRne.Adapters.StatementShapes
import MetaRne.Library.Sorting

namespace MetaRne

open Library Library.Effect Library.Regex Library.Regex.Matcher Python

/-! ### What a statement captures -/

/-- The first pattern that matches is one of them. -/
theorem mem_of_firstMatch {α : Type} {found : List (Option α)} {otherwise a : α}
    (h : firstMatch found otherwise = a) : a = otherwise ∨ some a ∈ found := by
  unfold firstMatch at h
  cases hfound : found.findSome? fun m => m with
  | none =>
      rw [hfound] at h
      exact Or.inl h.symm
  | some b =>
      rw [hfound] at h
      obtain ⟨m, hm, hsome⟩ := List.exists_of_findSome?_eq_some hfound
      obtain rfl : b = a := h
      exact Or.inr (hsome ▸ hm)

namespace Dialect

variable {d : Dialect} {s s' : ParserState} {line : SourceLine}

theorem match?_of_declaration_hostname {stripped : List Char} {name : String}
    (h : d.declaration stripped = .hostname name) : hostnameRe.match? stripped = some name := by
  unfold declaration at h
  rcases mem_of_firstMatch h with hnot | hmem
  · cases hnot
  · simpa using hmem

theorem match?_of_declaration_numberedAcl {stripped : List Char} {number : String}
    {tokens : AclEntryTokens} (h : d.declaration stripped = .numberedAcl number tokens) :
    d.aclNumberedRe.match? stripped = some (number, tokens) := by
  unfold declaration at h
  rcases mem_of_firstMatch h with hnot | hmem
  · cases hnot
  · simpa [Prod.ext_iff] using hmem

theorem ipAddress_of_interfaceCommand {stripped : List Char}
    {parsed : Except ParseErrorCode String}
    (h : d.interfaceCommand stripped = .ipAddress parsed) : d.ipAddress stripped = some parsed := by
  unfold interfaceCommand at h
  rcases mem_of_firstMatch h with hnot | hmem
  · cases hnot
  simp only [List.mem_cons, List.not_mem_nil, or_false] at hmem
  rcases hmem with hline | hline | hline | hline | hline
  · obtain ⟨_, -, hnot⟩ := Option.map_eq_some_iff.1 hline.symm
    cases hnot
  · obtain ⟨_, hparsed, hsame⟩ := Option.map_eq_some_iff.1 hline.symm
    cases hsame
    exact hparsed
  · split_ifs at hline
    cases hline
  · split_ifs at hline
    cases hline
  · obtain ⟨_, -, hnot⟩ := Option.map_eq_some_iff.1 hline.symm
    cases hnot

/-! ### The normal form -/

/-- A line of the text at the top level declares the hostname. -/
def DeclaresHostname (lines : List SourceLine) (hostname : String) : Prop :=
  ∃ line ∈ lines, line.kind = .topLevel ∧ ∃ gap tail, gap ≠ [] ∧ IsGap gap ∧ IsGap tail ∧
    line.stripped = "hostname".toList ++ (gap ++ (hostname.toList ++ tail))

/-- **The normal form** of a configuration that was read from a text. -/
structure NormalForm (text : String) (config : NormalizedConfiguration) : Prop where
  interfaces : config.interfaces.Pairwise fun a b => a.name < b.name
  acls : config.acls.Pairwise fun a b => a.name < b.name
  references : ∀ interface ∈ config.interfaces, ∀ aclName,
    interface.aclIn = some aclName ∨ interface.aclOut = some aclName →
      aclName ∈ config.acls.map (·.name)
  addresses : ∀ interface ∈ config.interfaces, ∀ address,
    interface.ipAddress = some address → IsAddressWithLength address
  neighbors : ∃ addresses : List ℕ, addresses.Pairwise (· ≤ ·) ∧ (∀ n ∈ addresses, n < 2 ^ 32) ∧
    config.routing.bgpNeighbors.map (·.neighborIp) = addresses.map ipv4Text
  remoteAs : ∀ neighbor ∈ config.routing.bgpNeighbors, 0 < neighbor.remoteAs
  token : IsToken config.hostname
  hostname : DeclaresHostname (sourceLines text) config.hostname

/-! ### What the lines keep -/

/-- What was checked before it was kept, of what is read so far. -/
structure Checked (lines : List SourceLine) (s : ParserState) : Prop where
  address : ∀ name builder address, s.interfaces.get? name = some builder →
    builder.ipAddress = some address → IsAddressWithLength address
  neighbor : ∀ neighbor ∈ s.bgpNeighbors, 0 < neighbor.remoteAs ∧
    ∃ n < 2 ^ 32, neighbor.neighborIp = ipv4Text n
  hostname : ∀ name, s.hostname = some name → IsToken name ∧ DeclaresHostname lines name

theorem checked_initial (lines : List SourceLine) : Checked lines .initial where
  address := fun _ _ _ hget => nomatch hget
  neighbor := fun _ hmem => nomatch hmem
  hostname := fun _ hname => nomatch hname

theorem Checked.setInterface {lines : List SourceLine} (hs : Checked lines s) {key : String}
    {written : InterfaceBuilder}
    (hwritten : ∀ address, written.ipAddress = some address → IsAddressWithLength address)
    (context : Context) :
    Checked lines { s with interfaces := s.interfaces.set key written, context := context } where
  address := by
    intro name builder address hget haddress
    rw [show _ = (s.interfaces.set key written).get? name from rfl, Dict.get?_set] at hget
    split_ifs at hget with hname
    · obtain rfl := Option.some.inj hget
      exact hwritten address haddress
    · exact hs.address name builder address hget haddress
  neighbor := hs.neighbor
  hostname := hs.hostname

/-- **A line keeps what is checked.** -/
theorem Reads.checked (hd : d.Lawful) {lines : List SourceLine} (hmem : line ∈ lines)
    (h : Reads d s line s') (hs : Checked lines s) : Checked lines s' := by
  cases h with
  | blank => exact hs
  | terminator => exact ⟨hs.address, hs.neighbor, hs.hostname⟩
  | hostname name hkind hline =>
      refine ⟨hs.address, hs.neighbor, fun name' hname => ?_⟩
      obtain rfl := Option.some.inj hname
      obtain ⟨htoken, gap, tail, hne, hgap, htail, hshape⟩ :=
        shape_of_oneArgument (match?_of_declaration_hostname hline)
      exact ⟨htoken, line, hmem, hkind, gap, tail, hne, hgap, htail, hshape⟩
  | interface name =>
      refine hs.setInterface (fun address haddress => ?_) _
      cases hget : s.interfaces.get? name with
      | none =>
          rw [hget] at haddress
          exact nomatch haddress
      | some builder =>
          rw [hget] at haddress
          exact hs.address name builder address hget haddress
  | namedAcl => exact ⟨hs.address, hs.neighbor, hs.hostname⟩
  | numberedAcl => exact ⟨hs.address, hs.neighbor, hs.hostname⟩
  | routerBgp => exact ⟨hs.address, hs.neighbor, hs.hostname⟩
  | unrecognized => exact ⟨hs.address, hs.neighbor, hs.hostname⟩
  | ignored => exact hs
  | interfaceLine name builder configured _ _ hbuilder hconfigured =>
      refine hs.setInterface (fun address haddress => ?_) _
      obtain ⟨-, hkept | ⟨written, hcommand, hwritten⟩⟩ := of_configureInterface hconfigured
      · exact hs.address name builder address hbuilder (hkept ▸ haddress)
      · obtain rfl := Option.some.inj (hwritten.symm.trans haddress)
        exact hd.address (ipAddress_of_interfaceCommand hcommand)
  | aclLine => exact ⟨hs.address, hs.neighbor, hs.hostname⟩
  | bgpLine found neighbor _ _ _ hneighbor =>
      refine ⟨hs.address, fun other hother => ?_, hs.hostname⟩
      rcases List.mem_append.1 hother with hold | hnew
      · exact hs.neighbor other hold
      · obtain rfl := List.mem_singleton.1 hnew
        obtain ⟨address, haddress, -, hpositive, hip⟩ := eq_of_tryNormalizeBgpNeighbor hneighbor
        exact ⟨hpositive, address, ipv4Address_lt haddress, hip⟩

theorem readLines_checked (hd : d.Lawful) {text : String} (h : d.readLines text = .ok s) :
    Checked (sourceLines text) s :=
  foldlM_readLine_invariant (fun _ hmem _ _ hreads hs => hreads.checked hd hmem hs) h
    (checked_initial _)

/-! ### What is sorted at the end -/

theorem neighborAddress_of_ipv4Text {neighbor : NormalizedBgpNeighbor} {n : ℕ} (hn : n < 2 ^ 32)
    (h : neighbor.neighborIp = ipv4Text n) : neighborAddress neighbor = n := by
  unfold neighborAddress
  rw [h, ipv4Address_ipv4Text hn, Option.getD_some]

/-- **Every accepted text is in normal form.** -/
theorem normalForm_of_parse (hd : d.Lawful) {text : String} {config : NormalizedConfiguration}
    (h : d.parse text = .ok (.inl config)) : NormalForm text config := by
  have hreferences : ∀ interface ∈ config.interfaces, ∀ aclName,
      (interface.aclIn = some aclName ∨ interface.aclOut = some aclName) →
        aclName ∈ config.acls.map (·.name) :=
    fun _ hinterface _ hacl => declared_of_assigned h hinterface hacl
  obtain ⟨s, hostname, hlines, hhostname, -, rfl⟩ := parse_eq_ok h
  have hfiled := readLines_filed hlines
  have hchecked := readLines_checked hd hlines
  have hneighbors : ∀ neighbor ∈ (d.normalizedConfiguration s hostname).routing.bgpNeighbors,
      0 < neighbor.remoteAs ∧ ∃ n < 2 ^ 32, neighbor.neighborIp = ipv4Text n :=
    fun neighbor hmem => hchecked.neighbor neighbor ((List.mem_insertionSort _).1 hmem)
  refine ⟨?_, ?_, hreferences, ?_, ?_, fun neighbor hmem => (hneighbors neighbor hmem).1,
    (hchecked.hostname hostname hhostname).1, (hchecked.hostname hostname hhostname).2⟩
  · refine Sorting.pairwise_lt_insertionSort (fun _ _ => Iff.rfl) ?_
    rw [List.map_map]
    exact Dict.map_values_eq_keys hfiled.interfaces ▸ s.interfaces.nodup
  · refine Sorting.pairwise_lt_insertionSort (fun _ _ => Iff.rfl) ?_
    rw [List.map_map]
    exact Dict.map_values_eq_keys hfiled.acls ▸ s.acls.nodup
  · intro interface hinterface address haddress
    obtain ⟨builder, hbuilder, rfl⟩ := List.mem_map.1 ((List.mem_insertionSort _).1 hinterface)
    obtain ⟨name, hget⟩ := Dict.mem_values_iff.1 hbuilder
    exact hchecked.address name builder address hget haddress
  · refine ⟨(d.normalizedConfiguration s hostname).routing.bgpNeighbors.map neighborAddress,
      ?_, ?_, ?_⟩
    · rw [List.pairwise_map]
      exact Sorting.pairwise_insertionSort_of_key (fun _ _ => Iff.rfl) s.bgpNeighbors
    · intro n hn
      obtain ⟨neighbor, hmem, rfl⟩ := List.mem_map.1 hn
      obtain ⟨-, n, hlt, hip⟩ := hneighbors neighbor hmem
      rw [neighborAddress_of_ipv4Text hlt hip]
      exact hlt
    · rw [List.map_map]
      refine List.map_congr_left fun neighbor hmem => ?_
      obtain ⟨-, n, hlt, hip⟩ := hneighbors neighbor hmem
      rw [Function.comp_apply, neighborAddress_of_ipv4Text hlt hip, hip]

end Dialect

/-- **What either adapter accepts is in normal form.** -/
theorem normalForm_of_accepted {d : Dialect}
    (hd : d = CiscoAdapter.dialect ∨ d = AristaAdapter.dialect) {text : String}
    {config : NormalizedConfiguration} (h : d.adapter.accepted? text = some config) :
    Dialect.NormalForm text config :=
  Dialect.normalForm_of_parse (lawful_of_vendor hd) (VendorConfigAdapter.accepted?_eq_some.1 h)

/-- A text with its blocks, its ACLs and its neighbours out of order. -/
def unsortedText : String :=
  "hostname edge-0\ninterface Gi2\n ip access-group B in\ninterface Gi1\n" ++
    " ip address 10.0.0.1 255.255.255.252\n!\nip access-list extended B\n permit ip any any\n" ++
    "access-list 10 deny ip any any\nrouter bgp 65000\n neighbor 10.0.0.10 remote-as 65002\n" ++
    " neighbor 10.0.0.2 remote-as 65001\nhostname edge-1\n"

/-- What the Cisco adapter makes of it. -/
def sortedConfig : NormalizedConfiguration where
  hostname := "edge-1"
  interfaces := [⟨"Gi1", none, some "10.0.0.1/30", none, .up, none, none⟩,
    ⟨"Gi2", none, none, none, .up, some "B", none⟩]
  routing := ⟨[⟨"10.0.0.2", 65001⟩, ⟨"10.0.0.10", 65002⟩]⟩
  acls := [⟨"10", [⟨10, .deny, "ip", "any", "any"⟩]⟩, ⟨"B", [⟨10, .permit, "ip", "any", "any"⟩]⟩]

set_option maxRecDepth 20000 in
/-- The text is brought into its normal form. -/
theorem normalForm_sortedConfig :
    CiscoAdapter.dialect.adapter.accepted? unsortedText = some sortedConfig ∧
      Dialect.NormalForm unsortedText sortedConfig := by
  have haccepted : CiscoAdapter.dialect.adapter.accepted? unsortedText = some sortedConfig := by
    -- the kernel is given the characters: it is slow at reading them out of the text
    have htext : unsortedText.toList = _ := toList_append_eq (toList_append_eq (toList_append_eq
      String.toList_ofList String.toList_ofList) String.toList_ofList) String.toList_ofList
    rw [Dialect.accepted?_eq_of_toList _ htext]
    decide +kernel
  exact ⟨haccepted, normalForm_of_accepted (Or.inl rfl) haccepted⟩

end MetaRne
