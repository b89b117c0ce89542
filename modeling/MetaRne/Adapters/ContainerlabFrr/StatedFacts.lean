/-
# What an output states

Everything a parser reads is stated by the output for the same interface, neighbor, prefix
or probe: `InterfaceStated`, `LineStated`, `NeighborStated`, `RouteStated` and
`ProbeStated` say how.  A state that is a failure is never a default: it stands for a word of
the output.
-/

import MetaRne.Adapters.ContainerlabFrr.Facets

namespace MetaRne
namespace ContainerlabFrr

open Library Library.Effect Library.Regex Library.Regex.Matcher Python

variable {lib : Builtins} {text : List Char}

/-! ### Words -/

/-- A value is this string. -/
theorem strOf?_eq_some {value : Option Json} {s : String} :
    strOf? value = some s ↔ value = some (.str s) := by
  unfold strOf?
  split
  · rw [Option.some.injEq, Option.some.injEq, Json.str.injEq]
  · rename_i hnot
    exact iff_of_false (fun h => by cases h) fun h => hnot s h

theorem isTrue_iff {value : Option Json} : isTrue value = true ↔ value = some (.bool true) := by
  unfold isTrue
  split
  · rw [Option.some.injEq, Json.bool.injEq]
  · rename_i hnot
    exact iff_of_false Bool.false_ne_true fun h => hnot true h

theorem dictOf?_eq_some {value : Option Json} {fields : List (String × Json)} :
    dictOf? value = some fields ↔ value = some (.obj fields) := by
  unfold dictOf?
  split
  · rw [Option.some.injEq, Option.some.injEq, Json.obj.injEq]
  · rename_i hnot
    exact iff_of_false (fun h => by cases h) fun h => hnot fields h

/-- The words that Linux reports a state by. -/
def stateWords : InterfaceOperState → List String
  | .up => ["UP"]
  | .down => ["DOWN", "LOWERLAYERDOWN"]
  | .unknown => []

/-- A state that is reported, in capitals or not. -/
def StateStated (value : Option Json) (state : InterfaceOperState) : Prop :=
  state ≠ .unknown → ∃ word, value = some (.str word) ∧ upper word ∈ stateWords state

/-- **A state that is not unknown is reported by its word.** -/
theorem operState_stated (value : Option Json) : StateStated value (operState value) := by
  intro hknown
  unfold operState at hknown ⊢
  split at hknown
  · rename_i word
    refine ⟨word, rfl, ?_⟩
    rw [operStateByLinuxName, List.lookup_cons, List.lookup_cons, List.lookup_cons] at hknown ⊢
    by_cases hup : upper word = "UP"
    · rw [hup]
      decide
    · by_cases hdown : upper word = "DOWN"
      · rw [hdown]
        decide
      · by_cases hlower : upper word = "LOWERLAYERDOWN"
        · rw [hlower]
          decide
        · rw [beq_false_of_ne hup, beq_false_of_ne hdown, beq_false_of_ne hlower] at hknown
          exact absurd rfl hknown
  · exact absurd rfl hknown

/-! ### JSON outputs -/

theorem loadJson_eq_ok {data : Json} (h : loadJson lib text = .ok data) :
    lib.loads text = .ok data := by
  unfold loadJson at h
  split_ifs at h
  · cases h
  · cases hloads : lib.loads text with
    | ok value =>
        rw [hloads] at h
        exact congrArg Except.ok (Except.ok.inj h)
    | error message =>
        rw [hloads] at h
        cases h

theorem loadList_eq_ok {items : List Json} (h : loadList lib text = .ok items) :
    lib.loads text = .ok (.arr items) := by
  obtain ⟨data, hdata, h⟩ := except_bind_eq_ok.1 h
  cases data with
  | arr found =>
      cases h
      exact loadJson_eq_ok hdata
  | _ => cases h

theorem loadDict_eq_ok {fields : List (String × Json)} (h : loadDict lib text = .ok fields) :
    lib.loads text = .ok (.obj fields) := by
  obtain ⟨data, hdata, h⟩ := except_bind_eq_ok.1 h
  cases data with
  | obj found =>
      cases h
      exact loadJson_eq_ok hdata
  | _ => cases h

/-- **An entry of `ip -j addr` states the interface**: its name, its state, and each of its
addresses with the length. -/
def InterfaceStated (lib : Builtins) (text : List Char) (interface : InterfaceObservation) : Prop :=
  ∃ entries, lib.loads text = .ok (.arr entries) ∧ ∃ entry ∈ entries,
    HasKey entry "ifname" (.str interface.name) ∧
      StateStated (field "operstate" entry) interface.operState ∧
      ∀ address ∈ interface.addresses, ∃ items, HasKey entry "addr_info" (.arr items) ∧
        ∃ item ∈ items, ∃ ip len, HasKey item "local" (.str ip) ∧
          HasKey item "prefixlen" (.int len) ∧ address = ip ++ "/" ++ toString len

theorem hasKey_of_field {key : String} {j value : Json} (h : field key j = some value) :
    HasKey j key value := by
  unfold field at h
  split at h
  · exact ⟨_, rfl, h⟩
  · cases h

theorem intOf?_eq_some {p : ℤ → Bool} {value : Option Json} {n : ℤ} (h : intOf? p value = some n) :
    value = some (.int n) ∧ p n = true := by
  unfold intOf? at h
  split at h
  · split_ifs at h with hp
    cases h
    exact ⟨rfl, hp⟩
  · cases h

theorem addressOf_eq_ok {name address : String} {item : Json}
    (h : addressOf name item = .ok address) : ∃ ip len, HasKey item "local" (.str ip) ∧
      HasKey item "prefixlen" (.int len) ∧ address = ip ++ "/" ++ toString len := by
  unfold addressOf at h
  split at h
  · rename_i ip len hip hlen
    cases h
    exact ⟨ip, len, hasKey_of_field (strOf?_eq_some.1 hip),
      hasKey_of_field (intOf?_eq_some hlen).1, rfl⟩
  · cases h

theorem addressesOf_eq_ok {name address : String} {value : Option Json} {addresses : List String}
    (h : addressesOf name value = .ok addresses) (hmem : address ∈ addresses) :
    ∃ items, value = some (.arr items) ∧ ∃ item ∈ items, ∃ ip len,
      HasKey item "local" (.str ip) ∧ HasKey item "prefixlen" (.int len) ∧
        address = ip ++ "/" ++ toString len := by
  unfold addressesOf at h
  split at h
  · cases h
    exact absurd hmem List.not_mem_nil
  · rename_i items
    obtain ⟨item, hitem, haddress⟩ := exists_of_mem_except_mapM h hmem
    exact ⟨items, rfl, item, hitem, addressOf_eq_ok haddress⟩
  · cases h

theorem parseIpJsonInterfaces_stated {interfaces : List InterfaceObservation}
    (h : parseIpJsonInterfaces lib text = .ok interfaces) :
    ∀ interface ∈ interfaces, InterfaceStated lib text interface := by
  intro interface hmem
  obtain ⟨entries, hload, h⟩ := except_bind_eq_ok.1 (translate_eq_ok.1 h)
  obtain ⟨entry, hentry, h⟩ := exists_of_mem_except_mapM h hmem
  refine ⟨entries, loadList_eq_ok hload, entry, hentry, ?_⟩
  cases entry with
  | obj fields =>
      change interfaceOf fields = _ at h
      unfold interfaceOf at h
      split at h
      · rename_i name hname
        split_ifs at h
        · cases h
        · obtain ⟨addresses, haddresses, h⟩ := except_bind_eq_ok.1 h
          obtain ⟨hn, hs, ha⟩ := InterfaceObservation.of_new (passOn_eq_ok.1 h)
          refine ⟨⟨fields, rfl, ?_⟩, ?_, fun address haddress => ?_⟩
          · rw [hn]
            exact strOf?_eq_some.1 hname
          · rw [hs]
            exact operState_stated _
          · rw [ha] at haddress
            obtain ⟨items, hinfo, item, hitem, hstated⟩ := addressesOf_eq_ok haddresses haddress
            exact ⟨items, ⟨fields, rfl, hinfo⟩, item, hitem, hstated⟩
      · cases h
  | _ => cases h

/-! ### BGP -/

/-- **A peer of the summary states the neighbor**: a state that is not unknown is the word of
the peer, and the counts are those of an established session. -/
def NeighborStated (lib : Builtins) (text : List Char) (neighbor : BgpNeighborObservation) : Prop :=
  ∃ data section_ peers, lib.loads text = .ok data ∧ HasKey data "ipv4Unicast" section_ ∧
    HasKey section_ "peers" (.obj peers) ∧ ∃ peer, (neighbor.neighborIp, peer) ∈ peers ∧
      (neighbor.state ≠ .unknown → HasKey peer "state" (.str neighbor.state.value)) ∧
      (∀ n ∈ neighbor.remoteAs, HasKey peer "remoteAs" (.int n)) ∧
      (∀ n ∈ neighbor.prefixesReceived, HasKey peer "pfxRcd" (.int n)) ∧
      ∀ n ∈ neighbor.uptimeMs, HasKey peer "peerUptimeMsec" (.int n)

theorem bgpState_stated {rawState : Option String} (h : bgpState rawState ≠ .unknown) :
    rawState = some (bgpState rawState).value := by
  cases rawState with
  | none => exact absurd rfl h
  | some raw =>
      have hnames : (bgpStateByName.all fun entry => entry.2.value == entry.1) = true := by decide
      cases hlookup : bgpStateByName.lookup raw with
      | none =>
          refine absurd ?_ h
          rw [bgpState, Option.bind_some, hlookup]
          rfl
      | some state =>
          obtain ⟨before, after, hentries, -⟩ := List.lookup_eq_some_iff.1 hlookup
          have hname := List.all_eq_true.1 hnames (raw, state) (by rw [hentries]; simp)
          rw [bgpState, Option.bind_some, hlookup, Option.getD_some, beq_iff_eq.1 hname]

/-- A count that is read is the integer that is there. -/
theorem hasKey_of_mem_map_toNat {p : ℤ → Bool} (hp : ∀ n, p n = true → 0 ≤ n) {key : String}
    {j : Json} {n : ℕ} (h : n ∈ (intOf? p (field key j)).map Int.toNat) : HasKey j key (.int n) := by
  obtain ⟨m, hm, rfl⟩ := Option.mem_map.1 h
  obtain ⟨hvalue, hpos⟩ := intOf?_eq_some hm
  rw [Int.toNat_of_nonneg (hp m hpos)]
  exact hasKey_of_field hvalue

theorem hasKey_of_mem_countOf {state : BgpSessionState} {key : String} {j : Json} {n : ℕ}
    (h : n ∈ (countOf state (field key j)).map Int.toNat) : HasKey j key (.int n) := by
  unfold countOf at h
  split_ifs at h
  · exact hasKey_of_mem_map_toNat (fun n hn => of_decide_eq_true hn) h
  · cases h

theorem parseBgpSummary_stated {bgp : BgpObservation} (h : parseBgpSummary lib text = .ok bgp) :
    ∀ neighbor ∈ bgp.neighbors, NeighborStated lib text neighbor := by
  intro n hmem
  obtain ⟨data, hload, h⟩ := except_bind_eq_ok.1 (translate_eq_ok.1 h)
  split at h
  · rename_i section_ hsection
    unfold bgpSection at h
    split at h
    · split at h
      · rename_i peers hpeers
        obtain ⟨neighbors, hneighbors, h⟩ := except_bind_eq_ok.1 h
        obtain ⟨-, -, heq⟩ := BgpObservation.of_new (passOn_eq_ok.1 h)
        rw [heq] at hmem
        obtain ⟨peer, hpeer, h⟩ := exists_of_mem_except_mapM hneighbors hmem
        obtain ⟨hip, has, hstate, -, hprefixes, huptime⟩ :=
          BgpNeighborObservation.of_new (passOn_eq_ok.1 h)
        refine ⟨.obj data, .obj section_, peers, loadDict_eq_ok hload,
          ⟨data, rfl, dictOf?_eq_some.1 hsection⟩, ⟨section_, rfl, dictOf?_eq_some.1 hpeers⟩,
          peer.2, by rwa [hip], fun hknown => ?_, fun k hk => ?_, fun k hk => ?_, fun k hk => ?_⟩
        · rw [hstate] at hknown ⊢
          exact hasKey_of_field (strOf?_eq_some.1 (bgpState_stated hknown))
        · rw [has] at hk
          exact hasKey_of_mem_map_toNat (fun n hn => (of_decide_eq_true hn).le) hk
        · rw [hprefixes] at hk
          exact hasKey_of_mem_countOf hk
        · rw [huptime] at hk
          exact hasKey_of_mem_countOf hk
      · cases h
    · cases h
  · cases h

/-! ### Routes -/

/-- An active next hop, with the address and the interface it gives. -/
def HopStated (raw : Json) (hop : NextHop) : Prop :=
  HasKey raw "active" (.bool true) ∧ hop.ip = strOf? (field "ip" raw) ∧
    hop.interface = strOf? (field "interfaceName" raw)

/-- **An installed entry states the route**: its next hops are the active ones of the entry,
all of them and no others. -/
def RouteStated (lib : Builtins) (text : List Char) (route : RouteObservation) : Prop :=
  ∃ prefixes entries, lib.loads text = .ok (.obj prefixes) ∧
    (route.prefixText, .arr entries) ∈ prefixes ∧ ∃ entry ∈ entries,
      HasKey entry "protocol" (.str route.protocol) ∧ HasKey entry "installed" (.bool true) ∧
        ∃ raws, HasKey entry "nexthops" (.arr raws) ∧
          (∀ hop ∈ route.nextHops, ∃ raw ∈ raws, HopStated raw hop) ∧
          ∀ raw ∈ raws, HasKey raw "active" (.bool true) →
            ∃ hop ∈ route.nextHops, HopStated raw hop

theorem nextHop_eq_ok {raw : Json} {found : Option NextHop} (h : nextHop raw = .ok found) :
    (∀ hop ∈ found, HopStated raw hop) ∧ (HasKey raw "active" (.bool true) → found.isSome) := by
  cases raw with
  | obj fields =>
      change (if isTrue (fields.lookup "active") then _ else _) = _ at h
      split_ifs at h with hactive
      · obtain ⟨hop, hhop, rfl⟩ := except_map_eq_ok.1 h
        obtain ⟨hip, hinterface⟩ := NextHop.of_new (passOn_eq_ok.1 hhop)
        refine ⟨fun hop' hmem => ?_, fun _ => rfl⟩
        cases hmem
        exact ⟨⟨fields, rfl, isTrue_iff.1 hactive⟩, hip, hinterface⟩
      · cases h
        refine ⟨fun hop' hmem => (Option.some_ne_none _ hmem.symm).elim, ?_⟩
        rintro ⟨fields', hfields, hlookup⟩
        cases hfields
        exact absurd (isTrue_iff.2 hlookup) hactive
  | _ => cases h

theorem installedRoute_eq_ok {start protocol : String} {raws : List Json} {route : RouteObservation}
    (h : installedRoute start protocol raws = .ok (some route)) :
    route.prefixText = start ∧ route.protocol = protocol ∧
      (∀ hop ∈ route.nextHops, ∃ raw ∈ raws, HopStated raw hop) ∧
      ∀ raw ∈ raws, HasKey raw "active" (.bool true) →
        ∃ hop ∈ route.nextHops, HopStated raw hop := by
  obtain ⟨hops, hhops, h⟩ := except_bind_eq_ok.1 h
  dsimp only at h
  split_ifs at h
  · cases h
  · obtain ⟨route', hroute, heq⟩ := except_map_eq_ok.1 h
    cases heq
    obtain ⟨hstart, hprotocol, hnext⟩ := RouteObservation.of_new (passOn_eq_ok.1 hroute)
    have hmem : ∀ hop, hop ∈ route.nextHops ↔ some hop ∈ hops := by
      intro hop
      rw [hnext, List.mem_insertionSort, List.mem_filterMap]
      simp only [id_eq, exists_eq_right]
    refine ⟨hstart, hprotocol, fun hop hhop => ?_, fun raw hraw hactive => ?_⟩
    · obtain ⟨raw, hraw, hfound⟩ := exists_of_mem_except_mapM hhops ((hmem hop).1 hhop)
      exact ⟨raw, hraw, (nextHop_eq_ok hfound).1 hop rfl⟩
    · obtain ⟨found, hfound, heq⟩ := exists_right_of_forall₂ (except_mapM_eq_ok.1 hhops) hraw
      obtain ⟨hop, rfl⟩ := Option.isSome_iff_exists.1 ((nextHop_eq_ok heq).2 hactive)
      exact ⟨hop, (hmem hop).2 hfound, (nextHop_eq_ok heq).1 hop rfl⟩

theorem parseFrrRoutes_stated {routes : List RouteObservation}
    (h : parseFrrRoutes lib text = .ok routes) : ∀ route ∈ routes, RouteStated lib text route := by
  intro route hmem
  obtain ⟨prefixes, hload, h⟩ := except_bind_eq_ok.1 (translate_eq_ok.1 h)
  obtain ⟨found, hfound, h⟩ := except_bind_eq_ok.1 h
  cases h
  obtain ⟨ofPrefix, hof, hmem⟩ := List.mem_flatten.1 hmem
  obtain ⟨⟨start, value⟩, hstart, hread⟩ := exists_of_mem_except_mapM hfound hof
  unfold prefixRoutes at hread
  split at hread
  · rename_i entries hentries
    cases hentries
    obtain ⟨read, hreads, hread⟩ := except_bind_eq_ok.1 hread
    cases hread
    have hsome : some route ∈ read := by
      simpa only [List.mem_filterMap, id_eq, exists_eq_right] using hmem
    obtain ⟨entry, hentry, hroute⟩ := exists_of_mem_except_mapM hreads hsome
    cases entry with
    | obj fields =>
        change routeOf start fields = _ at hroute
        unfold routeOf at hroute
        split at hroute
        · rename_i protocol hprotocol
          split_ifs at hroute with hempty hinstalled
          · cases hroute
          · split at hroute
            · rename_i raws hraws
              obtain ⟨hp, hq, hstated⟩ := installedRoute_eq_ok hroute
              refine ⟨prefixes, entries, loadDict_eq_ok hload, by rwa [hp], .obj fields, hentry,
                ⟨fields, rfl, ?_⟩, ⟨fields, rfl, isTrue_iff.1 hinstalled⟩, raws,
                ⟨fields, rfl, hraws⟩, hstated⟩
              rw [hq]
              exact strOf?_eq_some.1 hprotocol
            · cases hroute
          · cases hroute
        · cases hroute
    | _ => cases hroute
  · cases hread

/-! ### The lines of a host -/

/-- **The last link line of an interface states it**, and its addresses are those of its
address lines, in order. -/
def LineStated (lib : Builtins) (linkText addrText : List Char)
    (interface : InterfaceObservation) : Prop :=
  (∃ before line after, writtenLines linkText = before ++ line :: after ∧
    linkLine.match? line = some interface.name ∧
    (∀ later ∈ after, linkLine.match? later ≠ some interface.name) ∧
    StateStated (((findAll (linkState lib) line).head?).map Json.str) interface.operState) ∧
  interface.addresses =
    Dict.withKey interface.name ((writtenLines addrText).filterMap addrLine.match?)

/-- What the link lines leave for a name is the state of its last line. -/
theorem of_foldlM_readLinkLine {lines : List (List Char)}
    {states states' : Dict String InterfaceOperState}
    (h : lines.foldlM (readLinkLine lib) states = .ok states') {name : String}
    {state : InterfaceOperState} (hget : states'.get? name = some state) :
    (∃ before line after, lines = before ++ line :: after ∧ linkLine.match? line = some name ∧
        (∀ later ∈ after, linkLine.match? later ≠ some name) ∧ state = lineState lib line) ∨
      (∀ line ∈ lines, linkLine.match? line ≠ some name) ∧ states.get? name = some state := by
  induction lines generalizing states with
  | nil =>
      cases h
      exact .inr ⟨fun _ hline => absurd hline List.not_mem_nil, hget⟩
  | cons line lines ih =>
      obtain ⟨next, hnext, h⟩ := except_bind_eq_ok.1 h
      unfold readLinkLine at hnext
      split at hnext
      · rename_i name' hmatch
        cases hnext
        rcases ih h with ⟨before, line', after, rfl, hfound⟩ | ⟨hnone, hstate⟩
        · exact .inl ⟨line :: before, line', after, rfl, hfound⟩
        · by_cases hname : name = name'
          · subst hname
            rw [Dict.get?_set_self, Option.some.injEq] at hstate
            exact .inl ⟨[], line, lines, rfl, hmatch, hnone, hstate.symm⟩
          · rw [Dict.get?_set_of_ne _ _ hname] at hstate
            refine .inr ⟨List.forall_mem_cons.2 ⟨?_, hnone⟩, hstate⟩
            rw [hmatch, ne_eq, Option.some.injEq]
            exact Ne.symm hname
      · cases hnext

/-- What the address lines leave for a known name is what it had, and its addresses in order. -/
theorem of_foldlM_readAddrLine {lines : List (List Char)}
    {addresses addresses' : Dict String (List String)}
    (h : lines.foldlM readAddrLine addresses = .ok addresses') {name : String}
    {known : List String} (hget : addresses.get? name = some known) :
    addresses'.get? name =
      some (known ++ Dict.withKey name (lines.filterMap addrLine.match?)) := by
  induction lines generalizing addresses known with
  | nil =>
      cases h
      rw [hget, List.filterMap_nil]
      exact congrArg some (List.append_nil known).symm
  | cons line lines ih =>
      obtain ⟨next, hnext, h⟩ := except_bind_eq_ok.1 h
      unfold readAddrLine at hnext
      split at hnext
      · rename_i name' address hmatch
        split at hnext
        · rename_i known' hknown'
          cases hnext
          rw [List.filterMap_cons_some hmatch]
          by_cases hname : name = name'
          · subst hname
            rw [hget, Option.some.injEq] at hknown'
            rw [ih h (Dict.get?_set_self ..), ← hknown', List.append_assoc]
            simp [Dict.withKey]
          · rw [ih h ((Dict.get?_set_of_ne _ _ hname).trans hget)]
            simp [Dict.withKey, Ne.symm hname]
        · cases hnext
      · cases hnext

theorem get?_noAddresses {states : Dict String InterfaceOperState} {name : String}
    {state : InterfaceOperState} (h : states.get? name = some state) :
    (noAddresses states).get? name = some [] := by
  rw [Dict.get?_eq_some_iff] at h ⊢
  exact List.mem_map.2 ⟨(name, state), h, rfl⟩

/-- The parser's dictionaries, when it returns. -/
theorem parseIpOnelineInterfaces_eq_ok {addrText : List Char}
    {interfaces : List InterfaceObservation}
    (h : parseIpOnelineInterfaces lib text addrText = .ok interfaces) :
    ∃ states addresses, (writtenLines text).foldlM (readLinkLine lib) .empty = .ok states ∧
      (writtenLines addrText).foldlM readAddrLine (noAddresses states) = .ok addresses ∧
      states.entries.mapM (onelineInterface addresses) = .ok interfaces := by
  obtain ⟨states, hstates, h⟩ := except_bind_eq_ok.1 (translate_eq_ok.1 h)
  obtain ⟨-, h⟩ := raiseIf_bind_eq_ok.1 h
  obtain ⟨addresses, haddresses, h⟩ := except_bind_eq_ok.1 h
  exact ⟨states, addresses, hstates, haddresses, h⟩

/-- **The interfaces of a host are distinct**: a line about one that is known overwrites it. -/
theorem parseIpOnelineInterfaces_nodup {addrText : List Char}
    {interfaces : List InterfaceObservation}
    (h : parseIpOnelineInterfaces lib text addrText = .ok interfaces) :
    (interfaces.map (·.name)).Nodup := by
  obtain ⟨states, addresses, -, -, h⟩ := parseIpOnelineInterfaces_eq_ok h
  have hnames : states.entries.map Prod.fst = interfaces.map (·.name) := by
    refine List.forall₂_eq_eq_eq ▸ List.forall₂_map_left_iff.2 (List.forall₂_map_right_iff.2 ?_)
    refine (except_mapM_eq_ok.1 h).imp fun entry interface hread => ?_
    exact (InterfaceObservation.of_new (passOn_eq_ok.1 hread)).1.symm
  rw [← hnames]
  exact states.nodup

theorem parseIpOnelineInterfaces_stated {addrText : List Char}
    {interfaces : List InterfaceObservation}
    (h : parseIpOnelineInterfaces lib text addrText = .ok interfaces) :
    ∀ interface ∈ interfaces, LineStated lib text addrText interface := by
  intro interface hmem
  obtain ⟨states, addresses, hstates, haddresses, h⟩ := parseIpOnelineInterfaces_eq_ok h
  obtain ⟨⟨name, state⟩, hentry, hread⟩ := exists_of_mem_except_mapM h hmem
  obtain ⟨hname, hstate, haddrs⟩ := InterfaceObservation.of_new (passOn_eq_ok.1 hread)
  have hget : states.get? name = some state := Dict.get?_eq_some_iff.2 hentry
  constructor
  · rcases of_foldlM_readLinkLine hstates hget with
      ⟨before, line, after, hlines, hmatch, hlast, heq⟩ | ⟨-, hnone⟩
    · refine ⟨before, line, after, hlines, by rwa [hname], by rwa [hname], ?_⟩
      rw [hstate, heq]
      exact operState_stated _
    · cases hnone
  · rw [haddrs, of_foldlM_readAddrLine haddresses (get?_noAddresses hget), Option.getD_some,
      List.nil_append, hname]

/-! ### Probes -/

/-- **The first summary of a `ping` states the probe**: the counts are its two numbers. -/
def ProbeStated (text : List Char) (probe : ReachabilityObservation) : Prop :=
  ∃ before after sent received : List Char,
    text = before ++ (sent ++ (" packets transmitted, ".toList ++ (received ++
      (" packets received".toList ++ after)))) ∧
    pyInt sent = .ok (probe.sent : ℤ) ∧ pyInt received = .ok (probe.received : ℤ) ∧
    ∀ before' after', text = before' ++ after' → before'.length < before.length →
      pingSummary.match? after' = none

theorem parsePingSummary_stated {counts : ℤ × ℤ} (h : parsePingSummary text = .ok counts)
    {node : String} {probe : ReachabilityObservation} (hprobe : Probes node counts probe) :
    ProbeStated text probe := by
  obtain ⟨⟨sent, received, hsearch, hsent, hreceived⟩, -⟩ := parsePingSummary_eq_ok h
  obtain ⟨before, after, rfl, hmatch, hfirst⟩ := search_eq_some hsearch
  obtain ⟨⟨rest, rfl⟩, -, -⟩ := of_match?_pingSummary hmatch
  rw [← hprobe.sent] at hsent
  rw [← hprobe.received] at hreceived
  exact ⟨before, rest, sent.toList, received.toList, rfl, hsent, hreceived, hfirst⟩

end ContainerlabFrr
end MetaRne
