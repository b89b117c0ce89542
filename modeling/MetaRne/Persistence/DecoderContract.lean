/-
# What the decoders promise

`persistence/serialization.py` promises that a decoder returns a domain value or
raises `SerializationError`.  Two things break it.  A value that is read and not
checked is accepted whatever its type; and a constructor that raises `ValueError`,
or `float()` its `OverflowError`, is not caught where the handler does not name
the exception.

`decoders_keep_contract_iff` says of every JSON value whether each decoder keeps
its promise there: by what the value looks like from outside.
-/

import MetaRne.Persistence.Serialization

namespace MetaRne

open Library.Effect Python

/-! ### The promise -/

/-- **The contract of a decoder**: a domain value, or `SerializationError`. -/
def KeepsContract {α β : Type} (of : α → β) (result : Except Error β) : Prop :=
  (∃ a, result = .ok (of a)) ∨ ∃ message values, result = .error (.serialization message values)

/-- What was decoded is a domain value, if that is asked for. -/
def Fits {α β : Type} (of : α → β) (typed : Bool) (b : β) : Prop := typed = true → ∃ a, of a = b

/-- A value of a kind, if that is asked for. -/
def Plain (typed : Bool) (kind : Json → Prop) (j : Json) : Prop := typed = true → kind j

/-- A decoder returns for the JSON of the untyped kind, and returns a domain value for
that of the typed one. -/
def Decodes {α β : Type} (decode : Json → Except Error β) (of : α → β)
    (kind : Bool → Json → Prop) : Prop :=
  ∀ typed j, (∃ b, decode j = .ok b ∧ Fits of typed b) ↔ kind typed j

theorem isSerializationError_iff {e : Error} :
    IsSerializationError e ↔ ∃ message values, e = .serialization message values := by
  constructor
  · intro h
    cases e with
    | serialization message values => exact ⟨message, values, rfl⟩
    | _ => exact h.elim
  · rintro ⟨message, values, rfl⟩
    trivial

/-- **When a decoder keeps its contract**: no other exception escapes, and what it
accepts is well typed. -/
theorem Decodes.keepsContract_iff {α β : Type} {decode : Json → Except Error β} {of : α → β}
    {kind : Bool → Json → Prop} (h : Decodes decode of kind) (j : Json) :
    KeepsContract of (decode j) ↔
      ¬ RaisesOutside IsSerializationError (decode j) ∧ (kind false j → kind true j) := by
  rw [← h false j, ← h true j]
  cases hdecode : decode j with
  | ok b =>
      have hnone : ¬ RaisesOutside IsSerializationError (.ok b : Except Error β) :=
        (raisesOnly_ok b).not_outside
      constructor
      · rintro (⟨a, ha⟩ | ⟨message, values, herror⟩)
        · exact ⟨hnone, fun _ => ⟨b, rfl, fun _ => ⟨a, (Except.ok.inj ha).symm⟩⟩⟩
        · cases herror
      · rintro ⟨-, htyped⟩
        have huntyped : Fits of false b := fun hfalse => by cases hfalse
        obtain ⟨b', hb, hfits⟩ := htyped ⟨b, rfl, huntyped⟩
        obtain ⟨a, rfl⟩ := hfits rfl
        exact .inl ⟨a, hb⟩
  | error e =>
      have hkind : ∀ typed, ¬ ∃ b, (.error e : Except Error β) = .ok b ∧ Fits of typed b := by
        rintro typed ⟨b, hb, -⟩
        cases hb
      have houtside : RaisesOutside IsSerializationError (.error e : Except Error β) ↔
          ¬ IsSerializationError e := by
        constructor
        · rintro ⟨e', he, hnot⟩
          cases he
          exact hnot
        · exact fun hnot => ⟨e, rfl, hnot⟩
      rw [houtside, not_not, isSerializationError_iff]
      constructor
      · rintro (⟨a, ha⟩ | ⟨message, values, herror⟩)
        · cases ha
        · exact ⟨⟨message, values, Except.error.inj herror⟩, fun h => absurd h (hkind false)⟩
      · rintro ⟨⟨message, values, rfl⟩, -⟩
        exact .inr ⟨message, values, rfl⟩

/-- A decoder of arrays, put together from that of their elements. -/
theorem Decodes.mapM {α β : Type} {decode : Json → Except Error β} {of : α → β}
    {kind : Bool → Json → Prop} (h : Decodes decode of kind) (typed : Bool) (items : List Json) :
    (∃ bs, items.mapM decode = .ok bs ∧ Fits (List.map of) typed bs) ↔
      ∀ item ∈ items, kind typed item := by
  induction items with
  | nil =>
      refine iff_of_true ⟨[], rfl, fun _ => ⟨[], rfl⟩⟩ fun item hitem => ?_
      exact absurd hitem List.not_mem_nil
  | cons item items ih =>
      rw [List.forall_mem_cons, ← h typed item, ← ih]
      constructor
      · rintro ⟨bs, hbs, hfits⟩
        obtain ⟨b, bs, hb, hrest, rfl⟩ := List.forall₂_cons_left_iff.1 (except_mapM_eq_ok.1 hbs)
        refine ⟨⟨b, hb, fun htyped => ?_⟩, bs, except_mapM_eq_ok.2 hrest, fun htyped => ?_⟩
        · obtain ⟨as, has⟩ := hfits htyped
          obtain ⟨a, -, -, ha, -⟩ := List.map_eq_cons_iff.1 has
          exact ⟨a, ha⟩
        · obtain ⟨as, has⟩ := hfits htyped
          obtain ⟨-, as, -, -, has⟩ := List.map_eq_cons_iff.1 has
          exact ⟨as, has⟩
      · rintro ⟨⟨b, hb, hfits⟩, bs, hbs, hfits'⟩
        refine ⟨b :: bs, except_mapM_eq_ok.2 (.cons hb (except_mapM_eq_ok.1 hbs)), fun htyped => ?_⟩
        obtain ⟨a, rfl⟩ := hfits htyped
        obtain ⟨as, rfl⟩ := hfits' htyped
        exact ⟨a :: as, rfl⟩

theorem orNull_isString_iff {j : Json} : OrNull IsString j ↔ ∃ o, j = Json.ofOption .str o := by
  constructor
  · rintro (rfl | ⟨s, rfl⟩)
    · exact ⟨none, rfl⟩
    · exact ⟨some s, rfl⟩
  · rintro ⟨_ | s, rfl⟩
    · exact .inl rfl
    · exact .inr ⟨s, rfl⟩

theorem orNull_isInt_iff {j : Json} : OrNull IsInt j ↔ ∃ o, j = Json.ofOption .int o := by
  constructor
  · rintro (rfl | ⟨n, rfl⟩)
    · exact ⟨none, rfl⟩
    · exact ⟨some n, rfl⟩
  · rintro ⟨_ | n, rfl⟩
    · exact .inl rfl
    · exact .inr ⟨n, rfl⟩

theorem fits_false {α β : Type} {of : α → β} {b : β} : Fits of false b := fun h => by cases h

theorem plain_false {kind : Json → Prop} {j : Json} : Plain false kind j := fun h => by cases h

theorem fits_true {α β : Type} {of : α → β} {b : β} : Fits of true b ↔ ∃ a, of a = b :=
  ⟨fun h => h rfl, fun h _ => h⟩

theorem plain_true {kind : Json → Prop} {j : Json} : Plain true kind j ↔ kind j :=
  ⟨fun h => h rfl, fun h _ => h⟩

theorem isSerializationError_malformed {what : String} (e : Error) :
    IsSerializationError (malformed what e) ↔ IsCaught e := by
  cases e <;> exact Iff.rfl

/-- A handler leaves nothing but `SerializationError` of what it names. -/
theorem raisesOnly_malformed {α : Type} {x : Except Error α} {what : String}
    (h : RaisesOnly IsCaught x) : RaisesOnly IsSerializationError (translate (malformed what) x) :=
  h.translate fun e he => (isSerializationError_malformed e).2 he

/-! ### Configurations -/

def IsInterface (typed : Bool) (j : Json) : Prop :=
  HasField "name" (Plain typed IsString) j ∧
    HasField "description" (Plain typed (OrNull IsString)) j ∧
    HasField "ip_address" (Plain typed (OrNull IsString)) j ∧
    HasField "mtu" (Plain typed (OrNull IsInt)) j ∧
    HasField "admin_state" (IsWord (StrEnum.words AdminState)) j ∧
    HasField "acl_in" (Plain typed (OrNull IsString)) j ∧
    HasField "acl_out" (Plain typed (OrNull IsString)) j

theorem fits_interface {typed : Bool} {raw : Stored.Interface} :
    Fits Stored.Interface.of typed raw ↔
      Plain typed IsString raw.name ∧ Plain typed (OrNull IsString) raw.description ∧
        Plain typed (OrNull IsString) raw.ipAddress ∧ Plain typed (OrNull IsInt) raw.mtu ∧
        Plain typed (OrNull IsString) raw.aclIn ∧ Plain typed (OrNull IsString) raw.aclOut := by
  cases typed with
  | false => simp only [fits_false, plain_false, and_self]
  | true =>
      simp only [fits_true, plain_true, orNull_isString_iff, orNull_isInt_iff]
      constructor
      · rintro ⟨interface, rfl⟩
        exact ⟨⟨_, rfl⟩, ⟨_, rfl⟩, ⟨_, rfl⟩, ⟨_, rfl⟩, ⟨_, rfl⟩, ⟨_, rfl⟩⟩
      · obtain ⟨_, _, _, _, adminState, _, _⟩ := raw
        rintro ⟨⟨name, rfl⟩, ⟨description, rfl⟩, ⟨ipAddress, rfl⟩, ⟨mtu, rfl⟩, ⟨aclIn, rfl⟩,
          ⟨aclOut, rfl⟩⟩
        exact ⟨⟨name, description, ipAddress, mtu, adminState, aclIn, aclOut⟩, rfl⟩

theorem decodes_interfaceFromJson :
    Decodes interfaceFromJson Stored.Interface.of IsInterface := by
  intro typed j
  simp only [interfaceFromJson, except_bind_eq_ok, getKey_eq_ok, enumMember_eq_ok, fits_interface,
    IsInterface, HasField, isWord_iff]
  constructor
  · rintro ⟨raw, ⟨name, hname, description, hdescription, ipAddress, hipAddress, mtu, hmtu, word,
      hword, adminState, hstate, aclIn, haclIn, aclOut, haclOut, hraw⟩, hfits⟩
    cases hraw
    exact ⟨⟨_, hname, hfits.1⟩, ⟨_, hdescription, hfits.2.1⟩, ⟨_, hipAddress, hfits.2.2.1⟩,
      ⟨_, hmtu, hfits.2.2.2.1⟩, ⟨_, hword, _, hstate⟩, ⟨_, haclIn, hfits.2.2.2.2.1⟩,
      ⟨_, haclOut, hfits.2.2.2.2.2⟩⟩
  · rintro ⟨⟨name, hname, hn⟩, ⟨description, hdescription, hd⟩, ⟨ipAddress, hipAddress, hi⟩,
      ⟨mtu, hmtu, hm⟩, ⟨word, hword, adminState, hstate⟩, ⟨aclIn, haclIn, hain⟩,
      ⟨aclOut, haclOut, haout⟩⟩
    exact ⟨⟨name, description, ipAddress, mtu, adminState, aclIn, aclOut⟩,
      ⟨_, hname, _, hdescription, _, hipAddress, _, hmtu, _, hword, _, hstate, _, haclIn, _,
        haclOut, rfl⟩, hn, hd, hi, hm, hain, haout⟩

def IsBgpNeighbor (typed : Bool) (j : Json) : Prop :=
  HasField "neighbor_ip" (Plain typed IsString) j ∧ HasField "remote_as" (Plain typed IsInt) j

theorem fits_bgpNeighbor {typed : Bool} {raw : Stored.BgpNeighbor} :
    Fits Stored.BgpNeighbor.of typed raw ↔
      Plain typed IsString raw.neighborIp ∧ Plain typed IsInt raw.remoteAs := by
  cases typed with
  | false => simp only [fits_false, plain_false, and_self]
  | true =>
      simp only [fits_true, plain_true]
      constructor
      · rintro ⟨neighbor, rfl⟩
        exact ⟨⟨_, rfl⟩, ⟨_, rfl⟩⟩
      · obtain ⟨_, _⟩ := raw
        rintro ⟨⟨neighborIp, rfl⟩, ⟨remoteAs, rfl⟩⟩
        exact ⟨⟨neighborIp, remoteAs⟩, rfl⟩

theorem decodes_bgpNeighborFromJson :
    Decodes bgpNeighborFromJson Stored.BgpNeighbor.of IsBgpNeighbor := by
  intro typed j
  simp only [bgpNeighborFromJson, except_bind_eq_ok, getKey_eq_ok, fits_bgpNeighbor, IsBgpNeighbor,
    HasField]
  constructor
  · rintro ⟨raw, ⟨neighborIp, hip, remoteAs, has, hraw⟩, hfits⟩
    cases hraw
    exact ⟨⟨_, hip, hfits.1⟩, ⟨_, has, hfits.2⟩⟩
  · rintro ⟨⟨neighborIp, hip, hi⟩, ⟨remoteAs, has, ha⟩⟩
    exact ⟨⟨neighborIp, remoteAs⟩, ⟨_, hip, _, has, rfl⟩, hi, ha⟩

def IsAclEntry (typed : Bool) (j : Json) : Prop :=
  HasField "sequence" (Plain typed IsInt) j ∧
    HasField "action" (IsWord (StrEnum.words AclAction)) j ∧
    HasField "protocol" (Plain typed IsString) j ∧
    HasField "source" (Plain typed IsString) j ∧
    HasField "destination" (Plain typed IsString) j

theorem fits_aclEntry {typed : Bool} {raw : Stored.AclEntry} :
    Fits Stored.AclEntry.of typed raw ↔
      Plain typed IsInt raw.sequence ∧ Plain typed IsString raw.protocol ∧
        Plain typed IsString raw.source ∧ Plain typed IsString raw.destination := by
  cases typed with
  | false => simp only [fits_false, plain_false, and_self]
  | true =>
      simp only [fits_true, plain_true]
      constructor
      · rintro ⟨entry, rfl⟩
        exact ⟨⟨_, rfl⟩, ⟨_, rfl⟩, ⟨_, rfl⟩, ⟨_, rfl⟩⟩
      · obtain ⟨_, action, _, _, _⟩ := raw
        rintro ⟨⟨sequence, rfl⟩, ⟨protocol, rfl⟩, ⟨source, rfl⟩, ⟨destination, rfl⟩⟩
        exact ⟨⟨sequence, action, protocol, source, destination⟩, rfl⟩

theorem decodes_aclEntryFromJson :
    Decodes aclEntryFromJson Stored.AclEntry.of IsAclEntry := by
  intro typed j
  simp only [aclEntryFromJson, except_bind_eq_ok, getKey_eq_ok, enumMember_eq_ok, fits_aclEntry,
    IsAclEntry, HasField, isWord_iff]
  constructor
  · rintro ⟨raw, ⟨sequence, hsequence, word, hword, action, haction, protocol, hprotocol, source,
      hsource, destination, hdestination, hraw⟩, hfits⟩
    cases hraw
    exact ⟨⟨_, hsequence, hfits.1⟩, ⟨_, hword, _, haction⟩, ⟨_, hprotocol, hfits.2.1⟩,
      ⟨_, hsource, hfits.2.2.1⟩, ⟨_, hdestination, hfits.2.2.2⟩⟩
  · rintro ⟨⟨sequence, hsequence, hs⟩, ⟨word, hword, action, haction⟩, ⟨protocol, hprotocol, hp⟩,
      ⟨source, hsource, hs'⟩, ⟨destination, hdestination, hd⟩⟩
    exact ⟨⟨sequence, action, protocol, source, destination⟩,
      ⟨_, hsequence, _, hword, _, haction, _, hprotocol, _, hsource, _, hdestination, rfl⟩,
      hs, hp, hs', hd⟩

def IsAcl (typed : Bool) (j : Json) : Prop :=
  HasField "name" (Plain typed IsString) j ∧ HasField "entries" (ArrayOf (IsAclEntry typed)) j

theorem fits_acl {typed : Bool} {raw : Stored.Acl} :
    Fits Stored.Acl.of typed raw ↔
      Plain typed IsString raw.name ∧ Fits (List.map Stored.AclEntry.of) typed raw.entries := by
  cases typed with
  | false => simp only [fits_false, plain_false, and_self]
  | true =>
      simp only [fits_true, plain_true]
      constructor
      · rintro ⟨acl, rfl⟩
        exact ⟨⟨_, rfl⟩, ⟨_, rfl⟩⟩
      · obtain ⟨_, _⟩ := raw
        rintro ⟨⟨name, rfl⟩, ⟨entries, rfl⟩⟩
        exact ⟨⟨name, entries⟩, rfl⟩

/-- An array under a key, decoded element by element. -/
theorem Decodes.array {α β : Type} {decode : Json → Except Error β} {of : α → β}
    {kind : Bool → Json → Prop} (h : Decodes decode of kind) {typed : Bool} {value : Json} :
    (∃ items, value = .arr items ∧ ∃ bs, items.mapM decode = .ok bs ∧ Fits (List.map of) typed bs) ↔
      ArrayOf (kind typed) value := by
  simp only [h.mapM typed, ArrayOf]

theorem decodes_aclFromJson : Decodes aclFromJson Stored.Acl.of IsAcl := by
  intro typed j
  simp only [aclFromJson, except_bind_eq_ok, getKey_eq_ok, requireList_eq_ok, fits_acl, IsAcl,
    HasField, ← decodes_aclEntryFromJson.array]
  constructor
  · rintro ⟨raw, ⟨name, hname, value, hvalue, items, hitems, entries, hentries, hraw⟩, hfits⟩
    cases hraw
    exact ⟨⟨_, hname, hfits.1⟩, ⟨_, hvalue, _, hitems, _, hentries, hfits.2⟩⟩
  · rintro ⟨⟨name, hname, hn⟩, ⟨value, hvalue, items, hitems, entries, hentries, he⟩⟩
    exact ⟨⟨name, entries⟩, ⟨_, hname, _, hvalue, _, hitems, _, hentries, rfl⟩, hn, he⟩

def IsConfiguration (typed : Bool) (j : Json) : Prop :=
  HasField "interfaces" (ArrayOf (IsInterface typed)) j ∧
    HasField "routing" (HasField "bgp_neighbors" (ArrayOf (IsBgpNeighbor typed))) j ∧
    HasField "acls" (ArrayOf (IsAcl typed)) j ∧
    HasField "hostname" (Plain typed IsString) j

theorem fits_configuration {typed : Bool} {raw : Stored.Configuration} :
    Fits Stored.Configuration.of typed raw ↔
      Plain typed IsString raw.hostname ∧
        Fits (List.map Stored.Interface.of) typed raw.interfaces ∧
        Fits (List.map Stored.BgpNeighbor.of) typed raw.bgpNeighbors ∧
        Fits (List.map Stored.Acl.of) typed raw.acls := by
  cases typed with
  | false => simp only [fits_false, plain_false, and_self]
  | true =>
      simp only [fits_true, plain_true]
      constructor
      · rintro ⟨config, rfl⟩
        exact ⟨⟨_, rfl⟩, ⟨_, rfl⟩, ⟨_, rfl⟩, ⟨_, rfl⟩⟩
      · obtain ⟨_, _, _, _⟩ := raw
        rintro ⟨⟨hostname, rfl⟩, ⟨interfaces, rfl⟩, ⟨bgpNeighbors, rfl⟩, ⟨acls, rfl⟩⟩
        exact ⟨⟨hostname, interfaces, ⟨bgpNeighbors⟩, acls⟩, rfl⟩

/-- An object that is asked for as one is an object. -/
theorem HasKey.exists_fields {j value : Json} {key : String} (h : HasKey j key value) :
    ∃ fields, j = .obj fields := by
  obtain ⟨fields, rfl, -⟩ := h
  exact ⟨fields, rfl⟩

theorem decodes_normalizedConfigFromJson :
    Decodes normalizedConfigFromJson Stored.Configuration.of IsConfiguration := by
  intro typed j
  simp only [normalizedConfigFromJson, configurationFromJson, except_bind_eq_ok, translate_eq_ok,
    requireDict_eq_ok, getKey_eq_ok, requireList_eq_ok, fits_configuration, IsConfiguration,
    HasField, ← decodes_interfaceFromJson.array, ← decodes_bgpNeighborFromJson.array,
    ← decodes_aclFromJson.array]
  constructor
  · rintro ⟨raw, ⟨_, ⟨-, rfl⟩, interfaces, hinterfaces, items, hitems, is, his, routing, hrouting,
      _, ⟨-, rfl⟩, neighbors, hneighbors, nitems, hnitems, ns, hns, acls, hacls, aitems, haitems,
      as, has, hostname, hhostname, hraw⟩, hfits⟩
    cases hraw
    exact ⟨⟨_, hinterfaces, _, hitems, _, his, hfits.2.1⟩,
      ⟨_, hrouting, _, hneighbors, _, hnitems, _, hns, hfits.2.2.1⟩,
      ⟨_, hacls, _, haitems, _, has, hfits.2.2.2⟩, ⟨_, hhostname, hfits.1⟩⟩
  · rintro ⟨⟨interfaces, hinterfaces, items, hitems, is, his, hi⟩,
      ⟨routing, hrouting, neighbors, hneighbors, nitems, hnitems, ns, hns, hn⟩,
      ⟨acls, hacls, aitems, haitems, as, has, ha⟩, ⟨hostname, hhostname, hh⟩⟩
    exact ⟨⟨hostname, is, ns, as⟩, ⟨_, ⟨HasKey.exists_fields hhostname, rfl⟩, _, hinterfaces, _,
      hitems, _, his, _, hrouting, _, ⟨HasKey.exists_fields hneighbors, rfl⟩, _, hneighbors, _,
      hnitems, _, hns, _, hacls, _, haitems, _, has, _, hhostname, rfl⟩, hh, hi, hn, ha⟩

theorem interfaceFromJson_raises (j : Json) : RaisesOnly IsCaught (interfaceFromJson j) := by
  refine getKey_raises.bind fun _ => getKey_raises.bind fun _ => getKey_raises.bind fun _ => ?_
  refine getKey_raises.bind fun _ => getKey_raises.bind fun _ => ?_
  refine (enumMember_caught _).bind fun _ => getKey_raises.bind fun _ => ?_
  exact getKey_raises.bind fun _ => raisesOnly_pure _

theorem bgpNeighborFromJson_raises (j : Json) : RaisesOnly IsCaught (bgpNeighborFromJson j) :=
  getKey_raises.bind fun _ => getKey_raises.bind fun _ => raisesOnly_pure _

theorem aclEntryFromJson_raises (j : Json) : RaisesOnly IsCaught (aclEntryFromJson j) := by
  refine getKey_raises.bind fun _ => getKey_raises.bind fun _ => ?_
  refine (enumMember_caught _).bind fun _ => getKey_raises.bind fun _ => ?_
  exact getKey_raises.bind fun _ => getKey_raises.bind fun _ => raisesOnly_pure _

theorem aclFromJson_raises (j : Json) : RaisesOnly IsCaught (aclFromJson j) := by
  refine getKey_raises.bind fun _ => getKey_raises.bind fun _ => ?_
  refine requireList_caught.bind fun _ => ?_
  exact (RaisesOnly.mapM fun entry _ => aclEntryFromJson_raises entry).bind
    fun _ => raisesOnly_pure _

/-- Reading a configuration raises nothing but `SerializationError`. -/
theorem normalizedConfigFromJson_raises (j : Json) :
    RaisesOnly IsSerializationError (normalizedConfigFromJson j) := by
  refine requireDict_raises.bind fun data => raisesOnly_malformed ?_
  refine getKey_raises.bind fun _ => requireList_caught.bind fun _ => ?_
  refine (RaisesOnly.mapM fun item _ => interfaceFromJson_raises item).bind fun _ => ?_
  refine getKey_raises.bind fun _ => requireDict_caught.bind fun _ => ?_
  refine getKey_raises.bind fun _ => requireList_caught.bind fun _ => ?_
  refine (RaisesOnly.mapM fun item _ => bgpNeighborFromJson_raises item).bind fun _ => ?_
  refine getKey_raises.bind fun _ => requireList_caught.bind fun _ => ?_
  refine (RaisesOnly.mapM fun item _ => aclFromJson_raises item).bind fun _ => ?_
  exact getKey_raises.bind fun _ => raisesOnly_pure _

/-! ### Telemetry -/

def IsInterfaceState (typed : Bool) (j : Json) : Prop :=
  HasField "name" (Plain typed IsString) j ∧
    HasField "oper_state" (IsWord (StrEnum.words LinkState)) j

theorem fits_interfaceState {typed : Bool} {raw : Stored.InterfaceState} :
    Fits Stored.InterfaceState.of typed raw ↔ Plain typed IsString raw.name := by
  cases typed with
  | false => simp only [fits_false, plain_false]
  | true =>
      simp only [fits_true, plain_true]
      constructor
      · rintro ⟨state, rfl⟩
        exact ⟨_, rfl⟩
      · obtain ⟨_, operState⟩ := raw
        rintro ⟨name, rfl⟩
        exact ⟨⟨name, operState⟩, rfl⟩

theorem decodes_interfaceStateFromJson :
    Decodes interfaceStateFromJson Stored.InterfaceState.of IsInterfaceState := by
  intro typed j
  simp only [interfaceStateFromJson, except_bind_eq_ok, requireDict_eq_ok, getKey_eq_ok,
    enumMember_eq_ok, fits_interfaceState, IsInterfaceState, HasField, isWord_iff]
  constructor
  · rintro ⟨raw, ⟨_, ⟨-, rfl⟩, name, hname, word, hword, operState, hstate, hraw⟩, hfits⟩
    cases hraw
    exact ⟨⟨_, hname, hfits⟩, ⟨_, hword, _, hstate⟩⟩
  · rintro ⟨⟨name, hname, hn⟩, ⟨word, hword, operState, hstate⟩⟩
    exact ⟨⟨name, operState⟩, ⟨_, ⟨HasKey.exists_fields hname, rfl⟩, _, hname, _, hword, _, hstate,
      rfl⟩, hn⟩

def IsBgpSession (typed : Bool) (j : Json) : Prop :=
  HasField "neighbor_ip" (Plain typed IsString) j ∧
    HasField "state" (IsWord (StrEnum.words BgpState)) j

theorem fits_bgpSession {typed : Bool} {raw : Stored.BgpSession} :
    Fits Stored.BgpSession.of typed raw ↔ Plain typed IsString raw.neighborIp := by
  cases typed with
  | false => simp only [fits_false, plain_false]
  | true =>
      simp only [fits_true, plain_true]
      constructor
      · rintro ⟨session, rfl⟩
        exact ⟨_, rfl⟩
      · obtain ⟨_, state⟩ := raw
        rintro ⟨neighborIp, rfl⟩
        exact ⟨⟨neighborIp, state⟩, rfl⟩

theorem decodes_bgpSessionFromJson :
    Decodes bgpSessionFromJson Stored.BgpSession.of IsBgpSession := by
  intro typed j
  simp only [bgpSessionFromJson, except_bind_eq_ok, requireDict_eq_ok, getKey_eq_ok,
    enumMember_eq_ok, fits_bgpSession, IsBgpSession, HasField, isWord_iff]
  constructor
  · rintro ⟨raw, ⟨_, ⟨-, rfl⟩, neighborIp, hip, word, hword, state, hstate, hraw⟩, hfits⟩
    cases hraw
    exact ⟨⟨_, hip, hfits⟩, ⟨_, hword, _, hstate⟩⟩
  · rintro ⟨⟨neighborIp, hip, hn⟩, ⟨word, hword, state, hstate⟩⟩
    exact ⟨⟨neighborIp, state⟩, ⟨_, ⟨HasKey.exists_fields hip, rfl⟩, _, hip, _, hword, _, hstate,
      rfl⟩, hn⟩

theorem decodes_interfaceStatesFromJson :
    Decodes interfaceStatesFromJson (List.map Stored.InterfaceState.of)
      fun typed => ArrayOf (IsInterfaceState typed) := by
  intro typed j
  simp only [interfaceStatesFromJson, except_bind_eq_ok, requireList_eq_ok, translate_eq_ok,
    ← decodes_interfaceStateFromJson.array]
  constructor
  · rintro ⟨states, ⟨items, hitems, hstates⟩, hfits⟩
    exact ⟨items, hitems, states, hstates, hfits⟩
  · rintro ⟨items, hitems, states, hstates, hfits⟩
    exact ⟨states, ⟨items, hitems, hstates⟩, hfits⟩

theorem decodes_bgpSessionsFromJson :
    Decodes bgpSessionsFromJson (List.map Stored.BgpSession.of)
      fun typed => ArrayOf (IsBgpSession typed) := by
  intro typed j
  simp only [bgpSessionsFromJson, except_bind_eq_ok, requireList_eq_ok, translate_eq_ok,
    ← decodes_bgpSessionFromJson.array]
  constructor
  · rintro ⟨sessions, ⟨items, hitems, hsessions⟩, hfits⟩
    exact ⟨items, hitems, sessions, hsessions, hfits⟩
  · rintro ⟨items, hitems, sessions, hsessions, hfits⟩
    exact ⟨sessions, ⟨items, hitems, hsessions⟩, hfits⟩

theorem interfaceStatesFromJson_raises (j : Json) :
    RaisesOnly IsSerializationError (interfaceStatesFromJson j) := by
  refine requireList_raises.bind fun items => raisesOnly_malformed (RaisesOnly.mapM fun item _ => ?_)
  refine requireDict_caught.bind fun _ => getKey_raises.bind fun _ => getKey_raises.bind fun _ => ?_
  exact (enumMember_caught _).bind fun _ => raisesOnly_pure _

theorem bgpSessionsFromJson_raises (j : Json) :
    RaisesOnly IsSerializationError (bgpSessionsFromJson j) := by
  refine requireList_raises.bind fun items => raisesOnly_malformed (RaisesOnly.mapM fun item _ => ?_)
  refine requireDict_caught.bind fun _ => getKey_raises.bind fun _ => getKey_raises.bind fun _ => ?_
  exact (enumMember_caught _).bind fun _ => raisesOnly_pure _

/-! ### Rules -/

/-- A string that is not blank. -/
def IsName (j : Json) : Prop := ∃ s, j = .str s ∧ isBlank s = false

/-- A blank string. -/
def IsBlankString (j : Json) : Prop := ∃ s, j = .str s ∧ isBlank s = true

theorem requireNonEmptyValue_isOk {value : Json} {fieldName : String} :
    (∃ s, requireNonEmptyValue value fieldName = .ok s) ↔ IsName value := by
  constructor
  · rintro ⟨⟨s, hs⟩, h⟩
    cases value with
    | str s' =>
        by_cases hblank : isBlank s' = true
        · rw [requireNonEmptyValue_blank hblank] at h
          cases h
        · exact ⟨s', rfl, Bool.eq_false_iff.2 hblank⟩
    | _ => cases h
  · rintro ⟨s, rfl, hs⟩
    exact ⟨⟨s, hs⟩, requireNonEmptyValue_str hs⟩

/-- The check of a name lets a `ValueError` out for blank strings alone. -/
theorem outside_requireNonEmptyValue {value : Json} {fieldName : String} :
    RaisesOutside IsCaught (requireNonEmptyValue value fieldName) ↔ IsBlankString value := by
  constructor
  · rintro ⟨e, h, hnot⟩
    cases value with
    | str s =>
        by_cases hblank : isBlank s = true
        · exact ⟨s, rfl, hblank⟩
        · rw [requireNonEmptyValue_str (Bool.eq_false_iff.2 hblank)] at h
          cases h
    | _ =>
        cases h
        exact absurd trivial hnot
  · rintro ⟨s, rfl, hblank⟩
    exact ⟨_, requireNonEmptyValue_blank hblank, id⟩

/-- A required rule. -/
def IsRule (j : Json) : Prop :=
  HasField "acl_name" IsName j ∧ HasField "interface_name" IsName j ∧
    HasField "direction" (IsWord (StrEnum.words AclDirection)) j ∧
    HasField "severity" (IsWord (StrEnum.words Severity)) j ∧
    HasField "recommendation" IsName j

/-- A rule but for its names: the first of them that is no name is a blank string. -/
def IsBlankRule (j : Json) : Prop :=
  HasField "direction" (IsWord (StrEnum.words AclDirection)) j ∧
    HasField "severity" (IsWord (StrEnum.words Severity)) j ∧
    ∃ aclName interfaceName recommendation, HasKey j "acl_name" aclName ∧
      HasKey j "interface_name" interfaceName ∧ HasKey j "recommendation" recommendation ∧
      (IsBlankString aclName ∨ IsName aclName ∧
        (IsBlankString interfaceName ∨ IsName interfaceName ∧ IsBlankString recommendation))

theorem newRequiredAclRule_isOk {aclName interfaceName recommendation : Json}
    {direction : AclDirection} {severity : Severity} :
    (∃ rule, newRequiredAclRule aclName interfaceName direction severity recommendation =
      .ok rule) ↔ IsName aclName ∧ IsName interfaceName ∧ IsName recommendation := by
  simp only [newRequiredAclRule, except_bind_eq_ok]
  constructor
  · rintro ⟨rule, acl, hacl, interface, hinterface, rec, hrec, -⟩
    exact ⟨requireNonEmptyValue_isOk.1 ⟨acl, hacl⟩, requireNonEmptyValue_isOk.1 ⟨_, hinterface⟩,
      requireNonEmptyValue_isOk.1 ⟨rec, hrec⟩⟩
  · rintro ⟨hacl, hinterface, hrec⟩
    obtain ⟨acl, hacl⟩ := requireNonEmptyValue_isOk.2 hacl
    obtain ⟨interface, hinterface⟩ := requireNonEmptyValue_isOk.2 hinterface
    obtain ⟨rec, hrec⟩ := requireNonEmptyValue_isOk.2 hrec
    exact ⟨_, acl, hacl, interface, hinterface, rec, hrec, rfl⟩

theorem outside_newRequiredAclRule {aclName interfaceName recommendation : Json}
    {direction : AclDirection} {severity : Severity} :
    RaisesOutside IsCaught
        (newRequiredAclRule aclName interfaceName direction severity recommendation) ↔
      IsBlankString aclName ∨ IsName aclName ∧
        (IsBlankString interfaceName ∨ IsName interfaceName ∧ IsBlankString recommendation) := by
  have hdone : ∀ rule : RequiredAclRule, ¬ RaisesOutside IsCaught (.ok rule : Except Error _) :=
    fun rule => not_outside_ok rule
  simp only [newRequiredAclRule, outside_bind, outside_requireNonEmptyValue, exists_and_right,
    requireNonEmptyValue_isOk, pure, Except.pure, hdone, and_false, exists_false, or_false]

theorem requiredAclRuleFromJson_isOk {j : Json} :
    (∃ rule, requiredAclRuleFromJson j = .ok rule) ↔ IsRule j := by
  simp only [requiredAclRuleFromJson, except_bind_eq_ok, requireDict_eq_ok, getKey_eq_ok,
    enumMember_eq_ok, IsRule, HasField, isWord_iff]
  constructor
  · rintro ⟨rule, _, ⟨-, rfl⟩, acl, hacl, interface, hinterface, word, hword, direction, hdirection,
      word', hword', severity, hseverity, rec, hrec, hrule⟩
    obtain ⟨hacl', hinterface', hrec'⟩ := newRequiredAclRule_isOk.1 ⟨rule, hrule⟩
    exact ⟨⟨_, hacl, hacl'⟩, ⟨_, hinterface, hinterface'⟩, ⟨_, hword, _, hdirection⟩,
      ⟨_, hword', _, hseverity⟩, ⟨_, hrec, hrec'⟩⟩
  · rintro ⟨⟨acl, hacl, hacl'⟩, ⟨interface, hinterface, hinterface'⟩,
      ⟨word, hword, direction, hdirection⟩, ⟨word', hword', severity, hseverity⟩,
      ⟨rec, hrec, hrec'⟩⟩
    have hbuilt : ∃ rule, newRequiredAclRule acl interface direction severity rec = .ok rule :=
      newRequiredAclRule_isOk.2 ⟨hacl', hinterface', hrec'⟩
    obtain ⟨rule, hrule⟩ := hbuilt
    exact ⟨rule, _, ⟨HasKey.exists_fields hacl, rfl⟩, _, hacl, _, hinterface, _, hword, _,
      hdirection, _, hword', _, hseverity, _, hrec, hrule⟩

theorem outside_requiredAclRuleFromJson {j : Json} :
    RaisesOutside IsCaught (requiredAclRuleFromJson j) ↔ IsBlankRule j := by
  simp only [requiredAclRuleFromJson, requireDict_caught.outside_bind, getKey_raises.outside_bind,
    (enumMember_caught _).outside_bind, requireDict_eq_ok, getKey_eq_ok, enumMember_eq_ok,
    outside_newRequiredAclRule, IsBlankRule, HasField, isWord_iff]
  constructor
  · rintro ⟨_, ⟨-, rfl⟩, acl, hacl, interface, hinterface, word, hword, direction, hdirection,
      word', hword', severity, hseverity, rec, hrec, hblank⟩
    exact ⟨⟨_, hword, _, hdirection⟩, ⟨_, hword', _, hseverity⟩, acl, interface, rec, hacl,
      hinterface, hrec, hblank⟩
  · rintro ⟨⟨word, hword, direction, hdirection⟩, ⟨word', hword', severity, hseverity⟩, acl,
      interface, rec, hacl, hinterface, hrec, hblank⟩
    exact ⟨_, ⟨HasKey.exists_fields hacl, rfl⟩, _, hacl, _, hinterface, _, hword, _, hdirection, _,
      hword', _, hseverity, _, hrec, hblank⟩

/-- Array decoders of elements that are built as domain values. -/
theorem mapM_isOk_iff {β : Type} {decode : Json → Except Error β} {kind : Json → Prop}
    (h : ∀ j, (∃ b, decode j = .ok b) ↔ kind j) {items : List Json} :
    (∃ bs, items.mapM decode = .ok bs) ↔ ∀ item ∈ items, kind item := by
  constructor
  · rintro ⟨bs, hbs⟩ item hitem
    obtain ⟨b, -, hb⟩ := exists_right_of_forall₂ (except_mapM_eq_ok.1 hbs) hitem
    exact (h item).1 ⟨b, hb⟩
  · exact fun hkind => except_mapM_isOk fun item hitem => (h item).2 (hkind item hitem)

theorem decodes_requiredAclRulesFromJson :
    Decodes requiredAclRulesFromJson id fun _ => ArrayOf IsRule := by
  intro typed j
  have hfits : ∀ rules : List RequiredAclRule, Fits id typed rules := fun rules _ => ⟨rules, rfl⟩
  simp only [requiredAclRulesFromJson, except_bind_eq_ok, requireList_eq_ok, translate_eq_ok, hfits,
    and_true, ArrayOf]
  constructor
  · rintro ⟨rules, items, hitems, hrules⟩
    exact ⟨items, hitems, (mapM_isOk_iff fun _ => requiredAclRuleFromJson_isOk).1 ⟨rules, hrules⟩⟩
  · rintro ⟨items, hitems, hkind⟩
    obtain ⟨rules, hrules⟩ := (mapM_isOk_iff fun _ => requiredAclRuleFromJson_isOk).2 hkind
    exact ⟨rules, items, hitems, hrules⟩

theorem outside_requiredAclRulesFromJson {j : Json} :
    RaisesOutside IsSerializationError (requiredAclRulesFromJson j) ↔
      ∃ items, j = .arr items ∧ FirstBad IsRule IsBlankRule items := by
  simp only [requiredAclRulesFromJson, requireList_raises.outside_bind, requireList_eq_ok,
    outside_translate isSerializationError_malformed, outside_mapM,
    requiredAclRuleFromJson_isOk, outside_requiredAclRuleFromJson]

/-! ### Policy evidence -/

/-- Policy evidence whose snapshot id is of a kind. -/
def IsPolicyEvidence (snapshotId : Json → Prop) (typed : Bool) (j : Json) : Prop :=
  HasField "source_snapshot_id" snapshotId j ∧
    HasField "violation_type" (IsWord (StrEnum.words ViolationType)) j ∧
    HasField "expected_acl_name" (Plain typed IsString) j ∧
    HasField "actual_acl_name" (Plain typed (OrNull IsString)) j ∧
    HasField "interface_name" (Plain typed IsString) j ∧
    HasField "direction" (IsWord (StrEnum.words AclDirection)) j

theorem fits_policyViolationEvidence {typed : Bool} {raw : Stored.PolicyViolationEvidence} :
    Fits Stored.PolicyViolationEvidence.of typed raw ↔
      Plain typed IsName raw.sourceSnapshotId ∧ Plain typed IsString raw.expectedAclName ∧
        Plain typed (OrNull IsString) raw.actualAclName ∧
        Plain typed IsString raw.interfaceName := by
  cases typed with
  | false => simp only [fits_false, plain_false, and_self]
  | true =>
      simp only [fits_true, plain_true, orNull_isString_iff]
      constructor
      · rintro ⟨evidence, rfl⟩
        exact ⟨⟨_, rfl, evidence.sourceSnapshotId_not_blank⟩, ⟨_, rfl⟩, ⟨_, rfl⟩, ⟨_, rfl⟩⟩
      · obtain ⟨_, violationType, _, _, _, direction⟩ := raw
        rintro ⟨⟨snapshotId, rfl, hid⟩, ⟨expected, rfl⟩, ⟨actual, rfl⟩, ⟨interfaceName, rfl⟩⟩
        exact ⟨⟨snapshotId, violationType, expected, actual, interfaceName, direction, hid⟩, rfl⟩

theorem decodes_policyViolationEvidenceFromJson :
    Decodes policyViolationEvidenceFromJson Stored.PolicyViolationEvidence.of
      (IsPolicyEvidence IsName) := by
  intro typed j
  simp only [policyViolationEvidenceFromJson, policyViolationFromJson, except_bind_eq_ok,
    requireDict_eq_ok, translate_eq_ok, getKey_eq_ok, enumMember_eq_ok,
    fits_policyViolationEvidence, IsPolicyEvidence, HasField, isWord_iff]
  constructor
  · rintro ⟨raw, ⟨_, ⟨-, rfl⟩, snapshotId, hsnapshot, word, hword, violationType, htype, expected,
      hexpected, actual, hactual, interfaceName, hinterface, word', hword', direction, hdirection,
      name, hname, hraw⟩, hfits⟩
    cases hraw
    exact ⟨⟨_, hsnapshot, requireNonEmptyValue_isOk.1 ⟨name, hname⟩⟩, ⟨_, hword, _, htype⟩,
      ⟨_, hexpected, hfits.2.1⟩, ⟨_, hactual, hfits.2.2.1⟩, ⟨_, hinterface, hfits.2.2.2⟩,
      ⟨_, hword', _, hdirection⟩⟩
  · rintro ⟨⟨snapshotId, hsnapshot, hs⟩, ⟨word, hword, violationType, htype⟩,
      ⟨expected, hexpected, he⟩, ⟨actual, hactual, ha⟩, ⟨interfaceName, hinterface, hi⟩,
      ⟨word', hword', direction, hdirection⟩⟩
    obtain ⟨name, hname⟩ := requireNonEmptyValue_isOk.2 hs
    exact ⟨⟨snapshotId, violationType, expected, actual, interfaceName, direction⟩,
      ⟨_, ⟨HasKey.exists_fields hsnapshot, rfl⟩, _, hsnapshot, _, hword, _, htype, _, hexpected, _,
        hactual, _, hinterface, _, hword', _, hdirection, name, hname, rfl⟩,
      fun _ => hs, he, ha, hi⟩

theorem outside_policyViolationEvidenceFromJson {j : Json} :
    RaisesOutside IsSerializationError (policyViolationEvidenceFromJson j) ↔
      IsPolicyEvidence IsBlankString false j := by
  have hdone : ∀ raw : Stored.PolicyViolationEvidence,
      ¬ RaisesOutside IsCaught (.ok raw : Except Error _) := fun raw => not_outside_ok raw
  simp only [policyViolationEvidenceFromJson, policyViolationFromJson,
    requireDict_raises.outside_bind, outside_translate isSerializationError_malformed,
    getKey_raises.outside_bind, (enumMember_caught _).outside_bind, outside_bind,
    requireDict_eq_ok, getKey_eq_ok, enumMember_eq_ok, outside_requireNonEmptyValue, pure,
    Except.pure, hdone, and_false, exists_false, or_false, IsPolicyEvidence, HasField, isWord_iff,
    plain_false, and_true]
  constructor
  · rintro ⟨_, ⟨-, rfl⟩, snapshotId, hsnapshot, word, hword, violationType, htype, expected,
      hexpected, actual, hactual, interfaceName, hinterface, word', hword', direction, hdirection,
      hblank⟩
    exact ⟨⟨_, hsnapshot, hblank⟩, ⟨_, hword, _, htype⟩, ⟨_, hexpected⟩, ⟨_, hactual⟩,
      ⟨_, hinterface⟩, ⟨_, hword', _, hdirection⟩⟩
  · rintro ⟨⟨snapshotId, hsnapshot, hblank⟩, ⟨word, hword, violationType, htype⟩,
      ⟨expected, hexpected⟩, ⟨actual, hactual⟩, ⟨interfaceName, hinterface⟩,
      ⟨word', hword', direction, hdirection⟩⟩
    exact ⟨_, ⟨HasKey.exists_fields hsnapshot, rfl⟩, _, hsnapshot, _, hword, _, htype, _, hexpected,
      _, hactual, _, hinterface, _, hword', _, hdirection, hblank⟩

/-! ### Anomaly evidence -/

/-- A number that `float()` takes. -/
def IsNumber (j : Json) : Prop :=
  (∃ x, j = .float x) ∨ ∃ n, j = .int n ∧ n.natAbs < floatOverflow

/-- An integer that is no double. -/
def IsHugeInt (j : Json) : Prop := ∃ n, j = .int n ∧ floatOverflow ≤ n.natAbs

/-- What the two handlers that name `ValueError` turn into a `SerializationError`. -/
def IsCaughtOrInvalid : Error → Prop
  | .valueError _ _ => True
  | e => IsCaught e

theorem IsCaught.orInvalid {e : Error} (h : IsCaught e) : IsCaughtOrInvalid e := by
  cases e <;> first | exact trivial | exact h

theorem isSerializationError_malformedOrInvalid {what : String} (e : Error) :
    IsSerializationError (malformedOrInvalid what e) ↔ IsCaughtOrInvalid e := by
  cases e <;> exact Iff.rfl

theorem requireFloat_isOk {value : Json} (what : String) :
    (∃ x, requireFloat value what = .ok x) ↔ IsNumber value := by
  cases value with
  | int n =>
      have hnumber : IsNumber (.int n) ↔ n.natAbs < floatOverflow := by
        constructor
        · rintro (⟨x, hx⟩ | ⟨n', hn, hlt⟩)
          · cases hx
          · cases hn
            exact hlt
        · exact fun hlt => .inr ⟨n, rfl, hlt⟩
      rw [hnumber, ← Nat.not_le]
      by_cases hhuge : floatOverflow ≤ n.natAbs
      · refine iff_of_false ?_ (not_not.2 hhuge)
        rintro ⟨x, hx⟩
        rw [requireFloat, floatOfInt, if_pos hhuge] at hx
        cases hx
      · exact iff_of_true ⟨_, by rw [requireFloat, floatOfInt, if_neg hhuge]⟩ hhuge
  | float x => exact iff_of_true ⟨x, rfl⟩ (.inl ⟨x, rfl⟩)
  | _ =>
      refine iff_of_false (fun h => ?_) fun h => ?_
      · obtain ⟨x, hx⟩ := h
        cases hx
      · rcases h with ⟨x, hx⟩ | ⟨n, hn, -⟩
        · cases hx
        · cases hn

/-- `float` lets an `OverflowError` out for integers that are no doubles. -/
theorem outside_requireFloat {value : Json} {what : String} :
    RaisesOutside IsCaughtOrInvalid (requireFloat value what) ↔ IsHugeInt value := by
  cases value with
  | int n =>
      have hint : IsHugeInt (.int n) ↔ floatOverflow ≤ n.natAbs := by
        constructor
        · rintro ⟨n', hn, hle⟩
          cases hn
          exact hle
        · exact fun hle => ⟨n, rfl, hle⟩
      rw [hint, requireFloat, floatOfInt]
      by_cases hhuge : floatOverflow ≤ n.natAbs
      · rw [if_pos hhuge]
        exact iff_of_true ⟨_, rfl, id⟩ hhuge
      · rw [if_neg hhuge]
        exact iff_of_false (not_outside_ok _) hhuge
  | float x =>
      refine iff_of_false (not_outside_ok x) fun h => ?_
      obtain ⟨n, hn, -⟩ := h
      cases hn
  | _ =>
      refine iff_of_false (RaisesOnly.not_outside (raisesOnly_error trivial)) fun h => ?_
      obtain ⟨n, hn, -⟩ := h
      cases hn

/-- A CPU sample whose load is of a kind. -/
def IsCpuSample (number : Json → Prop) (j : Json) : Prop :=
  HasField "timestamp" IsUtcTimestamp j ∧ HasField "cpu_utilization_pct" number j

theorem isUtcTimestamp_iff {value : Json} (what : String) :
    IsUtcTimestamp value ↔ ∃ t, utcDatetimeFromJson value what = .ok t := by
  simp only [utcDatetimeFromJson_eq_ok]
  exact exists_comm

theorem cpuSampleFromJson_isOk {j : Json} :
    (∃ sample, cpuSampleFromJson j = .ok sample) ↔ IsCpuSample IsNumber j := by
  simp only [cpuSampleFromJson, except_bind_eq_ok, requireDict_eq_ok, getKey_eq_ok, IsCpuSample,
    HasField, isUtcTimestamp_iff "CpuSampleEvidence.timestamp",
    ← requireFloat_isOk "CpuSampleEvidence.cpu_utilization_pct"]
  constructor
  · rintro ⟨sample, _, ⟨-, rfl⟩, stamp, hstamp, t, ht, load, hload, x, hx, -⟩
    exact ⟨⟨stamp, hstamp, t, ht⟩, load, hload, x, hx⟩
  · rintro ⟨⟨stamp, hstamp, t, ht⟩, load, hload, x, hx⟩
    exact ⟨⟨t, x⟩, _, ⟨HasKey.exists_fields hstamp, rfl⟩, stamp, hstamp, t, ht, load, hload, x, hx,
      rfl⟩

theorem outside_cpuSampleFromJson {j : Json} :
    RaisesOutside IsCaughtOrInvalid (cpuSampleFromJson j) ↔ IsCpuSample IsHugeInt j := by
  have hdone : ∀ sample : CpuSampleEvidence,
      ¬ RaisesOutside IsCaughtOrInvalid (.ok sample : Except Error _) :=
    fun sample => not_outside_ok sample
  have hdict : RaisesOnly IsCaughtOrInvalid (requireDict j "CpuSampleEvidence") :=
    requireDict_caught.mono fun _ => IsCaught.orInvalid
  have hkey : ∀ {data : Json} {key what : String},
      RaisesOnly IsCaughtOrInvalid (getKey data key what) :=
    getKey_raises.mono fun _ => IsCaught.orInvalid
  have hstamp : ∀ {value : Json} {what : String},
      RaisesOnly IsCaughtOrInvalid (utcDatetimeFromJson value what) :=
    utcDatetimeFromJson_caught.mono fun _ => IsCaught.orInvalid
  simp only [cpuSampleFromJson, hdict.outside_bind, hkey.outside_bind, hstamp.outside_bind,
    outside_bind, requireDict_eq_ok, getKey_eq_ok, outside_requireFloat, pure, Except.pure, hdone,
    and_false, exists_false, or_false, IsCpuSample, HasField,
    isUtcTimestamp_iff "CpuSampleEvidence.timestamp"]
  constructor
  · rintro ⟨_, ⟨-, rfl⟩, stamp, hstamp, t, ht, load, hload, hhuge⟩
    exact ⟨⟨stamp, hstamp, t, ht⟩, load, hload, hhuge⟩
  · rintro ⟨⟨stamp, hstamp, t, ht⟩, load, hload, hhuge⟩
    exact ⟨_, ⟨HasKey.exists_fields hstamp, rfl⟩, stamp, hstamp, t, ht, load, hload, hhuge⟩

def IsCpuHigh (j : Json) : Prop := HasField "samples" (ArrayOf (IsCpuSample IsNumber)) j

/-- CPU evidence with a load that is too large, after samples that are in order. -/
def IsCpuOverflow (j : Json) : Prop :=
  HasField "samples" (fun value => ∃ items, value = .arr items ∧
    FirstBad (IsCpuSample IsNumber) (IsCpuSample IsHugeInt) items) j

theorem decodes_cpuHighEvidenceFromJson :
    Decodes cpuHighEvidenceFromJson id fun _ => IsCpuHigh := by
  intro typed j
  have hfits : ∀ evidence : CpuHighEvidence, Fits id typed evidence :=
    fun evidence _ => ⟨evidence, rfl⟩
  simp only [cpuHighEvidenceFromJson, cpuHighFromJson, except_bind_eq_ok, requireDict_eq_ok,
    translate_eq_ok, getKey_eq_ok, requireList_eq_ok, hfits, and_true, IsCpuHigh, HasField,
    ArrayOf]
  constructor
  · rintro ⟨evidence, _, ⟨-, rfl⟩, value, hvalue, items, hitems, samples, hsamples, -⟩
    exact ⟨value, hvalue, items, hitems,
      (mapM_isOk_iff fun _ => cpuSampleFromJson_isOk).1 ⟨samples, hsamples⟩⟩
  · rintro ⟨value, hvalue, items, hitems, hkind⟩
    obtain ⟨samples, hsamples⟩ := (mapM_isOk_iff fun _ => cpuSampleFromJson_isOk).2 hkind
    exact ⟨⟨samples⟩, _, ⟨HasKey.exists_fields hvalue, rfl⟩, value, hvalue, items, hitems, samples,
      hsamples, rfl⟩

theorem outside_cpuHighEvidenceFromJson {j : Json} :
    RaisesOutside IsSerializationError (cpuHighEvidenceFromJson j) ↔ IsCpuOverflow j := by
  have hdone : ∀ evidence : CpuHighEvidence,
      ¬ RaisesOutside IsCaughtOrInvalid (.ok evidence : Except Error _) :=
    fun evidence => not_outside_ok evidence
  have hkey : RaisesOnly IsCaughtOrInvalid (getKey j "samples" "CpuHighEvidence") :=
    getKey_raises.mono fun _ => IsCaught.orInvalid
  have hlist : ∀ {data : Json} {what : String},
      RaisesOnly IsCaughtOrInvalid (requireList data what) :=
    requireList_caught.mono fun _ => IsCaught.orInvalid
  simp only [cpuHighEvidenceFromJson, cpuHighFromJson, requireDict_raises.outside_bind,
    outside_translate isSerializationError_malformedOrInvalid]
  constructor
  · rintro ⟨_, hdict, houtside⟩
    obtain ⟨-, rfl⟩ := requireDict_eq_ok.1 hdict
    obtain ⟨value, hvalue, houtside⟩ := hkey.outside_bind.1 houtside
    obtain ⟨items, hitems, houtside⟩ := hlist.outside_bind.1 houtside
    refine ⟨value, getKey_eq_ok.1 hvalue, items, requireList_eq_ok.1 hitems, ?_⟩
    rcases outside_bind.1 houtside with hloop | ⟨samples, -, hrest⟩
    · simpa only [outside_mapM, cpuSampleFromJson_isOk, outside_cpuSampleFromJson] using hloop
    · exact absurd hrest (hdone _)
  · rintro ⟨value, hvalue, items, rfl, hfirst⟩
    refine ⟨j, requireDict_eq_ok.2 ⟨HasKey.exists_fields hvalue, rfl⟩, hkey.outside_bind.2 ?_⟩
    refine ⟨_, getKey_eq_ok.2 hvalue, hlist.outside_bind.2 ⟨items, rfl, outside_bind.2 (.inl ?_)⟩⟩
    simpa only [outside_mapM, cpuSampleFromJson_isOk, outside_cpuSampleFromJson] using hfirst

def IsTransition (j : Json) : Prop :=
  HasField "timestamp" IsUtcTimestamp j ∧ HasField "oper_state" (IsWord (StrEnum.words LinkState)) j

def IsLinkFlap (typed : Bool) (j : Json) : Prop :=
  HasField "interface_name" (Plain typed IsString) j ∧
    HasField "transitions" (ArrayOf IsTransition) j

def IsBgpDown (typed : Bool) (j : Json) : Prop :=
  HasField "neighbor_ip" (Plain typed IsString) j ∧
    HasField "state" (IsWord (StrEnum.words BgpState)) j ∧
    HasField "previous_state" (OrNull (IsWord (StrEnum.words BgpState))) j

theorem transitionFromJson_isOk {j : Json} :
    (∃ transition, transitionFromJson j = .ok transition) ↔ IsTransition j := by
  simp only [transitionFromJson, except_bind_eq_ok, requireDict_eq_ok, getKey_eq_ok, IsTransition,
    HasField, enumMember_eq_ok, isWord_iff,
    isUtcTimestamp_iff "InterfaceTransitionEvidence.timestamp"]
  constructor
  · rintro ⟨transition, _, ⟨-, rfl⟩, stamp, hstamp, t, ht, word, hword, operState, hstate, -⟩
    exact ⟨⟨stamp, hstamp, t, ht⟩, word, hword, operState, hstate⟩
  · rintro ⟨⟨stamp, hstamp, t, ht⟩, word, hword, operState, hstate⟩
    exact ⟨⟨t, operState⟩, _, ⟨HasKey.exists_fields hstamp, rfl⟩, stamp, hstamp, t, ht, word, hword,
      operState, hstate, rfl⟩

theorem transitionFromJson_raises (j : Json) : RaisesOnly IsCaught (transitionFromJson j) := by
  refine requireDict_caught.bind fun _ => getKey_raises.bind fun _ => ?_
  refine utcDatetimeFromJson_caught.bind fun _ => getKey_raises.bind fun _ => ?_
  exact (enumMember_caught _).bind fun _ => raisesOnly_pure _

/-- Link flap evidence, seen as what is stored of it. -/
def linkFlapOf (evidence : LinkFlapEvidence) : Stored.LinkFlap :=
  ⟨.str evidence.interfaceName, evidence.transitions⟩

theorem fits_linkFlap {typed : Bool} {raw : Stored.LinkFlap} :
    Fits linkFlapOf typed raw ↔ Plain typed IsString raw.interfaceName := by
  cases typed with
  | false => simp only [fits_false, plain_false]
  | true =>
      simp only [fits_true, plain_true]
      constructor
      · rintro ⟨evidence, rfl⟩
        exact ⟨_, rfl⟩
      · obtain ⟨_, transitions⟩ := raw
        rintro ⟨interfaceName, rfl⟩
        exact ⟨⟨interfaceName, transitions⟩, rfl⟩

theorem decodes_linkFlapEvidenceFromJson :
    Decodes linkFlapEvidenceFromJson linkFlapOf IsLinkFlap := by
  intro typed j
  simp only [linkFlapEvidenceFromJson, linkFlapFromJson, except_bind_eq_ok, requireDict_eq_ok,
    translate_eq_ok, getKey_eq_ok, requireList_eq_ok, fits_linkFlap, IsLinkFlap, HasField, ArrayOf]
  constructor
  · rintro ⟨raw, ⟨_, ⟨-, rfl⟩, name, hname, value, hvalue, items, hitems, transitions, htransitions,
      hraw⟩, hfits⟩
    cases hraw
    exact ⟨⟨name, hname, hfits⟩, value, hvalue, items, hitems,
      (mapM_isOk_iff fun _ => transitionFromJson_isOk).1 ⟨transitions, htransitions⟩⟩
  · rintro ⟨⟨name, hname, hn⟩, value, hvalue, items, hitems, hkind⟩
    obtain ⟨transitions, htransitions⟩ := (mapM_isOk_iff fun _ => transitionFromJson_isOk).2 hkind
    exact ⟨⟨name, transitions⟩, ⟨_, ⟨HasKey.exists_fields hname, rfl⟩, name, hname, value, hvalue,
      items, hitems, transitions, htransitions, rfl⟩, hn⟩

theorem linkFlapEvidenceFromJson_raises (j : Json) :
    RaisesOnly IsSerializationError (linkFlapEvidenceFromJson j) := by
  have hbody : ∀ data, RaisesOnly IsCaught (linkFlapFromJson data) := by
    intro data
    refine getKey_raises.bind fun _ => getKey_raises.bind fun _ => requireList_caught.bind fun _ => ?_
    exact (RaisesOnly.mapM fun item _ => transitionFromJson_raises item).bind
      fun _ => raisesOnly_pure _
  refine requireDict_raises.bind fun data => (hbody data).translate fun e he => ?_
  exact (isSerializationError_malformedOrInvalid e).2 he.orInvalid

/-- BGP evidence, seen as what is stored of it. -/
def bgpDownOf (evidence : BgpDownEvidence) : Stored.BgpDown :=
  ⟨.str evidence.neighborIp, evidence.state, evidence.previousState⟩

theorem fits_bgpDown {typed : Bool} {raw : Stored.BgpDown} :
    Fits bgpDownOf typed raw ↔ Plain typed IsString raw.neighborIp := by
  cases typed with
  | false => simp only [fits_false, plain_false]
  | true =>
      simp only [fits_true, plain_true]
      constructor
      · rintro ⟨evidence, rfl⟩
        exact ⟨_, rfl⟩
      · obtain ⟨_, state, previousState⟩ := raw
        rintro ⟨neighborIp, rfl⟩
        exact ⟨⟨neighborIp, state, previousState⟩, rfl⟩

theorem optionalBgpState_isOk {value : Json} :
    (∃ state, optionalBgpState value = .ok state) ↔
      OrNull (IsWord (StrEnum.words BgpState)) value := by
  simp only [OrNull, isWord_iff]
  constructor
  · rintro ⟨_ | state, hstate⟩
    · cases value with
      | null => exact .inl rfl
      | _ =>
          obtain ⟨_, -, hnone⟩ := except_map_eq_ok.1 hstate
          cases hnone
    · cases value with
      | null => exact .inl rfl
      | _ =>
          obtain ⟨state', hstate', -⟩ := except_map_eq_ok.1 hstate
          exact .inr ⟨state', enumMember_eq_ok.1 hstate'⟩
  · rintro (rfl | ⟨state, rfl⟩)
    · exact ⟨none, rfl⟩
    · exact ⟨some state, except_map_eq_ok.2 ⟨state, enumMember_value state, rfl⟩⟩

theorem optionalBgpState_raises (value : Json) : RaisesOnly IsCaught (optionalBgpState value) := by
  cases value with
  | null => exact raisesOnly_ok _
  | _ => exact (enumMember_caught BgpState).map some

theorem decodes_bgpDownEvidenceFromJson :
    Decodes bgpDownEvidenceFromJson bgpDownOf IsBgpDown := by
  intro typed j
  simp only [bgpDownEvidenceFromJson, bgpDownFromJson, except_bind_eq_ok, requireDict_eq_ok,
    translate_eq_ok, getKey_eq_ok, enumMember_eq_ok, fits_bgpDown, IsBgpDown, HasField,
    ← optionalBgpState_isOk, isWord_iff (α := BgpState)]
  constructor
  · rintro ⟨raw, ⟨_, ⟨-, rfl⟩, neighborIp, hip, word, hword, state, hstate, value, hvalue,
      previousState, hprevious, hraw⟩, hfits⟩
    cases hraw
    exact ⟨⟨neighborIp, hip, hfits⟩, ⟨word, hword, state, hstate⟩, value, hvalue, previousState,
      hprevious⟩
  · rintro ⟨⟨neighborIp, hip, hn⟩, ⟨word, hword, state, hstate⟩, value, hvalue, previousState,
      hprevious⟩
    exact ⟨⟨neighborIp, state, previousState⟩, ⟨_, ⟨HasKey.exists_fields hip, rfl⟩, neighborIp, hip,
      word, hword, state, hstate, value, hvalue, previousState, hprevious, rfl⟩, hn⟩

theorem bgpDownEvidenceFromJson_raises (j : Json) :
    RaisesOnly IsSerializationError (bgpDownEvidenceFromJson j) := by
  refine requireDict_raises.bind fun data => raisesOnly_malformed ?_
  refine getKey_raises.bind fun _ => getKey_raises.bind fun _ => ?_
  refine (enumMember_caught _).bind fun _ => getKey_raises.bind fun value => ?_
  exact (optionalBgpState_raises value).bind fun _ => raisesOnly_pure _

/-! ### The decoders together -/

/-- A promise passes through what wraps the value that is decoded. -/
theorem keepsContract_map {α α' β γ : Type} {of : α → β} {of' : α' → γ} {wrap : β → γ}
    (h : ∀ b, (∃ a', wrap b = of' a') ↔ ∃ a, b = of a) {x : Except Error β} :
    KeepsContract of' (wrap <$> x) ↔ KeepsContract of x := by
  cases x with
  | ok b =>
      have hok : ∀ {δ ε : Type} {of : δ → ε} {b : ε},
          KeepsContract of (.ok b : Except Error ε) ↔ ∃ a, b = of a := by
        intro δ ε of b
        constructor
        · rintro (⟨a, ha⟩ | ⟨message, values, herror⟩)
          · exact ⟨a, Except.ok.inj ha⟩
          · cases herror
        · rintro ⟨a, rfl⟩
          exact .inl ⟨a, rfl⟩
      exact hok.trans ((h b).trans hok.symm)
  | error e =>
      constructor
      · rintro (⟨a, ha⟩ | ⟨message, values, herror⟩)
        · cases ha
        · cases herror
          exact .inr ⟨message, values, rfl⟩
      · rintro (⟨a, ha⟩ | ⟨message, values, herror⟩)
        · cases ha
        · cases herror
          exact .inr ⟨message, values, rfl⟩

theorem keepsContract_evidenceFromJson_cpuHigh (j : Json) :
    KeepsContract Stored.Evidence.of (evidenceFromJson .cpuHigh j) ↔ ¬ IsCpuOverflow j := by
  have hwrap : ∀ b : CpuHighEvidence,
      (∃ a, Stored.Evidence.cpuHigh b = .of a) ↔ ∃ a : CpuHighEvidence, b = id a :=
    fun b => iff_of_true ⟨.cpuHigh b, rfl⟩ ⟨b, rfl⟩
  rw [evidenceFromJson, keepsContract_map hwrap, decodes_cpuHighEvidenceFromJson.keepsContract_iff,
    outside_cpuHighEvidenceFromJson]
  exact and_iff_left id

theorem keepsContract_evidenceFromJson_linkFlap (j : Json) :
    KeepsContract Stored.Evidence.of (evidenceFromJson .linkFlap j) ↔
      (IsLinkFlap false j → IsLinkFlap true j) := by
  have hwrap : ∀ b : Stored.LinkFlap,
      (∃ a, Stored.Evidence.linkFlap b = .of a) ↔ ∃ a, b = linkFlapOf a := by
    intro b
    constructor
    · rintro ⟨a, ha⟩
      cases a with
      | linkFlap evidence => exact ⟨evidence, Stored.Evidence.linkFlap.inj ha⟩
      | _ => cases ha
    · rintro ⟨evidence, rfl⟩
      exact ⟨.linkFlap evidence, rfl⟩
  rw [evidenceFromJson, keepsContract_map hwrap, decodes_linkFlapEvidenceFromJson.keepsContract_iff]
  exact and_iff_right (linkFlapEvidenceFromJson_raises j).not_outside

theorem keepsContract_evidenceFromJson_bgpDown (j : Json) :
    KeepsContract Stored.Evidence.of (evidenceFromJson .bgpDown j) ↔
      (IsBgpDown false j → IsBgpDown true j) := by
  have hwrap : ∀ b : Stored.BgpDown,
      (∃ a, Stored.Evidence.bgpDown b = .of a) ↔ ∃ a, b = bgpDownOf a := by
    intro b
    constructor
    · rintro ⟨a, ha⟩
      cases a with
      | bgpDown evidence => exact ⟨evidence, Stored.Evidence.bgpDown.inj ha⟩
      | _ => cases ha
    · rintro ⟨evidence, rfl⟩
      exact ⟨.bgpDown evidence, rfl⟩
  rw [evidenceFromJson, keepsContract_map hwrap, decodes_bgpDownEvidenceFromJson.keepsContract_iff]
  exact and_iff_right (bgpDownEvidenceFromJson_raises j).not_outside

/-- **Anomaly evidence, by the rule it is decoded under.**  A rule that does not exist is
refused. -/
theorem keepsContract_anomalyEvidenceFromJson (ruleRef : String) (j : Json) :
    KeepsContract Stored.Evidence.of (anomalyEvidenceFromJson ruleRef j) ↔
      (ruleRef = RuleId.cpuHigh.value → ¬ IsCpuOverflow j) ∧
        (ruleRef = RuleId.linkFlap.value → IsLinkFlap false j → IsLinkFlap true j) ∧
        (ruleRef = RuleId.bgpDown.value → IsBgpDown false j → IsBgpDown true j) := by
  by_cases hrule : ∃ ruleId : RuleId, ruleRef = ruleId.value
  · obtain ⟨ruleId, rfl⟩ := hrule
    have hword : enumMember RuleId (.str ruleId.value) "rule_ref" = .ok ruleId :=
      enumMember_value ruleId
    rw [anomalyEvidenceFromJson, hword, ok_bind]
    cases ruleId with
    | cpuHigh =>
        rw [keepsContract_evidenceFromJson_cpuHigh]
        simp [RuleId.value]
    | linkFlap =>
        rw [keepsContract_evidenceFromJson_linkFlap]
        simp [RuleId.value]
    | bgpDown =>
        rw [keepsContract_evidenceFromJson_bgpDown]
        simp [RuleId.value]
  · have hunknown : ∀ ruleId : RuleId, ruleRef ≠ ruleId.value := fun ruleId h => hrule ⟨ruleId, h⟩
    refine iff_of_true ?_ ⟨fun h => absurd h (hunknown _), fun h => absurd h (hunknown _),
      fun h => absurd h (hunknown _)⟩
    cases hword : enumMember RuleId (.str ruleRef) "rule_ref" with
    | ok ruleId => exact absurd (Json.str.inj (enumMember_eq_ok.1 hword)) (hunknown ruleId)
    | error e =>
        obtain ⟨message, values, rfl⟩ := isSerializationError_iff.1 (enumMember_raises RuleId e hword)
        exact .inr ⟨message, values, by rw [anomalyEvidenceFromJson, hword]; rfl⟩

/-- Rules of which the first that is none has a blank name. -/
def IsBlankRules (j : Json) : Prop := ∃ items, j = .arr items ∧ FirstBad IsRule IsBlankRule items

/-- **When the decoders keep their contract.**  Plain values have to be of their type
where everything else is in order; no rule and no snapshot id may be blank there, and
no load too large for a double. -/
theorem decoders_keep_contract_iff (j : Json) (ruleRef : String) :
    (KeepsContract Stored.Configuration.of (normalizedConfigFromJson j) ↔
      (IsConfiguration false j → IsConfiguration true j)) ∧
    (KeepsContract id (requiredAclRulesFromJson j) ↔ ¬ IsBlankRules j) ∧
    (KeepsContract (List.map Stored.InterfaceState.of) (interfaceStatesFromJson j) ↔
      (ArrayOf (IsInterfaceState false) j → ArrayOf (IsInterfaceState true) j)) ∧
    (KeepsContract (List.map Stored.BgpSession.of) (bgpSessionsFromJson j) ↔
      (ArrayOf (IsBgpSession false) j → ArrayOf (IsBgpSession true) j)) ∧
    (KeepsContract Stored.PolicyViolationEvidence.of (policyViolationEvidenceFromJson j) ↔
      ¬ IsPolicyEvidence IsBlankString false j ∧
        (IsPolicyEvidence IsName false j → IsPolicyEvidence IsName true j)) ∧
    (KeepsContract Stored.Evidence.of (anomalyEvidenceFromJson ruleRef j) ↔
      (ruleRef = RuleId.cpuHigh.value → ¬ IsCpuOverflow j) ∧
        (ruleRef = RuleId.linkFlap.value → IsLinkFlap false j → IsLinkFlap true j) ∧
        (ruleRef = RuleId.bgpDown.value → IsBgpDown false j → IsBgpDown true j)) := by
  refine ⟨?_, ?_, ?_, ?_, ?_, keepsContract_anomalyEvidenceFromJson ruleRef j⟩
  · rw [decodes_normalizedConfigFromJson.keepsContract_iff]
    exact and_iff_right (normalizedConfigFromJson_raises j).not_outside
  · rw [decodes_requiredAclRulesFromJson.keepsContract_iff, outside_requiredAclRulesFromJson]
    exact and_iff_left id
  · rw [decodes_interfaceStatesFromJson.keepsContract_iff]
    exact and_iff_right (interfaceStatesFromJson_raises j).not_outside
  · rw [decodes_bgpSessionsFromJson.keepsContract_iff]
    exact and_iff_right (bgpSessionsFromJson_raises j).not_outside
  · rw [decodes_policyViolationEvidenceFromJson.keepsContract_iff,
      outside_policyViolationEvidenceFromJson]

/-- A required rule whose ACL has no name. -/
def namelessRule : Json :=
  .arr [.obj [("acl_name", .str ""), ("interface_name", .str "eth0"), ("direction", .str "in"),
    ("severity", .str "High"), ("recommendation", .str "bind it")]]

/-- An interface whose name is a number. -/
def numberedInterface : Json := .arr [.obj [("name", .int 5), ("oper_state", .str "up")]]

/-- **Two broken promises**: a blank name raises `ValueError`, and a number is taken for
a name. -/
theorem decoders_break_contract_nameless :
    ¬ KeepsContract id (requiredAclRulesFromJson namelessRule) ∧
      ¬ KeepsContract (List.map Stored.InterfaceState.of)
        (interfaceStatesFromJson numberedInterface) := by
  constructor
  · have hblank : isBlank "" = true := by decide
    have hraised : requiredAclRulesFromJson namelessRule =
        .error (.valueError "%s must not be empty" ["RequiredAclRule.acl_name"]) := by
      have hdirection : enumMember AclDirection (.str "in") "direction" = .ok .in :=
        enumMember_value AclDirection.in
      have hseverity : enumMember Severity (.str "High") "severity" = .ok .high :=
        enumMember_value Severity.high
      simp (disch := decide) only [requiredAclRulesFromJson, namelessRule, requiredAclRuleFromJson,
        requireList_arr, requireDict_obj, getKey_cons_self, getKey_cons_of_ne, hdirection,
        hseverity, newRequiredAclRule, requireNonEmptyValue_blank hblank, ok_bind, List.mapM_cons]
      rfl
    rw [hraised]
    rintro (⟨a, ha⟩ | ⟨message, values, herror⟩)
    · cases ha
    · cases herror
  · have hread : interfaceStatesFromJson numberedInterface = .ok [⟨.int 5, .up⟩] := rfl
    rw [hread]
    rintro (⟨states, hstates⟩ | ⟨message, values, herror⟩)
    · obtain ⟨state, -, -, hname, -⟩ := List.map_eq_cons_iff.1 (Except.ok.inj hstates).symm
      cases hname
    · cases herror

end MetaRne
