/-
# What a fingerprint is taken of

The payload of a fingerprint is the JSON text of four strings in UTF-8.  Each of its two
layers can be read back: an escaped character ends where it must and is no closing quote
(`readJsonChar_jsonEscape`), so a JSON text of strings tells the strings
(`jsonDumpsStrings_injective`), and the bytes tell the text (`encodeUtf8_injective`).  So
whatever the four texts are, delimiters and escapes among them, the payload tells them
(`payload_determines`), and what is left to SHA-256 is that it tells the payloads of the
findings at hand apart.
-/

import MetaRne.Domain.Incident

namespace MetaRne

open Library Library.Effect Python

/-! ### Reading a JSON string -/

/-- The value of a hexadecimal digit, `0` for any other character. -/
def hexDigitValue (c : Char) : ℕ := (Sha256.hexDigits.findIdx? fun digit => digit == c).getD 0

/-- The character that is written after a backslash, and what is left. -/
def readEscape : List Char → Option (Char × List Char)
  | [] => none
  | 'n' :: rest => some ('\n', rest)
  | 'r' :: rest => some ('\r', rest)
  | 't' :: rest => some ('\t', rest)
  | 'f' :: rest => some (Char.ofNat 0x0c, rest)
  | 'b' :: rest => some (Char.ofNat 0x08, rest)
  | 'u' :: '0' :: '0' :: a :: b :: rest =>
    some (Char.ofNat (hexDigitValue a * 16 + hexDigitValue b), rest)
  | c :: rest => some (c, rest)

/-- The character that a JSON string goes on with, and what is left: none at its end. -/
def readJsonChar : List Char → Option (Char × List Char)
  | [] => none
  | c :: rest =>
    if c = '"' then none else if c = '\\' then readEscape rest else some (c, rest)

theorem hexDigitValue_hexDigit : ∀ n < 0x20,
    hexDigitValue (hexDigit (n / 16)) * 16 + hexDigitValue (hexDigit (n % 16)) = n := by
  decide

/-- **What is written for a character is read back.** -/
theorem readJsonChar_jsonEscape (c : Char) (rest : List Char) :
    readJsonChar (jsonEscape c ++ rest) = some (c, rest) := by
  have hchar : ∀ n, c.toNat = n → c = Char.ofNat n := by
    rintro n rfl
    exact (Char.ofNat_toNat c).symm
  unfold jsonEscape
  split_ifs with hquote hbackslash hfeed hreturn htab hform hback hcontrol
  · rw [hquote]; rfl
  · rw [hbackslash]; rfl
  · rw [hfeed]; rfl
  · rw [hreturn]; rfl
  · rw [htab]; rfl
  · rw [hchar _ hform]; rfl
  · rw [hchar _ hback]; rfl
  · have hread : readJsonChar ('\\' :: 'u' :: '0' :: '0' :: hexDigit (c.toNat / 16) ::
        hexDigit (c.toNat % 16) :: rest) = some (Char.ofNat (hexDigitValue (hexDigit (c.toNat / 16)) *
          16 + hexDigitValue (hexDigit (c.toNat % 16))), rest) := rfl
    rw [hexDigitValue_hexDigit _ hcontrol, Char.ofNat_toNat] at hread
    exact hread
  · rw [List.singleton_append, readJsonChar, if_neg hquote, if_neg hbackslash]

/-- **The text of a JSON string tells the string**, and where it ends. -/
theorem escaped_append_inj {s t : List Char} {rest rest' : List Char}
    (h : s.flatMap jsonEscape ++ '"' :: rest = t.flatMap jsonEscape ++ '"' :: rest') :
    s = t ∧ rest = rest' := by
  induction s generalizing t with
  | nil =>
      cases t with
      | nil => exact ⟨rfl, (List.cons.inj h).2⟩
      | cons c t =>
          have hread := congrArg readJsonChar h
          rw [List.flatMap_cons, List.append_assoc, readJsonChar_jsonEscape] at hread
          cases hread
  | cons c s ih =>
      have hread := congrArg readJsonChar h
      rw [List.flatMap_cons, List.append_assoc, readJsonChar_jsonEscape] at hread
      cases t with
      | nil => cases hread
      | cons c' t =>
          rw [List.flatMap_cons, List.append_assoc, readJsonChar_jsonEscape] at hread
          obtain ⟨rfl, hrest⟩ := Prod.mk.inj (Option.some.inj hread)
          obtain ⟨rfl, hleft⟩ := ih hrest
          exact ⟨rfl, hleft⟩

theorem jsonString_append_inj {s t : String} {rest rest' : List Char}
    (h : jsonString s ++ rest = jsonString t ++ rest') : s = t ∧ rest = rest' := by
  unfold jsonString at h
  simp only [List.cons_append, List.append_assoc, List.nil_append, List.cons.injEq, true_and] at h
  obtain ⟨hsame, hrest⟩ := escaped_append_inj h
  exact ⟨String.toList_inj.1 hsame, hrest⟩

/-- What follows a value in a JSON array. -/
def jsonRest : List String → List Char
  | [] => [']']
  | value :: values => ',' :: (jsonString value ++ jsonRest values)

theorem jsonDumpsStrings_cons (value : String) (values : List String) :
    jsonDumpsStrings (value :: values) = '[' :: (jsonString value ++ jsonRest values) := by
  have hrest : ∀ value, List.intercalate [','] ((value :: values).map jsonString) ++ [']'] =
      jsonString value ++ jsonRest values := by
    induction values with
    | nil =>
        intro value
        rw [List.map_cons, List.map_nil, List.intercalate_singleton]
        rfl
    | cons next values ih =>
        intro value
        rw [List.map_cons, List.map_cons, List.intercalate_cons_cons, jsonRest, List.append_assoc,
          List.append_assoc, ← List.map_cons, ih next]
        rfl
  unfold jsonDumpsStrings
  rw [List.cons_append, hrest]

theorem jsonRest_inj {values values' : List String} (h : jsonRest values = jsonRest values') :
    values = values' := by
  induction values generalizing values' with
  | nil =>
      cases values' with
      | nil => rfl
      | cons value' values' => exact absurd (List.head_eq_of_cons_eq h) (by decide)
  | cons value values ih =>
      cases values' with
      | nil => exact absurd (List.head_eq_of_cons_eq h) (by decide)
      | cons value' values' =>
          obtain ⟨rfl, hrest⟩ := jsonString_append_inj (List.cons.inj h).2
          rw [ih hrest]

/-- **The JSON text of an array of strings tells the strings.** -/
theorem jsonDumpsStrings_injective : Function.Injective jsonDumpsStrings := by
  intro values values' h
  cases values with
  | nil =>
      cases values' with
      | nil => rfl
      | cons value' values' =>
          rw [jsonDumpsStrings_cons] at h
          exact absurd (List.head_eq_of_cons_eq (List.cons.inj h).2) (by decide)
  | cons value values =>
      cases values' with
      | nil =>
          rw [jsonDumpsStrings_cons] at h
          exact absurd (List.head_eq_of_cons_eq (List.cons.inj h).2) (by decide)
      | cons value' values' =>
          rw [jsonDumpsStrings_cons, jsonDumpsStrings_cons] at h
          obtain ⟨rfl, hrest⟩ := jsonString_append_inj (List.cons.inj h).2
          rw [jsonRest_inj hrest]

/-- **The bytes of a text in UTF-8 tell the text.** -/
theorem encodeUtf8_injective : Function.Injective encodeUtf8 := by
  intro text text' h
  unfold encodeUtf8 at h
  rw [← List.map_flatMap, ← List.map_flatMap] at h
  have hbytes := List.map_injective_iff.2 (fun _ _ hbyte => UInt8.toNat_inj.1 hbyte) h
  have hencoded : text.utf8Encode = text'.utf8Encode := congrArg List.toByteArray hbytes
  have hdecoded := congrArg ByteArray.utf8Decode? hencoded
  rw [List.utf8Decode?_utf8Encode, List.utf8Decode?_utf8Encode] at hdecoded
  simpa using hdecoded

/-! ### The payload -/

/-- The bytes that `compute_fingerprint` hashes, of four texts. -/
def payloadBytes (deviceId source ruleRef affectedResource : String) : List ℕ :=
  encodeUtf8 (jsonDumpsStrings [deviceId, source, ruleRef, affectedResource])

/-- The bytes that are hashed for a finding. -/
def FindingKey.payloadBytes (key : FindingKey) : List ℕ :=
  MetaRne.payloadBytes key.deviceId key.source.value key.ruleRef key.affectedResource

theorem FindingKey.fingerprint_eq (key : FindingKey) :
    key.fingerprint = String.ofList (Sha256.hexdigest key.payloadBytes) := rfl

theorem IncidentSource.value_injective : Function.Injective IncidentSource.value := by
  intro source source' h
  cases source <;> cases source' <;> first | rfl | exact absurd h (by decide)

/-- **The payload tells the four texts**, whatever characters are in them. -/
theorem payloadBytes_inj {deviceId deviceId' source source' ruleRef ruleRef' affectedResource
    affectedResource' : String} (h : payloadBytes deviceId source ruleRef affectedResource =
      payloadBytes deviceId' source' ruleRef' affectedResource') :
    deviceId = deviceId' ∧ source = source' ∧ ruleRef = ruleRef' ∧
      affectedResource = affectedResource' := by
  have hvalues := jsonDumpsStrings_injective (encodeUtf8_injective h)
  simpa using hvalues

theorem FindingKey.payloadBytes_injective : Function.Injective FindingKey.payloadBytes := by
  rintro ⟨deviceId, source, ruleRef, resource⟩ ⟨deviceId', source', ruleRef', resource'⟩ h
  obtain ⟨rfl, hsource, rfl, rfl⟩ := payloadBytes_inj h
  obtain rfl : source = source' := IncidentSource.value_injective hsource
  rfl

/-- SHA-256 tells some messages apart. -/
def TellsApart (messages : Set (List ℕ)) : Prop := Set.InjOn Sha256.hexdigest messages

/-- **The fingerprint tells the finding.**  The payload determines the four texts, for all
texts; so among findings whose payloads SHA-256 tells apart, two have one fingerprint exactly
where they are the same. -/
theorem fingerprint_injective (findings : Set FindingKey)
    (hnotBlank : ∀ key ∈ findings, isBlank key.deviceId = false ∧ isBlank key.ruleRef = false ∧
      isBlank key.affectedResource = false)
    (hsha : TellsApart (FindingKey.payloadBytes '' findings)) :
    (∀ deviceId source ruleRef affectedResource deviceId' source' ruleRef' affectedResource',
      payloadBytes deviceId source ruleRef affectedResource =
          payloadBytes deviceId' source' ruleRef' affectedResource' →
        deviceId = deviceId' ∧ source = source' ∧ ruleRef = ruleRef' ∧
          affectedResource = affectedResource') ∧
      ∀ key ∈ findings, ∀ key' ∈ findings, ∃ fingerprint fingerprint',
        computeFingerprint key.deviceId key.source key.ruleRef key.affectedResource =
            .ok fingerprint ∧
          computeFingerprint key'.deviceId key'.source key'.ruleRef key'.affectedResource =
            .ok fingerprint' ∧ (fingerprint = fingerprint' ↔ key = key') := by
  refine ⟨fun _ _ _ _ _ _ _ _ h => payloadBytes_inj h, fun key hkey key' hkey' => ?_⟩
  obtain ⟨hdevice, hrule, hresource⟩ := hnotBlank key hkey
  obtain ⟨hdevice', hrule', hresource'⟩ := hnotBlank key' hkey'
  refine ⟨key.fingerprint, key'.fingerprint,
    computeFingerprint_of_not_blank key.source hdevice hrule hresource,
    computeFingerprint_of_not_blank key'.source hdevice' hrule' hresource', ?_⟩
  refine ⟨fun h => ?_, congrArg _⟩
  rw [FindingKey.fingerprint_eq, FindingKey.fingerprint_eq, String.ofList_inj] at h
  exact FindingKey.payloadBytes_injective
    (hsha (Set.mem_image_of_mem _ hkey) (Set.mem_image_of_mem _ hkey') h)

/-- Two findings that differ in where a delimiter stands. -/
def delimiterKeys : Set FindingKey :=
  {⟨"r1", .anomaly, "R\",\"S", "eth0"⟩, ⟨"r1", .anomaly, "R", "S\",\"eth0"⟩}

theorem fingerprint_injective_delimiters :
    ∃ fingerprint fingerprint',
      computeFingerprint "r1" .anomaly "R\",\"S" "eth0" = .ok fingerprint ∧
        computeFingerprint "r1" .anomaly "R" "S\",\"eth0" = .ok fingerprint' ∧
        (fingerprint = fingerprint' ↔
          (⟨"r1", .anomaly, "R\",\"S", "eth0"⟩ : FindingKey) =
            ⟨"r1", .anomaly, "R", "S\",\"eth0"⟩) := by
  have hnotBlank : ∀ key ∈ delimiterKeys, isBlank key.deviceId = false ∧
      isBlank key.ruleRef = false ∧ isBlank key.affectedResource = false := by
    rintro key (rfl | rfl)
    · decide
    · decide
  have hne : Sha256.hexdigest (payloadBytes "r1" "ANOMALY" "R\",\"S" "eth0") ≠
      Sha256.hexdigest (payloadBytes "r1" "ANOMALY" "R" "S\",\"eth0") := by
    decide +kernel
  have hsha : TellsApart (FindingKey.payloadBytes '' delimiterKeys) := by
    rintro _ ⟨key, hkey, rfl⟩ _ ⟨key', hkey', rfl⟩ h
    rcases hkey with rfl | rfl <;> rcases hkey' with rfl | rfl
    · rfl
    · exact absurd h hne
    · exact absurd h.symm hne
    · rfl
  exact (fingerprint_injective delimiterKeys hnotBlank hsha).2 _ (Or.inl rfl) _ (Or.inr rfl)

end MetaRne
