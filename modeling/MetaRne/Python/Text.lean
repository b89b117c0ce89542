/-
# Strings as the services use them

A Python `str` without lone surrogates is a `String`.  Two built-ins decide
what the services accept and store: `str.strip`, through the test
`not value.strip()` (`isBlank`), and `json.dumps` of a list of strings with
`ensure_ascii=False` and the compact separators (`jsonDumpsStrings`), the text
an incident's fingerprint is taken of.
-/

import MetaRne.Library.Sha256

namespace MetaRne
namespace Python

/-- The characters `str.strip` takes off (`str.isspace`). -/
def isSpace (c : Char) : Bool :=
  let n := c.toNat
  (0x09 ≤ n && n ≤ 0x0d) || (0x1c ≤ n && n ≤ 0x20) || n == 0x85 || n == 0xa0 || n == 0x1680 ||
    (0x2000 ≤ n && n ≤ 0x200a) || n == 0x2028 || n == 0x2029 || n == 0x202f || n == 0x205f ||
    n == 0x3000

/-- `not value.strip()`: nothing but white space. -/
def isBlank (s : String) : Bool := s.toList.all isSpace

theorem isBlank_empty : isBlank "" = true := rfl

theorem ne_empty_of_not_isBlank {s : String} (h : isBlank s = false) : s ≠ "" := by
  rintro rfl
  rw [isBlank_empty] at h
  cases h

/-- A text is not blank as soon as a part of it is not. -/
theorem isBlank_append_of_left {s : String} (h : isBlank s = false) (t : String) :
    isBlank (s ++ t) = false := by
  rw [isBlank] at h ⊢
  rw [String.toList_append, List.all_append, h, Bool.false_and]

/-- `sys.int_info.default_max_str_digits`: a text of more digits is no number. -/
def maxStrDigits : ℕ := 4300

/-- A hexadecimal digit of a `\uXXXX` escape. -/
def hexDigit (n : ℕ) : Char := Library.Sha256.hexDigits.getD n '0'

/-- One character inside a JSON string, with `ensure_ascii=False`. -/
def jsonEscape (c : Char) : List Char :=
  if c = '"' then ['\\', '"']
  else if c = '\\' then ['\\', '\\']
  else if c = '\n' then ['\\', 'n']
  else if c = '\r' then ['\\', 'r']
  else if c = '\t' then ['\\', 't']
  else if c.toNat = 0x0c then ['\\', 'f']
  else if c.toNat = 0x08 then ['\\', 'b']
  else if c.toNat < 0x20 then
    ['\\', 'u', '0', '0', hexDigit (c.toNat / 16), hexDigit (c.toNat % 16)]
  else [c]

/-- A JSON string. -/
def jsonString (s : String) : List Char := '"' :: s.toList.flatMap jsonEscape ++ ['"']

/-- `json.dumps(values, ensure_ascii=False, separators=(",", ":"))` of a list of strings. -/
def jsonDumpsStrings (values : List String) : List Char :=
  '[' :: List.intercalate [','] (values.map jsonString) ++ [']']

/-- `text.encode("utf-8")`. -/
def encodeUtf8 (text : List Char) : List ℕ :=
  text.flatMap fun c => (String.utf8EncodeChar c).map UInt8.toNat

/-- `hashlib.sha256(text.encode("utf-8")).hexdigest()`. -/
def sha256Hexdigest (text : List Char) : String :=
  String.ofList (Library.Sha256.hexdigest (encodeUtf8 text))

/-- `re.compile(r"^[0-9a-f]{64}$").fullmatch(text)`. -/
def isSha256Hexdigest (text : String) : Bool :=
  text.toList.length == 64 && text.toList.all fun c => Library.Sha256.hexDigits.contains c

/-- Every digest is of the form the stored rows are checked for. -/
theorem isSha256Hexdigest_sha256Hexdigest (text : List Char) :
    isSha256Hexdigest (sha256Hexdigest text) = true := by
  rw [isSha256Hexdigest, sha256Hexdigest, String.toList_ofList,
    Library.Sha256.length_hexdigest, beq_self_eq_true, Bool.true_and, List.all_eq_true]
  intro c hc
  exact List.contains_iff_mem.2 (Library.Sha256.mem_hexDigits_of_mem_hexdigest hc)

end Python
end MetaRne
