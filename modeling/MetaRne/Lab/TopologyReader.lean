/-
# The topology reader

`lab_validate.py`: the narrow reader of `lab/topology.clab.yml`.  A text is cut into
lines with a column each; a block of lines is a mapping or a list; and a `- key: value`
item opens a mapping whose further keys stand two columns right of the dash, which is
read from a list of lines of its own.

The index into the shared list of lines is the rest of the list here.  The three readers
call one another on as many lines or fewer, so they count their steps down from a
number that is always enough (`parseTopology_error`); so does a scalar (`scalar_eq`).
-/

import MetaRne.Library.Regex
import MetaRne.Python.Lines

namespace MetaRne
namespace Lab

open Library.Regex Library.Regex.Matcher Python

/-- What the reader makes of a part of the text: `None`, a `str`, a `list` or a `dict`. -/
inductive TopologyValue
  | none
  | str (text : List Char)
  | list (items : List TopologyValue)
  | dict (entries : List (String × TopologyValue))

/-- The entries of a `dict`, in order. -/
abbrev Entries := List (String × TopologyValue)

/-- What the reader raises.  `stepsExhausted` is not the source's: it would be a count of
steps that was too small. -/
inductive ReaderError
  | topologyParseError (message : String) (values : List (List Char))
  | indexError
  | stepsExhausted

/-- A line: the column it starts in, and its text. -/
abbrev Line := ℕ × List Char

/-! ### Lines -/

/-- `text.rstrip()`. -/
def rstrip (text : List Char) : List Char := (lstrip text.reverse).reverse

/-- `re.sub(r"\s+#.*$", "", line)`. -/
def dropComment : List Char → List Char
  | [] => []
  | c :: rest =>
    if isSpace c && (rest.dropWhile isSpace).head? = some '#' then [] else c :: dropComment rest

/-- `_strip_comment`. -/
def stripComment (line : List Char) : List Char :=
  if line.contains '"' || line.contains '\'' then rstrip line else rstrip (dropComment line)

/-- Neither blank nor a comment. -/
def isSignificant (raw : List Char) : Bool :=
  !(strip raw).isEmpty && (strip raw).head? ≠ some '#'

/-- White space before the text of a line has a tab in it. -/
def isTabbed (raw : List Char) : Bool := (raw.takeWhile isSpace).contains '\t'

/-- The column and the text of a line. -/
def lineOf (raw : List Char) : Line :=
  ((raw.takeWhile fun c => c = ' ').length, stripComment (strip raw))

/-- The loop of `_tokenize`. -/
def tokenizeLines : List (List Char) → Except ReaderError (List Line)
  | [] => .ok []
  | raw :: rest =>
    if !isSignificant raw then tokenizeLines rest
    else if isTabbed raw then
      .error (.topologyParseError "tab indentation is not supported" [])
    else do
      let lines ← tokenizeLines rest
      return lineOf raw :: lines

/-- `_tokenize`. -/
def tokenize (text : List Char) : Except ReaderError (List Line) := tokenizeLines (splitlines text)

/-! ### Scalars -/

/-- `value[1:-1]`. -/
def trimEnds (value : List Char) : List Char := value.tail.dropLast

/-- A flow sequence: `value.startswith("[") and value.endswith("]")`. -/
def isFlowSequence (value : List Char) : Bool :=
  value.head? = some '[' && value.getLast? = some ']'

/-- A text in quotes of one kind. -/
def isQuoted (value : List Char) : Bool :=
  2 ≤ value.length && value.head? = value.getLast? &&
    (value.head? = some '"' || value.head? = some '\'')

/-- `_scalar`, as deep as some number of brackets. -/
def scalarWithin : ℕ → List Char → TopologyValue
  | 0, value => .str value
  | depth + 1, value =>
    let value := strip value
    if isFlowSequence value then
      let inner := strip (trimEnds value)
      .list (if inner = [] then [] else (inner.splitOn ',').map (scalarWithin depth))
    else if isQuoted value then .str (trimEnds value)
    else .str value

/-- `_scalar`: a text has fewer brackets than characters. -/
def scalar (value : List Char) : TopologyValue := scalarWithin (value.length + 1) value

theorem length_strip_le (text : List Char) : (strip text).length ≤ text.length := by
  have hleft : (lstrip text).length ≤ text.length := (List.dropWhile_sublist _).length_le
  have hright : (lstrip (lstrip text).reverse).length ≤ (lstrip text).reverse.length :=
    (List.dropWhile_sublist _).length_le
  rw [List.length_reverse] at hright
  rw [strip, List.length_reverse]
  exact Nat.le_trans hright hleft

theorem length_le_of_mem_intercalate {sep part : List Char} {parts : List (List Char)}
    (h : part ∈ parts) : part.length ≤ (sep.intercalate parts).length := by
  induction parts with
  | nil => exact absurd h List.not_mem_nil
  | cons first parts ih =>
      cases parts with
      | nil => rw [List.mem_singleton.1 h, List.intercalate_singleton]
      | cons second parts =>
          rw [List.intercalate_cons_cons, List.length_append, List.length_append]
          rcases List.mem_cons.1 h with rfl | h
          · omega
          · have hle := ih h
            omega

/-- What stands between separators is no longer than the text. -/
theorem length_le_of_mem_splitOn {sep : Char} {text part : List Char}
    (h : part ∈ text.splitOn sep) : part.length ≤ text.length := by
  have hle := @length_le_of_mem_intercalate [sep] _ _ h
  rwa [List.intercalate_splitOn] at hle

/-- A flow sequence is longer than what stands in its brackets. -/
theorem length_trimEnds_lt {value : List Char} (h : isFlowSequence value = true) :
    (trimEnds value).length < value.length := by
  cases value with
  | nil => cases h
  | cons c value =>
      rw [trimEnds, List.tail_cons, List.length_dropLast, List.length_cons]
      omega

/-- More depth than there are characters makes no difference. -/
theorem scalarWithin_eq {depth depth' : ℕ} {value : List Char} (h : value.length < depth)
    (h' : value.length < depth') : scalarWithin depth value = scalarWithin depth' value := by
  induction depth generalizing depth' value with
  | zero => exact absurd h (Nat.not_lt_zero _)
  | succ depth ih =>
      cases depth' with
      | zero => exact absurd h' (Nat.not_lt_zero _)
      | succ depth' =>
          have hstrip := length_strip_le value
          simp only [scalarWithin]
          by_cases hflow : isFlowSequence (strip value) = true
          · rw [if_pos hflow, if_pos hflow]
            have htrim := length_trimEnds_lt hflow
            have hinner := length_strip_le (trimEnds (strip value))
            congr 2
            refine List.map_congr_left fun part hpart => ?_
            have hpart := length_le_of_mem_splitOn hpart
            exact ih (by omega) (by omega)
          · rw [if_neg hflow, if_neg hflow]

/-- `_scalar`, of a part of a flow sequence. -/
theorem scalar_eq (value : List Char) :
    scalar value =
      if isFlowSequence (strip value) then
        .list (if strip (trimEnds (strip value)) = [] then []
          else ((strip (trimEnds (strip value))).splitOn ',').map scalar)
      else if isQuoted (strip value) then .str (trimEnds (strip value))
      else .str (strip value) := by
  rw [scalar, scalarWithin]
  by_cases hflow : isFlowSequence (strip value) = true
  · simp only [hflow, if_true]
    have hstrip := length_strip_le value
    have htrim := length_trimEnds_lt hflow
    have hinner := length_strip_le (trimEnds (strip value))
    congr 2
    refine List.map_congr_left fun part hpart => ?_
    have hpart := length_le_of_mem_splitOn hpart
    exact scalarWithin_eq (by omega) (Nat.lt_succ_self _)
  · simp only [if_neg hflow]

/-! ### Blocks -/

/-- A character of a key. -/
def isKeyChar (c : Char) : Bool :=
  ('A' ≤ c && c ≤ 'Z') || ('a' ≤ c && c ≤ 'z') || ('0' ≤ c && c ≤ '9') || c = '_' || c = '.' ||
    c = '-'

/-- `_KEY_RE`: a key, and the value on its line. -/
def keyRe : Matcher (String × Option String) := do
  let key ← plus isKeyChar
  let _ ← literal ":"
  let value ← Matcher.optional do
    let _ ← plus isSpace
    star fun c => c ≠ '\n'
  endOfText
  return (key, value)

/-- The key of a line and the value on it; an empty value is none. -/
def keyOf (text : List Char) : Option (String × Option (List Char)) :=
  (match? keyRe text).map fun found =>
    (found.1, (found.2.map String.toList).bind fun value => if value = [] then none else some value)

/-- `result[key] = value`. -/
def setItem (key : String) (value : TopologyValue) (entries : Entries) : Entries :=
  if key ∈ entries.map Prod.fst then
    entries.map fun entry => if entry.1 = key then (key, value) else entry
  else entries ++ [(key, value)]

/-- A line that opens a list: `line.startswith("- ") or line == "-"`. -/
def opensList (text : List Char) : Bool := text = ['-'] || ['-', ' '].isPrefixOf text

/-- A line that is an item where a list is open. -/
def isDashed (text : List Char) : Bool := text.head? = some '-'

/-- What stands behind the dash. -/
def itemText (text : List Char) : List Char := strip text.tail

mutual

/-- `_parse_block`. -/
def parseBlock : ℕ → List Line → ℕ → Except ReaderError (TopologyValue × List Line)
  | 0, _, _ => .error .stepsExhausted
  | _ + 1, [], _ => .error .indexError
  | steps + 1, line :: rest, indent =>
    if opensList line.2 then do
      let (items, after) ← parseSequence steps (line :: rest) indent []
      return (.list items, after)
    else do
      let (entries, after) ← parseMapping steps (line :: rest) indent []
      return (.dict entries, after)

/-- `_parse_mapping`, from the entries that are read so far. -/
def parseMapping : ℕ → List Line → ℕ → Entries → Except ReaderError (Entries × List Line)
  | 0, _, _, _ => .error .stepsExhausted
  | _ + 1, [], _, entries => .ok (entries, [])
  | steps + 1, line :: rest, indent, entries =>
    if line.1 = indent then
      match keyOf line.2 with
      | none => .error (.topologyParseError "unsupported line: %r" [line.2])
      | some (key, some value) =>
        parseMapping steps rest indent (setItem key (scalar value) entries)
      | some (key, none) =>
        if ((rest.head?).any fun next => indent < next.1) then do
          let (value, after) ← parseBlock steps rest ((rest.head?.map Prod.fst).getD indent)
          parseMapping steps after indent (setItem key value entries)
        else parseMapping steps rest indent (setItem key .none entries)
    else if indent < line.1 then
      .error (.topologyParseError "unexpected indentation near %r" [line.2])
    else .ok (entries, line :: rest)

/-- `_parse_sequence`, from the items that are read so far. -/
def parseSequence : ℕ → List Line → ℕ → List TopologyValue →
    Except ReaderError (List TopologyValue × List Line)
  | 0, _, _, _ => .error .stepsExhausted
  | _ + 1, [], _, items => .ok (items, [])
  | steps + 1, line :: rest, indent, items =>
    if line.1 = indent && isDashed line.2 then
      if (keyOf (itemText line.2)).isSome then do
        let further := rest.takeWhile fun next => indent < next.1
        let (mapping, _) ←
          parseMapping steps ((indent + 2, itemText line.2) :: further) (indent + 2) []
        parseSequence steps (rest.dropWhile fun next => indent < next.1) indent
          (items ++ [.dict mapping])
      else parseSequence steps rest indent (items ++ [scalar (itemText line.2)])
    else .ok (items, line :: rest)

end

/-- `parse_topology`. -/
def parseTopology (text : List Char) : Except ReaderError Entries := do
  let lines ← tokenize text
  match lines with
  | [] => .error (.topologyParseError "topology file is empty" [])
  | line :: rest =>
    let (parsed, after) ← parseBlock (3 * (rest.length + 1) + 3) (line :: rest) line.1
    match parsed with
    | .dict entries =>
      if after = [] then .ok entries
      else .error (.topologyParseError "topology file is not a single top-level mapping" [])
    | _ => .error (.topologyParseError "topology file is not a single top-level mapping" [])

end Lab
end MetaRne
