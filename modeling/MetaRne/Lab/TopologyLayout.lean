/-
# What the lines of a topology say

`LaidOut` says what a block of lines stands for, without the reader: every line is one
key of the mapping or one item of the list that its column puts it in, the keys of a
mapping differ, and the entries stand in the order of the lines.

`Tidy` goes through the lines once and knows only in which columns a list is open.  It
asks two things: that no later line of a mapping repeats a key, and that under a
`- key:` item no line stands one column right of the dash.  Lines that are laid out are
tidy (`LaidOut.tidy`).
-/

import MetaRne.Lab.TopologyReader
import Mathlib.Data.List.TakeWhile
import Mathlib.Order.Nat

namespace MetaRne
namespace Lab

open Library.Regex Library.Regex.Matcher Python

/-! ### Layout -/

/-- What a block of lines stands for. -/
inductive Form
  | mapping (entries : Entries)
  | sequence (items : List TopologyValue)

def Form.value : Form → TopologyValue
  | .mapping entries => .dict entries
  | .sequence items => .list items

def Form.isSequence : Form → Bool
  | .mapping _ => false
  | .sequence _ => true

/-- **The lines of a block in a column stand for a mapping or a list**, each line for one key
or one item. -/
inductive LaidOut : ℕ → List Line → Form → Prop
  | mappingNil {n : ℕ} : LaidOut n [] (.mapping [])
  | mappingScalar {n : ℕ} {text value : List Char} {key : String} {rest : List Line}
      {entries : Entries} (hkey : keyOf text = some (key, some value))
      (hnew : key ∉ entries.map Prod.fst) (hrest : LaidOut n rest (.mapping entries)) :
      LaidOut n ((n, text) :: rest) (.mapping ((key, scalar value) :: entries))
  | mappingNone {n : ℕ} {text : List Char} {key : String} {rest : List Line} {entries : Entries}
      (hkey : keyOf text = some (key, none)) (hnew : key ∉ entries.map Prod.fst)
      (hrest : LaidOut n rest (.mapping entries)) :
      LaidOut n ((n, text) :: rest) (.mapping ((key, .none) :: entries))
  | mappingBlock {n m : ℕ} {text first : List Char} {key : String} {nested rest : List Line}
      {form : Form} {entries : Entries} (hkey : keyOf text = some (key, none)) (hdeeper : n < m)
      (hfirst : opensList first = form.isSequence) (hblock : LaidOut m ((m, first) :: nested) form)
      (hnew : key ∉ entries.map Prod.fst) (hrest : LaidOut n rest (.mapping entries)) :
      LaidOut n ((n, text) :: ((m, first) :: nested ++ rest))
        (.mapping ((key, form.value) :: entries))
  | sequenceNil {n : ℕ} : LaidOut n [] (.sequence [])
  | sequenceScalar {n : ℕ} {text : List Char} {rest : List Line} {items : List TopologyValue}
      (hdash : isDashed text = true) (hkey : keyOf (itemText text) = none)
      (hrest : LaidOut n rest (.sequence items)) :
      LaidOut n ((n, text) :: rest) (.sequence (scalar (itemText text) :: items))
  | sequenceMapping {n : ℕ} {text : List Char} {further rest : List Line} {entries : Entries}
      {items : List TopologyValue} (hdash : isDashed text = true)
      (hitem : LaidOut (n + 2) ((n + 2, itemText text) :: further) (.mapping entries))
      (hrest : LaidOut n rest (.sequence items)) :
      LaidOut n ((n, text) :: (further ++ rest)) (.sequence (.dict entries :: items))

/-- The lines that count: not blank, and no comments. -/
def significantLines (text : List Char) : List (List Char) :=
  (splitlines text).filter isSignificant

/-- **A text is read whole**: every line that counts is one key or one item of the mapping. -/
def ReadsWhole (text : List Char) (entries : Entries) : Prop :=
  ∃ n, LaidOut n ((significantLines text).map lineOf) (.mapping entries)

/-! ### Tidy lines -/

/-- The key that a line starts with. -/
def keyName (text : List Char) : Option String := (keyOf text).map Prod.fst

/-- The columns in which a list is open at a line: one is opened by a dash, and closed by a line
further left. -/
def openLists (columns : List ℕ) (line : Line) : List ℕ :=
  (if opensList line.2 then [line.1] else []) ++ columns.filter fun column => column ≤ line.1

/-- The column and the key that a line adds to a mapping.  The mapping of a list's item stands
two columns right of the dash. -/
def entryOf (inList : Prop) [Decidable inList] (line : Line) : Option (ℕ × String) :=
  if inList then (keyName (itemText line.2)).map fun key => (line.1 + 2, key)
  else (keyName line.2).map fun key => (line.1, key)

/-- Under a `- key:` item no line stands one column right of the dash. -/
def NoHalfStep (inList : Prop) (line : Line) (rest : List Line) : Prop :=
  inList → (keyName (itemText line.2)).isSome →
    ∀ next ∈ rest.takeWhile (fun next => line.1 < next.1), next.1 ≠ line.1 + 1

/-- No later line of the mapping has the key of this one. -/
def KeyOnce (inList : Prop) [Decidable inList] (line : Line) (rest : List Line) : Prop :=
  ∀ entry ∈ entryOf inList line,
    ∀ next ∈ rest.takeWhile (fun next => entry.1 ≤ next.1),
      next.1 = entry.1 → keyName next.2 ≠ some entry.2

/-- **No key is repeated and no line is half a step in.** -/
def Tidy : List ℕ → List Line → Prop
  | _, [] => True
  | columns, line :: rest =>
    NoHalfStep (line.1 ∈ openLists columns line) line rest ∧
      KeyOnce (line.1 ∈ openLists columns line) line rest ∧
      Tidy (openLists columns line) rest

instance decidableTidy : ∀ (columns : List ℕ) (lines : List Line), Decidable (Tidy columns lines)
  | _, [] => isTrue trivial
  | columns, line :: rest =>
    have : Decidable (Tidy (openLists columns line) rest) :=
      decidableTidy (openLists columns line) rest
    inferInstanceAs (Decidable ((line.1 ∈ openLists columns line →
      (keyName (itemText line.2)).isSome →
        ∀ next ∈ rest.takeWhile (fun next => line.1 < next.1), next.1 ≠ line.1 + 1) ∧
      (∀ entry ∈ entryOf (line.1 ∈ openLists columns line) line,
        ∀ next ∈ rest.takeWhile (fun next => entry.1 ≤ next.1),
          next.1 = entry.1 → keyName next.2 ≠ some entry.2) ∧
      Tidy (openLists columns line) rest))

/-! ### Keys and dashes -/

/-- What stands before a key's colon is of a key's characters. -/
theorem exists_key_of_keyOf {text : List Char} {found : String × Option (List Char)}
    (h : keyOf text = some found) :
    ∃ key rest, key ≠ [] ∧ (∀ c ∈ key, isKeyChar c = true) ∧ text = key ++ ':' :: rest := by
  obtain ⟨captured, hmatch, -⟩ := Option.map_eq_some_iff.1 h
  obtain ⟨after, hmem⟩ := mem_of_match? hmatch
  obtain ⟨key, afterKey, hkey, hmem⟩ := mem_bind.1 hmem
  obtain ⟨colon, afterColon, hcolon, -⟩ := mem_bind.1 hmem
  obtain ⟨htext, hall, hne⟩ := mem_plus.1 hkey
  obtain ⟨-, rfl⟩ := mem_literal.1 hcolon
  exact ⟨key.toList, afterColon, hne, hall, htext⟩

/-- A line that has a key opens no list: behind a dash that does stands a blank, or nothing. -/
theorem opensList_of_keyOf {text : List Char} {found : String × Option (List Char)}
    (h : keyOf text = some found) : opensList text = false := by
  obtain ⟨key, rest, hne, hall, rfl⟩ := exists_key_of_keyOf h
  rw [opensList, Bool.or_eq_false_iff, decide_eq_false_iff_not]
  obtain ⟨c, key, rfl⟩ := List.exists_cons_of_ne_nil hne
  constructor
  · intro hdash
    exact List.append_ne_nil_of_right_ne_nil key (List.cons_ne_nil ':' rest)
      (List.cons.inj hdash).2
  · rw [Bool.eq_false_iff]
    intro hstart
    obtain ⟨tail, htail⟩ := List.isPrefixOf_iff_prefix.1 hstart
    obtain ⟨-, htail⟩ := List.cons.inj htail
    cases key with
    | nil => exact absurd (List.cons.inj htail).1 (by decide)
    | cons d key =>
        obtain ⟨rfl, -⟩ := List.cons.inj htail
        exact absurd (hall ' ' (List.mem_cons_of_mem _ List.mem_cons_self)) (by decide)

theorem isDashed_of_opensList {text : List Char} (h : opensList text = true) :
    isDashed text = true := by
  rw [opensList, Bool.or_eq_true, decide_eq_true_eq] at h
  rcases h with rfl | h
  · rfl
  · obtain ⟨tail, rfl⟩ := List.isPrefixOf_iff_prefix.1 h
    rfl

theorem keyName_eq_none {text : List Char} : keyName text = none ↔ keyOf text = none :=
  Option.map_eq_none_iff

theorem keyName_of_keyOf {text : List Char} {key : String} {value : Option (List Char)}
    (h : keyOf text = some (key, value)) : keyName text = some key := by
  rw [keyName, h]
  rfl

/-! ### Open lists -/

theorem mem_openLists {columns : List ℕ} {line : Line} {column : ℕ} :
    column ∈ openLists columns line ↔
      (opensList line.2 = true ∧ column = line.1) ∨ (column ∈ columns ∧ column ≤ line.1) := by
  unfold openLists
  rw [List.mem_append, List.mem_filter, decide_eq_true_eq]
  cases opensList line.2
  · simp only [Bool.false_eq_true, if_false, List.not_mem_nil, false_and]
  · simp only [if_true, List.mem_singleton, true_and]

theorem le_of_mem_openLists {columns : List ℕ} {line : Line} {column : ℕ}
    (h : column ∈ openLists columns line) : column ≤ line.1 :=
  (mem_openLists.1 h).elim (fun h => h.2.le) fun h => h.2

/-- A line with a key in a mapping is in no list. -/
theorem not_mem_openLists {columns : List ℕ} {line : Line} {found : String × Option (List Char)}
    (hcolumn : line.1 ∉ columns) (hkey : keyOf line.2 = some found) :
    line.1 ∉ openLists columns line := by
  rw [mem_openLists, opensList_of_keyOf hkey]
  rintro (⟨hfalse, -⟩ | ⟨hmem, -⟩)
  · cases hfalse
  · exact hcolumn hmem

/-- The first line of an item's mapping opens no list, and closes none further left. -/
theorem openLists_item {columns : List ℕ} {line : Line} {item : List Char}
    {found : String × Option (List Char)} (h : keyOf item = some found) :
    openLists (openLists columns line) (line.1 + 2, item) = openLists columns line := by
  rw [openLists, opensList_of_keyOf h]
  refine List.filter_eq_self.2 fun column hcolumn => decide_eq_true ?_
  exact (le_of_mem_openLists hcolumn).trans (Nat.le_add_right _ 2)

/-- Whether a list is open further left does not depend on lines further right. -/
theorem filter_openLists {columns : List ℕ} {line : Line} {column : ℕ} (h : column < line.1) :
    (openLists columns line).filter (fun c => c ≤ column) =
      columns.filter fun c => c ≤ column := by
  have hnew : (if opensList line.2 then [line.1] else []).filter (fun c => c ≤ column) = [] := by
    refine List.filter_eq_nil_iff.2 fun c hc => ?_
    split_ifs at hc
    · rw [List.mem_singleton.1 hc, decide_eq_true_eq]
      exact not_le.2 h
    · exact absurd hc List.not_mem_nil
  rw [openLists, List.filter_append, hnew, List.nil_append, List.filter_filter]
  refine List.filter_congr fun c _ => ?_
  by_cases hc : c ≤ column
  · have hle : c ≤ line.1 := by omega
    simp only [hc, hle, decide_true, Bool.and_true]
  · simp only [hc, decide_false, Bool.false_and]

/-- What a line looks at of the open lists. -/
theorem openLists_congr {columns columns' : List ℕ} {line : Line}
    (h : columns.filter (fun c => c ≤ line.1) = columns'.filter fun c => c ≤ line.1) :
    openLists columns line = openLists columns' line := by
  rw [openLists, openLists, h]

/-! ### Tidy parts -/

theorem tidy_congr {columns columns' : List ℕ} {lines : List Line}
    (h : ∀ line ∈ lines.head?, columns.filter (fun c => c ≤ line.1) =
      columns'.filter fun c => c ≤ line.1) :
    Tidy columns lines ↔ Tidy columns' lines := by
  cases lines with
  | nil => exact Iff.rfl
  | cons line rest =>
      have hopen := openLists_congr (h line rfl)
      rw [Tidy, Tidy, hopen]

theorem mem_takeWhile_append {α : Type} {p : α → Bool} {a b : List α} {x : α}
    (h : x ∈ a.takeWhile p) : x ∈ (a ++ b).takeWhile p := by
  rw [List.takeWhile_append]
  split_ifs with hall
  · exact List.mem_append_left _ ((List.takeWhile_sublist p).mem h)
  · exact h

theorem mem_takeWhile_of_stop {α : Type} {p : α → Bool} {a b : List α} {x : α}
    (h : ∀ y ∈ b.head?, p y = false) (hx : x ∈ (a ++ b).takeWhile p) : x ∈ a.takeWhile p := by
  have hb : b.takeWhile p = [] := by
    cases b with
    | nil => rfl
    | cons y b => exact List.takeWhile_cons_of_neg (by rw [h y rfl]; exact Bool.false_ne_true)
  rw [List.takeWhile_append, hb, List.append_nil] at hx
  split_ifs at hx with hall
  · rw [(List.takeWhile_sublist p).eq_of_length hall]
    exact hx
  · exact hx

/-- The beginning of tidy lines is tidy. -/
theorem Tidy.left {columns : List ℕ} {a b : List Line} (h : Tidy columns (a ++ b)) :
    Tidy columns a := by
  induction a generalizing columns with
  | nil => trivial
  | cons line a ih =>
      obtain ⟨hstep, hkey, hrest⟩ := h
      refine ⟨fun hlist hitem next hnext => ?_, fun entry hentry next hnext => ?_, ih hrest⟩
      · exact hstep hlist hitem next (mem_takeWhile_append hnext)
      · exact hkey entry hentry next (mem_takeWhile_append hnext)

/-- What is left of tidy lines is tidy, if it starts further left. -/
theorem Tidy.right {columns : List ℕ} {a b : List Line} (h : Tidy columns (a ++ b))
    (hcolumns : ∀ first ∈ b.head?, ∀ line ∈ a, first.1 < line.1) : Tidy columns b := by
  induction a generalizing columns with
  | nil => exact h
  | cons line a ih =>
      obtain ⟨-, -, hrest⟩ := h
      have hb := ih hrest fun first hfirst next hnext =>
        hcolumns first hfirst next (List.mem_cons_of_mem _ hnext)
      exact (tidy_congr fun first hfirst =>
        filter_openLists (hcolumns first hfirst line List.mem_cons_self)).1 hb

/-- Tidy lines and what follows further left. -/
theorem Tidy.append {columns : List ℕ} {a b : List Line} (ha : Tidy columns a)
    (hb : Tidy columns b) (hcolumns : ∀ first ∈ b.head?, ∀ line ∈ a, first.1 < line.1) :
    Tidy columns (a ++ b) := by
  induction a generalizing columns with
  | nil => exact hb
  | cons line a ih =>
      obtain ⟨hstep, hkey, hrest⟩ := ha
      have hstop : ∀ {n : ℕ}, line.1 ≤ n → ∀ first ∈ b.head?, decide (n ≤ first.1) = false := by
        intro n hn first hfirst
        have hlt := hcolumns first hfirst line List.mem_cons_self
        exact decide_eq_false (by omega)
      refine ⟨fun hlist hitem next hnext => ?_, fun entry hentry next hnext => ?_,
        ih hrest ?_ fun first hfirst next hnext =>
          hcolumns first hfirst next (List.mem_cons_of_mem _ hnext)⟩
      · exact hstep hlist hitem next (mem_takeWhile_of_stop (hstop (Nat.le_succ _)) hnext)
      · have hentry' : line.1 ≤ entry.1 := by
          unfold entryOf at hentry
          split_ifs at hentry
          · obtain ⟨key, -, rfl⟩ := Option.map_eq_some_iff.1 hentry
            exact Nat.le_add_right _ 2
          · obtain ⟨key, -, rfl⟩ := Option.map_eq_some_iff.1 hentry
            exact le_rfl
        exact hkey entry hentry next (mem_takeWhile_of_stop (hstop hentry') hnext)
      · exact (tidy_congr fun first hfirst =>
          filter_openLists (hcolumns first hfirst line List.mem_cons_self)).2 hb

/-! ### Laid out lines are tidy -/

section LaidOut

variable {n : ℕ} {lines : List Line} {form : Form} {entries : Entries}

/-- A block starts in its column. -/
theorem LaidOut.head_column (h : LaidOut n lines form) : ∀ line ∈ lines.head?, line.1 = n := by
  intro line hline
  cases h with
  | mappingNil => cases hline
  | sequenceNil => cases hline
  | _ => rw [← Option.some.inj hline]

/-- No line of a block stands left of its column. -/
theorem LaidOut.le_column (h : LaidOut n lines form) : ∀ line ∈ lines, n ≤ line.1 := by
  induction h with
  | mappingNil => exact nofun
  | mappingScalar hkey hnew hrest ih => exact List.forall_mem_cons.2 ⟨le_rfl, ih⟩
  | mappingNone hkey hnew hrest ih => exact List.forall_mem_cons.2 ⟨le_rfl, ih⟩
  | mappingBlock hkey hdeeper hfirst hblock hnew hrest ihblock ih =>
      refine List.forall_mem_cons.2 ⟨le_rfl, List.forall_mem_append.2 ⟨fun line hline => ?_, ih⟩⟩
      exact hdeeper.le.trans (ihblock line hline)
  | sequenceNil => exact nofun
  | sequenceScalar hdash hkey hrest ih => exact List.forall_mem_cons.2 ⟨le_rfl, ih⟩
  | sequenceMapping hdash hitem hrest ihitem ih =>
      refine List.forall_mem_cons.2 ⟨le_rfl, List.forall_mem_append.2 ⟨fun line hline => ?_, ih⟩⟩
      exact (Nat.le_add_right _ 2).trans (ihitem line (List.mem_cons_of_mem _ hline))

/-- A mapping starts with a key. -/
theorem LaidOut.exists_keyOf {text : List Char} {rest : List Line}
    (h : LaidOut n ((n, text) :: rest) (.mapping entries)) : ∃ found, keyOf text = some found := by
  generalize hlines : (n, text) :: rest = lines at h
  cases h with
  | mappingNil => cases hlines
  | mappingScalar hkey hnew hrest =>
      cases hlines
      exact ⟨_, hkey⟩
  | mappingNone hkey hnew hrest =>
      cases hlines
      exact ⟨_, hkey⟩
  | mappingBlock hkey hdeeper hfirst hblock hnew hrest =>
      cases hlines
      exact ⟨_, hkey⟩

/-- The keys in the column of a mapping are its keys. -/
theorem LaidOut.keyName_mem (h : LaidOut n lines (.mapping entries)) {line : Line}
    (hline : line ∈ lines) (hcolumn : line.1 = n) {key : String}
    (hkey : keyName line.2 = some key) : key ∈ entries.map Prod.fst := by
  generalize hform : Form.mapping entries = form at h
  induction h generalizing entries with
  | mappingNil => exact absurd hline List.not_mem_nil
  | mappingScalar hkey' hnew hrest ih =>
      cases hform
      rcases List.mem_cons.1 hline with rfl | hline
      · rw [keyName_of_keyOf hkey'] at hkey
        exact Option.some.inj hkey ▸ List.mem_cons_self
      · exact List.mem_cons_of_mem _ (ih hline hcolumn rfl)
  | mappingNone hkey' hnew hrest ih =>
      cases hform
      rcases List.mem_cons.1 hline with rfl | hline
      · rw [keyName_of_keyOf hkey'] at hkey
        exact Option.some.inj hkey ▸ List.mem_cons_self
      · exact List.mem_cons_of_mem _ (ih hline hcolumn rfl)
  | mappingBlock hkey' hdeeper hfirst hblock hnew hrest ihblock ih =>
      cases hform
      rcases List.mem_cons.1 hline with rfl | hline
      · rw [keyName_of_keyOf hkey'] at hkey
        exact Option.some.inj hkey ▸ List.mem_cons_self
      · rcases List.mem_append.1 hline with hline | hline
        · have hle := hblock.le_column line hline
          omega
        · exact List.mem_cons_of_mem _ (ih hline hcolumn rfl)
  | sequenceNil => cases hform
  | sequenceScalar hdash hkey' hrest ih => cases hform
  | sequenceMapping hdash hitem hrest ihitem ih => cases hform

/-- The keys of a mapping are those in its column. -/
theorem LaidOut.exists_line (h : LaidOut n lines (.mapping entries)) {key : String}
    (hkey : key ∈ entries.map Prod.fst) :
    ∃ line ∈ lines, line.1 = n ∧ keyName line.2 = some key := by
  generalize hform : Form.mapping entries = form at h
  induction h generalizing entries with
  | mappingNil =>
      cases hform
      exact absurd hkey List.not_mem_nil
  | mappingScalar hkey' hnew hrest ih =>
      cases hform
      rcases List.mem_cons.1 hkey with rfl | hkey
      · exact ⟨_, List.mem_cons_self, rfl, keyName_of_keyOf hkey'⟩
      · obtain ⟨line, hline, hat⟩ := ih hkey rfl
        exact ⟨line, List.mem_cons_of_mem _ hline, hat⟩
  | mappingNone hkey' hnew hrest ih =>
      cases hform
      rcases List.mem_cons.1 hkey with rfl | hkey
      · exact ⟨_, List.mem_cons_self, rfl, keyName_of_keyOf hkey'⟩
      · obtain ⟨line, hline, hat⟩ := ih hkey rfl
        exact ⟨line, List.mem_cons_of_mem _ hline, hat⟩
  | mappingBlock hkey' hdeeper hfirst hblock hnew hrest ihblock ih =>
      cases hform
      rcases List.mem_cons.1 hkey with rfl | hkey
      · exact ⟨_, List.mem_cons_self, rfl, keyName_of_keyOf hkey'⟩
      · obtain ⟨line, hline, hat⟩ := ih hkey rfl
        exact ⟨line, List.mem_cons_of_mem _ (List.mem_append_right _ hline), hat⟩
  | sequenceNil => cases hform
  | sequenceScalar hdash hkey' hrest ih => cases hform
  | sequenceMapping hdash hitem hrest ihitem ih => cases hform

/-- Whether a list is open in the column of a block goes by its form. -/
def FitsOpenLists (columns : List ℕ) (n : ℕ) (lines : List Line) : Form → Prop
  | .mapping _ => n ∉ columns
  | .sequence _ => ∀ line ∈ lines.head?, n ∈ openLists columns line

/-- A line of a mapping, with the lines after it. -/
theorem tidy_cons_of_mapping {columns : List ℕ} {text : List Char} {key : String}
    {value : Option (List Char)} {rest : List Line} (hcolumn : n ∉ columns)
    (hkey : keyOf text = some (key, value))
    (hnew : ∀ next ∈ rest, next.1 = n → keyName next.2 ≠ some key)
    (hrest : Tidy (openLists columns (n, text)) rest) : Tidy columns ((n, text) :: rest) := by
  have hlist : n ∉ openLists columns (n, text) :=
    @not_mem_openLists columns (n, text) _ hcolumn hkey
  refine ⟨fun h => absurd h hlist, fun entry hentry next hnext hat => ?_, hrest⟩
  rw [entryOf, if_neg hlist, keyName_of_keyOf hkey] at hentry
  obtain rfl := Option.some.inj hentry
  exact hnew next ((List.takeWhile_sublist _).mem hnext) hat

/-- **Lines that are laid out are tidy.** -/
theorem LaidOut.tidy (h : LaidOut n lines form) {columns : List ℕ}
    (hfits : FitsOpenLists columns n lines form) : Tidy columns lines := by
  induction h generalizing columns with
  | mappingNil => trivial
  | mappingScalar hkey hnew hrest ih =>
      refine tidy_cons_of_mapping hfits hkey (fun next hnext hat hname => ?_)
        (ih (@not_mem_openLists columns (_, _) _ hfits hkey))
      exact hnew (hrest.keyName_mem hnext hat hname)
  | mappingNone hkey hnew hrest ih =>
      refine tidy_cons_of_mapping hfits hkey (fun next hnext hat hname => ?_)
        (ih (@not_mem_openLists columns (_, _) _ hfits hkey))
      exact hnew (hrest.keyName_mem hnext hat hname)
  | @mappingBlock n m text first key nested rest form entries hkey hdeeper hfirst hblock hnew hrest
      ihblock ih =>
      have hlist := @not_mem_openLists columns (n, text) _ hfits hkey
      refine tidy_cons_of_mapping hfits hkey (fun next hnext hat hname => ?_)
        (Tidy.append (ihblock ?_) (ih hlist) fun line hline inner hinner => ?_)
      · rcases List.mem_append.1 hnext with hnext | hnext
        · have hle := hblock.le_column next hnext
          omega
        · exact hnew (hrest.keyName_mem hnext hat hname)
      · cases form with
        | mapping entries =>
            intro hmem
            rcases mem_openLists.1 hmem with ⟨-, heq⟩ | ⟨-, hle⟩
            · exact hdeeper.ne' heq
            · exact absurd hle (not_le.2 hdeeper)
        | sequence items =>
            intro line hline
            obtain rfl := Option.some.inj hline
            exact mem_openLists.2 (.inl ⟨hfirst, rfl⟩)
      · have hle := hblock.le_column inner hinner
        rw [hrest.head_column line hline]
        exact hdeeper.trans_le hle
  | sequenceNil => trivial
  | @sequenceScalar n text rest items hdash hkey hrest ih =>
      have hlist : n ∈ openLists columns (n, text) := hfits _ rfl
      have hnone : keyName (itemText text) = none := keyName_eq_none.2 hkey
      refine ⟨fun _ hitem => ?_, fun entry hentry => ?_, ih fun line hline => ?_⟩
      · rw [hnone] at hitem
        cases hitem
      · rw [entryOf, if_pos hlist, hnone] at hentry
        cases hentry
      · exact mem_openLists.2 (.inr ⟨hlist, (hrest.head_column line hline).ge⟩)
  | @sequenceMapping n text further rest entries items hdash hitem hrest ihitem ih =>
      have hlist : n ∈ openLists columns (n, text) := hfits _ rfl
      have hfurther : ∀ next ∈ further, n + 2 ≤ next.1 := fun next hnext =>
        hitem.le_column next (List.mem_cons_of_mem _ hnext)
      have hstop : ∀ {k : ℕ}, n < k → ∀ line ∈ rest.head?, decide (k ≤ line.1) = false := by
        intro k hk line hline
        rw [hrest.head_column line hline]
        exact decide_eq_false (not_le.2 hk)
      have hfar : n + 2 ∉ openLists columns (n, text) := by
        intro hmem
        rcases mem_openLists.1 hmem with ⟨-, heq⟩ | ⟨-, hle⟩
        · exact absurd heq (Nat.ne_of_gt (Nat.lt_add_of_pos_right (by decide)))
        · exact absurd hle (not_le.2 (Nat.lt_add_of_pos_right (by decide)))
      obtain ⟨-, honce, htidy⟩ := @ihitem (openLists columns (n, text)) hfar
      have hitemKey : ∀ key, keyName (itemText text) = some key → ∀ next ∈ further,
          next.1 = n + 2 → keyName next.2 ≠ some key := by
        intro key hkey next hnext hat
        refine honce (n + 2, key) ?_ next ?_ hat
        · have hnot : n + 2 ∉ openLists (openLists columns (n, text)) (n + 2, itemText text) := by
            obtain ⟨found, hfound, -⟩ := Option.map_eq_some_iff.1 hkey
            exact @not_mem_openLists _ (n + 2, itemText text) found hfar hfound
          rw [entryOf, if_neg hnot, hkey]
          rfl
        · rw [List.takeWhile_eq_self_iff.2 fun line hline => decide_eq_true (hfurther line hline)]
          exact hnext
      have hopen : openLists (openLists columns (n, text)) (n + 2, itemText text) =
          openLists columns (n, text) :=
        @openLists_item columns (n, text) _ _ hitem.exists_keyOf.choose_spec
      refine ⟨fun _ _ next hnext => ?_, fun entry hentry next hnext hat => ?_,
        Tidy.append ?_ (ih fun line hline => ?_) fun line hline inner hinner => ?_⟩
      · have hle := hfurther next (mem_takeWhile_of_stop (hstop (Nat.lt_succ_self n)) hnext |>
          (List.takeWhile_sublist _).mem)
        exact Nat.ne_of_gt hle
      · rw [entryOf, if_pos hlist] at hentry
        obtain ⟨key, hkey, rfl⟩ := Option.map_eq_some_iff.1 hentry
        exact hitemKey key hkey next ((List.takeWhile_sublist _).mem
          (mem_takeWhile_of_stop (hstop (Nat.lt_add_of_pos_right (by decide))) hnext)) hat
      · rw [← hopen]
        exact htidy
      · exact mem_openLists.2 (.inr ⟨hlist, (hrest.head_column line hline).ge⟩)
      · have hle := hfurther inner hinner
        rw [hrest.head_column line hline]
        omega

end LaidOut

end Lab
end MetaRne
