/-
# The topology reader and the lines

The three readers, step by step: what each takes off the lines (`mappingStep`,
`sequenceStep`), that none runs out of steps (`parseTopology_error`), and that tidy lines
are read as they are laid out (`Reads`).  With the converse of the layout, an accepted
text is read whole exactly if its lines are tidy.
-/

import MetaRne.Lab.TopologyLayout
import MetaRne.Library.Effect

namespace MetaRne
namespace Lab

open Library.Effect Python

/-! ### Steps -/

/-- One round of `_parse_mapping` that does not raise. -/
inductive MappingStep (steps n : ℕ) (line : Line) (rest : List Line) (read : Entries)
    (entries : Entries) (after : List Line) : Prop
  | left (hcolumn : line.1 < n) (hentries : entries = read) (hafter : after = line :: rest)
  | scalar (key : String) (value : List Char) (hcolumn : line.1 = n)
      (hkey : keyOf line.2 = some (key, some value))
      (hrest : parseMapping steps rest n (setItem key (scalar value) read) = .ok (entries, after))
  | none (key : String) (hcolumn : line.1 = n) (hkey : keyOf line.2 = some (key, none))
      (hrest : parseMapping steps rest n (setItem key .none read) = .ok (entries, after))
  | block (key : String) (m : ℕ) (value : TopologyValue) (mid : List Line) (hcolumn : line.1 = n)
      (hkey : keyOf line.2 = some (key, none)) (hdeeper : n < m)
      (hhead : ∀ next ∈ rest.head?, next.1 = m)
      (hblock : parseBlock steps rest m = .ok (value, mid))
      (hrest : parseMapping steps mid n (setItem key value read) = .ok (entries, after))

theorem mappingStep {steps n : ℕ} {line : Line} {rest after : List Line} {read entries : Entries}
    (h : parseMapping (steps + 1) (line :: rest) n read = .ok (entries, after)) :
    MappingStep steps n line rest read entries after := by
  rw [parseMapping] at h
  by_cases hcolumn : line.1 = n
  · rw [if_pos hcolumn] at h
    cases hkey : keyOf line.2 with
    | none =>
        rw [hkey] at h
        cases h
    | some found =>
        obtain ⟨key, value⟩ := found
        rw [hkey] at h
        cases value with
        | some value => exact .scalar key value hcolumn hkey h
        | none =>
            cases rest with
            | nil => exact .none key hcolumn hkey h
            | cons next rest =>
                simp only [List.head?_cons, Option.any_some, decide_eq_true_eq] at h
                split_ifs at h with hdeeper
                · obtain ⟨⟨value, mid⟩, hblock, hrest⟩ := except_bind_eq_ok.1 h
                  refine .block key next.1 value mid hcolumn hkey hdeeper (fun l hl => ?_) hblock hrest
                  rw [← Option.some.inj hl]
                · exact .none key hcolumn hkey h
  · rw [if_neg hcolumn] at h
    split_ifs at h with hdeeper
    obtain ⟨rfl, rfl⟩ := Prod.mk.inj (Except.ok.inj h)
    exact .left (by omega) rfl rfl

/-- One round of `_parse_sequence` that does not raise. -/
inductive SequenceStep (steps n : ℕ) (line : Line) (rest : List Line) (read : List TopologyValue)
    (items : List TopologyValue) (after : List Line) : Prop
  | left (hother : ¬ (line.1 = n ∧ isDashed line.2 = true)) (hitems : items = read)
      (hafter : after = line :: rest)
  | scalar (hcolumn : line.1 = n) (hdash : isDashed line.2 = true)
      (hkey : keyOf (itemText line.2) = none)
      (hrest : parseSequence steps rest n (read ++ [scalar (itemText line.2)]) = .ok (items, after))
  | mapping (mapping : Entries) (dropped : List Line) (hcolumn : line.1 = n)
      (hdash : isDashed line.2 = true) (hkey : (keyOf (itemText line.2)).isSome)
      (hitem : parseMapping steps
        ((n + 2, itemText line.2) :: rest.takeWhile fun next => n < next.1) (n + 2) [] =
          .ok (mapping, dropped))
      (hrest : parseSequence steps (rest.dropWhile fun next => n < next.1) n
        (read ++ [.dict mapping]) = .ok (items, after))

theorem sequenceStep {steps n : ℕ} {line : Line} {rest after : List Line}
    {read items : List TopologyValue}
    (h : parseSequence (steps + 1) (line :: rest) n read = .ok (items, after)) :
    SequenceStep steps n line rest read items after := by
  rw [parseSequence] at h
  by_cases hcond : line.1 = n ∧ isDashed line.2 = true
  · rw [if_pos (by simp only [hcond, decide_true, Bool.and_self])] at h
    split_ifs at h with hkey
    · obtain ⟨⟨mapping, dropped⟩, hitem, hrest⟩ := except_bind_eq_ok.1 h
      exact .mapping mapping dropped hcond.1 hcond.2 hkey hitem hrest
    · exact .scalar hcond.1 hcond.2 (Option.not_isSome_iff_eq_none.1 hkey) h
  · rw [if_neg (by simpa only [Bool.and_eq_true, decide_eq_true_eq] using hcond)] at h
    obtain ⟨rfl, rfl⟩ := Prod.mk.inj (Except.ok.inj h)
    exact .left hcond rfl rfl

/-- `_parse_mapping` stops at a line further left, or raises. -/
theorem parseMapping_head {steps n : ℕ} {lines after : List Line} {read entries : Entries}
    (h : parseMapping steps lines n read = .ok (entries, after)) :
    ∀ line ∈ lines.head?, line.1 ≤ n := by
  intro line hline
  cases steps with
  | zero => cases h
  | succ steps =>
      cases lines with
      | nil => cases hline
      | cons first rest =>
          obtain rfl := Option.some.inj hline
          cases mappingStep h with
          | left hcolumn => exact hcolumn.le
          | scalar key value hcolumn => exact hcolumn.le
          | none key hcolumn => exact hcolumn.le
          | block key m value mid hcolumn => exact hcolumn.le

theorem setItem_of_new {key : String} {entries : Entries} (h : key ∉ entries.map Prod.fst)
    (value : TopologyValue) : setItem key value entries = entries ++ [(key, value)] := if_neg h

/-! ### The readers stop -/

/-- The reader rejects the text. -/
def IsRejection (e : ReaderError) : Prop := ∃ message values, e = .topologyParseError message values

/-- What a reader leaves is no longer than what it was given. -/
structure Shortens (steps : ℕ) : Prop where
  block : ∀ {lines m value after}, parseBlock steps lines m = .ok (value, after) →
    after.length ≤ lines.length
  mapping : ∀ {lines n read entries after},
    parseMapping steps lines n read = .ok (entries, after) → after.length ≤ lines.length
  sequence : ∀ {lines n read items after},
    parseSequence steps lines n read = .ok (items, after) → after.length ≤ lines.length

theorem shortens (steps : ℕ) : Shortens steps := by
  induction steps with
  | zero => exact ⟨nofun, nofun, nofun⟩
  | succ steps ih =>
      refine ⟨fun {lines m value after} h => ?_, fun {lines n read entries after} h => ?_,
        fun {lines n read items after} h => ?_⟩
      · cases lines with
        | nil => cases h
        | cons line rest =>
            rw [parseBlock] at h
            split_ifs at h
            · obtain ⟨⟨items, after'⟩, hsequence, h⟩ := except_bind_eq_ok.1 h
              obtain ⟨-, rfl⟩ := Prod.mk.inj (Except.ok.inj h)
              exact ih.sequence hsequence
            · obtain ⟨⟨entries, after'⟩, hmapping, h⟩ := except_bind_eq_ok.1 h
              obtain ⟨-, rfl⟩ := Prod.mk.inj (Except.ok.inj h)
              exact ih.mapping hmapping
      · cases lines with
        | nil =>
            obtain ⟨-, rfl⟩ := Prod.mk.inj (Except.ok.inj h)
            exact le_rfl
        | cons line rest =>
            cases mappingStep h with
            | left hcolumn hentries hafter => rw [hafter]
            | scalar key value hcolumn hkey hrest => exact (ih.mapping hrest).trans (Nat.le_succ _)
            | none key hcolumn hkey hrest => exact (ih.mapping hrest).trans (Nat.le_succ _)
            | block key m value mid hcolumn hkey hdeeper hhead hblock hrest =>
                exact ((ih.mapping hrest).trans (ih.block hblock)).trans (Nat.le_succ _)
      · cases lines with
        | nil =>
            obtain ⟨-, rfl⟩ := Prod.mk.inj (Except.ok.inj h)
            exact le_rfl
        | cons line rest =>
            cases sequenceStep h with
            | left hother hitems hafter => rw [hafter]
            | scalar hcolumn hdash hkey hrest => exact (ih.sequence hrest).trans (Nat.le_succ _)
            | mapping mapping dropped hcolumn hdash hkey hitem hrest =>
                have hlength := (List.dropWhile_sublist (l := rest)
                  fun next : Line => n < next.1).length_le
                exact ((ih.sequence hrest).trans hlength).trans (Nat.le_succ _)

theorem except_bind_eq_error {ε α β : Type} {x : Except ε α} {f : α → Except ε β} {e : ε}
    (h : (x >>= f) = .error e) : x = .error e ∨ ∃ a, x = .ok a ∧ f a = .error e := by
  cases x with
  | error e' => exact .inl (congrArg _ (Except.error.inj h))
  | ok a => exact .inr ⟨a, rfl, h⟩

/-- With three steps for each line, and a few, a reader that raises rejects the text. -/
structure Rejects (steps : ℕ) : Prop where
  block : ∀ {lines m e}, 3 * lines.length + 2 < steps → lines ≠ [] →
    parseBlock steps lines m = .error e → IsRejection e
  mapping : ∀ {lines n read e}, 3 * lines.length < steps →
    parseMapping steps lines n read = .error e → IsRejection e
  sequence : ∀ {lines n read e}, 3 * lines.length + 1 < steps →
    parseSequence steps lines n read = .error e → IsRejection e

theorem rejects (steps : ℕ) : Rejects steps := by
  induction steps with
  | zero => exact ⟨fun h => absurd h (Nat.not_lt_zero _), fun h => absurd h (Nat.not_lt_zero _),
      fun h => absurd h (Nat.not_lt_zero _)⟩
  | succ steps ih =>
      refine ⟨fun {lines m e} hsteps hne h => ?_, fun {lines n read e} hsteps h => ?_,
        fun {lines n read e} hsteps h => ?_⟩
      · cases lines with
        | nil => exact absurd rfl hne
        | cons line rest =>
            rw [parseBlock] at h
            split_ifs at h
            · rcases except_bind_eq_error h with h | ⟨_, -, h⟩
              · exact ih.sequence (by omega) h
              · cases h
            · rcases except_bind_eq_error h with h | ⟨_, -, h⟩
              · exact ih.mapping (by omega) h
              · cases h
      · cases lines with
        | nil => cases h
        | cons line rest =>
            rw [List.length_cons] at hsteps
            rw [parseMapping] at h
            by_cases hcolumn : line.1 = n
            · rw [if_pos hcolumn] at h
              cases hkey : keyOf line.2 with
              | none =>
                  rw [hkey] at h
                  exact ⟨_, _, (Except.error.inj h).symm⟩
              | some found =>
                  obtain ⟨key, value⟩ := found
                  rw [hkey] at h
                  cases value with
                  | some value => exact ih.mapping (by omega) h
                  | none =>
                      simp only at h
                      split_ifs at h with hany
                      · have hrest : rest ≠ [] := by
                          rintro rfl
                          cases hany
                        rcases except_bind_eq_error h with h | ⟨⟨value, mid⟩, hblock, h⟩
                        · exact ih.block (by omega) hrest h
                        · have hmid : mid.length ≤ rest.length := (shortens steps).block hblock
                          exact ih.mapping (show 3 * mid.length < steps by omega) h
                      · exact ih.mapping (by omega) h
            · rw [if_neg hcolumn] at h
              split_ifs at h
              exact ⟨_, _, (Except.error.inj h).symm⟩
      · cases lines with
        | nil => cases h
        | cons line rest =>
            rw [List.length_cons] at hsteps
            rw [parseSequence] at h
            split_ifs at h with hitem hkey
            · have htake := (List.takeWhile_sublist (l := rest)
                fun next : Line => n < next.1).length_le
              have hdrop := (List.dropWhile_sublist (l := rest)
                fun next : Line => n < next.1).length_le
              rcases except_bind_eq_error h with h | ⟨_, -, h⟩
              · refine ih.mapping ?_ h
                rw [List.length_cons]
                omega
              · exact ih.sequence (by omega) h
            · exact ih.sequence (by omega) h

/-! ### Tidy lines are read as they are laid out -/

/-- What stands in a mapping's column among the lines ahead is new to it. -/
def AheadNew (n : ℕ) (lines : List Line) (read : Entries) : Prop :=
  ∀ next ∈ lines.takeWhile (fun next => n ≤ next.1), next.1 = n →
    ∀ key, keyName next.2 = some key → key ∉ read.map Prod.fst

/-- What the three readers make of tidy lines, in some number of steps. -/
structure Reads (steps : ℕ) : Prop where
  block : ∀ {lines m value after columns}, parseBlock steps lines m = .ok (value, after) →
    (∀ line ∈ lines.head?, line.1 = m) → Tidy columns lines → m ∉ columns →
    ∃ first nested form, lines = (m, first) :: nested ++ after ∧
      opensList first = form.isSequence ∧ value = form.value ∧
      LaidOut m ((m, first) :: nested) form
  mapping : ∀ {lines n read entries after columns},
    parseMapping steps lines n read = .ok (entries, after) → Tidy columns lines → n ∉ columns →
    AheadNew n lines read →
    ∃ used new, lines = used ++ after ∧ (∀ line ∈ after.head?, line.1 < n) ∧
      entries = read ++ new ∧ LaidOut n used (.mapping new)
  sequence : ∀ {lines n read items after columns},
    parseSequence steps lines n read = .ok (items, after) → Tidy columns lines →
    (∀ line ∈ lines.head?, line.1 = n → n ∈ openLists columns line) →
    ∃ used new, lines = used ++ after ∧
      (∀ line ∈ after.head?, ¬ (line.1 = n ∧ isDashed line.2 = true)) ∧
      items = read ++ new ∧ LaidOut n used (.sequence new)

/-- The keys ahead of a new key, one line on. -/
theorem AheadNew.next {n : ℕ} {text : List Char} {passed rest : List Line} {read : Entries}
    {key : String} {value : TopologyValue} (h : AheadNew n ((n, text) :: (passed ++ rest)) read)
    (hpassed : ∀ line ∈ passed, n ≤ line.1)
    (honce : ∀ next ∈ (passed ++ rest).takeWhile (fun next => n ≤ next.1), next.1 = n →
      keyName next.2 ≠ some key) :
    AheadNew n rest (read ++ [(key, value)]) := by
  intro next hnext hat name hname
  have hin : next ∈ (passed ++ rest).takeWhile fun next => n ≤ next.1 := by
    rw [List.takeWhile_append_of_pos fun line hline => decide_eq_true (hpassed line hline)]
    exact List.mem_append_right _ hnext
  rw [List.map_append, List.mem_append, List.map_singleton, List.mem_singleton]
  rintro (hold | rfl)
  · refine h next ?_ hat name hname hold
    rw [List.takeWhile_cons_of_pos (by exact decide_eq_true le_rfl)]
    exact List.mem_cons_of_mem _ hin
  · exact honce next hin hat hname

/-- The line of a mapping that is looked at: its key is new, and does not come again. -/
theorem tidy_mapping_line {columns : List ℕ} {n : ℕ} {text : List Char} {key : String}
    {value : Option (List Char)} {rest : List Line} {read : Entries} (hcolumn : n ∉ columns)
    (hkey : keyOf text = some (key, value)) (htidy : Tidy columns ((n, text) :: rest))
    (hahead : AheadNew n ((n, text) :: rest) read) :
    key ∉ read.map Prod.fst ∧ n ∉ openLists columns (n, text) ∧
      Tidy (openLists columns (n, text)) rest ∧
      ∀ next ∈ rest.takeWhile (fun next => n ≤ next.1), next.1 = n →
        keyName next.2 ≠ some key := by
  obtain ⟨-, honce, hrest⟩ := htidy
  have hlist : n ∉ openLists columns (n, text) :=
    @not_mem_openLists columns (n, text) _ hcolumn hkey
  have hname := keyName_of_keyOf hkey
  refine ⟨?_, hlist, hrest, fun next hnext hat => ?_⟩
  · refine hahead (n, text) ?_ rfl key hname
    rw [List.takeWhile_cons_of_pos (by exact decide_eq_true le_rfl)]
    exact List.mem_cons_self
  · refine honce (n, key) ?_ next hnext hat
    rw [entryOf, if_neg hlist, hname]
    rfl

/-- A key that does not come again is not among the keys read after it. -/
theorem not_mem_of_once {n : ℕ} {key : String} {passed used after : List Line} {new : Entries}
    (hpassed : ∀ line ∈ passed, n ≤ line.1) (hlaid : LaidOut n used (.mapping new))
    (honce : ∀ next ∈ (passed ++ (used ++ after)).takeWhile (fun next => n ≤ next.1),
      next.1 = n → keyName next.2 ≠ some key) : key ∉ new.map Prod.fst := by
  intro hmem
  obtain ⟨line, hline, hat, hname⟩ := hlaid.exists_line hmem
  refine honce line ?_ hat hname
  rw [List.takeWhile_append_of_pos fun l hl => decide_eq_true (hpassed l hl),
    List.takeWhile_append_of_pos fun l hl => decide_eq_true (hlaid.le_column l hl)]
  exact List.mem_append_right _ (List.mem_append_left _ hline)

/-- A list's item that opens a mapping: the lines under it are all read, and tidy. -/
theorem tidy_item_lines {columns : List ℕ} {n : ℕ} {text : List Char} {rest : List Line}
    (hlist : n ∈ openLists columns (n, text)) (hkey : (keyOf (itemText text)).isSome)
    (htidy : Tidy columns ((n, text) :: rest)) :
    let further := rest.takeWhile fun next => n < next.1
    n + 2 ∉ openLists columns (n, text) ∧ (∀ next ∈ further, n + 2 ≤ next.1) ∧
      Tidy (openLists columns (n, text)) ((n + 2, itemText text) :: further) ∧
      Tidy (openLists columns (n, text)) (rest.dropWhile fun next => n < next.1) := by
  intro further
  obtain ⟨hstep, honce, hrest⟩ := htidy
  obtain ⟨found, hfound⟩ := Option.isSome_iff_exists.1 hkey
  have hname : (keyName (itemText text)).isSome := by
    rw [keyName, hfound]
    rfl
  have hfar : n + 2 ∉ openLists columns (n, text) := fun hmem => by
    have hle := le_of_mem_openLists hmem
    simp only at hle
    omega
  have hcolumns : ∀ next ∈ further, n + 2 ≤ next.1 := by
    intro next hnext
    have hlt : n < next.1 := of_decide_eq_true (@List.mem_takeWhile_imp _ (fun next : Line => n < next.1) _ _ hnext)
    have hne : next.1 ≠ n + 1 := hstep hlist hname next hnext
    omega
  rw [← List.takeWhile_append_dropWhile (p := fun next : Line => n < next.1) (l := rest)] at hrest
  have hitem : n + 2 ∉ openLists (openLists columns (n, text)) (n + 2, itemText text) :=
    @not_mem_openLists _ (n + 2, itemText text) _ hfar hfound
  refine ⟨hfar, hcolumns, ⟨fun h => absurd h hitem, fun entry hentry next hnext hat => ?_, ?_⟩,
    hrest.right fun first hfirst line hline => ?_⟩
  · rw [entryOf, if_neg hitem] at hentry
    obtain ⟨key, hkeyName, rfl⟩ := Option.map_eq_some_iff.1 hentry
    refine honce (n + 2, key) ?_ next ?_ hat
    · rw [entryOf, if_pos hlist, hkeyName]
      rfl
    · rw [← List.takeWhile_append_dropWhile (p := fun next : Line => n < next.1) (l := rest)]
      exact mem_takeWhile_append hnext
  · rw [openLists_item hfound]
    exact hrest.left
  · have hlt : n < line.1 := of_decide_eq_true (@List.mem_takeWhile_imp _ (fun next : Line => n < next.1) _ _ hline)
    have hstop := List.head?_dropWhile_not (fun next : Line => n < next.1) rest
    rw [Option.mem_def.1 hfirst] at hstop
    have hle : ¬ n < first.1 := of_decide_eq_false hstop
    omega

/-- **Tidy lines are read as they are laid out**, by each of the readers. -/
theorem reads (steps : ℕ) : Reads steps := by
  induction steps with
  | zero => exact ⟨nofun, nofun, nofun⟩
  | succ steps ih =>
      refine ⟨?block, ?mapping, ?sequence⟩
      case mapping =>
        intro lines n read entries after columns h htidy hcolumn hahead
        cases lines with
        | nil =>
            obtain ⟨rfl, rfl⟩ := Prod.mk.inj (Except.ok.inj h)
            exact ⟨[], [], rfl, nofun, (List.append_nil _).symm, .mappingNil⟩
        | cons line rest =>
            obtain ⟨column, text⟩ := line
            cases mappingStep h with
            | left hleft hentries hafter =>
                subst hentries hafter
                refine ⟨[], [], rfl, fun line hline => ?_, (List.append_nil _).symm, .mappingNil⟩
                rw [← Option.some.inj hline]
                exact hleft
            | scalar key value hat hkey hrest =>
                obtain rfl : column = n := hat
                obtain ⟨hnew, hlist, htidy', honce⟩ := tidy_mapping_line hcolumn hkey htidy hahead
                rw [setItem_of_new hnew] at hrest
                obtain ⟨used, new, rfl, hstop, rfl, hlaid⟩ := ih.mapping hrest htidy' hlist
                  (@AheadNew.next _ _ [] _ _ _ _ hahead nofun honce)
                exact ⟨(column, text) :: used, (key, scalar value) :: new, rfl, hstop,
                  List.append_assoc _ _ _,
                  .mappingScalar hkey (@not_mem_of_once _ _ [] _ _ _ nofun hlaid honce) hlaid⟩
            | none key hat hkey hrest =>
                obtain rfl : column = n := hat
                obtain ⟨hnew, hlist, htidy', honce⟩ := tidy_mapping_line hcolumn hkey htidy hahead
                rw [setItem_of_new hnew] at hrest
                obtain ⟨used, new, rfl, hstop, rfl, hlaid⟩ := ih.mapping hrest htidy' hlist
                  (@AheadNew.next _ _ [] _ _ _ _ hahead nofun honce)
                exact ⟨(column, text) :: used, (key, .none) :: new, rfl, hstop,
                  List.append_assoc _ _ _,
                  .mappingNone hkey (@not_mem_of_once _ _ [] _ _ _ nofun hlaid honce) hlaid⟩
            | block key m value mid hat hkey hdeeper hhead hblock hrest =>
                obtain rfl : column = n := hat
                obtain ⟨hnew, hlist, htidy', honce⟩ := tidy_mapping_line hcolumn hkey htidy hahead
                rw [setItem_of_new hnew] at hrest
                have hfar : m ∉ openLists columns (column, text) := fun hmem =>
                  absurd (le_of_mem_openLists hmem) (not_le.2 hdeeper)
                obtain ⟨first, nested, form, rfl, hfirst, rfl, hlaidBlock⟩ :=
                  ih.block hblock hhead htidy' hfar
                have hpassed : ∀ line ∈ (m, first) :: nested, column ≤ line.1 := fun line hline =>
                  hdeeper.le.trans (hlaidBlock.le_column line hline)
                have htidyMid := htidy'.right fun line hline inner hinner =>
                  (parseMapping_head hrest line hline).trans_lt
                    (hdeeper.trans_le (hlaidBlock.le_column inner hinner))
                obtain ⟨used, new, rfl, hstop, rfl, hlaid⟩ := ih.mapping hrest htidyMid hlist
                  (hahead.next hpassed honce)
                refine ⟨(column, text) :: ((m, first) :: nested ++ used),
                  (key, form.value) :: new, ?_, hstop, List.append_assoc _ _ _,
                  .mappingBlock hkey hdeeper hfirst hlaidBlock
                    (not_mem_of_once hpassed hlaid honce) hlaid⟩
                simp only [List.cons_append, List.append_assoc]
      case block =>
        intro lines m value after columns h hhead htidy hcolumn
        cases lines with
        | nil => cases h
        | cons line rest =>
            obtain ⟨column, first⟩ := line
            obtain rfl : column = m := hhead _ rfl
            rw [parseBlock] at h
            split_ifs at h with hopens
            · obtain ⟨⟨items, after'⟩, hsequence, h⟩ := except_bind_eq_ok.1 h
              obtain ⟨rfl, rfl⟩ := Prod.mk.inj (Except.ok.inj h)
              obtain ⟨used, new, hlines, hstop, hitems, hlaid⟩ := ih.sequence hsequence htidy
                fun line hline _ => by
                  obtain rfl := Option.some.inj hline
                  exact mem_openLists.2 (.inl ⟨hopens, rfl⟩)
              cases used with
              | nil =>
                  have hdashed : isDashed first = true := isDashed_of_opensList hopens
                  rw [List.nil_append] at hlines
                  exact absurd ⟨rfl, hdashed⟩ (hstop (column, first) (by rw [← hlines]; rfl))
              | cons line used =>
                  obtain ⟨rfl, rfl⟩ := List.cons.inj hlines
                  exact ⟨first, used, .sequence items, rfl, hopens, rfl, by
                    rw [hitems, List.nil_append]
                    exact hlaid⟩
            · obtain ⟨⟨entries, after'⟩, hmapping, h⟩ := except_bind_eq_ok.1 h
              obtain ⟨rfl, rfl⟩ := Prod.mk.inj (Except.ok.inj h)
              obtain ⟨used, new, hlines, hstop, hentries, hlaid⟩ := ih.mapping hmapping htidy hcolumn
                fun _ _ _ _ _ => List.not_mem_nil
              cases used with
              | nil =>
                  rw [List.nil_append] at hlines
                  exact absurd (hstop (column, first) (by rw [← hlines]; rfl)) (lt_irrefl column)
              | cons line used =>
                  obtain ⟨rfl, rfl⟩ := List.cons.inj hlines
                  exact ⟨first, used, .mapping entries, rfl, Bool.eq_false_iff.2 hopens, rfl, by
                    rw [hentries, List.nil_append]
                    exact hlaid⟩
      case sequence =>
        intro lines n read items after columns h htidy hopen
        cases lines with
        | nil =>
            obtain ⟨rfl, rfl⟩ := Prod.mk.inj (Except.ok.inj h)
            exact ⟨[], [], rfl, nofun, (List.append_nil _).symm, .sequenceNil⟩
        | cons line rest =>
            obtain ⟨column, text⟩ := line
            cases sequenceStep h with
            | left hother hitems hafter =>
                subst hitems hafter
                refine ⟨[], [], rfl, fun line hline => ?_, (List.append_nil _).symm, .sequenceNil⟩
                rw [← Option.some.inj hline]
                exact hother
            | scalar hat hdash hkey hrest =>
                obtain rfl : column = n := hat
                have hlist := hopen _ rfl rfl
                obtain ⟨used, new, rfl, hstop, rfl, hlaid⟩ := ih.sequence hrest htidy.2.2
                  fun line _ hat => mem_openLists.2 (.inr ⟨hlist, hat.ge⟩)
                exact ⟨(column, text) :: used, scalar (itemText text) :: new, rfl, hstop,
                  List.append_assoc _ _ _, .sequenceScalar hdash hkey hlaid⟩
            | mapping mapping dropped hat hdash hkey hitem hrest =>
                obtain rfl : column = n := hat
                have hlist := hopen _ rfl rfl
                obtain ⟨hfar, hcolumns, htidyItem, htidyRest⟩ := tidy_item_lines hlist hkey htidy
                obtain ⟨usedItem, newItem, hlinesItem, hstopItem, hmapping, hlaidItem⟩ :=
                  ih.mapping hitem htidyItem hfar fun _ _ _ _ _ => List.not_mem_nil
                obtain ⟨used, new, hlines, hstop, rfl, hlaid⟩ := ih.sequence hrest htidyRest
                  fun line _ hat => mem_openLists.2 (.inr ⟨hlist, hat.ge⟩)
                -- No line under the item is left over: none stands left of its mapping.
                have hdropped : dropped = [] := by
                  cases dropped with
                  | nil => rfl
                  | cons line dropped =>
                      have hleft := hstopItem line rfl
                      have hmem : line ∈ (column + 2, itemText text) ::
                          rest.takeWhile fun next => column < next.1 := by
                        rw [hlinesItem]
                        exact List.mem_append_right _ List.mem_cons_self
                      rcases List.mem_cons.1 hmem with rfl | hmem
                      · exact absurd hleft (lt_irrefl _)
                      · exact absurd hleft (not_lt.2 (hcolumns line hmem))
                subst hdropped
                rw [List.append_nil] at hlinesItem
                rw [List.nil_append] at hmapping
                subst hmapping
                rw [← hlinesItem] at hlaidItem
                refine ⟨(column, text) :: (rest.takeWhile (fun next => column < next.1) ++ used),
                  .dict mapping :: new, ?_, hstop, List.append_assoc _ _ _,
                  .sequenceMapping hdash hlaidItem hlaid⟩
                rw [List.cons_append, List.append_assoc, ← hlines, List.takeWhile_append_dropWhile]

/-! ### Texts -/

/-- `_tokenize` gives the lines that count, or rejects the text. -/
theorem tokenizeLines_spec (raws : List (List Char)) :
    (∀ lines, tokenizeLines raws = .ok lines →
      lines = (raws.filter isSignificant).map lineOf) ∧
    ∀ e, tokenizeLines raws = .error e → IsRejection e := by
  induction raws with
  | nil => exact ⟨fun lines h => (Except.ok.inj h).symm, nofun⟩
  | cons raw rest ih =>
      obtain ⟨hok, herror⟩ := ih
      rw [tokenizeLines]
      cases hsignificant : isSignificant raw with
      | false =>
          rw [Bool.not_false, if_pos rfl, List.filter_cons_of_neg (by rw [hsignificant]; decide)]
          exact ⟨hok, herror⟩
      | true =>
          rw [Bool.not_true, if_neg Bool.false_ne_true, List.filter_cons_of_pos hsignificant]
          split_ifs with htab
          · exact ⟨nofun, fun e h => ⟨_, _, (Except.error.inj h).symm⟩⟩
          · constructor
            · intro lines h
              obtain ⟨lines', hlines', h⟩ := except_bind_eq_ok.1 h
              rw [← Except.ok.inj h, hok lines' hlines', List.map_cons]
            · intro e h
              rcases except_bind_eq_error h with h | ⟨_, -, h⟩
              · exact herror e h
              · cases h

/-- The lines that count, as the reader has them. -/
def topologyLines (text : List Char) : List Line := (significantLines text).map lineOf

/-- **The reader raises `TopologyParseError` and nothing else.** -/
theorem parseTopology_error {text : List Char} {e : ReaderError}
    (h : parseTopology text = .error e) : IsRejection e := by
  unfold parseTopology at h
  rcases except_bind_eq_error h with h | ⟨lines, -, h⟩
  · exact (tokenizeLines_spec _).2 e h
  · cases lines with
    | nil => exact ⟨_, _, (Except.error.inj h).symm⟩
    | cons line rest =>
        rcases except_bind_eq_error h with h | ⟨⟨parsed, after⟩, -, h⟩
        · refine (rejects _).block ?_ (List.cons_ne_nil _ _) h
          rw [List.length_cons]
          omega
        · cases parsed with
          | dict entries =>
              simp only at h
              split_ifs at h
              exact ⟨_, _, (Except.error.inj h).symm⟩
          | none => exact ⟨_, _, (Except.error.inj h).symm⟩
          | str text => exact ⟨_, _, (Except.error.inj h).symm⟩
          | list items => exact ⟨_, _, (Except.error.inj h).symm⟩

/-- An accepted text is one block of lines, and a mapping. -/
theorem parseTopology_ok {text : List Char} {entries : Entries}
    (h : parseTopology text = .ok entries) :
    ∃ line rest steps, topologyLines text = line :: rest ∧
      parseBlock steps (line :: rest) line.1 = .ok (.dict entries, []) := by
  unfold parseTopology at h
  obtain ⟨lines, hlines, h⟩ := except_bind_eq_ok.1 h
  have htokens : lines = topologyLines text := (tokenizeLines_spec _).1 lines hlines
  cases lines with
  | nil => cases h
  | cons line rest =>
      obtain ⟨⟨parsed, after⟩, hblock, h⟩ := except_bind_eq_ok.1 h
      cases parsed with
      | dict entries' =>
          simp only at h
          split_ifs at h with hafter
          obtain rfl := Except.ok.inj h
          subst hafter
          exact ⟨line, rest, _, htokens.symm, hblock⟩
      | none => cases h
      | str text => cases h
      | list items => cases h

/-- **An accepted text is read whole exactly if its lines are tidy**: no mapping has a key
twice, and under a `- key:` item no line stands one column right of the dash.  A text that is
not accepted is rejected with a `TopologyParseError`, and does not validate. -/
theorem parseTopology_readsWhole_iff (text : List Char) :
    (∀ e, parseTopology text = .error e → IsRejection e) ∧
      ∀ entries, parseTopology text = .ok entries →
        (ReadsWhole text entries ↔ Tidy [] (topologyLines text)) := by
  refine ⟨fun e h => parseTopology_error h, fun entries h => ⟨?_, fun htidy => ?_⟩⟩
  · rintro ⟨n, hlaid⟩
    exact hlaid.tidy List.not_mem_nil
  · obtain ⟨line, rest, steps, hlines, hblock⟩ := parseTopology_ok h
    rw [hlines] at htidy
    obtain ⟨first, nested, form, hall, -, hform, hlaid⟩ := (reads steps).block hblock
      (fun l hl => by rw [← Option.some.inj hl]) htidy List.not_mem_nil
    refine ⟨line.1, ?_⟩
    change LaidOut line.1 (topologyLines text) (.mapping entries)
    rw [List.append_nil] at hall
    cases form with
    | mapping entries' =>
        obtain rfl := TopologyValue.dict.inj hform
        rw [hlines, hall]
        exact hlaid
    | sequence items => cases hform

end Lab
end MetaRne
