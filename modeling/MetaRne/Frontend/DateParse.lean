/-
# `Date.parse`

The client compares timestamps as instants: milliseconds since the first of
January 1970.  `dateParse` reads the interchange format with a time and an offset,
`YYYY-MM-DDTHH:mm:ss[.f+]` and `Z` or `±HH:mm`, of the years from 1 on, and drops
what is below a millisecond; every other text is `NaN`.

The backend writes UTC datetimes in this format, with no fraction or with six
digits, and `dateParse_jsonText` reads each of them as its millisecond.
-/

import MetaRne.Python.Isoformat

namespace MetaRne
namespace Frontend

open Library.Calendar Library.Decimal Python

/-- The first of January 1970, in milliseconds since the first of January of year 1. -/
def unixEpoch : ℤ := 62135596800000

/-- A character that must stand here. -/
def readChar (c : Char) : List Char → Option (List Char)
  | [] => none
  | c' :: cs => if c' = c then some cs else none

/-- The milliseconds of a fraction: its first three digits. -/
def readMilliseconds (cs : List Char) : Option (ℕ × List Char) :=
  if cs.head? = some '.' then
    let digits := cs.tail.takeWhile isDigit
    if digits = [] then none
    else (read? ((digits ++ ['0', '0']).take 3)).map fun ms => (ms, cs.tail.dropWhile isDigit)
  else some (0, cs)

/-- An offset from UTC, in milliseconds. -/
def readOffset (cs : List Char) : Option ℤ :=
  if cs = ['Z'] then some 0
  else do
    let sign ← cs.head?
    let (hours, cs) ← readDigits 2 cs.tail
    let cs ← readChar ':' cs
    let (minutes, cs) ← readDigits 2 cs
    let offset : ℤ := ((hours * 60 + minutes) * 60000 : ℕ)
    if cs ≠ [] || 23 < hours || 59 < minutes then none
    else if sign = '+' then some offset
    else if sign = '-' then some (-offset)
    else none

/-- `Date.parse`, `none` for `NaN`. -/
def dateParse (text : String) : Option ℤ := do
  let (year, cs) ← readDigits 4 text.toList
  let cs ← readChar '-' cs
  let (month, cs) ← readDigits 2 cs
  let cs ← readChar '-' cs
  let (day, cs) ← readDigits 2 cs
  let cs ← readChar 'T' cs
  let (hour, cs) ← readDigits 2 cs
  let cs ← readChar ':' cs
  let (minute, cs) ← readDigits 2 cs
  let cs ← readChar ':' cs
  let (second, cs) ← readDigits 2 cs
  let (ms, cs) ← readMilliseconds cs
  let offset ← readOffset cs
  let date : Date := ⟨year, month, day⟩
  let seconds := (hour * 60 + minute) * 60 + second
  if date.isValid && hour < 24 && minute < 60 && second < 60 then
    some ((date.toDay * 86400000 + seconds * 1000 + ms : ℕ) - unixEpoch - offset)
  else none

/-- The instant of a UTC datetime as the client has it. -/
def instantOf (t : Timestamp) : ℤ := (t / 1000 : ℕ) - unixEpoch

/-- Later datetimes have later instants, or the same one. -/
theorem instantOf_mono {t u : Timestamp} (h : t ≤ u) : instantOf t ≤ instantOf u := by
  have hdiv : t / 1000 ≤ u / 1000 := Nat.div_le_div_right h
  rw [instantOf, instantOf]
  exact Int.sub_le_sub_right (Int.ofNat_le.2 hdiv) _

theorem instantOf_eq_iff {t u : Timestamp} : instantOf t = instantOf u ↔ t / 1000 = u / 1000 := by
  rw [instantOf, instantOf, sub_left_inj, Int.ofNat_inj]

/-! ### Reading what the backend writes -/

@[simp] theorem readChar_cons (c : Char) (cs : List Char) : readChar c (c :: cs) = some cs :=
  if_pos rfl

/-- Of six digits the first three are the milliseconds. -/
theorem read?_take_padded {n : ℕ} (h : n < 1000000) :
    read? ((padded 6 n).take 3) = some (n / 1000) := by
  have hsplit : padded 6 n = padded 3 (n / 10 / 10 / 10) ++
      [digitChar (n / 10 / 10 % 10), digitChar (n / 10 % 10), digitChar (n % 10)] := by
    simp only [padded, List.cons_append, List.nil_append]
  have hthousand : n / 10 / 10 / 10 = n / 1000 := by omega
  have hlt : n / 1000 < 10 ^ 3 := by omega
  rw [hsplit, List.take_left' (length_padded 3 _), hthousand, read?, readFrom_padded hlt,
    Nat.zero_mul, Nat.zero_add]

theorem takeWhile_padded (width n : ℕ) (c : Char) (hc : isDigit c = false) :
    (padded width n ++ [c]).takeWhile isDigit = padded width n ∧
      (padded width n ++ [c]).dropWhile isDigit = [c] := by
  have hdigits : ∀ d ∈ padded width n, isDigit d = true := fun d hd => isDigit_of_mem_padded hd
  rw [List.takeWhile_append_of_pos hdigits, List.dropWhile_append_of_pos hdigits,
    List.takeWhile_cons_of_neg (by rw [hc]; decide), List.dropWhile_cons_of_neg (by rw [hc]; decide),
    List.append_nil]
  exact ⟨rfl, rfl⟩

/-- The fraction of a second that the backend writes, before the `Z`. -/
theorem readMilliseconds_micros {n : ℕ} (h : n < 1000000) :
    readMilliseconds ((if n = 0 then [] else '.' :: padded 6 n) ++ ['Z']) =
      some (n / 1000, ['Z']) := by
  by_cases hzero : n = 0
  · rw [if_pos hzero, hzero]
    decide
  · obtain ⟨htake, hdrop⟩ := takeWhile_padded 6 n 'Z' (by decide)
    have hne : padded 6 n ≠ [] := fun hnil => by
      have hlength := length_padded 6 n
      rw [hnil] at hlength
      cases hlength
    have hfirst : (padded 6 n ++ ['0', '0']).take 3 = (padded 6 n).take 3 :=
      List.take_append_of_le_length (by rw [length_padded]; decide)
    rw [if_neg hzero, readMilliseconds, List.cons_append, List.head?_cons, if_pos rfl,
      List.tail_cons, htake, hdrop]
    simp only [hne, if_false, hfirst, read?_take_padded h, Option.map_some]

/-- A date and a time of day in UTC are read back, to the millisecond. -/
theorem dateParse_text {date : Date} {clock : Clock} (hdate : date.isValid = true)
    (hyear : date.year ≤ 9999) (hclock : clock.isValid = true) :
    dateParse (String.ofList (dateText date ++ 'T' :: (clockText clock ++ ['Z']))) =
      some ((date.toDay * 86400000 + clock.total / 1000 : ℕ) - unixEpoch) := by
  obtain ⟨year, month, day⟩ := date
  obtain ⟨hour, minute, second, micro⟩ := clock
  simp only [Clock.isValid, Bool.and_eq_true, decide_eq_true_eq] at hclock
  obtain ⟨⟨⟨hhour, hminute⟩, hsecond⟩, hmicro⟩ := hclock
  have hranges := hdate
  simp only [Date.isValid, Bool.and_eq_true, decide_eq_true_eq] at hranges
  obtain ⟨⟨⟨⟨-, -⟩, hmonth⟩, -⟩, hdays⟩ := hranges
  have hyear' : year < 10 ^ 4 := Nat.lt_succ_of_le hyear
  have hmonth' : month < 10 ^ 2 := by omega
  have hday' : day < 10 ^ 2 := by
    have hle := daysInMonth_le (isLeap year) month hmonth
    omega
  have hhour' : hour < 10 ^ 2 := by omega
  have hminute' : minute < 10 ^ 2 := by omega
  have hsecond' : second < 10 ^ 2 := by omega
  have hoffset : readOffset ['Z'] = some 0 := rfl
  have hms : ((hour * 60 + minute) * 60 + second) * 1000 + micro / 1000 =
      (((hour * 60 + minute) * 60 + second) * 1000000 + micro) / 1000 := by omega
  simp only [dateParse, String.toList_ofList, dateText, clockText, List.append_assoc,
    List.cons_append, readDigits_padded hyear', readDigits_padded hmonth',
    readDigits_padded hday', readDigits_padded hhour', readDigits_padded hminute',
    readDigits_padded hsecond', readChar_cons, readMilliseconds_micros hmicro, hoffset,
    Option.bind_eq_bind, Option.bind_some, hdate, decide_eq_true hhour, decide_eq_true hminute,
    decide_eq_true hsecond, Bool.and_self, if_true, Int.sub_zero, Clock.total,
    microsecondsPerSecond, ← hms, Nat.add_assoc]

theorem milliseconds_split (n : ℕ) :
    n / microsecondsPerDay * 86400000 + n % microsecondsPerDay / 1000 = n / 1000 := by
  rw [microsecondsPerDay]
  omega

/-- **A datetime of the backend is read as its millisecond.** -/
theorem dateParse_jsonText {t : Timestamp} (h : t ≤ maxTimestamp) :
    dateParse (jsonText t) = some (instantOf t) := by
  have hyear : (ofDay (t / microsecondsPerDay)).year ≤ 9999 := by
    have hle : @LE.le ℕ _ t 315537897599999999 := h
    refine ofDay_year_le ?_
    rw [microsecondsPerDay]
    omega
  have hclock := Clock.ofMicroseconds_valid (Nat.mod_lt t (by decide : 0 < microsecondsPerDay))
  rw [jsonText, dateParse_text (ofDay_valid _) hyear hclock, toDay_ofDay,
    Clock.total_ofMicroseconds, milliseconds_split, instantOf]

end Frontend
end MetaRne
