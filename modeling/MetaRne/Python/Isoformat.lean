/-
# Datetimes as text

`datetime.isoformat` of a UTC datetime and `datetime.fromisoformat`, which reads
dates as `YYYY-MM-DD`, `YYYYMMDD` or by week, any one character between date and
time, times as `HH[:MM[:SS[.f+]]]` with or without the colons, and a `Z` or a
signed offset.

`fromisoformat_isoformat` reads back what was written, for every datetime.
-/

import MetaRne.Library.Calendar
import MetaRne.Library.Decimal
import MetaRne.Python.Datetime

namespace MetaRne
namespace Python

open Library.Calendar Library.Decimal

/-- A second and a day, in microseconds. -/
def microsecondsPerSecond : ℕ := 1000000

def microsecondsPerDay : ℕ := 86400000000

/-- A time of day. -/
structure Clock where
  hour : ℕ
  minute : ℕ
  second : ℕ
  microsecond : ℕ
  deriving DecidableEq, Repr

namespace Clock

/-- `timedelta(hours=…, minutes=…, seconds=…, microseconds=…)`. -/
def total (clock : Clock) : ℕ :=
  ((clock.hour * 60 + clock.minute) * 60 + clock.second) * microsecondsPerSecond +
    clock.microsecond

/-- The ranges that `time(…)` checks. -/
def isValid (clock : Clock) : Bool :=
  clock.hour < 24 && clock.minute < 60 && clock.second < 60 && clock.microsecond < 1000000

/-- The time of day of a number of microseconds. -/
def ofMicroseconds (n : ℕ) : Clock :=
  ⟨n / 3600000000, n / 60000000 % 60, n / microsecondsPerSecond % 60, n % microsecondsPerSecond⟩

theorem total_ofMicroseconds (n : ℕ) : (ofMicroseconds n).total = n := by
  simp only [total, ofMicroseconds, microsecondsPerSecond]
  omega

theorem ofMicroseconds_valid {n : ℕ} (h : n < microsecondsPerDay) :
    (ofMicroseconds n).isValid = true := by
  rw [microsecondsPerDay] at h
  have hhour : (ofMicroseconds n).hour < 24 := by
    simp only [ofMicroseconds]
    omega
  simp only [isValid, Bool.and_eq_true, decide_eq_true_eq]
  exact ⟨⟨⟨hhour, Nat.mod_lt _ (by decide)⟩, Nat.mod_lt _ (by decide)⟩, Nat.mod_lt _ (by decide)⟩

end Clock

/-! ### Writing -/

/-- `HH:MM:SS`, and the microseconds where there are any. -/
def clockText (clock : Clock) : List Char :=
  padded 2 clock.hour ++ ':' :: (padded 2 clock.minute ++ ':' :: (padded 2 clock.second ++
    if clock.microsecond = 0 then [] else '.' :: padded 6 clock.microsecond))

/-- `YYYY-MM-DD`. -/
def dateText (date : Date) : List Char :=
  padded 4 date.year ++ '-' :: (padded 2 date.month ++ '-' :: padded 2 date.day)

/-- A date and a time of day in UTC. -/
def datetimeText (date : Date) (clock : Clock) : List Char :=
  dateText date ++ 'T' :: (clockText clock ++ "+00:00".toList)

/-- `datetime.isoformat` of a UTC datetime. -/
def isoformat (t : Timestamp) : String :=
  String.ofList (datetimeText (ofDay (t / microsecondsPerDay))
    (.ofMicroseconds (t % microsecondsPerDay)))

/-- A UTC datetime in a JSON body, as the response models write it. -/
def jsonText (t : Timestamp) : String :=
  String.ofList (dateText (ofDay (t / microsecondsPerDay)) ++ 'T' ::
    (clockText (.ofMicroseconds (t % microsecondsPerDay)) ++ ['Z']))

/-! ### Reading -/

/-- The separator, if there is one in this format; if there is none, it may not stand here. -/
def readSeparator (hasSeparator : Bool) (c : Char) : List Char → Option (List Char)
  | [] => if hasSeparator then none else some []
  | c' :: cs =>
    if hasSeparator then (if c' = c then some cs else none)
    else if c' = c then none else some (c' :: cs)

/-- `_isoweek_to_gregorian`: the date of a day of an ISO week. -/
def isoweekToGregorian (year week day : ℕ) : Option Date :=
  let firstWeekday := daysBeforeYear year % 7
  let lastWeek := if firstWeekday = 3 || (firstWeekday = 2 && isLeap year) then 53 else 52
  if year = 0 || week = 0 || lastWeek < week || day = 0 || 7 < day then none
  else
    -- The first week is the one with the first Thursday in it.
    let weeks := if 3 < firstWeekday then week else week - 1
    let offset := weeks * 7 + (day - 1)
    if daysBeforeYear year + offset < firstWeekday then none
    else some (ofDay (daysBeforeYear year + offset - firstWeekday))

/-- `_parse_isoformat_date`. -/
def parseIsoformatDate (cs : List Char) : Option Date := do
  let (year, cs) ← readDigits 4 cs
  let hasSeparator := cs.head? == some '-'
  let cs := if hasSeparator then cs.tail else cs
  if cs.head? = some 'W' then
    let (week, cs) ← readDigits 2 cs.tail
    if cs = [] then isoweekToGregorian year week 1
    else
      let cs ← readSeparator hasSeparator '-' cs
      let (day, cs) ← readDigits 1 cs
      if cs = [] then isoweekToGregorian year week day else none
  else
    let (month, cs) ← readDigits 2 cs
    let cs ← readSeparator hasSeparator '-' cs
    let (day, cs) ← readDigits 2 cs
    if cs = [] then some ⟨year, month, day⟩ else none

/-- The fraction of a second: at least one digit, and six that count. -/
def parseFraction (cs : List Char) : Option ℕ :=
  if cs = [] || !cs.all isDigit then none else read? ((cs ++ List.replicate 6 '0').take 6)

/-- `_parse_hh_mm_ss_ff`. -/
def parseHhMmSsFf (cs : List Char) : Option Clock := do
  let (hour, cs) ← readDigits 2 cs
  if cs = [] then return ⟨hour, 0, 0, 0⟩
  let hasSeparator := cs.head? == some ':'
  let cs ← readSeparator hasSeparator ':' cs
  let (minute, cs) ← readDigits 2 cs
  if cs = [] then return ⟨hour, minute, 0, 0⟩
  let cs ← readSeparator hasSeparator ':' cs
  let (second, cs) ← readDigits 2 cs
  match cs with
  | [] => return ⟨hour, minute, second, 0⟩
  | c :: cs =>
    if c = '.' || c = ',' then
      let microsecond ← parseFraction cs
      return ⟨hour, minute, second, microsecond⟩
    else none

/-- Where an offset starts. -/
def isZoneMark (c : Char) : Bool := c == '+' || c == '-' || c == 'Z'

/-- The offset from UTC, in microseconds: less than a day either way. -/
def parseZone : List Char → Option (Option ℤ)
  | [] => some none
  | 'Z' :: rest => if rest = [] then some (some 0) else none
  | sign :: rest => do
    let offset ← parseHhMmSsFf rest
    if offset.total < microsecondsPerDay then
      return some (if sign = '-' then -(offset.total : ℤ) else offset.total)
    else none

/-- `_parse_isoformat_time`. -/
def parseIsoformatTime (cs : List Char) : Option (Clock × Option ℤ) := do
  let clock ← parseHhMmSsFf (cs.takeWhile fun c => !isZoneMark c)
  let offset ← parseZone (cs.dropWhile fun c => !isZoneMark c)
  return (clock, offset)

/-- `_find_isoformat_datetime_separator`, of a text of seven characters or more. -/
def findSeparator (cs : List Char) : Option ℕ :=
  if cs.length = 7 then some 7
  else if cs[4]? = some '-' then
    if cs[5]? = some 'W' then
      if cs[8]? = some '-' then
        if cs.length = 9 then none
        else if (cs[10]?.map isDigit).getD false then some 8
        else some 10
      else some 8
    else some 10
  else if cs[4]? = some 'W' then
    let digits := 7 + ((cs.drop 7).takeWhile isDigit).length
    if digits < 9 then some digits
    else if digits % 2 = 0 then some 7
    else some 8
  else some 8

/-- `datetime(…)`, which checks its ranges. -/
def mkDatetime (date : Date) (clock : Clock) (offset : Option ℤ) : Option Datetime :=
  if date.isValid && date.year ≤ 9999 && clock.isValid then
    some ⟨date.toDay * microsecondsPerDay + clock.total, offset⟩
  else none

/-- `datetime.fromisoformat`, `none` where it raises `ValueError`. -/
def fromisoformat (text : String) : Option Datetime :=
  let cs := text.toList
  if cs.length < 7 then none
  else do
    let separator ← findSeparator cs
    let date ← parseIsoformatDate (cs.take separator)
    let (clock, offset) ←
      if cs.length ≤ separator then some (⟨0, 0, 0, 0⟩, none)
      else parseIsoformatTime (cs.drop (separator + 1))
    mkDatetime date clock offset

/-! ### Reading what was written -/

theorem not_isZoneMark_of_isDigit {c : Char} (h : isDigit c = true) : isZoneMark c = false := by
  by_contra hmark
  rw [Bool.not_eq_false, isZoneMark, Bool.or_eq_true, Bool.or_eq_true, beq_iff_eq, beq_iff_eq,
    beq_iff_eq] at hmark
  rcases hmark with (rfl | rfl) | rfl <;> exact absurd h (by decide)

theorem ne_of_isDigit {c d : Char} (h : isDigit c = true) (hd : isDigit d = false) : c ≠ d := by
  rintro rfl
  rw [hd] at h
  cases h

theorem parseFraction_padded {n : ℕ} (h : n < 1000000) : parseFraction (padded 6 n) = some n := by
  have hne : padded 6 n ≠ [] := fun hnil => by
    have hlength := length_padded 6 n
    rw [hnil] at hlength
    cases hlength
  have hdigits : (padded 6 n).all isDigit = true :=
    List.all_eq_true.2 fun c hc => isDigit_of_mem_padded hc
  have hread : read? (padded 6 n) = some n := by
    rw [read?, readFrom_padded h, Nat.zero_mul, Nat.zero_add]
  rw [parseFraction, hdigits, decide_eq_false hne, if_neg (by decide),
    List.take_left' (length_padded 6 n), hread]

/-- A time of day is read back. -/
theorem parseHhMmSsFf_clockText {clock : Clock} (h : clock.isValid = true) :
    parseHhMmSsFf (clockText clock) = some clock := by
  obtain ⟨hour, minute, second, microsecond⟩ := clock
  simp only [Clock.isValid, Bool.and_eq_true, decide_eq_true_eq] at h
  obtain ⟨⟨⟨hhour, hminute⟩, hsecond⟩, hmicro⟩ := h
  have hhour' : hour < 10 ^ 2 := by omega
  have hminute' : minute < 10 ^ 2 := by omega
  have hsecond' : second < 10 ^ 2 := by omega
  simp only [parseHhMmSsFf, clockText, readDigits_padded hhour', readDigits_padded hminute',
    readDigits_padded hsecond', readSeparator, List.head?_cons, beq_self_eq_true, if_true,
    reduceCtorEq, if_false, Option.bind_eq_bind, Option.bind_some]
  by_cases hzero : microsecond = 0
  · rw [if_pos hzero, hzero]
    rfl
  · rw [if_neg hzero]
    simp only [parseFraction_padded hmicro, decide_true, Bool.true_or, if_true, Option.bind_some]
    rfl

/-- A date is read back. -/
theorem parseIsoformatDate_dateText {date : Date} (h : date.isValid = true)
    (hyear : date.year ≤ 9999) : parseIsoformatDate (dateText date) = some date := by
  obtain ⟨year, month, day⟩ := date
  simp only [Date.isValid, Bool.and_eq_true, decide_eq_true_eq] at h
  obtain ⟨⟨⟨⟨-, -⟩, hmonth⟩, -⟩, hday⟩ := h
  have hyear' : year < 10 ^ 4 := Nat.lt_succ_of_le hyear
  have hmonth' : month < 10 ^ 2 := by omega
  have hday' : day < 10 ^ 2 := by
    have hle := daysInMonth_le (isLeap year) month hmonth
    omega
  have hnotWeek : (padded 2 month ++ '-' :: padded 2 day).head? ≠ some 'W' := fun hhead =>
    ne_of_isDigit (head?_padded_append _ hhead) (by decide) rfl
  have hlast := readDigits_padded hday' []
  rw [List.append_nil] at hlast
  simp only [parseIsoformatDate, dateText, readDigits_padded hyear', readDigits_padded hmonth',
    hlast, readSeparator, List.head?_cons, List.tail_cons, beq_self_eq_true, if_true,
    hnotWeek, if_false, Option.bind_eq_bind, Option.bind_some]

/-- The separator between date and time stands after the ten characters of a date. -/
theorem findSeparator_dateText (date : Date) (cs : List Char) :
    findSeparator (dateText date ++ 'T' :: cs) = some 10 := by
  have hlength : (dateText date ++ 'T' :: cs).length = 11 + cs.length := by
    simp only [dateText, List.length_append, List.length_cons, length_padded]
    omega
  have hdash : (dateText date ++ 'T' :: cs)[4]? = some '-' := by
    rw [dateText, List.append_assoc, List.getElem?_append_right (length_padded 4 _).le,
      length_padded]
    rfl
  have hnotWeek : (dateText date ++ 'T' :: cs)[5]? ≠ some 'W' := by
    intro hweek
    rw [dateText, List.append_assoc, List.getElem?_append_right (by rw [length_padded]; decide),
      length_padded, List.cons_append, List.append_assoc] at hweek
    refine ne_of_isDigit (head?_padded_append _ (List.head?_eq_getElem?.trans hweek)) ?_ rfl
    decide
  rw [findSeparator, if_neg (by omega), if_pos hdash, if_neg hnotWeek]

/-- A time of day with the offset of UTC is read back. -/
theorem parseIsoformatTime_clockText {clock : Clock} (h : clock.isValid = true) :
    parseIsoformatTime (clockText clock ++ "+00:00".toList) = some (clock, some 0) := by
  have hclock : ∀ c ∈ clockText clock, (!isZoneMark c) = true := by
    intro c hc
    have hmark : isDigit c = true ∨ c = ':' ∨ c = '.' := by
      rw [clockText] at hc
      split_ifs at hc with hzero
      · simp only [List.mem_append, List.mem_cons, List.not_mem_nil, or_false] at hc
        rcases hc with hc | rfl | hc | rfl | hc
        all_goals first
          | exact .inl (isDigit_of_mem_padded hc)
          | exact .inr (.inl rfl)
      · simp only [List.mem_append, List.mem_cons] at hc
        rcases hc with hc | rfl | hc | rfl | hc | rfl | hc
        all_goals first
          | exact .inl (isDigit_of_mem_padded hc)
          | exact .inr (.inl rfl)
          | exact .inr (.inr rfl)
    rcases hmark with hdigit | rfl | rfl
    · rw [not_isZoneMark_of_isDigit hdigit]
      rfl
    · decide
    · decide
  have hzone : parseZone "+00:00".toList = some (some 0) := by decide
  rw [parseIsoformatTime, List.takeWhile_append_of_pos hclock, List.dropWhile_append_of_pos hclock]
  have htake : "+00:00".toList.takeWhile (fun c => !isZoneMark c) = [] := by decide
  have hdrop : "+00:00".toList.dropWhile (fun c => !isZoneMark c) = "+00:00".toList := by decide
  rw [htake, hdrop, List.append_nil, parseHhMmSsFf_clockText h, hzone]
  rfl

theorem length_dateText (date : Date) : (dateText date).length = 10 := by
  simp only [dateText, List.length_append, List.length_cons, length_padded]

theorem length_datetimeText (date : Date) (clock : Clock) :
    11 ≤ (datetimeText date clock).length := by
  rw [datetimeText, List.length_append, length_dateText, List.length_cons]
  omega

theorem drop_datetimeText (date : Date) (clock : Clock) :
    (datetimeText date clock).drop (10 + 1) = clockText clock ++ "+00:00".toList := by
  have hle : (dateText date).length ≤ 10 + 1 := by
    rw [length_dateText]
    decide
  rw [datetimeText, List.drop_append, List.drop_of_length_le hle, length_dateText]
  rfl

/-- **A datetime that is written is read back**, to the microsecond. -/
theorem fromisoformat_isoformat {t : Timestamp} (h : t ≤ maxTimestamp) :
    fromisoformat (isoformat t) = some (.utc t) := by
  have hclock : (Clock.ofMicroseconds (t % microsecondsPerDay)).isValid = true :=
    Clock.ofMicroseconds_valid (Nat.mod_lt t (by decide))
  have hdate := ofDay_valid (t / microsecondsPerDay)
  have hyear : (ofDay (t / microsecondsPerDay)).year ≤ 9999 := by
    have hle : @LE.le ℕ _ t 315537897599999999 := h
    refine ofDay_year_le ?_
    rw [microsecondsPerDay]
    omega
  have hlength := length_datetimeText (ofDay (t / microsecondsPerDay))
    (.ofMicroseconds (t % microsecondsPerDay))
  have hlong : ¬ (datetimeText (ofDay (t / microsecondsPerDay))
    (.ofMicroseconds (t % microsecondsPerDay))).length < 7 := by omega
  have htime : ¬ (datetimeText (ofDay (t / microsecondsPerDay))
    (.ofMicroseconds (t % microsecondsPerDay))).length ≤ 10 := by omega
  have hseparator : findSeparator (datetimeText (ofDay (t / microsecondsPerDay))
      (.ofMicroseconds (t % microsecondsPerDay))) = some 10 := findSeparator_dateText _ _
  have htake : (datetimeText (ofDay (t / microsecondsPerDay))
      (.ofMicroseconds (t % microsecondsPerDay))).take 10 =
        dateText (ofDay (t / microsecondsPerDay)) := List.take_left' (length_dateText _)
  have htotal : t / microsecondsPerDay * microsecondsPerDay + t % microsecondsPerDay = t :=
    Nat.div_add_mod' t microsecondsPerDay
  simp only [fromisoformat, isoformat, String.toList_ofList, hlong, if_false, hseparator, htake,
    Option.bind_eq_bind, Option.bind_some, parseIsoformatDate_dateText hdate hyear, htime,
    drop_datetimeText, parseIsoformatTime_clockText hclock, mkDatetime, hdate, hclock,
    decide_eq_true hyear, Bool.and_true, if_true, toDay_ofDay, Clock.total_ofMicroseconds, htotal]
  rfl

end Python
end MetaRne
