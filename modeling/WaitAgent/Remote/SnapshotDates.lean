import WaitAgent.Verified.Calendar

/-!
# The dates of connection snapshots

A snapshot of the outbound connections carries the time at which it was taken.  The date is
counted off from 1970: whole years are taken away while there are days enough, then whole
months.  The year has 32 bits with a sign, so after the last day of its last year the count
goes on in its first one; up to there the result is the date of the Gregorian calendar.
-/

namespace WaitAgent.Remote

open Verified

/-! ## The conversion -/

/-- `is_leap_year`.  A remainder has the sign of the year. -/
def isLeapYear (year : Int) : Bool :=
  (year.tmod 4 == 0 && year.tmod 100 != 0) || year.tmod 400 == 0

/-- A year as an `i32`, with the overflow of a release build. -/
def wrapYear (year : Int) : Int :=
  year.bmod (2 ^ 32)

def yearDays (year : Int) : Int :=
  if isLeapYear year then 366 else 365

theorem yearDays_pos (year : Int) : 0 < yearDays year := by
  unfold yearDays
  split_ifs <;> omega

/-- The loop over the years: the days that are left, and the year they are left in. -/
def yearLoop (days year : Int) : Int × Int :=
  if days < yearDays year then (days, year)
  else yearLoop (days - yearDays year) (wrapYear (year + 1))
termination_by days.toNat
decreasing_by
  have hPos := yearDays_pos year
  omega

def monthLengths (year : Int) : List Int :=
  if isLeapYear year then [31, 29, 31, 30, 31, 30, 31, 31, 30, 31, 30, 31]
  else [31, 28, 31, 30, 31, 30, 31, 31, 30, 31, 30, 31]

/-- The loop over the months. -/
def monthLoop : List Int → Int → Nat → Int × Nat
  | [], days, month => (days, month)
  | length :: lengths, days, month =>
      if days < length then (days, month) else monthLoop lengths (days - length) (month + 1)

/-- `days_to_ymd`.  The day is cast to an `u32`. -/
def daysToYmd (days : Int) : Date :=
  let years := yearLoop days 1970
  let months := monthLoop (monthLengths years.2) years.1 1
  { year := years.2, month := months.2, day := ((months.1 + 1) % 2 ^ 32).toNat }

/-! ## The loops -/

theorem isLeapYear_iff (year : Int) : isLeapYear year = true ↔ IsLeap year := by
  simp [isLeapYear, IsLeap, Int.dvd_iff_tmod_eq_zero]

theorem yearDays_eq (year : Int) : yearDays year = daysInYear year := by
  unfold yearDays daysInYear
  rw [if_congr (isLeapYear_iff year) rfl rfl]
  split_ifs <;> rfl

theorem monthLengths_eq (year : Int) :
    monthLengths year = (List.range 12).map fun j => (daysInMonth year (j + 1) : Int) := by
  unfold monthLengths daysInMonth
  rw [if_congr (isLeapYear_iff year) rfl rfl]
  by_cases h : IsLeap year <;> simp [h, List.range_succ]

theorem wrapYear_wrapYear_add (year k : Int) : wrapYear (wrapYear year + k) = wrapYear (year + k) :=
  Int.bmod_add_bmod ..

theorem wrapYear_of_lt {i : Nat} (h : i < 2147481678) : wrapYear (1970 + i) = 1970 + i := by
  refine Int.bmod_eq_of_le ?_ ?_ <;> omega

theorem wrapYear_start : wrapYear 1970 = 1970 :=
  wrapYear_of_lt (i := 0) (by omega)

theorem wrapYear_le (year : Int) : wrapYear year ≤ 2147483647 := by
  have hLt := Int.bmod_lt (x := year) (m := 2 ^ 32) (by decide)
  unfold wrapYear
  omega

theorem wrapYear_succ {year : Int} (h : wrapYear year ≠ 2147483647) :
    wrapYear (year + 1) = wrapYear year + 1 := by
  have hLe := wrapYear_le year
  have hGe := Int.le_bmod (x := year) (m := 2 ^ 32) (by decide)
  rw [← wrapYear_wrapYear_add]
  refine Int.bmod_eq_of_le ?_ ?_ <;> unfold wrapYear at * <;> omega

-- from here on a year is only known by these facts
attribute [irreducible] wrapYear

/-- The loop over the years ends in the span that the days lie in. -/
theorem yearLoop_of_locates {i r : Nat} : ∀ {n : Nat} {year : Int},
    Locates (fun j => daysInYear (wrapYear (year + j))) n i r →
      yearLoop n (wrapYear year) = ((r : Int), wrapYear (year + i)) := by
  induction i with
  | zero =>
    intro n year h
    have hLt := h.lt
    have hEq : n = r := by simpa using h.eq_add
    subst hEq
    simp only [Nat.cast_zero, Int.add_zero] at hLt ⊢
    rw [yearLoop, if_pos (by rw [yearDays_eq]; omega)]
  | succ i ih =>
    intro n year h
    obtain ⟨hLe, hTail⟩ := h.tail
    simp only [Nat.cast_zero, Int.add_zero] at hLe hTail
    have hShift : ∀ j : Nat, year + ((j + 1 : Nat) : Int) = year + 1 + j := by
      intro j
      push_cast
      omega
    simp only [hShift] at hTail
    have hRest : (n : Int) - daysInYear (wrapYear year)
        = (n - daysInYear (wrapYear year) : Nat) := by omega
    rw [yearLoop, yearDays_eq, if_neg (by omega), wrapYear_wrapYear_add, hRest, ih hTail, hShift]

/-- The loop over the months likewise. -/
theorem monthLoop_of_locates {len : Nat → Nat} {m d : Nat} : ∀ {lengths : List Int} {n month : Nat},
    (∀ (j : Nat) (l : Int), lengths[j]? = some l → l = len j) → m < lengths.length →
    Locates len n m d →
      monthLoop lengths n month = ((d : Int), month + m) := by
  induction m generalizing len with
  | zero =>
    intro lengths n month hLen hm h
    obtain ⟨l, lengths, rfl⟩ := List.exists_cons_of_length_pos hm
    have hFirst := hLen 0 l rfl
    have hLt := h.lt
    have hEq : n = d := by simpa using h.eq_add
    rw [monthLoop, if_pos (by omega), hEq]
    rfl
  | succ m ih =>
    intro lengths n month hLen hm h
    obtain ⟨l, lengths, rfl⟩ := List.exists_cons_of_length_pos (Nat.zero_lt_of_lt hm)
    have hFirst := hLen 0 l rfl
    obtain ⟨hLe, hTail⟩ := h.tail
    have hRest : (n : Int) - l = (n - len 0 : Nat) := by omega
    rw [monthLoop, if_neg (by omega), hRest,
      ih (fun j l h => hLen (j + 1) l h) (Nat.lt_of_succ_lt_succ hm) hTail]
    congr 1
    omega

/-! ## The date of a day -/

/-- The days of the years from 1970 on, as the code counts them. -/
def yearSpan (i : Nat) : Nat :=
  daysInYear (wrapYear (1970 + i))

/-- The days of the months of one of these years. -/
def monthSpan (i m : Nat) : Nat :=
  daysInMonth (wrapYear (1970 + i)) (m + 1)

theorem sum_monthSpan (i : Nat) : ∑ m ∈ Finset.range 12, monthSpan i m = yearSpan i :=
  sum_daysInMonth _

theorem daysToYmd_of_locates {n i r m d : Nat} (hYear : Locates yearSpan n i r)
    (hMonth : Locates (monthSpan i) r m d) (hm : m < 12) :
    daysToYmd n = ⟨wrapYear (1970 + i), m + 1, d + 1⟩ := by
  have hYears : yearLoop n 1970 = ((r : Int), wrapYear (1970 + i)) := by
    rw [← yearLoop_of_locates hYear, wrapYear_start]
  have hMonths : monthLoop (monthLengths (wrapYear (1970 + i))) r 1 = ((d : Int), 1 + m) := by
    refine monthLoop_of_locates ?_ (by simpa [monthLengths_eq] using hm) hMonth
    intro j l hl
    rw [monthLengths_eq, List.getElem?_map, Option.map_eq_some_iff] at hl
    obtain ⟨j', hj', rfl⟩ := hl
    obtain ⟨hRange, rfl⟩ := List.getElem?_eq_some_iff.mp hj'
    rw [List.getElem_range]
    rfl
  have hDay := hMonth.lt
  have hShort : monthSpan i m ≤ 31 := by
    unfold monthSpan daysInMonth
    split_ifs <;> omega
  have hCast : (((d : Int) + 1) % 2 ^ 32).toNat = d + 1 := by omega
  simp only [daysToYmd, hYears, hMonths, hCast, Nat.add_comm 1 m]

/-! ## The calendar -/

/-- The last day that a year of 32 bits has. -/
def lastDate : Date :=
  ⟨2147483647, 12, 31⟩

/-- The number of that day. -/
def lastDay : Nat := 784351576776

/-- Every day lies in one month of one year. -/
theorem exists_span (n : Nat) :
    ∃ i r m d, Locates yearSpan n i r ∧ Locates (monthSpan i) r m d ∧ m < 12 := by
  obtain ⟨i, r, hYear⟩ := exists_locates (fun i => daysInYear_pos (wrapYear (1970 + i))) n
  obtain ⟨m, d, hMonth⟩ := exists_locates (fun m => daysInMonth_pos (wrapYear (1970 + i)) (m + 1)) r
  refine ⟨i, r, m, d, hYear, hMonth, hMonth.lt_of_lt_sum ?_⟩
  exact (sum_monthSpan i).symm ▸ hYear.lt

/-- The last day of a year is the last one of December. -/
theorem december_of_last {i r m d : Nat} (hMonth : Locates (monthSpan i) r m d) (hm : m < 12)
    (hr : r + 1 = yearSpan i) : m = 11 ∧ d + 1 = monthSpan i m := by
  have hLt := hMonth.lt
  have hEq := hMonth.eq_add
  rw [← sum_monthSpan] at hr
  have hSplit : ∑ j ∈ Finset.range (m + 1), monthSpan i j ≤ ∑ j ∈ Finset.range 12, monthSpan i j :=
    Finset.sum_le_sum_of_subset (Finset.range_subset_range.mpr hm)
  rw [Finset.sum_range_succ] at hSplit
  have hDay : d + 1 = monthSpan i m := by omega
  refine ⟨?_, hDay⟩
  by_contra hne
  have hNext : ∑ j ∈ Finset.range (m + 1 + 1), monthSpan i j
      ≤ ∑ j ∈ Finset.range 12, monthSpan i j :=
    Finset.sum_le_sum_of_subset (Finset.range_subset_range.mpr (by omega))
  rw [Finset.sum_range_succ, Finset.sum_range_succ] at hNext
  have hPos : 0 < monthSpan i (m + 1) := daysInMonth_pos _ _
  omega

theorem daysToYmd_valid (n : Nat) : (daysToYmd n).Valid := by
  obtain ⟨i, r, m, d, hYear, hMonth, hm⟩ := exists_span n
  rw [daysToYmd_of_locates hYear hMonth hm]
  have hDay : d < daysInMonth (wrapYear (1970 + i)) (m + 1) := hMonth.lt
  exact ⟨Nat.le_add_left 1 m, hm, Nat.le_add_left 1 d, hDay⟩

/-- The day after a day is the next of the month, the first of the next month, or the first
day of the next year. -/
theorem daysToYmd_succ {n : Nat} (h : daysToYmd n ≠ lastDate) :
    daysToYmd (n + 1 : Nat) = (daysToYmd n).next := by
  obtain ⟨i, r, m, d, hYear, hMonth, hm⟩ := exists_span n
  have hDate := daysToYmd_of_locates hYear hMonth hm
  have hLt := hMonth.lt
  rw [hDate] at h ⊢
  by_cases hr : r + 1 < yearSpan i
  · have hYear' := hYear.next_of_lt hr
    by_cases hd : d + 1 < monthSpan i m
    · rw [daysToYmd_of_locates hYear' (hMonth.next_of_lt hd) hm, Date.next_of_lt hd]
    · have hd' : d + 1 = monthSpan i m := by omega
      have hMonth' := hMonth.next_of_eq hd' (daysInMonth_pos _ _)
      have hm' : m + 1 < 12 := hMonth'.lt_of_lt_sum ((sum_monthSpan i).symm ▸ hr)
      rw [daysToYmd_of_locates hYear' hMonth' hm', Date.next_of_last hd' hm']
  · have hLast : r + 1 = yearSpan i := by
      have hLtYear := hYear.lt
      omega
    obtain ⟨rfl, hd⟩ := december_of_last hMonth hm hLast
    have hYear' := hYear.next_of_eq hLast (daysInYear_pos _)
    have hMonth' : Locates (monthSpan (i + 1)) 0 0 0 := ⟨rfl, daysInMonth_pos _ _⟩
    -- December has thirty-one days, so only the year can keep this from being the last day
    have hNe : wrapYear (1970 + i) ≠ 2147483647 := by
      intro hWrap
      apply h
      have hDays : monthSpan i 11 = 31 := rfl
      rw [lastDate, hWrap, hd, hDays]
    have hNext : wrapYear (1970 + (i + 1 : Nat)) = wrapYear (1970 + i) + 1 := by
      rw [← wrapYear_succ hNe, Int.add_assoc, Nat.cast_add_one]
    rw [daysToYmd_of_locates hYear' hMonth' (by omega), Date.next_of_december hd, hNext]

/-! ## The last year -/

theorem sum_yearSpan : ∑ j ∈ Finset.range 2147481677, yearSpan j + 364 = lastDay := by
  have hYears : ∑ j ∈ Finset.range 2147481677, yearSpan j
      = ∑ j ∈ Finset.range 2147481677, daysInYear (1969 + j + 1 : Nat) := by
    refine Finset.sum_congr rfl fun j hj => ?_
    have hLt := Finset.mem_range.mp hj
    rw [yearSpan, wrapYear_of_lt (by omega)]
    congr 1
    omega
  have hSum := sum_daysInYear 1969 2147481677
  rw [hYears]
  generalize ∑ j ∈ Finset.range 2147481677, daysInYear (1969 + j + 1 : Nat) = total at hSum ⊢
  unfold lastDay
  omega

/-- The days before the December of the last year. -/
theorem monthSpan_sum_eleven {i : Nat} (h : wrapYear (1970 + i) = 2147483647) :
    ∑ j ∈ Finset.range 11, monthSpan i j = 334 := by
  simp only [monthSpan, h]
  decide

/-- The last day of the last year is not reached before its number. -/
theorem lastDay_le {n : Nat} (h : daysToYmd n = lastDate) : lastDay ≤ n := by
  obtain ⟨i, r, m, d, hYear, hMonth, hm⟩ := exists_span n
  rw [daysToYmd_of_locates hYear hMonth hm, lastDate, Date.mk.injEq] at h
  obtain ⟨hWrap, hDecember, hDay⟩ := h
  obtain rfl : m = 11 := by omega
  obtain rfl : d = 30 := by omega
  have hIndex : 2147481677 ≤ i := by
    by_contra hlt
    rw [wrapYear_of_lt (by omega)] at hWrap
    omega
  have hYears : ∑ j ∈ Finset.range 2147481677, yearSpan j ≤ ∑ j ∈ Finset.range i, yearSpan j :=
    Finset.sum_le_sum_of_subset (Finset.range_subset_range.mpr hIndex)
  have hMonths : r = 364 := by
    rw [hMonth.eq_add, monthSpan_sum_eleven hWrap]
  have hSum := sum_yearSpan
  have hEq := hYear.eq_add
  omega

theorem daysToYmd_lastDay : daysToYmd lastDay = lastDate := by
  have hYear : Locates yearSpan lastDay 2147481677 364 := ⟨sum_yearSpan.symm, by
    rw [yearSpan, wrapYear_of_lt (by omega)]
    decide⟩
  have hWrap : wrapYear (1970 + (2147481677 : Nat)) = 2147483647 := wrapYear_of_lt (by omega)
  have hMonth : Locates (monthSpan 2147481677) 364 11 30 := ⟨by rw [monthSpan_sum_eleven hWrap], by
    rw [monthSpan, hWrap]
    decide⟩
  rw [daysToYmd_of_locates hYear hMonth (by omega), hWrap, lastDate]

/-- The count of days is read as the Gregorian calendar has it: day 0 is the first of
January 1970, every day is a date, and the next day is the next date, unless it is the
last day of the last year, which has the number `lastDay`. -/
theorem calendar_exact :
    daysToYmd 0 = ⟨1970, 1, 1⟩ ∧
      (∀ n : Nat, (daysToYmd n).Valid) ∧
      (∀ n : Nat, daysToYmd n ≠ lastDate → daysToYmd (n + 1 : Nat) = (daysToYmd n).next) ∧
      ∀ n : Nat, daysToYmd n = lastDate → lastDay ≤ n := by
  refine ⟨?_, daysToYmd_valid, fun n => daysToYmd_succ, fun n => lastDay_le⟩
  have hYear : Locates yearSpan 0 0 0 := ⟨rfl, daysInYear_pos _⟩
  have hMonth : Locates (monthSpan 0) 0 0 0 := ⟨rfl, daysInMonth_pos _ _⟩
  have hDate := daysToYmd_of_locates hYear hMonth (by omega)
  rwa [Nat.cast_zero, Int.add_zero, wrapYear_start] at hDate

/-- The day after the twenty-eighth of February 1970. -/
theorem calendar_exact_february :
    lastDay > 58 ∧ daysToYmd (58 + 1 : Nat) = (daysToYmd (58 : Nat)).next := by
  have hDay : 58 < lastDay := by decide
  refine ⟨hDay, calendar_exact.2.2.1 58 fun hLast => ?_⟩
  exact absurd (calendar_exact.2.2.2 58 hLast) (by omega)

/-- After the last day of its last year the count goes on in the first year that 32 bits
can hold. -/
theorem calendar_wraps :
    daysToYmd lastDay = lastDate ∧ daysToYmd (lastDay + 1 : Nat) ≠ (daysToYmd lastDay).next := by
  refine ⟨daysToYmd_lastDay, fun hNext => ?_⟩
  have hYear : (daysToYmd (lastDay + 1 : Nat)).year ≤ 2147483647 := by
    obtain ⟨i, r, m, d, hYear, hMonth, hm⟩ := exists_span (lastDay + 1)
    rw [daysToYmd_of_locates hYear hMonth hm]
    exact wrapYear_le _
  rw [hNext, daysToYmd_lastDay] at hYear
  exact absurd hYear (by decide)

end WaitAgent.Remote
