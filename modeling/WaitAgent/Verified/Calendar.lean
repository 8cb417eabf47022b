import Mathlib.Algebra.Order.BigOperators.Group.Finset
import Mathlib.Tactic.Linarith

/-!
# Spans and the Gregorian calendar

A count of days is read as a date by finding the span it falls into, first among the years
and then among the months of one year.  Spans of given lengths are laid end to end; a
number lies in exactly one of them, and the number after it lies one further, or at the
beginning of the next span.  The calendar itself is stated on its own: the leap years, the
lengths of the months, and the day after a day.
-/

namespace WaitAgent.Verified

/-! ## Spans -/

/-- The number `n` is the `r`-th of the span `i`, where the span `j` has the length
`len j`. -/
structure Locates (len : Nat → Nat) (n i r : Nat) : Prop where
  eq_add : n = ∑ j ∈ Finset.range i, len j + r
  lt : r < len i

namespace Locates

variable {len : Nat → Nat} {n i r : Nat}

/-- A number of a later span, seen from the second span. -/
theorem tail (h : Locates len n (i + 1) r) :
    len 0 ≤ n ∧ Locates (fun j => len (j + 1)) (n - len 0) i r := by
  have hSum := h.eq_add
  rw [Finset.sum_range_succ'] at hSum
  have hLe : len 0 ≤ n := by omega
  exact ⟨hLe, by omega, h.lt⟩

theorem next_of_lt (h : Locates len n i r) (hr : r + 1 < len i) :
    Locates len (n + 1) i (r + 1) :=
  ⟨by rw [h.eq_add, Nat.add_assoc], hr⟩

theorem next_of_eq (h : Locates len n i r) (hr : r + 1 = len i) (hPos : 0 < len (i + 1)) :
    Locates len (n + 1) (i + 1) 0 := by
  refine ⟨?_, hPos⟩
  rw [Finset.sum_range_succ, h.eq_add]
  omega

end Locates

/-- Every number lies in a span if none of them is empty. -/
theorem exists_locates {len : Nat → Nat} (hPos : ∀ j, 0 < len j) (n : Nat) :
    ∃ i r, Locates len n i r := by
  induction n with
  | zero => exact ⟨0, 0, rfl, hPos 0⟩
  | succ n ih =>
    obtain ⟨i, r, h⟩ := ih
    by_cases hr : r + 1 < len i
    · exact ⟨i, r + 1, h.next_of_lt hr⟩
    · have hLast : r + 1 = len i := by
        have hLt := h.lt
        omega
      exact ⟨i + 1, 0, h.next_of_eq hLast (hPos _)⟩

/-- A number below the length of so many spans lies in one of them. -/
theorem Locates.lt_of_lt_sum {len : Nat → Nat} {n i r k : Nat} (h : Locates len n i r)
    (hn : n < ∑ j ∈ Finset.range k, len j) : i < k := by
  by_contra hle
  have hSum : ∑ j ∈ Finset.range k, len j ≤ ∑ j ∈ Finset.range i, len j :=
    Finset.sum_le_sum_of_subset (Finset.range_subset_range.mpr (Nat.le_of_not_lt hle))
  have hEq := h.eq_add
  omega

/-! ## Dates -/

/-- The rule of 4, 100 and 400. -/
def IsLeap (year : Int) : Prop :=
  4 ∣ year ∧ ¬ 100 ∣ year ∨ 400 ∣ year

instance : DecidablePred IsLeap :=
  fun _ => inferInstanceAs (Decidable (_ ∨ _))

def daysInYear (year : Int) : Nat :=
  if IsLeap year then 366 else 365

def daysInMonth (year : Int) (month : Nat) : Nat :=
  if month = 2 then (if IsLeap year then 29 else 28)
  else if month = 4 ∨ month = 6 ∨ month = 9 ∨ month = 11 then 30
  else 31

structure Date where
  year : Int
  month : Nat
  day : Nat
deriving DecidableEq, Repr

/-- A day of the Gregorian calendar. -/
structure Date.Valid (d : Date) : Prop where
  month_pos : 1 ≤ d.month
  month_le : d.month ≤ 12
  day_pos : 1 ≤ d.day
  day_le : d.day ≤ daysInMonth d.year d.month

/-- The day after a day. -/
def Date.next (d : Date) : Date :=
  if d.day < daysInMonth d.year d.month then { d with day := d.day + 1 }
  else if d.month < 12 then { d with month := d.month + 1, day := 1 }
  else { year := d.year + 1, month := 1, day := 1 }

section

variable {year : Int} {month day : Nat}

theorem Date.next_of_lt (h : day < daysInMonth year month) :
    Date.next ⟨year, month, day⟩ = ⟨year, month, day + 1⟩ :=
  if_pos h

theorem Date.next_of_last (h : day = daysInMonth year month) (hMonth : month < 12) :
    Date.next ⟨year, month, day⟩ = ⟨year, month + 1, 1⟩ := by
  subst h
  rw [Date.next, if_neg (Nat.lt_irrefl _), if_pos hMonth]

theorem Date.next_of_december (h : day = daysInMonth year 12) :
    Date.next ⟨year, 12, day⟩ = ⟨year + 1, 1, 1⟩ := by
  subst h
  rw [Date.next, if_neg (Nat.lt_irrefl _), if_neg (Nat.lt_irrefl _)]

end

theorem daysInMonth_pos (year : Int) (month : Nat) : 0 < daysInMonth year month := by
  unfold daysInMonth
  split_ifs <;> omega

theorem daysInYear_pos (year : Int) : 0 < daysInYear year := by
  unfold daysInYear
  split_ifs <;> omega

/-- The months make up the year. -/
theorem sum_daysInMonth (year : Int) :
    ∑ i ∈ Finset.range 12, daysInMonth year (i + 1) = daysInYear year := by
  by_cases h : IsLeap year <;> simp [Finset.sum_range_succ, daysInMonth, daysInYear, h]

theorem isLeap_natCast (year : Nat) :
    IsLeap year ↔ 4 ∣ year ∧ ¬ 100 ∣ year ∨ 400 ∣ year := by
  simp only [IsLeap, ← Int.natCast_dvd_natCast, Nat.cast_ofNat]

/-- A year has one day more if it is a fourth one, but not if it is a hundredth one, except
if it is a four hundredth one. -/
theorem daysInYear_succ (year : Nat) :
    daysInYear (year + 1 : Nat) + (year + 1) / 100 + year / 4 + year / 400
      = 365 + year / 100 + (year + 1) / 4 + (year + 1) / 400 := by
  have h100 : 100 ∣ year + 1 → 4 ∣ year + 1 := Dvd.dvd.trans (by decide)
  have h400 : 400 ∣ year + 1 → 100 ∣ year + 1 := Dvd.dvd.trans (by decide)
  rw [Nat.succ_div (b := 100), Nat.succ_div (b := 4), Nat.succ_div (b := 400), daysInYear,
    if_congr (isLeap_natCast (year + 1)) rfl rfl]
  split_ifs <;> grind

/-- How many days the `k` years after a year have. -/
theorem sum_daysInYear (year k : Nat) :
    ∑ j ∈ Finset.range k, daysInYear (year + j + 1 : Nat)
        + (year + k) / 100 + year / 4 + year / 400
      = 365 * k + year / 100 + (year + k) / 4 + (year + k) / 400 := by
  induction k with
  | zero => simp [Nat.add_comm]
  | succ k ih =>
    have hYear := daysInYear_succ (year + k)
    rw [Finset.sum_range_succ, ← Nat.add_assoc year k 1]
    linarith only [ih, hYear]

end WaitAgent.Verified
