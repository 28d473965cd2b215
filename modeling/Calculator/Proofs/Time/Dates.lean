import Mathlib.Tactic.IntervalCases
import Calculator.Time.Calendar

/-!
The dates of the days follow the Gregorian calendar: the first of January 1970, and from then on, and
backwards, each day the one after the day before it. So later days have later dates.
-/

namespace Calculator.Time

/-- A year is a leap year if four divides it, unless a hundred does and four hundred does not. -/
def IsLeap (year : Int) : Prop := year % 4 = 0 ∧ (year % 100 ≠ 0 ∨ year % 400 = 0)

instance (year : Int) : Decidable (IsLeap year) := inferInstanceAs (Decidable (_ ∧ _))

def monthLength (year : Int) (month : Nat) : Nat :=
  if month = 2 then if IsLeap year then 29 else 28
  else if month = 4 ∨ month = 6 ∨ month = 9 ∨ month = 11 then 30
  else 31

namespace Date

/-- The day after a date. -/
def next (date : Date) : Date :=
  if date.day < monthLength date.year date.month then { date with day := date.day + 1 }
  else if date.month < 12 then ⟨date.year, date.month + 1, 1⟩
  else ⟨date.year + 1, 1, 1⟩

/-- Dates are ordered by year, then by month, then by day. -/
def Before (x y : Date) : Prop :=
  x.year < y.year ∨ x.year = y.year ∧
    (x.month < y.month ∨ x.month = y.month ∧ x.day < y.day)

section Next

variable {year : Int} {month day : Nat}

theorem next_within (h : day < monthLength year month) :
    next ⟨year, month, day⟩ = ⟨year, month, day + 1⟩ :=
  if_pos h

theorem next_at_month_end (h : monthLength year month ≤ day) (hm : month < 12) :
    next ⟨year, month, day⟩ = ⟨year, month + 1, 1⟩ :=
  (if_neg (Nat.not_lt.mpr h)).trans (if_pos hm)

theorem next_at_year_end (h : monthLength year 12 ≤ day) :
    next ⟨year, 12, day⟩ = ⟨year + 1, 1, 1⟩ :=
  (if_neg (Nat.not_lt.mpr h)).trans (if_neg (Nat.lt_irrefl 12))

theorem before_next (date : Date) : date.Before date.next := by
  unfold next Before
  split
  · exact .inr ⟨rfl, .inr ⟨rfl, Nat.lt_succ_self _⟩⟩
  · split
    · exact .inr ⟨rfl, .inl (Nat.lt_succ_self _)⟩
    · exact .inl (Int.lt_succ _)

theorem Before.trans {x y z : Date} (hxy : x.Before y) (hyz : y.Before z) : x.Before z := by
  unfold Before at *
  omega

end Next

/-!
Inside of a year that begins in March. Its months begin by a rule of five months with 153 days.
-/

def monthStart (m : Nat) : Nat := (153 * m + 2) / 5

def monthOfMarch (m : Nat) : Nat := if m < 10 then m + 3 else m - 9

/-- The date of a day counted from the first of March. -/
def fromMarch (year : Int) (dayOfYear : Nat) : Date :=
  let monthFromMarch := (5 * dayOfYear + 2) / 153
  let day := dayOfYear - (153 * monthFromMarch + 2) / 5 + 1
  let month := if monthFromMarch < 10 then monthFromMarch + 3 else monthFromMarch - 9
  ⟨year + (if month ≤ 2 then 1 else 0), month, day⟩

section Months

variable {m day d : Nat}

/-- Only February, the last of these months, has a length of its own. -/
theorem monthLength_of_march (h : m < 11) (year : Int) :
    monthStart (m + 1) = monthStart m + monthLength year (monthOfMarch m) := by
  interval_cases m <;> rfl

theorem fromMarch_of_month (y : Int) (hm : m < 12)
    (hd : monthStart m + day < monthStart (m + 1)) :
    fromMarch y (monthStart m + day) =
      ⟨if m < 10 then y else y + 1, monthOfMarch m, day + 1⟩ := by
  have hq : (5 * (monthStart m + day) + 2) / 153 = m := by
    unfold monthStart at *
    omega
  unfold fromMarch
  dsimp only
  rw [hq]
  unfold monthOfMarch
  split
  · simp [monthStart]
  · simp [monthStart]
    omega

theorem exists_month (h : d < 366) :
    ∃ m day, m < 12 ∧ d = monthStart m + day ∧ d < monthStart (m + 1) := by
  refine ⟨(5 * d + 2) / 153, d - monthStart ((5 * d + 2) / 153), by omega, ?_, ?_⟩
  all_goals
    unfold monthStart
    omega

theorem fromMarch_succ {y : Int} (hd : d < 365) (hl : d = 364 → IsLeap (y + 1)) :
    fromMarch y (d + 1) = (fromMarch y d).next := by
  obtain ⟨m, day, hm, rfl, hlt⟩ := exists_month (Nat.lt_succ_of_lt hd)
  rw [fromMarch_of_month y hm hlt]
  by_cases hfebruary : m = 11
  · subst hfebruary
    have hstart : monthStart 11 = 337 := rfl
    have hend : monthStart (11 + 1) = 367 := rfl
    have hshort : day + 1 < monthLength (y + 1) 2 := by
      unfold monthLength
      rw [if_pos rfl]
      split
      · omega
      next hn =>
        have hne : monthStart 11 + day ≠ 364 := fun he => hn (hl he)
        omega
    rw [Nat.add_assoc, fromMarch_of_month y hm (by omega)]
    exact (next_within hshort).symm
  · have hlength := monthLength_of_march (m := m) (by omega) (if m < 10 then y else y + 1)
    by_cases hwithin : monthStart m + (day + 1) < monthStart (m + 1)
    · rw [Nat.add_assoc, fromMarch_of_month y hm hwithin, next_within (by omega)]
    · have hd : monthStart m + day + 1 = monthStart (m + 1) + 0 := by omega
      have hgrow : monthStart (m + 1) + 0 < monthStart (m + 1 + 1) := by
        unfold monthStart
        omega
      rw [hd, fromMarch_of_month y (by omega) hgrow]
      by_cases hdecember : m = 9
      · subst hdecember
        change monthStart (9 + 1) = monthStart 9 + monthLength y 12 at hlength
        have hfull : monthLength y 12 ≤ day + 1 := by omega
        exact (next_at_year_end hfull).symm
      · have hmonth : monthOfMarch (m + 1) = monthOfMarch m + 1 ∧ monthOfMarch m < 12 := by
          unfold monthOfMarch
          split <;> split <;> omega
        have hyear : (if m + 1 < 10 then y else y + 1) = if m < 10 then y else y + 1 := by
          split <;> split <;> omega
        rw [next_at_month_end (by omega) hmonth.2, hmonth.1, hyear]

theorem fromMarch_zero (y : Int) :
    fromMarch (y + 1) 0 = (fromMarch y (if IsLeap (y + 1) then 365 else 364)).next := by
  have hfirst : fromMarch (y + 1) 0 = ⟨y + 1, 3, 1⟩ := by simp [fromMarch]
  rw [hfirst]
  split
  next h =>
    have hlast : fromMarch y 365 = ⟨y + 1, 2, 29⟩ := rfl
    rw [hlast, next_at_month_end (by simp [monthLength, h]) (by decide)]
  next h =>
    have hlast : fromMarch y 364 = ⟨y + 1, 2, 28⟩ := rfl
    rw [hlast, next_at_month_end (by simp [monthLength, h]) (by decide)]

theorem bounds_fromMarch (y : Int) (h : d < 366) :
    (fromMarch y d).month ≤ 12 ∧ (fromMarch y d).day ≤ 31 := by
  obtain ⟨m, day, hm, rfl, hlt⟩ := exists_month h
  rw [fromMarch_of_month y hm hlt]
  constructor
  · change (if m < 10 then m + 3 else m - 9) ≤ 12
    split <;> omega
  · change day + 1 ≤ 31
    unfold monthStart at hlt
    omega

end Months

/-!
Four hundred years: centuries, groups of four years, years and days. A century has one group too few for
its days to go round, and the leap day that ends a group is missing at the end of each century but the
last.
-/

structure Fits (century group year day : Nat) : Prop where
  century_lt : century < 4
  group_lt : group < 25
  year_lt : year < 4
  day_lt : day < 365 ∨ day = 365 ∧ year = 3 ∧ (group < 24 ∨ century = 3)

section Cycle

variable {c k a d : Nat}

theorem exists_fits {n : Nat} (h : n < 146097) :
    ∃ c k a d, Fits c k a d ∧ n = 36524 * c + 1461 * k + 365 * a + d := by
  obtain ⟨c, r, rfl, hc, hr⟩ :
      ∃ c r, n = 36524 * c + r ∧ c < 4 ∧ (r < 36524 ∨ r = 36524 ∧ c = 3) :=
    ⟨min 3 (n / 36524), n - 36524 * min 3 (n / 36524), by omega, by omega, by omega⟩
  obtain ⟨k, s, rfl, hk, hs⟩ : ∃ k s, r = 1461 * k + s ∧ k < 25 ∧ s < 1461 :=
    ⟨r / 1461, r % 1461, by omega, by omega, by omega⟩
  obtain ⟨a, d, rfl, ha, hd⟩ :
      ∃ a d, s = 365 * a + d ∧ a < 4 ∧ (d < 365 ∨ d = 365 ∧ a = 3) :=
    ⟨min 3 (s / 365), s - 365 * min 3 (s / 365), by omega, by omega, by omega⟩
  exact ⟨c, k, a, d, ⟨hc, hk, ha, by omega⟩, by omega⟩

theorem Fits.day_lt_366 (h : Fits c k a d) : d < 366 := by
  have hd := h.day_lt
  omega

theorem Fits.isLeap_iff (h : Fits c k a d) (cycle : Int) :
    IsLeap (cycle * 400 + (100 * c + 4 * k + a : Nat) + 1) ↔ a = 3 ∧ (k < 24 ∨ c = 3) := by
  obtain ⟨hc, hk, ha, -⟩ := h
  unfold IsLeap
  omega

/-- The years of a cycle are told from its days by leaving out the leap days. -/
theorem yearOfCycle_of_fits (h : Fits c k a d) :
    let n := 36524 * c + 1461 * k + 365 * a + d
    (n - n / 1460 + n / 36524 - n / 146096) / 365 = 100 * c + 4 * k + a := by
  intro n
  obtain ⟨hc, hk, ha, hd⟩ := h
  have hcentury : n / 36524 = c + n / 146096 := by
    have hn : n < 36524 * (c + 1) ∨ n = 146096 ∧ c = 3 := by omega
    rcases hn with hn | ⟨hn, rfl⟩
    · have hq : n / 36524 = c := Nat.div_eq_of_lt_le (by omega) (by omega)
      have hz : n / 146096 = 0 := Nat.div_eq_of_lt (by omega)
      omega
    · rw [hn]
  have hgroup : n / 1460 = 25 * c + k + (24 * c + k + 365 * a + d) / 1460 := by omega
  have hyear : (365 * a + d - (24 * c + k + 365 * a + d) / 1460) / 365 = a := by omega
  omega

theorem ofDays_of_fits (h : Fits c k a d) (cycle : Int) :
    ofDays (cycle * 146097 + (36524 * c + 1461 * k + 365 * a + d : Nat) - epochDays) =
      fromMarch (cycle * 400 + (100 * c + 4 * k + a : Nat)) d := by
  have hday : 36524 * c + 1461 * k + 365 * a + d - (365 * (100 * c + 4 * k + a) +
      (100 * c + 4 * k + a) / 4 - (100 * c + 4 * k + a) / 100) = d := by
    obtain ⟨hc, hk, ha, hd⟩ := h
    have hfour : (100 * c + 4 * k + a) / 4 = 25 * c + k := by omega
    have hhundred : (100 * c + 4 * k + a) / 100 = c := by omega
    omega
  have hn : 36524 * c + 1461 * k + 365 * a + d < 146097 := by
    obtain ⟨hc, hk, ha, hd⟩ := h
    omega
  have hyear := yearOfCycle_of_fits h
  generalize 36524 * c + 1461 * k + 365 * a + d = n at *
  have hcycle : (cycle * 146097 + (n : Int)) / 146097 = cycle := by omega
  have hrest : ((cycle * 146097 + (n : Int)) % 146097).toNat = n := by omega
  unfold ofDays fromMarch
  simp only [Int.sub_add_cancel, cycleDays, Int.cast_ofNat_Int, hcycle, hrest, hyear, hday]

theorem exists_ofDays (days : Int) : ∃ (cycle : Int) (c k a d : Nat), Fits c k a d ∧
    days = cycle * 146097 + (36524 * c + 1461 * k + 365 * a + d : Nat) - epochDays := by
  have hn : ((days + epochDays) % 146097).toNat < 146097 := by omega
  obtain ⟨c, k, a, d, h, he⟩ := exists_fits hn
  exact ⟨(days + epochDays) / 146097, c, k, a, d, h, by omega⟩

/-- After the last day of a year comes the first day of the next one. -/
theorem Fits.exists_first (h : Fits c k a d) (cycle : Int)
    (hd : d = if a = 3 ∧ (k < 24 ∨ c = 3) then 365 else 364) :
    ∃ (cycle' : Int) (c' k' a' : Nat), Fits c' k' a' 0 ∧
      cycle' * 146097 + (36524 * c' + 1461 * k' + 365 * a' + 0 : Nat) =
        cycle * 146097 + (36524 * c + 1461 * k + 365 * a + d : Nat) + 1 ∧
      cycle' * 400 + (100 * c' + 4 * k' + a' : Nat) =
        cycle * 400 + (100 * c + 4 * k + a : Nat) + 1 := by
  obtain ⟨hc, hk, ha, -⟩ := h
  have hlast : d = 365 ∧ a = 3 ∧ (k < 24 ∨ c = 3) ∨ d = 364 ∧ ¬ (a = 3 ∧ (k < 24 ∨ c = 3)) := by
    split at hd <;> omega
  clear hd
  by_cases hyear : a < 3
  · exact ⟨cycle, c, k, a + 1, ⟨hc, hk, by omega, by omega⟩, by omega, by omega⟩
  by_cases hgroup : k < 24
  · exact ⟨cycle, c, k + 1, 0, ⟨hc, by omega, by omega, by omega⟩, by omega, by omega⟩
  by_cases hcentury : c < 3
  · exact ⟨cycle, c + 1, 0, 0, ⟨by omega, by omega, by omega, by omega⟩, by omega, by omega⟩
  · exact ⟨cycle + 1, 0, 0, 0, ⟨by omega, by omega, by omega, by omega⟩, by omega, by omega⟩

end Cycle

/-- The date of the next day is the next date of the calendar. -/
theorem ofDays_succ (days : Int) : ofDays (days + 1) = (ofDays days).next := by
  obtain ⟨cycle, c, k, a, d, h, rfl⟩ := exists_ofDays days
  have hleap := h.isLeap_iff cycle
  rw [ofDays_of_fits h]
  by_cases hlast : d = if a = 3 ∧ (k < 24 ∨ c = 3) then 365 else 364
  · obtain ⟨cycle', c', k', a', h', hdays, hyears⟩ := h.exists_first cycle hlast
    have hnext := ofDays_of_fits h' cycle'
    rw [hdays, hyears, fromMarch_zero] at hnext
    simp only [hleap, ← hlast] at hnext
    rw [← hnext]
    congr 1
    omega
  · have hfits : Fits c k a (d + 1) := by
      obtain ⟨hc, hk, ha, hd⟩ := h
      exact ⟨hc, hk, ha, by split at hlast <;> omega⟩
    have hshort : d < 365 := Nat.lt_of_succ_lt_succ hfits.day_lt_366
    have hleapDay : d = 364 → IsLeap (cycle * 400 + (100 * c + 4 * k + a : Nat) + 1) := fun he =>
      hleap.mpr (Decidable.byContradiction fun hn => hlast (he.trans (if_neg hn).symm))
    rw [← fromMarch_succ hshort hleapDay, ← ofDays_of_fits hfits cycle]
    congr 1
    omega

example : ofDays 0 = ⟨1970, 1, 1⟩ := rfl

theorem bounds_ofDays (days : Int) : (ofDays days).month ≤ 12 ∧ (ofDays days).day ≤ 31 := by
  obtain ⟨cycle, c, k, a, d, h, rfl⟩ := exists_ofDays days
  rw [ofDays_of_fits h]
  exact bounds_fromMarch _ h.day_lt_366

/-- Later days have later dates. -/
theorem before_of_lt {days later : Int} (h : days < later) :
    (ofDays days).Before (ofDays later) := by
  obtain ⟨n, rfl⟩ : ∃ n : Nat, later = days + n + 1 := ⟨(later - days - 1).toNat, by omega⟩
  clear h
  induction n with
  | zero =>
    rw [Int.natCast_zero, Int.add_zero, ofDays_succ]
    exact before_next _
  | succ n ih =>
    rw [ofDays_succ, Int.natCast_succ, ← Int.add_assoc]
    exact ih.trans (before_next _)

end Date

end Calculator.Time
