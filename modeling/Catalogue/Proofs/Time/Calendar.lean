import Catalogue.Time.Day
import Mathlib.Tactic.IntervalCases
import Mathlib.Tactic.Linarith

/-!
Days and their numbers. Each number is that of exactly one day of the calendar. The calendar repeats every 400 years, an
era of 146097 days; within an era the year is found first, then the month and the day, all counted from March.
-/

set_option autoImplicit false

namespace Catalogue.Day

/-- Days of an era before a year of it. -/
def before (y : Int) : Int := 365 * y + y / 4 - y / 100 + y / 400

def yearOf (n : Int) : Int := (n - n / 1460 + n / 36524 - n / 146096) / 365

/-- Days of a year before a month of it, which is the third of these for May, and so on. -/
def beforeMonth (m : Int) : Int := (153 * m + 2) / 5

def monthOf (n : Int) : Int := (5 * n + 2) / 153

/-! ### Years of an era -/

theorem yearOf_bounds {n : Int} (h0 : 0 ≤ n) (h1 : n < 146097) : 0 ≤ yearOf n ∧ yearOf n < 400 := by
  unfold yearOf
  omega

/-- A day of an era lies in one of four centuries of 36524 days, unless it is the leap day at the end of the era. -/
theorem eq_last_or_century {n : Int} (h0 : 0 ≤ n) (h1 : n < 146097) : n = 146096 ∨
    ∃ c, (c = 0 ∨ c = 1 ∨ c = 2 ∨ c = 3) ∧ n / 36524 = c ∧ n / 146096 = 0 ∧ yearOf n / 100 = c := by
  unfold yearOf
  have hdays : n / 36524 = 0 ∨ n / 36524 = 1 ∨ n / 36524 = 2 ∨ n / 36524 = 3 ∨ n / 36524 = 4 := by omega
  rcases hdays with h | h | h | h | h
  · exact Or.inr ⟨0, by omega, h, by omega, by omega⟩
  · exact Or.inr ⟨1, by omega, h, by omega, by omega⟩
  · exact Or.inr ⟨2, by omega, h, by omega, by omega⟩
  · exact Or.inr ⟨3, by omega, h, by omega, by omega⟩
  · exact Or.inl (by omega)

theorem before_yearOf_le {n : Int} (h0 : 0 ≤ n) (h1 : n < 146097) : before (yearOf n) ≤ n := by
  have hbounds := yearOf_bounds h0 h1
  obtain rfl | ⟨c, hcases, hc, hlast, hy⟩ := eq_last_or_century h0 h1
  · decide
  · have hyear : yearOf n = (n - n / 1460 + n / 36524 - n / 146096) / 365 := rfl
    rw [hc, hlast] at hyear
    generalize yearOf n = y at hbounds hyear hy
    have hera : y / 400 = 0 := by omega
    unfold before
    rcases hcases with rfl | rfl | rfl | rfl <;> omega

theorem lt_before_yearOf {n : Int} (h0 : 0 ≤ n) (h1 : n < 146097) : n < before (yearOf n + 1) := by
  have hbounds := yearOf_bounds h0 h1
  obtain rfl | ⟨c, hcases, hc, hlast, hy⟩ := eq_last_or_century h0 h1
  · decide
  · have hyear : yearOf n = (n - n / 1460 + n / 36524 - n / 146096) / 365 := rfl
    rw [hc, hlast] at hyear
    generalize yearOf n = y at hbounds hyear hy
    unfold before
    -- the next year may begin a century, and the last of these an era
    have hnext : (y + 1) / 100 = c ∨ (y + 1) / 100 = c + 1 := by omega
    have hera : (y + 1) / 400 = 0 ∧ y < 399 ∨ (y + 1) / 400 = 1 ∧ y = 399 := by omega
    rcases hcases with rfl | rfl | rfl | rfl <;> rcases hnext with hnext | hnext <;>
      rcases hera with ⟨hera, _⟩ | ⟨hera, _⟩ <;> omega

theorem before_mono {y z : Int} (h : y ≤ z) : before y ≤ before z := by
  unfold before
  omega

theorem yearOf_eq {n y : Int} (hy0 : 0 ≤ y) (hy1 : y < 400) (h0 : before y ≤ n) (h1 : n < before (y + 1)) :
    yearOf n = y := by
  have hzero : before 0 ≤ before y := before_mono hy0
  have htop : before (y + 1) ≤ before 400 := before_mono (by omega)
  have hn0 : 0 ≤ n := hzero.trans h0
  have hn1 : n < 146097 := h1.trans_le htop
  have hle := before_yearOf_le hn0 hn1
  have hlt := lt_before_yearOf hn0 hn1
  rcases lt_trichotomy (yearOf n) y with hless | heq | hmore
  · exact absurd (hlt.trans_le (before_mono hless)) (not_lt.2 h0)
  · exact heq
  · exact absurd (h1.trans_le (before_mono hmore)) (not_lt.2 hle)

theorem monthOf_eq_iff {n m : Int} : monthOf n = m ↔ beforeMonth m ≤ n ∧ n < beforeMonth (m + 1) := by
  unfold monthOf beforeMonth
  omega

/-! ### Days counted from March -/

/-- A day by its era, its year and month in this, counted from March, and the days of the month before it. -/
structure March where
  era : Int
  year : Int
  month : Int
  earlier : Int

namespace March

def inEra (a : March) : Int := before a.year + beforeMonth a.month + a.earlier

structure Proper (a : March) : Prop where
  year_nonneg : 0 ≤ a.year
  year_lt : a.year < 400
  month_nonneg : 0 ≤ a.month
  month_lt : a.month < 12
  earlier_nonneg : 0 ≤ a.earlier
  in_month : beforeMonth a.month + a.earlier < beforeMonth (a.month + 1)
  in_year : a.inEra < before (a.year + 1)

def day (a : March) : Day :=
  let month := if a.month < 10 then a.month + 3 else a.month - 9
  ⟨a.year + a.era * 400 + (if month ≤ 2 then 1 else 0), month.toNat, (a.earlier + 1).toNat⟩

variable {a : March} {d : Day}

theorem day_of_lt (hm : 0 ≤ a.month) (h : a.month < 10) :
    a.day = ⟨a.year + a.era * 400, (a.month + 3).toNat, (a.earlier + 1).toNat⟩ := by
  have hlate : ¬a.month + 3 ≤ 2 := by omega
  simp only [day, if_pos h, if_neg hlate, Int.add_zero]

theorem day_of_ge (hm : a.month < 12) (h : ¬a.month < 10) :
    a.day = ⟨a.year + a.era * 400 + 1, (a.month - 9).toNat, (a.earlier + 1).toNat⟩ := by
  have hearly : a.month - 9 ≤ 2 := by omega
  simp only [day, if_neg h, if_pos hearly]

theorem number_day (h : a.Proper) : a.day.number = a.era * 146097 + a.inEra - 719468 := by
  obtain ⟨hy0, hy1, hm0, hm1, hk, -, -⟩ := h
  have hyear : (a.year + a.era * 400) / 400 = a.era ∧ (a.year + a.era * 400) % 400 = a.year := by omega
  have hzero : a.year / 400 = 0 := by omega
  by_cases hm : a.month < 10
  · have hlate : ¬(a.month + 3).toNat ≤ 2 := by omega
    have hmonth : (((a.month + 3).toNat : Nat) : Int) - 3 = a.month := by omega
    rw [day_of_lt hm0 hm]
    simp only [number, if_neg hlate, hyear.1, hyear.2, hmonth, inEra, before, beforeMonth, hzero]
    omega
  · have hearly : (a.month - 9).toNat ≤ 2 := by omega
    have hmonth : (((a.month - 9).toNat : Nat) : Int) + 9 = a.month := by omega
    rw [day_of_ge hm1 hm]
    simp only [number, if_pos hearly, Int.add_sub_cancel, hyear.1, hyear.2, hmonth, inEra, before, beforeMonth, hzero]
    omega

theorem before_succ (y : Int) : before (y + 1) = before y + 365 ∨ before (y + 1) = before y + 366 := by
  unfold before
  omega

/-- Years of 366 days are those whose February, their last month, is that of a leap year. -/
theorem isLeap_iff {y : Int} (era : Int) (h0 : 0 ≤ y) (h1 : y < 400) :
    isLeap (y + era * 400 + 1) = true ↔ before (y + 1) = before y + 366 := by
  simp only [isLeap, Bool.and_eq_true, Bool.or_eq_true, beq_iff_eq, bne_iff_ne, before]
  omega

theorem valid_day (h : a.Proper) : a.day.Valid := by
  have hleap := isLeap_iff a.era h.year_nonneg h.year_lt
  obtain ⟨hy0, hy1, hm0, hm1, hk, hmonth, hyear⟩ := h
  unfold beforeMonth at hmonth
  by_cases hm : a.month < 10
  · rw [day_of_lt hm0 hm]
    simp only [Valid, monthLength]
    split_ifs <;> omega
  · have hlength := before_succ a.year
    unfold inEra beforeMonth at hyear
    rw [day_of_ge hm1 hm]
    simp only [Valid, monthLength, hleap]
    split_ifs <;> omega

/-! ### From numbers and back -/

def ofNumber (n : Int) : March :=
  let r := (n + 719468) % 146097
  let s := r - before (yearOf r)
  ⟨(n + 719468) / 146097, yearOf r, monthOf s, s - beforeMonth (monthOf s)⟩

theorem inEra_ofNumber (n : Int) : (ofNumber n).era * 146097 + (ofNumber n).inEra - 719468 = n := by
  simp only [ofNumber, inEra]
  omega

theorem proper_ofNumber (n : Int) : (ofNumber n).Proper := by
  have h0 : 0 ≤ (n + 719468) % 146097 := by omega
  have h1 : (n + 719468) % 146097 < 146097 := by omega
  have hyear := yearOf_bounds h0 h1
  have hle := before_yearOf_le h0 h1
  have hlt := lt_before_yearOf h0 h1
  have hlength := before_succ (yearOf ((n + 719468) % 146097))
  obtain ⟨hmonth, hnext⟩ :=
    monthOf_eq_iff.1 (Eq.refl (monthOf ((n + 719468) % 146097 - before (yearOf ((n + 719468) % 146097)))))
  refine ⟨hyear.1, hyear.2, ?_, ?_, ?_, ?_, ?_⟩
  · simp only [ofNumber, monthOf]
    omega
  · simp only [ofNumber, monthOf]
    omega
  · simp only [ofNumber]
    omega
  · simp only [ofNumber]
    omega
  · simp only [ofNumber, inEra]
    omega

theorem ofNumber_eq (h : a.Proper) : ofNumber (a.era * 146097 + a.inEra - 719468) = a := by
  obtain ⟨hy0, hy1, hm0, hm1, hk, hmonth, hyear⟩ := h
  have hle : before a.year ≤ a.inEra := by
    unfold inEra beforeMonth
    omega
  have hera0 : 0 ≤ a.inEra := (before_mono hy0).trans hle
  have hera1 : a.inEra < 146097 := hyear.trans_le (before_mono (by omega : a.year + 1 ≤ 400))
  have hera : (a.era * 146097 + a.inEra - 719468 + 719468) / 146097 = a.era := by omega
  have hrest : (a.era * 146097 + a.inEra - 719468 + 719468) % 146097 = a.inEra := by omega
  have hday : a.inEra - before a.year = beforeMonth a.month + a.earlier := by
    unfold inEra
    omega
  have hfound : monthOf (beforeMonth a.month + a.earlier) = a.month := monthOf_eq_iff.2 ⟨by omega, hmonth⟩
  simp only [ofNumber, hera, hrest, yearOf_eq hy0 hy1 hle hyear, hday, hfound, add_sub_cancel_left]

theorem day_ofNumber (n : Int) : (ofNumber n).day = Day.ofNumber n := by
  have hyear := yearOf_bounds (n := (n + 719468) % 146097) (by omega) (by omega)
  have hbefore : before (yearOf ((n + 719468) % 146097)) =
      365 * yearOf ((n + 719468) % 146097) + yearOf ((n + 719468) % 146097) / 4 -
        yearOf ((n + 719468) % 146097) / 100 := by
    unfold before
    omega
  simp only [ofNumber, hbefore]
  rfl

def ofDay (d : Day) : March :=
  let y := if d.month ≤ 2 then d.year - 1 else d.year
  ⟨y / 400, y % 400, if d.month ≤ 2 then d.month + 9 else d.month - 3, d.day - 1⟩

theorem proper_ofDay (h : d.Valid) : (ofDay d).Proper := by
  obtain ⟨year, month, day⟩ := d
  obtain ⟨hm1, hm12, hd1, hlast⟩ := h
  dsimp only at hm1 hm12 hd1 hlast
  unfold monthLength at hlast
  have hyear0 (y : Int) : 0 ≤ y % 400 := Int.emod_nonneg y (by decide)
  have hyear1 (y : Int) : y % 400 < 400 := Int.emod_lt_of_pos y (by decide)
  by_cases hm : month ≤ 2
  · have hleap := isLeap_iff ((year - 1) / 400) (hyear0 (year - 1)) (hyear1 (year - 1))
    have hyear : (year - 1) % 400 + (year - 1) / 400 * 400 + 1 = year := by omega
    have hlength := before_succ ((year - 1) % 400)
    rw [hyear] at hleap
    simp only [hleap] at hlast
    simp only [ofDay, if_pos hm]
    refine ⟨hyear0 _, hyear1 _, ?_, ?_, ?_, ?_, ?_⟩
    all_goals
      simp only [inEra, beforeMonth]
      split_ifs at hlast <;> omega
  · have hlength := before_succ (year % 400)
    simp only [ofDay, if_neg hm]
    refine ⟨hyear0 _, hyear1 _, ?_, ?_, ?_, ?_, ?_⟩
    · dsimp only
      omega
    · dsimp only
      omega
    · dsimp only
      omega
    · simp only [beforeMonth]
      interval_cases month <;> split_ifs at hlast <;> omega
    · simp only [inEra, beforeMonth]
      split_ifs at hlast <;> omega

theorem day_ofDay (h : d.Valid) : (ofDay d).day = d := by
  obtain ⟨year, month, day⟩ := d
  obtain ⟨hm1, hm12, hd1, -⟩ := h
  dsimp only at hm1 hm12 hd1
  by_cases hm : month ≤ 2
  · have hge : ¬(month : Int) + 9 < 10 := by omega
    simp only [ofDay, if_pos hm]
    rw [day_of_ge (by dsimp only; omega) hge]
    congr 1 <;> dsimp only <;> omega
  · have hlt : (month : Int) - 3 < 10 := by omega
    simp only [ofDay, if_neg hm]
    rw [day_of_lt (by dsimp only; omega) hlt]
    congr 1 <;> dsimp only <;> omega

end March

theorem valid_ofNumber (n : Int) : (ofNumber n).Valid :=
  March.day_ofNumber n ▸ March.valid_day (March.proper_ofNumber n)

theorem number_ofNumber (n : Int) : (ofNumber n).number = n := by
  rw [← March.day_ofNumber, March.number_day (March.proper_ofNumber n), March.inEra_ofNumber]

theorem ofNumber_number {d : Day} (h : d.Valid) : ofNumber d.number = d := by
  have hnumber := March.number_day (March.proper_ofDay h)
  rw [March.day_ofDay h] at hnumber
  rw [hnumber, ← March.day_ofNumber, March.ofNumber_eq (March.proper_ofDay h), March.day_ofDay h]

end Catalogue.Day
