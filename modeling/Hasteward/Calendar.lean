import Hasteward.Common

/-!
# The proleptic Gregorian calendar of `civilOfDays`

`civilOfDays` (in `Hasteward.Common`) is the days-to-civil computation the core's time formats
rest on: it counts in eras of 400 years that start on a 1 March, splits the era's day into a
*March year* of the era and a day of that year, and only then reads off the month and the day of
the month.  This file names those intermediate quantities and proves what the retention windows
of `ApplyGroupRetention` need of them.

* `MarchDay`: a day as era, March year and day of that year, with the ranges that make it a
  calendar day carried as fields; `marchDay z` is the one `civilOfDays` computes
  (`civilOfDays_eq`, `MarchDay.dayNumber_marchDay`).  The one arithmetic fact that is not
  immediate is `yearOfEra_spec`: the year-of-era formula puts every day of the era in a year
  that holds it.
* `civilOfDays_valid`, `civilOfDays_injective`: every result is a date (a month in `1..12`, a day
  in `1..31`), and different days have different dates; `daysFromCivil` is the inverse.
* `monthIndex_mono`: the month `12 * year + month` never goes back as days go forward.
* `dayOfYear_range`: a day lies within 365 days after the 1 January of its year.
-/

set_option autoImplicit false

namespace Hasteward

/-! ## Eras and March years -/

/-- The day of the era on which March year `yoe` of the era begins. -/
def yearStart (yoe : Int) : Int := 365 * yoe + yoe / 4 - yoe / 100

/-- The March year of the era that day `doe` of the era falls in: `civilOfDays`'s formula. -/
def yearOfEra (doe : Int) : Int := (doe - doe / 1460 + doe / 36524 - doe / 146096) / 365

/-- March year `yoe` of an era ends with a 29 February: the civil year `yoe + 1` is a leap year. -/
def MarchLeap (yoe : Int) : Prop := yoe % 4 = 3 ∧ (yoe % 100 ≠ 99 ∨ yoe = 399)

/-- The year-of-era formula on a day given as centuries `c`, four-year blocks `q` and days `s`
into the block. -/
theorem yearOfEra_blocks {c q s : Int} (hc0 : 0 ≤ c) (hc : c ≤ 3) (hq0 : 0 ≤ q) (hs0 : 0 ≤ s)
    (hs : s ≤ 1460) (hqs : 1461 * q + s ≤ 36523) :
    yearOfEra (36524 * c + 1461 * q + s) =
      100 * c + 4 * q + (s - (24 * c + q + s) / 1460) / 365 := by
  have hd : (36524 * c + 1461 * q + s) / 1460 = 25 * c + q + (24 * c + q + s) / 1460 := by omega
  have hcent : (36524 * c + 1461 * q + s) / 36524 = c := by omega
  have hera : (36524 * c + 1461 * q + s) / 146096 = 0 := by omega
  rw [yearOfEra, hd, hcent, hera]
  omega

/-- What makes a March year and a day of it a day of the calendar. -/
structure MarchRange (yoe doy : Int) : Prop where
  yoe_nonneg : 0 ≤ yoe
  yoe_le : yoe ≤ 399
  doy_nonneg : 0 ≤ doy
  doy_le : doy ≤ 364 ∨ doy = 365 ∧ MarchLeap yoe

theorem marchRange_blocks {c q s : Int} (hc0 : 0 ≤ c) (hc : c ≤ 3) (hq0 : 0 ≤ q) (hs0 : 0 ≤ s)
    (hs : s ≤ 1460) (hqs : 1461 * q + s ≤ 36523) :
    MarchRange (yearOfEra (36524 * c + 1461 * q + s))
      (36524 * c + 1461 * q + s - yearStart (yearOfEra (36524 * c + 1461 * q + s))) := by
  rw [yearOfEra_blocks hc0 hc hq0 hs0 hs hqs, yearStart]
  generalize hδ : (24 * c + q + s) / 1460 = δ
  have hδ' : δ = 0 ∧ 24 * c + q + s < 1460 ∨ δ = 1 ∧ 1460 ≤ 24 * c + q + s := by omega
  clear hδ
  generalize hy4 : (s - δ) / 365 = y4
  have hy4' : 0 ≤ y4 ∧ y4 ≤ 3 ∧ 365 * y4 ≤ s - δ ∧ s - δ < 365 * y4 + 365 := by omega
  clear hy4
  have h4 : (100 * c + 4 * q + y4) / 4 = 25 * c + q := by omega
  have h100 : (100 * c + 4 * q + y4) / 100 = c := by omega
  rw [h4, h100]
  exact ⟨by omega, by omega, by omega, by unfold MarchLeap; omega⟩

/-- **The year-of-era formula is right.**  Every day of an era lies in the March year the
formula gives, at a day of that year that exists. -/
theorem yearOfEra_spec {doe : Int} (h0 : 0 ≤ doe) (h1 : doe ≤ 146096) :
    MarchRange (yearOfEra doe) (doe - yearStart (yearOfEra doe)) := by
  rcases (by omega : doe = 146096 ∨ doe < 146096) with rfl | hlt
  · -- the era's last day, 29 February of its 400th year
    exact ⟨by decide, by decide, by decide, .inr ⟨by decide, by decide, .inr (by decide)⟩⟩
  obtain ⟨c, q, s, rfl, hc0, hc, hq0, hs0, hs, hqs⟩ : ∃ c q s : Int,
      doe = 36524 * c + 1461 * q + s ∧
      0 ≤ c ∧ c ≤ 3 ∧ 0 ≤ q ∧ 0 ≤ s ∧ s ≤ 1460 ∧ 1461 * q + s ≤ 36523 :=
    ⟨doe / 36524, doe % 36524 / 1461, doe % 36524 % 1461, by omega, by omega, by omega, by omega,
      by omega, by omega, by omega⟩
  exact marchRange_blocks hc0 hc hq0 hs0 hs hqs

/-! ## A day in March form -/

/-- A day as `civilOfDays` computes it: the era, the March year of the era and the day of that
year, with their ranges. -/
structure MarchDay where
  era : Int
  yoe : Int
  doy : Int
  range : MarchRange yoe doy

/-- The day number, counted from 1970-01-01, of a day in March form. -/
def MarchDay.dayNumber (a : MarchDay) : Int := 146097 * a.era + yearStart a.yoe + a.doy - 719468

/-- The March form of day `z`, as `civilOfDays` computes it. -/
def marchDay (z : Int) : MarchDay :=
  let era := (z + 719468) / 146097
  let doe := z + 719468 - era * 146097
  ⟨era, yearOfEra doe, doe - yearStart (yearOfEra doe), yearOfEra_spec (by omega) (by omega)⟩

theorem MarchDay.dayNumber_marchDay (z : Int) : (marchDay z).dayNumber = z := by
  simp only [marchDay, MarchDay.dayNumber]
  omega

/-- The month of the March year, `0` for March to `11` for February. -/
def MarchDay.mp (a : MarchDay) : Int := (5 * a.doy + 2) / 153

/-- The month of a day in March form. -/
def MarchDay.month (a : MarchDay) : Nat := (if a.mp < 10 then a.mp + 3 else a.mp - 9).toNat

/-- The day of the month of a day in March form. -/
def MarchDay.day (a : MarchDay) : Nat := (a.doy - (153 * a.mp + 2) / 5 + 1).toNat

/-- The civil year of a day in March form: January and February belong to the next one. -/
def MarchDay.year (a : MarchDay) : Int :=
  a.yoe + a.era * 400 + (if (if a.mp < 10 then a.mp + 3 else a.mp - 9) ≤ 2 then 1 else 0)

theorem civilOfDays_eq (z : Int) :
    civilOfDays z = ((marchDay z).year, (marchDay z).month, (marchDay z).day) := rfl

theorem MarchDay.mp_range (a : MarchDay) : 0 ≤ a.mp ∧ a.mp ≤ 11 := by
  have := a.range.doy_nonneg
  have := a.range.doy_le
  unfold MarchDay.mp
  omega

theorem MarchDay.month_eq (a : MarchDay) :
    (a.month : Int) = if a.mp < 10 then a.mp + 3 else a.mp - 9 := by
  have := a.mp_range
  unfold MarchDay.month
  split <;> omega

theorem MarchDay.day_eq (a : MarchDay) : (a.day : Int) = a.doy - (153 * a.mp + 2) / 5 + 1 := by
  have := a.range.doy_nonneg
  unfold MarchDay.day MarchDay.mp
  omega

theorem MarchDay.year_eq (a : MarchDay) :
    a.year = 400 * a.era + a.yoe + if a.mp < 10 then 0 else 1 := by
  have := a.mp_range
  unfold MarchDay.year
  split_ifs <;> omega

/-- Every day is a date: a month in `1..12` and a day of the month in `1..31`. -/
theorem MarchDay.valid (a : MarchDay) : 1 ≤ a.month ∧ a.month ≤ 12 ∧ 1 ≤ a.day ∧ a.day ≤ 31 := by
  have := a.mp_range
  have := a.range.doy_nonneg
  have := a.range.doy_le
  have hm := a.month_eq
  have hd := a.day_eq
  unfold MarchDay.mp at *
  split at hm <;> omega

theorem civilOfDays_valid (z : Int) :
    1 ≤ (civilOfDays z).2.1 ∧ (civilOfDays z).2.1 ≤ 12 ∧
      1 ≤ (civilOfDays z).2.2 ∧ (civilOfDays z).2.2 ≤ 31 :=
  (marchDay z).valid

/-! ## The inverse -/

/-- The day number, from 1970-01-01, of the date `y-m-d`: the inverse of `civilOfDays`. -/
def daysFromCivil (y : Int) (m d : Nat) : Int :=
  let y := if m ≤ 2 then y - 1 else y
  let era := y / 400
  let mp : Int := if m > 2 then (m : Int) - 3 else (m : Int) + 9
  146097 * era + yearStart (y - era * 400) + (153 * mp + 2) / 5 + d - 1 - 719468

theorem MarchDay.daysFromCivil_eq (a : MarchDay) :
    daysFromCivil a.year a.month a.day = a.dayNumber := by
  have := a.mp_range
  have := a.range.yoe_nonneg
  have := a.range.yoe_le
  have hm := a.month_eq
  have hy := a.year_eq
  have hY : (if a.month ≤ 2 then a.year - 1 else a.year) = 400 * a.era + a.yoe := by
    split_ifs at hm hy ⊢ <;> omega
  have hera : (400 * a.era + a.yoe) / 400 = a.era := by omega
  have hyoe : 400 * a.era + a.yoe - a.era * 400 = a.yoe := by omega
  have hmp : (if a.month > 2 then (a.month : Int) - 3 else (a.month : Int) + 9) = a.mp := by
    split_ifs at hm ⊢ <;> omega
  simp only [daysFromCivil, hY, hera, hyoe, hmp, MarchDay.dayNumber, a.day_eq]
  omega

theorem daysFromCivil_civilOfDays (z : Int) :
    daysFromCivil (civilOfDays z).1 (civilOfDays z).2.1 (civilOfDays z).2.2 = z := by
  rw [civilOfDays_eq, MarchDay.daysFromCivil_eq, MarchDay.dayNumber_marchDay]

/-- Different days have different dates. -/
theorem civilOfDays_injective {z z' : Int} (h : civilOfDays z = civilOfDays z') : z = z' := by
  rw [← daysFromCivil_civilOfDays z, ← daysFromCivil_civilOfDays z', h]

/-! ## Months and the day of the year -/

/-- The month of a day counted from year 0: `12 * year + month`. -/
def MarchDay.monthIndex (a : MarchDay) : Int := 12 * a.year + a.month

theorem MarchDay.monthIndex_eq (a : MarchDay) :
    a.monthIndex = 4800 * a.era + 12 * a.yoe + a.mp + 3 := by
  have hm := a.month_eq
  rw [MarchDay.monthIndex, a.year_eq]
  split_ifs at hm ⊢ <;> omega

/-- The days of an era, from its first to its last. -/
theorem MarchRange.dayOfEra {yoe doy : Int} (h : MarchRange yoe doy) :
    0 ≤ yearStart yoe + doy ∧ yearStart yoe + doy ≤ 146096 := by
  have := h.yoe_nonneg
  have := h.yoe_le
  have := h.doy_nonneg
  have := h.doy_le
  unfold yearStart
  omega

/-- A later March year of an era starts after every day of an earlier one. -/
theorem yearStart_gt {y y' doy : Int} (h : MarchRange y doy) (hy : y < y') (hy' : y' ≤ 399) :
    yearStart y + doy < yearStart y' := by
  have := h.doy_le
  unfold yearStart MarchLeap at *
  omega

/-- Along the days, the month never goes back. -/
theorem MarchDay.monthIndex_mono {a b : MarchDay} (h : a.dayNumber ≤ b.dayNumber) :
    a.monthIndex ≤ b.monthIndex := by
  rw [a.monthIndex_eq, b.monthIndex_eq]
  have ha := a.mp_range
  have hb := b.mp_range
  have hya := a.range.yoe_le
  have hyb := b.range.yoe_nonneg
  have hea := a.range.dayOfEra
  have heb := b.range.dayOfEra
  unfold MarchDay.dayNumber at h
  rcases Int.lt_trichotomy a.era b.era with he | he | he
  · omega
  · rcases Int.lt_trichotomy a.yoe b.yoe with hy | hy | hy
    · omega
    · rw [hy] at h ⊢
      unfold MarchDay.mp
      omega
    · have := yearStart_gt b.range hy hya
      have := a.range.doy_nonneg
      omega
  · omega

/-- Go's `yday`: the day of the year of day `z`, counted from 0 on the 1 January of its year. -/
def dayOfYear (z : Int) : Int := z - daysFromCivil (civilOfDays z).1 1 1

theorem MarchDay.dayOfYear_range (a : MarchDay) :
    0 ≤ a.dayNumber - daysFromCivil a.year 1 1 ∧ a.dayNumber - daysFromCivil a.year 1 1 ≤ 365 := by
  have hmp := a.mp_range
  have hy := a.year_eq
  have h0 := a.range.yoe_nonneg
  have h1 := a.range.yoe_le
  have hd0 := a.range.doy_nonneg
  have hd1 := a.range.doy_le
  simp only [daysFromCivil, MarchDay.dayNumber, show ((1 : Nat) ≤ 2) = True from by decide,
    if_true, show ((1 : Nat) > 2) = False from by decide, if_false]
  unfold MarchDay.mp at hmp hy
  split_ifs at hy
  · -- March to December: the 1 January is in the March year before
    rcases (by omega : a.yoe = 0 ∨ 1 ≤ a.yoe) with h | h
    · rw [show (a.year - 1) / 400 = a.era - 1 by omega,
        show a.year - 1 - (a.era - 1) * 400 = 399 by omega, h]
      unfold yearStart
      omega
    · rw [show (a.year - 1) / 400 = a.era by omega,
        show a.year - 1 - a.era * 400 = a.yoe - 1 by omega]
      unfold yearStart MarchLeap at *
      omega
  · -- January and February: the 1 January is in the same March year
    rw [show (a.year - 1) / 400 = a.era by omega, show a.year - 1 - a.era * 400 = a.yoe by omega]
    omega

/-- Every day lies within 365 days after the 1 January of its year. -/
theorem dayOfYear_range (z : Int) : 0 ≤ dayOfYear z ∧ dayOfYear z ≤ 365 := by
  have := (marchDay z).dayOfYear_range
  rwa [MarchDay.dayNumber_marchDay] at this

end Hasteward
