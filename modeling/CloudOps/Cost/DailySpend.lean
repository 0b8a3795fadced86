import CloudOps.Cost.CommitmentCoverage
import CloudOps.Js.Dates
import Mathlib.Data.List.Find

namespace CloudOps.Cost

open CloudOps.GroupTotals CloudOps.Js

-- The daily spend over Dates, which the loop keys by their texts. A Date is its time value.
namespace Dates

structure DailySpendRow where
  usageDate : Int
  amount : ℚ

-- while (cursor <= endDate)
def fillDays (byDay : List (List Char × ℚ)) (endDate cursor : Int) : List ℚ :=
  if cursor ≤ endDate then
    (mapGet byDay (isoDate cursor)).getD 0 :: fillDays byDay endDate (setUTCDate cursor (getUTCDate cursor + 1))
  else []
termination_by (endDate + 1 - cursor).toNat
decreasing_by
  rw [setUTCDate_add, dayLength]
  omega

def buildDailySpend (startDate endDate : Int) (rows : List DailySpendRow) : List ℚ :=
  fillDays (rows.map fun row => (isoDate row.usageDate, row.amount)) endDate startDate

-- A row by the day of its date.
def DailySpendRow.onDay (row : DailySpendRow) : Cost.DailySpendRow := ⟨dayOf row.usageDate, row.amount⟩

theorem fillDays_eq (byDay : List (List Char × ℚ)) (endDate cursor : Int) :
    fillDays byDay endDate cursor =
      (List.range (dayOf (endDate - timeWithinDay cursor) + 1 - dayOf cursor).toNat).map fun i : Nat =>
        (mapGet byDay (isoDate (cursor + i * dayLength))).getD 0 := by
  have hcursor := makeDate_eq cursor
  generalize hcount : (dayOf (endDate - timeWithinDay cursor) + 1 - dayOf cursor).toNat = count
  induction count generalizing cursor with
  | zero =>
      have hlate : ¬ cursor ≤ endDate := by
        unfold makeDate dayOf timeWithinDay dayLength at *
        omega
      rw [fillDays, if_neg hlate]
      rfl
  | succ count ih =>
      have hin : cursor ≤ endDate := by
        unfold makeDate dayOf timeWithinDay dayLength at *
        omega
      have hnext : (dayOf (endDate - timeWithinDay (cursor + 1 * dayLength)) + 1 -
          dayOf (cursor + 1 * dayLength)).toNat = count := by
        unfold dayOf timeWithinDay dayLength at *
        omega
      rw [fillDays, if_pos hin, setUTCDate_add, ih _ (makeDate_eq _) hnext, List.range_succ_eq_map, List.map_cons,
        List.map_map]
      congr 1
      · simp
      · apply List.map_congr_left
        intro i _
        have hday : cursor + 1 * dayLength + (i : Int) * dayLength =
            cursor + ((Nat.succ i : Nat) : Int) * dayLength := by
          unfold dayLength
          omega
        simp only [Function.comp_apply, hday]

-- A key finds the rows of its day.
theorem get_isoDate {time : Int} (h : FourDigitYear time) (rows : List DailySpendRow) :
    mapGet (rows.map fun row => (isoDate row.usageDate, row.amount)) (isoDate time) =
      amountOn (rows.map DailySpendRow.onDay) (dayOf time) := by
  rw [mapGet_isoDate h, amountOn, List.filter_map, List.getLast?_map, Option.map_map]
  rfl

-- While years have four digits the texts tell the days apart, and the loop does what its
-- model by days does.
theorem buildDailySpend_eq {startDate endDate : Int} (hstart : FourDigitYear startDate) (hend : FourDigitYear endDate)
    (rows : List DailySpendRow) :
    buildDailySpend startDate endDate rows =
      Cost.buildDailySpend (dayOf startDate) (dayOf (endDate - timeWithinDay startDate))
        (rows.map DailySpendRow.onDay) := by
  rw [buildDailySpend, fillDays_eq, Cost.buildDailySpend]
  apply List.map_congr_left
  intro i hi
  have hlt := List.mem_range.mp hi
  have htime := makeDate_eq startDate
  have hday : dayOf (startDate + i * dayLength) = dayOf startDate + i := by
    unfold dayOf dayLength
    omega
  have hle : startDate + i * dayLength ≤ endDate := by
    unfold makeDate dayOf timeWithinDay dayLength at *
    omega
  have hyear := fourDigitYear_between hstart hend (by unfold dayLength; omega) hle
  rw [get_isoDate hyear, hday]

end Dates

section Rows

variable {rows : List DailySpendRow}

-- Of rows of different days, a day has one at most.
theorem amountOn_eq_find (hdistinct : (rows.map DailySpendRow.usageDate).Nodup) (day : Int) :
    amountOn rows day = (rows.find? fun row => row.usageDate = day).map DailySpendRow.amount := by
  induction rows with
  | nil => rfl
  | cons row rest ih =>
      rw [List.map_cons, List.nodup_cons] at hdistinct
      by_cases hday : row.usageDate = day
      · have hnone : (rest.filter fun other => other.usageDate = day) = [] := by
          rw [List.filter_eq_nil_iff]
          intro other hother heq
          exact hdistinct.1 (List.mem_map.mpr ⟨other, hother, (of_decide_eq_true heq).trans hday.symm⟩)
        simp [amountOn, hday, hnone]
      · have hrest := ih hdistinct.2
        unfold amountOn at hrest ⊢
        rw [List.filter_cons_of_neg (by simpa using hday), List.find?_cons_of_neg (by simpa using hday), hrest]

theorem find_eq_groupTotal (hdistinct : (rows.map DailySpendRow.usageDate).Nodup) (day : Int) :
    ((rows.find? fun row => row.usageDate = day).map DailySpendRow.amount).getD 0 =
      groupTotal DailySpendRow.usageDate DailySpendRow.amount rows day := by
  induction rows with
  | nil => rfl
  | cons row rest ih =>
      rw [List.map_cons, List.nodup_cons] at hdistinct
      rw [groupTotal_cons]
      by_cases hday : row.usageDate = day
      · have hnone : day ∉ groups DailySpendRow.usageDate rest := by
          rintro hmem
          obtain ⟨other, hother, heq⟩ := mem_groups.mp hmem
          exact hdistinct.1 (List.mem_map.mpr ⟨other, hother, heq.trans hday.symm⟩)
        simp [hday, groupTotal_of_not_mem hnone]
      · simp [hday, ih hdistinct.2]

-- The days of a window add up to the rows inside it.
theorem sum_buildDailySpend_rows (hdistinct : (rows.map DailySpendRow.usageDate).Nodup) (startDate endDate : Int) :
    (buildDailySpend startDate endDate rows).sum =
      ((rows.filter fun row => startDate ≤ row.usageDate && row.usageDate ≤ endDate).map
        DailySpendRow.amount).sum := by
  have hdays : buildDailySpend startDate endDate rows =
      ((List.range (endDate + 1 - startDate).toNat).map fun i : Nat => startDate + i).map
        (groupTotal DailySpendRow.usageDate DailySpendRow.amount
          (rows.filter fun row => startDate ≤ row.usageDate && row.usageDate ≤ endDate)) := by
    rw [buildDailySpend, List.map_map]
    apply List.map_congr_left
    intro i hi
    have hlt := List.mem_range.mp hi
    rw [amountOn_eq_find hdistinct, find_eq_groupTotal hdistinct, Function.comp_apply, groupTotal, groupTotal,
      List.filter_filter]
    congr 2
    apply List.filter_congr
    intro row _
    by_cases hday : row.usageDate = startDate + i
    · simp only [hday, decide_true, Bool.true_and]
      symm
      rw [Bool.and_eq_true, decide_eq_true_eq, decide_eq_true_eq]
      omega
    · simp [hday]
  rw [hdays]
  apply sum_groupTotal
  · apply List.Nodup.map _ List.nodup_range
    intro i j heq
    simpa using heq
  · intro row hrow
    have hin := (List.mem_filter.mp hrow).2
    rw [Bool.and_eq_true, decide_eq_true_eq, decide_eq_true_eq] at hin
    exact List.mem_map.mpr ⟨(row.usageDate - startDate).toNat, List.mem_range.mpr (by omega), by omega⟩

end Rows

namespace Dates

-- A Date at midnight, UTC.
def Midnight (time : Int) : Prop := timeWithinDay time = 0

instance (time : Int) : Decidable (Midnight time) := inferInstanceAs (Decidable (_ = _))

theorem Midnight.eq {time : Int} (h : Midnight time) : time = dayOf time * dayLength := by
  have htime := makeDate_eq time
  rw [makeDate, h, Int.add_zero] at htime
  exact htime.symm

-- What the loop gives of a window: an entry for each of its days, the amount of the day's
-- row if it has one, and altogether the amounts of the rows inside.
structure GapFilled (startDate endDate : Int) (rows : List DailySpendRow) (days : List ℚ) : Prop where
  length : (days.length : Int) = (endDate - startDate) / dayLength + 1
  entry : ∀ i < days.length, days[i]? = some
    (((rows.find? fun row => row.usageDate = startDate + i * dayLength).map DailySpendRow.amount).getD 0)
  sum : days.sum =
    ((rows.filter fun row => startDate ≤ row.usageDate && row.usageDate ≤ endDate).map DailySpendRow.amount).sum

section GapFilled

variable {startDate endDate : Int} {rows : List DailySpendRow}

theorem nodup_onDay (hmidnight : ∀ row ∈ rows, Midnight row.usageDate)
    (hdistinct : (rows.map DailySpendRow.usageDate).Nodup) :
    ((rows.map DailySpendRow.onDay).map Cost.DailySpendRow.usageDate).Nodup := by
  have hdays : (rows.map DailySpendRow.onDay).map Cost.DailySpendRow.usageDate =
      (rows.map DailySpendRow.usageDate).map dayOf := by
    rw [List.map_map, List.map_map]
    rfl
  rw [hdays]
  refine hdistinct.map_on fun first hfirst second hsecond heq => ?_
  obtain ⟨row, hrow, rfl⟩ := List.mem_map.mp hfirst
  obtain ⟨other, hother, rfl⟩ := List.mem_map.mp hsecond
  rw [(hmidnight row hrow).eq, (hmidnight other hother).eq, heq]

theorem find_onDay (hmidnight : ∀ row ∈ rows, Midnight row.usageDate) (hstart : Midnight startDate) (i : Nat) :
    ((rows.map DailySpendRow.onDay).find? fun row => row.usageDate = dayOf startDate + i).map
        Cost.DailySpendRow.amount =
      (rows.find? fun row => row.usageDate = startDate + i * dayLength).map DailySpendRow.amount := by
  have hsame : ∀ row ∈ rows, decide (row.onDay.usageDate = dayOf startDate + i) =
      decide (row.usageDate = startDate + i * dayLength) := by
    intro row hrow
    have htime := (hmidnight row hrow).eq
    have hfirst := hstart.eq
    unfold dayLength at *
    apply decide_eq_decide.mpr
    change dayOf row.usageDate = _ ↔ _
    omega
  rw [List.find?_map, Option.map_map, ← List.find?_congr hsame]
  rfl

theorem amounts_onDay (hmidnight : ∀ row ∈ rows, Midnight row.usageDate) (hstart : Midnight startDate)
    (hend : Midnight endDate) :
    ((rows.map DailySpendRow.onDay).filter fun row =>
        dayOf startDate ≤ row.usageDate && row.usageDate ≤ dayOf endDate).map Cost.DailySpendRow.amount =
      (rows.filter fun row => startDate ≤ row.usageDate && row.usageDate ≤ endDate).map DailySpendRow.amount := by
  rw [List.filter_map, List.map_map]
  congr 1
  apply List.filter_congr
  intro row hrow
  have htime := (hmidnight row hrow).eq
  have hfirst := hstart.eq
  have hlast := hend.eq
  unfold dayLength at htime hfirst hlast
  change (decide (dayOf startDate ≤ dayOf row.usageDate) && decide (dayOf row.usageDate ≤ dayOf endDate)) = _
  congr 1 <;> exact decide_eq_decide.mpr (by omega)

theorem buildDailySpend_gapFilled (hstart : Midnight startDate) (hend : Midnight endDate)
    (hle : startDate ≤ endDate) (hfirst : FourDigitYear startDate) (hlast : FourDigitYear endDate)
    (hmidnight : ∀ row ∈ rows, Midnight row.usageDate) (hdistinct : (rows.map DailySpendRow.usageDate).Nodup) :
    GapFilled startDate endDate rows (buildDailySpend startDate endDate rows) := by
  have hdays := nodup_onDay hmidnight hdistinct
  have htimes := hstart.eq
  have htimes' := hend.eq
  have heq := buildDailySpend_eq hfirst hlast rows
  rw [hstart, Int.sub_zero] at heq
  rw [heq]
  refine ⟨?_, ?_, ?_⟩
  · rw [Cost.buildDailySpend, List.length_map, List.length_range]
    unfold dayLength at *
    omega
  · intro i hi
    rw [← find_onDay hmidnight hstart, ← amountOn_eq_find hdays, List.getElem?_eq_getElem hi]
    simp [Cost.buildDailySpend]
  · rw [sum_buildDailySpend_rows hdays, amounts_onDay hmidnight hstart hend]

end GapFilled

-- Over the end of a year, with a row on each side of it.
theorem buildDailySpend_newYear :
    GapFilled (dateUTC 2023 11 30) (dateUTC 2024 0 2)
      [⟨dateUTC 2024 0 1, 7⟩, ⟨dateUTC 2023 11 31, 5⟩]
      (buildDailySpend (dateUTC 2023 11 30) (dateUTC 2024 0 2)
        [⟨dateUTC 2024 0 1, 7⟩, ⟨dateUTC 2023 11 31, 5⟩]) :=
  buildDailySpend_gapFilled (by decide) (by decide) (by decide) (by decide) (by decide) (by decide) (by decide)

-- From the year 10000 on, the first ten characters of a date stop at its month.
theorem buildDailySpend_fiveDigits :
    ¬ ∀ startDate endDate rows, Midnight startDate → Midnight endDate → startDate ≤ endDate →
      (∀ row ∈ rows, Midnight row.usageDate) → (rows.map DailySpendRow.usageDate).Nodup →
        GapFilled startDate endDate rows (buildDailySpend startDate endDate rows) := by
  intro h
  have hfilled := h (dateUTC 10000 0 1) (dateUTC 10000 0 2) [⟨dateUTC 10000 0 2, 5⟩]
    (by decide) (by decide) (by decide) (by decide) (by decide)
  have hdays : (dateUTC 10000 0 2 - dateUTC 10000 0 1) / dayLength + 1 = 2 := by decide
  have hlength := hfilled.length
  have hentry := hfilled.entry 0 (by omega)
  rw [buildDailySpend, fillDays, if_pos (by decide)] at hentry
  exact absurd hentry (by decide)

end Dates

end CloudOps.Cost
