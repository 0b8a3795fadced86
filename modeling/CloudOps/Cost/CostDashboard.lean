import CloudOps.Cost.CommitmentCoverage
import CloudOps.Cost.MonthEnd
import CloudOps.OrderStatistics

namespace CloudOps.Cost

open CloudOps.GroupTotals CloudOps.Js CloudOps.LeastSquares CloudOps.OrderStatistics
open CloudOps.Calendar (monthOf monthStart)
open CloudOps.ReadCommitted (Table)
open CloudOps.Ticketing (Uuid)

def TREND_MONTHS_FOR_REGRESSION : Nat := 12

-- What a forecast reads: the line items of the tenant, the runtime's time and its
-- Math.sqrt, and the day now() is on in the database.
structure DashboardReads where
  costLineItems : Table LineItemKey CostLineItem
  now : Int
  databaseToday : Int
  sqrt : ℚ → ℚ

structure CostForecast where
  monthEnd : Option (MonthEndForecastResult ℚ)
  multiMonth : Option (MultiMonthForecastResult ℚ)

variable (reads : DashboardReads) (cloudCredentialId : Option Uuid)

-- The line items of the days from one to another.
def DashboardReads.itemsBetween (first last : Int) : List (LineItemKey × CostLineItem) :=
  reads.costLineItems.rows.filter fun item =>
    first ≤ item.1.usageDate.toDay && item.1.usageDate.toDay ≤ last && inScope cloudCredentialId item

def DashboardReads.monthEndInput : MonthEndForecastInput ℚ :=
  let monthStart := dateUTC (getUTCFullYear reads.now) (getUTCMonth reads.now) 1
  let today := dateUTC (getUTCFullYear reads.now) (getUTCMonth reads.now) (getUTCDate reads.now)
  let daysInMonth := getUTCDate (dateUTC (getUTCFullYear reads.now) (getUTCMonth reads.now + 1) 0)
  let elapsedDailySpend := buildDailySpend (dayOf monthStart) (dayOf today)
    (spendByDay (reads.itemsBetween cloudCredentialId (dayOf monthStart) (dayOf today)))
  { elapsedDailySpend := elapsedDailySpend
    elapsedDayOfWeek := (List.range elapsedDailySpend.length).map fun i : Nat =>
      getUTCDay (setUTCDate monthStart (getUTCDate monthStart + i))
    remainingDayOfWeek := (List.range (daysInMonth - getUTCDate today).toNat).map fun i : Nat =>
      getUTCDay (dateUTC (getUTCFullYear reads.now) (getUTCMonth reads.now) (getUTCDate today + 1 + i)) }

-- The month now() is in.
def DashboardReads.thisMonth : Int := monthOf reads.databaseToday

-- The line items of the twelve months before it.
def DashboardReads.trendItems : List (LineItemKey × CostLineItem) :=
  reads.itemsBetween cloudCredentialId (monthStart (reads.thisMonth - TREND_MONTHS_FOR_REGRESSION))
    (monthStart reads.thisMonth - 1)

def itemMonth (item : LineItemKey × CostLineItem) : Int := monthOf item.1.usageDate.toDay

def itemAmount (item : LineItemKey × CostLineItem) : ℚ := item.2.amount

-- GROUP BY 1 ORDER BY 1: the text YYYY-MM orders as the months do.
def DashboardReads.monthlyRows : List (Int × ℚ) :=
  (groupTotals itemMonth itemAmount (reads.trendItems cloudCredentialId)).mergeSort fun a b => a.1 ≤ b.1

def DashboardReads.monthlyTotals : List ℚ := (reads.monthlyRows cloudCredentialId).map Prod.snd

-- CostDashboardService.forecast
def DashboardReads.forecast (horizonMonths : ℚ) : CostForecast where
  monthEnd := forecastMonthEnd reads.sqrt (reads.monthEndInput cloudCredentialId)
  multiMonth := forecastMultiMonth reads.sqrt (reads.monthlyTotals cloudCredentialId) horizonMonths

section MonthEnd

theorem dayOf_thisMonth (date : Int) : dayOf (dateUTC (getUTCFullYear reads.now) (getUTCMonth reads.now) date) =
    monthStart (monthAt reads.now) + (date - 1) := by
  have hday := makeDay_month reads.now 0 date
  rw [Int.add_zero, Int.add_zero] at hday
  rw [dayOf_dateUTC, hday]

-- The date of now is the day it is on.
theorem dayOf_today : dayOf (dateUTC (getUTCFullYear reads.now) (getUTCMonth reads.now) (getUTCDate reads.now)) =
    dayOf reads.now := by
  rw [dayOf_thisMonth]
  unfold getUTCDate Calendar.dayOfMonth monthAt
  omega

theorem daysInMonth_eq : getUTCDate (dateUTC (getUTCFullYear reads.now) (getUTCMonth reads.now + 1) 0) =
    Calendar.monthLength (monthAt reads.now) := by
  have hlength := (Calendar.monthLength_bounds (monthAt reads.now)).1
  have hday : makeDay (getUTCFullYear reads.now) (getUTCMonth reads.now + 1) 0 =
      monthStart (monthAt reads.now) + (Calendar.monthLength (monthAt reads.now) - 1) := by
    rw [makeDay_month, Calendar.monthStart_succ]
    omega
  rw [getUTCDate, dayOf_dateUTC, hday]
  exact Calendar.dayOfMonth_dayOf (by omega) (Int.le_refl _)

-- The forecast's elapsed and remaining days are those of the month.
theorem daysOfMonth_monthEndInput : ((reads.monthEndInput cloudCredentialId).daysOfMonth : Int) =
    Calendar.monthLength (monthAt reads.now) := by
  have hdate := Calendar.dayOfMonth_bounds (dayOf reads.now)
  have htoday : getUTCDate (dateUTC (getUTCFullYear reads.now) (getUTCMonth reads.now) (getUTCDate reads.now)) =
      getUTCDate reads.now := congrArg Calendar.dayOfMonth (dayOf_today reads)
  unfold MonthEndForecastInput.daysOfMonth DashboardReads.monthEndInput buildDailySpend
  simp only [List.length_map, List.length_range, dayOf_thisMonth, daysInMonth_eq, htoday]
  unfold getUTCDate monthAt at *
  omega

end MonthEnd

section Consecutive

def consecutive (first : Int) (count : Nat) : List Int := (List.range count).map fun i : Nat => first + i

theorem length_consecutive (first : Int) (count : Nat) : (consecutive first count).length = count := by
  rw [consecutive, List.length_map, List.length_range]

theorem mem_consecutive {first month : Int} {count : Nat} :
    month ∈ consecutive first count ↔ first ≤ month ∧ month < first + count := by
  unfold consecutive
  rw [List.mem_map]
  constructor
  · rintro ⟨i, hi, rfl⟩
    have hlt := List.mem_range.mp hi
    omega
  · rintro ⟨hle, hlt⟩
    exact ⟨(month - first).toNat, List.mem_range.mpr (by omega), by omega⟩

theorem consecutive_sorted (first : Int) (count : Nat) : (consecutive first count).Pairwise (· < ·) := by
  rw [consecutive, List.pairwise_map]
  exact List.pairwise_lt_range.imp fun hlt => by omega

theorem nodup_consecutive (first : Int) (count : Nat) : (consecutive first count).Nodup :=
  (consecutive_sorted first count).imp fun hlt => ne_of_lt hlt

theorem mergeSort_eq_consecutive {months : List Int} {first : Int} {count : Nat}
    (hperm : months.Perm (consecutive first count)) : months.mergeSort = consecutive first count := by
  apply List.Perm.eq_of_pairwise' (r := (· ≤ ·)) (mergeSort_sorted months)
  · exact (consecutive_sorted first count).imp fun hlt => le_of_lt hlt
  · exact (List.mergeSort_perm months _).trans hperm

-- As many months as there are in a range, all of them in the range, are all of the range.
theorem perm_consecutive {months : List Int} {first : Int} {count : Nat} (hnodup : months.Nodup)
    (hin : ∀ month ∈ months, first ≤ month ∧ month < first + count) (hlength : count ≤ months.length) :
    months.Perm (consecutive first count) := by
  apply (hnodup.subperm fun month hmem => mem_consecutive.mpr (hin month hmem)).perm_of_length_le
  rwa [length_consecutive]

end Consecutive

section Series

-- The months that have line items.
def DashboardReads.itemMonths : List Int := groups itemMonth (reads.trendItems cloudCredentialId)

-- What a month's line items come to, of any month.
def DashboardReads.monthTotal (month : Int) : ℚ :=
  groupTotal itemMonth itemAmount (reads.trendItems cloudCredentialId) month

variable {reads cloudCredentialId}

theorem monthlyTotals_eq : reads.monthlyTotals cloudCredentialId =
    (reads.itemMonths cloudCredentialId).mergeSort.map (reads.monthTotal cloudCredentialId) := by
  have hrows : reads.monthlyRows cloudCredentialId =
      (reads.itemMonths cloudCredentialId).mergeSort.map fun month =>
        (month, reads.monthTotal cloudCredentialId month) := by
    rw [DashboardReads.monthlyRows, groupTotals]
    symm
    apply List.map_mergeSort
    intro a _ b _
    rfl
  rw [DashboardReads.monthlyTotals, hrows, List.map_map]
  rfl

theorem itemMonth_trendItems {item : LineItemKey × CostLineItem}
    (hitem : item ∈ reads.trendItems cloudCredentialId) : itemMonth item < reads.thisMonth := by
  have hday := (List.mem_filter.mp hitem).2
  simp only [Bool.and_eq_true, decide_eq_true_eq] at hday
  have hspec := Calendar.monthOf_spec item.1.usageDate.toDay
  unfold itemMonth
  exact Calendar.lt_of_monthStart_lt (by omega)

variable (reads cloudCredentialId)

-- Every complete month from the first one with line items on.
def DashboardReads.completeMonths : List Int :=
  match (reads.itemMonths cloudCredentialId).min? with
  | none => []
  | some first => consecutive first (reads.thisMonth - first).toNat

def DashboardReads.calendarSeries : List ℚ :=
  (reads.completeMonths cloudCredentialId).map (reads.monthTotal cloudCredentialId)

-- The totals at their calendar months.
def DashboardReads.calendarPoints : List (ℚ × ℚ) :=
  (reads.completeMonths cloudCredentialId).map fun month : Int =>
    ((month : ℚ), reads.monthTotal cloudCredentialId month)

-- Once a month has line items, every later one up to the last complete month has.
def DashboardReads.NoGap : Prop :=
  ∀ item ∈ reads.trendItems cloudCredentialId, ∀ month, itemMonth item ≤ month → month < reads.thisMonth →
    ∃ other ∈ reads.trendItems cloudCredentialId, itemMonth other = month

variable {reads cloudCredentialId}

theorem completeMonths_of_min {first : Int} (hmin : (reads.itemMonths cloudCredentialId).min? = some first) :
    reads.completeMonths cloudCredentialId = consecutive first (reads.thisMonth - first).toNat := by
  rw [DashboardReads.completeMonths, hmin]

theorem itemMonths_bounds {first : Int} (hmin : (reads.itemMonths cloudCredentialId).min? = some first) :
    first < reads.thisMonth ∧ ∀ month ∈ reads.itemMonths cloudCredentialId,
      first ≤ month ∧ month < first + (reads.thisMonth - first).toNat := by
  obtain ⟨hmem, hle⟩ := List.min?_eq_some_iff.mp hmin
  have hlt : ∀ month ∈ reads.itemMonths cloudCredentialId, month < reads.thisMonth := by
    intro month hmonth
    obtain ⟨item, hitem, rfl⟩ := mem_groups.mp hmonth
    exact itemMonth_trendItems hitem
  have hfirst := hlt first hmem
  refine ⟨hfirst, fun month hmonth => ⟨hle month hmonth, ?_⟩⟩
  have hmonthLt := hlt month hmonth
  omega

theorem exists_first {item : LineItemKey × CostLineItem} (hitem : item ∈ reads.trendItems cloudCredentialId) :
    ∃ first, (reads.itemMonths cloudCredentialId).min? = some first := by
  have hmem : itemMonth item ∈ reads.itemMonths cloudCredentialId := mem_groups.mpr ⟨item, hitem, rfl⟩
  apply Option.ne_none_iff_exists'.mp
  intro hnone
  rw [List.min?_eq_none_iff.mp hnone] at hmem
  exact List.not_mem_nil hmem

-- A series as long as the months are many leaves none of them out.
theorem noGap_of_series (hseries : reads.monthlyTotals cloudCredentialId = reads.calendarSeries cloudCredentialId) :
    reads.NoGap cloudCredentialId := by
  intro item hitem month hle hlt
  obtain ⟨first, hmin⟩ := exists_first hitem
  obtain ⟨hfirst, hbounds⟩ := itemMonths_bounds hmin
  have hlength := congrArg List.length hseries
  rw [monthlyTotals_eq, DashboardReads.calendarSeries, completeMonths_of_min hmin, List.length_map,
    List.length_map, List.length_mergeSort, length_consecutive] at hlength
  have hperm := perm_consecutive (nodup_groups _) hbounds hlength.ge
  have hitemMonth := (hbounds _ (mem_groups.mpr ⟨item, hitem, rfl⟩)).1
  exact mem_groups.mp (hperm.mem_iff.mpr (mem_consecutive.mpr ⟨by omega, by omega⟩))

theorem series_of_noGap (hgap : reads.NoGap cloudCredentialId) :
    reads.monthlyTotals cloudCredentialId = reads.calendarSeries cloudCredentialId := by
  rw [monthlyTotals_eq, DashboardReads.calendarSeries]
  cases hmin : (reads.itemMonths cloudCredentialId).min? with
  | none =>
      rw [DashboardReads.completeMonths, hmin, List.min?_eq_none_iff.mp hmin, List.mergeSort_nil]
  | some first =>
      obtain ⟨hfirst, hbounds⟩ := itemMonths_bounds hmin
      obtain ⟨item, hitem, hitemMonth⟩ := mem_groups.mp (List.min?_eq_some_iff.mp hmin).1
      have hall : consecutive first (reads.thisMonth - first).toNat ⊆ reads.itemMonths cloudCredentialId := by
        intro month hmonth
        obtain ⟨hle, hlt⟩ := mem_consecutive.mp hmonth
        exact mem_groups.mpr (hgap item hitem month (by omega) (by omega))
      have hlength := ((nodup_consecutive first _).subperm hall).length_le
      rw [length_consecutive] at hlength
      have hperm : (reads.itemMonths cloudCredentialId).Perm (consecutive first (reads.thisMonth - first).toNat) :=
        perm_consecutive (nodup_groups _) hbounds hlength
      rw [completeMonths_of_min hmin, mergeSort_eq_consecutive hperm]

-- The series at its places is the months counted from the first one.
theorem calendarPoints_eq {first : Int} (hmin : (reads.itemMonths cloudCredentialId).min? = some first) :
    reads.calendarPoints cloudCredentialId =
      (monthPoints (reads.calendarSeries cloudCredentialId)).map (shiftPoint (first : ℚ)) := by
  rw [DashboardReads.calendarPoints, DashboardReads.calendarSeries, completeMonths_of_min hmin, consecutive,
    monthPoints, List.map_map, List.length_map, List.length_map, List.length_range, List.map_map, List.zip_map',
    List.map_map]
  apply List.map_congr_left
  intro i _
  simp only [Function.comp_def, shiftPoint]
  push_cast
  rw [add_comm]

theorem length_calendarSeries {first : Int} (hmin : (reads.itemMonths cloudCredentialId).min? = some first) :
    ((reads.calendarSeries cloudCredentialId).length : ℚ) = reads.thisMonth - first := by
  have hfirst := (itemMonths_bounds hmin).1
  have hcount : (((reads.thisMonth - first).toNat : Int) : ℚ) = ((reads.thisMonth - first : Int) : ℚ) := by
    rw [Int.toNat_of_nonneg (by omega)]
  rw [DashboardReads.calendarSeries, completeMonths_of_min hmin, List.length_map, length_consecutive]
  exact_mod_cast hcount

-- With three months there is one least-squares line of the calendar points.
theorem calendar_line {first : Int} (hmin : (reads.itemMonths cloudCredentialId).min? = some first)
    (hmonths : MIN_MONTHS_FOR_TREND ≤ (reads.calendarSeries cloudCredentialId).length) {line : Line ℚ}
    (hline : line.Fits (reads.calendarPoints cloudCredentialId)) :
    line = (trendLine (reads.calendarSeries cloudCredentialId)).shift (first : ℚ) := by
  have hp := mem_monthPoints (Nat.lt_of_lt_of_le (Nat.zero_lt_succ 2) hmonths)
  have hq := mem_monthPoints (Nat.lt_of_lt_of_le (Nat.one_lt_succ_succ 1) hmonths)
  rw [calendarPoints_eq hmin] at hline
  have hnormal := (fit_normal (monthPoints (reads.calendarSeries cloudCredentialId))).shift (first : ℚ)
  refine (hnormal.eq_of_fits hline (List.mem_map_of_mem hp) (List.mem_map_of_mem hq) ?_).symm
  simp [shiftPoint]

variable (reads cloudCredentialId)

-- The series has a point for each calendar month, and the forecast of some months ahead is
-- of the line through them as many months after the last.
structure DashboardReads.SpacedByMonth (horizonMonths : ℚ) : Prop where
  series : reads.monthlyTotals cloudCredentialId = reads.calendarSeries cloudCredentialId
  projected : ∀ result ∈ (reads.forecast cloudCredentialId horizonMonths).multiMonth, ∀ point ∈ result.points,
    ∀ line : Line ℚ, line.Fits (reads.calendarPoints cloudCredentialId) →
      point.projected = max 0 (line.value ((reads.thisMonth - 1 : Int) + point.monthsAhead))

variable {reads cloudCredentialId}

theorem forecast_of_calendarSeries {horizonMonths : ℚ}
    (hseries : reads.monthlyTotals cloudCredentialId = reads.calendarSeries cloudCredentialId) :
    reads.SpacedByMonth cloudCredentialId horizonMonths where
  series := hseries
  projected := by
    intro result hresult point hpoint line hline
    have hforecast : forecastMultiMonth reads.sqrt (reads.calendarSeries cloudCredentialId) horizonMonths =
        some result := by
      rw [← hseries]
      exact hresult
    obtain ⟨hmonths, hhorizon⟩ := forecastMultiMonth_enough reads.sqrt hforecast
    rw [forecastMultiMonth_eq reads.sqrt _ hmonths hhorizon] at hforecast
    obtain rfl := Option.some_inj.mp hforecast
    obtain ⟨i, _, rfl⟩ := List.mem_map.mp hpoint
    cases hmin : (reads.itemMonths cloudCredentialId).min? with
    | none =>
        have hnone : (reads.calendarSeries cloudCredentialId).length = 0 := by
          rw [DashboardReads.calendarSeries, DashboardReads.completeMonths, hmin]
          rfl
        rw [hnone] at hmonths
        exact absurd hmonths (by decide)
    | some first =>
        have hlength := length_calendarSeries hmin
        have hplace : (((reads.thisMonth - 1 : Int) : ℚ) + ((i + 1 : Nat) : ℚ)) =
            ((reads.calendarSeries cloudCredentialId).length - 1 + ((i + 1 : Nat) : ℚ)) + first := by
          rw [hlength]
          push_cast
          ring
        rw [calendar_line hmin hmonths hline]
        simp only [forecastPoint]
        rw [hplace, Line.value_shift]
        rfl

-- No month without line items comes after one with some.
theorem forecast_spaced_by_month_iff (reads : DashboardReads) (cloudCredentialId : Option Uuid) (horizonMonths : ℚ) :
    reads.SpacedByMonth cloudCredentialId horizonMonths ↔ reads.NoGap cloudCredentialId := by
  constructor
  · exact fun hspaced => noGap_of_series hspaced.series
  · exact fun hgap => forecast_of_calendarSeries (series_of_noGap hgap)

def monthItem (month : Nat) (amount : ℚ) : CostLineItem where
  region := none
  amount := amount
  currency := "USD"
  tags := [("month", toString month)]
  raw := "\x7b\x7d"
  syncedAt := 0

def monthKey (month : Nat) : LineItemKey := ⟨1, "compute", "", ⟨2026, month, 15⟩⟩

-- January 10, February 20 and April 40, in May.
def marchMissing : DashboardReads where
  costLineItems := ((AList.insert (monthKey 1) (monthItem 1 10) ∅).insert (monthKey 2) (monthItem 2 20)).insert
    (monthKey 4) (monthItem 4 40)
  now := dateUTC 2026 4 10
  databaseToday := makeDay 2026 4 10
  sqrt := id

theorem marchMissing_months : (marchMissing.trendItems none).map itemMonth =
    [12 * 2026 + 3, 12 * 2026 + 1, 12 * 2026] := by
  decide +kernel

-- April's total is taken for March's.
theorem missing_march_shifts_trend :
    ¬ ∀ (reads : DashboardReads) (cloudCredentialId : Option Uuid) (horizonMonths : ℚ),
      reads.SpacedByMonth cloudCredentialId horizonMonths := by
  intro hclaim
  have hgap := noGap_of_series (hclaim marchMissing none 3).series
  have hjanuary : (12 * 2026 : Int) ∈ (marchMissing.trendItems none).map itemMonth := by
    rw [marchMissing_months]
    decide
  obtain ⟨item, hitem, hmonth⟩ := List.mem_map.mp hjanuary
  obtain ⟨other, hother, hmarch⟩ := hgap item hitem (12 * 2026 + 2) (by omega) (by decide +kernel)
  have hmem := List.mem_map_of_mem (f := itemMonth) hother
  rw [marchMissing_months, hmarch] at hmem
  exact absurd hmem (by decide)

end Series

end CloudOps.Cost
