import CloudOps.LeastSquares
import Mathlib.Analysis.Real.Sqrt
import Mathlib.Data.Rat.Floor
import Mathlib.Tactic.NormNum

namespace CloudOps.Cost

open CloudOps.LeastSquares

def MIN_DAYS_FOR_WEEKDAY_WEIGHTING : Nat := 7

def MIN_MONTHS_FOR_TREND : Nat := 3

-- The spend of the elapsed days, their weekdays, and those of the remaining days.
structure MonthEndForecastInput (K : Type*) where
  elapsedDailySpend : List K
  elapsedDayOfWeek : List Int
  remainingDayOfWeek : List Int

inductive MonthEndForecastMethod where
  | weekdayWeighted
  | linear
  deriving DecidableEq

structure MonthEndForecastResult (K : Type*) where
  mtdSpend : K
  projectedFullMonth : K
  low : K
  high : K
  method : MonthEndForecastMethod

structure MultiMonthForecastPoint (K : Type*) where
  monthsAhead : Nat
  projected : K
  low : K
  high : K

structure MultiMonthForecastResult (K : Type*) where
  points : List (MultiMonthForecastPoint K)
  slopePerMonth : K
  residualStddev : K

section Definitions

variable {K : Type*}

-- bucket.push(amount), of the weekday's bucket in the Map.
def pushAmount (byWeekday : List (Option Int × List K)) (dow : Option Int) (amount : K) :
    List (Option Int × List K) :=
  if (byWeekday.lookup dow).isSome then
    byWeekday.map fun bucket => if bucket.1 = dow then (bucket.1, bucket.2 ++ [amount]) else bucket
  else byWeekday ++ [(dow, [amount])]

-- Each elapsed day's spend under its weekday, which is undefined past the end of the list.
def MonthEndForecastInput.elapsed (input : MonthEndForecastInput K) : List (Option Int × K) :=
  input.elapsedDailySpend.zipIdx.map fun day => (input.elapsedDayOfWeek[day.2]?, day.1)

variable [Field K] [LinearOrder K] (sqrt : K → K)

def stddev (values : List K) (m : K) : K := sqrt ((values.map fun v => (v - m) ^ 2).sum / values.length)

def forecastMonthEnd (input : MonthEndForecastInput K) : Option (MonthEndForecastResult K) :=
  if input.elapsedDailySpend.length = 0 then none
  else
    let mtdSpend := input.elapsedDailySpend.sum
    let overallAvg := mean input.elapsedDailySpend
    let daySpread := stddev sqrt input.elapsedDailySpend overallAvg
    let linear := input.elapsedDailySpend.length < MIN_DAYS_FOR_WEEKDAY_WEIGHTING
    let projectedRemaining :=
      if linear then overallAvg * input.remainingDayOfWeek.length
      else
        let byWeekday := input.elapsed.foldl (fun byWeekday day => pushAmount byWeekday day.1 day.2) []
        let weekdayAvg := byWeekday.map fun bucket => (bucket.1, mean bucket.2)
        (input.remainingDayOfWeek.map fun dow => (weekdayAvg.lookup (some dow)).getD overallAvg).sum
    let projectedFullMonth := mtdSpend + projectedRemaining
    let bandWidth := daySpread * sqrt input.remainingDayOfWeek.length
    some {
      mtdSpend := mtdSpend
      projectedFullMonth := projectedFullMonth
      low := max mtdSpend (projectedFullMonth - bandWidth)
      high := projectedFullMonth + bandWidth
      method := if linear then .linear else .weekdayWeighted }

def forecastPoint (n : Nat) (intercept slopePerMonth residualStddev : K) (h : Nat) : MultiMonthForecastPoint K :=
  let x : K := n - 1 + h
  let projected := max 0 (intercept + slopePerMonth * x)
  { monthsAhead := h
    projected := projected
    low := max 0 (projected - residualStddev)
    high := projected + residualStddev }

def forecastMultiMonth (monthlyTotals : List K) (horizonMonths : ℚ) : Option (MultiMonthForecastResult K) :=
  let n := monthlyTotals.length
  if n < MIN_MONTHS_FOR_TREND ∨ horizonMonths < 1 then none
  else
    let xs : List K := (List.range n).map Nat.cast
    let xMean := mean xs
    let yMean := mean monthlyTotals
    let numerator := ((xs.zip monthlyTotals).map fun month => (month.1 - xMean) * (month.2 - yMean)).sum
    let denominator := (xs.map fun x => (x - xMean) ^ 2).sum
    let slopePerMonth := if 0 < denominator then numerator / denominator else 0
    let intercept := yMean - slopePerMonth * xMean
    let residuals := (xs.zip monthlyTotals).map fun month => month.2 - (intercept + slopePerMonth * month.1)
    let residualStddev := stddev sqrt residuals 0
    some {
      points := (List.range ⌊horizonMonths⌋₊).map fun i =>
        forecastPoint n intercept slopePerMonth residualStddev (i + 1)
      slopePerMonth := slopePerMonth
      residualStddev := residualStddev }

end Definitions

section Trend

variable {K : Type*} [Field K]

-- The totals at their places in the series.
def monthPoints (monthlyTotals : List K) : List (K × K) :=
  ((List.range monthlyTotals.length).map Nat.cast).zip monthlyTotals

def trendLine (monthlyTotals : List K) : Line K := fit (monthPoints monthlyTotals)

theorem map_fst_monthPoints (monthlyTotals : List K) :
    (monthPoints monthlyTotals).map Prod.fst = (List.range monthlyTotals.length).map Nat.cast :=
  List.map_fst_zip (by simp)

theorem map_snd_monthPoints (monthlyTotals : List K) : (monthPoints monthlyTotals).map Prod.snd = monthlyTotals :=
  List.map_snd_zip (by simp)

theorem mem_monthPoints {monthlyTotals : List K} {i : Nat} (hi : i < monthlyTotals.length) :
    ((i : K), monthlyTotals[i]) ∈ monthPoints monthlyTotals := by
  rw [List.mem_iff_getElem]
  exact ⟨i, by simpa [monthPoints] using hi, by simp [monthPoints]⟩

theorem length_monthPoints (monthlyTotals : List K) : (monthPoints monthlyTotals).length = monthlyTotals.length := by
  simp [monthPoints]

theorem covariance_monthPoints (monthlyTotals : List K) :
    covariance (monthPoints monthlyTotals) = ((monthPoints monthlyTotals).map fun month =>
      (month.1 - mean ((List.range monthlyTotals.length).map Nat.cast)) * (month.2 - mean monthlyTotals)).sum := by
  rw [covariance, map_fst_monthPoints, map_snd_monthPoints]

theorem variance_monthPoints (monthlyTotals : List K) :
    variance (monthPoints monthlyTotals) = (((List.range monthlyTotals.length).map Nat.cast).map fun x : K =>
      (x - mean ((List.range monthlyTotals.length).map Nat.cast)) ^ 2).sum := by
  rw [variance, ← map_fst_monthPoints, List.map_map]
  rfl

variable [LinearOrder K] (sqrt : K → K)

theorem forecastMultiMonth_enough {monthlyTotals : List K} {horizonMonths : ℚ} {result : MultiMonthForecastResult K}
    (h : forecastMultiMonth sqrt monthlyTotals horizonMonths = some result) :
    MIN_MONTHS_FOR_TREND ≤ monthlyTotals.length ∧ 1 ≤ horizonMonths := by
  by_contra hnot
  have hfew : monthlyTotals.length < MIN_MONTHS_FOR_TREND ∨ horizonMonths < 1 := by
    rcases not_and_or.mp hnot with hmonths | hhorizon
    · exact .inl (Nat.not_le.mp hmonths)
    · exact .inr (not_le.mp hhorizon)
  rw [forecastMultiMonth, if_pos hfew] at h
  cases h

theorem forecastPoint_degenerate (n : Nat) (intercept slope : K) (h : Nat) :
    (forecastPoint n intercept slope 0 h).low = (forecastPoint n intercept slope 0 h).projected ∧
      (forecastPoint n intercept slope 0 h).high = (forecastPoint n intercept slope 0 h).projected := by
  simp [forecastPoint]

variable [IsStrictOrderedRing K]

-- A slope over no variance is zero either way.
theorem slope_eq (points : List (K × K)) :
    (if 0 < variance points then covariance points / variance points else 0) = (fit points).slope := by
  by_cases hvar : 0 < variance points
  · rw [if_pos hvar]
    rfl
  · have hzero : variance points = 0 := le_antisymm (not_lt.mp hvar) (variance_nonneg points)
    rw [if_neg hvar, fit, hzero, div_zero]

theorem forecastMultiMonth_eq (monthlyTotals : List K) {horizonMonths : ℚ}
    (hmonths : MIN_MONTHS_FOR_TREND ≤ monthlyTotals.length) (hhorizon : 1 ≤ horizonMonths) :
    forecastMultiMonth sqrt monthlyTotals horizonMonths =
      let line := trendLine monthlyTotals
      let residualStddev := sqrt (line.squaredError (monthPoints monthlyTotals) / monthlyTotals.length)
      some {
        points := (List.range ⌊horizonMonths⌋₊).map fun i =>
          forecastPoint monthlyTotals.length line.intercept line.slope residualStddev (i + 1)
        slopePerMonth := line.slope
        residualStddev := residualStddev } := by
  have hnot : ¬(monthlyTotals.length < MIN_MONTHS_FOR_TREND ∨ horizonMonths < 1) :=
    not_or.mpr ⟨Nat.not_lt.mpr hmonths, not_lt.mpr hhorizon⟩
  have hslope := slope_eq (monthPoints monthlyTotals)
  have hintercept : mean monthlyTotals - (trendLine monthlyTotals).slope *
      mean ((List.range monthlyTotals.length).map Nat.cast) = (trendLine monthlyTotals).intercept := by
    rw [← map_fst_monthPoints]
    nth_rewrite 1 [← map_snd_monthPoints monthlyTotals]
    rfl
  have hstddev : ∀ line : Line K, stddev sqrt ((monthPoints monthlyTotals).map fun month =>
      month.2 - (line.intercept + line.slope * month.1)) 0 =
        sqrt (line.squaredError (monthPoints monthlyTotals) / monthlyTotals.length) := by
    intro line
    simp only [stddev, List.map_map, List.length_map, length_monthPoints, Function.comp_def, sub_zero]
    rfl
  rw [covariance_monthPoints, variance_monthPoints] at hslope
  have hfit : fit (monthPoints monthlyTotals) = trendLine monthlyTotals := rfl
  rw [hfit] at hslope
  unfold monthPoints at hslope hstddev
  unfold forecastMultiMonth
  rw [if_neg hnot]
  simp only [hslope, hintercept, hstddev]
  rfl

theorem forecastPoint_band (n : Nat) (intercept slope : K) {residualStddev : K} (hstddev : 0 ≤ residualStddev)
    (h : Nat) :
    0 ≤ (forecastPoint n intercept slope residualStddev h).low ∧
      (forecastPoint n intercept slope residualStddev h).low ≤
        (forecastPoint n intercept slope residualStddev h).projected ∧
      (forecastPoint n intercept slope residualStddev h).projected ≤
        (forecastPoint n intercept slope residualStddev h).high := by
  refine ⟨le_max_left _ _, ?_, le_add_of_nonneg_right hstddev⟩
  exact max_le (le_max_left _ _) (sub_le_self _ hstddev)

-- A series on a line has that line for its trend, and no residuals.
theorem trendLine_of_exact {monthlyTotals : List K} {line : Line K}
    (hmonths : MIN_MONTHS_FOR_TREND ≤ monthlyTotals.length)
    (hexact : ∀ point ∈ monthPoints monthlyTotals, point.2 = line.value point.1) :
    trendLine monthlyTotals = line ∧ line.squaredError (monthPoints monthlyTotals) = 0 := by
  have hfirst : 0 < monthlyTotals.length := Nat.lt_of_lt_of_le (by decide) hmonths
  have hsecond : 1 < monthlyTotals.length := Nat.lt_of_lt_of_le (by decide) hmonths
  constructor
  · apply fit_of_exact hexact (mem_monthPoints hfirst) (mem_monthPoints hsecond)
    simp
  · apply List.sum_eq_zero
    intro square hmem
    obtain ⟨point, hpoint, rfl⟩ := List.mem_map.mp hmem
    rw [Line.residual, hexact point hpoint, sub_self, sq, mul_zero]

end Trend

section Root

-- The points of a forecast are those of the least-squares line of the series, within a
-- residual standard deviation.
theorem multi_month_is_least_squares {monthlyTotals : List ℝ} {horizonMonths : ℚ}
    {result : MultiMonthForecastResult ℝ}
    (h : forecastMultiMonth Real.sqrt monthlyTotals horizonMonths = some result) :
    3 ≤ monthlyTotals.length ∧ result.points.map (·.monthsAhead) = (List.range ⌊horizonMonths⌋₊).map (· + 1) ∧
    (∃ line : Line ℝ, line.Fits (monthPoints monthlyTotals) ∧ line.slope = result.slopePerMonth ∧
      0 ≤ result.residualStddev ∧
      result.residualStddev ^ 2 = line.squaredError (monthPoints monthlyTotals) / monthlyTotals.length ∧
      ∀ point ∈ result.points,
        point.projected = max 0 (line.value (monthlyTotals.length - 1 + point.monthsAhead)) ∧
        0 ≤ point.low ∧ point.low ≤ point.projected ∧ point.projected ≤ point.high) ∧
    ∀ exact : Line ℝ, (∀ point ∈ monthPoints monthlyTotals, point.2 = exact.value point.1) →
      result.residualStddev = 0 ∧ ∀ point ∈ result.points,
        point.low = point.projected ∧ point.high = point.projected ∧
        point.projected = max 0 (exact.value (monthlyTotals.length - 1 + point.monthsAhead)) := by
  obtain ⟨hmonths, hhorizon⟩ := forecastMultiMonth_enough Real.sqrt h
  rw [forecastMultiMonth_eq Real.sqrt monthlyTotals hmonths hhorizon] at h
  obtain rfl := Option.some_inj.mp h
  have herror : 0 ≤ (trendLine monthlyTotals).squaredError (monthPoints monthlyTotals) / monthlyTotals.length :=
    div_nonneg (sum_sq_nonneg _ _) (Nat.cast_nonneg _)
  refine ⟨hmonths, ?_, ?_, ?_⟩
  · rw [List.map_map]
    rfl
  · refine ⟨trendLine monthlyTotals, fit_fits _, rfl, Real.sqrt_nonneg _, Real.sq_sqrt herror, ?_⟩
    intro point hmem
    obtain ⟨i, _, rfl⟩ := List.mem_map.mp hmem
    exact ⟨rfl, forecastPoint_band _ _ _ (Real.sqrt_nonneg _) _⟩
  · intro exact hexact
    obtain ⟨htrend, hzero⟩ := trendLine_of_exact hmonths hexact
    have hstddev :
        √((trendLine monthlyTotals).squaredError (monthPoints monthlyTotals) / monthlyTotals.length) = 0 := by
      rw [htrend, hzero, zero_div, Real.sqrt_zero]
    refine ⟨hstddev, ?_⟩
    intro point hmem
    obtain ⟨i, _, rfl⟩ := List.mem_map.mp hmem
    have hdegenerate := forecastPoint_degenerate monthlyTotals.length (trendLine monthlyTotals).intercept
      (trendLine monthlyTotals).slope (i + 1)
    rw [hstddev]
    refine ⟨hdegenerate.1, hdegenerate.2, ?_⟩
    rw [htrend]
    rfl

theorem multi_month_of_three : ∃ result, forecastMultiMonth Real.sqrt [1, 2, 4] 2 = some result ∧
    ∃ line : Line ℝ, line.Fits (monthPoints [1, 2, 4]) ∧ line.slope = result.slopePerMonth := by
  have hsome : forecastMultiMonth Real.sqrt [1, 2, 4] 2 = _ :=
    forecastMultiMonth_eq Real.sqrt [1, 2, 4] (Nat.le_refl 3) (by norm_num)
  obtain ⟨line, hfits, hslope, -⟩ := (multi_month_is_least_squares hsome).2.2.1
  exact ⟨_, hsome, line, hfits, hslope⟩

end Root

end CloudOps.Cost
