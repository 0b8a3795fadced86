import CloudOps.Cost.Forecast

namespace CloudOps.Cost

open CloudOps.LeastSquares

section Buckets

variable {K : Type*}

theorem lookup_append_to (byWeekday : List (Option Int × List K)) (dow key : Option Int) (amount : K) :
    (byWeekday.map fun bucket => if bucket.1 = dow then (bucket.1, bucket.2 ++ [amount]) else bucket).lookup key =
      if key = dow then (byWeekday.lookup key).map (· ++ [amount]) else byWeekday.lookup key := by
  induction byWeekday with
  | nil => simp
  | cons bucket rest ih =>
      obtain ⟨weekday, amounts⟩ := bucket
      by_cases hbucket : weekday = dow
      · subst hbucket
        by_cases hkey : key = weekday
        · subst hkey
          simp
        · rw [if_neg hkey] at ih
          simp [List.lookup_cons, beq_false_of_ne hkey, hkey, ih]
      · by_cases hkey : key = weekday
        · subst hkey
          simp [hbucket]
        · simp [List.lookup_cons, beq_false_of_ne hkey, hbucket, ih]

-- A bucket has what was pushed to its weekday.
theorem lookup_pushAmount (byWeekday : List (Option Int × List K)) (dow key : Option Int) (amount : K) :
    (pushAmount byWeekday dow amount).lookup key =
      if key = dow then some ((byWeekday.lookup key).getD [] ++ [amount]) else byWeekday.lookup key := by
  unfold pushAmount
  cases hbucket : byWeekday.lookup dow with
  | some amounts =>
      simp only [Option.isSome_some, if_true, lookup_append_to]
      by_cases hkey : key = dow
      · subst hkey
        simp [hbucket]
      · simp only [if_neg hkey]
  | none =>
      simp only [Option.isSome_none, Bool.false_eq_true, if_false, List.lookup_append]
      by_cases hkey : key = dow
      · subst hkey
        simp [hbucket]
      · simp [List.lookup_cons, beq_false_of_ne hkey, hkey]

-- The amounts of the days with some key, in order.
def bucketOf (days : List (Option Int × K)) (key : Option Int) : List K :=
  (days.filter fun day => day.1 = key).map Prod.snd

theorem lookup_foldl_pushAmount (days : List (Option Int × K)) (byWeekday : List (Option Int × List K))
    (key : Option Int) :
    (days.foldl (fun byWeekday day => pushAmount byWeekday day.1 day.2) byWeekday).lookup key =
      if bucketOf days key = [] then byWeekday.lookup key
      else some ((byWeekday.lookup key).getD [] ++ bucketOf days key) := by
  induction days generalizing byWeekday with
  | nil => rfl
  | cons day rest ih =>
      rw [List.foldl_cons, ih, lookup_pushAmount]
      by_cases hkey : key = day.1
      · have hbucket : bucketOf (day :: rest) key = day.2 :: bucketOf rest key := by
          simp [bucketOf, hkey]
        rw [if_pos hkey, hbucket, if_neg (List.cons_ne_nil _ _)]
        by_cases hrest : bucketOf rest key = []
        · rw [if_pos hrest, hrest]
        · rw [if_neg hrest, Option.getD_some, List.append_assoc, List.singleton_append]
      · have hbucket : bucketOf (day :: rest) key = bucketOf rest key := by
          simp [bucketOf, Ne.symm hkey]
        rw [if_neg hkey, hbucket]

variable [Field K]

theorem lookup_mean (byWeekday : List (Option Int × List K)) (key : Option Int) :
    (byWeekday.map fun bucket => (bucket.1, mean bucket.2)).lookup key = (byWeekday.lookup key).map mean := by
  induction byWeekday with
  | nil => rfl
  | cons bucket rest ih =>
      rw [List.map_cons, List.lookup_cons, List.lookup_cons, ih]
      cases key == bucket.1 <;> rfl

-- What a remaining day on a weekday is taken to cost: the average of the elapsed days on
-- that weekday, or of all of them.
def MonthEndForecastInput.usualSpend (input : MonthEndForecastInput K) (dow : Int) : K :=
  if input.elapsedDailySpend.length < MIN_DAYS_FOR_WEEKDAY_WEIGHTING ∨ bucketOf input.elapsed (some dow) = [] then
    mean input.elapsedDailySpend
  else mean (bucketOf input.elapsed (some dow))

-- What the remaining days are taken to cost together.
def MonthEndForecastInput.usualRemaining (input : MonthEndForecastInput K) : K :=
  (input.remainingDayOfWeek.map input.usualSpend).sum

def MonthEndForecastInput.daysOfMonth (input : MonthEndForecastInput K) : Nat :=
  input.elapsedDailySpend.length + input.remainingDayOfWeek.length

variable [LinearOrder K] (sqrt : K → K)

theorem forecastMonthEnd_eq (input : MonthEndForecastInput K) (hne : input.elapsedDailySpend ≠ []) :
    ∃ method, forecastMonthEnd sqrt input =
      let mtdSpend := input.elapsedDailySpend.sum
      let projectedFullMonth := mtdSpend + input.usualRemaining
      let bandWidth := stddev sqrt input.elapsedDailySpend (mean input.elapsedDailySpend) *
        sqrt input.remainingDayOfWeek.length
      some {
        mtdSpend := mtdSpend
        projectedFullMonth := projectedFullMonth
        low := max mtdSpend (projectedFullMonth - bandWidth)
        high := projectedFullMonth + bandWidth
        method := method } := by
  have hlength : ¬input.elapsedDailySpend.length = 0 := mt List.length_eq_zero_iff.mp hne
  unfold forecastMonthEnd
  rw [if_neg hlength]
  by_cases hlinear : input.elapsedDailySpend.length < MIN_DAYS_FOR_WEEKDAY_WEIGHTING
  · have hremaining : input.usualRemaining =
        mean input.elapsedDailySpend * input.remainingDayOfWeek.length := by
      have husual : ∀ dow, input.usualSpend dow = mean input.elapsedDailySpend := fun dow => if_pos (.inl hlinear)
      rw [MonthEndForecastInput.usualRemaining, funext husual, sum_map_const, mul_comm]
    simp only [hlinear, if_true, hremaining]
    exact ⟨_, rfl⟩
  · have husual : ∀ dow, (((input.elapsed.foldl (fun byWeekday day => pushAmount byWeekday day.1 day.2) []).map
        fun bucket => (bucket.1, mean bucket.2)).lookup (some dow)).getD (mean input.elapsedDailySpend) =
          input.usualSpend dow := by
      intro dow
      rw [lookup_mean, lookup_foldl_pushAmount, MonthEndForecastInput.usualSpend]
      by_cases hbucket : bucketOf input.elapsed (some dow) = []
      · rw [if_pos hbucket, if_pos (.inr hbucket)]
        rfl
      · rw [if_neg hbucket, if_neg (not_or.mpr ⟨hlinear, hbucket⟩)]
        rfl
    simp only [hlinear, if_false, husual]
    exact ⟨_, rfl⟩

end Buckets

section Band

variable {input : MonthEndForecastInput ℝ} {result : MonthEndForecastResult ℝ}

-- The band around the projection, and the month of which every elapsed day cost the same.
structure MonthEndForecastResult.IsBand (result : MonthEndForecastResult ℝ) (input : MonthEndForecastInput ℝ) :
    Prop where
  spent : result.mtdSpend ≤ result.low
  low : result.low ≤ result.projectedFullMonth
  high : result.projectedFullMonth ≤ result.high
  flat : ∀ a, (∀ amount ∈ input.elapsedDailySpend, amount = a) →
    result.low = a * input.daysOfMonth ∧ result.projectedFullMonth = a * input.daysOfMonth ∧
      result.high = a * input.daysOfMonth

-- The width of the band is not negative.
structure Projects (input : MonthEndForecastInput ℝ) (result : MonthEndForecastResult ℝ) (width : ℝ) : Prop where
  wide : 0 ≤ width
  spent : result.mtdSpend = input.elapsedDailySpend.sum
  projected : result.projectedFullMonth = result.mtdSpend + input.usualRemaining
  low : result.low = max result.mtdSpend (result.projectedFullMonth - width)
  high : result.high = result.projectedFullMonth + width
  flat : ∀ a, (∀ amount ∈ input.elapsedDailySpend, amount = a) → width = 0

theorem stddev_nonneg (values : List ℝ) (m : ℝ) : 0 ≤ stddev Real.sqrt values m := Real.sqrt_nonneg _

theorem stddev_of_constant {values : List ℝ} {c : ℝ} (hconstant : ∀ value ∈ values, value = c) :
    stddev Real.sqrt values c = 0 := by
  have hsum : (values.map fun v => (v - c) ^ 2).sum = 0 := by
    apply List.sum_eq_zero
    intro square hmem
    obtain ⟨value, hvalue, rfl⟩ := List.mem_map.mp hmem
    rw [hconstant value hvalue, sub_self, sq, mul_zero]
  rw [stddev, hsum, zero_div, Real.sqrt_zero]

theorem forecastMonthEnd_projects (h : forecastMonthEnd Real.sqrt input = some result) :
    input.elapsedDailySpend ≠ [] ∧ ∃ width, Projects input result width := by
  have hne : input.elapsedDailySpend ≠ [] := by
    intro hnil
    rw [forecastMonthEnd, if_pos (List.length_eq_zero_iff.mpr hnil)] at h
    cases h
  obtain ⟨method, hresult⟩ := forecastMonthEnd_eq Real.sqrt input hne
  rw [h] at hresult
  obtain rfl := Option.some_inj.mp hresult
  refine ⟨hne, _, mul_nonneg (stddev_nonneg _ _) (Real.sqrt_nonneg _), rfl, rfl, rfl, rfl, ?_⟩
  intro a hconstant
  rw [mean_of_constant hne hconstant, stddev_of_constant hconstant, zero_mul]

theorem Projects.low_le_iff {width : ℝ} (h : Projects input result width) :
    result.low ≤ result.projectedFullMonth ↔ 0 ≤ input.usualRemaining := by
  have hwide := h.wide
  have hprojected := h.projected
  rw [h.low, max_le_iff]
  constructor
  · intro hle
    linarith [hle.1]
  · intro hremaining
    constructor <;> linarith

theorem usualSpend_of_constant (input : MonthEndForecastInput ℝ) (hne : input.elapsedDailySpend ≠ []) {a : ℝ}
    (hconstant : ∀ amount ∈ input.elapsedDailySpend, amount = a) (dow : Int) : input.usualSpend dow = a := by
  unfold MonthEndForecastInput.usualSpend
  split
  · exact mean_of_constant hne hconstant
  · rename_i hbucket
    apply mean_of_constant (not_or.mp hbucket).2
    intro amount hmem
    obtain ⟨day, hday, rfl⟩ := List.mem_map.mp hmem
    obtain ⟨indexed, hindexed, rfl⟩ := List.mem_map.mp (List.mem_of_mem_filter hday)
    exact hconstant _ (List.fst_mem_of_mem_zipIdx hindexed)

theorem Projects.isBand {width : ℝ} (h : Projects input result width) (hne : input.elapsedDailySpend ≠ [])
    (hremaining : 0 ≤ input.usualRemaining) : result.IsBand input where
  spent := by
    rw [h.low]
    exact le_max_left _ _
  low := h.low_le_iff.mpr hremaining
  high := by
    rw [h.high]
    exact le_add_of_nonneg_right h.wide
  flat := by
    intro a hconstant
    have hspent : result.mtdSpend = a * input.elapsedDailySpend.length := by
      rw [h.spent, ← length_mul_mean, mean_of_constant hne hconstant, mul_comm]
    have husual : input.usualRemaining = a * input.remainingDayOfWeek.length := by
      rw [MonthEndForecastInput.usualRemaining, funext (usualSpend_of_constant input hne hconstant),
        sum_map_const, mul_comm]
    have hprojected : result.projectedFullMonth = a * input.daysOfMonth := by
      rw [h.projected, hspent, husual, MonthEndForecastInput.daysOfMonth, Nat.cast_add, mul_add]
    have hle : result.mtdSpend ≤ result.projectedFullMonth := by
      rw [h.projected]
      exact le_add_of_nonneg_right hremaining
    have hwidth := h.flat a hconstant
    refine ⟨?_, hprojected, ?_⟩
    · rw [h.low, hwidth, sub_zero, max_eq_right hle]
      exact hprojected
    · rw [h.high, hwidth, add_zero]
      exact hprojected

theorem isBand_iff_usualRemaining (input : MonthEndForecastInput ℝ) :
    (∀ result, forecastMonthEnd Real.sqrt input = some result → result.IsBand input) ↔ 0 ≤ input.usualRemaining := by
  constructor
  · intro hband
    by_cases hne : input.elapsedDailySpend = []
    · have husual : ∀ dow, input.usualSpend dow = 0 := by
        intro dow
        unfold MonthEndForecastInput.usualSpend
        rw [if_pos (.inl (by rw [hne]; decide)), hne]
        simp [mean]
      rw [MonthEndForecastInput.usualRemaining, funext husual, sum_map_const, mul_zero]
    · obtain ⟨method, hresult⟩ := forecastMonthEnd_eq Real.sqrt input hne
      obtain ⟨-, width, hprojects⟩ := forecastMonthEnd_projects hresult
      exact hprojects.low_le_iff.mp (hband _ hresult).low
  · intro hremaining result hresult
    obtain ⟨hne, width, hprojects⟩ := forecastMonthEnd_projects hresult
    exact hprojects.isBand hne hremaining

-- The elapsed days are no net credit, together and, from a week on, those of each weekday.
structure MonthEndForecastInput.NoNetCredit (input : MonthEndForecastInput ℝ) : Prop where
  elapsed : 0 ≤ input.elapsedDailySpend.sum
  weekday : MIN_DAYS_FOR_WEEKDAY_WEIGHTING ≤ input.elapsedDailySpend.length →
    ∀ dow, 0 ≤ (bucketOf input.elapsed (some dow)).sum

-- Some weekday's number is that of no elapsed day.
theorem exists_bucketOf_eq_nil (input : MonthEndForecastInput ℝ) : ∃ dow, bucketOf input.elapsed (some dow) = [] := by
  obtain ⟨dow, hdow⟩ := Infinite.exists_notMem_finset input.elapsedDayOfWeek.toFinset
  refine ⟨dow, List.map_eq_nil_iff.mpr (List.filter_eq_nil_iff.mpr ?_)⟩
  intro day hday hkey
  obtain ⟨indexed, -, rfl⟩ := List.mem_map.mp hday
  exact hdow (List.mem_toFinset.mpr (List.mem_of_getElem? (of_decide_eq_true hkey)))

theorem usualSpend_nonneg_iff (input : MonthEndForecastInput ℝ) :
    (∀ dow, 0 ≤ input.usualSpend dow) ↔ input.NoNetCredit := by
  unfold MonthEndForecastInput.usualSpend
  constructor
  · intro husual
    constructor
    · obtain ⟨dow, hnone⟩ := exists_bucketOf_eq_nil input
      have hall := husual dow
      rw [if_pos (.inr hnone)] at hall
      exact (mean_nonneg_iff _).mp hall
    · intro hweek dow
      have hdow := husual dow
      by_cases hnone : bucketOf input.elapsed (some dow) = []
      · rw [hnone, List.sum_nil]
      · rw [if_neg (not_or.mpr ⟨not_lt.mpr hweek, hnone⟩)] at hdow
        exact (mean_nonneg_iff _).mp hdow
  · intro hcredit dow
    split
    · exact (mean_nonneg_iff _).mpr hcredit.elapsed
    · rename_i hweek
      exact (mean_nonneg_iff _).mpr (hcredit.weekday (not_lt.mp (not_or.mp hweek).1) dow)

-- Whatever days remain, the band is one just when the elapsed days are no net credit.
theorem month_end_band_iff (input : MonthEndForecastInput ℝ) :
    (∀ (remainingDayOfWeek : List Int) (result : MonthEndForecastResult ℝ),
      forecastMonthEnd Real.sqrt { input with remainingDayOfWeek } = some result →
      result.IsBand { input with remainingDayOfWeek }) ↔ input.NoNetCredit := by
  rw [← usualSpend_nonneg_iff]
  constructor
  · intro hband dow
    have hremaining := (isBand_iff_usualRemaining { input with remainingDayOfWeek := [dow] }).mp (hband [dow])
    rwa [MonthEndForecastInput.usualRemaining, List.map_singleton, List.sum_singleton] at hremaining
  · intro husual remainingDayOfWeek
    refine (isBand_iff_usualRemaining _).mpr (List.sum_nonneg ?_)
    intro spend hspend
    obtain ⟨dow, -, rfl⟩ := List.mem_map.mp hspend
    exact husual dow

-- A credit of 1 on the first day, and a day to come: from -1 up to -2.
theorem credit_inverts_band :
    ¬ ∀ (input : MonthEndForecastInput ℝ) (result : MonthEndForecastResult ℝ),
      forecastMonthEnd Real.sqrt input = some result → result.IsBand input := by
  intro hclaim
  obtain ⟨method, hresult⟩ := forecastMonthEnd_eq Real.sqrt ⟨[-1], [0], [1]⟩ (List.cons_ne_nil (-1) [])
  obtain ⟨-, width, hprojects⟩ := forecastMonthEnd_projects hresult
  have hremaining := hprojects.low_le_iff.mp (hclaim _ _ hresult).low
  have hspend : ∀ amount ∈ ([-1] : List ℝ), amount = -1 := fun amount hmem => List.mem_singleton.mp hmem
  have husual := funext (usualSpend_of_constant ⟨[-1], [0], [1]⟩ (List.cons_ne_nil (-1) []) hspend)
  rw [MonthEndForecastInput.usualRemaining, husual, sum_map_const] at hremaining
  norm_num at hremaining

end Band

end CloudOps.Cost
