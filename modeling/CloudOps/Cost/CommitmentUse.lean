import CloudOps.Cost.CommitmentCoverage
import CloudOps.Cost.CommitmentSweep
import CloudOps.OrderStatistics

namespace CloudOps.Cost

open CloudOps.CappedSums CloudOps.OrderStatistics
open CloudOps.ReadCommitted (Table)
open CloudOps.Ticketing (Uuid)

variable {dailySpend : List ℚ} {commitment : ℚ}

theorem usedTotal_eq (dailySpend : List ℚ) (commitment : ℚ) :
    (computeUtilization dailySpend commitment).usedTotal = cappedSum dailySpend commitment := rfl

theorem pct_bounds {part whole : ℚ} (hpart : 0 ≤ part) (hle : part ≤ whole) :
    0 ≤ (if 0 < whole then part / whole * 100 else 0) ∧ (if 0 < whole then part / whole * 100 else 0) ≤ 100 := by
  by_cases hwhole : 0 < whole
  · have hpos := div_nonneg hpart hwhole.le
    have hone := (div_le_one hwhole).mpr hle
    rw [if_pos hwhole]
    constructor <;> linarith
  · rw [if_neg hwhole]
    norm_num

-- What is used of the commitment and what is wasted make up all of it.
theorem usedTotal_add_wastedAmount (dailySpend : List ℚ) (commitment : ℚ) :
    (computeUtilization dailySpend commitment).usedTotal + (computeUtilization dailySpend commitment).wastedAmount =
      (computeUtilization dailySpend commitment).committedTotal := by
  have hle := cappedSum_le_length_mul dailySpend commitment
  have hwasted : (computeUtilization dailySpend commitment).wastedAmount =
      commitment * dailySpend.length - cappedSum dailySpend commitment := max_eq_right (sub_nonneg.mpr hle)
  rw [hwasted, usedTotal_eq]
  exact add_sub_cancel _ _

structure InRange (dailySpend : List ℚ) (commitment : ℚ) : Prop where
  coverage : 0 ≤ (computeCoverage dailySpend commitment).coveragePct ∧
    (computeCoverage dailySpend commitment).coveragePct ≤ 100
  utilization : 0 ≤ (computeUtilization dailySpend commitment).utilizationPct ∧
    (computeUtilization dailySpend commitment).utilizationPct ≤ 100
  split : (computeUtilization dailySpend commitment).usedTotal +
    (computeUtilization dailySpend commitment).wastedAmount =
      (computeUtilization dailySpend commitment).committedTotal
  used : 0 ≤ (computeUtilization dailySpend commitment).usedTotal
  wasted : 0 ≤ (computeUtilization dailySpend commitment).wastedAmount

theorem InRange.of_used (hused : 0 ≤ cappedSum dailySpend commitment) : InRange dailySpend commitment where
  coverage := pct_bounds hused (cappedSum_le_sum dailySpend commitment)
  utilization := pct_bounds hused (cappedSum_le_length_mul dailySpend commitment)
  split := usedTotal_add_wastedAmount dailySpend commitment
  used := hused
  wasted := le_max_left 0 _

-- Everything is in range for every commitment just when no day is a net credit.
theorem inRange_iff (dailySpend : List ℚ) :
    (∀ commitment, 0 ≤ commitment → InRange dailySpend commitment) ↔ ∀ amount ∈ dailySpend, 0 ≤ amount := by
  constructor
  · intro hrange
    exact (cappedSum_zero_nonneg_iff dailySpend).mp (hrange 0 le_rfl).used
  · intro hspend commitment hcommitment
    exact InRange.of_used (cappedSum_nonneg hspend hcommitment)

-- A day of credits among ten of spend: -80 per cent covered.
theorem credit_leaves_range :
    ¬ ∀ (dailySpend : List ℚ) (commitment : ℚ), 0 ≤ commitment → InRange dailySpend commitment := by
  intro hclaim
  have hcoverage : (computeCoverage [-5, 10] 1).coveragePct < 0 := by decide +kernel
  exact absurd (hclaim [-5, 10] 1 (by norm_num)).coverage.1 (not_le.mpr hcoverage)

-- Without credits the percentages of every commitment are in range.
theorem getCoverage_inRange {commitments : Table Uuid Commitment} {costLineItems : Table LineItemKey CostLineItem}
    {today : Int} {id : Uuid} {result : CommitmentCoverage}
    (hcommitments : ∀ commitment ∈ commitments.lookup id, 0 ≤ commitment.hourlyCommitment)
    (hitems : ∀ item ∈ costLineItems.rows, 0 ≤ item.2.amount)
    (h : getCoverage commitments costLineItems today id = .ok result) :
    (∀ coverage ∈ result.coverage, 0 ≤ coverage.coveragePct ∧ coverage.coveragePct ≤ 100) ∧
      ∀ utilization ∈ result.utilization, 0 ≤ utilization.utilizationPct ∧ utilization.utilizationPct ≤ 100 := by
  unfold getCoverage at h
  cases hfound : commitments.lookup id with
  | none =>
      rw [hfound] at h
      cases h
  | some commitment =>
      simp only [hfound] at h
      split at h
      · cases h
        exact ⟨fun _ hmem => (Option.not_mem_none _ hmem).elim, fun _ hmem => (Option.not_mem_none _ hmem).elim⟩
      · cases h
        have hdaily : 0 ≤ commitment.hourlyCommitment * 24 :=
          mul_nonneg (hcommitments commitment hfound) (by norm_num)
        have hrange := InRange.of_used (cappedSum_nonneg
          (loadDailySpend_nonneg hitems commitment.cloudCredentialId commitment.service commitment.region
            commitment.startDate (min commitment.endDate today)) hdaily)
        constructor
        · rintro coverage hmem
          cases hmem
          exact hrange.coverage
        · rintro utilization hmem
          cases hmem
          exact hrange.utilization

theorem coveragePct_mono (dailySpend : List ℚ) {low high : ℚ} (hle : low ≤ high) :
    (computeCoverage dailySpend low).coveragePct ≤ (computeCoverage dailySpend high).coveragePct := by
  have hcovered := cappedSum_mono dailySpend hle
  have hpct : ∀ commitment, (computeCoverage dailySpend commitment).coveragePct =
      if 0 < dailySpend.sum then cappedSum dailySpend commitment / dailySpend.sum * 100 else 0 := fun _ => rfl
  rw [hpct, hpct]
  split
  · rename_i htotal
    exact mul_le_mul_of_nonneg_right (div_le_div_of_nonneg_right hcovered htotal.le) (by norm_num)
  · exact le_refl 0

theorem utilizationPct_of_pos (hcommitment : 0 < commitment) (hne : dailySpend ≠ []) :
    (computeUtilization dailySpend commitment).utilizationPct =
      cappedSum dailySpend commitment / (commitment * dailySpend.length) * 100 := by
  have hlength : (0 : ℚ) < dailySpend.length := Nat.cast_pos.mpr (List.length_pos_iff.mpr hne)
  exact if_pos (mul_pos hcommitment hlength)

theorem utilizationPct_anti (hspend : ∀ amount ∈ dailySpend, 0 ≤ amount) {low high : ℚ} (hlow : 0 < low)
    (hle : low ≤ high) :
    (computeUtilization dailySpend high).utilizationPct ≤ (computeUtilization dailySpend low).utilizationPct := by
  by_cases hne : dailySpend = []
  · subst hne
    have hnone : ∀ commitment, (computeUtilization [] commitment).utilizationPct = 0 := by
      intro commitment
      simp [computeUtilization]
    rw [hnone, hnone]
  · have hlength : (0 : ℚ) < dailySpend.length := Nat.cast_pos.mpr (List.length_pos_iff.mpr hne)
    have hhigh := hlow.trans_le hle
    have hconcave := mul_le_mul_of_nonneg_right (cappedSum_concave hspend hlow.le hle) hlength.le
    rw [utilizationPct_of_pos hhigh hne, utilizationPct_of_pos hlow hne]
    apply mul_le_mul_of_nonneg_right _ (by norm_num)
    rw [div_le_div_iff₀ (mul_pos hhigh hlength) (mul_pos hlow hlength)]
    linarith

theorem more_commitment_covers_more {low high : ℚ} (hspend : ∀ amount ∈ dailySpend, 0 ≤ amount) (hlow : 0 < low)
    (hle : low ≤ high) :
    (computeCoverage dailySpend low).coveragePct ≤ (computeCoverage dailySpend high).coveragePct ∧
      (computeUtilization dailySpend high).utilizationPct ≤ (computeUtilization dailySpend low).utilizationPct :=
  ⟨coveragePct_mono dailySpend hle, utilizationPct_anti hspend hlow hle⟩

theorem more_commitment_covers_more_of_two :
    (computeCoverage [4, 10] 2).coveragePct ≤ (computeCoverage [4, 10] 5).coveragePct ∧
      (computeUtilization [4, 10] 5).utilizationPct ≤ (computeUtilization [4, 10] 2).utilizationPct :=
  more_commitment_covers_more (by decide +kernel) (by norm_num) (by norm_num)

section Recommended

variable {sorted : List ℚ} {p : ℚ} {kind : CommitmentKind} {recommendation : CommitmentRecommendation}

-- The rank above the percentile.
def upperRank (n : Nat) (p : ℚ) : Nat := ⌈p * ((n : ℚ) - 1)⌉₊

theorem upperRank_lt {n : Nat} (hn : 0 < n) (hone : p ≤ 1) : upperRank n p < n := by
  have hlast : (0 : ℚ) ≤ (n : ℚ) - 1 := sub_nonneg.mpr (Nat.one_le_cast.mpr hn)
  have hindex : p * ((n : ℚ) - 1) ≤ ((n - 1 : Nat) : ℚ) := by
    rw [Nat.cast_sub hn, Nat.cast_one]
    exact mul_le_of_le_one_left hlast hone
  have hle := Nat.ceil_le.mpr hindex
  unfold upperRank
  omega

theorem percentile_bounds (hsorted : sorted.Pairwise (· ≤ ·)) (hn : 0 < sorted.length) (hpos : 0 ≤ p)
    (hone : p ≤ 1) :
    ∃ lower, ∃ hlower : lower < sorted.length, sorted[lower] ≤ percentile sorted p ∧
      percentile sorted p ≤ sorted.get ⟨upperRank sorted.length p, upperRank_lt hn hone⟩ := by
  have hupper := upperRank_lt hn hone
  have hlast : (0 : ℚ) ≤ (sorted.length : ℚ) - 1 := sub_nonneg.mpr (Nat.one_le_cast.mpr hn)
  have hindex := mul_nonneg hpos hlast
  have hle : ⌊p * ((sorted.length : ℚ) - 1)⌋₊ ≤ upperRank sorted.length p := Nat.floor_le_ceil _
  have hlower : ⌊p * ((sorted.length : ℚ) - 1)⌋₊ < sorted.length := Nat.lt_of_le_of_lt hle hupper
  have hweight := Nat.floor_le hindex
  have hweight' := Nat.lt_floor_add_one (p * ((sorted.length : ℚ) - 1))
  have hinterpolated : percentile sorted p = interpolate sorted[⌊p * ((sorted.length : ℚ) - 1)⌋₊]
      sorted[upperRank sorted.length p] (p * ((sorted.length : ℚ) - 1) - ⌊p * ((sorted.length : ℚ) - 1)⌋₊) := by
    rw [← List.getD_eq_getElem sorted 0 hlower, ← List.getD_eq_getElem sorted 0 hupper]
    rfl
  rw [hinterpolated]
  exact ⟨_, hlower, interpolate_bounds (getElem_mono hsorted hle hupper) (by linarith) (by linarith)⟩

theorem recommendCommitment_eq_some (h : recommendCommitment dailySpend kind = some recommendation) :
    MIN_DAYS ≤ dailySpend.length ∧ 0 < recommendation.recommendedDailyCommitment ∧
      recommendation.recommendedDailyCommitment = percentile dailySpend.mergeSort BASELINE_PERCENTILE := by
  unfold recommendCommitment at h
  by_cases hdays : dailySpend.length < MIN_DAYS
  · rw [if_pos hdays] at h
    cases h
  · rw [if_neg hdays] at h
    by_cases hfloor : percentile dailySpend.mergeSort BASELINE_PERCENTILE ≤ 0
    · simp only [hfloor, ite_true] at h
      cases h
    · simp only [hfloor, ite_false, Option.some.injEq] at h
      subst h
      exact ⟨Nat.not_lt.mp hdays, not_le.mp hfloor, rfl⟩

theorem recommendCommitment_perm {others : List ℚ} (hperm : dailySpend.Perm others) (kind : CommitmentKind) :
    recommendCommitment others kind = recommendCommitment dailySpend kind := by
  unfold recommendCommitment
  rw [hperm.length_eq, mergeSort_eq_of_perm hperm]

-- The days below the level are at most those ranked below the percentile.
theorem recommended_le_days (h : recommendCommitment dailySpend kind = some recommendation) :
    dailySpend.length - upperRank dailySpend.length BASELINE_PERCENTILE ≤
      dailySpend.countP fun amount => recommendation.recommendedDailyCommitment ≤ amount := by
  obtain ⟨hdays, -, hlevel⟩ := recommendCommitment_eq_some h
  have hperm := List.mergeSort_perm dailySpend (fun a b => decide (a ≤ b))
  have hn : 0 < dailySpend.mergeSort.length := by
    rw [hperm.length_eq]
    exact Nat.lt_of_lt_of_le (by decide) hdays
  obtain ⟨-, -, -, hupper⟩ := percentile_bounds (p := BASELINE_PERCENTILE) (mergeSort_sorted dailySpend) hn
    (by norm_num [BASELINE_PERCENTILE]) (by norm_num [BASELINE_PERCENTILE])
  rw [← hlevel] at hupper
  have hcount := sub_le_countP (mergeSort_sorted dailySpend) _ hupper
  rwa [hperm.length_eq, hperm.countP_eq] at hcount

-- Low and high stand for the least and the greatest day.
theorem recommended_between (h : recommendCommitment dailySpend kind = some recommendation) :
    ∃ low ∈ dailySpend, ∃ high ∈ dailySpend, (∀ amount ∈ dailySpend, low ≤ amount ∧ amount ≤ high) ∧
      low ≤ recommendation.recommendedDailyCommitment ∧ recommendation.recommendedDailyCommitment ≤ high := by
  obtain ⟨hdays, -, hlevel⟩ := recommendCommitment_eq_some h
  have hperm := List.mergeSort_perm dailySpend (fun a b => decide (a ≤ b))
  have hsorted := mergeSort_sorted dailySpend
  have hn : 0 < dailySpend.mergeSort.length := by
    rw [hperm.length_eq]
    exact Nat.lt_of_lt_of_le (by decide) hdays
  have hlast : dailySpend.mergeSort.length - 1 < dailySpend.mergeSort.length := Nat.sub_lt hn Nat.one_pos
  obtain ⟨lower, hlower, hlow, hhigh⟩ := percentile_bounds (p := BASELINE_PERCENTILE) hsorted hn
    (by norm_num [BASELINE_PERCENTILE]) (by norm_num [BASELINE_PERCENTILE])
  rw [← hlevel] at hlow hhigh
  refine ⟨dailySpend.mergeSort[0], hperm.mem_iff.mp (List.getElem_mem hn),
    dailySpend.mergeSort[dailySpend.mergeSort.length - 1], hperm.mem_iff.mp (List.getElem_mem hlast),
    fun amount hamount => mergeSort_bounds hn hamount, ?_, ?_⟩
  · exact (getElem_mono hsorted (Nat.zero_le _) hlower).trans hlow
  · exact hhigh.trans (mergeSort_bounds hn (hperm.mem_iff.mp (List.getElem_mem _))).2

theorem utilizationPct_of_recommended (hspend : ∀ amount ∈ dailySpend, 0 ≤ amount)
    (h : recommendCommitment dailySpend kind = some recommendation) :
    100 * ((dailySpend.length - upperRank dailySpend.length BASELINE_PERCENTILE : Nat) : ℚ) / dailySpend.length ≤
      (computeUtilization dailySpend recommendation.recommendedDailyCommitment).utilizationPct := by
  obtain ⟨hdays, hfloor, -⟩ := recommendCommitment_eq_some h
  have hlength : 0 < dailySpend.length := Nat.lt_of_lt_of_le (by decide) hdays
  have hlength' : (0 : ℚ) < dailySpend.length := Nat.cast_pos.mpr hlength
  have hcount : ((dailySpend.length - upperRank dailySpend.length BASELINE_PERCENTILE : Nat) : ℚ) ≤
      dailySpend.countP fun amount => recommendation.recommendedDailyCommitment ≤ amount :=
    Nat.cast_le.mpr (recommended_le_days h)
  have hused := count_mul_le_cappedSum hspend hfloor.le
  have hdaily := mul_le_mul_of_nonneg_right hcount hfloor.le
  rw [utilizationPct_of_pos hfloor (List.length_pos_iff.mp hlength), div_mul_eq_mul_div,
    div_le_div_iff₀ hlength' (mul_pos hfloor hlength')]
  nlinarith

theorem recommended_commitment_is_used (hspend : ∀ amount ∈ dailySpend, 0 ≤ amount)
    (h : recommendCommitment dailySpend kind = some recommendation) :
    14 ≤ dailySpend.length ∧
    (∃ low ∈ dailySpend, ∃ high ∈ dailySpend, (∀ amount ∈ dailySpend, low ≤ amount ∧ amount ≤ high) ∧
      low ≤ recommendation.recommendedDailyCommitment ∧ recommendation.recommendedDailyCommitment ≤ high) ∧
    dailySpend.length - ⌈((dailySpend.length : ℚ) - 1) / 5⌉₊ ≤
      dailySpend.countP (fun amount => recommendation.recommendedDailyCommitment ≤ amount) ∧
    100 * ((dailySpend.length - ⌈((dailySpend.length : ℚ) - 1) / 5⌉₊ : Nat) : ℚ) / dailySpend.length ≤
      (computeUtilization dailySpend recommendation.recommendedDailyCommitment).utilizationPct ∧
    ∀ others : List ℚ, dailySpend.Perm others → recommendCommitment others kind = some recommendation := by
  have hrank : upperRank dailySpend.length BASELINE_PERCENTILE = ⌈((dailySpend.length : ℚ) - 1) / 5⌉₊ := by
    unfold upperRank BASELINE_PERCENTILE
    congr 1
    ring
  rw [← hrank]
  exact ⟨(recommendCommitment_eq_some h).1, recommended_between h, recommended_le_days h,
    utilizationPct_of_recommended hspend h, fun others hperm => (recommendCommitment_perm hperm kind).trans h⟩

theorem recommended_commitment_is_used_flat :
    ∃ recommendation, recommendCommitment (List.replicate 14 10) .savingsPlan = some recommendation ∧
      100 * ((14 - ⌈((14 : ℚ) - 1) / 5⌉₊ : Nat) : ℚ) / 14 ≤
        (computeUtilization (List.replicate 14 10) recommendation.recommendedDailyCommitment).utilizationPct := by
  have hsorted := mergeSort_sorted (List.replicate 14 (10 : ℚ))
  have hperm := List.mergeSort_perm (List.replicate 14 (10 : ℚ)) (fun a b => decide (a ≤ b))
  have hlength : (List.replicate 14 (10 : ℚ)).mergeSort.length = 14 := hperm.length_eq
  obtain ⟨lower, hlower, hlow, -⟩ := percentile_bounds (p := BASELINE_PERCENTILE) hsorted (by omega)
    (by norm_num [BASELINE_PERCENTILE]) (by norm_num [BASELINE_PERCENTILE])
  have hten := List.eq_of_mem_replicate (hperm.mem_iff.mp (List.getElem_mem hlower))
  rw [hten] at hlow
  have hsome : recommendCommitment (List.replicate 14 10) .savingsPlan ≠ none := by
    have hfloor : ¬percentile (List.replicate 14 (10 : ℚ)).mergeSort BASELINE_PERCENTILE ≤ 0 := by linarith
    unfold recommendCommitment
    rw [if_neg (by decide)]
    simp only [hfloor, ite_false]
    exact Option.some_ne_none _
  obtain ⟨recommendation, h⟩ := Option.ne_none_iff_exists'.mp hsome
  have hspend : ∀ amount ∈ List.replicate 14 (10 : ℚ), 0 ≤ amount := by
    intro amount hmem
    rw [List.eq_of_mem_replicate hmem]
    norm_num
  exact ⟨recommendation, h, (recommended_commitment_is_used hspend h).2.2.2.1⟩

end Recommended

end CloudOps.Cost
