import CloudOps.LeastSquares
import CloudOps.OrderStatistics
import Mathlib.Algebra.Order.Field.Rat
import Mathlib.Algebra.Order.Round
import Mathlib.Data.Rat.Floor
import Mathlib.Tactic.FieldSimp
import Mathlib.Tactic.NormNum

namespace CloudOps.Monitoring

open CloudOps.LeastSquares CloudOps.OrderStatistics

-- `t` is in milliseconds. Math.round is `round`, halves up.
structure DiskSample where
  t : ℚ
  value : ℚ

structure DiskForecast where
  daysToFull : ℚ
  ratePerDay : ℚ
  currentPct : ℚ

def MS_PER_DAY : ℚ := 24 * 60 * 60 * 1000

-- A quotient that the runtime would have NaN or Infinity for stops the computation here.
inductive DivisionByZero where
  | divisionByZero

def divide (dividend divisor : ℚ) : Except DivisionByZero ℚ :=
  if divisor = 0 then .error .divisionByZero else .ok (dividend / divisor)

-- The loop that adds up cov and varX.
def addMoments (meanX meanY : ℚ) (sums : ℚ × ℚ) (point : ℚ × ℚ) : ℚ × ℚ :=
  (sums.1 + (point.1 - meanX) * (point.2 - meanY), sums.2 + (point.1 - meanX) ^ 2)

-- From the means on.
def projectToFull (xs ys : List ℚ) (lastX : ℚ) : Except DivisionByZero (Option DiskForecast) := do
  let n : ℚ := xs.length
  let meanX ← divide xs.sum n
  let meanY ← divide ys.sum n
  let sums := (xs.zip ys).foldl (addMoments meanX meanY) (0, 0)
  let cov := sums.1
  let varX := sums.2
  if varX = 0 then return none
  else
    let slope ← divide cov varX
    let intercept := meanY - slope * meanX
    let currentPct := intercept + slope * lastX
    if slope ≤ 1 / 100 then return none
    else
      let daysToFull ← divide (100 - currentPct) slope
      return some {
        daysToFull := max 0 ((round (daysToFull * 10) : ℚ) / 10)
        ratePerDay := (round (slope * 100) : ℚ) / 100
        currentPct := (round (currentPct * 10) : ℚ) / 10 }

def forecastDaysToFull (samples : List DiskSample) : Except DivisionByZero (Option DiskForecast) :=
  if samples.length < 3 then .ok none
  else
    let sorted := samples.mergeSort fun a b => a.t ≤ b.t
    let t0 := (sorted.map DiskSample.t).headD 0
    let xs := sorted.map fun s => (s.t - t0) / MS_PER_DAY
    let ys := sorted.map DiskSample.value
    let lastX := xs.getLastD 0
    let spanDays := lastX - xs.headD 0
    if spanDays ≤ 0 then .ok none else projectToFull xs ys lastX

theorem divide_of_ne_zero (dividend : ℚ) {divisor : ℚ} (h : divisor ≠ 0) :
    divide dividend divisor = .ok (dividend / divisor) := if_neg h

theorem foldl_addMoments (meanX meanY : ℚ) (points : List (ℚ × ℚ)) (sums : ℚ × ℚ) :
    points.foldl (addMoments meanX meanY) sums =
      (sums.1 + (points.map fun point => (point.1 - meanX) * (point.2 - meanY)).sum,
        sums.2 + (points.map fun point => (point.1 - meanX) ^ 2).sum) := by
  induction points generalizing sums with
  | nil => simp
  | cons point rest ih =>
      rw [List.foldl_cons, ih]
      simp only [addMoments, List.map_cons, List.sum_cons, add_assoc]

-- A sample's place in days and its percentage.
def DiskSample.point (sample : DiskSample) : ℚ × ℚ := (sample.t / MS_PER_DAY, sample.value)

def dayPoints (samples : List DiskSample) : List (ℚ × ℚ) := samples.map DiskSample.point

-- The line's forecast on a day.
def forecastAt (line : Line ℚ) (day : ℚ) : DiskForecast where
  daysToFull := max 0 ((round ((100 - line.value day) / line.slope * 10) : ℚ) / 10)
  ratePerDay := (round (line.slope * 100) : ℚ) / 100
  currentPct := (round (line.value day * 10) : ℚ) / 10

theorem projectToFull_eq {points : List (ℚ × ℚ)} (hne : points ≠ []) (lastX : ℚ) :
    projectToFull (points.map Prod.fst) (points.map Prod.snd) lastX =
      .ok (if variance points = 0 then none
        else if (fit points).slope ≤ 1 / 100 then none
        else some (forecastAt (fit points) lastX)) := by
  have hn : ((points.map Prod.fst).length : ℚ) ≠ 0 := by
    rw [List.length_map]
    exact Nat.cast_ne_zero.mpr (mt List.length_eq_zero_iff.mp hne)
  have hmeanX : divide (points.map Prod.fst).sum (points.map Prod.fst).length =
      .ok (mean (points.map Prod.fst)) := divide_of_ne_zero _ hn
  have hmeanY : divide (points.map Prod.snd).sum (points.map Prod.fst).length =
      .ok (mean (points.map Prod.snd)) := by
    rw [divide_of_ne_zero _ hn, mean, List.length_map, List.length_map]
  have hsums : ((points.map Prod.fst).zip (points.map Prod.snd)).foldl
      (addMoments (mean (points.map Prod.fst)) (mean (points.map Prod.snd))) (0, 0) =
        (covariance points, variance points) := by
    have hzip : (points.map Prod.fst).zip (points.map Prod.snd) = points := by
      rw [List.zip_map', List.map_id']
    rw [hzip, foldl_addMoments, zero_add, zero_add]
    rfl
  simp only [projectToFull, hmeanX, hmeanY, hsums, bind, Except.bind, pure, Except.pure]
  by_cases hvar : variance points = 0
  · rw [if_pos hvar, if_pos hvar]
  · have hslope : divide (covariance points) (variance points) = .ok (fit points).slope :=
      divide_of_ne_zero _ hvar
    rw [if_neg hvar, if_neg hvar]
    simp only [hslope]
    by_cases hflat : (fit points).slope ≤ 1 / 100
    · rw [if_pos hflat, if_pos hflat]
    · have hpos : (fit points).slope ≠ 0 := by
        intro hzero
        rw [hzero] at hflat
        exact hflat (by norm_num)
      rw [if_neg hflat, if_neg hflat]
      simp only [divide_of_ne_zero _ hpos]
      rfl

structure IsLast (samples : List DiskSample) (time : ℚ) : Prop where
  sampled : ∃ sample ∈ samples, sample.t = time
  bound : ∀ sample ∈ samples, sample.t ≤ time

structure Fills (samples : List DiskSample) : Prop where
  three : 3 ≤ samples.length
  distinct : ∃ first ∈ samples, ∃ second ∈ samples, first.t ≠ second.t
  rising : 1 / 100 < (fit (dayPoints samples)).slope

section Sorted

variable {samples others : List DiskSample} {time : ℚ}

theorem IsLast.unique {other : ℚ} (h : IsLast samples time) (h' : IsLast samples other) : time = other := by
  obtain ⟨sample, hmem, rfl⟩ := h.sampled
  obtain ⟨sample', hmem', rfl⟩ := h'.sampled
  exact le_antisymm (h'.bound sample hmem) (h.bound sample' hmem')

theorem IsLast.perm (h : IsLast samples time) (hperm : samples.Perm others) : IsLast others time where
  sampled := by
    obtain ⟨sample, hmem, htime⟩ := h.sampled
    exact ⟨sample, hperm.mem_iff.mp hmem, htime⟩
  bound sample hmem := h.bound sample (hperm.mem_iff.mpr hmem)

theorem Fills.perm (h : Fills samples) (hperm : samples.Perm others) : Fills others where
  three := hperm.length_eq ▸ h.three
  distinct := by
    obtain ⟨first, hfirst, second, hsecond, hne⟩ := h.distinct
    exact ⟨first, hperm.mem_iff.mp hfirst, second, hperm.mem_iff.mp hsecond, hne⟩
  rising := by
    rw [dayPoints, fit_perm (hperm.symm.map DiskSample.point)]
    exact h.rising

theorem sorted_by_time (samples : List DiskSample) :
    (samples.mergeSort fun a b => a.t ≤ b.t).Pairwise fun a b => a.t ≤ b.t := by
  have htrans : ∀ a b c : DiskSample, decide (a.t ≤ b.t) = true → decide (b.t ≤ c.t) = true →
      decide (a.t ≤ c.t) = true := by
    intro a b c hab hbc
    exact decide_eq_true ((of_decide_eq_true hab).trans (of_decide_eq_true hbc))
  have htotal : ∀ a b : DiskSample, (decide (a.t ≤ b.t) || decide (b.t ≤ a.t)) = true := by
    intro a b
    rw [Bool.or_eq_true, decide_eq_true_eq, decide_eq_true_eq]
    exact le_total a.t b.t
  exact (List.pairwise_mergeSort htrans htotal samples).imp fun h => of_decide_eq_true h

theorem getLastD_map {α β : Type} (f : α → β) (first : α) (rest : List α) :
    (rest.map f).getLastD (f first) = f (rest.getLastD first) := by
  induction rest generalizing first with
  | nil => rfl
  | cons next rest ih =>
      rw [List.map_cons, List.getLastD_cons, List.getLastD_cons]
      exact ih next

theorem isLast_of_sorted {first : DiskSample} {rest : List DiskSample}
    (hsorted : (first :: rest).Pairwise fun a b => a.t ≤ b.t) : IsLast (first :: rest) (rest.getLastD first).t := by
  induction rest generalizing first with
  | nil =>
      constructor
      · exact ⟨first, List.mem_singleton_self first, rfl⟩
      · intro sample hmem
        rw [List.mem_singleton.mp hmem]
        exact le_refl _
  | cons next rest ih =>
      obtain ⟨hfirst, hrest⟩ := List.pairwise_cons.mp hsorted
      have hlast := ih hrest
      rw [List.getLastD_cons]
      constructor
      · obtain ⟨sample, hmem, htime⟩ := hlast.sampled
        exact ⟨sample, List.mem_cons_of_mem first hmem, htime⟩
      · intro sample hmem
        rcases List.mem_cons.mp hmem with rfl | hmem
        · exact (hfirst next List.mem_cons_self).trans (hlast.bound next List.mem_cons_self)
        · exact hlast.bound sample hmem

theorem forecastAt_shift (line : Line ℚ) (offset day : ℚ) :
    forecastAt (line.shift offset) (day + offset) = forecastAt line day := by
  unfold forecastAt
  rw [Line.value_shift]
  rfl

theorem point_ne {first second : DiskSample} (hne : first.t ≠ second.t) : first.point.1 ≠ second.point.1 := by
  intro heq
  unfold DiskSample.point MS_PER_DAY at heq
  exact hne (by linarith)

-- Of the sorted samples, counted from the first of them on.
theorem forecastDaysToFull_sorted {first : DiskSample} {rest : List DiskSample} (hthree : 3 ≤ samples.length)
    (hcons : (samples.mergeSort fun a b => a.t ≤ b.t) = first :: rest) :
    forecastDaysToFull samples =
      if (rest.getLastD first).t ≤ first.t then .ok none
      else
        let points := (dayPoints (first :: rest)).map (shiftPoint (-(first.t / MS_PER_DAY)))
        projectToFull (points.map Prod.fst) (points.map Prod.snd)
          ((rest.getLastD first).t / MS_PER_DAY + -(first.t / MS_PER_DAY)) := by
  have hxs : (first :: rest).map (fun s => (s.t - first.t) / MS_PER_DAY) =
      ((dayPoints (first :: rest)).map (shiftPoint (-(first.t / MS_PER_DAY)))).map Prod.fst := by
    rw [dayPoints, List.map_map, List.map_map]
    apply List.map_congr_left
    intro s _
    simp only [Function.comp_def, DiskSample.point, shiftPoint]
    ring
  have hys : ((dayPoints (first :: rest)).map (shiftPoint (-(first.t / MS_PER_DAY)))).map Prod.snd =
      first.value :: rest.map DiskSample.value := by
    rw [dayPoints, List.map_map, List.map_map]
    rfl
  have hlast : ((first :: rest).map fun s => (s.t - first.t) / MS_PER_DAY).getLastD 0 =
      (rest.getLastD first).t / MS_PER_DAY + -(first.t / MS_PER_DAY) := by
    rw [List.map_cons, List.getLastD_cons, getLastD_map (fun s : DiskSample => (s.t - first.t) / MS_PER_DAY)]
    ring
  have hspan : (rest.getLastD first).t / MS_PER_DAY + -(first.t / MS_PER_DAY) -
      (first.t - first.t) / MS_PER_DAY ≤ 0 ↔ (rest.getLastD first).t ≤ first.t := by
    unfold MS_PER_DAY
    constructor <;> intro h <;> linarith
  unfold forecastDaysToFull
  rw [if_neg (Nat.not_lt.mpr hthree), hcons]
  simp only [List.map_cons, List.headD_cons]
  rw [← List.map_cons (f := fun s : DiskSample => (s.t - first.t) / MS_PER_DAY), hlast, hxs]
  simp only [hspan, hys]

theorem eq_first_of_span {first : DiskSample} {rest : List DiskSample}
    (hsorted : (first :: rest).Pairwise fun a b => a.t ≤ b.t) (hspan : (rest.getLastD first).t ≤ first.t) :
    ∀ sample ∈ first :: rest, sample.t = first.t := by
  intro sample hmem
  apply le_antisymm (((isLast_of_sorted hsorted).bound sample hmem).trans hspan)
  rcases List.mem_cons.mp hmem with rfl | hrest
  · exact le_refl _
  · exact (List.pairwise_cons.mp hsorted).1 sample hrest

-- Counted from any time on, and in any order, the samples have the same line.
theorem projectToFull_shifted (hperm : others.Perm samples) {p q : DiskSample} (hp : p ∈ others) (hq : q ∈ others)
    (hne : p.t ≠ q.t) (offset day : ℚ) :
    projectToFull (((dayPoints others).map (shiftPoint offset)).map Prod.fst)
        (((dayPoints others).map (shiftPoint offset)).map Prod.snd) (day + offset) =
      .ok (if (fit (dayPoints samples)).slope ≤ 1 / 100 then none
        else some (forecastAt (fit (dayPoints samples)) day)) := by
  have hpoint : p.point ∈ dayPoints others := List.mem_map_of_mem hp
  have hpoint' : q.point ∈ dayPoints others := List.mem_map_of_mem hq
  have hfit : fit (dayPoints others) = fit (dayPoints samples) := fit_perm (hperm.map DiskSample.point)
  have hshift : fit ((dayPoints others).map (shiftPoint offset)) = (fit (dayPoints samples)).shift offset := by
    rw [← hfit]
    exact fit_shift offset hpoint hpoint' (point_ne hne)
  have hvar : 0 < variance ((dayPoints others).map (shiftPoint offset)) :=
    variance_pos (List.mem_map_of_mem hpoint) (List.mem_map_of_mem hpoint') fun heq =>
      point_ne hne (add_right_cancel heq)
  rw [projectToFull_eq (List.ne_nil_of_mem (List.mem_map_of_mem hpoint)), if_neg hvar.ne', hshift, forecastAt_shift]
  rfl

theorem forecast_cases (samples : List DiskSample) :
    (forecastDaysToFull samples = .ok none ∧ ¬Fills samples) ∨
      ∃ time, IsLast samples time ∧ Fills samples ∧
        forecastDaysToFull samples = .ok (some (forecastAt (fit (dayPoints samples)) (time / MS_PER_DAY))) := by
  by_cases hthree : samples.length < 3
  · have hnone : forecastDaysToFull samples = .ok none := if_pos hthree
    exact .inl ⟨hnone, fun h => absurd h.three (Nat.not_le.mpr hthree)⟩
  · have hsorted := sorted_by_time samples
    have hperm := List.mergeSort_perm samples fun a b => decide (a.t ≤ b.t)
    cases hcons : samples.mergeSort fun a b => a.t ≤ b.t with
    | nil =>
        rw [hcons] at hperm
        rw [hperm.symm.eq_nil] at hthree
        exact absurd (Nat.zero_lt_succ 2) hthree
    | cons first rest =>
        rw [hcons] at hperm hsorted
        have hlast := isLast_of_sorted hsorted
        rw [forecastDaysToFull_sorted (Nat.not_lt.mp hthree) hcons]
        by_cases hspan : (rest.getLastD first).t ≤ first.t
        · have hfirst := eq_first_of_span hsorted hspan
          rw [if_pos hspan]
          refine .inl ⟨rfl, fun h => ?_⟩
          obtain ⟨p, hp, q, hq, hne⟩ := h.distinct
          exact hne ((hfirst p (hperm.mem_iff.mpr hp)).trans (hfirst q (hperm.mem_iff.mpr hq)).symm)
        · obtain ⟨last, hmem, htime⟩ := hlast.sampled
          have hne : first.t ≠ last.t := by
            rw [htime]
            exact fun heq => hspan heq.ge
          have hdistinct : ∃ p ∈ samples, ∃ q ∈ samples, p.t ≠ q.t :=
            ⟨first, hperm.mem_iff.mp List.mem_cons_self, last, hperm.mem_iff.mp hmem, hne⟩
          rw [if_neg hspan]
          simp only [projectToFull_shifted hperm List.mem_cons_self hmem hne]
          by_cases hflat : (fit (dayPoints samples)).slope ≤ 1 / 100
          · refine .inl ⟨?_, fun h => absurd h.rising (not_lt.mpr hflat)⟩
            exact congrArg Except.ok (if_pos hflat)
          · refine .inr ⟨(rest.getLastD first).t, hlast.perm hperm, ?_, ?_⟩
            · exact ⟨Nat.not_lt.mp hthree, hdistinct, not_le.mp hflat⟩
            · exact congrArg Except.ok (if_neg hflat)

end Sorted

section Regression

variable {samples : List DiskSample}

def DiskSample.later (offset : ℚ) (sample : DiskSample) : DiskSample := { sample with t := sample.t + offset }

theorem dayPoints_later (offset : ℚ) (samples : List DiskSample) :
    dayPoints (samples.map (DiskSample.later offset)) =
      (dayPoints samples).map (shiftPoint (offset / MS_PER_DAY)) := by
  rw [dayPoints, dayPoints, List.map_map, List.map_map]
  apply List.map_congr_left
  intro s _
  simp only [Function.comp_def, DiskSample.point, DiskSample.later, shiftPoint, add_div]

-- What there is to forecast from is all of it in the samples, in any order.
theorem forecastDaysToFull_perm {others : List DiskSample} (hperm : samples.Perm others) :
    forecastDaysToFull others = forecastDaysToFull samples := by
  have hfit : fit (dayPoints others) = fit (dayPoints samples) := fit_perm (hperm.symm.map DiskSample.point)
  rcases forecast_cases samples with ⟨hnone, hnot⟩ | ⟨time, hlast, hfills, hsome⟩
  · rcases forecast_cases others with ⟨hnone', -⟩ | ⟨_, -, hfills', -⟩
    · rw [hnone, hnone']
    · exact absurd (hfills'.perm hperm.symm) hnot
  · rcases forecast_cases others with ⟨-, hnot'⟩ | ⟨time', hlast', -, hsome'⟩
    · exact absurd (hfills.perm hperm) hnot'
    · rw [hsome, hsome', hfit, hlast'.unique (hlast.perm hperm)]

theorem fit_later (offset : ℚ) (hdistinct : ∃ p ∈ samples, ∃ q ∈ samples, p.t ≠ q.t) :
    fit (dayPoints (samples.map (DiskSample.later offset))) =
      (fit (dayPoints samples)).shift (offset / MS_PER_DAY) := by
  obtain ⟨p, hp, q, hq, hne⟩ := hdistinct
  rw [dayPoints_later]
  exact fit_shift _ (List.mem_map_of_mem hp) (List.mem_map_of_mem hq) (point_ne hne)

theorem IsLast.later {time : ℚ} (h : IsLast samples time) (offset : ℚ) :
    IsLast (samples.map (DiskSample.later offset)) (time + offset) where
  sampled := by
    obtain ⟨sample, hmem, rfl⟩ := h.sampled
    exact ⟨sample.later offset, List.mem_map_of_mem hmem, rfl⟩
  bound := by
    intro _ hmem
    obtain ⟨sample, hsample, rfl⟩ := List.mem_map.mp hmem
    exact add_le_add_left (h.bound sample hsample) offset

theorem fills_later (offset : ℚ) : Fills (samples.map (DiskSample.later offset)) ↔ Fills samples := by
  have hdistinct : (∃ p ∈ samples.map (DiskSample.later offset), ∃ q ∈ samples.map (DiskSample.later offset),
      p.t ≠ q.t) ↔ ∃ p ∈ samples, ∃ q ∈ samples, p.t ≠ q.t := by
    simp [DiskSample.later]
  constructor
  · intro h
    have hd := hdistinct.mp h.distinct
    have hrising := h.rising
    rw [fit_later offset hd] at hrising
    exact ⟨by simpa using h.three, hd, hrising⟩
  · intro h
    refine ⟨by simpa using h.three, hdistinct.mpr h.distinct, ?_⟩
    rw [fit_later offset h.distinct]
    exact h.rising

theorem forecastDaysToFull_later (samples : List DiskSample) (offset : ℚ) :
    forecastDaysToFull (samples.map (DiskSample.later offset)) = forecastDaysToFull samples := by
  rcases forecast_cases samples with ⟨hnone, hnot⟩ | ⟨time, hlast, hfills, hsome⟩
  · rcases forecast_cases (samples.map (DiskSample.later offset)) with ⟨hnone', -⟩ | ⟨_, -, hfills', -⟩
    · rw [hnone, hnone']
    · exact absurd ((fills_later offset).mp hfills') hnot
  · rcases forecast_cases (samples.map (DiskSample.later offset)) with ⟨-, hnot'⟩ | ⟨time', hlast', -, hsome'⟩
    · exact absurd ((fills_later offset).mpr hfills) hnot'
    · rw [hsome, hsome', hlast'.unique (hlast.later offset), fit_later offset hfills.distinct, add_div,
        forecastAt_shift]

-- The least-squares line reaches 100 at some instant, as it rises.
theorem forecastAt_daysToFull {line : Line ℚ} (hrising : 1 / 100 < line.slope) (day : ℚ) :
    ∃ full, line.value full = 100 ∧
      (forecastAt line day).daysToFull = max 0 ((round ((full - day) * 10) : ℚ) / 10) := by
  have hslope : line.slope ≠ 0 := fun hzero => absurd hrising (by rw [hzero]; norm_num)
  refine ⟨(100 - line.intercept) / line.slope, ?_, ?_⟩
  · unfold Line.value
    rw [mul_div_cancel₀ _ hslope]
    ring
  · have hdays : (100 - line.value day) / line.slope = (100 - line.intercept) / line.slope - day := by
      unfold Line.value
      field_simp
      ring
    unfold forecastAt
    rw [hdays]

theorem forecast_is_regression (samples : List DiskSample) :
    (∀ others : List DiskSample, samples.Perm others → forecastDaysToFull others = forecastDaysToFull samples) ∧
    (∀ offset, forecastDaysToFull (samples.map (DiskSample.later offset)) = forecastDaysToFull samples) ∧
    ∃ forecast, forecastDaysToFull samples = .ok forecast ∧
      (forecast.isSome ↔ 3 ≤ samples.length ∧ (∃ first ∈ samples, ∃ second ∈ samples, first.t ≠ second.t) ∧
        ∃ line : Line ℚ, line.Fits (dayPoints samples) ∧ 1 / 100 < line.slope) ∧
      ∀ result ∈ forecast, ∃ line : Line ℚ, line.Fits (dayPoints samples) ∧
        (∀ other : Line ℚ, other.Fits (dayPoints samples) → line = other) ∧
        ∃ full, line.value full = 100 ∧ ∀ last ∈ samples, (∀ sample ∈ samples, sample.t ≤ last.t) →
          result.daysToFull = max 0 ((round ((full - last.t / MS_PER_DAY) * 10) : ℚ) / 10) := by
  have hunique : (∃ first ∈ samples, ∃ second ∈ samples, first.t ≠ second.t) →
      ∀ other : Line ℚ, other.Fits (dayPoints samples) → fit (dayPoints samples) = other := by
    rintro ⟨p, hp, q, hq, hne⟩ other hother
    exact (fit_normal _).eq_of_fits hother (List.mem_map_of_mem hp) (List.mem_map_of_mem hq) (point_ne hne)
  refine ⟨fun others => forecastDaysToFull_perm, forecastDaysToFull_later samples, ?_⟩
  rcases forecast_cases samples with ⟨hnone, hnot⟩ | ⟨time, hlast, hfills, hsome⟩
  · refine ⟨none, hnone, ?_, fun result hresult => absurd hresult (Option.not_mem_none result)⟩
    constructor
    · exact fun hfalse => absurd hfalse Bool.false_ne_true
    · rintro ⟨hthree, hdistinct, line, hfits, hrising⟩
      rw [← hunique hdistinct line hfits] at hrising
      exact absurd ⟨hthree, hdistinct, hrising⟩ hnot
  · obtain ⟨full, hfull, hdays⟩ := forecastAt_daysToFull hfills.rising (time / MS_PER_DAY)
    refine ⟨_, hsome, ?_, ?_⟩
    · constructor
      · exact fun _ => ⟨hfills.three, hfills.distinct, fit (dayPoints samples), fit_fits _, hfills.rising⟩
      · exact fun _ => rfl
    · intro result hresult
      obtain rfl := Option.mem_some_iff.mp hresult
      refine ⟨fit (dayPoints samples), fit_fits _, hunique hfills.distinct, full, hfull, ?_⟩
      intro last hmem hbound
      rw [hdays, hlast.unique ⟨⟨last, hmem, rfl⟩, hbound⟩]

end Regression

end CloudOps.Monitoring
