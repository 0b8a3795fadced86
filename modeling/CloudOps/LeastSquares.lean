import Mathlib.Algebra.BigOperators.Ring.List
import Mathlib.Algebra.Order.BigOperators.Group.List
import Mathlib.Algebra.Order.Field.Basic
import Mathlib.Tactic.Linarith
import Mathlib.Tactic.LinearCombination
import Mathlib.Tactic.Ring

namespace CloudOps.LeastSquares

structure Line (K : Type*) where
  intercept : K
  slope : K

section Sums

variable {K ι : Type*} [Field K]

def mean (values : List K) : K := values.sum / values.length

theorem sum_map_sub (items : List ι) (f g : ι → K) :
    (items.map fun i => f i - g i).sum = (items.map f).sum - (items.map g).sum := by
  induction items with
  | nil => simp
  | cons i rest ih => simp only [List.map_cons, List.sum_cons, ih]; ring

theorem sum_map_const (items : List ι) (c : K) : (items.map fun _ => c).sum = items.length * c := by
  simp [List.map_const', List.sum_replicate, nsmul_eq_mul]

-- The mean in place of every value adds up to the same.
theorem length_mul_mean [CharZero K] (values : List K) : values.length * mean values = values.sum := by
  cases values with
  | nil => simp
  | cons v rest => exact mul_div_cancel₀ _ (Nat.cast_ne_zero.mpr (Nat.succ_ne_zero rest.length))

theorem mean_perm {values others : List K} (h : values.Perm others) : mean values = mean others := by
  rw [mean, mean, h.sum_eq, h.length_eq]

theorem mean_replicate [CharZero K] {n : Nat} (hn : n ≠ 0) (c : K) : mean (List.replicate n c) = c := by
  have hn' : (n : K) ≠ 0 := Nat.cast_ne_zero.mpr hn
  rw [mean, List.sum_replicate, List.length_replicate, nsmul_eq_mul, mul_div_cancel_left₀ c hn']

theorem mean_of_constant [CharZero K] {values : List K} (hne : values ≠ []) {c : K}
    (hconstant : ∀ value ∈ values, value = c) : mean values = c := by
  rw [List.eq_replicate_of_mem hconstant]
  exact mean_replicate (mt List.length_eq_zero_iff.mp hne) c

theorem mean_nonneg_iff [LinearOrder K] [IsStrictOrderedRing K] (values : List K) :
    0 ≤ mean values ↔ 0 ≤ values.sum := by
  by_cases hnil : values = []
  · simp [mean, hnil]
  · have hlength : (0 : K) < values.length := Nat.cast_pos.mpr (List.length_pos_iff.mpr hnil)
    rw [mean, le_div_iff₀ hlength, zero_mul]

end Sums

variable {K : Type*} [Field K]

def Line.value (line : Line K) (x : K) : K := line.intercept + line.slope * x

-- The points are (position, value) pairs.
def Line.residual (line : Line K) (point : K × K) : K := point.2 - line.value point.1

def Line.squaredError (line : Line K) (points : List (K × K)) : K :=
  (points.map fun point => line.residual point ^ 2).sum

def covariance (points : List (K × K)) : K :=
  (points.map fun point => (point.1 - mean (points.map Prod.fst)) * (point.2 - mean (points.map Prod.snd))).sum

def variance (points : List (K × K)) : K :=
  (points.map fun point => (point.1 - mean (points.map Prod.fst)) ^ 2).sum

-- The slope is zero where all the points are at one position.
def fit (points : List (K × K)) : Line K :=
  let slope := covariance points / variance points
  ⟨mean (points.map Prod.snd) - slope * mean (points.map Prod.fst), slope⟩

-- The residuals are orthogonal to every line.
structure Line.Normal (line : Line K) (points : List (K × K)) : Prop where
  sum : (points.map line.residual).sum = 0
  moment : (points.map fun point => line.residual point * point.1).sum = 0

theorem Line.Normal.orthogonal {line : Line K} {points : List (K × K)} (h : line.Normal points) (other : Line K) :
    (points.map fun point => line.residual point * other.value point.1).sum = 0 := by
  have hsplit : ∀ point : K × K, line.residual point * other.value point.1 =
      other.intercept * line.residual point + other.slope * (line.residual point * point.1) := by
    intro point
    unfold Line.value
    ring
  simp only [hsplit, List.sum_map_add, List.sum_map_mul_left]
  rw [h.sum, h.moment]
  ring

def Line.sub (line other : Line K) : Line K := ⟨line.intercept - other.intercept, line.slope - other.slope⟩

theorem Line.value_sub (line other : Line K) (x : K) : (line.sub other).value x = line.value x - other.value x := by
  unfold Line.sub Line.value
  ring

-- What another line's error exceeds that of a normal line by.
theorem Line.Normal.squaredError_eq {line : Line K} {points : List (K × K)} (h : line.Normal points)
    (other : Line K) : other.squaredError points =
      line.squaredError points + (points.map fun point => (line.sub other).value point.1 ^ 2).sum := by
  have hsquare : ∀ point : K × K, other.residual point ^ 2 = line.residual point ^ 2 +
      (line.sub other).value point.1 ^ 2 + 2 * (line.residual point * (line.sub other).value point.1) := by
    intro point
    rw [Line.value_sub]
    unfold Line.residual
    ring
  unfold Line.squaredError
  simp only [hsquare, List.sum_map_add, List.sum_map_mul_left, h.orthogonal]
  ring

theorem Line.Normal.perm {line : Line K} {points others : List (K × K)} (h : line.Normal points)
    (hperm : points.Perm others) : line.Normal others where
  sum := (hperm.map line.residual).sum_eq.symm.trans h.sum
  moment := (hperm.map fun point => line.residual point * point.1).sum_eq.symm.trans h.moment

-- The line as it looks when the positions are counted from elsewhere.
def Line.shift (line : Line K) (offset : K) : Line K := ⟨line.intercept - line.slope * offset, line.slope⟩

def shiftPoint (offset : K) (point : K × K) : K × K := (point.1 + offset, point.2)

theorem Line.value_shift (line : Line K) (offset x : K) :
    (line.shift offset).value (x + offset) = line.value x := by
  unfold Line.shift Line.value
  ring

theorem Line.residual_shift (line : Line K) (offset : K) (point : K × K) :
    (line.shift offset).residual (shiftPoint offset point) = line.residual point := by
  unfold Line.residual shiftPoint
  rw [Line.value_shift]

theorem Line.Normal.shift {line : Line K} {points : List (K × K)} (h : line.Normal points) (offset : K) :
    (line.shift offset).Normal (points.map (shiftPoint offset)) where
  sum := by
    rw [List.map_map]
    exact (congrArg List.sum (List.map_congr_left fun point _ => line.residual_shift offset point)).trans h.sum
  moment := by
    have hmoment : ∀ point : K × K, (line.shift offset).residual (shiftPoint offset point) *
        (shiftPoint offset point).1 = line.residual point * point.1 + line.residual point * offset := by
      intro point
      rw [Line.residual_shift, shiftPoint, mul_add]
    simp only [List.map_map, Function.comp_def, hmoment, List.sum_map_add, List.sum_map_mul_right]
    rw [h.sum, h.moment]
    ring

theorem fit_perm {points others : List (K × K)} (hperm : points.Perm others) : fit points = fit others := by
  have hx := mean_perm (hperm.map Prod.fst)
  have hy := mean_perm (hperm.map Prod.snd)
  have hcov : covariance points = covariance others := by
    unfold covariance
    rw [hx, hy, (hperm.map _).sum_eq]
  have hvar : variance points = variance others := by
    unfold variance
    rw [hx, (hperm.map _).sum_eq]
  unfold fit
  rw [hx, hy, hcov, hvar]

-- Points that lie on a line.
theorem Line.normal_of_exact {line : Line K} {points : List (K × K)}
    (hexact : ∀ point ∈ points, point.2 = line.value point.1) : line.Normal points := by
  have hzero : ∀ point ∈ points, line.residual point = 0 := fun point hmem => sub_eq_zero.mpr (hexact point hmem)
  constructor
  · apply List.sum_eq_zero
    intro residual hmem
    obtain ⟨point, hpoint, rfl⟩ := List.mem_map.mp hmem
    exact hzero point hpoint
  · apply List.sum_eq_zero
    intro product hmem
    obtain ⟨point, hpoint, rfl⟩ := List.mem_map.mp hmem
    rw [hzero point hpoint, zero_mul]

section Ordered

variable [LinearOrder K] [IsStrictOrderedRing K] {line other : Line K} {points : List (K × K)}

-- A least-squares line.
def Line.Fits (line : Line K) (points : List (K × K)) : Prop :=
  ∀ other : Line K, line.squaredError points ≤ other.squaredError points

theorem sum_sq_nonneg (f : K × K → K) (points : List (K × K)) : 0 ≤ (points.map fun point => f point ^ 2).sum := by
  apply List.sum_nonneg
  intro square hmem
  obtain ⟨point, _, rfl⟩ := List.mem_map.mp hmem
  exact sq_nonneg (f point)

theorem eq_zero_of_sum_sq (f : K × K → K) (hsum : (points.map fun point => f point ^ 2).sum = 0) :
    ∀ point ∈ points, f point = 0 := by
  induction points with
  | nil => exact fun point hmem => absurd hmem (List.not_mem_nil)
  | cons first rest ih =>
      rw [List.map_cons, List.sum_cons] at hsum
      have hfirst := sq_nonneg (f first)
      have hrest := sum_sq_nonneg f rest
      intro point hmem
      rcases List.mem_cons.mp hmem with rfl | hmem
      · exact pow_eq_zero_iff two_ne_zero |>.mp (by linarith)
      · exact ih (by linarith) point hmem

theorem Line.Normal.fits (h : line.Normal points) : line.Fits points := by
  intro other
  rw [h.squaredError_eq other]
  exact le_add_of_nonneg_right (sum_sq_nonneg _ points)

theorem Line.eq_of_agree {x y : K} (hxy : x ≠ y) (hx : line.value x = other.value x)
    (hy : line.value y = other.value y) : line = other := by
  obtain ⟨a, b⟩ := line
  obtain ⟨c, d⟩ := other
  simp only [Line.value] at hx hy
  have hslope : (b - d) * (x - y) = 0 := by linear_combination hx - hy
  have hbd : b = d := sub_eq_zero.mp ((mul_eq_zero.mp hslope).resolve_right (sub_ne_zero.mpr hxy))
  subst hbd
  have hac : a = c := add_right_cancel hx
  rw [hac]

-- With two positions among the points there is one least-squares line.
theorem Line.Normal.eq_of_fits (h : line.Normal points) (hother : other.Fits points) {p q : K × K}
    (hp : p ∈ points) (hq : q ∈ points) (hpq : p.1 ≠ q.1) : line = other := by
  have hle := hother line
  rw [h.squaredError_eq other] at hle
  have hsum : (points.map fun point => (line.sub other).value point.1 ^ 2).sum = 0 :=
    le_antisymm (by linarith) (sum_sq_nonneg _ points)
  have hzero := eq_zero_of_sum_sq (fun point => (line.sub other).value point.1) hsum
  have hagree : ∀ point ∈ points, line.value point.1 = other.value point.1 := by
    intro point hmem
    have hz := hzero point hmem
    rw [Line.value_sub] at hz
    exact sub_eq_zero.mp hz
  exact Line.eq_of_agree hpq (hagree p hp) (hagree q hq)

theorem variance_nonneg (points : List (K × K)) : 0 ≤ variance points := sum_sq_nonneg _ points

-- All the points are at one position when the variance is zero.
theorem variance_eq_zero (hvar : variance points = 0) :
    ∀ point ∈ points, point.1 - mean (points.map Prod.fst) = 0 :=
  eq_zero_of_sum_sq (fun point : K × K => point.1 - mean (points.map Prod.fst)) hvar

theorem variance_pos {p q : K × K} (hp : p ∈ points) (hq : q ∈ points) (hpq : p.1 ≠ q.1) : 0 < variance points := by
  by_contra hnot
  have hzero := variance_eq_zero (le_antisymm (not_lt.mp hnot) (variance_nonneg points))
  exact hpq ((sub_eq_zero.mp (hzero p hp)).trans (sub_eq_zero.mp (hzero q hq)).symm)

theorem slope_mul_variance (points : List (K × K)) : (fit points).slope * variance points = covariance points := by
  by_cases hvar : variance points = 0
  · have hzero : covariance points = 0 := by
      apply List.sum_eq_zero
      intro product hmem
      obtain ⟨point, hpoint, rfl⟩ := List.mem_map.mp hmem
      rw [variance_eq_zero hvar point hpoint, zero_mul]
    rw [hvar, mul_zero, hzero]
  · exact div_mul_cancel₀ _ hvar

theorem fit_normal (points : List (K × K)) : (fit points).Normal points := by
  have hx := length_mul_mean (points.map Prod.fst)
  have hy := length_mul_mean (points.map Prod.snd)
  rw [List.length_map] at hx hy
  have hresidual : ∀ point : K × K, (fit points).residual point =
      (point.2 - mean (points.map Prod.snd)) - (fit points).slope * (point.1 - mean (points.map Prod.fst)) := by
    intro point
    unfold Line.residual Line.value fit
    ring
  have hsum : (points.map (fit points).residual).sum = 0 := by
    rw [funext hresidual]
    simp only [sum_map_sub, List.sum_map_mul_left, sum_map_const, hx, hy]
    ring
  constructor
  · exact hsum
  · -- the moment about the mean position is covariance - slope * variance
    have hmoment : ∀ point : K × K, (fit points).residual point * point.1 =
        ((point.1 - mean (points.map Prod.fst)) * (point.2 - mean (points.map Prod.snd)) -
          (fit points).slope * (point.1 - mean (points.map Prod.fst)) ^ 2) +
          mean (points.map Prod.fst) * (fit points).residual point := by
      intro point
      rw [hresidual]
      ring
    have hslope := slope_mul_variance points
    unfold variance covariance at hslope
    simp only [hmoment, List.sum_map_add, sum_map_sub, List.sum_map_mul_left]
    rw [hsum, hslope]
    ring

theorem fit_fits (points : List (K × K)) : (fit points).Fits points := (fit_normal points).fits

theorem fit_eq_of_normal (h : line.Normal points) {p q : K × K} (hp : p ∈ points) (hq : q ∈ points)
    (hpq : p.1 ≠ q.1) : fit points = line :=
  (fit_normal points).eq_of_fits h.fits hp hq hpq

theorem fit_shift (offset : K) {p q : K × K} (hp : p ∈ points) (hq : q ∈ points) (hpq : p.1 ≠ q.1) :
    fit (points.map (shiftPoint offset)) = (fit points).shift offset := by
  apply fit_eq_of_normal ((fit_normal points).shift offset)
    (List.mem_map_of_mem hp) (List.mem_map_of_mem hq)
  exact fun heq => hpq (add_right_cancel heq)

theorem fit_of_exact (hexact : ∀ point ∈ points, point.2 = line.value point.1) {p q : K × K} (hp : p ∈ points)
    (hq : q ∈ points) (hpq : p.1 ≠ q.1) : fit points = line :=
  fit_eq_of_normal (Line.normal_of_exact hexact) hp hq hpq

end Ordered

end CloudOps.LeastSquares
