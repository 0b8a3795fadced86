import Mathlib.Algebra.Order.Field.Basic
import Mathlib.Algebra.Order.Floor.Ring
import Mathlib.Data.List.GetD
import Mathlib.Data.List.Sort
import Mathlib.Tactic.Linarith
import Mathlib.Tactic.Ring

namespace CloudOps.OrderStatistics

section Ranks

variable {α : Type*} [LinearOrder α] {sorted : List α}

theorem getElem_mono (hsorted : sorted.Pairwise (· ≤ ·)) {i j : Nat} (hij : i ≤ j) (hj : j < sorted.length) :
    sorted[i] ≤ sorted[j] := by
  rcases Nat.eq_or_lt_of_le hij with rfl | hlt
  · exact le_refl _
  · exact List.pairwise_iff_getElem.mp hsorted i j (by omega) hj hlt

-- A level that a rank reaches, every later rank reaches.
theorem sub_le_countP (hsorted : sorted.Pairwise (· ≤ ·)) {rank : Nat} (hrank : rank < sorted.length) {level : α}
    (hlevel : level ≤ sorted[rank]) : sorted.length - rank ≤ sorted.countP fun value => level ≤ value := by
  have hall : ∀ value ∈ sorted.drop rank, decide (level ≤ value) = true := by
    intro value hmem
    obtain ⟨i, hi, rfl⟩ := List.getElem_of_mem hmem
    rw [List.length_drop] at hi
    rw [List.getElem_drop]
    exact decide_eq_true (hlevel.trans (getElem_mono hsorted (Nat.le_add_right rank i) (by omega)))
  have hdrop := List.countP_eq_length.mpr hall
  rw [List.length_drop] at hdrop
  have hle := (List.drop_sublist rank sorted).countP_le (p := fun value => decide (level ≤ value))
  omega

theorem succ_le_countP (hsorted : sorted.Pairwise (· ≤ ·)) {rank : Nat} (hrank : rank < sorted.length) :
    rank + 1 ≤ sorted.countP fun value => value ≤ sorted[rank] := by
  have hall : ∀ value ∈ sorted.take (rank + 1), decide (value ≤ sorted[rank]) = true := by
    intro value hmem
    obtain ⟨i, hi, rfl⟩ := List.getElem_of_mem hmem
    rw [List.length_take] at hi
    rw [List.getElem_take]
    exact decide_eq_true (getElem_mono hsorted (by omega) hrank)
  have htake := List.countP_eq_length.mpr hall
  rw [List.length_take] at htake
  have hle := (List.take_sublist (rank + 1) sorted).countP_le (p := fun value => decide (value ≤ sorted[rank]))
  omega

theorem countP_lt_le (hsorted : sorted.Pairwise (· ≤ ·)) {rank : Nat} (hrank : rank < sorted.length) :
    sorted.countP (fun value => value < sorted[rank]) ≤ rank := by
  have hge := sub_le_countP hsorted hrank (le_refl sorted[rank])
  have hsplit := List.length_eq_countP_add_countP (fun value => decide (value < sorted[rank])) (l := sorted)
  have hnot : (sorted.countP fun value => !decide (value < sorted[rank])) =
      sorted.countP fun value => sorted[rank] ≤ value := by
    congr 1
    funext value
    rw [← decide_not, decide_eq_decide, not_lt]
  simp only [decide_eq_true_eq, ← decide_not] at hsplit hnot
  omega

theorem mergeSort_sorted (values : List α) : values.mergeSort.Pairwise (· ≤ ·) :=
  List.pairwise_mergeSort' (r := (· ≤ ·)) values

theorem mergeSort_eq_of_perm {values others : List α} (hperm : values.Perm others) :
    values.mergeSort = others.mergeSort := by
  apply List.Perm.eq_of_pairwise' (r := (· ≤ ·)) (mergeSort_sorted values) (mergeSort_sorted others)
  exact (List.mergeSort_perm values _).trans (hperm.trans (List.mergeSort_perm others _).symm)

theorem mergeSort_bounds {values : List α} (hn : 0 < values.mergeSort.length) {value : α} (hmem : value ∈ values) :
    values.mergeSort[0] ≤ value ∧ value ≤ values.mergeSort[values.mergeSort.length - 1] := by
  have hsorted := mergeSort_sorted values
  have hperm := List.mergeSort_perm values (fun a b => decide (a ≤ b))
  obtain ⟨i, hi, rfl⟩ := List.getElem_of_mem (hperm.mem_iff.mpr hmem)
  constructor
  · exact getElem_mono hsorted (Nat.zero_le i) hi
  · exact getElem_mono hsorted (by omega) (by omega)

end Ranks

section Quantiles

variable {α K : Type*} [LinearOrder α] [Field K] [LinearOrder K] [IsStrictOrderedRing K] {share : K}

-- A value that the share of the values reach up to, and that fewer fall short of.
structure IsQuantile (share : K) (values : List α) (value : α) : Prop where
  mem : value ∈ values
  reached : share * values.length ≤ values.countP fun other => other ≤ value
  notBefore : ((values.countP fun other => other < value : Nat) : K) < share * values.length

theorem IsQuantile.mono {smaller larger : K} {values : List α} {first second : α} (hle : smaller ≤ larger)
    (hfirst : IsQuantile smaller values first) (hsecond : IsQuantile larger values second) : first ≤ second := by
  by_contra hlt
  have hcount : (values.countP fun other => other ≤ second) ≤ values.countP fun other => other < first :=
    List.countP_mono_left fun other _ hother => by
      simp only [decide_eq_true_eq] at hother ⊢
      exact hother.trans_lt (not_le.mp hlt)
  have hcast : ((values.countP fun other => other ≤ second : Nat) : K) ≤
      (values.countP fun other => other < first : Nat) := Nat.cast_le.mpr hcount
  have hlen : (0 : K) ≤ values.length := Nat.cast_nonneg _
  have hshare := mul_le_mul_of_nonneg_right hle hlen
  have hreached := hsecond.reached
  have hnotBefore := hfirst.notBefore
  linarith

variable {parts : List (List α × α)} {matching : α → Bool}

omit [LinearOrder α] in
theorem le_countP_flatten (h : ∀ part ∈ parts, share * part.1.length ≤ (part.1.countP matching : Nat)) :
    share * (parts.map Prod.fst).flatten.length ≤ ((parts.map Prod.fst).flatten.countP matching : Nat) := by
  induction parts with
  | nil => simp
  | cons part rest ih =>
      obtain ⟨hpart, hrest⟩ := List.forall_mem_cons.mp h
      have htail := ih hrest
      rw [List.map_cons, List.flatten_cons, List.length_append, List.countP_append]
      push_cast
      linarith

omit [LinearOrder α] in
theorem countP_flatten_lt (hne : parts ≠ [])
    (h : ∀ part ∈ parts, ((part.1.countP matching : Nat) : K) < share * part.1.length) :
    (((parts.map Prod.fst).flatten.countP matching : Nat) : K) <
      share * (parts.map Prod.fst).flatten.length := by
  induction parts with
  | nil => exact absurd rfl hne
  | cons part rest ih =>
      obtain ⟨hpart, hrest⟩ := List.forall_mem_cons.mp h
      rw [List.map_cons, List.flatten_cons, List.length_append, List.countP_append]
      push_cast
      by_cases hnil : rest = []
      · subst hnil
        simpa using hpart
      · have htail := ih hnil hrest
        linarith

variable {whole : List α} {value : α} (hwhole : whole.Perm (parts.map Prod.fst).flatten)
  (hparts : ∀ part ∈ parts, IsQuantile share part.1 part.2) (hvalue : IsQuantile share whole value)
include hwhole hparts hvalue

-- The quantile of the whole lies between those of its parts.
theorem IsQuantile.exists_le (hne : parts ≠ []) : ∃ part ∈ parts, part.2 ≤ value := by
  by_contra hnone
  push Not at hnone
  have hfew : ∀ part ∈ parts, ((part.1.countP fun other => other ≤ value : Nat) : K) < share * part.1.length := by
    intro part hpart
    have hcount : (part.1.countP fun other => other ≤ value) ≤ part.1.countP fun other => other < part.2 :=
      List.countP_mono_left fun other _ hother => by
        simp only [decide_eq_true_eq] at hother ⊢
        exact hother.trans_lt (hnone part hpart)
    exact (Nat.cast_le.mpr hcount).trans_lt (hparts part hpart).notBefore
  have htotal := countP_flatten_lt hne hfew
  rw [← hwhole.countP_eq, ← hwhole.length_eq] at htotal
  exact absurd hvalue.reached (not_le.mpr htotal)

theorem IsQuantile.exists_ge : ∃ part ∈ parts, value ≤ part.2 := by
  by_contra hnone
  push Not at hnone
  have hmany : ∀ part ∈ parts, share * part.1.length ≤ (part.1.countP fun other => other < value : Nat) := by
    intro part hpart
    have hcount : (part.1.countP fun other => other ≤ part.2) ≤ part.1.countP fun other => other < value :=
      List.countP_mono_left fun other _ hother => by
        simp only [decide_eq_true_eq] at hother ⊢
        exact hother.trans_lt (hnone part hpart)
    exact (hparts part hpart).reached.trans (Nat.cast_le.mpr hcount)
  have htotal := le_countP_flatten hmany
  rw [← hwhole.countP_eq, ← hwhole.length_eq] at htotal
  exact absurd hvalue.notBefore (not_lt.mpr htotal)

end Quantiles

section Interpolation

variable {K : Type*} [Field K] [LinearOrder K] [IsStrictOrderedRing K]

-- Between two values, the nearer to the second the greater the weight.
def interpolate (first second weight : K) : K := first * (1 - weight) + second * weight

theorem interpolate_bounds {first second weight : K} (hle : first ≤ second) (hpos : 0 ≤ weight)
    (hone : weight ≤ 1) :
    first ≤ interpolate first second weight ∧ interpolate first second weight ≤ second := by
  have hlow := mul_nonneg hpos (sub_nonneg.mpr hle)
  have hhigh := mul_nonneg (sub_nonneg.mpr hone) (sub_nonneg.mpr hle)
  unfold interpolate
  constructor <;> linarith

end Interpolation

end CloudOps.OrderStatistics
