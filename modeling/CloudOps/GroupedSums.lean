import Mathlib.Algebra.BigOperators.Group.List.Basic
import Mathlib.Algebra.BigOperators.Ring.List
import Mathlib.Algebra.Order.BigOperators.Group.List
import Mathlib.Algebra.Order.Field.Basic
import Mathlib.Data.List.Dedup
import Mathlib.Tactic.Linarith
import Mathlib.Tactic.Ring

namespace CloudOps.GroupTotals

-- SELECT key, SUM(amount) .. GROUP BY key
variable {ι β K : Type*} [DecidableEq β] [AddCommMonoid K] (key : ι → β) (amount : ι → K)

def groups (rows : List ι) : List β := (rows.map key).dedup

def groupTotal (rows : List ι) (group : β) : K := ((rows.filter fun row => key row = group).map amount).sum

def groupTotals (rows : List ι) : List (β × K) :=
  (groups key rows).map fun group => (group, groupTotal key amount rows group)

variable {key amount} {rows : List ι} {group : β}

theorem mem_groups : group ∈ groups key rows ↔ ∃ row ∈ rows, key row = group := by
  rw [groups, List.mem_dedup, List.mem_map]

theorem nodup_groups (rows : List ι) : (groups key rows).Nodup := List.nodup_dedup _

theorem groupTotal_cons (key : ι → β) (amount : ι → K) (row : ι) (rest : List ι) (group : β) :
    groupTotal key amount (row :: rest) group =
      (if key row = group then amount row else 0) + groupTotal key amount rest group := by
  unfold groupTotal
  by_cases h : key row = group
  · simp [h]
  · simp [h]

-- A group without rows would total nothing.
theorem groupTotal_of_not_mem (h : group ∉ groups key rows) : groupTotal key amount rows group = 0 := by
  have hnone : (rows.filter fun row => key row = group) = [] := by
    rw [List.filter_eq_nil_iff]
    intro row hrow
    simpa using fun hkey => h (mem_groups.mpr ⟨row, hrow, hkey⟩)
  rw [groupTotal, hnone, List.map_nil, List.sum_nil]

theorem sum_indicator {keys : List β} (hnodup : keys.Nodup) (hmem : group ∈ keys) (value : K) :
    (keys.map fun other => if group = other then value else 0).sum = value := by
  induction keys with
  | nil => exact absurd hmem List.not_mem_nil
  | cons first rest ih =>
      obtain ⟨hfirst, hrest⟩ := List.nodup_cons.mp hnodup
      rw [List.map_cons, List.sum_cons]
      by_cases hhead : group = first
      · have hzero : (rest.map fun other => if group = other then value else 0).sum = 0 := by
          apply List.sum_eq_zero
          intro term hterm
          obtain ⟨other, hother, rfl⟩ := List.mem_map.mp hterm
          exact if_neg fun heq => hfirst (by rw [← hhead, heq]; exact hother)
        rw [if_pos hhead, hzero, add_zero]
      · rw [if_neg hhead, zero_add]
        exact ih hrest ((List.mem_cons.mp hmem).resolve_left hhead)

-- The totals of all the groups there may be add up to the total of the rows.
theorem sum_groupTotal {keys : List β} (hnodup : keys.Nodup) (hall : ∀ row ∈ rows, key row ∈ keys) :
    (keys.map (groupTotal key amount rows)).sum = (rows.map amount).sum := by
  induction rows with
  | nil =>
      apply List.sum_eq_zero
      intro total htotal
      obtain ⟨group, _, rfl⟩ := List.mem_map.mp htotal
      rfl
  | cons row rest ih =>
      obtain ⟨hrow, hrest⟩ := List.forall_mem_cons.mp hall
      have hcons := funext (groupTotal_cons key amount row rest)
      rw [hcons, List.sum_map_add, sum_indicator hnodup hrow, ih hrest, List.map_cons, List.sum_cons]

theorem sum_groupTotals (rows : List ι) :
    ((groupTotals key amount rows).map Prod.snd).sum = (rows.map amount).sum := by
  rw [groupTotals, List.map_map]
  exact sum_groupTotal (nodup_groups rows) fun row hrow => mem_groups.mpr ⟨row, hrow, rfl⟩

theorem length_groupTotals (rows : List ι) : (groupTotals key amount rows).length = (groups key rows).length :=
  List.length_map _

-- A group has one row in the answer.
theorem filter_groupTotals (rows : List ι) (group : β) :
    (groupTotals key amount rows).filter (fun answer => answer.1 = group) =
      if group ∈ groups key rows then [(group, groupTotal key amount rows group)] else [] := by
  have hfilter := List.filter_eq (l := groups key rows) group
  rw [groupTotals, List.filter_map, Function.comp_def]
  simp only [hfilter]
  by_cases hmem : group ∈ groups key rows
  · rw [List.count_eq_one_of_mem (nodup_groups rows) hmem, if_pos hmem]
    rfl
  · rw [List.count_eq_zero_of_not_mem hmem, if_neg hmem]
    rfl

end CloudOps.GroupTotals

namespace CloudOps.CappedSums

variable {K : Type*} [Field K] [LinearOrder K] {values : List K} {cap low high : K}

-- The values, each up to a cap.
def cappedSum (values : List K) (cap : K) : K := (values.map fun value => min value cap).sum

@[simp] theorem cappedSum_nil (cap : K) : cappedSum [] cap = 0 := rfl

@[simp] theorem cappedSum_cons (value : K) (rest : List K) (cap : K) :
    cappedSum (value :: rest) cap = min value cap + cappedSum rest cap := rfl

variable [IsStrictOrderedRing K]

theorem cappedSum_le_sum (values : List K) (cap : K) : cappedSum values cap ≤ values.sum := by
  induction values with
  | nil => exact le_refl 0
  | cons value rest ih =>
      have hmin := min_le_left value cap
      rw [cappedSum_cons, List.sum_cons]
      linarith

theorem cappedSum_le_length_mul (values : List K) (cap : K) : cappedSum values cap ≤ cap * values.length := by
  induction values with
  | nil => simp
  | cons value rest ih =>
      have hmin := min_le_right value cap
      rw [cappedSum_cons, List.length_cons]
      push_cast
      linarith

theorem cappedSum_mono (values : List K) (hcap : low ≤ high) : cappedSum values low ≤ cappedSum values high := by
  induction values with
  | nil => exact le_refl 0
  | cons value rest ih =>
      have hmin := min_le_min_left value hcap
      rw [cappedSum_cons, cappedSum_cons]
      linarith

theorem cappedSum_nonneg (hvalues : ∀ value ∈ values, 0 ≤ value) (hcap : 0 ≤ cap) : 0 ≤ cappedSum values cap := by
  induction values with
  | nil => exact le_refl 0
  | cons value rest ih =>
      obtain ⟨hvalue, hrest⟩ := List.forall_mem_cons.mp hvalues
      rw [cappedSum_cons]
      exact add_nonneg (le_min hvalue hcap) (ih hrest)

-- A cap of zero leaves of the values what they are below it.
theorem cappedSum_zero_nonneg_iff (values : List K) : 0 ≤ cappedSum values 0 ↔ ∀ value ∈ values, 0 ≤ value := by
  constructor
  · intro hsum
    induction values with
    | nil => exact fun _ hmem => absurd hmem List.not_mem_nil
    | cons value rest ih =>
        have hfirst := min_le_right value 0
        have hrest := cappedSum_le_length_mul rest 0
        rw [cappedSum_cons] at hsum
        rw [zero_mul] at hrest
        refine List.forall_mem_cons.mpr ⟨?_, ih (by linarith)⟩
        have hpos : 0 ≤ min value 0 := by linarith
        exact hpos.trans (min_le_left value 0)
  · exact fun hvalues => cappedSum_nonneg hvalues le_rfl

-- A higher cap takes in less for its height.
theorem min_mul_le {value : K} (hvalue : 0 ≤ value) (hlow : 0 ≤ low) (hcap : low ≤ high) :
    low * min value high ≤ high * min value low := by
  rcases le_total value low with hle | hle
  · rw [min_eq_left hle, min_eq_left (hle.trans hcap)]
    exact mul_le_mul_of_nonneg_right hcap hvalue
  · rw [min_eq_right hle, mul_comm high low]
    exact mul_le_mul_of_nonneg_left (min_le_right value high) hlow

theorem cappedSum_concave (hvalues : ∀ value ∈ values, 0 ≤ value) (hlow : 0 ≤ low) (hcap : low ≤ high) :
    low * cappedSum values high ≤ high * cappedSum values low := by
  induction values with
  | nil => simp
  | cons value rest ih =>
      obtain ⟨hvalue, hrest⟩ := List.forall_mem_cons.mp hvalues
      have hfirst := min_mul_le hvalue hlow hcap
      have hih := ih hrest
      rw [cappedSum_cons, cappedSum_cons, mul_add, mul_add]
      linarith

-- Every value that reaches the cap brings in all of it.
theorem count_mul_le_cappedSum (hvalues : ∀ value ∈ values, 0 ≤ value) (hcap : 0 ≤ cap) :
    (values.countP fun value => cap ≤ value) * cap ≤ cappedSum values cap := by
  induction values with
  | nil => simp
  | cons value rest ih =>
      obtain ⟨hvalue, hrest⟩ := List.forall_mem_cons.mp hvalues
      have hih := ih hrest
      rw [cappedSum_cons]
      by_cases hreached : cap ≤ value
      · rw [List.countP_cons_of_pos (by simpa using hreached), min_eq_right hreached]
        push_cast
        linarith
      · have hfirst := le_min hvalue hcap
        rw [List.countP_cons_of_neg (by simpa using hreached)]
        linarith

end CloudOps.CappedSums
