import Mathlib.Data.List.Nodup

namespace CloudOps.LeftJoin

variable {α β κ : Type} (on : α → β → Bool)

def matched (right : List β) (row : α) : List β := right.filter (on row)

-- What stands beside a row of the left table: null once, if nothing matches it.
def beside (right : List β) (row : α) : List (Option β) :=
  if (matched on right row).isEmpty then [none] else (matched on right row).map some

-- FROM left LEFT JOIN right ON ..
def leftJoin (left : List α) (right : List β) : List (α × Option β) :=
  left.flatMap fun row => (beside on right row).map fun other => (row, other)

variable {on} {left : List α} {right : List β} {row : α} {other : β}

theorem mem_matched : other ∈ matched on right row ↔ other ∈ right ∧ on row other = true := List.mem_filter

theorem matched_unique {first second : β} (h : (matched on right row).length ≤ 1)
    (hfirst : first ∈ matched on right row) (hsecond : second ∈ matched on right row) : first = second := by
  obtain ⟨only, honly⟩ := List.length_eq_one_iff.mp (Nat.le_antisymm h (List.length_pos_of_mem hfirst))
  rw [honly, List.mem_singleton] at hfirst hsecond
  rw [hfirst, hsecond]

theorem length_beside : (beside on right row).length = max 1 (matched on right row).length := by
  unfold beside
  cases matched on right row with
  | nil => rfl
  | cons first rest =>
      simp only [List.isEmpty_cons, Bool.false_eq_true, if_false, List.length_map, List.length_cons]
      omega

theorem some_mem_beside : some other ∈ beside on right row ↔ other ∈ matched on right row := by
  unfold beside
  cases h : matched on right row with
  | nil => simp
  | cons first rest => simp

theorem none_mem_beside : none ∈ beside on right row ↔ matched on right row = [] := by
  unfold beside
  cases h : matched on right row with
  | nil => simp
  | cons first rest => simp

theorem mem_leftJoin {found : Option β} :
    (row, found) ∈ leftJoin on left right ↔ row ∈ left ∧ found ∈ beside on right row := by
  simp [leftJoin]

-- WHERE on columns of the left table
theorem filter_leftJoin (keep : α → Bool) (left : List α) :
    (leftJoin on left right).filter (fun row => keep row.1) = leftJoin on (left.filter keep) right := by
  induction left with
  | nil => rfl
  | cons first rest ih =>
      rw [leftJoin, List.flatMap_cons, List.filter_append, List.filter_map, ← leftJoin, ih]
      by_cases hkeep : keep first = true
      · rw [List.filter_cons_of_pos hkeep, leftJoin, leftJoin, List.flatMap_cons]
        congr 2
        exact List.filter_eq_self.mpr fun _ _ => hkeep
      · rw [List.filter_cons_of_neg hkeep]
        have hnone : (beside on right first).filter ((fun row : α × Option β => keep row.1) ∘ fun other => (first, other)) =
            [] := List.filter_eq_nil_iff.mpr fun _ _ => hkeep
        rw [hnone]
        rfl

-- Each row of the left table stands in the join as often as it has matches, and once
-- without.
theorem map_leftJoin (key : α → κ) (left : List α) : (leftJoin on left right).map (fun row => key row.1) =
    left.flatMap fun row => List.replicate (max 1 (matched on right row).length) (key row) := by
  rw [leftJoin, List.map_flatMap]
  apply List.flatMap_congr
  intro row _
  rw [List.map_map, ← length_beside, ← List.map_const]
  rfl

-- No key comes twice exactly if no row has two matches.
theorem nodup_leftJoin_iff {key : α → κ} (hkeys : (left.map key).Nodup) :
    ((leftJoin on left right).map fun row => key row.1).Nodup ↔
      ∀ row ∈ left, (matched on right row).length ≤ 1 := by
  have hapart : left.Pairwise fun first second =>
      (List.replicate (max 1 (matched on right first).length) (key first)).Disjoint
        (List.replicate (max 1 (matched on right second).length) (key second)) := by
    refine (List.pairwise_map.mp hkeys).imp fun hne value hfirst hsecond => hne ?_
    rw [← List.eq_of_mem_replicate hfirst, ← List.eq_of_mem_replicate hsecond]
  rw [map_leftJoin, List.nodup_flatMap, and_iff_left hapart]
  refine forall₂_congr fun row _ => ?_
  rw [List.nodup_replicate]
  omega

end CloudOps.LeftJoin
