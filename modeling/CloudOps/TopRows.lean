import CloudOps.ReadCommitted.Table
import Mathlib.Data.Prod.Lex

namespace CloudOps.TopRows

open CloudOps.ReadCommitted (ScanOrder pairwise_ascending pairwise_descending)

variable {α β : Type} [LinearOrder β] (column : α → β) (limit : Nat)

-- ORDER BY column DESC LIMIT ..: rows of one value come in any order.
def topRows (order : ScanOrder α) (rows : List α) : List α :=
  ((order.apply rows).insertionSort fun first second => column second ≤ column first).take limit

-- As many of the rows as there may be, none of them worse than one that is left out.
def BestOf (worse : α → α → Prop) (rows taken : List α) : Prop :=
  ∃ others, (taken ++ others).Perm rows ∧ taken.length = min limit rows.length ∧
    ∀ row ∈ taken, ∀ other ∈ others, ¬ worse row other

-- The first row can be taken and the second left out.
def Splits (rows : List α) (first second : α) : Prop :=
  column second ≤ column first ∧ (rows.countP fun row => column first < column row) < limit ∧
    limit < rows.countP fun row => column second ≤ column row

instance (rows : List α) (first second : α) : Decidable (Splits column limit rows first second) :=
  inferInstanceAs (Decidable (_ ∧ _ ∧ _))

variable {column limit} {rows sorted : List α} {first second : α}

theorem splits_of_perm (h : sorted.Perm rows) :
    Splits column limit sorted first second ↔ Splits column limit rows first second := by
  unfold Splits
  rw [h.countP_eq, h.countP_eq]

theorem splits_map {γ : Type} (read : γ → α) {items : List γ} {item other : γ} :
    Splits column limit (items.map read) (read item) (read other) ↔
      Splits (fun item => column (read item)) limit items item other := by
  unfold Splits
  rw [List.countP_map, List.countP_map]
  rfl

-- Of sorted rows, those above a taken one are taken, and so is less than one row more.
theorem splits_of_take (hsorted : sorted.Pairwise fun first second => column second ≤ column first)
    (hfirst : first ∈ sorted.take limit) (hsecond : second ∈ sorted.drop limit) :
    Splits column limit sorted first second := by
  rw [← List.take_append_drop limit sorted] at hsorted
  obtain ⟨htake, hdrop, happart⟩ := List.pairwise_append.mp hsorted
  have hle := happart first hfirst second hsecond
  have hlength : (sorted.take limit).length = limit := by
    have hpos := List.length_pos_of_mem hsecond
    rw [List.length_drop] at hpos
    rw [List.length_take]
    omega
  refine ⟨hle, ?_, ?_⟩
  · rw [← List.take_append_drop limit sorted, List.countP_append]
    have hnone : ((sorted.drop limit).countP fun row => column first < column row) = 0 := by
      rw [List.countP_eq_zero]
      intro row hrow
      simpa using happart first hfirst row hrow
    rw [hnone, Nat.add_zero]
    have hsplit := List.length_eq_countP_add_countP (fun row => decide (column first < column row))
      (l := sorted.take limit)
    have hself := List.countP_pos_iff (p := fun row => decide ¬ decide (column first < column row) = true)
      (l := sorted.take limit) |>.mpr ⟨first, hfirst, by simp⟩
    omega
  · rw [← List.take_append_drop limit sorted, List.countP_append]
    have hall : ((sorted.take limit).countP fun row => column second ≤ column row) = limit := by
      refine (List.countP_eq_length.mpr ?_).trans hlength
      intro row hrow
      simpa using happart row hrow second hsecond
    have hself := List.countP_pos_iff (p := fun row => decide (column second ≤ column row))
      (l := sorted.drop limit) |>.mpr ⟨second, hsecond, by simp⟩
    rw [hall]
    omega

-- A row is taken if there are fewer than may be above it, all of them if it is left out,
theorem mem_take_of_countP (hmem : first ∈ sorted) (hfew : (sorted.countP fun row => column first < column row) < limit)
    (habove : first ∈ sorted.drop limit → ∀ row ∈ sorted.take limit, column first < column row) :
    first ∈ sorted.take limit := by
  rw [← List.take_append_drop limit sorted, List.mem_append] at hmem
  refine hmem.resolve_right fun hdrop => ?_
  have hall : ((sorted.take limit).countP fun row => column first < column row) = (sorted.take limit).length :=
    List.countP_eq_length.mpr fun row hrow => decide_eq_true (habove hdrop row hrow)
  have hpos := List.length_pos_of_mem hdrop
  rw [List.length_drop] at hpos
  rw [← List.take_append_drop limit sorted, List.countP_append, hall, List.length_take] at hfew
  omega

-- and is left out if there are more that are not below it, none of them left out if it is taken.
theorem mem_drop_of_countP (hmem : second ∈ sorted)
    (hmany : limit < sorted.countP fun row => column second ≤ column row)
    (hbelow : second ∈ sorted.take limit → ∀ row ∈ sorted.drop limit, column row < column second) :
    second ∈ sorted.drop limit := by
  rw [← List.take_append_drop limit sorted, List.mem_append] at hmem
  refine hmem.resolve_left fun htake => ?_
  have hnone : ((sorted.drop limit).countP fun row => column second ≤ column row) = 0 := by
    rw [List.countP_eq_zero]
    intro row hrow
    rw [decide_eq_true_eq, not_le]
    exact hbelow htake row hrow
  have hle := (sorted.take limit).countP_le_length (p := fun row => decide (column second ≤ column row))
  rw [← List.take_append_drop limit sorted, List.countP_append, hnone] at hmany
  rw [List.length_take] at hle
  omega

-- Sorted with the one first and the other last among their equals, only the one is taken.
theorem take_of_splits [DecidableEq α] (hnodup : rows.Nodup) (hne : first ≠ second) (hfirst : first ∈ rows)
    (hsecond : second ∈ rows) (h : Splits column limit rows first second) :
    ∃ sorted : List α, sorted.Perm rows ∧ (sorted.Pairwise fun first second => column second ≤ column first) ∧
      first ∈ sorted.take limit ∧ second ∈ sorted.drop limit := by
  let tie := fun row => if row = first then 2 else if row = second then 0 else 1
  let key := fun row => toLex (column row, tie row)
  let sorted := rows.insertionSort fun first second => key second ≤ key first
  have hperm : sorted.Perm rows := List.perm_insertionSort _ _
  have hsorted : sorted.Pairwise fun first second => key second ≤ key first := pairwise_descending key rows
  have hcolumn : ∀ row other, key row ≤ key other → column row ≤ column other := by
    intro row other hle
    rcases Prod.Lex.toLex_le_toLex.mp hle with hlt | ⟨heq, -⟩
    · exact hlt.le
    · exact heq.le
  have hnodup' := hperm.nodup_iff.mpr hnodup
  have happart := hsorted
  rw [← List.take_append_drop limit sorted] at hnodup' happart
  obtain ⟨-, -, hdisjoint⟩ := List.nodup_append'.mp hnodup'
  replace happart := (List.pairwise_append.mp happart).2.2
  obtain ⟨-, hfew, hmany⟩ := (splits_of_perm hperm).mpr h
  refine ⟨sorted, hperm, hsorted.imp fun hle => hcolumn _ _ hle, ?_, ?_⟩
  · refine mem_take_of_countP (hperm.mem_iff.mpr hfirst) hfew fun hdrop row hrow => ?_
    have hother : row ≠ first := fun heq => hdisjoint (heq ▸ hrow) hdrop
    rcases Prod.Lex.toLex_le_toLex.mp (happart row hrow first hdrop) with hlt | ⟨-, hle⟩
    · exact hlt
    · simp only [tie, if_neg hother, if_true] at hle
      split_ifs at hle <;> omega
  · refine mem_drop_of_countP (hperm.mem_iff.mpr hsecond) hmany fun htake row hrow => ?_
    have hother : row ≠ second := fun heq => hdisjoint htake (heq ▸ hrow)
    rcases Prod.Lex.toLex_le_toLex.mp (happart second htake row hrow) with hlt | ⟨-, hle⟩
    · exact hlt
    · simp only [tie, if_neg hother, if_neg hne.symm, if_true] at hle
      split_ifs at hle <;> omega

-- Whichever rows the database takes, they are the best exactly if no worse row can be taken
-- before a better one.
theorem bestOf_iff [DecidableEq α] {worse : α → α → Prop} (hirrefl : ∀ row, ¬ worse row row) (hnodup : rows.Nodup) :
    (∀ order, BestOf limit worse rows (topRows column limit order rows)) ↔
      ∀ first ∈ rows, ∀ second ∈ rows, worse first second → ¬ Splits column limit rows first second := by
  constructor
  · intro h first hfirst second hsecond hworse hsplits
    have hne : first ≠ second := fun heq => hirrefl second (heq ▸ hworse)
    obtain ⟨sorted, hperm, hsorted, htake, hdrop⟩ := take_of_splits hnodup hne hfirst hsecond hsplits
    let order : ScanOrder α :=
      { apply := fun list => if sorted.Perm list then sorted else list
        perm := fun list => by
          split_ifs with hlist
          · exact hlist
          · exact List.Perm.refl list }
    have htop : topRows column limit order rows = sorted.take limit := by
      have happly : order.apply rows = sorted := if_pos hperm
      rw [topRows, happly, hsorted.insertionSort_eq]
    obtain ⟨others, hothers, -, hbest⟩ := h order
    rw [htop] at hothers hbest
    have hnotTaken : second ∉ sorted.take limit := by
      have hnodup' := hperm.nodup_iff.mpr hnodup
      rw [← List.take_append_drop limit sorted] at hnodup'
      exact fun htaken => (List.nodup_append'.mp hnodup').2.2 htaken hdrop
    have hleft := (List.mem_append.mp (hothers.mem_iff.mpr hsecond)).resolve_left hnotTaken
    exact hbest first htake second hleft hworse
  · intro h order
    let sorted := (order.apply rows).insertionSort fun first second => column second ≤ column first
    have hsorted : sorted.Pairwise fun first second => column second ≤ column first :=
      pairwise_descending column (order.apply rows)
    have hperm : sorted.Perm rows := (List.perm_insertionSort _ _).trans (order.perm rows)
    have htop : topRows column limit order rows = sorted.take limit := rfl
    rw [htop]
    refine ⟨sorted.drop limit, ?_, ?_, ?_⟩
    · rw [List.take_append_drop]
      exact hperm
    · rw [List.length_take, hperm.length_eq]
    · intro row hrow other hother hworse
      have hrow' := hperm.mem_iff.mp (List.mem_of_mem_take hrow)
      have hother' := hperm.mem_iff.mp (List.mem_of_mem_drop hother)
      exact h row hrow' other hother' hworse ((splits_of_perm hperm).mp (splits_of_take hsorted hrow hother))

theorem bestOf_of_perm {worse : α → α → Prop} {others taken : List α} (h : others.Perm rows) :
    BestOf limit worse others taken ↔ BestOf limit worse rows taken := by
  unfold BestOf
  rw [h.length_eq]
  exact exists_congr fun left => and_congr_left' ⟨fun hperm => hperm.trans h, fun hperm => hperm.trans h.symm⟩

section Ordered

variable (column : α → β)

-- Rows of strictly ascending values are what sorting any arrangement of them gives.
theorem insertionSort_ascending {rows sorted : List α} (hperm : rows.Perm sorted)
    (hsorted : sorted.Pairwise fun first second => column first < column second) :
    (rows.insertionSort fun first second => column first ≤ column second) = sorted := by
  have hsame := (List.perm_insertionSort (fun first second => column first ≤ column second) rows).trans hperm
  refine hsame.eq_of_pairwise ?_ (pairwise_ascending column rows) (hsorted.imp le_of_lt)
  intro first second hfirst hsecond hle hge
  have : Std.Symm fun first second => column first ≠ column second := ⟨fun _ _ hne => hne.symm⟩
  by_contra hne
  exact (hsorted.imp fun hlt => hlt.ne).forall (hsame.mem_iff.mp hfirst) hsecond hne (le_antisymm hle hge)

-- The newest rows, put back in their order.
theorem insertionSort_newest {rows : List α} (hrows : rows.Pairwise fun first second => column first < column second)
    (limit : Nat) :
    ((rows.insertionSort fun first second => column second ≤ column first).take limit).insertionSort
        (fun first second => column first ≤ column second) = rows.drop (rows.length - limit) := by
  have hdescending : (rows.insertionSort fun first second => column second ≤ column first) = rows.reverse :=
    insertionSort_ascending (fun row => OrderDual.toDual (column row)) (List.reverse_perm rows).symm
      (List.pairwise_reverse.mpr hrows)
  rw [hdescending, List.take_reverse]
  exact insertionSort_ascending column (List.reverse_perm _) (hrows.sublist (List.drop_sublist _ _))

end Ordered

end CloudOps.TopRows
