import Mathlib.Algebra.Order.Ring.Nat
import Mathlib.Data.List.Count
import Mathlib.Data.List.Nodup
import Mathlib.Data.List.Rotate

namespace CloudOps.Turns

variable {α : Type*} [DecidableEq α] {items : List α}

-- The one after the last; the first when there was no last, or it is not among them.
def nextIndex (items : List α) (last : Option α) : Nat :=
  match last.bind fun item => items.idxOf? item with
  | none => 0
  | some lastIndex => (lastIndex + 1) % items.length

def turns (items : List α) : Nat → Option α → List (Option α)
  | 0, _ => []
  | count + 1, last =>
      let item := items[nextIndex items last]?
      item :: turns items count (item.or last)

theorem length_turns (items : List α) (count : Nat) (last : Option α) :
    (turns items count last).length = count := by
  induction count generalizing last with
  | zero => rfl
  | succ count ih => rw [turns, List.length_cons, ih]

theorem nextIndex_lt (hne : items ≠ []) (last : Option α) : nextIndex items last < items.length := by
  have hpos := List.length_pos_of_ne_nil hne
  unfold nextIndex
  split
  · exact hpos
  · exact Nat.mod_lt _ hpos

theorem nextIndex_getElem (hnodup : items.Nodup) {i : Nat} (hi : i < items.length) :
    nextIndex items (some items[i]) = (i + 1) % items.length := by
  have hindex : items.idxOf? items[i] = some i := by
    rw [List.idxOf?_eq_some_iff]
    refine ⟨hi, rfl, fun j hj heq => ?_⟩
    exact absurd ((hnodup.getElem_inj_iff).mp heq) (by omega)
  rw [nextIndex, Option.bind_some, hindex]

-- The turns go round the list from wherever they start.
theorem turns_eq (hnodup : items.Nodup) (hne : items ≠ []) (count : Nat) (last : Option α) :
    turns items count last =
      (List.range count).map fun j => items[(nextIndex items last + j) % items.length]? := by
  induction count generalizing last with
  | zero => rfl
  | succ count ih =>
      have hlt := nextIndex_lt hne last
      have hnext := nextIndex_getElem hnodup hlt
      rw [turns, List.range_succ_eq_map, List.map_cons, List.map_map, Nat.add_zero, Nat.mod_eq_of_lt hlt]
      rw [List.getElem?_eq_getElem hlt, Option.some_or, ih, hnext]
      congr 1
      apply List.map_congr_left
      intro j _
      rw [Function.comp_apply, Nat.mod_add_mod, Nat.succ_eq_add_one, Nat.add_assoc, Nat.add_comm 1 j]

omit [DecidableEq α] in
theorem range_map_rotate (items : List α) (start : Nat) :
    ((List.range items.length).map fun j => items[(start + j) % items.length]?) =
      (items.rotate start).map some := by
  apply List.ext_getElem?
  intro j
  rcases lt_or_ge j items.length with hj | hj
  · have hmod : (start + j) % items.length < items.length := Nat.mod_lt _ (by omega)
    have hrotate : j < (items.rotate start).length := by rwa [List.length_rotate]
    rw [List.getElem?_map, List.getElem?_range hj, List.getElem?_map, List.getElem?_eq_getElem hrotate,
      List.getElem_rotate, Option.map_some, Option.map_some, List.getElem?_eq_getElem hmod]
    simp only [Nat.add_comm start j]
  · rw [List.getElem?_eq_none (by simpa using hj), List.getElem?_eq_none (by simpa using hj)]

-- A round is the whole list, so each has one turn in it.
theorem count_round (hnodup : items.Nodup) {item : α} (hmem : item ∈ items) (rounds start : Nat) :
    ((List.range (rounds * items.length)).map fun j => items[(start + j) % items.length]?).count (some item) =
      rounds := by
  induction rounds with
  | zero => rw [Nat.zero_mul]; rfl
  | succ rounds ih =>
      have hlast : ((List.range items.length).map fun j =>
          items[(start + (rounds * items.length + j)) % items.length]?) = (items.rotate start).map some := by
        rw [← range_map_rotate]
        apply List.map_congr_left
        intro j _
        rw [← Nat.add_assoc, Nat.add_right_comm, Nat.add_mul_mod_self_right]
      have hone : ((items.rotate start).map some).count (some item) = 1 := by
        rw [List.count_map_of_injective _ _ (Option.some_injective α)]
        exact List.count_eq_one_of_mem (List.nodup_rotate.mpr hnodup) (List.mem_rotate.mpr hmem)
      rw [Nat.succ_mul, List.range_add, List.map_append, List.map_map, List.count_append, ih,
        Function.comp_def, hlast, hone]

theorem count_turns (hnodup : items.Nodup) {item : α} (hmem : item ∈ items) (rounds : Nat) (last : Option α) :
    (turns items (rounds * items.length) last).count (some item) = rounds := by
  rw [turns_eq hnodup (List.ne_nil_of_mem hmem), count_round hnodup hmem]

end CloudOps.Turns
