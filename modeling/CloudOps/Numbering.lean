import Mathlib.Data.List.Perm.Basic
import Mathlib.Data.List.Range

namespace CloudOps.Numbering

-- Items that get the numbers from 1 on, in the order they come, and the number of the
-- next one.
@[ext]
structure Numbers (ι : Type*) where
  next : Nat
  number : ι → Option Nat

variable {ι : Type*}

def Numbers.issue [DecidableEq ι] (numbers : Numbers ι) (item : ι) : Numbers ι where
  next := numbers.next + 1
  number other := if other = item then some numbers.next else numbers.number other

@[simp] theorem Numbers.issue_next [DecidableEq ι] (numbers : Numbers ι) (item : ι) :
    (numbers.issue item).next = numbers.next + 1 := rfl

@[simp] theorem Numbers.issue_number_self [DecidableEq ι] (numbers : Numbers ι) (item : ι) :
    (numbers.issue item).number item = some numbers.next :=
  if_pos rfl

theorem Numbers.issue_number_of_ne [DecidableEq ι] (numbers : Numbers ι) {item other : ι} (h : other ≠ item) :
    (numbers.issue item).number other = numbers.number other :=
  if_neg h

-- Every number before the next one belongs to one item.
structure Numbers.Consecutive (numbers : Numbers ι) : Prop where
  first : 1 ≤ numbers.next
  issued : ∀ n, (∃ item, numbers.number item = some n) ↔ 1 ≤ n ∧ n < numbers.next
  once : ∀ item other n, numbers.number item = some n → numbers.number other = some n → item = other

theorem Numbers.consecutive_none : (⟨1, fun _ => none⟩ : Numbers ι).Consecutive where
  first := Nat.le_refl 1
  issued n := by
    constructor
    · rintro ⟨_, hnone⟩
      cases hnone
    · intro hn
      dsimp only at hn
      omega
  once _ _ _ h := by cases h

theorem Numbers.Consecutive.issue [DecidableEq ι] {numbers : Numbers ι} {item : ι} (h : numbers.Consecutive)
    (hnew : numbers.number item = none) : (numbers.issue item).Consecutive where
  first := Nat.le_succ_of_le h.first
  issued n := by
    have hfirst := h.first
    rw [Numbers.issue_next]
    constructor
    · rintro ⟨other, hother⟩
      by_cases hsame : other = item
      · subst hsame
        rw [Numbers.issue_number_self] at hother
        have hn := Option.some.inj hother
        omega
      · rw [numbers.issue_number_of_ne hsame] at hother
        have hn := (h.issued n).mp ⟨other, hother⟩
        omega
    · rintro ⟨hone, hn⟩
      by_cases hlast : n = numbers.next
      · exact ⟨item, by rw [Numbers.issue_number_self, hlast]⟩
      · obtain ⟨other, hother⟩ := (h.issued n).mpr ⟨hone, by omega⟩
        have hne : other ≠ item := by
          rintro rfl
          rw [hnew] at hother
          cases hother
        exact ⟨other, (numbers.issue_number_of_ne hne).trans hother⟩
  once first second n hfirst hsecond := by
    -- the number just issued belonged to nobody
    have hlast : ∀ other, numbers.number other ≠ some numbers.next := by
      intro other hother
      have hbelow := (h.issued numbers.next).mp ⟨other, hother⟩
      omega
    by_cases hfirstItem : first = item
    · subst hfirstItem
      rw [Numbers.issue_number_self] at hfirst
      by_cases hsecondItem : second = first
      · exact hsecondItem.symm
      · rw [numbers.issue_number_of_ne hsecondItem, ← hfirst] at hsecond
        exact absurd hsecond (hlast second)
    · rw [numbers.issue_number_of_ne hfirstItem] at hfirst
      by_cases hsecondItem : second = item
      · subst hsecondItem
        rw [Numbers.issue_number_self] at hsecond
        rw [← hsecond] at hfirst
        exact absurd hfirst (hlast first)
      · rw [numbers.issue_number_of_ne hsecondItem] at hsecond
        exact h.once first second n hfirst hsecond

-- The numbers of a list are pairwise distinct, and those from 1 to its length.
structure GapFree (numbers : List Nat) : Prop where
  distinct : numbers.Nodup
  exact : ∀ n, n ∈ numbers ↔ 1 ≤ n ∧ n ≤ numbers.length

-- The list of all consecutive numbers is one.
theorem Numbers.Consecutive.gapFree {numbers : Numbers ι} (h : numbers.Consecutive) {list : List Nat}
    (hnodup : list.Nodup) (hlist : ∀ n, n ∈ list ↔ ∃ item, numbers.number item = some n) : GapFree list := by
  have hrange : ∀ n, n ∈ list ↔ 1 ≤ n ∧ n < numbers.next := fun n => (hlist n).trans (h.issued n)
  have hperm : list.Perm (List.range' 1 (numbers.next - 1)) := by
    refine (List.perm_ext_iff_of_nodup hnodup List.nodup_range').mpr fun n => ?_
    have hfirst := h.first
    rw [hrange, List.mem_range'_1]
    omega
  have hlength : list.length = numbers.next - 1 := by rw [hperm.length_eq, List.length_range']
  have hfirst := h.first
  refine ⟨hnodup, fun n => ?_⟩
  rw [hrange, hlength]
  omega

end CloudOps.Numbering
