import Mathlib.Data.Nat.Basic
import Mathlib.Tactic.Common

namespace CloudOps.Episodes

-- A condition looked at after each step of a run, the steps numbered from 1; 0 is
-- the start. An episode is a maximal stretch of the first `steps` steps after each
-- of which the condition holds.
structure Episode (holds : Nat → Prop) (steps first last : Nat) : Prop where
  started : 1 ≤ first
  ordered : first ≤ last
  within : last ≤ steps
  during : ∀ k, first ≤ k → k ≤ last → holds k
  before : ¬ holds (first - 1)
  ended : last = steps ∨ ¬ holds (last + 1)

-- A step with which an episode begins.
structure Opening (holds : Nat → Prop) (steps first : Nat) : Prop where
  started : 1 ≤ first
  within : first ≤ steps
  opened : holds first
  before : ¬ holds (first - 1)

variable {holds : Nat → Prop} {steps first last : Nat}

theorem Episode.opening (h : Episode holds steps first last) : Opening holds steps first :=
  ⟨h.started, Nat.le_trans h.ordered h.within, h.during first (Nat.le_refl _) h.ordered, h.before⟩

-- An episode seen one step later: it has ended, or it goes on, or it has just begun.
theorem Episode.of_succ (h : Episode holds (steps + 1) first last) :
    Episode holds steps first last ∨
      last = steps + 1 ∧ holds (steps + 1) ∧ (first = steps + 1 ∨ Episode holds steps first steps) := by
  by_cases hl : last ≤ steps
  · refine .inl { h with within := hl, ended := ?_ }
    rcases h.ended with he | he
    · omega
    · exact .inr he
  · have hlast : last = steps + 1 := Nat.le_antisymm h.within (by omega)
    subst hlast
    refine .inr ⟨rfl, h.during _ h.ordered (Nat.le_refl _), ?_⟩
    by_cases hf : first = steps + 1
    · exact .inl hf
    · have ho := h.ordered
      exact .inr {
        started := h.started
        ordered := by omega
        within := Nat.le_refl _
        during := fun k hk hs => h.during k hk (by omega)
        before := h.before
        ended := .inl rfl }

theorem Episode.extend (h : Episode holds steps first steps) (hnext : holds (steps + 1)) :
    Episode holds (steps + 1) first (steps + 1) where
  started := h.started
  ordered := Nat.le_succ_of_le h.ordered
  within := Nat.le_refl _
  during k hk hs := by
    rcases Nat.lt_or_eq_of_le hs with hs | rfl
    · exact h.during k hk (by omega)
    · exact hnext
  before := h.before
  ended := .inl rfl

theorem Episode.single (hopened : holds (steps + 1)) (hbefore : ¬ holds steps) :
    Episode holds (steps + 1) (steps + 1) (steps + 1) where
  started := by omega
  ordered := Nat.le_refl _
  within := Nat.le_refl _
  during k hk hs := by
    obtain rfl := Nat.le_antisymm hs hk
    exact hopened
  before := by simpa using hbefore
  ended := .inl rfl

theorem opening_succ : Opening holds (steps + 1) first ↔
    Opening holds steps first ∨ first = steps + 1 ∧ holds (steps + 1) ∧ ¬ holds steps := by
  constructor
  · intro h
    by_cases hf : first = steps + 1
    · subst hf
      exact .inr ⟨rfl, h.opened, by simpa using h.before⟩
    · have hw := h.within
      exact .inl { h with within := by omega }
  · rintro (h | ⟨rfl, hopened, hbefore⟩)
    · exact { h with within := Nat.le_succ_of_le h.within }
    · exact ⟨by omega, Nat.le_refl _, hopened, by simpa using hbefore⟩

-- While the condition holds, an episode is going on.
theorem exists_current (hzero : ¬ holds 0) (hholds : holds steps) :
    ∃ first, Episode holds steps first steps := by
  induction steps with
  | zero => exact absurd hholds hzero
  | succ steps ih =>
      by_cases hs : holds steps
      · obtain ⟨first, hf⟩ := ih hs
        exact ⟨first, hf.extend hholds⟩
      · exact ⟨steps + 1, .single hholds hs⟩

theorem Opening.exists_episode (h : Opening holds steps first) :
    ∃ last, Episode holds steps first last := by
  induction steps with
  | zero => exact absurd (Nat.le_trans h.started h.within) (by omega)
  | succ steps ih =>
      rcases opening_succ.mp h with h | ⟨rfl, hopened, hbefore⟩
      · obtain ⟨last, hl⟩ := ih h
        by_cases hlast : last = steps ∧ holds (steps + 1)
        · obtain ⟨rfl, hnext⟩ := hlast
          exact ⟨last + 1, hl.extend hnext⟩
        · refine ⟨last, { hl with within := Nat.le_succ_of_le hl.within, ended := .inr ?_ }⟩
          rcases hl.ended with rfl | he
          · exact fun hn => hlast ⟨rfl, hn⟩
          · exact he
      · exact ⟨steps + 1, .single hopened hbefore⟩

theorem Episode.first_eq {other : Nat} (h : Episode holds steps first last)
    (ho : Episode holds steps other last) : first = other := by
  rcases Nat.lt_trichotomy first other with hlt | heq | hlt
  · exact absurd (h.during (other - 1) (by omega) (by have := ho.ordered; omega)) ho.before
  · exact heq
  · exact absurd (ho.during (first - 1) (by omega) (by have := h.ordered; omega)) h.before

section Congr

variable {other : Nat → Prop} (hsame : ∀ k ≤ steps, holds k ↔ other k)

include hsame

theorem Opening.congr (h : Opening holds steps first) : Opening other steps first where
  started := h.started
  within := h.within
  opened := (hsame first h.within).mp h.opened
  before := fun hb => h.before ((hsame _ (by have := h.within; omega)).mpr hb)

theorem Episode.congr (h : Episode holds steps first last) : Episode other steps first last where
  started := h.started
  ordered := h.ordered
  within := h.within
  during k hk hl := (hsame k (Nat.le_trans hl h.within)).mp (h.during k hk hl)
  before := fun hb => h.before
    ((hsame _ (by have := h.ordered; have := h.within; omega)).mpr hb)
  ended := by
    rcases Nat.lt_or_eq_of_le h.within with hl | hl
    · rcases h.ended with he | he
      · exact .inl he
      · exact .inr fun hb => he ((hsame _ hl).mpr hb)
    · exact .inl hl

end Congr

end CloudOps.Episodes
