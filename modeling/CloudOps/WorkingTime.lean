import Mathlib.Data.Nat.Count
import Mathlib.Order.Bounds.Basic

-- Time that is counted only while something is open: windows one after another, each with the
-- time counted before it, and counting the open ones among numbered ticks.
namespace CloudOps.WorkingTime

section Windows

variable {Window : Type} (length : Window → Int) (start : Window → Prop)
  (next : Window → Window → Prop)

-- The windows in their order, each with the total length of those before it.
inductive Reached : Int → Window → Prop
  | start {window : Window} : start window → Reached 0 window
  | next {before : Int} {window window' : Window} :
      Reached before window → next window window' → Reached (before + length window) window'

-- The window in which the count gets to an amount, and how far into it that is.
def Falls (amount : Int) (window : Window) (into : Int) : Prop :=
  Reached length start next (amount - into) window ∧ 0 < into ∧ into ≤ length window

variable {length start next}

-- Counting on by one stays in the window or opens the next one.
theorem Falls.succ {amount into : Int} {window : Window}
    (h : Falls length start next amount window into) :
    Falls length start next (amount + 1) window (into + 1) ∨
      into = length window ∧ ∀ window', next window window' → 0 < length window' →
        Falls length start next (amount + 1) window' 1 := by
  obtain ⟨hreached, hpos, hle⟩ := h
  by_cases hlt : into < length window
  · refine Or.inl ⟨?_, by omega, by omega⟩
    rwa [show amount + 1 - (into + 1) = amount - into by omega]
  · have hfull : into = length window := by omega
    refine Or.inr ⟨hfull, fun window' hnext hlength => ⟨?_, by omega, by omega⟩⟩
    rw [show amount + 1 - 1 = amount - into + length window by omega]
    exact .next hreached hnext

-- Where windows never stop coming, every amount falls in one.
theorem exists_falls (hstart : ∃ window, start window ∧ 0 < length window)
    (hnext : ∀ before window, Reached length start next before window →
      ∃ window', next window window' ∧ 0 < length window') (amount : Nat) :
    ∃ window into, Falls length start next (amount + 1) window into := by
  induction amount with
  | zero =>
      obtain ⟨window, hfirst, hlength⟩ := hstart
      refine ⟨window, 1, ?_, by omega, by omega⟩
      simpa using Reached.start hfirst
  | succ amount ih =>
      obtain ⟨window, into, hfalls⟩ := ih
      obtain hsame | ⟨-, hopen⟩ := hfalls.succ
      · exact ⟨window, into + 1, by simpa using hsame⟩
      · obtain ⟨window', hopens, hlength⟩ := hnext _ _ hfalls.1
        exact ⟨window', 1, by simpa using hopen window' hopens hlength⟩

end Windows

section Counting

variable {p : Nat → Prop} [DecidablePred p]

theorem count_of_open {first last : Nat} (hle : first ≤ last)
    (hopen : ∀ tick, first ≤ tick → tick < last → p tick) :
    Nat.count p last = Nat.count p first + (last - first) := by
  obtain ⟨ticks, rfl⟩ := Nat.exists_eq_add_of_le hle
  have hall : Nat.count (fun tick => p (first + tick)) ticks = ticks :=
    Nat.count_of_forall fun tick hlt => hopen _ (by omega) (by omega)
  rw [Nat.count_add, hall, Nat.add_sub_cancel_left]

theorem count_of_closed {first last : Nat} (hle : first ≤ last)
    (hclosed : ∀ tick, first ≤ tick → tick < last → ¬ p tick) :
    Nat.count p last = Nat.count p first := by
  obtain ⟨ticks, rfl⟩ := Nat.exists_eq_add_of_le hle
  have hnone : Nat.count (fun tick => p (first + tick)) ticks = 0 :=
    Nat.count_of_forall_not fun tick hlt => hclosed _ (by omega) (by omega)
  rw [Nat.count_add, hnone, Nat.add_zero]

-- A count is reached for the first time at the end of an open tick.
theorem isLeast_count {last : Nat} (hopen : p last) :
    IsLeast {ticks | Nat.count p ticks = Nat.count p (last + 1)} (last + 1) := by
  refine ⟨rfl, fun ticks hticks => ?_⟩
  by_contra hlt
  have hle := Nat.count_monotone p (show ticks ≤ last by omega)
  have hstep : Nat.count p (last + 1) = Nat.count p last + 1 := Nat.count_succ_eq_succ_count hopen
  simp only [Set.mem_ofPred_eq] at hticks
  omega

-- It takes no longer than what is counted when all the ticks up to there are open.
theorem count_eq_iff {last : Nat} (hopen : p last) :
    Nat.count p (last + 1) = last + 1 ↔ ∀ tick < Nat.count p (last + 1), p tick := by
  constructor
  · intro hall tick hlt
    exact Nat.count_iff_forall.mp hall tick (by omega)
  · intro hall
    have hreached : Nat.count p (Nat.count p (last + 1)) = Nat.count p (last + 1) :=
      Nat.count_of_forall hall
    exact le_antisymm (Nat.count_le _) ((isLeast_count hopen).2 hreached)

end Counting

end CloudOps.WorkingTime
