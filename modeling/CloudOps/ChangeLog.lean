import Mathlib.Data.List.Basic

namespace CloudOps.ChangeLog

-- A log of one column's changes: what was replaced, and what by.
variable {α : Type*}

-- The log leads from the first value to the current one, each entry from where the
-- last one left off, and each to another value.
def Replays : α → List (α × α) → α → Prop
  | first, [], current => first = current
  | first, (old, new) :: rest, current => old = first ∧ old ≠ new ∧ Replays new rest current

-- What a writer that logs changes only appends.
def entry [DecidableEq α] (old new : α) : List (α × α) := if old = new then [] else [(old, new)]

theorem replays_append {first current : α} {log later : List (α × α)} :
    Replays first (log ++ later) current ↔
      ∃ middle, Replays first log middle ∧ Replays middle later current := by
  induction log generalizing first with
  | nil => simp [Replays]
  | cons change rest ih =>
      obtain ⟨old, new⟩ := change
      simp only [List.cons_append, Replays, ih]
      constructor
      · rintro ⟨hold, hne, middle, hrest, hlater⟩
        exact ⟨middle, ⟨hold, hne, hrest⟩, hlater⟩
      · rintro ⟨middle, ⟨hold, hne, hrest⟩, hlater⟩
        exact ⟨hold, hne, middle, hrest, hlater⟩

-- The first value and the log determine the current one.
theorem Replays.unique {first current other : α} {log : List (α × α)} (h : Replays first log current)
    (hother : Replays first log other) : current = other := by
  induction log generalizing first with
  | nil => exact h.symm.trans hother
  | cons change rest ih => exact ih h.2.2 hother.2.2

theorem replays_entry [DecidableEq α] (old new : α) : Replays old (entry old new) new := by
  unfold entry
  split
  · rename_i hsame
    exact hsame
  · rename_i hne
    exact ⟨rfl, hne, rfl⟩

theorem Replays.append_entry [DecidableEq α] {first current : α} {log : List (α × α)}
    (h : Replays first log current) (new : α) : Replays first (log ++ entry current new) new :=
  replays_append.mpr ⟨current, h, replays_entry current new⟩

end CloudOps.ChangeLog
