import Mathlib.Logic.Function.Basic
import Mathlib.Tactic.Common

namespace CloudOps.Pointers

-- Each element may point to another one; the pointer is null where `next` is none.
variable {α : Type*} {next : α → Option α} {start finish source target : α}

def follow (next : α → Option α) : Nat → α → Option α
  | 0, start => some start
  | hops + 1, start => (next start).bind (follow next hops)

theorem follow_succ (next : α → Option α) (hops : Nat) (start : α) :
    follow next (hops + 1) start = (next start).bind (follow next hops) := rfl

-- From `start` the pointers lead, after finitely many hops, to `finish`, whose own
-- pointer is null.
def EndsAt (next : α → Option α) (start finish : α) : Prop :=
  ∃ hops, follow next hops start = some finish ∧ next finish = none

def Terminates (next : α → Option α) (start : α) : Prop := ∃ finish, EndsAt next start finish

theorem EndsAt.null (hnull : next start = none) : EndsAt next start start := ⟨0, rfl, hnull⟩

theorem EndsAt.hop (hnext : next start = some target) (h : EndsAt next target finish) :
    EndsAt next start finish := by
  obtain ⟨hops, hfollow, hnull⟩ := h
  exact ⟨hops + 1, by simp [follow_succ, hnext, hfollow], hnull⟩

-- Induction along the chain, from its end back to the start.
theorem EndsAt.induct {motive : α → Prop} (h : EndsAt next start finish)
    (hend : next finish = none → motive finish)
    (hhop : ∀ first second, next first = some second → EndsAt next second finish →
      motive second → motive first) : motive start := by
  obtain ⟨hops, hfollow, hnull⟩ := h
  induction hops generalizing start with
  | zero =>
      obtain rfl := Option.some.inj hfollow
      exact hend hnull
  | succ hops ih =>
      obtain ⟨second, hnext, hrest⟩ := Option.bind_eq_some_iff.mp hfollow
      exact hhop start second hnext ⟨hops, hrest, hnull⟩ (ih hrest)

theorem EndsAt.unique {other : α} (h : EndsAt next start finish) (hother : EndsAt next start other) :
    finish = other := by
  apply h.induct (motive := fun element => EndsAt next element other → finish = other) _ _ hother
  · intro hnull ho
    obtain ⟨hops, hfollow, -⟩ := ho
    cases hops with
    | zero => exact Option.some.inj hfollow
    | succ hops => simp [follow_succ, hnull] at hfollow
  · intro first second hnext _ ih ho
    apply ih
    obtain ⟨hops, hfollow, hend⟩ := ho
    cases hops with
    | zero =>
        obtain rfl := Option.some.inj hfollow
        simp [hnext] at hend
    | succ hops => exact ⟨hops, by simpa [follow_succ, hnext] using hfollow, hend⟩

-- Where every element of a set points back into it, no chain in it ends.
theorem not_terminates_of_closed (closed : α → Prop)
    (hclosed : ∀ element, closed element → ∃ second, next element = some second ∧ closed second)
    (hstart : closed start) : ¬ Terminates next start := by
  rintro ⟨finish, h⟩
  apply h.induct (motive := fun element => ¬ closed element) _ _ hstart
  · intro hnull hc
    obtain ⟨second, hnext, -⟩ := hclosed finish hc
    simp [hnull] at hnext
  · intro first second hnext _ ih hc
    obtain ⟨other, hother, hc⟩ := hclosed first hc
    obtain rfl := Option.some.inj (hnext.symm.trans hother)
    exact ih hc

section Point

variable [DecidableEq α]

-- The pointers after a null one is set.
def point (next : α → Option α) (source target : α) : α → Option α :=
  Function.update next source (some target)

theorem point_of_ne {element : α} (h : element ≠ source) :
    point next source target element = next element := Function.update_of_ne h _ _

@[simp] theorem point_self : point next source target source = some target :=
  Function.update_self _ _ _

-- A chain that does not end at the source never passed through it.
theorem EndsAt.point_of_ne (hnull : next source = none) (h : EndsAt next start finish)
    (hne : finish ≠ source) : EndsAt (point next source target) start finish := by
  apply h.induct (motive := fun element => EndsAt (point next source target) element finish)
  · intro hend
    exact .null ((Pointers.point_of_ne hne).trans hend)
  · intro first second hnext _ ih
    refine EndsAt.hop ?_ ih
    rw [Pointers.point_of_ne, hnext]
    rintro rfl
    simp [hnull] at hnext

-- A chain that ended at the source now runs on to where the target's chain ends.
theorem EndsAt.point_of_eq (hnull : next source = none) (htarget : EndsAt next target finish)
    (hne : finish ≠ source) (h : EndsAt next start source) :
    EndsAt (point next source target) start finish := by
  have hsource : EndsAt (point next source target) source finish :=
    .hop point_self (htarget.point_of_ne hnull hne)
  apply h.induct (motive := fun element => EndsAt (point next source target) element finish)
  · intro _
    exact hsource
  · intro first second hnext _ ih
    refine EndsAt.hop ?_ ih
    rw [Pointers.point_of_ne, hnext]
    rintro rfl
    simp [hnull] at hnext

theorem terminates_point (hnull : next source = none) (htarget : EndsAt next target finish)
    (hne : finish ≠ source) (h : ∀ element, Terminates next element) (element : α) :
    Terminates (point next source target) element := by
  obtain ⟨last, hlast⟩ := h element
  by_cases hsource : last = source
  · rw [hsource] at hlast
    exact ⟨finish, EndsAt.point_of_eq hnull htarget hne hlast⟩
  · exact ⟨last, hlast.point_of_ne hnull hsource⟩

-- Pointing the last element of the target's own chain back at the target closes a
-- cycle.
theorem not_terminates_point (hnull : next source = none) (htarget : EndsAt next target source) :
    ¬ Terminates (point next source target) source := by
  apply not_terminates_of_closed fun element => EndsAt next element source
  · intro element h
    by_cases hsame : element = source
    · subst hsame
      exact ⟨target, point_self, htarget⟩
    · apply h.induct (motive := fun first => first ≠ source → ∃ second,
        point next source target first = some second ∧ EndsAt next second source) _ _ hsame
      · intro _ hne
        exact absurd rfl hne
      · intro first second hnext hrest _ hne
        exact ⟨second, (Pointers.point_of_ne hne).trans hnext, hrest⟩
  · exact .null hnull

-- No later pointer set from a null one opens a cycle again.
theorem not_terminates_point_of_not (hnull : next source = none) (h : ¬ Terminates next start) :
    ¬ Terminates (point next source target) start := by
  refine not_terminates_of_closed (fun element => ¬ Terminates next element) ?_ h
  intro element helement
  have hne : element ≠ source := by
    rintro rfl
    exact helement ⟨element, .null hnull⟩
  cases hnext : next element with
  | none => exact absurd ⟨element, .null hnext⟩ helement
  | some second =>
      refine ⟨second, (Pointers.point_of_ne hne).trans hnext, ?_⟩
      rintro ⟨last, hlast⟩
      exact helement ⟨last, .hop hnext hlast⟩

-- Each source in turn is pointed at the target, unless it already points somewhere.
def pointAll (target : α) : List α → (α → Option α) → α → Option α
  | [], next => next
  | source :: rest, next =>
      pointAll target rest (if next source = none then point next source target else next)

theorem pointAll_cons (target source : α) (rest : List α) (next : α → Option α) :
    pointAll target (source :: rest) next
      = pointAll target rest (if next source = none then point next source target else next) := rfl

-- Every pointer is an old one or leads to the target.
theorem pointAll_eq_some {element second : α} (sources : List α)
    (h : pointAll target sources next element = some second) :
    next element = some second ∨ second = target := by
  induction sources generalizing next with
  | nil => exact .inl h
  | cons source rest ih =>
      rw [pointAll_cons] at h
      by_cases hnull : next source = none
      · rw [if_pos hnull] at h
        rcases ih h with hpoint | htarget
        · by_cases hsame : element = source
          · subst hsame
            rw [point_self] at hpoint
            exact .inr (Option.some.inj hpoint).symm
          · rw [Pointers.point_of_ne hsame] at hpoint
            exact .inl hpoint
        · exact .inr htarget
      · rw [if_neg hnull] at h
        exact ih h

-- The elements left null are those that were, but for the sources.
theorem pointAll_eq_none_iff {element : α} (sources : List α) :
    pointAll target sources next element = none ↔ next element = none ∧ element ∉ sources := by
  induction sources generalizing next with
  | nil => simp [pointAll]
  | cons source rest ih =>
      rw [pointAll_cons, ih]
      by_cases hsame : element = source
      · subst hsame
        by_cases hnull : next element = none
        · simp [hnull]
        · simp [hnull]
      · by_cases hnull : next source = none
        · simp [hnull, hsame, Pointers.point_of_ne hsame]
        · simp [hnull, hsame]

theorem not_terminates_pointAll (sources : List α) (h : ¬ Terminates next start) :
    ¬ Terminates (pointAll target sources next) start := by
  induction sources generalizing next with
  | nil => exact h
  | cons source rest ih =>
      rw [pointAll_cons]
      by_cases hnull : next source = none
      · rw [if_pos hnull]
        exact ih (not_terminates_point_of_not hnull h)
      · rw [if_neg hnull]
        exact ih h

theorem terminates_pointAll (sources : List α) (htarget : EndsAt next target finish)
    (hfinish : finish ∉ sources) (h : ∀ element, Terminates next element) (element : α) :
    Terminates (pointAll target sources next) element := by
  induction sources generalizing next with
  | nil => exact h element
  | cons source rest ih =>
      obtain ⟨hne, hrest⟩ := List.ne_and_not_mem_of_not_mem_cons hfinish
      rw [pointAll_cons]
      by_cases hnull : next source = none
      · rw [if_pos hnull]
        exact ih (htarget.point_of_ne hnull hne) hrest (terminates_point hnull htarget hne h)
      · rw [if_neg hnull]
        exact ih htarget hrest h

theorem exists_not_terminates_pointAll (sources : List α) (htarget : EndsAt next target finish)
    (hfinish : finish ∈ sources) : ¬ Terminates (pointAll target sources next) finish := by
  induction sources generalizing next with
  | nil => simp at hfinish
  | cons source rest ih =>
      have hend : next finish = none := htarget.choose_spec.2
      rw [pointAll_cons]
      by_cases hsame : source = finish
      · subst hsame
        rw [if_pos hend]
        exact not_terminates_pointAll rest (not_terminates_point hend htarget)
      · have hmem : finish ∈ rest := by
          rcases List.mem_cons.mp hfinish with hm | hm
          · exact absurd hm.symm hsame
          · exact hm
        by_cases hnull : next source = none
        · rw [if_pos hnull]
          exact ih (htarget.point_of_ne hnull (Ne.symm hsame)) hmem
        · rw [if_neg hnull]
          exact ih htarget hmem

end Point

end CloudOps.Pointers
