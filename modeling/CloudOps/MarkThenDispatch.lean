import CloudOps.Runs
import Mathlib.Data.List.Nodup
import Mathlib.Tactic.Common

namespace CloudOps.MarkThenDispatch

section Loop

variable {α : Type*}

-- What a loop attempts that its first failure ends.
def attempts (fails : α → Bool) : List α → List α
  | [] => []
  | item :: rest => item :: if fails item then [] else attempts fails rest

theorem attempts_subset (fails : α → Bool) (items : List α) : attempts fails items ⊆ items := by
  induction items with
  | nil => exact List.Subset.refl _
  | cons item rest ih =>
      unfold attempts
      split
      · simp
      · exact List.cons_subset_cons _ ih

-- The loop reaches every item exactly when none but the last fails.
theorem attempts_all_iff {fails : α → Bool} {items : List α} (hnodup : items.Nodup) :
    (∀ item ∈ items, item ∈ attempts fails items) ↔ ∀ item ∈ items.dropLast, fails item = false := by
  induction items with
  | nil => simp
  | cons item rest ih =>
      obtain ⟨hitem, hrest⟩ := List.nodup_cons.mp hnodup
      by_cases hempty : rest = []
      · subst hempty
        simp [attempts]
      · rw [List.dropLast_cons_of_ne_nil hempty]
        unfold attempts
        by_cases hfails : fails item = true
        · rw [if_pos hfails]
          constructor
          · intro h
            obtain ⟨second, hsecond⟩ := List.exists_mem_of_ne_nil rest hempty
            have hfirst := List.mem_singleton.mp (h second (List.mem_cons_of_mem _ hsecond))
            exact absurd (hfirst ▸ hsecond) hitem
          · intro h
            have hfalse := h item List.mem_cons_self
            simp [hfails] at hfalse
        · rw [if_neg hfails, List.forall_mem_cons, List.forall_mem_cons, ← ih hrest]
          constructor
          · rintro ⟨-, h⟩
            refine ⟨by simpa using hfails, fun other hother => ?_⟩
            rcases List.mem_cons.mp (h other hother) with rfl | hmem
            · exact absurd hother hitem
            · exact hmem
          · rintro ⟨-, h⟩
            exact ⟨List.mem_cons_self, fun other hother => List.mem_cons_of_mem _ (h other hother)⟩

end Loop

variable {σ ι κ α : Type*}

-- A system in which an event marks the work it finds and then attempts it in turn,
-- up to the first failure. Work that is marked is not found again.
structure Marking (step : σ → ι → σ) (κ α : Type*) where
  inv : σ → Prop
  marked : σ → κ → Prop
  attempted : σ → κ → Prop
  found : σ → ι → List α
  keyOf : α → κ
  fails : ι → α → Bool
  keep : ∀ state event, inv state → inv (step state event)
  marks : ∀ state event, inv state → ∀ key,
    marked (step state event) key ↔ marked state key ∨ ∃ item ∈ found state event, keyOf item = key
  tries : ∀ state event, inv state → ∀ key, attempted (step state event) key ↔
    attempted state key ∨ ∃ item ∈ attempts (fails event) (found state event), keyOf item = key
  new : ∀ state event, inv state → ∀ item ∈ found state event, ¬ marked state (keyOf item)
  distinct : ∀ state event, inv state → ((found state event).map keyOf).Nodup

namespace Marking

variable {step : σ → ι → σ} (M : Marking step κ α)

-- What is marked has been attempted, or some later event will attempt it.
def NothingLost (state : σ) : Prop :=
  ∀ key, M.marked state key → ∃ later, M.attempted (Runs.run step state later) key

-- Of what the event finds, none but the last fails.
def FailsLast (state : σ) (event : ι) : Prop :=
  ∀ item ∈ (M.found state event).dropLast, M.fails event item = false

instance (state : σ) : DecidablePred (M.FailsLast state) := fun event =>
  inferInstanceAs (Decidable (∀ item ∈ (M.found state event).dropLast, M.fails event item = false))

-- Nothing is attempted that is not marked.
structure Sound (state : σ) : Prop where
  inv : M.inv state
  attempted : ∀ key, M.attempted state key → M.marked state key

theorem Sound.next {state : σ} (h : M.Sound state) (event : ι) : M.Sound (step state event) := by
  refine ⟨M.keep state event h.inv, fun key hattempted => ?_⟩
  apply (M.marks state event h.inv key).mpr
  rcases (M.tries state event h.inv key).mp hattempted with hbefore | ⟨item, hitem, hkey⟩
  · exact .inl (h.attempted key hbefore)
  · exact .inr ⟨item, attempts_subset _ _ hitem, hkey⟩

-- What is marked and was not attempted by then never is.
theorem attempted_of_run {state : σ} {key : κ} (later : List ι) (h : M.Sound state)
    (hmarked : M.marked state key) (hattempted : M.attempted (Runs.run step state later) key) :
    M.attempted state key := by
  induction later generalizing state with
  | nil => exact hattempted
  | cons event rest ih =>
      have hstays := (M.marks state event h.inv key).mpr (.inl hmarked)
      have hafter := ih (h.next M event) hstays hattempted
      rcases (M.tries state event h.inv key).mp hafter with hbefore | ⟨item, hitem, rfl⟩
      · exact hbefore
      · exact absurd hmarked (M.new state event h.inv item (attempts_subset _ _ hitem))

-- An event attempts all that it marks exactly if at most its last attempt fails.
theorem failsLast_iff {state : σ} (h : M.Sound state) (event : ι) :
    M.FailsLast state event ↔ ∀ key, M.marked (step state event) key →
      M.marked state key ∨ M.attempted (step state event) key := by
  have hdistinct := M.distinct state event h.inv
  rw [FailsLast, ← attempts_all_iff hdistinct.of_map]
  constructor
  · intro hall key hmarked
    rcases (M.marks state event h.inv key).mp hmarked with hbefore | ⟨item, hitem, hkey⟩
    · exact .inl hbefore
    · exact .inr ((M.tries state event h.inv key).mpr (.inr ⟨item, hall item hitem, hkey⟩))
  · intro htried item hitem
    have hnew := M.new state event h.inv item hitem
    have hmarked := (M.marks state event h.inv _).mpr (.inr ⟨item, hitem, rfl⟩)
    rcases htried _ hmarked with hbefore | hattempted
    · exact absurd hbefore hnew
    · rcases (M.tries state event h.inv _).mp hattempted with hbefore | ⟨other, hother, hkey⟩
      · exact absurd (h.attempted _ hbefore) hnew
      · rw [← List.inj_on_of_nodup_map hdistinct (attempts_subset _ _ hother) hitem hkey]
        exact hother

-- So far all that is marked has been attempted.
structure Settled (state : σ) : Prop extends M.Sound state where
  tried : ∀ key, M.marked state key → M.attempted state key

theorem nothingLost_iff {start : σ} (events : List ι) (hstart : M.Settled start) :
    Runs.Always step M.NothingLost start events ↔ Runs.AllSteps step M.FailsLast start events := by
  apply Runs.always_iff_allSteps events hstart
  · exact fun state h key hmarked => ⟨[], h.tried key hmarked⟩
  · intro state event h hfails
    refine ⟨h.toSound.next M event, fun key hmarked => ?_⟩
    rcases (M.failsLast_iff h.toSound event).mp hfails key hmarked with hbefore | hafter
    · exact (M.tries state event h.inv key).mpr (.inl (h.tried key hbefore))
    · exact hafter
  · intro state event h hlost
    apply (M.failsLast_iff h.toSound event).mpr
    intro key hmarked
    obtain ⟨later, hlater⟩ := hlost key hmarked
    exact .inr (M.attempted_of_run later (h.toSound.next M event) hmarked hlater)

end Marking

end CloudOps.MarkThenDispatch
