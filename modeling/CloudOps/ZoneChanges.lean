import CloudOps.WallClock
import Mathlib.Algebra.Order.Group.Abs
import Mathlib.Algebra.Order.Ring.Int
import Mathlib.Data.Int.Init
import Mathlib.Tactic.SplitIfs

-- Values along the integers that change at some points and stay as they are in between.
namespace CloudOps.StepFunctions

variable {α : Type} {value : Int → α}

def ChangesAt (value : Int → α) (point : Int) : Prop := value (point - 1) ≠ value point

-- The changes are at least `gap` apart.
def Spaced (value : Int → α) (gap : Int) : Prop :=
  ∀ point later, ChangesAt value point → ChangesAt value later → point < later → point + gap ≤ later

-- A stretch has one change at most.
def OnceIn (value : Int → α) (first last : Int) : Prop :=
  ∀ point later, ChangesAt value point → ChangesAt value later → first < point → point < later → last < later

theorem Spaced.onceIn {gap first last : Int} (h : Spaced value gap) (hgap : last - first ≤ gap) :
    OnceIn value first last := by
  intro point later hpoint hlater hfirst hlt
  have := h point later hpoint hlater hlt
  omega

theorem eq_of_unchanged {first last : Int} (hle : first ≤ last)
    (h : ∀ point, first < point → point ≤ last → ¬ ChangesAt value point) : value first = value last := by
  induction last, hle using Int.leInduction with
  | base => rfl
  | succ last hle ih =>
      have hbefore : value first = value last := ih fun point hfirst hlast => h point hfirst (by omega)
      have hstep : value (last + 1 - 1) = value (last + 1) :=
        Classical.not_not.mp (h (last + 1) (by omega) (by omega))
      rw [show last + 1 - 1 = last by omega] at hstep
      exact hbefore.trans hstep

-- It has one value before some point and one from there on.
theorem OnceIn.two_sides {first last : Int} (h : OnceIn value first last) :
    ∃ change before after, ∀ point, first ≤ point → point ≤ last →
      value point = if point < change then before else after := by
  by_cases hchange : ∃ change, first < change ∧ change ≤ last ∧ ChangesAt value change
  · obtain ⟨change, hfirst, hlast, hchange⟩ := hchange
    refine ⟨change, value first, value change, fun point hpoint hpointLast => ?_⟩
    split
    · rename_i hbefore
      refine (eq_of_unchanged hpoint fun other hother hle hchanges => ?_).symm
      have := h other change hchanges hchange hother (by omega)
      omega
    · rename_i hafter
      refine (eq_of_unchanged (by omega) fun other hother hle hchanges => ?_).symm
      have := h change other hchange hchanges hfirst (by omega)
      omega
  · refine ⟨first, value first, value first, fun point hpoint hlast => ?_⟩
    rw [ite_self]
    refine (eq_of_unchanged hpoint fun other hother hle hchanges => ?_).symm
    exact hchange ⟨other, hother, by omega, hchanges⟩

-- Solving point + shift point = target by measuring the shift at the target and correcting
-- twice. With one change nearby the third measure is the second again if there is a solution.
theorem measured_again {shift : Int → Int} {bound target change before after point : Int}
    (hbound : ∀ point, -bound ≤ shift point ∧ shift point ≤ bound)
    (hsides : ∀ point, target - bound ≤ point → point ≤ target + bound →
      shift point = if point < change then before else after)
    (hpoint : point + shift point = target) :
    shift (target - shift (target - shift target)) = shift (target - shift target) := by
  have hnear : ∀ other, shift (target - shift other) =
      if target - shift other < change then before else after := by
    intro other
    have := hbound other
    exact hsides _ (by omega) (by omega)
  have hfirst : shift target = if target < change then before else after := by
    have := hbound target
    exact hsides target (by omega) (by omega)
  have hsolution : shift point = if point < change then before else after := by
    have := hbound point
    exact hsides point (by omega) (by omega)
  have hsecond := hnear target
  have hthird := hnear (target - shift target)
  by_cases hsame : shift (target - shift target) = shift target
  · rw [hsame, hsame]
  · -- the target and the first correction are on two sides of the change
    split_ifs at hfirst hsecond hthird hsolution <;> omega

-- Of two targets corrected so, with one change near both, the later one comes out first just if
-- the shift grows by more than they are apart and the corrections end up on two sides of that.
theorem measured_lt_iff {shift : Int → Int} {bound target later change before after : Int}
    (hbound : ∀ point, -bound ≤ shift point ∧ shift point ≤ bound)
    (hsides : ∀ point, target - bound ≤ point → point ≤ later + bound →
      shift point = if point < change then before else after) (hlt : target < later) :
    later - shift (later - shift later) < target - shift (target - shift target) ↔
      later - target < after - before ∧
        (target < change + before ∧ change + before ≤ later ∧ later < change ∨
          change ≤ target ∧ target < change + after ∧ change + after ≤ later) := by
  have hnear : ∀ point ∈ [target, target - shift target, later, later - shift later],
      shift point = if point < change then before else after := by
    have := hbound target
    have := hbound later
    simp only [List.forall_mem_cons]
    refine ⟨hsides _ ?_ ?_, hsides _ ?_ ?_, hsides _ ?_ ?_, hsides _ ?_ ?_, List.forall_mem_nil _⟩ <;> omega
  simp only [List.forall_mem_cons] at hnear
  obtain ⟨htarget, hfirst, hlater, hsecond, -⟩ := hnear
  generalize shift (target - shift target) = firstShift at hfirst ⊢
  generalize shift (later - shift later) = secondShift at hsecond ⊢
  split_ifs at htarget hfirst hlater hsecond <;> omega

end CloudOps.StepFunctions

-- When converting a minute of a wall clock to an instant and back gives that minute again.
namespace CloudOps.WallClock

open CloudOps.StepFunctions

def HOUR_MS : Int := 3600000

-- The offsets of a zone whose clock is up to 14 hours from UTC and is put forward or back by up
-- to two hours, not more often than every 72.
structure TimeZone (offset : Int → Int) : Prop where
  bounded : ∀ instant, |offset instant| ≤ 14 * HOUR_MS
  shift : ∀ instant, |offset instant - offset (instant - 1)| ≤ 2 * HOUR_MS
  spaced : Spaced offset (72 * HOUR_MS)

-- The clock is off by whole minutes, and put forward or back at one.
structure WholeMinutes (offset : Int → Int) : Prop where
  offsets : ∀ instant, offset instant % 60000 = 0
  changes : ∀ instant, ChangesAt offset instant → instant % 60000 = 0

variable {offset : Int → Int}

def wholeOffset (offset : Int → Int) (instant : Int) : Int := offset instant / 60000 * 60000

theorem wallMinute_whole {instant : Int} (hwhole : instant % 60000 = 0) :
    wallMinute offset instant * 60000 = instant + wholeOffset offset instant := by
  simp only [wallMinute, wholeOffset]
  omega

theorem measuredOffset_whole {instant : Int} (hwhole : instant % 60000 = 0) :
    measuredOffset offset instant = wholeOffset offset instant := by
  have hshown : wallMinute offset instant * 60000 = instant + wholeOffset offset instant := wallMinute_whole hwhole
  simp only [measuredOffset]
  omega

theorem instantOf_whole (minute : Int) : instantOf offset minute % 60000 = 0 := by
  simp only [instantOf, settledOffset, measuredOffset]
  omega

theorem instantOf_eq (minute : Int) :
    instantOf offset minute =
      minute * 60000 - wholeOffset offset (minute * 60000 - wholeOffset offset (minute * 60000)) := by
  have hfirst : measuredOffset offset (minute * 60000) = wholeOffset offset (minute * 60000) :=
    measuredOffset_whole (by omega)
  have hwhole : (minute * 60000 - wholeOffset offset (minute * 60000)) % 60000 = 0 := by
    simp only [wholeOffset]
    omega
  rw [instantOf, settledOffset, hfirst, measuredOffset_whole hwhole]

-- The clock is no more than so many minutes from UTC.
def Within (offset : Int → Int) (bound : Int) : Prop := ∀ instant, |offset instant| ≤ bound * 60000

-- So near to the minutes, taken for UTC, it is put forward or back once at most.
def OnceBetween (offset : Int → Int) (bound minute later : Int) : Prop :=
  OnceIn offset ((minute - bound) * 60000) ((later + bound) * 60000)

-- From an instant on it is not put forward or back by more than eleven hours in nine days.
def Calm (offset : Int → Int) (start : Int) : Prop :=
  ∀ instant other, start ≤ instant → start ≤ other → |other - instant| ≤ 216 * HOUR_MS →
    |offset other - offset instant| ≤ 11 * HOUR_MS

-- The clock is put forward at an instant, by more than two minutes on its face are apart, and they
-- are converted in the other order: the later one is skipped and taken for UTC it comes before
-- the change, or the earlier one is and does not.
structure Overtakes (offset : Int → Int) (minute later change : Int) : Prop where
  forward : (later - minute) * 60000 < wholeOffset offset change - wholeOffset offset (change - 1)
  skipped : minute * 60000 < change + wholeOffset offset (change - 1) ∧
      change + wholeOffset offset (change - 1) ≤ later * 60000 ∧ later * 60000 < change ∨
    change ≤ minute * 60000 ∧ minute * 60000 < change + wholeOffset offset change ∧
      change + wholeOffset offset change ≤ later * 60000

theorem Calm.wholeOffset_near {start instant other : Int} (h : Calm offset start) (hinstant : start ≤ instant)
    (hother : start ≤ other) (hafter : other - instant ≤ 216 * HOUR_MS) (hbefore : instant - other ≤ 216 * HOUR_MS) :
    wholeOffset offset other - wholeOffset offset instant < 12 * HOUR_MS ∧
      wholeOffset offset instant - wholeOffset offset other < 12 * HOUR_MS := by
  have hnear := abs_le.mp (h instant other hinstant hother (abs_le.mpr ⟨by omega, hafter⟩))
  simp only [wholeOffset, HOUR_MS] at *
  omega

theorem wholeOffset_sides {first last : Int} (h : OnceIn offset first last) :
    ∃ change before after, ∀ instant, first ≤ instant → instant ≤ last →
      wholeOffset offset instant = if instant < change then before else after := by
  obtain ⟨change, before, after, hsides⟩ := h.two_sides
  refine ⟨change, before / 60000 * 60000, after / 60000 * 60000, fun instant hfirst hlast => ?_⟩
  rw [wholeOffset, hsides instant hfirst hlast]
  split
  · rfl
  · rfl

section Bounded

variable {bound : Int} (hbound : Within offset bound)
include hbound

theorem wholeOffset_bounded (instant : Int) :
    -(bound * 60000) ≤ wholeOffset offset instant ∧ wholeOffset offset instant ≤ bound * 60000 := by
  have := abs_le.mp (hbound instant)
  simp only [wholeOffset]
  omega

-- Exactly the minutes come back that the clock shows at a whole minute of UTC.
theorem wallMinute_instantOf_iff {minute : Int} (honce : OnceBetween offset bound minute minute) :
    wallMinute offset (instantOf offset minute) = minute ↔
      ∃ instant, instant % 60000 = 0 ∧ wallMinute offset instant = minute := by
  constructor
  · exact fun hshown => ⟨_, instantOf_whole minute, hshown⟩
  · rintro ⟨instant, hwhole, hminute⟩
    have hpoint : instant + wholeOffset offset instant = minute * 60000 := by
      rw [← hminute, wallMinute_whole hwhole]
    obtain ⟨change, before, after, hsides⟩ := wholeOffset_sides honce
    have hagain := measured_again (wholeOffset_bounded hbound)
      (fun point hfirst hlast => hsides point (by omega) (by omega)) hpoint
    have hshown : wallMinute offset (instantOf offset minute) * 60000 =
        instantOf offset minute + wholeOffset offset (instantOf offset minute) :=
      wallMinute_whole (instantOf_whole minute)
    rw [instantOf_eq, hagain] at hshown
    rw [instantOf_eq]
    omega

-- A minute that is shown just once is not shown, nor any after it, before that.
theorem wallMinute_lt_of_unique {minute instant other : Int} (honce : OnceBetween offset bound minute minute)
    (hunique : ∀ instant other, instant % 60000 = 0 → wallMinute offset instant = minute →
      other % 60000 = 0 → wallMinute offset other = minute → instant = other)
    (hwhole : instant % 60000 = 0) (hminute : wallMinute offset instant = minute)
    (hother : other % 60000 = 0) (hlt : other < instant) : wallMinute offset other < minute := by
  have hshown : wallMinute offset instant * 60000 = _ := wallMinute_whole hwhole
  have hbefore : wallMinute offset other * 60000 = _ := wallMinute_whole hother
  obtain ⟨change, before, after, hsides⟩ := wholeOffset_sides honce
  have := wholeOffset_bounded hbound instant
  have := wholeOffset_bounded hbound other
  by_contra hle
  have hinstant := hsides instant (by omega) (by omega)
  have hfirst := hsides other (by omega) (by omega)
  -- put back in between, the clock had shown the minute before
  have hearlier := hsides (minute * 60000 - wholeOffset offset other) (by omega) (by omega)
  have hpass : (minute * 60000 - wholeOffset offset other) % 60000 = 0 := by
    simp only [wholeOffset]
    omega
  have hagain : wallMinute offset (minute * 60000 - wholeOffset offset other) * 60000 = _ := wallMinute_whole hpass
  have hsame := hunique (minute * 60000 - wholeOffset offset other) instant hpass
  split_ifs at hinstant hfirst hearlier <;> omega

-- Two minutes are converted in their order unless a change of the clock overtakes the first.
theorem instantOf_lt_iff {minute later : Int} (hlt : minute < later)
    (honce : later - minute ≤ 2 * bound → OnceBetween offset bound minute later) :
    instantOf offset later < instantOf offset minute ↔ ∃ change, Overtakes offset minute later change := by
  have hbounds := wholeOffset_bounded hbound
  rw [instantOf_eq, instantOf_eq]
  by_cases hfar : 2 * bound < later - minute
  · refine iff_of_false (fun hless => ?_) ?_
    · have := hbounds (minute * 60000 - wholeOffset offset (minute * 60000))
      have := hbounds (later * 60000 - wholeOffset offset (later * 60000))
      omega
    · rintro ⟨change, hforward, -⟩
      have := hbounds change
      have := hbounds (change - 1)
      omega
  obtain ⟨change, before, after, hsides⟩ := wholeOffset_sides (honce (not_lt.mp hfar))
  have hiff := measured_lt_iff hbounds (fun point hfirst hlast => hsides point (by omega) (by omega))
    (show minute * 60000 < later * 60000 by omega)
  constructor
  · intro hless
    obtain ⟨hforward, hskipped⟩ := hiff.mp hless
    -- the change is one of the clock's own: both offsets are measured
    have hrange : minute * 60000 - bound * 60000 < change ∧ change ≤ later * 60000 + bound * 60000 := by
      have := hbounds (minute * 60000)
      have := hbounds (later * 60000)
      have hfirst := hsides (minute * 60000) (by omega) (by omega)
      have hsecond := hsides (later * 60000) (by omega) (by omega)
      split_ifs at hfirst hsecond <;> omega
    have hat := hsides change (by omega) (by omega)
    have hbefore := hsides (change - 1) (by omega) (by omega)
    rw [if_neg (lt_irrefl change)] at hat
    rw [if_pos (by omega)] at hbefore
    exact ⟨change, by omega, by rwa [hat, hbefore]⟩
  · rintro ⟨instant, hforward, hskipped⟩
    have := hbounds instant
    have := hbounds (instant - 1)
    have hat := hsides instant (by omega) (by omega)
    have hbefore := hsides (instant - 1) (by omega) (by omega)
    rw [hiff]
    split_ifs at hat hbefore
    · omega
    · omega
    · obtain rfl : change = instant := by omega
      rw [hat, hbefore] at hforward hskipped
      exact ⟨by omega, hskipped⟩
    · omega

end Bounded

theorem TimeZone.within (h : TimeZone offset) : Within offset 840 := h.bounded

theorem TimeZone.onceBetween (h : TimeZone offset) {minute later : Int} (hnear : later - minute ≤ 1680) :
    OnceBetween offset 840 minute later :=
  h.spaced.onceIn (by simp only [HOUR_MS]; omega)

-- In 72 hours the clock is put forward or back once at most.
theorem TimeZone.near (h : TimeZone offset) {first last : Int} (hle : first ≤ last)
    (hgap : last - first ≤ 72 * HOUR_MS) :
    -(2 * HOUR_MS) ≤ offset last - offset first ∧ offset last - offset first ≤ 2 * HOUR_MS := by
  obtain ⟨change, before, after, hsides⟩ := (h.spaced.onceIn hgap).two_sides
  have hfirst := hsides first le_rfl hle
  have hlast := hsides last hle le_rfl
  by_cases hbetween : first < change ∧ change ≤ last
  · have hchange := hsides change (by omega) hbetween.2
    have hbefore := hsides (change - 1) (by omega) (by omega)
    have hshift := abs_le.mp (h.shift change)
    rw [if_pos hbetween.1] at hfirst
    rw [if_neg (by omega)] at hlast hchange
    rw [if_pos (by omega)] at hbefore
    omega
  · simp only [HOUR_MS]
    split_ifs at hfirst hlast <;> omega

-- In nine days it is three times.
theorem TimeZone.near_days (h : TimeZone offset) {first last : Int} (hle : first ≤ last)
    (hgap : last - first ≤ 216 * HOUR_MS) :
    -(6 * HOUR_MS) ≤ offset last - offset first ∧ offset last - offset first ≤ 6 * HOUR_MS := by
  have hone := h.near (show first ≤ min last (first + 72 * HOUR_MS) by simp only [HOUR_MS]; omega) (by omega)
  have htwo := h.near (show min last (first + 72 * HOUR_MS) ≤ min last (first + 144 * HOUR_MS) by
    simp only [HOUR_MS]; omega) (by simp only [HOUR_MS]; omega)
  have hthree := h.near (show min last (first + 144 * HOUR_MS) ≤ last by omega) (by simp only [HOUR_MS] at *; omega)
  omega

theorem TimeZone.calm (h : TimeZone offset) (start : Int) : Calm offset start := by
  intro instant other _ _ hnear
  rw [abs_le] at hnear ⊢
  rcases le_total instant other with hle | hle
  · have := h.near_days hle (by omega)
    simp only [HOUR_MS] at *
    omega
  · have := h.near_days hle (by omega)
    simp only [HOUR_MS] at *
    omega

-- Where everything is in whole minutes, a minute is shown from its first second on.
theorem WholeMinutes.wallMinute_floor (h : WholeMinutes offset) (instant : Int) :
    wallMinute offset (instant - instant % 60000) = wallMinute offset instant := by
  have hsame : offset (instant - instant % 60000) = offset instant := by
    refine eq_of_unchanged (by omega) fun point hpoint hle hchanges => ?_
    have := h.changes point hchanges
    omega
  have hoffset := h.offsets instant
  rw [wallMinute, hsame, wallMinute]
  omega

end CloudOps.WallClock
