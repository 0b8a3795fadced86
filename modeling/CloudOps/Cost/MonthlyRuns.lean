import CloudOps.Cost.ScheduledReports
import CloudOps.Js.Dates
import Mathlib.Algebra.BigOperators.Ring.Finset
import Mathlib.Logic.Function.Iterate
import Mathlib.Tactic.Ring

namespace CloudOps.Cost

open CloudOps.Js
open CloudOps.Calendar (monthOf monthStart)

-- nextRunAt, of any Date. The sweep's own runs are all after 1970.
def ReportCadence.nextRunAt (cadence : ReportCadence) (time : Int) : Int :=
  match cadence with
  | .daily => setUTCDate time (getUTCDate time + 1)
  | .weekly => setUTCDate time (getUTCDate time + 7)
  | .monthly => setUTCMonth time (getUTCMonth time + 1)

theorem cast_dayFromYear {year : Nat} (h : 1970 ≤ year) : (dayFromYear year : Int) = Calendar.dayFromYear year := by
  unfold dayFromYear Calendar.dayFromYear
  omega

theorem cast_isLeapYear (year : Nat) : Calendar.isLeapYear year = isLeapYear year := by
  apply Bool.eq_iff_iff.mpr
  simp only [Calendar.isLeapYear, isLeapYear, Bool.and_eq_true, Bool.or_eq_true, beq_iff_eq, bne_iff_ne]
  omega

theorem cast_monthLengths (year : Nat) :
    (monthLengths year).map (Nat.cast : Nat → Int) = Calendar.monthLengths (Calendar.isLeapYear year) := by
  rw [cast_isLeapYear]
  unfold monthLengths
  cases isLeapYear year <;> rfl

theorem yearFromDay_spec (day : Nat) : 1970 ≤ yearFromDay day ∧ dayFromYear (yearFromDay day) ≤ day ∧
    day < dayFromYear (yearFromDay day + 1) := by
  have hfirst : dayFromYear 1970 ≤ day := Nat.zero_le day
  have hbound : 1970 ≤ 1970 + day / 365 := Nat.le_add_right _ _
  have hle : 1970 ≤ yearFromDay day := Nat.le_findGreatest hbound hfirst
  refine ⟨hle, Nat.findGreatest_spec (P := fun year => dayFromYear year ≤ day) hbound hfirst, ?_⟩
  by_contra hnot
  have hnext : dayFromYear (yearFromDay day + 1) ≤ day := Nat.not_lt.mp hnot
  have hyears : yearFromDay day + 1 ≤ 1970 + day / 365 := by
    unfold dayFromYear at hnext
    omega
  exact Nat.findGreatest_is_greatest (Nat.lt_succ_self _) hyears hnext

theorem cast_yearFromDay (day : Nat) : (yearFromDay day : Int) = Calendar.yearOf day := by
  obtain ⟨hle, hstart, hend⟩ := yearFromDay_spec day
  have hcast := cast_dayFromYear hle
  have hsucc : (dayFromYear (yearFromDay day + 1) : Int) = Calendar.dayFromYear (yearFromDay day + 1) :=
    cast_dayFromYear (Nat.le_succ_of_le hle)
  exact (Calendar.yearOf_eq (by omega) (by omega)).symm

theorem cast_monthLength (day : Nat) (lengths : List Nat) (hlt : day < lengths.sum) :
    (monthLength day lengths : Int) =
      (lengths.map (Nat.cast : Nat → Int)).getD (Calendar.indexIn day (lengths.map Nat.cast)) 0 := by
  induction lengths generalizing day with
  | nil => exact absurd hlt (Nat.not_lt_zero day)
  | cons length rest ih =>
      rw [List.sum_cons] at hlt
      have hcast : ((day : Int) < length) ↔ day < length := Int.ofNat_lt
      simp only [monthLength, List.map_cons, Calendar.indexIn, hcast]
      by_cases hfirst : day < length
      · simp [hfirst]
      · have hrest := ih (day - length) (by omega)
        have hsub : ((day - length : Nat) : Int) = day - length := by omega
        rw [hsub] at hrest
        simp only [hfirst, ite_false, List.getD_cons_succ]
        exact hrest

theorem cast_currentMonth (day : Nat) :
    (monthLength (day - dayFromYear (yearFromDay day)) (monthLengths (yearFromDay day)) : Int) =
      Calendar.monthLength (monthOf day) := by
  obtain ⟨hle, hstart, hend⟩ := yearFromDay_spec day
  have hyear := cast_yearFromDay day
  have hcast := cast_dayFromYear hle
  have hsucc := Calendar.dayFromYear_succ (yearFromDay day)
  have hlengths := cast_monthLengths (yearFromDay day)
  have hcast' : (dayFromYear (yearFromDay day + 1) : Int) = Calendar.dayFromYear (yearFromDay day + 1) :=
    cast_dayFromYear (Nat.le_succ_of_le hle)
  have hsum : ((monthLengths (yearFromDay day)).sum : Int) =
      (Calendar.monthLengths (Calendar.isLeapYear (yearFromDay day))).sum := by
    rw [← hlengths, Nat.cast_list_sum]
  have hlt : day - dayFromYear (yearFromDay day) < (monthLengths (yearFromDay day)).sum := by omega
  have hsub : ((day - dayFromYear (yearFromDay day) : Nat) : Int) =
      day - Calendar.dayFromYear (yearFromDay day) := by omega
  have hindex := Calendar.indexIn_spec (day - Calendar.dayFromYear (yearFromDay day))
    (Calendar.monthLengths (Calendar.isLeapYear (yearFromDay day))) (by omega) (by omega)
  rw [cast_monthLength _ _ hlt, hlengths, hsub, monthOf, ← hyear,
    Calendar.monthLength_index _ hindex.1]

-- The sweep's nextRunAt is the one of Date.
theorem cast_nextRunAt (cadence : ReportCadence) (time : Nat) :
    (nextRunAt cadence time : Int) = cadence.nextRunAt time := by
  cases cadence with
  | daily | weekly =>
      rw [ReportCadence.nextRunAt, setUTCDate_add]
      simp only [nextRunAt, msPerDay, dayLength]
      omega
  | monthly =>
      have hday : dayOf (time : Int) = ((time / msPerDay : Nat) : Int) := rfl
      have hlength := cast_currentMonth (time / msPerDay)
      rw [ReportCadence.nextRunAt, setUTCMonth_succ, monthAt, hday, ← hlength]
      simp only [nextRunAt, msPerDay, dayLength]
      push_cast
      rfl

-- The monthly run after one at some time.
abbrev nextMonthlyRun : Int → Int := ReportCadence.monthly.nextRunAt

theorem lt_nextMonthlyRun (time : Int) : time < nextMonthlyRun time := by
  have hlength := (Calendar.monthLength_bounds (monthAt time)).1
  rw [nextMonthlyRun, ReportCadence.nextRunAt, setUTCMonth_succ]
  unfold dayLength
  omega

theorem dayOf_nextMonthlyRun (time : Int) :
    dayOf (nextMonthlyRun time) = monthStart (monthAt time + 1) + (getUTCDate time - 1) :=
  dayOf_setUTCMonth time 1

-- A date that the next month has is kept by the run in it.
theorem nextMonthlyRun_fits (time : Int) (hfits : getUTCDate time ≤ Calendar.monthLength (monthAt time + 1)) :
    monthAt (nextMonthlyRun time) = monthAt time + 1 ∧ getUTCDate (nextMonthlyRun time) = getUTCDate time := by
  have hdate := (Calendar.dayOfMonth_bounds (dayOf time)).1
  constructor
  · rw [monthAt, dayOf_nextMonthlyRun]
    exact (Calendar.monthOf_dayOf_eq_iff hdate).mpr hfits
  · rw [getUTCDate, dayOf_nextMonthlyRun]
    exact Calendar.dayOfMonth_dayOf hdate hfits

theorem monthAt_nextMonthlyRun_iff (time : Int) :
    monthAt (nextMonthlyRun time) = monthAt time + 1 ↔
      getUTCDate time ≤ Calendar.monthLength (monthAt time + 1) := by
  rw [monthAt, dayOf_nextMonthlyRun]
  exact Calendar.monthOf_dayOf_eq_iff (Calendar.dayOfMonth_bounds (dayOf time)).1

-- The first so many runs are in one calendar month after another.
def VisitsMonths (start : Int) (runs : Nat) : Prop :=
  ∀ k ≤ runs, monthAt (nextMonthlyRun^[k] start) = monthAt start + k

theorem getUTCDate_runs (start : Int) (runs : Nat)
    (hfits : ∀ k < runs, getUTCDate start ≤ Calendar.monthLength (monthAt start + (k + 1))) :
    monthAt (nextMonthlyRun^[runs] start) = monthAt start + runs ∧
      getUTCDate (nextMonthlyRun^[runs] start) = getUTCDate start := by
  induction runs with
  | zero => exact ⟨(Int.add_zero _).symm, rfl⟩
  | succ runs ih =>
      obtain ⟨hmonth, hdate⟩ := ih fun k hk => hfits k (Nat.lt_succ_of_lt hk)
      have hnext := hfits runs (Nat.lt_succ_self runs)
      have hstep := nextMonthlyRun_fits (nextMonthlyRun^[runs] start)
        (by rw [hdate, hmonth, Int.add_assoc]; exact hnext)
      rw [hmonth, hdate] at hstep
      rw [Function.iterate_succ_apply']
      exact ⟨hstep.1.trans (by push_cast; ring), hstep.2⟩

theorem visitsMonths_iff (start : Int) (runs : Nat) :
    VisitsMonths start runs ↔ ∀ k < runs, getUTCDate start ≤ Calendar.monthLength (monthAt start + (k + 1)) := by
  constructor
  · intro hvisits k hk
    induction k using Nat.strong_induction_on with
    | _ k ih =>
        -- up to the run before, the date has been kept
        obtain ⟨hmonth, hdate⟩ := getUTCDate_runs start k fun j hj => ih j hj (by omega)
        have hnext := hvisits (k + 1) hk
        rw [Function.iterate_succ_apply'] at hnext
        have hstep := (monthAt_nextMonthlyRun_iff (nextMonthlyRun^[k] start)).mp
          (by rw [hnext, hmonth]; push_cast; ring)
        rwa [hdate, hmonth, Int.add_assoc] at hstep
  · intro hfits k hk
    exact (getUTCDate_runs start k fun j hj => hfits j (Nat.lt_of_lt_of_le hj hk)).1

theorem visitsMonths_always_iff (start : Int) : (∀ runs, VisitsMonths start runs) ↔ getUTCDate start ≤ 28 := by
  constructor
  · intro hvisits
    obtain ⟨later, hpos, hlength⟩ := Calendar.exists_shortest (monthAt start)
    have hfits := (visitsMonths_iff start later).mp (hvisits later) (later - 1) (by omega)
    have hcast : ((later - 1 : Nat) : Int) + 1 = later := by omega
    rwa [hcast, hlength] at hfits
  · intro hdate runs
    apply (visitsMonths_iff start runs).mpr
    intro k _
    have hlength := (Calendar.monthLength_bounds (monthAt start + (k + 1))).1
    omega

-- A monthly schedule and its next run, and its runs one after the other.
theorem monthly_next_month_iff (start : Int) :
    (monthAt (ReportCadence.monthly.nextRunAt start) = monthAt start + 1 ∧
        start < ReportCadence.monthly.nextRunAt start ↔
      getUTCDate start ≤ Calendar.monthLength (monthAt start + 1)) ∧
    (∀ runs, VisitsMonths start runs ↔
      ∀ k < runs, getUTCDate start ≤ Calendar.monthLength (monthAt start + (k + 1))) ∧
    ((∀ runs, VisitsMonths start runs) ↔ getUTCDate start ≤ 28) := by
  refine ⟨?_, visitsMonths_iff start, visitsMonths_always_iff start⟩
  rw [and_iff_left (lt_nextMonthlyRun start)]
  exact monthAt_nextMonthlyRun_iff start

-- From the end of January 2026 the next run is in March.
theorem january_skips_february :
    ¬ ∀ start, (monthAt (ReportCadence.monthly.nextRunAt start) = monthAt start + 1 ∧
        start < ReportCadence.monthly.nextRunAt start) ∧ ∀ runs, VisitsMonths start runs := by
  intro hclaim
  have hskipped : monthAt (ReportCadence.monthly.nextRunAt (dateUTC 2026 0 31)) ≠
      monthAt (dateUTC 2026 0 31) + 1 := by
    decide +kernel
  exact hskipped (hclaim (dateUTC 2026 0 31)).1.1

end CloudOps.Cost
