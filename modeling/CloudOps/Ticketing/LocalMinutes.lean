import CloudOps.Ticketing.BusinessHours
import CloudOps.ZoneChanges

-- zonedTimeToUtc as the inverse of zonedParts.
namespace CloudOps.Ticketing.Sla

open CloudOps.StepFunctions CloudOps.WallClock

def partsOf (minute : Int) : ZonedParts :=
  ⟨minute / 1440, minute % 1440 / 60, minute % 60, weekday (minute / 1440)⟩

-- The same wall time as one number.
def ZonedParts.total (wall : ZonedParts) : Int := wall.date * 1440 + (wall.hour * 60 + wall.minute)

theorem total_partsOf (minute : Int) : (partsOf minute).total = minute := by
  simp only [ZonedParts.total, partsOf]
  omega

section RoundTrip

variable (offsetAt : String → Int → Int) (timezone : String)

-- zonedParts(zonedTimeToUtc(wall)) is the wall time again.
def RoundTrips (wall : ZonedParts) : Prop :=
  zonedParts offsetAt (zonedTimeToUtc offsetAt wall.date (wall.hour * 60 + wall.minute) timezone) timezone = wall

instance (wall : ZonedParts) : Decidable (RoundTrips offsetAt timezone wall) :=
  inferInstanceAs (Decidable (_ = _))

def ShownAt (wall : ZonedParts) (instant : Int) : Prop := zonedParts offsetAt instant timezone = wall

instance (wall : ZonedParts) (instant : Int) : Decidable (ShownAt offsetAt timezone wall instant) :=
  inferInstanceAs (Decidable (_ = _))

-- From a date on, in the year 100 or later, the clock stays within a day of UTC and is not put
-- forward or back by so much that a noon would be on another date.
structure SettledFrom (bound first : Int) : Prop where
  within : Within (offsetAt timezone) bound
  day : bound ≤ 1440
  calm : Calm (offsetAt timezone) ((first - 1) * DAY_MS)
  year : yearHundred + 1 ≤ first

variable {offsetAt timezone}

theorem zonedParts_eq (instant : Int) :
    zonedParts offsetAt instant timezone = partsOf (wallMinute (offsetAt timezone) instant) :=
  rfl

theorem ShownAt.total {wall : ZonedParts} {instant : Int} (h : ShownAt offsetAt timezone wall instant) :
    wallMinute (offsetAt timezone) instant = wall.total := by
  rw [← show zonedParts offsetAt instant timezone = wall from h, zonedParts_eq, total_partsOf]

theorem shownAt_iff {wall : ZonedParts} {instant other : Int} (h : ShownAt offsetAt timezone wall instant) :
    ShownAt offsetAt timezone wall other ↔ wallMinute (offsetAt timezone) other = wall.total := by
  refine ⟨ShownAt.total, fun hother => ?_⟩
  have hsame : wallMinute (offsetAt timezone) other = wallMinute (offsetAt timezone) instant :=
    hother.trans h.total.symm
  have hshown : partsOf (wallMinute (offsetAt timezone) instant) = wall := h
  rw [ShownAt, zonedParts_eq, hsame, hshown]

theorem ShownAt.minute_nonneg {wall : ZonedParts} {instant : Int} (h : ShownAt offsetAt timezone wall instant) :
    0 ≤ wall.hour * 60 + wall.minute := by
  rw [← show zonedParts offsetAt instant timezone = wall from h]
  simp only [zonedParts]
  omega

theorem SettledFrom.of_timeZone (hzone : TimeZone (offsetAt timezone)) {first : Int}
    (hfirst : yearHundred + 1 ≤ first) : SettledFrom offsetAt timezone 840 first :=
  ⟨hzone.within, by decide, hzone.calm _, hfirst⟩

-- Beginning with the second of January 100 no conversion sees a date of the year 99.
theorem SettledFrom.zonedTimeToUtc_eq {bound first : Int} (h : SettledFrom offsetAt timezone bound first)
    {date minutesIntoDay : Int} (hdate : first ≤ date) (hminutes : 0 ≤ minutesIntoDay) :
    zonedTimeToUtc offsetAt date minutesIntoDay timezone =
      instantOf (offsetAt timezone) (date * 1440 + minutesIntoDay) := by
  obtain ⟨hwithin, hday, hcalm, hyear⟩ := h
  have hwhole : (date * 1440 + minutesIntoDay) * 60000 % 60000 = 0 := by omega
  have hbound := wholeOffset_bounded hwithin ((date * 1440 + minutesIntoDay) * 60000)
  refine Sla.zonedTimeToUtc_eq offsetAt (by omega) ?_ ?_
  · have hshown : wallMinute (offsetAt timezone) ((date * 1440 + minutesIntoDay) * 60000) * 60000 = _ :=
      wallMinute_whole hwhole
    omega
  · rw [measuredOffset_whole hwhole]
    have hagain : ((date * 1440 + minutesIntoDay) * 60000 -
        wholeOffset (offsetAt timezone) ((date * 1440 + minutesIntoDay) * 60000)) % 60000 = 0 := by
      simp only [wholeOffset]
      omega
    have hshown : wallMinute (offsetAt timezone) ((date * 1440 + minutesIntoDay) * 60000 -
        wholeOffset (offsetAt timezone) ((date * 1440 + minutesIntoDay) * 60000)) * 60000 = _ :=
      wallMinute_whole hagain
    have hnear : wholeOffset (offsetAt timezone) ((date * 1440 + minutesIntoDay) * 60000) -
        wholeOffset (offsetAt timezone) ((date * 1440 + minutesIntoDay) * 60000 -
          wholeOffset (offsetAt timezone) ((date * 1440 + minutesIntoDay) * 60000)) < 12 * HOUR_MS := by
      refine (hcalm.wholeOffset_near ?_ ?_ ?_ ?_).2
      all_goals simp only [DAY_MS, HOUR_MS]; omega
    simp only [HOUR_MS] at hnear
    omega

theorem roundTrips_iff_shownAt (hzone : TimeZone (offsetAt timezone)) {wall : ZonedParts}
    (hyear : yearHundred + 1 ≤ wall.date) (hminute : 0 ≤ wall.hour * 60 + wall.minute) :
    RoundTrips offsetAt timezone wall ↔
      ShownAt offsetAt timezone wall (instantOf (offsetAt timezone) wall.total) := by
  unfold RoundTrips ShownAt
  rw [(SettledFrom.of_timeZone hzone hyear).zonedTimeToUtc_eq le_rfl hminute]
  rfl

theorem roundTrips_iff_whole (hzone : TimeZone (offsetAt timezone)) {wall : ZonedParts}
    (hyear : yearHundred + 1 ≤ wall.date) :
    RoundTrips offsetAt timezone wall ↔
      ∃ instant, instant % 60000 = 0 ∧ ShownAt offsetAt timezone wall instant := by
  constructor
  · intro hback
    have hminute : 0 ≤ wall.hour * 60 + wall.minute :=
      ShownAt.minute_nonneg (show ShownAt offsetAt timezone wall _ from hback)
    exact ⟨_, instantOf_whole wall.total, (roundTrips_iff_shownAt hzone hyear hminute).mp hback⟩
  · rintro ⟨instant, hwhole, hshown⟩
    rw [roundTrips_iff_shownAt hzone hyear hshown.minute_nonneg, shownAt_iff hshown,
      wallMinute_instantOf_iff hzone.within (hzone.onceBetween (by omega))]
    exact ⟨instant, hwhole, hshown.total⟩

theorem ShownAt.floor (hwhole : WholeMinutes (offsetAt timezone)) {wall : ZonedParts} {instant : Int}
    (h : ShownAt offsetAt timezone wall instant) : ShownAt offsetAt timezone wall (instant - instant % 60000) := by
  rw [shownAt_iff h, hwhole.wallMinute_floor, h.total]

end RoundTrip

-- Exactly the minutes that the zone's clock shows at some whole minute of UTC come back, which
-- are all that exist where the zone is off by whole minutes and changes at one.
theorem zonedParts_zonedTimeToUtc_iff (offsetAt : String → Int → Int) (timezone : String)
    (hzone : TimeZone (offsetAt timezone)) (wall : ZonedParts) (hyear : yearHundred + 1 ≤ wall.date) :
    (RoundTrips offsetAt timezone wall ↔
        ∃ instant, instant % 60000 = 0 ∧ ShownAt offsetAt timezone wall instant) ∧
      (WholeMinutes (offsetAt timezone) → (∃ instant, ShownAt offsetAt timezone wall instant) →
        RoundTrips offsetAt timezone wall) := by
  refine ⟨roundTrips_iff_whole hzone hyear, ?_⟩
  rintro hwhole ⟨instant, hshown⟩
  exact (roundTrips_iff_whole hzone hyear).mpr ⟨_, by omega, hshown.floor hwhole⟩

-- Africa/Monrovia was 44 minutes and 30 seconds behind UTC, to the midnight of 7 January 1972.
def monroviaChange : Int := 736 * DAY_MS + 2670000

def monrovia (instant : Int) : Int := if instant < monroviaChange then -2670000 else 0

theorem changesAt_monrovia {instant : Int} (h : ChangesAt monrovia instant) : instant = monroviaChange := by
  unfold ChangesAt monrovia at h
  split_ifs at h <;> omega

theorem monrovia_timeZone : TimeZone monrovia where
  bounded instant := by
    unfold monrovia
    split <;> decide
  shift instant := by
    unfold monrovia
    split <;> split <;> decide
  spaced point later hpoint hlater hlt := by
    have := changesAt_monrovia hpoint
    have := changesAt_monrovia hlater
    omega

-- At 00:45 it had been put forward.
theorem zonedParts_zonedTimeToUtc_iff_monrovia :
    RoundTrips (fun _ => monrovia) "Africa/Monrovia" ⟨736, 0, 45, weekday 736⟩ :=
  (zonedParts_zonedTimeToUtc_iff (fun _ => monrovia) "Africa/Monrovia" monrovia_timeZone _ (by decide)).1.mpr
    ⟨736 * DAY_MS + 2700000, by decide, by decide⟩

-- The clock went from 23:59:59 to 00:44:30, and what comes back for 00:44 is 23:59.
theorem not_roundTrips_monrovia :
    ¬ ∀ (offsetAt : String → Int → Int) (timezone : String) (wall : ZonedParts),
      TimeZone (offsetAt timezone) → (∃ instant, ShownAt offsetAt timezone wall instant) →
        RoundTrips offsetAt timezone wall := by
  intro h
  have hback : RoundTrips (fun _ => monrovia) "Africa/Monrovia" ⟨736, 0, 44, weekday 736⟩ :=
    h _ _ _ monrovia_timeZone ⟨monroviaChange, by decide⟩
  exact absurd hback (by decide +kernel)

end CloudOps.Ticketing.Sla
