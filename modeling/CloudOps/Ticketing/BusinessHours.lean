import CloudOps.Js.Dates
import CloudOps.WallClock
import CloudOps.WorkingTime
import CloudOps.Ticketing.TicketStore

-- sla/business-hours.ts and sla/calculate-due-dates.ts. Instants are milliseconds since 1970;
-- that a Date is invalid from the year 275760 on is left out.
namespace CloudOps.Ticketing.Sla

open CloudOps.Js (getUTCFullYear getUTCMonth getUTCDate makeDate)
open CloudOps.WallClock CloudOps.WorkingTime

-- The time zone database: how far a zone's clocks are ahead of UTC at an instant.
variable (offsetAt : String → Int → Int)

def DAY_MS : Int := 24 * 60 * 60 * 1000

-- year, month and day are one number, that of the date's day since 1970-01-01.
structure ZonedParts where
  date : Int
  hour : Int
  minute : Int
  weekday : Nat
  deriving DecidableEq

-- 1970-01-01 was a Thursday.
def weekday (date : Int) : Nat := ((date + 4) % 7).toNat

def zonedParts (instant : Int) (timezone : String) : ZonedParts :=
  let shown := wallMinute (offsetAt timezone) instant
  ⟨shown / 1440, shown % 1440 / 60, shown % 60, weekday (shown / 1440)⟩

-- The formatter shows no era: the years before the year one count from one on again.
def shownYear (date : Int) : Int :=
  let year := getUTCFullYear (makeDate date 0)
  if year ≤ 0 then 1 - year else year

-- Date.UTC(year, month - 1, day, hour, minute, 0, 0), for which the years up to 99 are those
-- from 1900 on.
def dateUTC (date hour minute : Int) : Int :=
  let year := shownYear date
  Js.dateUTC (if year ≤ 99 then 1900 + year else year) (getUTCMonth (makeDate date 0))
    (getUTCDate (makeDate date 0)) + (hour * 60 + minute) * 60000

def zonedTimeToUtc (date minutesIntoDay : Int) (timezone : String) : Int :=
  let hour := minutesIntoDay / 60
  let minute := minutesIntoDay % 60
  let naiveUtc := dateUTC date hour minute
  let pass (guess : Int) : Int :=
    let zoned := zonedParts offsetAt guess timezone
    let zonedAsUtc := dateUTC zoned.date zoned.hour zoned.minute
    let offset := zonedAsUtc - guess
    naiveUtc - offset
  pass (pass naiveUtc)

-- The first of January 100.
def yearHundred : Int := -683003

theorem dateUTC_eq {date : Int} (h : yearHundred ≤ date) (hour minute : Int) :
    dateUTC date hour minute = date * DAY_MS + (hour * 60 + minute) * 60000 := by
  have hday : Js.dayOf (makeDate date 0) = date := Js.dayOf_makeDate date 0
  have hyear : 100 ≤ getUTCFullYear (makeDate date 0) := by
    have hstart : Calendar.monthStart 1200 = yearHundred := rfl
    have hlater : 1200 < Calendar.monthOf date + 1 := by
      have := Calendar.monthOf_spec date
      exact Calendar.lt_of_monthStart_lt (by omega)
    rw [getUTCFullYear, hday]
    omega
  have hshown : shownYear date = getUTCFullYear (makeDate date 0) := if_neg (by omega)
  rw [dateUTC, hshown, if_neg (by omega), Js.dateUTC, ← Js.dayOf_eq_calendar, hday]
  simp only [DAY_MS, makeDate, Js.dayLength]
  omega

-- The conversion is the wall clock's as long as all the dates it shows are from the year 100 on.
theorem zonedTimeToUtc_eq {date minutesIntoDay : Int} {timezone : String} (hdate : yearHundred ≤ date)
    (hnaive : yearHundred * 1440 ≤ wallMinute (offsetAt timezone) ((date * 1440 + minutesIntoDay) * 60000))
    (hguess : yearHundred * 1440 ≤ wallMinute (offsetAt timezone) ((date * 1440 + minutesIntoDay) * 60000 -
      measuredOffset (offsetAt timezone) ((date * 1440 + minutesIntoDay) * 60000))) :
    zonedTimeToUtc offsetAt date minutesIntoDay timezone =
      instantOf (offsetAt timezone) (date * 1440 + minutesIntoDay) := by
  have hutc : dateUTC date (minutesIntoDay / 60) (minutesIntoDay % 60) =
      (date * 1440 + minutesIntoDay) * 60000 := by
    rw [dateUTC_eq hdate]
    simp only [DAY_MS]
    omega
  have hzoned : ∀ guess, yearHundred * 1440 ≤ wallMinute (offsetAt timezone) guess →
      dateUTC (zonedParts offsetAt guess timezone).date (zonedParts offsetAt guess timezone).hour
        (zonedParts offsetAt guess timezone).minute - guess = measuredOffset (offsetAt timezone) guess := by
    intro guess hshown
    have hdate : yearHundred ≤ (zonedParts offsetAt guess timezone).date := by
      simp only [zonedParts]
      omega
    rw [dateUTC_eq hdate]
    simp only [zonedParts, DAY_MS, measuredOffset]
    omega
  simp only [zonedTimeToUtc, hutc, instantOf, settledOffset]
  rw [hzoned _ hnaive, hzoned _ hguess]

section AddBusinessMinutes

variable (hours : BusinessHours)

def isWorkingDay (weekday : Nat) : Bool := hours.days.contains weekday

-- do { probe += DAY_MS; cursor = zonedParts(probe) } while (!isWorkingDay(cursor.weekday))
def skipToWorkingDay : Nat → Int → Option ZonedParts
  | 0, _ => none
  | fuel + 1, probe =>
      let cursor := zonedParts offsetAt (probe + DAY_MS) hours.timezone
      if isWorkingDay hours cursor.weekday then some cursor else skipToWorkingDay fuel (probe + DAY_MS)

def advanceToNextWorkingDayStart (fuel : Nat) (cursor : ZonedParts) : Option ZonedParts :=
  skipToWorkingDay offsetAt hours fuel (zonedTimeToUtc offsetAt cursor.date (12 * 60) hours.timezone)

-- The `for (;;)` loop.
def consume : Nat → ZonedParts → Int → Int → Option Int
  | 0, _, _, _ => none
  | fuel + 1, cursor, cursorMinuteOfDay, remaining =>
      let availableToday := hours.endMinute - cursorMinuteOfDay
      if remaining ≤ availableToday then
        some (zonedTimeToUtc offsetAt cursor.date (cursorMinuteOfDay + remaining) hours.timezone)
      else do
        let cursor ← advanceToNextWorkingDayStart offsetAt hours fuel cursor
        consume fuel cursor hours.startMinute (remaining - availableToday)

-- `none` when the fuel did not suffice.
def addBusinessMinutes (fuel : Nat) (anchor minutesToAdd : Int) : Option Int :=
  let windowLength : Int := hours.endMinute - hours.startMinute
  if windowLength ≤ 0 ∨ hours.days = [] ∨ minutesToAdd ≤ 0 then
    some (anchor + max 0 minutesToAdd * 60000)
  else
    let cursor := zonedParts offsetAt anchor hours.timezone
    let cursorMinuteOfDay := cursor.hour * 60 + cursor.minute
    if !isWorkingDay hours cursor.weekday || cursorMinuteOfDay ≥ hours.endMinute then do
      let cursor ← advanceToNextWorkingDayStart offsetAt hours fuel cursor
      consume offsetAt hours fuel cursor hours.startMinute minutesToAdd
    else if cursorMinuteOfDay < hours.startMinute then
      consume offsetAt hours fuel cursor hours.startMinute minutesToAdd
    else
      consume offsetAt hours fuel cursor cursorMinuteOfDay minutesToAdd

variable {offsetAt hours}

theorem skipToWorkingDay_mono {fuel : Nat} {probe : Int} {cursor : ZonedParts}
    (h : skipToWorkingDay offsetAt hours fuel probe = some cursor) {more : Nat} (hle : fuel ≤ more) :
    skipToWorkingDay offsetAt hours more probe = some cursor := by
  induction fuel generalizing probe more with
  | zero => simp [skipToWorkingDay] at h
  | succ fuel ih =>
      obtain ⟨more, rfl⟩ : ∃ rest, more = rest + 1 := ⟨more - 1, by omega⟩
      simp only [skipToWorkingDay] at h ⊢
      split_ifs at h ⊢ with hwork
      · exact h
      · exact ih h (by omega)

theorem advanceToNextWorkingDayStart_mono {fuel : Nat} {cursor cursor' : ZonedParts}
    (h : advanceToNextWorkingDayStart offsetAt hours fuel cursor = some cursor') {more : Nat}
    (hle : fuel ≤ more) :
    advanceToNextWorkingDayStart offsetAt hours more cursor = some cursor' :=
  skipToWorkingDay_mono h hle

theorem consume_mono {fuel : Nat} {cursor : ZonedParts} {minute remaining due : Int}
    (h : consume offsetAt hours fuel cursor minute remaining = some due) {more : Nat}
    (hle : fuel ≤ more) : consume offsetAt hours more cursor minute remaining = some due := by
  induction fuel generalizing cursor minute remaining more with
  | zero => simp [consume] at h
  | succ fuel ih =>
      obtain ⟨more, rfl⟩ : ∃ rest, more = rest + 1 := ⟨more - 1, by omega⟩
      simp only [consume] at h ⊢
      split_ifs at h ⊢ with hfits
      · exact h
      · obtain ⟨next, hnext, hrest⟩ := Option.bind_eq_some_iff.mp h
        rw [advanceToNextWorkingDayStart_mono hnext (show fuel ≤ more by omega)]
        exact ih hrest (by omega)

theorem addBusinessMinutes_mono {fuel : Nat} {anchor minutesToAdd due : Int}
    (h : addBusinessMinutes offsetAt hours fuel anchor minutesToAdd = some due) {more : Nat}
    (hle : fuel ≤ more) : addBusinessMinutes offsetAt hours more anchor minutesToAdd = some due := by
  simp only [addBusinessMinutes] at h ⊢
  split_ifs at h ⊢ with hflat hclosed hbefore
  · exact h
  · obtain ⟨next, hnext, hrest⟩ := Option.bind_eq_some_iff.mp h
    rw [advanceToNextWorkingDayStart_mono hnext hle]
    exact consume_mono hrest hle
  · exact consume_mono h hle
  · exact consume_mono h hle

variable (offsetAt hours)

-- What the call returns; nothing when it does not end.
def Returns (anchor minutesToAdd due : Int) : Prop :=
  ∃ fuel, addBusinessMinutes offsetAt hours fuel anchor minutesToAdd = some due

theorem Returns.unique {anchor minutesToAdd due due' : Int}
    (h : Returns offsetAt hours anchor minutesToAdd due)
    (h' : Returns offsetAt hours anchor minutesToAdd due') : due = due' := by
  obtain ⟨fuel, hreturns⟩ := h
  obtain ⟨fuel', hreturns'⟩ := h'
  have hleft := addBusinessMinutes_mono hreturns (Nat.le_max_left fuel fuel')
  have hright := addBusinessMinutes_mono hreturns' (Nat.le_max_right fuel fuel')
  exact Option.some.inj (hleft.symm.trans hright)

end AddBusinessMinutes

-- calculateDueDates, whose two dates are null without a policy.
def calculateDueDates (fuel : Nat) (createdAt : Int) (slaPolicy : Option SlaTargets)
    (businessHours : Option BusinessHours) : Option (Option Int × Option Int) :=
  match slaPolicy with
  | none => some (none, none)
  | some policy => do
      let due (targetMinutes : Nat) : Option Int :=
        match businessHours.filter fun _ => policy.businessHoursOnly with
        | some hours => addBusinessMinutes offsetAt hours fuel createdAt targetMinutes
        | none => some (createdAt + targetMinutes * 60000)
      let firstResponseDueAt ← due policy.firstResponseTargetMinutes
      let resolutionDueAt ← due policy.resolutionTargetMinutes
      return (some firstResponseDueAt, some resolutionDueAt)

end CloudOps.Ticketing.Sla
