import CloudOps.Calendar
import CloudOps.Js.Value

namespace CloudOps.Js

open CloudOps.Calendar

-- The UTC side of Date, whose time value is in milliseconds from 1970 on, and negative
-- before it.
def dayLength : Int := 86400000

def dayOf (time : Int) : Int := time / dayLength

def timeWithinDay (time : Int) : Int := time % dayLength

def makeDate (day time : Int) : Int := day * dayLength + time

-- Months and dates beyond a year's or a month's last run on into the next.
def makeDay (year month date : Int) : Int := monthStart (12 * year + month) + (date - 1)

def getUTCFullYear (time : Int) : Int := monthOf (dayOf time) / 12

def getUTCMonth (time : Int) : Int := monthOf (dayOf time) % 12

def getUTCDate (time : Int) : Int := dayOfMonth (dayOf time)

def getUTCDay (time : Int) : Int := dayOfWeek (dayOf time)

def setUTCMonth (time month : Int) : Int :=
  makeDate (makeDay (getUTCFullYear time) month (getUTCDate time)) (timeWithinDay time)

def setUTCDate (time date : Int) : Int :=
  makeDate (makeDay (getUTCFullYear time) (getUTCMonth time) date) (timeWithinDay time)

-- Date.UTC(year, month, date)
def dateUTC (year month date : Int) : Int := makeDate (makeDay year month date) 0

-- The calendar month of a time.
def monthAt (time : Int) : Int := monthOf (dayOf time)

theorem makeDate_eq (time : Int) : makeDate (dayOf time) (timeWithinDay time) = time := by
  unfold makeDate dayOf timeWithinDay dayLength
  omega

theorem dayOf_makeDate (day time : Int) : dayOf (makeDate day (timeWithinDay time)) = day := by
  unfold makeDate dayOf timeWithinDay dayLength
  omega

theorem dayOf_dateUTC (year month date : Int) : dayOf (dateUTC year month date) = makeDay year month date :=
  dayOf_makeDate (makeDay year month date) 0

theorem makeDay_month (time offset date : Int) :
    makeDay (getUTCFullYear time) (getUTCMonth time + offset) date =
      monthStart (monthAt time + offset) + (date - 1) := by
  have hmonth : 12 * getUTCFullYear time + (getUTCMonth time + offset) = monthAt time + offset := by
    unfold getUTCFullYear getUTCMonth monthAt
    omega
  rw [makeDay, hmonth]

theorem dayOf_setUTCMonth (time offset : Int) :
    dayOf (setUTCMonth time (getUTCMonth time + offset)) =
      monthStart (monthAt time + offset) + (getUTCDate time - 1) := by
  rw [setUTCMonth, dayOf_makeDate, makeDay_month]

theorem setUTCDate_add (time days : Int) :
    setUTCDate time (getUTCDate time + days) = time + days * dayLength := by
  have hday : makeDay (getUTCFullYear time) (getUTCMonth time) (getUTCDate time + days) = dayOf time + days := by
    have hmonth := makeDay_month time 0 (getUTCDate time + days)
    rw [Int.add_zero, Int.add_zero] at hmonth
    rw [hmonth]
    unfold getUTCDate dayOfMonth monthAt
    omega
  have htime := makeDate_eq time
  rw [setUTCDate, hday]
  unfold makeDate at htime ⊢
  rw [Int.add_mul]
  omega

-- The next month, at the same date: a month's length later.
theorem setUTCMonth_succ (time : Int) :
    setUTCMonth time (getUTCMonth time + 1) = time + monthLength (monthAt time) * dayLength := by
  have hday : makeDay (getUTCFullYear time) (getUTCMonth time + 1) (getUTCDate time) =
      dayOf time + monthLength (monthAt time) := by
    rw [makeDay_month, monthStart_succ]
    unfold getUTCDate dayOfMonth monthAt
    omega
  have htime := makeDate_eq time
  rw [setUTCMonth, hday]
  unfold makeDate at htime ⊢
  rw [Int.add_mul]
  omega

-- padStart(width, '0')
def zeroPadded (width : Nat) (number : Int) : List Char := (Nat.toDigits 10 number.toNat).leftpad width '0'

-- Years of more than four digits, and those before the year zero, have a sign and six digits.
def isoYear (year : Int) : List Char :=
  if 0 ≤ year ∧ year ≤ 9999 then zeroPadded 4 year
  else (if year < 0 then '-' else '+') :: zeroPadded 6 year.natAbs

def isoCalendar (time : Int) : List Char :=
  isoYear (getUTCFullYear time) ++ '-' :: zeroPadded 2 (getUTCMonth time + 1) ++ '-' :: zeroPadded 2 (getUTCDate time)

def isoClock (time : Int) : List Char :=
  let ofDay := timeWithinDay time
  zeroPadded 2 (ofDay / 3600000) ++ ':' :: zeroPadded 2 (ofDay / 60000 % 60) ++
    ':' :: zeroPadded 2 (ofDay / 1000 % 60) ++ '.' :: zeroPadded 3 (ofDay % 1000)

def toISOString (time : Int) : List Char := isoCalendar time ++ 'T' :: isoClock time ++ ['Z']

-- toISOString().slice(0, 10)
def isoDate (time : Int) : List Char := (toISOString time).take 10

def FourDigitYear (time : Int) : Prop := 0 ≤ getUTCFullYear time ∧ getUTCFullYear time ≤ 9999

instance (time : Int) : Decidable (FourDigitYear time) := inferInstanceAs (Decidable (_ ∧ _))

theorem length_zeroPadded {width : Nat} {number : Int} (hlt : number < 10 ^ width) (hwidth : 0 < width) :
    (zeroPadded width number).length = width := by
  have hlength : (Nat.toDigits 10 number.toNat).length ≤ width := by
    rw [Nat.length_toDigits_le_iff (by decide) hwidth]
    have hpow : ((10 ^ width : Nat) : Int) = 10 ^ width := by norm_cast
    have hpos : 0 < 10 ^ width := Nat.pow_pos (by decide)
    omega
  rw [zeroPadded, List.length_leftpad]
  omega

-- The number is read back from its digits, the zeros before them standing for nothing.
theorem ofDigitChars_zeroPadded (width : Nat) (number : Int) :
    Nat.ofDigitChars 10 (zeroPadded width number) 0 = number.toNat := by
  rw [zeroPadded, List.leftpad, Nat.ofDigitChars_append, Nat.ofDigitChars_replicate_zero, Nat.mul_zero,
    Nat.ofDigitChars_ten_toDigits]

theorem zeroPadded_inj {width : Nat} {first second : Int} (hfirst : 0 ≤ first) (hsecond : 0 ≤ second)
    (h : zeroPadded width first = zeroPadded width second) : first = second := by
  have hnumber := ofDigitChars_zeroPadded width first
  rw [h, ofDigitChars_zeroPadded] at hnumber
  omega

theorem isDigit_of_mem_zeroPadded {width : Nat} {number : Int} {c : Char} (h : c ∈ zeroPadded width number) :
    c.isDigit = true := by
  rw [zeroPadded, List.leftpad, List.mem_append, List.mem_replicate] at h
  rcases h with ⟨-, rfl⟩ | hdigit
  · rfl
  · exact Nat.isDigit_of_mem_toDigits (by decide) (by decide) hdigit

theorem getUTCMonth_bounds (time : Int) : 0 ≤ getUTCMonth time ∧ getUTCMonth time < 12 := by
  unfold getUTCMonth
  omega

theorem getUTCDate_bounds (time : Int) : 1 ≤ getUTCDate time ∧ getUTCDate time ≤ 31 := by
  have hdate := dayOfMonth_bounds (dayOf time)
  have hlength := monthLength_bounds (monthOf (dayOf time))
  unfold getUTCDate
  omega

theorem isoYear_of_fourDigits {time : Int} (h : FourDigitYear time) :
    isoYear (getUTCFullYear time) = zeroPadded 4 (getUTCFullYear time) :=
  if_pos h

theorem isoYear_of_sign {time : Int} (h : ¬ FourDigitYear time) :
    isoYear (getUTCFullYear time) = (if getUTCFullYear time < 0 then '-' else '+') ::
      zeroPadded 6 (getUTCFullYear time).natAbs :=
  if_neg h

theorem isoDate_eq_calendar {time : Int} (h : FourDigitYear time) : isoDate time = isoCalendar time := by
  have hmonth := getUTCMonth_bounds time
  have hdate := getUTCDate_bounds time
  have hyear : (isoYear (getUTCFullYear time)).length = 4 := by
    rw [isoYear_of_fourDigits h]
    exact length_zeroPadded (by have := h.2; omega) (by decide)
  have hlength : (isoCalendar time).length = 10 := by
    simp only [isoCalendar, List.length_append, List.length_cons, hyear]
    rw [length_zeroPadded (by omega) (by decide), length_zeroPadded (by omega) (by decide)]
  rw [isoDate, toISOString, List.append_assoc, List.take_append_of_le_length hlength.ge,
    List.take_of_length_le hlength.le]

-- Other years begin with a sign.
theorem isoDate_ne_of_sign {time other : Int} (h : FourDigitYear time) (hother : ¬ FourDigitYear other) :
    isoDate time ≠ isoDate other := by
  intro heq
  have hpos : 0 < (zeroPadded 4 (getUTCFullYear time)).length := by
    rw [length_zeroPadded (by have := h.2; omega) (by decide)]
    decide
  obtain ⟨digit, digits, hdigits⟩ := List.exists_cons_of_length_pos hpos
  have hdigit : digit.isDigit = true := isDigit_of_mem_zeroPadded (hdigits ▸ List.mem_cons_self)
  rw [isoDate_eq_calendar h, isoCalendar, isoYear_of_fourDigits h, hdigits, isoDate, toISOString, isoCalendar,
    isoYear_of_sign hother] at heq
  have hsign := (List.cons.inj heq).1
  split at hsign
  · rw [hsign] at hdigit
    exact absurd hdigit (by decide)
  · rw [hsign] at hdigit
    exact absurd hdigit (by decide)

theorem dayOf_eq_calendar (time : Int) :
    dayOf time = makeDay (getUTCFullYear time) (getUTCMonth time) (getUTCDate time) := by
  have hmonth := makeDay_month time 0 (getUTCDate time)
  rw [Int.add_zero, Int.add_zero] at hmonth
  rw [hmonth]
  unfold getUTCDate dayOfMonth monthAt
  omega

-- Where years have four digits, a date's text is the date of one day only.
theorem isoDate_inj {time other : Int} (h : FourDigitYear time) (heq : isoDate time = isoDate other) :
    dayOf time = dayOf other := by
  by_cases hother : FourDigitYear other
  · rw [isoDate_eq_calendar h, isoDate_eq_calendar hother, isoCalendar, isoCalendar, isoYear_of_fourDigits h,
      isoYear_of_fourDigits hother] at heq
    have hmonth := getUTCMonth_bounds time
    have hmonth' := getUTCMonth_bounds other
    have hdate := getUTCDate_bounds time
    have hdate' := getUTCDate_bounds other
    rw [List.append_assoc, List.append_assoc] at heq
    have hlength : (zeroPadded 4 (getUTCFullYear time)).length = (zeroPadded 4 (getUTCFullYear other)).length := by
      rw [length_zeroPadded (by have := h.2; omega) (by decide),
        length_zeroPadded (by have := hother.2; omega) (by decide)]
    obtain ⟨hyears, hrest⟩ := List.append_inj heq hlength
    have hlengths : (zeroPadded 2 (getUTCMonth time + 1)).length = (zeroPadded 2 (getUTCMonth other + 1)).length := by
      rw [length_zeroPadded (by omega) (by decide), length_zeroPadded (by omega) (by decide)]
    obtain ⟨hmonths, hdates⟩ := List.append_inj (List.cons.inj hrest).2 hlengths
    have hyear := zeroPadded_inj h.1 hother.1 hyears
    have hsame := zeroPadded_inj (by omega) (by omega) hmonths
    have hday := zeroPadded_inj (by omega) (by omega) (List.cons.inj hdates).2
    rw [dayOf_eq_calendar time, dayOf_eq_calendar other, hyear, hday, add_right_cancel hsame]
  · exact absurd heq (isoDate_ne_of_sign h hother)

theorem isoDate_of_dayOf_eq {time other : Int} (h : FourDigitYear time) (hday : dayOf time = dayOf other) :
    isoDate time = isoDate other := by
  have hother : FourDigitYear other := by
    unfold FourDigitYear getUTCFullYear at h ⊢
    rwa [← hday]
  rw [isoDate_eq_calendar h, isoDate_eq_calendar hother]
  unfold isoCalendar getUTCFullYear getUTCMonth getUTCDate
  rw [hday]

theorem isoDate_eq_iff {time other : Int} (h : FourDigitYear time) :
    isoDate time = isoDate other ↔ dayOf time = dayOf other :=
  ⟨isoDate_inj h, isoDate_of_dayOf_eq h⟩

theorem dayOf_le_dayOf {first second : Int} (h : first ≤ second) : dayOf first ≤ dayOf second := by
  unfold dayOf dayLength
  omega

theorem getUTCFullYear_le {first second : Int} (h : first ≤ second) : getUTCFullYear first ≤ getUTCFullYear second := by
  have hday := dayOf_le_dayOf h
  have hfirst := monthOf_spec (dayOf first)
  have hsecond := monthOf_spec (dayOf second)
  have hmonth : monthOf (dayOf first) < monthOf (dayOf second) + 1 := lt_of_monthStart_lt (by omega)
  unfold getUTCFullYear
  omega

theorem fourDigitYear_between {first time last : Int} (hfirst : FourDigitYear first) (hlast : FourDigitYear last)
    (hle : first ≤ time) (hge : time ≤ last) : FourDigitYear time :=
  ⟨hfirst.1.trans (getUTCFullYear_le hle), (getUTCFullYear_le hge).trans hlast.2⟩

theorem getUTCFullYear_nonneg_iff (time : Int) : 0 ≤ getUTCFullYear time ↔ monthStart 0 ≤ dayOf time := by
  have hspec := monthOf_spec (dayOf time)
  have hpos : 0 ≤ getUTCFullYear time ↔ 0 < monthOf (dayOf time) + 1 := by
    unfold getUTCFullYear
    omega
  rw [hpos]
  constructor
  · intro h
    by_contra hbefore
    have hmonth : monthOf (dayOf time) < 0 := lt_of_monthStart_lt (by omega)
    omega
  · intro h
    exact lt_of_monthStart_lt (by omega)

-- From the year one on, a year back is no year before the year zero.
theorem getUTCFullYear_nonneg {time earlier : Int} (h : 1 ≤ getUTCFullYear time)
    (hle : time ≤ earlier + 365 * dayLength) : 0 ≤ getUTCFullYear earlier := by
  have hspec := monthOf_spec (dayOf time)
  have hmonth : (11 : Int) < monthOf (dayOf time) := by
    unfold getUTCFullYear at h
    omega
  have hstart : monthStart 12 ≤ dayOf time := by
    by_contra hbefore
    have hlt : monthOf (dayOf time) < 12 := lt_of_monthStart_lt (by omega)
    omega
  have hyear : monthStart 0 + 366 = monthStart 12 := by decide
  rw [getUTCFullYear_nonneg_iff]
  unfold dayOf dayLength at *
  omega

-- Entries keyed by the dates of their times: a date finds those of its day.
theorem mapGet_isoDate {ι β : Type} {time : Int} (h : FourDigitYear time) (rows : List ι) (timeOf : ι → Int)
    (value : ι → β) :
    mapGet (rows.map fun row => (isoDate (timeOf row), value row)) (isoDate time) =
      ((rows.filter fun row => dayOf (timeOf row) = dayOf time).getLast?).map value := by
  have hrow : ∀ row, decide (isoDate (timeOf row) = isoDate time) = decide (dayOf (timeOf row) = dayOf time) := by
    intro row
    apply decide_eq_decide.mpr
    rw [eq_comm, isoDate_eq_iff h, eq_comm]
  rw [mapGet, List.filter_map, List.getLast?_map, Option.map_map]
  simp only [Function.comp_def, hrow]

-- The process's time zone is ahead of UTC by the offset. node-postgres returns a DATE as
-- the midnight its day begins with there, and sends a Date as its local wall time, of
-- which a comparison with a DATE takes the day.
def readDate (offset day : Int) : Int := day * dayLength - offset

def sentDate (offset time : Int) : Int := dayOf (time + offset)

theorem dayOf_readDate (offset day : Int) : dayOf (readDate offset day) = day + dayOf (-offset) := by
  unfold readDate dayOf dayLength
  omega

theorem timeWithinDay_readDate (offset day : Int) :
    timeWithinDay (readDate offset day) = timeWithinDay (-offset) := by
  unfold readDate timeWithinDay dayLength
  omega

-- Sent back, it is the day it was read from.
@[simp] theorem sentDate_readDate (offset day : Int) : sentDate offset (readDate offset day) = day := by
  unfold sentDate readDate dayOf dayLength
  omega

theorem sentDate_midnight (offset day : Int) : sentDate offset (day * dayLength) = day + dayOf offset := by
  unfold sentDate dayOf dayLength
  omega

theorem sentDate_min (offset first second : Int) :
    sentDate offset (min first second) = min (sentDate offset first) (sentDate offset second) := by
  unfold sentDate dayOf dayLength
  omega

-- Behind UTC, the midnight there is still the day before; ahead of it, a day there begins
-- on the day before.
theorem dayOf_offset (offset : Int) (hlow : -dayLength < offset) (hhigh : offset < dayLength) :
    dayOf offset = if offset < 0 then -1 else 0 := by
  unfold dayOf dayLength at *
  split <;> omega

-- The days of the local midnights up to a time are those that the time's own day ends.
theorem readDate_le_iff (offset day time : Int) : readDate offset day ≤ time ↔ day ≤ sentDate offset time := by
  unfold readDate sentDate dayOf dayLength
  omega

-- The entries of a series of days are those of each day.
theorem forall_range_days (P : Int → Prop) (first last : Int) :
    (∀ i ∈ List.range (last + 1 - first).toNat, P (first + i)) ↔ ∀ day, first ≤ day → day ≤ last → P day := by
  constructor
  · intro h day hfirst hlast
    have hday := h (day - first).toNat (List.mem_range.mpr (by omega))
    rwa [show first + ((day - first).toNat : Int) = day by omega] at hday
  · intro h i hi
    have hlt := List.mem_range.mp hi
    exact h _ (by omega) (by omega)

-- A series that is its own next day, and ends in zero.
theorem eq_zero_of_next {α : Type} [Zero α] {spend : Int → α} {first last : Int} (hlast : spend last = 0)
    (hnext : ∀ day, first ≤ day → day < last → spend (day + 1) = spend day) :
    ∀ day, first ≤ day → day ≤ last → spend day = 0 := by
  have hback : ∀ k : Nat, first ≤ last - k → spend (last - k) = 0 := by
    intro k
    induction k with
    | zero =>
        intro _
        simpa using hlast
    | succ k ih =>
        intro hfirst
        rw [← hnext (last - (k + 1 : Nat)) hfirst (by omega)]
        rw [show last - ((k + 1 : Nat) : Int) + 1 = last - k by omega]
        exact ih (by omega)
  intro day hfirst hle
  have hday := hback (last - day).toNat (by omega)
  rwa [show last - ((last - day).toNat : Int) = day by omega] at hday

end CloudOps.Js
