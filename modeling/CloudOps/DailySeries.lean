import CloudOps.Cost.LocalSpend
import CloudOps.Ticketing.Trends

namespace CloudOps

open Cost Js Ticketing
open ReadCommitted (Table)

-- What the daily series of a tenant are computed from.
structure SeriesReads where
  costLineItems : Table LineItemKey CostLineItem
  commitment : Commitment
  cloudCredentialId : Option Uuid
  tickets : List Ticket
  days : Nat
  now : Int

structure DailySeries where
  coverage : Option (List ℚ)
  elapsed : List ℚ
  trends : List TrendDay

namespace SeriesReads

-- As a process has them whose time zone has the offset.
def series (reads : SeriesReads) (offset : Int) : DailySeries where
  coverage := Local.coverageSpend offset reads.costLineItems reads.commitment reads.now
  elapsed := Local.elapsedDailySpend offset reads.costLineItems reads.cloudCredentialId reads.now
  trends := Ticketing.trends offset reads.now reads.days reads.tickets

def firstOfMonth (reads : SeriesReads) : Int := Calendar.monthStart (monthAt reads.now)

def scopeItems (reads : SeriesReads) : List (LineItemKey × CostLineItem) :=
  reads.costLineItems.rows.filter (inScope reads.cloudCredentialId)

-- Each entry what is stored for its own calendar day.
def stored (reads : SeriesReads) : DailySeries where
  coverage :=
    let last := min reads.commitment.endDate (dayOf reads.now)
    if last < reads.commitment.startDate then none
    else some (spendOfDays (Local.itemsOf reads.costLineItems reads.commitment) reads.commitment.startDate last)
  elapsed := spendOfDays reads.scopeItems reads.firstOfMonth (dayOf reads.now)
  trends := trendDays reads.now reads.days reads.tickets

-- The years the API takes dates of, and those of the clock, from where Date.UTC takes a year as it
-- is; and as many days as the dashboard asks for.
structure InCalendar (reads : SeriesReads) : Prop where
  start : 100 ≤ getUTCFullYear (makeDate reads.commitment.startDate 0)
  now : 100 ≤ getUTCFullYear reads.now ∧ getUTCFullYear reads.now ≤ 9999
  days : 1 ≤ reads.days ∧ reads.days ≤ 90

instance (reads : SeriesReads) : Decidable reads.InCalendar :=
  decidable_of_iff (100 ≤ getUTCFullYear (makeDate reads.commitment.startDate 0) ∧
      (100 ≤ getUTCFullYear reads.now ∧ getUTCFullYear reads.now ≤ 9999) ∧ 1 ≤ reads.days ∧ reads.days ≤ 90)
    ⟨fun h => ⟨h.1, h.2.1, h.2.2⟩, fun h => ⟨h.start, h.now, h.days⟩⟩

-- Where the offset makes no difference: to a commitment, unless the clock's day is one of
-- its days and the process behind UTC; to the month, if there is nothing in it to show a
-- day early, or nothing today to leave out; to the trends, unless the process is ahead and
-- some day has other counts than the next.
structure Harmless (reads : SeriesReads) (offset : Int) : Prop where
  coverage : 0 ≤ offset ∨ reads.commitment.endDate < dayOf reads.now ∨ dayOf reads.now < reads.commitment.startDate
  elapsed : offset = 0 ∨
    0 < offset ∧ (∀ day, reads.firstOfMonth ≤ day → day ≤ dayOf reads.now → spendOn reads.scopeItems day = 0) ∨
    offset < 0 ∧ spendOn reads.scopeItems (dayOf reads.now) = 0
  trends : offset ≤ 0 ∨ ∀ day, dayOf reads.now + 1 - reads.days ≤ day → day ≤ dayOf reads.now →
    countOn (createdTimes reads.tickets) (day + 1) = countOn (createdTimes reads.tickets) day ∧
      countOn (resolvedTimes reads.tickets) (day + 1) = countOn (resolvedTimes reads.tickets) day

variable {reads : SeriesReads} {offset : Int}

theorem fourDigitYear_month (h : reads.InCalendar) : FourDigitYear (makeDate reads.firstOfMonth 0) := by
  have hspec := Calendar.monthOf_spec (dayOf reads.now)
  have hnext := Calendar.monthStart_succ (Calendar.monthOf (dayOf reads.now))
  have hlength := Calendar.monthLength_bounds (Calendar.monthOf (dayOf reads.now))
  constructor
  · apply getUTCFullYear_nonneg (le_trans (by decide) h.now.1)
    unfold makeDate firstOfMonth monthAt dayOf dayLength at *
    omega
  · apply (getUTCFullYear_le _).trans h.now.2
    unfold makeDate firstOfMonth monthAt dayOf dayLength at *
    omega

theorem fourDigitYear_trends (h : reads.InCalendar) :
    FourDigitYear (makeDate (dayOf reads.now + 1 - reads.days) 0) := by
  have hdays := h.days
  constructor
  · apply getUTCFullYear_nonneg (le_trans (by decide) h.now.1)
    unfold makeDate dayOf dayLength at *
    omega
  · apply (getUTCFullYear_le _).trans h.now.2
    unfold makeDate dayOf dayLength at *
    omega

theorem fourDigitYear_now (h : reads.InCalendar) : FourDigitYear reads.now :=
  ⟨Int.le_trans (by decide) h.now.1, h.now.2⟩

-- In UTC they are what is stored.
theorem series_utc (h : reads.InCalendar) : reads.series 0 = reads.stored := by
  have hstart : 0 ≤ getUTCFullYear (readDate 0 reads.commitment.startDate) := by
    apply getUTCFullYear_nonneg (le_trans (by decide) h.start)
    unfold makeDate readDate dayLength
    omega
  have hcoverage := Local.coverageSpend_eq 0 reads.costLineItems reads.commitment hstart
    (fourDigitYear_now h)
  rw [show dayOf 0 = 0 from rfl, Int.add_zero] at hcoverage
  have helapsed := (Local.elapsedDailySpend_iff 0 (by decide) (by decide) reads.costLineItems
    reads.cloudCredentialId (fourDigitYear_month h) (fourDigitYear_now h)).mpr (.inl rfl)
  have htrends := (trends_iff 0 (fourDigitYear_trends h) (fourDigitYear_now h) (by decide) (by decide)
    reads.tickets).mpr (.inl le_rfl)
  rw [series, stored, hcoverage, helapsed, htrends]
  rfl

-- The series are the same in a process's time zone as in UTC, each entry that of its own
-- day, exactly where the offset is harmless.
theorem series_same_iff (h : reads.InCalendar) (hlow : -(14 * 3600000) ≤ offset) (hhigh : offset ≤ 14 * 3600000) :
    reads.series offset = reads.series 0 ∧ reads.series offset = reads.stored ↔ reads.Harmless offset := by
  have hl : -dayLength < offset := by
    unfold dayLength
    omega
  have hh : offset < dayLength := by
    unfold dayLength
    omega
  have hutc := series_utc h
  have hcoverage := Local.coverageSpend_iff hl hh reads.costLineItems reads.commitment
    (le_trans (by decide) h.start) (fourDigitYear_now h)
  have helapsed := Local.elapsedDailySpend_iff offset hl hh reads.costLineItems reads.cloudCredentialId
    (fourDigitYear_month h) (fourDigitYear_now h)
  have htrends := trends_iff offset (fourDigitYear_trends h) (fourDigitYear_now h) hl hh reads.tickets
  rw [hutc, and_self]
  constructor
  · intro heq
    have hfields := heq.trans hutc.symm
    exact ⟨hcoverage.mp (congrArg DailySeries.coverage hfields),
      helapsed.mp (congrArg DailySeries.elapsed heq), htrends.mp (congrArg DailySeries.trends heq)⟩
  · rintro ⟨hc, he, ht⟩
    rw [← hutc]
    have helapsed' := (helapsed.mpr he).trans (congrArg DailySeries.elapsed hutc).symm
    have htrends' := (htrends.mpr ht).trans (congrArg DailySeries.trends hutc).symm
    change DailySeries.mk _ _ _ = DailySeries.mk _ _ _
    rw [hcoverage.mpr hc, helapsed', htrends']
    rfl

-- Ten dollars on the day the forecast is made, read in a process five and a half hours
-- ahead of UTC, at noon.
def januaryReads : SeriesReads where
  costLineItems := (∅ : Table LineItemKey CostLineItem).insert ⟨1, "EC2", "", ⟨2026, 1, 15⟩⟩
    { region := none, amount := 10, currency := "USD", tags := [], raw := "{}", syncedAt := 0 }
  commitment :=
    { cloudCredentialId := 1, service := "EC2", region := none, hourlyCommitment := 1,
      startDate := makeDay 2026 0 1, endDate := makeDay 2027 0 1 }
  cloudCredentialId := none
  tickets := []
  days := 14
  now := dateUTC 2026 0 15 + 43200000

theorem januaryReads_same_iff :
    januaryReads.series 19800000 = januaryReads.series 0 ∧ januaryReads.series 19800000 = januaryReads.stored ↔
      januaryReads.Harmless 19800000 :=
  series_same_iff (by decide) (by decide) (by decide)

-- The day's ten dollars stand under the day before.
theorem series_differ_ahead :
    ¬ ∀ (reads : SeriesReads) (offset : Int), reads.InCalendar → -(14 * 3600000) ≤ offset → offset ≤ 14 * 3600000 →
      reads.series offset = reads.series 0 := by
  intro h
  have hin : januaryReads.InCalendar := by decide
  have hsame := congrArg DailySeries.elapsed ((h januaryReads 19800000 hin (by decide) (by decide)).trans
    (series_utc hin))
  have hharmless := (Local.elapsedDailySpend_iff 19800000 (by decide) (by decide) januaryReads.costLineItems none
    (fourDigitYear_month hin) (fourDigitYear_now hin)).mp hsame
  rcases hharmless with hzero | ⟨-, hnothing⟩ | ⟨hbehind, -⟩
  · exact absurd hzero (by decide)
  · exact absurd (hnothing (dayOf januaryReads.now) (by decide) le_rfl) (by decide +kernel)
  · exact absurd hbehind (by decide)

end SeriesReads

end CloudOps
