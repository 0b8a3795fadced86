import CloudOps.Cost.CostDashboard
import CloudOps.Cost.DailySpend
import CloudOps.Js.Dates

namespace CloudOps.Cost

open CloudOps.GroupTotals CloudOps.Js
open CloudOps.ReadCommitted (Table)
open CloudOps.Ticketing (Uuid)

-- The queries as a process reads their answers whose time zone has the offset.
namespace Local

variable (offset : Int)

-- A row of SELECT usage_date, SUM(amount) .. GROUP BY usage_date.
def readRow (row : Cost.DailySpendRow) : Dates.DailySpendRow := ⟨readDate offset row.usageDate, row.amount⟩

def itemsOf (costLineItems : Table LineItemKey CostLineItem) (commitment : Commitment) :
    List (LineItemKey × CostLineItem) :=
  costLineItems.rows.filter fun item => item.1.cloudCredentialId = commitment.cloudCredentialId &&
    item.1.service = commitment.service && item.2.region = commitment.region

-- usage_date >= $1 AND usage_date <= $2
def between (items : List (LineItemKey × CostLineItem)) (first last : Int) : List (LineItemKey × CostLineItem) :=
  items.filter fun item => first ≤ item.1.usageDate.toDay && item.1.usageDate.toDay ≤ last

-- The query and the loop over its rows, as they stand in loadDailySpend and in forecast.
def spendBetween (items : List (LineItemKey × CostLineItem)) (startDate endDate : Int) : List ℚ :=
  let rows := spendByDay (between items (sentDate offset startDate) (sentDate offset endDate))
  Dates.buildDailySpend startDate endDate (rows.map (readRow offset))

def loadDailySpend (costLineItems : Table LineItemKey CostLineItem) (commitment : Commitment)
    (startDate endDate : Int) : List ℚ :=
  spendBetween offset (itemsOf costLineItems commitment) startDate endDate

-- What getCoverage is given by it, or none where the term has not started yet.
def coverageSpend (costLineItems : Table LineItemKey CostLineItem) (commitment : Commitment) (now : Int) :
    Option (List ℚ) :=
  let today := makeDate (dayOf now) 0
  let startDate := readDate offset commitment.startDate
  let endDate := min (readDate offset commitment.endDate) today
  if endDate < startDate then none else some (loadDailySpend offset costLineItems commitment startDate endDate)

-- What forecast is given, of an account or of any.
def elapsedDailySpend (costLineItems : Table LineItemKey CostLineItem) (cloudCredentialId : Option Uuid)
    (now : Int) : List ℚ :=
  let monthStart := dateUTC (getUTCFullYear now) (getUTCMonth now) 1
  let today := dateUTC (getUTCFullYear now) (getUTCMonth now) (getUTCDate now)
  spendBetween offset (costLineItems.rows.filter (inScope cloudCredentialId)) monthStart today

end Local

-- The days from one to another, with what the items of each come to.
def spendOfDays (items : List (LineItemKey × CostLineItem)) (first last : Int) : List ℚ :=
  (List.range (last + 1 - first).toNat).map fun i : Nat => spendOn items (first + i)

namespace Local

variable {offset : Int} {items : List (LineItemKey × CostLineItem)}

theorem spendOn_between (first last day : Int) :
    spendOn (between items first last) day = if first ≤ day ∧ day ≤ last then spendOn items day else 0 := by
  unfold spendOn
  by_cases hin : first ≤ day ∧ day ≤ last
  · rw [if_pos hin, groupTotal, groupTotal, between, List.filter_filter]
    congr 2
    apply List.filter_congr
    intro item _
    by_cases hday : item.1.usageDate.toDay = day
    · simp [hday, hin]
    · simp [hday]
  · rw [if_neg hin]
    apply groupTotal_of_not_mem
    intro hmem
    obtain ⟨item, hitem, rfl⟩ := mem_groups.mp hmem
    have hrange := (List.mem_filter.mp hitem).2
    rw [Bool.and_eq_true, decide_eq_true_eq, decide_eq_true_eq] at hrange
    exact hin hrange

-- Under the key of a cursor stands the spend of the day whose local midnight is on the
-- cursor's day.
theorem get_readRow {time : Int} (h : FourDigitYear time) :
    (mapGet (((spendByDay items).map (readRow offset)).map fun row => (isoDate row.usageDate, row.amount))
      (isoDate time)).getD 0 = spendOn items (dayOf time - dayOf (-offset)) := by
  have hday : ∀ row : Cost.DailySpendRow, decide (dayOf (readDate offset row.usageDate) = dayOf time) =
      decide (row.usageDate = dayOf time - dayOf (-offset)) := by
    intro row
    apply decide_eq_decide.mpr
    rw [dayOf_readDate]
    omega
  rw [← amountOn_spendByDay, amountOn, List.map_map]
  have hget := mapGet_isoDate h (spendByDay items) (fun row => readDate offset row.usageDate)
    Cost.DailySpendRow.amount
  simp only [hday] at hget
  exact congrArg (·.getD 0) hget

theorem spendBetween_eq {startDate endDate : Int} (hstart : FourDigitYear startDate)
    (hend : FourDigitYear endDate) :
    spendBetween offset items startDate endDate =
      (List.range (dayOf (endDate - timeWithinDay startDate) + 1 - dayOf startDate).toNat).map fun i : Nat =>
        spendOn (between items (sentDate offset startDate) (sentDate offset endDate))
          (dayOf startDate + i - dayOf (-offset)) := by
  rw [spendBetween, Dates.buildDailySpend, Dates.fillDays_eq]
  apply List.map_congr_left
  intro i hi
  have hlt := List.mem_range.mp hi
  have htime := makeDate_eq startDate
  have hday : dayOf (startDate + i * dayLength) = dayOf startDate + i := by
    unfold dayOf dayLength
    omega
  have hle : startDate + i * dayLength ≤ endDate := by
    unfold makeDate dayOf timeWithinDay dayLength at *
    omega
  have hyear := fourDigitYear_between hstart hend (by unfold dayLength; omega) hle
  rw [get_readRow hyear, hday]

theorem buildDailySpend_between (first last : Int) :
    Cost.buildDailySpend first last (spendByDay (between items first last)) = spendOfDays items first last := by
  rw [buildDailySpend_spendByDay, spendOfDays]
  apply List.map_congr_left
  intro i hi
  have hlt := List.mem_range.mp hi
  rw [spendOn_between, if_pos (by omega)]

-- The days are those that the functions by days are given.
theorem loadDailySpend_days (costLineItems : Table LineItemKey CostLineItem) (commitment : Commitment)
    (first last : Int) :
    Cost.loadDailySpend costLineItems commitment.cloudCredentialId commitment.service commitment.region first last =
      spendOfDays (itemsOf costLineItems commitment) first last := by
  rw [← buildDailySpend_between, Cost.loadDailySpend, between, itemsOf, List.filter_filter]
  congr 3
  funext item
  simp only [Bool.and_comm, Bool.and_assoc]

theorem monthEndInput_days (reads : DashboardReads) (cloudCredentialId : Option Uuid) :
    (reads.monthEndInput cloudCredentialId).elapsedDailySpend =
      spendOfDays (reads.costLineItems.rows.filter (inScope cloudCredentialId))
        (Calendar.monthStart (monthAt reads.now)) (dayOf reads.now) := by
  have hfirst := dayOf_thisMonth reads 1
  rw [Int.sub_self, Int.add_zero] at hfirst
  rw [← buildDailySpend_between, DashboardReads.monthEndInput, dayOf_today, hfirst]
  simp only [DashboardReads.itemsBetween, between, List.filter_filter]

theorem dayOf_sub_timeWithinDay (offset time : Int) :
    dayOf (time - timeWithinDay (-offset)) - dayOf (-offset) = sentDate offset time := by
  unfold sentDate dayOf timeWithinDay dayLength
  omega

-- Both ends being local, the days of a commitment are the right ones: only its end, if
-- that is the day the clock is on in UTC, is sent back as another.
theorem coverageSpend_eq (offset : Int) (costLineItems : Table LineItemKey CostLineItem) (commitment : Commitment)
    {now : Int} (hstart : 0 ≤ getUTCFullYear (readDate offset commitment.startDate)) (hnow : FourDigitYear now) :
    coverageSpend offset costLineItems commitment now =
      if min commitment.endDate (dayOf now + dayOf offset) < commitment.startDate then none
      else some (spendOfDays (itemsOf costLineItems commitment) commitment.startDate
        (min commitment.endDate (dayOf now + dayOf offset))) := by
  have hmidnight : makeDate (dayOf now) 0 = dayOf now * dayLength := Int.add_zero _
  have hlast : sentDate offset (min (readDate offset commitment.endDate) (makeDate (dayOf now) 0)) =
      min commitment.endDate (dayOf now + dayOf offset) := by
    rw [sentDate_min, sentDate_readDate, hmidnight, sentDate_midnight]
  have hbefore := readDate_le_iff offset commitment.startDate
    (min (readDate offset commitment.endDate) (makeDate (dayOf now) 0))
  rw [hlast] at hbefore
  unfold coverageSpend
  by_cases hnone : min commitment.endDate (dayOf now + dayOf offset) < commitment.startDate
  · rw [if_pos hnone, if_pos (Int.not_le.mp fun h => Int.not_le.mpr hnone (hbefore.mp h))]
  · have hin := hbefore.mpr (Int.not_lt.mp hnone)
    have htoday : min (readDate offset commitment.endDate) (makeDate (dayOf now) 0) ≤ now := by
      apply (Int.min_le_right _ _).trans
      rw [hmidnight]
      unfold dayOf dayLength
      omega
    have hfirst : FourDigitYear (readDate offset commitment.startDate) :=
      ⟨hstart, (getUTCFullYear_le (hin.trans htoday)).trans hnow.2⟩
    rw [if_neg hnone, if_neg (Int.not_lt.mpr hin), loadDailySpend,
      spendBetween_eq hfirst (fourDigitYear_between hfirst hnow hin htoday), spendOfDays, hlast, sentDate_readDate,
      timeWithinDay_readDate, dayOf_readDate]
    have hcount := dayOf_sub_timeWithinDay offset
      (min (readDate offset commitment.endDate) (makeDate (dayOf now) 0))
    rw [hlast] at hcount
    congr 1
    have hlength : (dayOf (min (readDate offset commitment.endDate) (makeDate (dayOf now) 0) -
        timeWithinDay (-offset)) + 1 - (commitment.startDate + dayOf (-offset))).toNat =
        (min commitment.endDate (dayOf now + dayOf offset) + 1 - commitment.startDate).toNat := by
      omega
    rw [hlength]
    apply List.map_congr_left
    intro i hi
    have hlt := List.mem_range.mp hi
    have hday : commitment.startDate + dayOf (-offset) + (i : Int) - dayOf (-offset) = commitment.startDate + i := by
      omega
    rw [hday, spendOn_between, if_pos (by omega)]

-- The first day of the month and the day itself, as the clock in UTC has them.
theorem elapsedDailySpend_eq (costLineItems : Table LineItemKey CostLineItem) (cloudCredentialId : Option Uuid)
    {now : Int} (hmonth : FourDigitYear (makeDate (Calendar.monthStart (monthAt now)) 0)) (hnow : FourDigitYear now) :
    elapsedDailySpend offset costLineItems cloudCredentialId now =
      (List.range (dayOf now + 1 - Calendar.monthStart (monthAt now)).toNat).map fun i : Nat =>
        let day := Calendar.monthStart (monthAt now) + i - dayOf (-offset)
        if Calendar.monthStart (monthAt now) + dayOf offset ≤ day ∧ day ≤ dayOf now + dayOf offset then
          spendOn (costLineItems.rows.filter (inScope cloudCredentialId)) day
        else 0 := by
  have hfirst : dateUTC (getUTCFullYear now) (getUTCMonth now) 1 =
      makeDate (Calendar.monthStart (monthAt now)) 0 := by
    have hday := makeDay_month now 0 1
    rw [Int.add_zero, Int.add_zero, Int.sub_self, Int.add_zero] at hday
    rw [dateUTC, hday]
  have hlast : dateUTC (getUTCFullYear now) (getUTCMonth now) (getUTCDate now) = makeDate (dayOf now) 0 := by
    rw [dateUTC, dayOf_eq_calendar now]
  have htoday : FourDigitYear (makeDate (dayOf now) 0) := by
    unfold FourDigitYear getUTCFullYear at hnow ⊢
    have hday : dayOf (makeDate (dayOf now) 0) = dayOf now := dayOf_makeDate (dayOf now) 0
    rwa [hday]
  have hmidnight : ∀ day, makeDate day 0 = day * dayLength := fun day => Int.add_zero _
  have hday : ∀ day, dayOf (makeDate day 0) = day := fun day => dayOf_makeDate day 0
  have hwhole : timeWithinDay (makeDate (Calendar.monthStart (monthAt now)) 0) = 0 := by
    rw [hmidnight]
    unfold timeWithinDay dayLength
    omega
  rw [elapsedDailySpend, hfirst, hlast, spendBetween_eq hmonth htoday, hwhole, Int.sub_zero, hday, hday, hmidnight,
    hmidnight, sentDate_midnight, sentDate_midnight]
  apply List.map_congr_left
  intro i _
  rw [spendOn_between]

theorem length_spendOfDays (items : List (LineItemKey × CostLineItem)) (first last : Int) :
    (spendOfDays items first last).length = (last + 1 - first).toNat := by
  rw [spendOfDays, List.length_map, List.length_range]

-- The day the clock is on is lost behind UTC.
theorem coverageSpend_iff (hlow : -dayLength < offset) (hhigh : offset < dayLength)
    (costLineItems : Table LineItemKey CostLineItem) (commitment : Commitment) {now : Int}
    (hstart : 1 ≤ getUTCFullYear (makeDate commitment.startDate 0)) (hnow : FourDigitYear now) :
    coverageSpend offset costLineItems commitment now = coverageSpend 0 costLineItems commitment now ↔
      0 ≤ offset ∨ commitment.endDate < dayOf now ∨ dayOf now < commitment.startDate := by
  have hyear : ∀ {other : Int}, -dayLength < other → other < dayLength →
      0 ≤ getUTCFullYear (readDate other commitment.startDate) := by
    intro other hl hh
    apply getUTCFullYear_nonneg hstart
    unfold makeDate readDate dayLength at *
    omega
  rw [coverageSpend_eq offset costLineItems commitment (hyear hlow hhigh) hnow,
    coverageSpend_eq 0 costLineItems commitment (hyear (by decide) (by decide)) hnow, dayOf_offset offset hlow hhigh]
  have hzero : dayOf 0 = 0 := rfl
  rw [hzero, Int.add_zero]
  by_cases hahead : 0 ≤ offset
  · simp [hahead, Int.not_lt.mpr hahead]
  rw [if_pos (Int.not_le.mp hahead)]
  by_cases hended : commitment.endDate < dayOf now
  · have hsame : min commitment.endDate (dayOf now + -1) = min commitment.endDate (dayOf now) := by omega
    rw [hsame]
    exact iff_of_true rfl (.inr (.inl hended))
  by_cases hlater : dayOf now < commitment.startDate
  · rw [if_pos (by omega), if_pos (by omega)]
    simp [hlater]
  simp only [hahead, hended, hlater, or_self, iff_false]
  rw [if_neg (show ¬ min commitment.endDate (dayOf now) < commitment.startDate by omega)]
  split
  · intro heq
    cases heq
  · intro heq
    have hlength := congrArg List.length (Option.some.inj heq)
    rw [length_spendOfDays, length_spendOfDays] at hlength
    omega

-- Ahead of UTC every day's spend stands a day early, behind it today's is not read.
theorem elapsedDailySpend_iff (offset : Int) (hlow : -dayLength < offset) (hhigh : offset < dayLength)
    (costLineItems : Table LineItemKey CostLineItem) (cloudCredentialId : Option Uuid) {now : Int}
    (hmonth : FourDigitYear (makeDate (Calendar.monthStart (monthAt now)) 0)) (hnow : FourDigitYear now) :
    elapsedDailySpend offset costLineItems cloudCredentialId now =
        spendOfDays (costLineItems.rows.filter (inScope cloudCredentialId)) (Calendar.monthStart (monthAt now))
          (dayOf now) ↔
      offset = 0 ∨
      0 < offset ∧ (∀ day, Calendar.monthStart (monthAt now) ≤ day → day ≤ dayOf now →
        spendOn (costLineItems.rows.filter (inScope cloudCredentialId)) day = 0) ∨
      offset < 0 ∧ spendOn (costLineItems.rows.filter (inScope cloudCredentialId)) (dayOf now) = 0 := by
  have hfirst : Calendar.monthStart (monthAt now) ≤ dayOf now := (Calendar.monthOf_spec (dayOf now)).1
  rw [elapsedDailySpend_eq costLineItems cloudCredentialId hmonth hnow, spendOfDays, List.map_inj_left,
    dayOf_offset offset hlow hhigh, dayOf_offset (-offset) (by omega) (by omega)]
  generalize Calendar.monthStart (monthAt now) = first at hfirst ⊢
  generalize dayOf now = last at hfirst ⊢
  generalize spendOn (costLineItems.rows.filter (inScope cloudCredentialId)) = spend
  have hdays := forall_range_days (fun day =>
    (if first + (if offset < 0 then -1 else 0) ≤ day - (if -offset < 0 then -1 else 0) ∧
        day - (if -offset < 0 then -1 else 0) ≤ last + (if offset < 0 then -1 else 0) then
      spend (day - (if -offset < 0 then -1 else 0)) else 0) = spend day) first last
  refine hdays.trans ?_
  rcases Int.lt_trichotomy offset 0 with hbehind | rfl | hahead
  · rw [if_pos hbehind, if_neg (by omega)]
    simp only [hbehind, hbehind.ne, true_and, false_or, Int.sub_zero, show ¬ 0 < offset by omega, false_and]
    constructor
    · intro h
      have hlast := h last hfirst le_rfl
      rw [if_neg (by omega)] at hlast
      exact hlast.symm
    · intro hlast day hday hle
      by_cases htoday : day = last
      · rw [if_neg (by omega), htoday, hlast]
      · rw [if_pos (by omega)]
  · simp only [Int.neg_zero, lt_irrefl, if_false, Int.add_zero, Int.sub_zero, true_or, iff_true]
    intro day hday hle
    rw [if_pos ⟨hday, hle⟩]
  · rw [if_neg (by omega), if_pos (by omega)]
    simp only [hahead, hahead.ne', true_and, false_or, Int.add_zero, show ¬ offset < 0 by omega, false_and, or_false,
      Int.sub_neg]
    constructor
    · intro h
      apply eq_zero_of_next
      · have hlast := h last hfirst le_rfl
        rw [if_neg (by omega)] at hlast
        exact hlast.symm
      · intro day hday hlt
        have hnext := h day hday hlt.le
        rwa [if_pos (by omega)] at hnext
    · intro h day hday hle
      rw [h day hday hle]
      split
      · rename_i hin
        exact h (day + 1) (by omega) hin.2
      · rfl

end Local

end CloudOps.Cost
