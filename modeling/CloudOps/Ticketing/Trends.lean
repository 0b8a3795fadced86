import CloudOps.GroupedSums
import CloudOps.Js.Dates
import CloudOps.Ticketing.Ticket
import Mathlib.Algebra.Group.Nat.Defs
import Mathlib.Algebra.Group.Action.Defs

namespace CloudOps.Ticketing

open CloudOps.GroupTotals CloudOps.Js

structure TrendDay where
  date : List Char
  created : Nat
  resolved : Nat
  deriving DecidableEq

-- SELECT date_trunc('day', ..)::date AS day, count(*)::int .. GROUP BY day, in a session
-- that runs in UTC.
def countByDay (since : Int) (times : List Int) : List (Int × Nat) :=
  groupTotals dayOf (fun _ => 1) (times.filter fun time => since ≤ time)

def createdTimes (tickets : List Ticket) : List Int := tickets.map fun ticket => (ticket.createdAt : Int)

def resolvedTimes (tickets : List Ticket) : List Int :=
  tickets.filterMap fun ticket => ticket.resolvedAt.map fun resolvedAt : Nat => (resolvedAt : Int)

-- DashboardService.trends, as a process reads the days whose time zone has the offset.
def trends (offset now : Int) (days : Nat) (tickets : List Ticket) : List TrendDay :=
  let since := now - days * dayLength
  let toKey (row : Int × Nat) : List Char × Nat := (isoDate (readDate offset row.1), row.2)
  let createdByDay := (countByDay since (createdTimes tickets)).map toKey
  let resolvedByDay := (countByDay since (resolvedTimes tickets)).map toKey
  (List.range days).map fun j : Nat =>
    let i : Int := days - 1 - j
    let date := makeDate (dayOf now) 0
    let key := isoDate (setUTCDate date (getUTCDate date - i))
    { date := key
      created := (mapGet createdByDay key).getD 0
      resolved := (mapGet resolvedByDay key).getD 0 }

def countOn (times : List Int) (day : Int) : Nat := times.countP fun time => dayOf time = day

-- The last days up to the one the clock is on, each with its own counts.
def trendDays (now : Int) (days : Nat) (tickets : List Ticket) : List TrendDay :=
  (List.range (dayOf now + 1 - (dayOf now + 1 - days)).toNat).map fun i : Nat =>
    let day := dayOf now + 1 - days + i
    ⟨isoDate (makeDate day 0), countOn (createdTimes tickets) day, countOn (resolvedTimes tickets) day⟩

variable {offset now : Int} {days : Nat}

theorem groupTotal_one (times : List Int) (day : Int) :
    groupTotal dayOf (fun _ => 1) times day = countOn times day := by
  rw [groupTotal, List.map_const', List.sum_replicate, smul_eq_mul, mul_one, countOn,
    List.countP_eq_length_filter]

-- Under the key of a day stand the counts of the day whose local midnight is on it.
theorem get_countByDay {time : Int} (h : FourDigitYear time) (since : Int) (times : List Int) :
    (mapGet ((countByDay since times).map fun row => (isoDate (readDate offset row.1), row.2)) (isoDate time)).getD
        0 = countOn (times.filter fun time => since ≤ time) (dayOf time - dayOf (-offset)) := by
  have hday : ∀ row : Int × Nat, decide (dayOf (readDate offset row.1) = dayOf time) =
      decide (row.1 = dayOf time - dayOf (-offset)) := by
    intro row
    apply decide_eq_decide.mpr
    rw [dayOf_readDate]
    omega
  have hget := mapGet_isoDate h (countByDay since times) (fun row => readDate offset row.1) Prod.snd
  simp only [hday] at hget
  rw [hget, countByDay, filter_groupTotals, ← groupTotal_one]
  split
  · rfl
  · rename_i hnone
    rw [groupTotal_of_not_mem hnone]
    rfl

-- The days shown lie wholly after the time the rows are counted from.
theorem countOn_since (times : List Int) {day : Int} (hday : dayOf now - days < day) :
    countOn (times.filter fun time => now - days * dayLength ≤ time) day = countOn times day := by
  rw [countOn, countOn, List.countP_filter]
  apply List.countP_congr
  intro time _
  simp only [Bool.and_eq_true, decide_eq_true_eq, and_iff_left_iff_imp]
  intro heq
  unfold dayOf dayLength at *
  omega

theorem trends_eq (hfirst : FourDigitYear (makeDate (dayOf now + 1 - days) 0)) (hnow : FourDigitYear now)
    (hlow : -dayLength < offset) (hhigh : offset < dayLength) (tickets : List Ticket) :
    trends offset now days tickets =
      (List.range (dayOf now + 1 - (dayOf now + 1 - days)).toNat).map fun i : Nat =>
        let day := dayOf now + 1 - days + i
        ⟨isoDate (makeDate day 0), countOn (createdTimes tickets) (day - dayOf (-offset)),
          countOn (resolvedTimes tickets) (day - dayOf (-offset))⟩ := by
  have hcount : (dayOf now + 1 - (dayOf now + 1 - days)).toNat = days := by omega
  rw [trends, hcount]
  apply List.map_congr_left
  intro j hj
  have hlt := List.mem_range.mp hj
  have hshift := dayOf_offset (-offset) (by omega) (by omega)
  have hdate : setUTCDate (makeDate (dayOf now) 0) (getUTCDate (makeDate (dayOf now) 0) - ((days : Int) - 1 - j)) =
      makeDate (dayOf now + 1 - days + j) 0 := by
    rw [Int.sub_eq_add_neg, setUTCDate_add]
    unfold makeDate dayLength
    omega
  have hday : dayOf (makeDate (dayOf now + 1 - days + j) 0) = dayOf now + 1 - days + j := dayOf_makeDate _ 0
  have hyear : FourDigitYear (makeDate (dayOf now + 1 - days + j) 0) := by
    apply fourDigitYear_between hfirst hnow
    · unfold makeDate dayLength
      omega
    · unfold makeDate dayOf dayLength
      omega
  have hafter : dayOf now - days < dayOf now + 1 - days + j - dayOf (-offset) := by
    split at hshift <;> omega
  simp only [hdate, get_countByDay hyear, hday, countOn_since _ hafter]

-- Ahead of UTC each day is shown the counts of the next.
theorem trends_iff (offset : Int) (hfirst : FourDigitYear (makeDate (dayOf now + 1 - days) 0)) (hnow : FourDigitYear now)
    (hlow : -dayLength < offset) (hhigh : offset < dayLength) (tickets : List Ticket) :
    trends offset now days tickets = trendDays now days tickets ↔
      offset ≤ 0 ∨ ∀ day, dayOf now + 1 - days ≤ day → day ≤ dayOf now →
        countOn (createdTimes tickets) (day + 1) = countOn (createdTimes tickets) day ∧
          countOn (resolvedTimes tickets) (day + 1) = countOn (resolvedTimes tickets) day := by
  have hdays := forall_range_days (fun day =>
    (⟨isoDate (makeDate day 0), countOn (createdTimes tickets) (day - dayOf (-offset)),
      countOn (resolvedTimes tickets) (day - dayOf (-offset))⟩ : TrendDay) =
        ⟨isoDate (makeDate day 0), countOn (createdTimes tickets) day, countOn (resolvedTimes tickets) day⟩)
    (dayOf now + 1 - days) (dayOf now)
  rw [trends_eq hfirst hnow hlow hhigh, trendDays, List.map_inj_left]
  refine hdays.trans ?_
  rw [dayOf_offset (-offset) (by omega) (by omega)]
  by_cases hahead : 0 < offset
  · rw [if_pos (by omega)]
    simp only [Int.sub_neg, TrendDay.mk.injEq, true_and, Int.not_le.mpr hahead, false_or]
  · rw [if_neg (by omega)]
    simp [Int.not_lt.mp hahead]

end CloudOps.Ticketing
