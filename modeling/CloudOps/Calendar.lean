import Mathlib.Algebra.BigOperators.Group.List.Defs
import Mathlib.Algebra.Ring.Int.Defs
import Mathlib.Data.List.GetD
import Mathlib.Order.Monotone.Basic

namespace CloudOps.Calendar

-- The proleptic Gregorian calendar. Days are counted from the first of January 1970, and
-- months from the January of year zero.
def dayFromYear (year : Int) : Int :=
  365 * (year - 1970) + (year - 1969) / 4 - (year - 1901) / 100 + (year - 1601) / 400

def isLeapYear (year : Int) : Bool := year % 4 == 0 && (year % 100 != 0 || year % 400 == 0)

def monthLengths (leap : Bool) : List Int :=
  [31, if leap then 29 else 28, 31, 30, 31, 30, 31, 31, 30, 31, 30, 31]

def monthLength (month : Int) : Int := (monthLengths (isLeapYear (month / 12))).getD (month % 12).toNat 0

def monthStart (month : Int) : Int :=
  dayFromYear (month / 12) + ((monthLengths (isLeapYear (month / 12))).take (month % 12).toNat).sum

-- The year of the day by the mean length of a year, which is off by one at most.
def yearOf (day : Int) : Int :=
  let guess := 1970 + 400 * day / 146097
  if day < dayFromYear guess then guess - 1
  else if dayFromYear (guess + 1) ≤ day then guess + 1
  else guess

-- The place in a list of lengths of the one that a day lies in.
def indexIn (day : Int) : List Int → Nat
  | [] => 0
  | length :: rest => if day < length then 0 else indexIn (day - length) rest + 1

def monthOf (day : Int) : Int :=
  let year := yearOf day
  12 * year + indexIn (day - dayFromYear year) (monthLengths (isLeapYear year))

def dayOfMonth (day : Int) : Int := day - monthStart (monthOf day) + 1

-- Sunday is zero.
def dayOfWeek (day : Int) : Int := (day + 4) % 7

theorem yearOf_spec (day : Int) : dayFromYear (yearOf day) ≤ day ∧ day < dayFromYear (yearOf day + 1) := by
  have hguess : dayFromYear (1970 + 400 * day / 146097 - 1) ≤ day ∧
      day < dayFromYear (1970 + 400 * day / 146097 + 1 + 1) := by
    unfold dayFromYear
    omega
  unfold yearOf
  generalize 1970 + 400 * day / 146097 = guess at hguess ⊢
  by_cases hbefore : day < dayFromYear guess
  · simp only [hbefore, ite_true, Int.sub_add_cancel]
    exact ⟨hguess.1, trivial⟩
  · by_cases hafter : dayFromYear (guess + 1) ≤ day
    · simp only [hbefore, hafter, ite_true, ite_false]
      exact ⟨trivial, hguess.2⟩
    · simp only [hbefore, hafter, ite_false]
      omega

theorem monthLengths_sum (leap : Bool) : (monthLengths leap).sum = if leap then 366 else 365 := by
  cases leap <;> rfl

theorem dayFromYear_succ (year : Int) :
    dayFromYear (year + 1) = dayFromYear year + (monthLengths (isLeapYear year)).sum := by
  rw [monthLengths_sum]
  by_cases hleap : isLeapYear year = true
  · rw [if_pos hleap]
    simp only [isLeapYear, Bool.and_eq_true, Bool.or_eq_true, beq_iff_eq, bne_iff_ne] at hleap
    unfold dayFromYear
    omega
  · rw [if_neg hleap]
    simp only [isLeapYear, Bool.and_eq_true, Bool.or_eq_true, beq_iff_eq, bne_iff_ne] at hleap
    unfold dayFromYear
    omega

theorem dayFromYear_lt_succ (year : Int) : dayFromYear year < dayFromYear (year + 1) := by
  have hlength := monthLengths_sum (isLeapYear year)
  rw [dayFromYear_succ]
  split at hlength <;> omega

theorem lt_of_dayFromYear_lt {year other : Int} (h : dayFromYear year < dayFromYear other) : year < other :=
  (strictMono_int_of_lt_succ dayFromYear_lt_succ).lt_iff_lt.mp h

theorem yearOf_eq {day year : Int} (hstart : dayFromYear year ≤ day) (hend : day < dayFromYear (year + 1)) :
    yearOf day = year := by
  have hspec := yearOf_spec day
  have hle : yearOf day < year + 1 := lt_of_dayFromYear_lt (by omega)
  have hge : year < yearOf day + 1 := lt_of_dayFromYear_lt (by omega)
  omega

theorem indexIn_spec (day : Int) (lengths : List Int) (hpos : 0 ≤ day) (hlt : day < lengths.sum) :
    indexIn day lengths < lengths.length ∧ (lengths.take (indexIn day lengths)).sum ≤ day ∧
      day < (lengths.take (indexIn day lengths + 1)).sum := by
  induction lengths generalizing day with
  | nil => exact absurd hlt (by simpa using hpos)
  | cons length rest ih =>
      rw [List.sum_cons] at hlt
      unfold indexIn
      by_cases hfirst : day < length
      · simpa [hfirst] using hpos
      · have hrest := ih (day - length) (by omega) (by omega)
        simp only [hfirst, ite_false, List.take_succ_cons, List.sum_cons, List.length_cons]
        omega

theorem month_div (year : Int) {index : Nat} (h : index < 12) : (12 * year + index) / 12 = year := by omega

theorem month_mod (year : Int) {index : Nat} (h : index < 12) : ((12 * year + index) % 12).toNat = index := by omega

theorem monthStart_index (year : Int) {index : Nat} (h : index < 12) :
    monthStart (12 * year + index) = dayFromYear year + ((monthLengths (isLeapYear year)).take index).sum := by
  rw [monthStart, month_div year h, month_mod year h]

theorem exists_index (month : Int) : ∃ year, ∃ index < 12, month = 12 * year + (index : Nat) :=
  ⟨month / 12, (month % 12).toNat, by omega, by omega⟩

-- The month after December is the January of the next year.
theorem monthStart_index_succ (year : Int) {index : Nat} (h : index < 12) :
    monthStart (12 * year + index + 1) =
      dayFromYear year + ((monthLengths (isLeapYear year)).take (index + 1)).sum := by
  by_cases hlast : index = 11
  · have hnext : 12 * year + (index : Int) + 1 = 12 * (year + 1) + (0 : Nat) := by omega
    have hall : (monthLengths (isLeapYear year)).take (index + 1) = monthLengths (isLeapYear year) :=
      List.take_of_length_le (by rw [hlast]; exact Nat.le_refl 12)
    rw [hnext, monthStart_index _ (Nat.zero_lt_succ 11), List.take_zero, List.sum_nil, Int.add_zero,
      dayFromYear_succ, hall]
  · have hnext : 12 * year + (index : Int) + 1 = 12 * year + ((index + 1 : Nat) : Int) := by omega
    rw [hnext, monthStart_index year (by omega)]

theorem monthLength_index (year : Int) {index : Nat} (h : index < 12) :
    monthLength (12 * year + index) = (monthLengths (isLeapYear year)).getD index 0 := by
  rw [monthLength, month_div year h, month_mod year h]

theorem monthStart_succ (month : Int) : monthStart (month + 1) = monthStart month + monthLength month := by
  obtain ⟨year, index, hindex, rfl⟩ := exists_index month
  have hlength : index < (monthLengths (isLeapYear year)).length := hindex
  rw [monthStart_index_succ year hindex, monthStart_index year hindex, monthLength_index year hindex,
    List.take_succ_eq_append_getElem hlength, List.sum_append, List.sum_singleton,
    List.getD_eq_getElem _ _ hlength]
  omega

theorem mem_monthLengths {leap : Bool} {length : Int} (h : length ∈ monthLengths leap) :
    28 ≤ length ∧ length ≤ 31 := by
  have hcases : length = 31 ∨ length = 30 ∨ length = 29 ∨ length = 28 := by
    cases leap <;> simp [monthLengths] at h <;> omega
  omega

theorem monthLength_bounds (month : Int) : 28 ≤ monthLength month ∧ monthLength month ≤ 31 := by
  obtain ⟨year, index, hindex, rfl⟩ := exists_index month
  have hlength : index < (monthLengths (isLeapYear year)).length := hindex
  rw [monthLength_index year hindex, List.getD_eq_getElem _ _ hlength]
  exact mem_monthLengths (List.getElem_mem hlength)

theorem monthStart_lt_succ (month : Int) : monthStart month < monthStart (month + 1) := by
  have hsucc := monthStart_succ month
  have hlength := (monthLength_bounds month).1
  omega

theorem lt_of_monthStart_lt {month other : Int} (h : monthStart month < monthStart other) : month < other :=
  (strictMono_int_of_lt_succ monthStart_lt_succ).lt_iff_lt.mp h

theorem monthOf_spec (day : Int) : monthStart (monthOf day) ≤ day ∧ day < monthStart (monthOf day + 1) := by
  have hyear := yearOf_spec day
  rw [dayFromYear_succ] at hyear
  have hindex := indexIn_spec (day - dayFromYear (yearOf day)) (monthLengths (isLeapYear (yearOf day)))
    (by omega) (by omega)
  have hlt : indexIn (day - dayFromYear (yearOf day)) (monthLengths (isLeapYear (yearOf day))) < 12 := hindex.1
  unfold monthOf
  rw [monthStart_index _ hlt, monthStart_index_succ _ hlt]
  omega

-- The months part the days.
theorem monthOf_eq {day month : Int} (hstart : monthStart month ≤ day) (hend : day < monthStart (month + 1)) :
    monthOf day = month := by
  have hspec := monthOf_spec day
  have hle : monthOf day < month + 1 := lt_of_monthStart_lt (by omega)
  have hge : month < monthOf day + 1 := lt_of_monthStart_lt (by omega)
  omega

theorem monthOf_eq_iff {day month : Int} :
    monthOf day = month ↔ monthStart month ≤ day ∧ day < monthStart (month + 1) := by
  constructor
  · rintro rfl
    exact monthOf_spec day
  · exact fun h => monthOf_eq h.1 h.2

theorem dayOfMonth_bounds (day : Int) : 1 ≤ dayOfMonth day ∧ dayOfMonth day ≤ monthLength (monthOf day) := by
  have hspec := monthOf_spec day
  rw [monthStart_succ] at hspec
  unfold dayOfMonth
  omega

-- A day of a month, which runs on into the months after it where the month is shorter.
theorem monthOf_dayOf_eq_iff {month day : Int} (hday : 1 ≤ day) :
    monthOf (monthStart month + (day - 1)) = month ↔ day ≤ monthLength month := by
  rw [monthOf_eq_iff, monthStart_succ]
  omega

theorem dayOfMonth_dayOf {month day : Int} (hday : 1 ≤ day) (hfits : day ≤ monthLength month) :
    dayOfMonth (monthStart month + (day - 1)) = day := by
  rw [dayOfMonth, (monthOf_dayOf_eq_iff hday).mpr hfits]
  omega

theorem not_isLeapYear {year : Int} (h : year % 4 = 1) : isLeapYear year = false := by
  have hne : (year % 4 == 0) = false := by
    rw [h]
    rfl
  rw [isLeapYear, hne, Bool.false_and]

-- There is always a February of 28 days to come.
theorem exists_shortest (month : Int) : ∃ later, 0 < later ∧ monthLength (month + (later : Nat)) = 28 := by
  have hyear : ∃ year, month < 12 * year ∧ year % 4 = 1 := ⟨4 * (month / 12 / 4 + 1) + 1, by omega, by omega⟩
  obtain ⟨year, hlt, hmod⟩ := hyear
  refine ⟨(12 * year + 1 - month).toNat, by omega, ?_⟩
  have hmonth : month + ((12 * year + 1 - month).toNat : Int) = 12 * year + (1 : Nat) := by omega
  rw [hmonth, monthLength_index year (by decide), not_isLeapYear hmod]
  rfl

end CloudOps.Calendar
