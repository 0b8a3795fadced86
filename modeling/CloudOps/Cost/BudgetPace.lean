import CloudOps.Cost.CommitmentCoverage
import Mathlib.Algebra.Order.Round
import Mathlib.Data.Rat.Floor

namespace CloudOps.Cost

open CloudOps.Js
open CloudOps.Calendar (monthOf monthStart)
open CloudOps.ReadCommitted (Table)
open CloudOps.Ticketing (Uuid)

def INFO_THRESHOLD_PCT : ℚ := 10

inductive BudgetPaceSeverity where
  | info
  | warning
  | critical
  deriving DecidableEq

structure BudgetPaceInput where
  mtdSpend : ℚ
  previousMonthTotal : Option ℚ
  monthlyBudgetAmount : Option ℚ
  daysElapsed : Nat
  daysInMonth : Nat
  warningThresholdPct : ℚ
  criticalThresholdPct : ℚ

inductive BaselineSource where
  | budget
  | lastMonth
  deriving DecidableEq

structure BudgetPaceResult where
  projectedFullMonth : ℚ
  baseline : ℚ
  baselineSource : BaselineSource
  pctOverPace : ℚ
  severity : Option BudgetPaceSeverity
  hardCapBreached : Bool

def BudgetPaceInput.pctOverPace (input : BudgetPaceInput) (baseline : ℚ) : ℚ :=
  (input.mtdSpend / input.daysElapsed * input.daysInMonth - baseline) / baseline * 100

def BudgetPaceInput.hardCapBreached (input : BudgetPaceInput) : Bool :=
  match input.monthlyBudgetAmount with
  | none => false
  | some amount => amount < input.mtdSpend

def BudgetPaceInput.severity (input : BudgetPaceInput) (pctOverPace : ℚ) : Option BudgetPaceSeverity :=
  if input.hardCapBreached || input.criticalThresholdPct ≤ pctOverPace then some .critical
  else if input.warningThresholdPct ≤ pctOverPace then some .warning
  else if INFO_THRESHOLD_PCT ≤ pctOverPace then some .info
  else none

def calculateBudgetPace (input : BudgetPaceInput) : Option BudgetPaceResult :=
  if input.daysElapsed ≤ 0 then none
  else
    match input.monthlyBudgetAmount.or input.previousMonthTotal with
    | none => none
    | some baseline =>
        if baseline ≤ 0 then none
        else
          let pctOverPace := input.pctOverPace baseline
          some {
            projectedFullMonth := input.mtdSpend / input.daysElapsed * input.daysInMonth
            baseline := baseline
            baselineSource := if input.monthlyBudgetAmount.isSome then .budget else .lastMonth
            pctOverPace := pctOverPace
            severity := input.severity pctOverPace
            hardCapBreached := input.hardCapBreached }

def generateCostInsightText (toFixed : ℚ → Nat → String) (budgetName : String) (result : BudgetPaceResult) :
    String :=
  if result.hardCapBreached then
    s!"{budgetName} has already exceeded its monthly budget of {toFixed result.baseline 2} this month (spent so far puts it over, before the month is even out)."
  else
    let direction := if 0 ≤ result.pctOverPace then "rise" else "drop"
    let pct := (round result.pctOverPace).natAbs
    let baselineLabel := if result.baselineSource = .budget then "its budget" else "last month"
    s!"{budgetName}'s month-to-date spend is on pace to {direction} {pct}% versus {baselineLabel}, projected at {toFixed result.projectedFullMonth 2} for the full month."

structure CostBudgetRow where
  name : String
  cloudCredentialId : Option Uuid
  monthlyBudgetAmount : Option String
  paceWarningThresholdPct : Nat
  paceCriticalThresholdPct : Nat

-- The alert of a budget that is open or acknowledged.
structure BudgetAlert where
  severity : BudgetPaceSeverity
  reasonText : String
  repeatCount : Nat

-- What a check leaves: the open alert, whether it counts, and the call of notify.
structure BudgetCheck where
  openAlert : Option BudgetAlert
  alerted : Bool
  notified : Option (BudgetPaceSeverity × String)

-- What a check reads: the line items of the tenant, the runtime's time, the day now() is
-- on in the database, and Number and toFixed.
structure PaceReads where
  costLineItems : Table LineItemKey CostLineItem
  now : Int
  databaseToday : Int
  number : String → ℚ
  toFixed : ℚ → Nat → String

def BudgetPaceSeverity.rank : BudgetPaceSeverity → Nat
  | info => 1
  | warning => 2
  | critical => 3

variable (reads : PaceReads)

-- COALESCE(SUM(amount), 0), of the budget's account from some day on.
def PaceReads.spend (cloudCredentialId : Option Uuid) (inPeriod : Int → Bool) : ℚ :=
  ((reads.costLineItems.rows.filter fun item =>
    inScope cloudCredentialId item && inPeriod item.1.usageDate.toDay).map fun item => item.2.amount).sum

def PaceReads.paceInput (budget : CostBudgetRow) : BudgetPaceInput :=
  let thisMonth := monthOf reads.databaseToday
  let previous := reads.spend budget.cloudCredentialId fun day =>
    monthStart (thisMonth - 1) ≤ day && day < monthStart thisMonth
  { mtdSpend := reads.spend budget.cloudCredentialId fun day => monthStart thisMonth ≤ day
    previousMonthTotal := if 0 < previous then some previous else none
    monthlyBudgetAmount := (truthy budget.monthlyBudgetAmount).map reads.number
    daysElapsed := (getUTCDate reads.now).toNat
    daysInMonth :=
      (getUTCDate (dateUTC (getUTCFullYear reads.now) (getUTCMonth reads.now + 1) 0)).toNat
    warningThresholdPct := budget.paceWarningThresholdPct
    criticalThresholdPct := budget.paceCriticalThresholdPct }

-- CostPaceCheckService.checkBudget
def checkBudget (budget : CostBudgetRow) (openAlert : Option BudgetAlert) : BudgetCheck :=
  match (calculateBudgetPace (reads.paceInput budget)).bind fun result => result.severity.map (result, ·) with
  | none => ⟨none, false, none⟩
  | some (result, severity) =>
      let reasonText := generateCostInsightText reads.toFixed budget.name result
      match openAlert with
      | none => ⟨some ⟨severity, reasonText, 0⟩, true, some (severity, reasonText)⟩
      | some alert =>
          { openAlert := some ⟨severity, reasonText, alert.repeatCount + 1⟩
            alerted := true
            notified := if alert.severity.rank < severity.rank then some (severity, reasonText) else none }

section Severity

variable {input : BudgetPaceInput} {baseline spend : ℚ}

-- None, info, warning, critical.
def severityRank (severity : Option BudgetPaceSeverity) : Nat := severity.elim 0 BudgetPaceSeverity.rank

def severityOf (input : BudgetPaceInput) : Option BudgetPaceSeverity :=
  (calculateBudgetPace input).bind BudgetPaceResult.severity

def BudgetPaceInput.withSpend (input : BudgetPaceInput) (spend : ℚ) : BudgetPaceInput :=
  { input with mtdSpend := spend }

theorem pctOverPace_mono (hbaseline : 0 < baseline) (hle : input.mtdSpend ≤ spend) :
    input.pctOverPace baseline ≤ (input.withSpend spend).pctOverPace baseline := by
  have hdaily : input.mtdSpend / input.daysElapsed ≤ spend / input.daysElapsed :=
    div_le_div_of_nonneg_right hle (Nat.cast_nonneg _)
  have hmonth := mul_le_mul_of_nonneg_right hdaily (Nat.cast_nonneg (α := ℚ) input.daysInMonth)
  unfold BudgetPaceInput.pctOverPace BudgetPaceInput.withSpend
  apply mul_le_mul_of_nonneg_right _ (by norm_num)
  exact div_le_div_of_nonneg_right (by linarith) hbaseline.le

theorem hardCapBreached_mono (hle : input.mtdSpend ≤ spend) (hbreached : input.hardCapBreached = true) :
    (input.withSpend spend).hardCapBreached = true := by
  unfold BudgetPaceInput.hardCapBreached BudgetPaceInput.withSpend at *
  cases hamount : input.monthlyBudgetAmount with
  | none =>
      rw [hamount] at hbreached
      cases hbreached
  | some amount =>
      simp only [hamount, decide_eq_true_eq] at hbreached ⊢
      exact hbreached.trans_le hle

-- The later cases are of lower severity, and a case left for an earlier one stays left.
theorem severity_mono {pct pct' : ℚ} (hpct : pct ≤ pct')
    (hcap : input.hardCapBreached = true → (input.withSpend spend).hardCapBreached = true) :
    severityRank (input.severity pct) ≤ severityRank ((input.withSpend spend).severity pct') := by
  unfold BudgetPaceInput.severity
  have hwarning : (input.withSpend spend).warningThresholdPct = input.warningThresholdPct := rfl
  have hcritical : (input.withSpend spend).criticalThresholdPct = input.criticalThresholdPct := rfl
  rw [hwarning, hcritical]
  simp only [Bool.or_eq_true, decide_eq_true_eq]
  by_cases htop : (input.withSpend spend).hardCapBreached = true ∨ input.criticalThresholdPct ≤ pct'
  · rw [if_pos htop]
    split
    · exact Nat.le_refl _
    · split
      · decide
      · split <;> decide
  · have hbelow : ¬(input.hardCapBreached = true ∨ input.criticalThresholdPct ≤ pct) := fun h =>
      htop (h.imp hcap fun hle => hle.trans hpct)
    rw [if_neg htop, if_neg hbelow]
    by_cases hwarn : input.warningThresholdPct ≤ pct'
    · rw [if_pos hwarn]
      split
      · exact Nat.le_refl _
      · split <;> decide
    · have hbelow' : ¬input.warningThresholdPct ≤ pct := fun h => hwarn (h.trans hpct)
      rw [if_neg hwarn, if_neg hbelow']
      by_cases hinfo : INFO_THRESHOLD_PCT ≤ pct
      · rw [if_pos hinfo, if_pos (hinfo.trans hpct)]
      · rw [if_neg hinfo]
        exact Nat.zero_le _

-- A budget with a positive baseline has a result, and another has none.
theorem calculateBudgetPace_of_pos (input : BudgetPaceInput) (hdays : 0 < input.daysElapsed)
    (hsome : input.monthlyBudgetAmount.or input.previousMonthTotal = some baseline) (hbaseline : 0 < baseline) :
    ∃ result, calculateBudgetPace input = some result ∧
      result.severity = input.severity (input.pctOverPace baseline) ∧
      result.hardCapBreached = input.hardCapBreached := by
  unfold calculateBudgetPace
  rw [if_neg (Nat.not_le.mpr hdays)]
  simp only [hsome, if_neg (not_le.mpr hbaseline)]
  exact ⟨_, rfl, rfl, rfl⟩

theorem calculateBudgetPace_of_nonpos
    (hnone : ∀ baseline ∈ input.monthlyBudgetAmount.or input.previousMonthTotal, baseline ≤ 0) :
    calculateBudgetPace input = none := by
  unfold calculateBudgetPace
  split
  · rfl
  · cases hbaseline : input.monthlyBudgetAmount.or input.previousMonthTotal with
    | none => rfl
    | some baseline => exact if_pos (hnone baseline hbaseline)

theorem severityOf_mono (hdays : 0 < input.daysElapsed) (hle : input.mtdSpend ≤ spend) :
    severityRank (severityOf input) ≤ severityRank (severityOf (input.withSpend spend)) := by
  by_cases hpos : ∃ baseline ∈ input.monthlyBudgetAmount.or input.previousMonthTotal, 0 < baseline
  · obtain ⟨baseline, hsome, hbaseline⟩ := hpos
    obtain ⟨result, hresult, hseverity, -⟩ := calculateBudgetPace_of_pos input hdays hsome hbaseline
    obtain ⟨result', hresult', hseverity', -⟩ :=
      calculateBudgetPace_of_pos (input.withSpend spend) hdays hsome hbaseline
    unfold severityOf
    rw [hresult, hresult', Option.bind_some, Option.bind_some, hseverity, hseverity']
    exact severity_mono (pctOverPace_mono hbaseline hle) (hardCapBreached_mono hle)
  · have hnone : calculateBudgetPace input = none :=
      calculateBudgetPace_of_nonpos fun baseline hmem => not_lt.mp fun hlt => hpos ⟨baseline, hmem, hlt⟩
    unfold severityOf
    rw [hnone]
    exact Nat.zero_le _

-- Spend over the amount set is critical.
def HardCapFires (input : BudgetPaceInput) : Prop :=
  ∀ amount ∈ input.monthlyBudgetAmount, amount < input.mtdSpend →
    ∃ result, calculateBudgetPace input = some result ∧ result.severity = some .critical ∧
      result.hardCapBreached = true

theorem hardCapFires_iff (hadmitted : ∀ amount ∈ input.monthlyBudgetAmount, 0 ≤ amount)
    (hdays : 0 < input.daysElapsed) :
    HardCapFires input ↔ (input.monthlyBudgetAmount = some 0 → input.mtdSpend ≤ 0) := by
  constructor
  · intro hfires hzero
    by_contra hspend
    have hnone : calculateBudgetPace input = none := by
      apply calculateBudgetPace_of_nonpos
      intro baseline hmem
      rw [hzero, Option.some_or, Option.mem_some_iff] at hmem
      exact hmem.ge
    obtain ⟨result, hresult, -⟩ := hfires 0 hzero (not_le.mp hspend)
    rw [hnone] at hresult
    cases hresult
  · intro hzero amount hamount hover
    have hpos : 0 < amount := by
      rcases (hadmitted amount hamount).eq_or_lt with rfl | hpos
      · exact absurd hover (not_lt.mpr (hzero hamount))
      · exact hpos
    have hsome : input.monthlyBudgetAmount.or input.previousMonthTotal = some amount := by
      rw [hamount, Option.some_or]
    have hbreached : input.hardCapBreached = true := by
      unfold BudgetPaceInput.hardCapBreached
      rw [hamount]
      exact decide_eq_true hover
    obtain ⟨result, hresult, hseverity, hcap⟩ := calculateBudgetPace_of_pos input hdays hsome hpos
    refine ⟨result, hresult, ?_, hcap.trans hbreached⟩
    rw [hseverity, BudgetPaceInput.severity, hbreached, Bool.true_or, if_pos rfl]

-- The severity never falls as the spend rises, and the cap fires but for a budget of zero.
theorem budget_severity_iff (input : BudgetPaceInput) (hadmitted : ∀ amount ∈ input.monthlyBudgetAmount, 0 ≤ amount)
    (hdays : 0 < input.daysElapsed) :
    ((∀ spend, input.mtdSpend ≤ spend →
        severityRank (severityOf input) ≤ severityRank (severityOf (input.withSpend spend))) ∧ HardCapFires input) ↔
      (input.monthlyBudgetAmount = some 0 → input.mtdSpend ≤ 0) := by
  rw [← hardCapFires_iff hadmitted hdays]
  exact and_iff_right fun spend hle => severityOf_mono hdays hle

def overBudget (amount : ℚ) : BudgetPaceInput where
  mtdSpend := 80
  previousMonthTotal := none
  monthlyBudgetAmount := some amount
  daysElapsed := 10
  daysInMonth := 30
  warningThresholdPct := 20
  criticalThresholdPct := 40

theorem budget_severity_iff_of_fifty :
    ((∀ spend, (overBudget 50).mtdSpend ≤ spend →
        severityRank (severityOf (overBudget 50)) ≤ severityRank (severityOf ((overBudget 50).withSpend spend))) ∧
      HardCapFires (overBudget 50)) ↔
        ((overBudget 50).monthlyBudgetAmount = some 0 → (overBudget 50).mtdSpend ≤ 0) :=
  budget_severity_iff (overBudget 50) (by decide +kernel) (by decide)

-- A spend of 80 on a budget of zero.
theorem zero_budget_is_silent :
    ¬ ∀ input : BudgetPaceInput, (∀ amount ∈ input.monthlyBudgetAmount, 0 ≤ amount) → 0 < input.daysElapsed →
      (∀ spend, input.mtdSpend ≤ spend →
        severityRank (severityOf input) ≤ severityRank (severityOf (input.withSpend spend))) ∧
      HardCapFires input := by
  intro hclaim
  have hadmitted : ∀ amount ∈ (overBudget 0).monthlyBudgetAmount, 0 ≤ amount := by
    intro amount hmem
    exact (Option.mem_some_iff.mp hmem).le
  obtain ⟨result, hresult, -⟩ := (hclaim (overBudget 0) hadmitted (by decide)).2 0 rfl (by decide +kernel)
  have hnone : (calculateBudgetPace (overBudget 0)).isNone = true := by decide +kernel
  rw [hresult] at hnone
  cases hnone

theorem daysElapsed_pos (reads : PaceReads) (budget : CostBudgetRow) : 0 < (reads.paceInput budget).daysElapsed := by
  have hdate := (Calendar.dayOfMonth_bounds (dayOf reads.now)).1
  have hdays : (reads.paceInput budget).daysElapsed = (getUTCDate reads.now).toNat := rfl
  rw [hdays, getUTCDate]
  omega

-- A budget above zero that is spent leaves an open critical alert.
theorem checkBudget_over (reads : PaceReads) (budget : CostBudgetRow) {amount : ℚ}
    (hamount : (reads.paceInput budget).monthlyBudgetAmount = some amount) (hpos : 0 < amount)
    (hover : amount < (reads.paceInput budget).mtdSpend) (openAlert : Option BudgetAlert) :
    ∃ alert, (checkBudget reads budget openAlert).openAlert = some alert ∧ alert.severity = .critical ∧
      (checkBudget reads budget openAlert).alerted = true := by
  have hadmitted : ∀ other ∈ (reads.paceInput budget).monthlyBudgetAmount, 0 ≤ other := by
    intro other hmem
    rw [hamount, Option.mem_some_iff] at hmem
    exact hmem ▸ hpos.le
  have hfires : HardCapFires (reads.paceInput budget) := by
    apply (hardCapFires_iff hadmitted (daysElapsed_pos reads budget)).mpr
    intro hzero
    rw [hamount] at hzero
    exact absurd (Option.some_inj.mp hzero) hpos.ne'
  obtain ⟨result, hresult, hseverity, -⟩ := hfires amount hamount hover
  unfold checkBudget
  simp only [hresult, Option.bind_some, hseverity, Option.map_some]
  cases openAlert with
  | none => exact ⟨_, rfl, rfl, rfl⟩
  | some alert => exact ⟨_, rfl, rfl, rfl⟩

-- Whatever has been spent, the check of a budget of zero resolves its alert.
theorem checkBudget_zero (reads : PaceReads) (budget : CostBudgetRow)
    (hzero : (reads.paceInput budget).monthlyBudgetAmount = some 0) (openAlert : Option BudgetAlert) :
    checkBudget reads budget openAlert = ⟨none, false, none⟩ := by
  have hnone : calculateBudgetPace (reads.paceInput budget) = none := by
    apply calculateBudgetPace_of_nonpos
    intro baseline hmem
    rw [hzero, Option.some_or, Option.mem_some_iff] at hmem
    exact hmem.ge
  unfold checkBudget
  rw [hnone]
  rfl

end Severity

end CloudOps.Cost
