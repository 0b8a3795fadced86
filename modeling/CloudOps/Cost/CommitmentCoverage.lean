import CloudOps.GroupedSums
import CloudOps.Cost.CostLineItem
import CloudOps.Js.Dates
import Mathlib.Algebra.Order.Field.Rat

namespace CloudOps.Cost

open CloudOps.CappedSums CloudOps.GroupTotals
open CloudOps.ReadCommitted (Table)
open CloudOps.Ticketing (Uuid)

-- The day of a date, counted from 1970 on.
def Date.toDay (date : Date) : Int := Js.makeDay date.year (date.month - 1) date.day

structure DailySpendRow where
  usageDate : Int
  amount : ℚ

-- byDay.get(..): of several rows of a day the Map keeps the last.
def amountOn (rows : List DailySpendRow) (day : Int) : Option ℚ :=
  ((rows.filter fun row => row.usageDate = day).getLast?).map DailySpendRow.amount

def buildDailySpend (startDate endDate : Int) (rows : List DailySpendRow) : List ℚ :=
  (List.range (endDate + 1 - startDate).toNat).map fun i : Nat => (amountOn rows (startDate + i)).getD 0

structure CoverageResult where
  totalSpend : ℚ
  coveredSpend : ℚ
  coveragePct : ℚ

def computeCoverage (dailySpend : List ℚ) (dailyCommitmentAmount : ℚ) : CoverageResult :=
  let totalSpend := dailySpend.sum
  let coveredSpend := (dailySpend.map fun v => min v dailyCommitmentAmount).sum
  { totalSpend := totalSpend
    coveredSpend := coveredSpend
    coveragePct := if 0 < totalSpend then coveredSpend / totalSpend * 100 else 0 }

structure UtilizationResult where
  committedTotal : ℚ
  usedTotal : ℚ
  utilizationPct : ℚ
  wastedAmount : ℚ

def computeUtilization (dailySpend : List ℚ) (dailyCommitmentAmount : ℚ) : UtilizationResult :=
  let committedTotal := dailyCommitmentAmount * dailySpend.length
  let usedTotal := (dailySpend.map fun v => min v dailyCommitmentAmount).sum
  { committedTotal := committedTotal
    usedTotal := usedTotal
    utilizationPct := if 0 < committedTotal then usedTotal / committedTotal * 100 else 0
    wastedAmount := max 0 (committedTotal - usedTotal) }

-- Of an account, or of any.
def inScope (cloudCredentialId : Option Uuid) (item : LineItemKey × CostLineItem) : Bool :=
  match cloudCredentialId with
  | none => true
  | some id => item.1.cloudCredentialId = id

-- SELECT usage_date, SUM(amount) .. GROUP BY usage_date
def spendByDay (items : List (LineItemKey × CostLineItem)) : List DailySpendRow :=
  (groupTotals (fun item => item.1.usageDate.toDay) (fun item => item.2.amount) items).map fun group =>
    ⟨group.1, group.2⟩

structure Commitment where
  cloudCredentialId : Uuid
  service : String
  region : Option String
  hourlyCommitment : ℚ
  startDate : Int
  endDate : Int

structure CommitmentCoverage where
  commitment : Commitment
  coverage : Option CoverageResult
  utilization : Option UtilizationResult
  reason : Option String

def loadDailySpend (costLineItems : Table LineItemKey CostLineItem) (cloudCredentialId : Uuid) (service : String)
    (region : Option String) (startDate endDate : Int) : List ℚ :=
  let rows := costLineItems.rows.filter fun item =>
    item.1.cloudCredentialId = cloudCredentialId && item.1.service = service && item.2.region = region &&
      startDate ≤ item.1.usageDate.toDay && item.1.usageDate.toDay ≤ endDate
  buildDailySpend startDate endDate (spendByDay rows)

-- CommitmentsService.getCoverage
def getCoverage (commitments : Table Uuid Commitment) (costLineItems : Table LineItemKey CostLineItem) (today : Int)
    (id : Uuid) : Except ServiceError CommitmentCoverage := do
  match commitments.lookup id with
  | none => throw (.notFound s!"Commitment {id} not found")
  | some commitment =>
      let endDate := min commitment.endDate today
      if endDate < commitment.startDate then
        return {
          commitment := commitment
          coverage := none
          utilization := none
          reason := some "commitment term has not started yet" }
      else
        let dailySpend := loadDailySpend costLineItems commitment.cloudCredentialId commitment.service
          commitment.region commitment.startDate endDate
        let dailyCommitmentAmount := commitment.hourlyCommitment * 24
        return {
          commitment := commitment
          coverage := some (computeCoverage dailySpend dailyCommitmentAmount)
          utilization := some (computeUtilization dailySpend dailyCommitmentAmount)
          reason := none }

section DailySpend

variable {items : List (LineItemKey × CostLineItem)}

-- What the items of a day come to.
def spendOn (items : List (LineItemKey × CostLineItem)) (day : Int) : ℚ :=
  groupTotal (fun item => item.1.usageDate.toDay) (fun item => item.2.amount) items day

theorem amountOn_spendByDay (items : List (LineItemKey × CostLineItem)) (day : Int) :
    (amountOn (spendByDay items) day).getD 0 = spendOn items day := by
  rw [amountOn, spendByDay, List.filter_map, Function.comp_def, filter_groupTotals]
  by_cases hday : day ∈ groups (fun item : LineItemKey × CostLineItem => item.1.usageDate.toDay) items
  · rw [if_pos hday]
    rfl
  · rw [if_neg hday, spendOn, groupTotal_of_not_mem hday]
    rfl

theorem buildDailySpend_spendByDay (items : List (LineItemKey × CostLineItem)) (startDate endDate : Int) :
    buildDailySpend startDate endDate (spendByDay items) =
      (List.range (endDate + 1 - startDate).toNat).map fun i : Nat => spendOn items (startDate + i) := by
  unfold buildDailySpend
  simp only [amountOn_spendByDay]

theorem spendOn_nonneg (hitems : ∀ item ∈ items, 0 ≤ item.2.amount) (day : Int) : 0 ≤ spendOn items day := by
  apply List.sum_nonneg
  intro amount hmem
  obtain ⟨item, hitem, rfl⟩ := List.mem_map.mp hmem
  exact hitems item (List.mem_of_mem_filter hitem)

theorem loadDailySpend_nonneg {costLineItems : Table LineItemKey CostLineItem}
    (hitems : ∀ item ∈ costLineItems.rows, 0 ≤ item.2.amount) (cloudCredentialId : Uuid) (service : String)
    (region : Option String) (startDate endDate : Int) :
    ∀ amount ∈ loadDailySpend costLineItems cloudCredentialId service region startDate endDate, 0 ≤ amount := by
  intro amount hmem
  rw [loadDailySpend, buildDailySpend_spendByDay] at hmem
  obtain ⟨i, _, rfl⟩ := List.mem_map.mp hmem
  exact spendOn_nonneg (fun item hitem => hitems item (List.mem_of_mem_filter hitem)) _

-- Filling in the days without items leaves the total as it is.
theorem sum_buildDailySpend {startDate endDate : Int}
    (hin : ∀ item ∈ items, startDate ≤ item.1.usageDate.toDay ∧ item.1.usageDate.toDay ≤ endDate) :
    (buildDailySpend startDate endDate (spendByDay items)).sum = (items.map fun item => item.2.amount).sum := by
  have hdays : (List.range (endDate + 1 - startDate).toNat).map (fun i : Nat => spendOn items (startDate + i)) =
      ((List.range (endDate + 1 - startDate).toNat).map fun i : Nat => startDate + i).map (spendOn items) := by
    rw [List.map_map]
    rfl
  rw [buildDailySpend_spendByDay, hdays]
  apply sum_groupTotal
  · apply List.Nodup.map _ List.nodup_range
    intro i j heq
    simpa using heq
  · intro item hitem
    have hday := hin item hitem
    rw [List.mem_map]
    exact ⟨(item.1.usageDate.toDay - startDate).toNat, List.mem_range.mpr (by omega), by omega⟩

end DailySpend

end CloudOps.Cost
