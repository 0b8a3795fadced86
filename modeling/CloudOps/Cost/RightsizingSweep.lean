import CloudOps.Cost.CostLineItem
import CloudOps.ReadCommitted.Program
import CloudOps.SharedTransaction
import Mathlib.Algebra.Order.Field.Rat

namespace CloudOps.Cost

open CloudOps.ReadCommitted
open CloudOps.Ticketing (Uuid)

inductive RecommendationType where
  | rightsize
  | idle
  | terminate
  deriving DecidableEq

inductive RecommendationStatus where
  | open
  | dismissed
  | ticketCreated
  | resolved
  deriving DecidableEq

structure Recommendation where
  resourceId : Uuid
  recommendationType : RecommendationType
  reasonText : String
  estimatedMonthlySaving : Option ℚ
  status : RecommendationStatus
  ticketId : Option Uuid
  createdAt : Nat
  updatedAt : Nat
  deriving DecidableEq

-- The unique index: (resource_id) WHERE status = 'open'.
def oneOpenPerResource (row other : Recommendation) : Bool :=
  row.status = .open && other.status = .open && row.resourceId = other.resourceId

theorem oneOpenPerResource_iff {row other : Recommendation} : oneOpenPerResource row other = true ↔
    row.status = .open ∧ other.status = .open ∧ row.resourceId = other.resourceId := by
  simp [oneOpenPerResource, and_assoc]

-- rightsizing_recommendations of one tenant, under its unique index.
structure Recommendations where
  rows : Table Uuid Recommendation
  oneOpen : ∀ id other row otherRow, rows.lookup id = some row → rows.lookup other = some otherRow →
    row.status = .open → otherRow.status = .open → row.resourceId = otherRow.resourceId → id = other

namespace Recommendations

def empty : Recommendations where
  rows := ∅
  oneOpen id other row otherRow hrow := by simp at hrow

theorem uniqueClash_eq_false {rows : Table Uuid Recommendation} {id : Uuid} {row : Recommendation} :
    uniqueClash oneOpenPerResource id row rows = false ↔ ∀ other otherRow, rows.lookup other = some otherRow →
      row.status = .open → otherRow.status = .open → row.resourceId = otherRow.resourceId → other = id := by
  simp only [uniqueClash, List.any_eq_false, Bool.and_eq_true, decide_eq_true_eq, not_and, Prod.forall,
    oneOpenPerResource_iff]
  constructor
  · intro h other otherRow hother hopen hotherOpen hresource
    by_contra hne
    exact h other otherRow (Table.mem_rows.mpr hother) hne hopen hotherOpen hresource
  · intro h other otherRow hmem hne hopen hotherOpen hresource
    exact hne (h other otherRow (Table.mem_rows.mp hmem) hopen hotherOpen hresource)

-- An INSERT or UPDATE of one row.
def put (table : Recommendations) (id : Uuid) (row : Recommendation) : Except String Recommendations :=
  if h : uniqueClash oneOpenPerResource id row table.rows = false then
    .ok {
      rows := table.rows.insert id row
      oneOpen := by
        have hclash := uniqueClash_eq_false.mp h
        intro first second firstRow secondRow hfirst hsecond hopen hsecondOpen hresource
        rw [Table.lookup_insert_eq] at hfirst hsecond
        split at hfirst
        · rename_i hid
          obtain rfl := Option.some.inj hfirst
          split at hsecond
          · rename_i hother
            exact hid.trans hother.symm
          · exact hid.trans (hclash second secondRow hsecond hopen hsecondOpen hresource).symm
        · split at hsecond
          · rename_i hid
            obtain rfl := Option.some.inj hsecond
            exact (hclash first firstRow hfirst hsecondOpen hopen hresource.symm).trans hid.symm
          · exact table.oneOpen first second firstRow secondRow hfirst hsecond hopen hsecondOpen hresource }
  else
    .error "duplicate key value violates unique constraint \"idx_rightsizing_recommendations_one_open_per_resource\""

-- SELECT id .. WHERE resource_id = $1 AND status = 'open'
def openRecommendation (table : Recommendations) (resourceId : Uuid) : Option (Uuid × Recommendation) :=
  table.rows.rows.find? fun found => found.2.resourceId = resourceId && found.2.status = .open

-- The resource has an open recommendation.
def HasOpen (table : Recommendations) (resourceId : Uuid) : Prop :=
  ∃ id row, table.rows.lookup id = some row ∧ row.resourceId = resourceId ∧ row.status = .open

variable {table : Recommendations} {resourceId id : Uuid} {row : Recommendation}

theorem openRecommendation_eq_some : table.openRecommendation resourceId = some (id, row) ↔
    table.rows.lookup id = some row ∧ row.resourceId = resourceId ∧ row.status = .open := by
  constructor
  · intro h
    have hmatch := List.find?_some h
    simp only [Bool.and_eq_true, decide_eq_true_eq] at hmatch
    exact ⟨Table.mem_rows.mp (List.mem_of_find?_eq_some h), hmatch⟩
  · rintro ⟨hrow, hresource, hopen⟩
    cases h : table.openRecommendation resourceId with
    | none =>
        have hnone := List.find?_eq_none.mp h (id, row) (Table.mem_rows.mpr hrow)
        simp [hresource, hopen] at hnone
    | some found =>
        obtain ⟨other, otherRow⟩ := found
        have hmatch := List.find?_some h
        simp only [Bool.and_eq_true, decide_eq_true_eq] at hmatch
        have hother := Table.mem_rows.mp (List.mem_of_find?_eq_some h)
        obtain rfl := table.oneOpen other id otherRow row hother hrow hmatch.2 hopen
          (hmatch.1.trans hresource.symm)
        rw [Option.some.inj (hother.symm.trans hrow)]

theorem openRecommendation_eq_none : table.openRecommendation resourceId = none ↔
    ¬ table.HasOpen resourceId := by
  rw [Option.eq_none_iff_forall_ne_some]
  simp only [HasOpen, ne_eq, Prod.forall, openRecommendation_eq_some, not_exists]

instance (table : Recommendations) (resourceId : Uuid) : Decidable (table.HasOpen resourceId) :=
  decidable_of_iff ((table.openRecommendation resourceId).isSome = true) (by
    rw [← not_iff_not, ← openRecommendation_eq_none]
    simp)

theorem rows_of_put {after : Recommendations} (h : table.put id row = .ok after) :
    after.rows = table.rows.insert id row := by
  unfold put at h
  split at h
  · obtain rfl := Except.ok.inj h
    rfl
  · cases h

-- A row that is not open, or whose resource has no other open one, may be written.
theorem put_ok (h : row.status = .open → ∀ other otherRow, table.rows.lookup other = some otherRow →
    otherRow.resourceId = row.resourceId → otherRow.status = .open → other = id) :
    ∃ after, table.put id row = .ok after := by
  have hclash : uniqueClash oneOpenPerResource id row table.rows = false :=
    uniqueClash_eq_false.mpr fun other otherRow hother hopen hotherOpen hresource =>
      h hopen other otherRow hother hresource.symm hotherOpen
  unfold put
  rw [dif_pos hclash]
  exact ⟨_, rfl⟩

end Recommendations

end CloudOps.Cost

namespace CloudOps.Cost

open CloudOps.ReadCommitted CloudOps.SharedTransaction
open CloudOps.Ticketing (Uuid)

def IDLE_THRESHOLD_PCT : ℚ := 5

def RIGHTSIZE_THRESHOLD_PCT : ℚ := 20

def LOOKBACK_DAYS : Nat := 14

structure CloudMetricMonitor where
  monitorId : Uuid
  resourceId : Uuid
  resourceName : String
  deriving DecidableEq

-- `value` is raw_output->>'value', where raw_output has that key; a JSON null is none.
structure MonitorCheck where
  monitorId : Uuid
  checkedAt : Nat
  value : Option (Option String)

-- What a pass reads and does not write: the tables of the other modules, the number
-- and text conversions of the database and the runtime, the ids it generates and
-- now(), with the day it is in. `fault` is an error of the query for a monitor's
-- samples that is not in the samples.
structure SweepReads where
  checks : List MonitorCheck
  fault : Uuid → Option String
  castFloat : String → Option ℚ
  toFixed : ℚ → Nat → String
  cloudCredentialId : Uuid → Option Uuid
  servers : List (Uuid × Uuid)
  costLineItems : Table LineItemKey CostLineItem
  newId : Table Uuid Recommendation → Uuid
  fresh : ∀ rows, newId rows ∉ rows
  now : Nat
  today : Date

variable (reads : SweepReads)

def SweepReads.checkedValues (monitorId : Uuid) : List (Option String) :=
  reads.checks.filterMap fun check =>
    if check.monitorId = monitorId && decide (reads.now ≤ check.checkedAt + LOOKBACK_DAYS * 86400000) then
      check.value
    else none

-- AVG((raw_output->>'value')::float) and COUNT(*).
def SweepReads.utilization (monitorId : Uuid) : Except String (Option ℚ × Nat) := do
  if let some error := reads.fault monitorId then throw error
  let values := reads.checkedValues monitorId
  let numbers ← (values.filterMap id).mapM fun text =>
    match reads.castFloat text with
    | some number => .ok number
    | none => .error s!"invalid input syntax for type double precision: \"{text}\""
  return (if numbers = [] then none else some (numbers.sum / numbers.length), values.length)

def savingFraction : RecommendationType → ℚ
  | .idle => 1
  | .rightsize => 1 / 2
  | .terminate => 1

def generateRightsizingReasonText (resourceName : String) (type : RecommendationType) (avgUtilizationPct : ℚ) :
    String :=
  let pct := reads.toFixed avgUtilizationPct 1
  if type = .idle then
    s!"{resourceName}'s CPU utilization has averaged {pct}% over the last 14 days; consider stopping or terminating it."
  else
    s!"{resourceName}'s CPU utilization has averaged {pct}% over the last 14 days; consider downsizing to a smaller instance type."

-- Last month's spend of a cloud account.
def SweepReads.monthlySpend (cloudCredentialId : Uuid) : ℚ :=
  let lastMonth : SyncWindow := ⟨reads.today.firstOfMonth 1, reads.today.firstOfMonth 0⟩
  ((reads.costLineItems.rows.filter fun item =>
    item.1.cloudCredentialId = cloudCredentialId && lastMonth.contains item.1.usageDate).map
      fun item => item.2.amount).sum

def SweepReads.serverCount (cloudCredentialId : Uuid) : Nat :=
  (reads.servers.filter fun server => server.2 = cloudCredentialId).length

abbrev SweepM := SessionM String Recommendations

def inFailedTransaction : String :=
  "current transaction is aborted, commands ignored until end of transaction block"

variable {α : Type}

def select (answer : Recommendations → Except String α) : SweepM α :=
  statement inFailedTransaction fun table => (answer table).map fun value => (value, table)

def write (id : Uuid) (change : Table Uuid Recommendation → Option Recommendation) : SweepM Unit :=
  statement inFailedTransaction fun table =>
    match change table.rows with
    | none => .ok ((), table)
    | some row => (table.put id row).map fun after => ((), after)

-- UPDATE .. WHERE id = $1
def updateById (id : Uuid) (set : Recommendation → Recommendation) : SweepM Unit :=
  write id fun rows => (rows.lookup id).map set

def estimateMonthlySaving (resourceId : Uuid) (type : RecommendationType) : SweepM (Option ℚ) := do
  match ← select fun _ => .ok (reads.cloudCredentialId resourceId) with
  | none => return none
  | some cloudCredentialId =>
      let monthlySpend ← select fun _ => .ok (reads.monthlySpend cloudCredentialId)
      let resourceCount ← select fun _ => .ok (reads.serverCount cloudCredentialId)
      if monthlySpend ≤ 0 || resourceCount = 0 then return none
      else
        let perResourceSpend := monthlySpend / resourceCount
        return some (perResourceSpend * savingFraction type)

def recommendationTypeOf (avgValue : ℚ) : Option RecommendationType :=
  if avgValue < IDLE_THRESHOLD_PCT then some .idle
  else if avgValue < RIGHTSIZE_THRESHOLD_PCT then some .rightsize
  else none

def newRecommendation (resourceId : Uuid) (type : RecommendationType) (reasonText : String)
    (estimatedSaving : Option ℚ) : Recommendation where
  resourceId := resourceId
  recommendationType := type
  reasonText := reasonText
  estimatedMonthlySaving := estimatedSaving
  status := .open
  ticketId := none
  createdAt := reads.now
  updatedAt := reads.now

def insertRecommendation (row : Recommendation) : SweepM Uuid :=
  statement inFailedTransaction fun table =>
    (table.put (reads.newId table.rows) row).map fun after => (reads.newId table.rows, after)

-- RightsizingSweepService.evaluateMonitor
def evaluateMonitor (monitor : CloudMetricMonitor) : SweepM Bool := do
  let (avgValue, sampleCount) ← select fun _ => reads.utilization monitor.monitorId
  let openRec ← select fun table => .ok (table.openRecommendation monitor.resourceId)
  match avgValue with
  | none => return false
  | some avgValue =>
      if sampleCount = 0 then return false
      else match recommendationTypeOf avgValue with
        | none =>
            match openRec with
            | none => return false
            | some (id, _) =>
                updateById id fun row => { row with status := .resolved, updatedAt := reads.now }
                return false
        | some type =>
            let reasonText := generateRightsizingReasonText reads monitor.resourceName type avgValue
            let estimatedSaving ← estimateMonthlySaving reads monitor.resourceId type
            match openRec with
            | none =>
                let _ ← insertRecommendation reads
                  (newRecommendation reads monitor.resourceId type reasonText estimatedSaving)
                return true
            | some (id, _) =>
                updateById id fun row => { row with
                  recommendationType := type
                  reasonText := reasonText
                  estimatedMonthlySaving := estimatedSaving
                  updatedAt := reads.now }
                return true

-- RightsizingSweepService.sweepTenant, over the monitors its SELECT returned.
def sweepMonitors (monitors : List CloudMetricMonitor) : SweepM Nat :=
  countCaught (evaluateMonitor reads) monitors 0

end CloudOps.Cost
