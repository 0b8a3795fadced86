import CloudOps.Cost.CommitmentCoverage
import CloudOps.Cost.CostBillingSync
import CloudOps.Js.Number
import CloudOps.Runs

namespace CloudOps.Cost

open CloudOps.GroupTotals
open CloudOps.Js (castFloat mathRound numberToString)
open CloudOps.ReadCommitted (Table)
open CloudOps.Ticketing (Uuid)
open CloudOps.Transaction

structure AnomalyThresholds where
  minDeviationPct : Float
  minAbsoluteIncrease : Float

def DEFAULT_ANOMALY_THRESHOLDS : AnomalyThresholds where
  minDeviationPct := 50
  minAbsoluteIncrease := 5

structure AnomalyResult where
  isAnomaly : Bool
  deviationPct : Float

def detectAnomaly (baselineDaily actual : Float) (thresholds : AnomalyThresholds) : AnomalyResult :=
  let increase := actual - baselineDaily
  let deviationPct :=
    if 0.01 < baselineDaily then increase / baselineDaily * 100 else if 0 < actual then 1000 else 0
  { isAnomaly := thresholds.minAbsoluteIncrease ≤ increase && thresholds.minDeviationPct ≤ deviationPct
    deviationPct := mathRound deviationPct }

def anomalyReasonText (toFixed : Float → Nat → String) (service : String) (region : Option String)
    (baselineDaily actual deviationPct : Float) : String :=
  let place :=
    match truthy region with
    | some region => s!"{service} in {region}"
    | none => service
  s!"{place} spend rose {numberToString deviationPct}% to ${toFixed actual 2}/day "
    ++ s!"(baseline ~${toFixed baselineDaily 2}/day)."

inductive AnomalyStatus where
  | open
  | dismissed
  deriving DecidableEq

-- A row of cost_anomalies. Its unique index has the columns of the one on cost_line_items, and
-- its numeric columns hold the decimals of doubles.
structure CostAnomaly where
  region : Option String
  baselineAmount : Float
  actualAmount : Float
  deviationPct : Float
  reasonText : String
  status : AnomalyStatus

def CostAnomaly.LOOKBACK_DAYS : Nat := 14

structure BillStore extends CostStore where
  costAnomalies : Table LineItemKey CostAnomaly

-- What the spend is grouped by.
structure SpendGroup where
  cloudCredentialId : Uuid
  service : String
  region : Option String
  deriving DecidableEq

def SpendGroup.key (group : SpendGroup) (usageDate : Date) : LineItemKey :=
  ⟨group.cloudCredentialId, group.service, group.region.getD "", usageDate⟩

abbrev LineItem := LineItemKey × CostLineItem

def spendGroup (item : LineItem) : SpendGroup :=
  ⟨item.1.cloudCredentialId, item.1.service, item.2.region⟩

-- SELECT max(usage_date)
def latestDay (items : List LineItem) : Option Date :=
  items.foldl (fun latest item =>
    match latest with
    | none => some item.1.usageDate
    | some day => if day.before item.1.usageDate then some item.1.usageDate else some day) none

def itemsOn (items : List LineItem) (day : Date) : List LineItem :=
  items.filter fun item => item.1.usageDate = day

def lookbackItems (items : List LineItem) (day : Date) : List LineItem :=
  items.filter fun item =>
    day.toDay - CostAnomaly.LOOKBACK_DAYS ≤ item.1.usageDate.toDay && item.1.usageDate.before day

def spendOf (items : List LineItem) (group : SpendGroup) : ℚ :=
  groupTotal spendGroup (fun item => item.2.amount) items group

-- SUM(amount)::float
def actualOn (items : List LineItem) (day : Date) (group : SpendGroup) : Float :=
  castFloat (spendOf (itemsOn items day) group)

-- COALESCE(b.baseline, 0) with SUM(cli.amount)::float / 14: a group without rows in the window has
-- nothing to add up.
def baselineBefore (items : List LineItem) (day : Date) (group : SpendGroup) : Float :=
  castFloat (spendOf (lookbackItems items day) group) / .ofNat CostAnomaly.LOOKBACK_DAYS

structure ServiceDayRow where
  group : SpendGroup
  usageDate : Date
  actual : Float
  baseline : Float

def serviceDayRows (items : List LineItem) : List ServiceDayRow :=
  match latestDay items with
  | none => []
  | some day =>
      (groupTotals spendGroup (fun item => item.2.amount) (itemsOn items day)).map fun answer =>
        { group := answer.1
          usageDate := day
          actual := castFloat answer.2
          baseline := baselineBefore items day answer.1 }

def ServiceDayRow.key (row : ServiceDayRow) : LineItemKey := row.group.key row.usageDate

def ServiceDayRow.detected (row : ServiceDayRow) : AnomalyResult :=
  detectAnomaly row.baseline row.actual DEFAULT_ANOMALY_THRESHOLDS

variable (toFixed : Float → Nat → String)

-- The values of the INSERT.
def newAnomaly (row : ServiceDayRow) : CostAnomaly where
  region := row.group.region
  baselineAmount := row.baseline
  actualAmount := row.actual
  deviationPct := row.detected.deviationPct
  reasonText := anomalyReasonText toFixed row.group.service row.group.region row.baseline row.actual
    row.detected.deviationPct
  status := .open

-- INSERT .. ON CONFLICT (..) DO UPDATE: the row that is there keeps its region and status.
def upsertedAnomaly (row : ServiceDayRow) : Option CostAnomaly → CostAnomaly
  | none => newAnomaly toFixed row
  | some existing => { newAnomaly toFixed row with region := existing.region, status := existing.status }

def upsertAnomaly (anomalies : Table LineItemKey CostAnomaly) (row : ServiceDayRow) :
    Table LineItemKey CostAnomaly :=
  anomalies.insert row.key (upsertedAnomaly toFixed row (anomalies.lookup row.key))

def recordRows (anomalies : Table LineItemKey CostAnomaly) :
    List ServiceDayRow → Table LineItemKey CostAnomaly × Nat
  | [] => (anomalies, 0)
  | row :: rest =>
      if !row.detected.isAnomaly then recordRows anomalies rest
      else
        let (anomalies, recorded) := recordRows (upsertAnomaly toFixed anomalies row) rest
        (anomalies, recorded + 1)

-- CostAnomalyCheckService.checkTenant
def checkTenant (store : BillStore) : BillStore × Nat :=
  let (anomalies, recorded) := recordRows toFixed store.costAnomalies (serviceDayRows store.costLineItems.rows)
  ({ store with costAnomalies := anomalies }, recorded)

-- A revision of the bill is a sync of a credential, with whatever its client returns.
inductive BillEvent where
  | sync (client : CloudProviderClient) (credentialId : Uuid) (today : Date) (now : Nat)
  | check

variable (conv : Conversions)

def billStep (store : BillStore) : BillEvent → BillStore
  | .sync client credentialId today now =>
      { store with toCostStore := commit (syncCredential conv client credentialId today now) store.toCostStore }
  | .check => (checkTenant toFixed store).1

-- No line items and no anomalies yet.
def newTenant (lastPolledAt : Table Uuid (Option Nat)) : BillStore where
  costLineItems := ∅
  lastPolledAt := lastPolledAt
  costAnomalies := ∅

section Detection

variable {items : List LineItem} {day : Date} {group : SpendGroup}

-- The check finds an anomaly in the group's spend on the latest day.
def groupDetected (items : List LineItem) (group : SpendGroup) : Bool :=
  match latestDay items with
  | none => false
  | some day =>
      (detectAnomaly (baselineBefore items day group) (actualOn items day group)
        DEFAULT_ANOMALY_THRESHOLDS).isAnomaly

theorem detectAnomaly_zero (baseline : Float) :
    (detectAnomaly baseline 0 DEFAULT_ANOMALY_THRESHOLDS).isAnomaly = false := by
  unfold detectAnomaly DEFAULT_ANOMALY_THRESHOLDS
  rw [Bool.and_eq_false_iff, decide_eq_false_iff_not, decide_eq_false_iff_not]
  by_cases hsome : 0.01 < baseline
  · have hpos : 0 < baseline := Js.pos_of_lt (by decide +kernel) hsome
    exact .inl (Js.not_le_zero_sub (by decide +kernel) hpos)
  · rw [if_neg hsome, if_neg (Js.not_lt_self 0)]
    exact .inr (by decide +kernel)

-- A day of 15.30 after fourteen of 10.20 is half as much again, but not in doubles.
example : (detectAnomaly (castFloat (14 * (51 / 5)) / 14) (castFloat (153 / 10))
    DEFAULT_ANOMALY_THRESHOLDS).isAnomaly = false := by decide +kernel

-- A group that spent nothing on the day is not found.
theorem mem_groups_of_detected (hday : latestDay items = some day) (h : groupDetected items group = true) :
    group ∈ groups spendGroup (itemsOn items day) := by
  by_contra hnone
  unfold groupDetected at h
  rw [hday] at h
  dsimp only at h
  rw [actualOn, spendOf, groupTotal_of_not_mem hnone, show castFloat 0 = 0 by decide +kernel,
    detectAnomaly_zero] at h
  cases h

def groupRow (items : List LineItem) (day : Date) (group : SpendGroup) : ServiceDayRow where
  group := group
  usageDate := day
  actual := actualOn items day group
  baseline := baselineBefore items day group

theorem serviceDayRows_eq (hday : latestDay items = some day) :
    serviceDayRows items = (groups spendGroup (itemsOn items day)).map (groupRow items day) := by
  unfold serviceDayRows
  rw [hday]
  dsimp only
  rw [groupTotals, List.map_map]
  rfl

theorem isAnomaly_groupRow (hday : latestDay items = some day) :
    (groupRow items day group).detected.isAnomaly = groupDetected items group := by
  unfold groupDetected
  rw [hday]
  rfl

end Detection

end CloudOps.Cost
