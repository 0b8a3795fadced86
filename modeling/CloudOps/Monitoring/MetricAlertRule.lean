import CloudOps.Js.Number
import CloudOps.Js.Value
import CloudOps.Monitoring.Checks
import CloudOps.ServiceError

namespace CloudOps.Monitoring

open CloudOps.Js (castFloat)

inductive AlertRuleKind where
  | status
  | threshold
  | anomaly
  deriving DecidableEq

inductive MetricComparator where
  | gt
  | gte
  | lt
  | lte
  deriving DecidableEq

inductive Severity where
  | info
  | warning
  | critical
  deriving DecidableEq

-- A row of alert_rules. `statusIn` is `condition.statusIn`, absent where the JSON
-- has no such key; the columns that may hold NULL are optional.
structure AlertRule where
  id : Nat
  ruleKind : AlertRuleKind
  statusIn : Option (List String)
  severity : Severity
  metric : Option String
  comparator : Option MetricComparator
  threshold : Option Float
  forConsecutive : Nat
  anomalySensitivity : Option Float

-- `(mc.raw_output->>'key')::double precision`
def outputValue (key : String) (check : MonitorCheck) : Option Float := (check.rawOutput.lookup key).map castFloat

-- `METRIC_SQL`: what each allowed metric reads out of a check.
def METRIC_SQL : List (String × (MonitorCheck → Option Float)) :=
  [("response_time_ms", fun check => check.responseTimeMs.map castFloat),
   ("cpu_percent", outputValue "cpuPercent"),
   ("mem_percent", outputValue "memPercent"),
   ("disk_percent", outputValue "diskPercent"),
   ("cloud_metric_value", outputValue "value")]

def metricValueSql (metric : Option String) :
    Except ServiceError (MonitorCheck → Option Float) :=
  match metric.bind fun name => METRIC_SQL.lookup name with
  | some sql => .ok sql
  | none =>
      let name := metric.getD "null"
      .error (.error s!"Unknown alert rule metric \"{name}\"")

-- The expressions themselves, as `METRIC_SQL` has them.
def METRIC_SQL_TEXT : List (String × String) :=
  [("response_time_ms", "mc.response_time_ms::double precision"),
   ("cpu_percent", "(mc.raw_output->>'cpuPercent')::double precision"),
   ("mem_percent", "(mc.raw_output->>'memPercent')::double precision"),
   ("disk_percent", "(mc.raw_output->>'diskPercent')::double precision"),
   ("cloud_metric_value", "(mc.raw_output->>'value')::double precision")]

-- The text that `metricValueSql` returns. The map is an object literal, so that a name can
-- also be a property it inherits, and then the query is one the database rejects.
def metricValueSqlText (metric : String) : Except ServiceError String :=
  match (METRIC_SQL_TEXT.lookup metric).or (Js.objectPrototype.lookup metric) with
  | none | some "" => .error (.error s!"Unknown alert rule metric \"{metric}\"")
  | some sql => .ok sql

theorem lookup_isSome_congr {V W : Type} (name : String) :
    ∀ {map : List (String × V)} {other : List (String × W)}, map.map Prod.fst = other.map Prod.fst →
      (map.lookup name).isSome = (other.lookup name).isSome
  | [], [], _ => rfl
  | [], _ :: _, h => by simp at h
  | _ :: _, [], h => by simp at h
  | entry :: map, first :: other, h => by
      obtain ⟨hkey, hrest⟩ := List.cons.inj h
      have hkey : entry.1 = first.1 := hkey
      rw [List.lookup_cons, List.lookup_cons, hkey]
      cases name == first.1 with
      | true => rfl
      | false => exact lookup_isSome_congr name hrest

-- A rule has something to read exactly where its metric is in the table.
theorem metricValueSql_isOk (metric : String) :
    (metricValueSql metric).isOk = (METRIC_SQL_TEXT.lookup metric).isSome := by
  have hkeys : (METRIC_SQL.lookup metric).isSome = (METRIC_SQL_TEXT.lookup metric).isSome :=
    lookup_isSome_congr metric rfl
  rw [← hkeys, metricValueSql, Option.bind_some]
  cases METRIC_SQL.lookup metric <;> rfl

-- A comparison with a NULL threshold compares with 0, as JavaScript's `null` does;
-- a NULL comparator falls out of the switch, and `undefined` is not true.
def compare (value : Float) (comparator : Option MetricComparator) (threshold : Option Float) : Bool :=
  let threshold := threshold.getD 0
  match comparator with
  | some .gt => threshold < value
  | some .gte => threshold ≤ value
  | some .lt => value < threshold
  | some .lte => value ≤ threshold
  | none => false

def MIN_BASELINE_SAMPLES : Nat := 5

-- baseline.reduce(.., 0) / baseline.length
def mean (samples : List Float) : Float := samples.foldl (fun sum v => sum + v) 0 / .ofNat samples.length

-- JavaScript's `v ** 2` is the product.
def variance (samples : List Float) : Float :=
  samples.foldl (fun sum v => sum + (v - mean samples) * (v - mean samples)) 0 / .ofNat samples.length

-- `detectMetricAnomaly(...).isAnomaly`. A NULL sensitivity is compared as 0.
def detectMetricAnomaly (baseline : List Float) (latest : Float) (sensitivity : Option Float) : Bool :=
  if baseline.length < MIN_BASELINE_SAMPLES then false
  else
    let stddev := (variance baseline).sqrt
    if stddev == 0 then latest != mean baseline
    else
      let zScore := (latest - mean baseline) / stddev
      sensitivity.getD 0 ≤ zScore.abs

-- In doubles a flat baseline can have a mean beside it, and a deviation.
example : detectMetricAnomaly (List.replicate 30 72.1) 72.1 (some 1) = true ∧
    detectMetricAnomaly (List.replicate 30 72) 72 (some 1) = false := by decide +kernel

structure MetricEvaluation where
  isBad : Bool
  thresholdReached : Bool
  latestValue : Option Float

-- How far back an anomaly rule looks for its baseline, excluding the newest
-- `for_consecutive` samples being evaluated against it.
def ANOMALY_BASELINE_WINDOW : Nat := 30

def evaluateThresholdRule (rule : AlertRule) (values : List (Option Float)) : MetricEvaluation :=
  let rows := values.take rule.forConsecutive
  let bad := fun value : Option Float => value.any fun v => compare v rule.comparator rule.threshold
  let latestValue := rows.head?.join
  { isBad := bad latestValue
    thresholdReached := decide (rows.length = rule.forConsecutive) && rows.all bad
    latestValue := latestValue }

def evaluateAnomalyRule (rule : AlertRule) (values : List (Option Float)) : MetricEvaluation :=
  let rows := values.take (rule.forConsecutive + ANOMALY_BASELINE_WINDOW)
  let newest := (rows.take rule.forConsecutive).filterMap id
  let baseline := (rows.drop rule.forConsecutive).filterMap id
  let anomalous := fun value => detectMetricAnomaly baseline value rule.anomalySensitivity
  { isBad := newest.head?.any anomalous
    thresholdReached := decide (newest.length = rule.forConsecutive) && newest.all anomalous
    latestValue := newest.head? }

def evaluateMetricRule (rule : AlertRule) (checks : List MonitorCheck) :
    Except ServiceError MetricEvaluation := do
  let valueSql ← metricValueSql rule.metric
  let values := (latestFirst checks).map valueSql
  return if rule.ruleKind = .threshold then evaluateThresholdRule rule values
    else evaluateAnomalyRule rule values

end CloudOps.Monitoring
