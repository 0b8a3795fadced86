import CloudOps.Monitoring.Checks
import CloudOps.Monitoring.Debounce

namespace CloudOps.Monitoring

open CloudOps.ReadCommitted

-- The samples an anomaly rule takes for its baseline, newest first.
def AlertRule.baseline (rule : AlertRule) (values : List (Option Float)) : List Float :=
  ((values.take (rule.forConsecutive + ANOMALY_BASELINE_WINDOW)).drop rule.forConsecutive).filterMap
    fun value => value

-- The bad condition of a metric rule.
def AlertRule.badValue (rule : AlertRule) (values : List (Option Float)) (value : Float) : Bool :=
  if rule.ruleKind = .threshold then compare value rule.comparator rule.threshold
  else detectMetricAnomaly (rule.baseline values) value rule.anomalySensitivity

-- The sample a metric rule goes by: a threshold rule by what the newest check
-- carries, an anomaly rule by the newest value among the last few checks.
def AlertRule.latestSample (rule : AlertRule) (values : List (Option Float)) : Option Float :=
  if rule.ruleKind = .threshold then values.head?.join
  else ((values.take rule.forConsecutive).filterMap fun value => value).head?

-- The newest check carries a value of the metric and the value is not bad.
def NewestIsGood (rule : AlertRule) (checks : List MonitorCheck) : Prop :=
  ∃ valueSql newest value, metricValueSql rule.metric = .ok valueSql ∧
    (latestFirst checks).head? = some newest ∧ valueSql newest = some value ∧
    rule.badValue ((latestFirst checks).map valueSql) value = false

-- The sample the rule goes by is missing, or it is not bad.
def NothingBad (rule : AlertRule) (checks : List MonitorCheck) : Prop :=
  ∃ valueSql, metricValueSql rule.metric = .ok valueSql ∧
    ∀ value ∈ rule.latestSample ((latestFirst checks).map valueSql),
      rule.badValue ((latestFirst checks).map valueSql) value = false

-- A value that the newest check does carry is not bad.
def NewestNotBad (rule : AlertRule) (checks : List MonitorCheck) : Prop :=
  ∀ valueSql newest value, metricValueSql rule.metric = .ok valueSql →
    (latestFirst checks).head? = some newest → valueSql newest = some value →
    rule.badValue ((latestFirst checks).map valueSql) value = false

section Step

variable {texts : ReasonTexts} {rule : AlertRule} {monitor : EvaluatedMonitor}
  {checks : List MonitorCheck} {valueSql : MonitorCheck → Option Float}

-- Every evaluation of a metric rule goes by that sample.
theorem metricEval_isBad (checks : List MonitorCheck) (hkind : rule.ruleKind ≠ .status)
    (hpos : 1 ≤ rule.forConsecutive) (hsql : metricValueSql rule.metric = .ok valueSql) :
    ∃ metric, rule.metricEval checks = .ok (some metric) ∧
      metric.isBad = (rule.latestSample ((latestFirst checks).map valueSql)).any
        (rule.badValue ((latestFirst checks).map valueSql)) := by
  have hok : rule.metricEval checks = .ok (some (if rule.ruleKind = .threshold then
      evaluateThresholdRule rule ((latestFirst checks).map valueSql)
      else evaluateAnomalyRule rule ((latestFirst checks).map valueSql))) := by
    simp only [AlertRule.metricEval, if_neg hkind, evaluateMetricRule, hsql]
    rfl
  refine ⟨_, hok, ?_⟩
  by_cases hthreshold : rule.ruleKind = .threshold
  · have hbad : rule.badValue ((latestFirst checks).map valueSql) =
        fun value => compare value rule.comparator rule.threshold := by
      funext value
      rw [AlertRule.badValue, if_pos hthreshold]
    rw [if_pos hthreshold, AlertRule.latestSample, if_pos hthreshold, hbad]
    simp only [evaluateThresholdRule, List.head?_take, if_neg (Nat.ne_of_gt hpos)]
  · have hbad : rule.badValue ((latestFirst checks).map valueSql) = fun value =>
        detectMetricAnomaly (rule.baseline ((latestFirst checks).map valueSql)) value
          rule.anomalySensitivity := by
      funext value
      rw [AlertRule.badValue, if_neg hthreshold]
    have hwindow : ((((latestFirst checks).map valueSql).take
        (rule.forConsecutive + ANOMALY_BASELINE_WINDOW)).take rule.forConsecutive) =
        ((latestFirst checks).map valueSql).take rule.forConsecutive := by
      rw [List.take_take, Nat.min_eq_left (Nat.le_add_right _ _)]
    rw [if_neg hthreshold, AlertRule.latestSample, if_neg hthreshold, hbad]
    simp only [evaluateAnomalyRule, hwindow]
    rfl

theorem nothingBad_iff (hsql : metricValueSql rule.metric = .ok valueSql) :
    NothingBad rule checks ↔ ∀ value ∈ rule.latestSample ((latestFirst checks).map valueSql),
      rule.badValue ((latestFirst checks).map valueSql) value = false := by
  constructor
  · rintro ⟨otherSql, hother, hbad⟩
    obtain rfl : valueSql = otherSql := Except.ok.inj (hsql.symm.trans hother)
    exact hbad
  · exact fun hbad => ⟨valueSql, hsql, hbad⟩

-- A value the newest check carries is the sample either kind of rule goes by.
theorem NothingBad.newestNotBad (hpos : 1 ≤ rule.forConsecutive) (h : NothingBad rule checks) :
    NewestNotBad rule checks := by
  obtain ⟨valueSql, hsql, hbad⟩ := h
  intro otherSql newest value hother hnewest hvalue
  obtain rfl : valueSql = otherSql := Except.ok.inj (hsql.symm.trans hother)
  refine hbad value ?_
  have hhead : ((latestFirst checks).map valueSql).head? = some (some value) := by
    rw [List.head?_map, hnewest, Option.map_some, hvalue]
  rw [Option.mem_def, AlertRule.latestSample]
  split
  · rw [hhead, Option.join_some]
  · obtain ⟨rest, hrest⟩ := List.head?_eq_some_iff.mp hhead
    obtain ⟨count, hcount⟩ := Nat.exists_eq_add_of_le' hpos
    rw [hrest, hcount, List.take_succ_cons]
    rfl

variable {state : Monitored} {probe : Probe}

theorem resolvesAlert_metric_iff (texts : ReasonTexts) (monitor : EvaluatedMonitor) (probe : Probe)
    (hkind : rule.ruleKind ≠ .status)
    (hpos : 1 ≤ rule.forConsecutive) (h : AtMostOneActive state.world.committed) :
    ResolvesAlert monitor state.world.committed (record texts rule monitor state probe).world.committed ↔
      activeAlerts monitor state.world.committed ≠ [] ∧
        NothingBad rule (state.checks ++ [probe.check]) := by
  have hticked : AtMostOneActive (state.world.tick probe.elapsed).committed := h
  have hrule : (readsOf rule (state.checks ++ [probe.check])).rule = some rule := rfl
  have hrecord : (record texts rule monitor state probe).world.committed =
      ((state.world.tick probe.elapsed).serve (alertService texts) probe.solo
        (.evaluate (readsOf rule (state.checks ++ [probe.check])) monitor
          probe.check.toCheckResult)).committed := rfl
  cases hsql : metricValueSql rule.metric with
  | error error =>
      have hmetric : rule.metricEval (state.checks ++ [probe.check]) = .error error := by
        simp only [AlertRule.metricEval, if_neg hkind, evaluateMetricRule, hsql]
        rfl
      rw [hrecord, serve_evaluate_error hrule hmetric]
      refine iff_of_false (not_resolvesAlert_self _ _) ?_
      rintro ⟨-, valueSql, hok, -⟩
      rw [hsql] at hok
      cases hok
  | ok valueSql =>
      obtain ⟨metric, hmetric, hbad⟩ := metricEval_isBad (state.checks ++ [probe.check]) hkind hpos hsql
      rw [hrecord]
      refine (resolvesAlert_serve hrule hmetric _ _ hticked).trans (and_congr_right fun _ => ?_)
      have hresolve : AlertRule.shouldResolve probe.check.toCheckResult (some metric) = true := rfl
      rw [and_iff_left hresolve, nothingBad_iff hsql, AlertRule.isBad, hbad, Option.any_eq_false]
      simp only [Option.mem_def]

end Step

-- What an evaluation does to an active alert of a metric rule: it resolves it
-- exactly if the sample it goes by is missing or not bad, and so never while the
-- newest check carries a bad value.
structure ResolvedOnSample (rule : AlertRule) (monitor : EvaluatedMonitor) (before after : Monitored) :
    Prop where
  resolves : ResolvesAlert monitor before.world.committed after.world.committed ↔
    activeAlerts monitor before.world.committed ≠ [] ∧ NothingBad rule after.checks
  newest : ResolvesAlert monitor before.world.committed after.world.committed →
    NewestNotBad rule after.checks

theorem metric_alerts_resolved_on_sample (texts : ReasonTexts) (rule : AlertRule)
    (monitor : EvaluatedMonitor) (hkind : rule.ruleKind ≠ .status) (hpos : 1 ≤ rule.forConsecutive)
    (start : Monitored) (hactive : AtMostOneActive start.world.committed) (probes : List Probe) :
    Runs.AllSteps (record texts rule monitor)
      (fun state probe => ResolvedOnSample rule monitor state (record texts rule monitor state probe))
      start probes := by
  refine Runs.allSteps_of_step (fun state => AtMostOneActive state.world.committed) hactive
    (fun state probe h => record_atMostOneActive h) (fun state probe h => ?_) probes
  have hresolves := resolvesAlert_metric_iff texts monitor probe hkind hpos h
  exact ⟨hresolves, fun hresolved => (hresolves.mp hresolved).2.newestNotBad hpos⟩

-- The reading under which a missing sample resolves nothing.
def MissingDataNeverResolves (rule : AlertRule) (monitor : EvaluatedMonitor) (before after : Monitored) :
    Prop :=
  ResolvesAlert monitor before.world.committed after.world.committed → NewestIsGood rule after.checks

def cpuRule : AlertRule where
  id := 4
  ruleKind := .threshold
  statusIn := none
  severity := .warning
  metric := some "cpu_percent"
  comparator := some .gt
  threshold := some 90
  forConsecutive := 1
  anomalySensitivity := none

-- One report of a busy server, then the sweep finds the agent silent.
def busyThenSilent : List Probe :=
  [({ status := .critical, responseTimeMs := none, rawOutput := [("cpuPercent", 97)] }, 1),
    (checkAgentStaleness (some 1) 180 300000, 300000)].map fun (result, checkedAt) =>
      { check := { result with location := "default", checkedAt := checkedAt }
        elapsed := 300000
        solo := .counting Alert }

theorem busyThenSilent_resolved_on_sample :
    Runs.AllSteps (record plainTexts cpuRule exampleMonitor)
      (fun state probe => ResolvedOnSample cpuRule exampleMonitor state
        (record plainTexts cpuRule exampleMonitor state probe))
      (Monitored.start 0) busyThenSilent :=
  metric_alerts_resolved_on_sample plainTexts cpuRule exampleMonitor (by decide) (by decide)
    (Monitored.start 0) (Monitored.start_atMostOneActive 0) busyThenSilent

def busyAlert : Alert := .inserted 300000 3 4 .warning "api"

theorem silence_resolves_cpu_alert :
    ¬ Runs.AllSteps (record plainTexts cpuRule exampleMonitor)
      (fun state probe => MissingDataNeverResolves cpuRule exampleMonitor state
        (record plainTexts cpuRule exampleMonitor state probe))
      (Monitored.start 0) busyThenSilent := by
  rintro ⟨-, hsilent, -⟩
  obtain ⟨valueSql, newest, value, hsql, hnewest, hvalue, -⟩ := hsilent
    ⟨1, busyAlert, { busyAlert with status := .resolved, resolvedAt := some 600000 },
      by decide +kernel, by decide, by decide, by decide +kernel, rfl⟩
  obtain rfl := Except.ok.inj hsql
  obtain rfl := Option.some.inj hnewest
  cases hvalue

end CloudOps.Monitoring
