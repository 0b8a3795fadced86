import CloudOps.ReadCommitted.Table
import Mathlib.Algebra.Order.Field.Rat
import Mathlib.Data.List.Dedup

namespace CloudOps.Monitoring

inductive CheckStatus where
  | up
  | down
  | critical
  | trouble
  deriving DecidableEq

def CheckStatus.text : CheckStatus → String
  | up => "up"
  | down => "down"
  | critical => "critical"
  | trouble => "trouble"

-- Of `raw_output` only the numeric entries take part in a decision; a numeric
-- column is an exact rational here.
structure CheckResult where
  status : CheckStatus
  responseTimeMs : Option Rat
  rawOutput : List (String × Rat)

-- A row of monitor_checks, all of one monitor. Instants are milliseconds.
structure MonitorCheck extends CheckResult where
  location : String
  checkedAt : Nat

-- ORDER BY checked_at DESC
def latestFirst (checks : List MonitorCheck) : List MonitorCheck :=
  checks.insertionSort fun a b => b.checkedAt ≤ a.checkedAt

-- SELECT DISTINCT ON (location) ... ORDER BY location, checked_at DESC
def latestPerLocation (checks : List MonitorCheck) : List MonitorCheck :=
  (checks.map MonitorCheck.location).dedup.filterMap fun location =>
    (latestFirst checks).find? fun check => check.location = location

theorem mem_latestFirst {checks : List MonitorCheck} {check : MonitorCheck} :
    check ∈ latestFirst checks ↔ check ∈ checks :=
  (List.perm_insertionSort _ checks).mem_iff

theorem latestFirst_sorted (checks : List MonitorCheck) :
    (latestFirst checks).Pairwise fun a b => b.checkedAt ≤ a.checkedAt :=
  ReadCommitted.pairwise_descending MonitorCheck.checkedAt checks

-- The first match in a list that is sorted is the greatest of all matches.
theorem le_of_find? {matching : MonitorCheck → Bool} {list : List MonitorCheck} {check other : MonitorCheck}
    (hsorted : list.Pairwise fun a b => b.checkedAt ≤ a.checkedAt)
    (hfind : list.find? matching = some check) (hother : other ∈ list) (hmatch : matching other = true) :
    other.checkedAt ≤ check.checkedAt := by
  induction list with
  | nil => simp at hother
  | cons head rest ih =>
      obtain ⟨hhead, hrest⟩ := List.pairwise_cons.mp hsorted
      cases hm : matching head with
      | true =>
          rw [List.find?_cons_of_pos hm] at hfind
          obtain rfl := Option.some.inj hfind
          rcases List.mem_cons.mp hother with rfl | hmem
          · exact Nat.le_refl _
          · exact hhead other hmem
      | false =>
          rw [List.find?_cons_of_neg (by simp [hm])] at hfind
          rcases List.mem_cons.mp hother with rfl | hmem
          · simp [hm] at hmatch
          · exact ih hrest hfind hmem

theorem mem_latestPerLocation {checks : List MonitorCheck} {check : MonitorCheck}
    (h : check ∈ latestPerLocation checks) :
    check ∈ checks ∧ ∀ other ∈ checks, other.location = check.location →
      other.checkedAt ≤ check.checkedAt := by
  obtain ⟨location, -, hfind⟩ := List.mem_filterMap.mp h
  have hlocation : check.location = location := by simpa using List.find?_some hfind
  refine ⟨mem_latestFirst.mp (List.mem_of_find?_eq_some hfind), fun other ho hsame => ?_⟩
  exact le_of_find? (latestFirst_sorted checks) hfind (mem_latestFirst.mpr ho)
    (by simpa using hsame.trans hlocation)

-- One row a location.
theorem nodup_latestPerLocation (checks : List MonitorCheck) :
    ((latestPerLocation checks).map MonitorCheck.location).Nodup := by
  have hsublist : ∀ locations : List String,
      ((locations.filterMap fun location => (latestFirst checks).find? fun check =>
        check.location = location).map MonitorCheck.location).Sublist locations := by
    intro locations
    induction locations with
    | nil => exact List.Sublist.refl _
    | cons location rest ih =>
        rw [List.filterMap_cons]
        split
        · exact ih.cons location
        · rename_i check hfind
          have hlocation : check.location = location := by simpa using List.find?_some hfind
          rw [List.map_cons, hlocation]
          exact ih.cons_cons location
  exact (List.nodup_dedup _).sublist (hsublist _)

-- An older check goes to the end of a list of newer ones.
theorem orderedInsert_oldest (check : MonitorCheck) (newer : List MonitorCheck)
    (h : ∀ other ∈ newer, check.checkedAt < other.checkedAt) :
    newer.orderedInsert (fun a b => b.checkedAt ≤ a.checkedAt) check = newer ++ [check] := by
  induction newer with
  | nil => rfl
  | cons other rest ih =>
      have ho := h other (by simp)
      rw [List.orderedInsert, if_neg (by omega), ih fun next hn => h next (by simp [hn])]
      rfl

-- Checks recorded one at a time come back newest first.
theorem latestFirst_of_increasing {checks : List MonitorCheck}
    (h : checks.Pairwise fun a b => a.checkedAt < b.checkedAt) :
    latestFirst checks = checks.reverse := by
  induction checks with
  | nil => rfl
  | cons check rest ih =>
      obtain ⟨hc, hr⟩ := List.pairwise_cons.mp h
      have hrest := ih hr
      unfold latestFirst at hrest ⊢
      rw [List.insertionSort_cons, hrest, List.reverse_cons]
      exact orderedInsert_oldest check rest.reverse fun other ho => hc other (List.mem_reverse.mp ho)

-- The body of a report. A value may be absent, and the validation lets a JSON null
-- through, which a comparison reads as 0.
structure AgentReport where
  cpuPercent : Option (Option Rat)
  memPercent : Option (Option Rat)
  diskPercent : Option (Option Rat)

structure AgentReportThresholds where
  cpuWarnPercent : Option Rat
  cpuCriticalPercent : Option Rat
  memWarnPercent : Option Rat
  memCriticalPercent : Option Rat
  diskWarnPercent : Option Rat
  diskCriticalPercent : Option Rat

structure AgentMetric where
  name : String
  value : Option Rat
  warn : Rat
  critical : Rat

def AgentMetric.atLeast (metric : AgentMetric) (bound : Rat) : Bool :=
  decide (bound ≤ metric.value.getD 0)

def agentMetrics (config : AgentReportThresholds) (report : AgentReport) : List AgentMetric :=
  let cpu := report.cpuPercent.map fun value => AgentMetric.mk "cpu" value
    (config.cpuWarnPercent.getD 80) (config.cpuCriticalPercent.getD 95)
  let mem := report.memPercent.map fun value => AgentMetric.mk "mem" value
    (config.memWarnPercent.getD 85) (config.memCriticalPercent.getD 95)
  let disk := report.diskPercent.map fun value => AgentMetric.mk "disk" value
    (config.diskWarnPercent.getD 85) (config.diskCriticalPercent.getD 95)
  [cpu, mem, disk].filterMap id

def evaluateAgentReport (config : AgentReportThresholds) (report : AgentReport) : CheckResult :=
  let metrics := agentMetrics config report
  let rawOutput := metrics.filterMap fun metric =>
    metric.value.map fun value => (metric.name ++ "Percent", value)
  let status :=
    if metrics.any fun metric => metric.atLeast metric.critical then .critical
    else if metrics.any fun metric => metric.atLeast metric.warn then .trouble
    else .up
  { status := status
    responseTimeMs := none
    rawOutput := rawOutput }

-- Whether the device has been heard from, not how it is doing: the result carries
-- no metric. Instants are milliseconds.
def checkAgentStaleness (lastSeenAt : Option Nat) (thresholdSeconds now : Nat) : CheckResult :=
  let status :=
    match lastSeenAt with
    | none => .down
    | some seen => if seen + thresholdSeconds * 1000 < now then .down else .up
  { status := status
    responseTimeMs := none
    rawOutput := [] }

theorem checkAgentStaleness_up {lastSeenAt : Option Nat} {thresholdSeconds now : Nat} :
    (checkAgentStaleness lastSeenAt thresholdSeconds now).status = .up ↔
      ∃ seen, lastSeenAt = some seen ∧ now ≤ seen + thresholdSeconds * 1000 := by
  cases lastSeenAt with
  | none => simp [checkAgentStaleness]
  | some seen =>
      simp only [checkAgentStaleness, Option.some.injEq, exists_eq_left']
      split
      · rename_i hlate
        simp only [reduceCtorEq, false_iff]
        omega
      · rename_i hlate
        simp only [true_iff]
        omega

theorem checkAgentStaleness_down {lastSeenAt : Option Nat} {thresholdSeconds now : Nat} :
    (checkAgentStaleness lastSeenAt thresholdSeconds now).status = .down ↔
      ∀ seen, lastSeenAt = some seen → seen + thresholdSeconds * 1000 < now := by
  cases lastSeenAt with
  | none => simp [checkAgentStaleness]
  | some seen =>
      simp only [checkAgentStaleness, Option.some.injEq, forall_eq']
      split
      · rename_i hlate
        exact iff_of_true rfl hlate
      · rename_i hlate
        exact iff_of_false (by simp) hlate

end CloudOps.Monitoring
