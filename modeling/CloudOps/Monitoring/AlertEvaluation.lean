import CloudOps.Monitoring.MetricAlertRule
import CloudOps.ReadCommitted.Solo

namespace CloudOps.Monitoring

open CloudOps.ReadCommitted

inductive AlertStatus where
  | opened
  | acknowledged
  | resolved
  deriving DecidableEq

def AlertStatus.text : AlertStatus → String
  | opened => "open"
  | acknowledged => "acknowledged"
  | resolved => "resolved"

-- A row of alerts, of one tenant, that belongs to a monitor.
structure Alert where
  monitorId : Nat
  alertRuleId : Option Nat
  severity : Severity
  status : AlertStatus
  reasonText : String
  repeatCount : Nat
  ticketId : Option Nat
  openedAt : Nat
  lastSeenAt : Nat
  acknowledgedAt : Option Nat
  resolvedAt : Option Nat
  lastEscalatedStep : Int
  deriving DecidableEq

-- status IN ('open', 'acknowledged')
def Alert.isActive (alert : Alert) : Bool :=
  alert.status = .opened || alert.status = .acknowledged

-- The columns an INSERT does not name take the table's defaults.
def Alert.inserted (now monitorId ruleId : Nat) (severity : Severity) (reasonText : String) : Alert where
  monitorId := monitorId
  alertRuleId := some ruleId
  severity := severity
  status := .opened
  reasonText := reasonText
  repeatCount := 0
  ticketId := none
  openedAt := now
  lastSeenAt := now
  acknowledgedAt := none
  resolvedAt := none
  lastEscalatedStep := -1

-- idx_alerts_one_active_per_monitor
def oneActivePerMonitor (alert other : Alert) : Bool :=
  alert.isActive && other.isActive && alert.monitorId == other.monitorId

-- What no statement changes once the row is there.
def Alert.identity (alert : Alert) : Nat × Option Nat × Severity × String × Nat :=
  (alert.monitorId, alert.alertRuleId, alert.severity, alert.reasonText, alert.openedAt)

theorem Alert.isActive_iff (alert : Alert) : alert.isActive = true ↔ alert.status ≠ .resolved := by
  unfold isActive
  cases alert.status <;> simp

abbrev AlertProg := Prog Nat Alert ServiceError

structure EvaluatedMonitor where
  id : Nat
  name : String
  consecutiveFailuresToAlert : Nat
  minFailingLocations : Option Nat

-- The wording of reasons and notes. No decision reads it.
structure ReasonTexts where
  generateReasonText : String → CheckResult → String
  generateRepeatNoteText : String → CheckResult → Nat → String
  metricReasonText : String → AlertRule → Option Float → String

def plainTexts : ReasonTexts := ⟨fun name _ => name, fun name _ _ => name, fun name _ _ => name⟩

-- What the statements on the other tables return: the enabled rule of the
-- monitor, and its rows of monitor_checks at each of the three statements that
-- read them (another transaction may commit a check in between).
structure EvaluationReads where
  rule : Option AlertRule
  metricChecks : List MonitorCheck
  recentChecks : List MonitorCheck
  locationChecks : List MonitorCheck

inductive EvaluationOutcome where
  | noRule
  | notBad
  | notYetDue
  | lostRace
  | awaitingLocationQuorum
  | repeated (ticketId : Option Nat) (noteBody : Option String)
  | resolved (ticketId : Option Nat)
  | created (alertId : Nat) (reasonText : String)
  deriving DecidableEq

-- Avoid posting a ticket note on every single repeat check: only every Nth.
def REPEAT_NOTE_EVERY : Nat := 5

def AlertRule.statuses (rule : AlertRule) : List String := rule.statusIn.getD ["down", "critical"]

def AlertRule.holdsOf (rule : AlertRule) (result : CheckResult) : Bool :=
  rule.statuses.contains result.status.text

-- Only a metric rule is evaluated against the history up front.
def AlertRule.metricEval (rule : AlertRule) (checks : List MonitorCheck) :
    Except ServiceError (Option MetricEvaluation) :=
  if rule.ruleKind = .status then .ok none else some <$> evaluateMetricRule rule checks

def AlertRule.isBad (rule : AlertRule) (result : CheckResult) :
    Option MetricEvaluation → Bool
  | none => rule.holdsOf result
  | some metric => metric.isBad

-- For a status rule only a genuine 'up' resolves; a metric rule has no such
-- status, and "not bad" is enough.
def AlertRule.shouldResolve (result : CheckResult) : Option MetricEvaluation → Bool
  | none => result.status = .up
  | some _ => true

def AlertRule.thresholdReached (rule : AlertRule) (monitor : EvaluatedMonitor)
    (recentChecks : List MonitorCheck) : Option MetricEvaluation → Bool
  | none =>
      let rows := (latestFirst recentChecks).take monitor.consecutiveFailuresToAlert
      decide (rows.length = monitor.consecutiveFailuresToAlert) &&
        rows.all fun check => rule.holdsOf check.toCheckResult
  | some metric => metric.thresholdReached

-- The quorum over probe locations is a status-rule concept.
def AlertRule.awaitsQuorum (rule : AlertRule) (monitor : EvaluatedMonitor)
    (locationChecks : List MonitorCheck) : Option MetricEvaluation → Bool
  | none =>
      let minLocations := monitor.minFailingLocations.getD 1
      let failingLocations := ((latestPerLocation locationChecks).filter fun check =>
        rule.holdsOf check.toCheckResult).length
      decide (minLocations > 1) && decide (failingLocations < minLocations)
  | some _ => false

def AlertRule.reasonText (rule : AlertRule) (texts : ReasonTexts) (monitor : EvaluatedMonitor)
    (result : CheckResult) : Option MetricEvaluation → String
  | none => texts.generateReasonText monitor.name result
  | some metric => texts.metricReasonText monitor.name rule metric.latestValue

def noteBody (texts : ReasonTexts) (monitor : EvaluatedMonitor) (result : CheckResult)
    (ticketId : Option Nat) (repeatCount : Nat) : Option String :=
  if ticketId.isSome && repeatCount % REPEAT_NOTE_EVERY = 0 then
    some (texts.generateRepeatNoteText monitor.name result repeatCount)
  else none

-- AlertEvaluationService.applyToDatabase, as the transaction on the alerts table.
def applyToDatabase (texts : ReasonTexts) (reads : EvaluationReads) (monitor : EvaluatedMonitor)
    (result : CheckResult) (now : Nat) : AlertProg EvaluationOutcome :=
  match reads.rule with
  | none => .ret .noRule
  | some rule =>
      match rule.metricEval reads.metricChecks with
      | .error error => .throw error
      | .ok metric => do
          let active ← Prog.query fun _ alert => alert.monitorId == monitor.id && alert.isActive
          match rule.isBad result metric, active.head? with
          | false, some (id, alert) =>
              if AlertRule.shouldResolve result metric then
                let _ ← Prog.update id fun row =>
                  { row with status := .resolved, resolvedAt := some now }
                return .resolved alert.ticketId
              else return .notBad
          | false, none => return .notBad
          | true, some (id, alert) =>
              let newRepeatCount := alert.repeatCount + 1
              let _ ← Prog.update id fun row =>
                { row with repeatCount := newRepeatCount, lastSeenAt := now }
              return .repeated alert.ticketId
                (noteBody texts monitor result alert.ticketId newRepeatCount)
          | true, none =>
              if !rule.thresholdReached monitor reads.recentChecks metric then return .notYetDue
              else if rule.awaitsQuorum monitor reads.locationChecks metric then
                return .awaitingLocationQuorum
              else
                let reasonText := rule.reasonText texts monitor result metric
                match ← Prog.insertRow (.inserted now monitor.id rule.id rule.severity reasonText) with
                | .inserted id => return .created id reasonText
                -- A concurrent evaluation already opened one for this monitor.
                | .duplicateKey => return .lostRace

-- The automatic half of linking, once the ticket has been created over HTTP.
def linkTicketOnCreate (alertId ticketId : Nat) : AlertProg Unit := do
  let _ ← Prog.updateWhere alertId (fun alert => alert.ticketId.isNone) fun row =>
    { row with ticketId := some ticketId }
  return

end CloudOps.Monitoring
