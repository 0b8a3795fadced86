import CloudOps.Effects
import CloudOps.Monitoring.AlertEvaluation
import CloudOps.Runs

namespace CloudOps.Monitoring.Scheduler

open CloudOps.Effects
open CloudOps.ReadCommitted (Table ScanOrder)

inductive MonitorType where
  | http
  | ping
  | port
  | dns
  | ssl
  | serverAgent
  | cloudMetric
  | synthetic
  deriving DecidableEq

def ACTIVELY_POLLED_TYPES : List MonitorType := [.http, .ping, .port, .dns, .ssl]

-- A row of monitors, with the configuration of its check as the column's text.
structure Monitor where
  name : String
  resourceId : Nat
  monitorType : MonitorType
  config : String
  intervalSeconds : Nat
  consecutiveFailuresToAlert : Nat
  minFailingLocations : Nat
  isEnabled : Bool

structure DueMonitor where
  id : Nat
  name : String
  resourceId : Nat
  monitorType : MonitorType
  config : String
  consecutiveFailuresToAlert : Nat
  minFailingLocations : Option Nat

structure CheckedEntry where
  monitor : DueMonitor
  result : CheckResult

inductive DomainEvent where
  | monitorChecked (monitorId : Nat) (status : CheckStatus) (responseTimeMs : Option Rat)
  | alertCreated (alertId monitorId : Nat)

-- POST /internal/tickets/from_alert
structure TicketFromAlert where
  subject : String
  description : String
  resourceId : Nat
  priority : String

-- What one pass has done: rows of monitor_checks and of events it has committed, entries
-- it has appended to the stream, calls of evaluate, alerts committed as newly created,
-- and calls of the ticketing module for them.
structure PassLog where
  recorded : List (Nat × MonitorCheck)
  events : List DomainEvent
  stream : List DomainEvent
  evaluated : List (Nat × CheckResult)
  created : List Nat
  ticketRequests : List (Nat × TicketFromAlert)
  notes : List (Nat × String)

def PassLog.empty : PassLog := ⟨[], [], [], [], [], [], []⟩

abbrev PassM := EffectM ServiceError PassLog

-- EventBusService.publish inserts into events and then appends to the stream; either can
-- fail.
inductive PublishOutcome where
  | published
  | notRecorded (error : ServiceError)
  | notDelivered (error : ServiceError)

-- What becomes of the calls made for one entry: the two publications, the evaluation's
-- transaction, the ticketing module's answer, and the UPDATE that links its ticket.
structure EntryFaults where
  checked : PublishOutcome
  evaluation : Except ServiceError EvaluationOutcome
  created : PublishOutcome
  ticket : Option Nat
  linked : Except ServiceError Unit

def publish (event : DomainEvent) : PublishOutcome → PassM Unit
  | .published => modify fun log => { log with events := log.events ++ [event], stream := log.stream ++ [event] }
  | .notRecorded error => throw error
  | .notDelivered error => do
      modify fun log => { log with events := log.events ++ [event] }
      throw error

-- A call of the ticketing module that fails is logged.
def linkTicket (monitor : DueMonitor) (alertId : Nat) (reasonText : String) (faults : EntryFaults) : PassM Unit := do
  let name := monitor.name
  modify fun log => { log with ticketRequests := log.ticketRequests ++
    [(alertId,
      { subject := s!"[Monitoring] {name} is failing"
        description := reasonText
        resourceId := monitor.resourceId
        priority := "high" })] }
  match faults.ticket, faults.linked with
  | some _, .error error => throw error
  | some _, .ok () | none, _ => return

def postNote (ticketId : Nat) (body : String) : PassM Unit :=
  modify fun log => { log with notes := log.notes ++ [(ticketId, body)] }

variable (texts : ReasonTexts)

-- AlertEvaluationService.evaluate
def evaluate (entry : CheckedEntry) (faults : EntryFaults) : PassM Unit := do
  modify fun log => { log with evaluated := log.evaluated ++ [(entry.monitor.id, entry.result)] }
  match faults.evaluation with
  | .error error => throw error
  | .ok (.created alertId reasonText) => do
      modify fun log => { log with created := log.created ++ [alertId] }
      publish (.alertCreated alertId entry.monitor.id) faults.created
      linkTicket entry.monitor alertId reasonText faults
  | .ok (.repeated (some ticketId) (some noteBody)) => if noteBody ≠ "" then postNote ticketId noteBody
  | .ok (.resolved (some ticketId)) =>
      postNote ticketId (texts.generateReasonText entry.monitor.name ⟨.up, none, []⟩)
  | .ok (.repeated _ _) | .ok (.resolved none) | .ok .noRule | .ok .notBad | .ok .notYetDue | .ok .lostRace
  | .ok .awaitingLocationQuorum => return

def publishCheckRecorded (entry : CheckedEntry) (faults : EntryFaults) : PassM Unit :=
  publish (.monitorChecked entry.monitor.id entry.result.status entry.result.responseTimeMs) faults.checked

-- The turn of one entry: the try block is around the evaluation only.
def publishAndEvaluate (item : CheckedEntry × EntryFaults) : PassM Unit := do
  publishCheckRecorded item.1 item.2
  caught (evaluate texts item.1 item.2)

-- A worker that sets no PROBE_LOCATION is at 'default'.
structure Worker where
  probeLocation : Option String

def Worker.location (worker : Worker) : String := worker.probeLocation.getD "default"

def checkRow (worker : Worker) (recordedAt : Nat) (entry : CheckedEntry) : Nat × MonitorCheck :=
  (entry.monitor.id, { entry.result with location := worker.location, checkedAt := recordedAt })

-- All checks are inserted by one transaction, which the script may fail.
def recordAndEvaluate (worker : Worker) (recordedAt : Nat) (recording : Except ServiceError Unit)
    (entries : List (CheckedEntry × EntryFaults)) : PassM Unit :=
  if entries.length = 0 then return
  else
    match recording with
    | .error error => throw error
    | .ok () => do
        modify fun log => { log with
          recorded := log.recorded ++ entries.map fun item => checkRow worker recordedAt item.1 }
        forEach (publishAndEvaluate texts) entries

-- The rows of one tenant that a pass reads.
structure SchedulerDb where
  monitors : Table Nat Monitor
  checks : List (Nat × MonitorCheck)

def SchedulerDb.checksOf (db : SchedulerDb) (id : Nat) : List MonitorCheck :=
  (db.checks.filter fun row => row.1 == id).map Prod.snd

def Monitor.isPolled (monitor : Monitor) : Bool :=
  monitor.isEnabled && ACTIVELY_POLLED_TYPES.contains monitor.monitorType

-- lc.checked_at IS NULL OR lc.checked_at < now() - interval, of the latest check of any
-- location.
def Monitor.isDue (monitor : Monitor) (now : Nat) (checks : List MonitorCheck) : Bool :=
  (latestFirst checks).head?.all fun check => check.checkedAt + monitor.intervalSeconds * 1000 < now

def Monitor.due (id : Nat) (monitor : Monitor) : DueMonitor where
  id := id
  name := monitor.name
  resourceId := monitor.resourceId
  monitorType := monitor.monitorType
  config := monitor.config
  consecutiveFailuresToAlert := monitor.consecutiveFailuresToAlert
  minFailingLocations := some monitor.minFailingLocations

-- One pass of a worker over the tenant: when its SELECT and its INSERTs run, the order its
-- rows come in, what the checkers return or throw, and the failures it meets.
structure WorkerPass where
  worker : Worker
  startedAt : Nat
  recordedAt : Nat
  recordedAfter : startedAt ≤ recordedAt
  order : ScanOrder (Nat × Monitor)
  runCheck : MonitorType → String → Except ServiceError CheckResult
  recording : Except ServiceError Unit
  faults : Nat → EntryFaults

def WorkerPass.dueMonitors (probe : WorkerPass) (db : SchedulerDb) : List DueMonitor :=
  ((probe.order.apply db.monitors.rows).filter fun row =>
    row.2.isPolled && row.2.isDue probe.startedAt (db.checksOf row.1)).map fun row => row.2.due row.1

-- A check that throws is logged, and its monitor left out.
def WorkerPass.entries (probe : WorkerPass) (db : SchedulerDb) : List (CheckedEntry × EntryFaults) :=
  (probe.dueMonitors db).filterMap fun monitor =>
    match probe.runCheck monitor.monitorType monitor.config with
    | .ok result => some (⟨monitor, result⟩, probe.faults monitor.id)
    | .error _ => none

def sweepActivelyPolled (probe : WorkerPass) (db : SchedulerDb) : PassLog :=
  (exec (recordAndEvaluate texts probe.worker probe.recordedAt probe.recording (probe.entries db)) .empty).2

end CloudOps.Monitoring.Scheduler
