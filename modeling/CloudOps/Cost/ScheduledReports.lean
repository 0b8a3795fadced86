import CloudOps.Effects
import CloudOps.Notifications.NotificationDispatcherService
import CloudOps.Periods
import CloudOps.ReadCommitted.Table
import CloudOps.ServiceError
import CloudOps.Ticketing.InboundEmail
import Mathlib.Data.Nat.Find

namespace CloudOps.Cost

open CloudOps.Effects
open CloudOps.Notifications (EnqueueNotificationInput NotificationAttachment)
open CloudOps.ReadCommitted (Table ScanOrder)

inductive ReportFormat where
  | csv
  | pdf
  deriving DecidableEq

inductive ReportCadence where
  | daily
  | weekly
  | monthly
  deriving DecidableEq

def msPerDay : Nat := 86400000

-- Days from 1970 to the first of January of the year.
def dayFromYear (year : Nat) : Nat :=
  365 * (year - 1970) + (year - 1969) / 4 - (year - 1901) / 100 + (year - 1601) / 400

def yearFromDay (day : Nat) : Nat := Nat.findGreatest (fun year => dayFromYear year ≤ day) (1970 + day / 365)

def isLeapYear (year : Nat) : Bool := year % 4 == 0 && (year % 100 != 0 || year % 400 == 0)

def monthLengths (year : Nat) : List Nat :=
  [31, if isLeapYear year then 29 else 28, 31, 30, 31, 30, 31, 31, 30, 31, 30, 31]

-- The length of the month that a day of the year is in.
def monthLength (dayInYear : Nat) : List Nat → Nat
  | [] => 31
  | length :: rest => if dayInYear < length then length else monthLength (dayInYear - length) rest

-- Times are UTC milliseconds. The month after, at a day of the month it need not have,
-- runs on into the month after that: in every case this month's length is added.
def nextRunAt (cadence : ReportCadence) (time : Nat) : Nat :=
  match cadence with
  | .daily => time + 1 * msPerDay
  | .weekly => time + 7 * msPerDay
  | .monthly =>
      let day := time / msPerDay
      let year := yearFromDay day
      time + monthLength (day - dayFromYear year) (monthLengths year) * msPerDay

-- The end of January has no day in February.
example : nextRunAt .monthly (30 * msPerDay) = (31 + 30) * msPerDay := by decide +kernel

-- A row of scheduled_reports, with the parameters of its report as the column's text.
structure ScheduledReport where
  tenantId : String
  name : String
  reportKind : String
  params : String
  format : ReportFormat
  cadence : ReportCadence
  recipients : List String
  lastRunAt : Option Nat
  nextRunAt : Nat
  isActive : Bool
  includeAiSummary : Bool

structure RenderedReportFile where
  buffer : ByteArray
  contentType : String
  filename : String

-- What ReportGeneratorService and report-export make of a report at some time.
structure ReportGenerator where
  toCsv : (reportKind params : String) → (includeAiSummary : Bool) → Except ServiceError ByteArray
  toPdf : (reportKind params : String) → (includeAiSummary : Bool) → Except ServiceError ByteArray
  toBase64 : ByteArray → String

def isSafeChar (c : Char) : Bool :=
  ('a' ≤ c && c ≤ 'z') || ('A' ≤ c && c ≤ 'Z') || ('0' ≤ c && c ≤ '9') || c == '_' || c == '.' || c == '-'

def safeName (name : String) : String :=
  String.ofList (Ticketing.replaceMatches (fun rest => (rest.takeWhile fun c => !isSafeChar c).length)
    ['_'] 0 name.toList)

def render (generator : ReportGenerator) (report : ScheduledReport) : Except ServiceError RenderedReportFile := do
  let name := safeName report.name
  match report.format with
  | .csv => do
      let buffer ← generator.toCsv report.reportKind report.params report.includeAiSummary
      return { buffer, contentType := "text/csv", filename := s!"{name}.csv" }
  | .pdf => do
      let buffer ← generator.toPdf report.reportKind report.params report.includeAiSummary
      return { buffer, contentType := "application/pdf", filename := s!"{name}.pdf" }

structure ReportPayload where
  reportName : String
  format : ReportFormat
  attachment : NotificationAttachment

-- The reports and the queued notifications, and, in the order they came, the mails
-- appended to the stream under their report and the advances of its next_run_at.
structure ReportRoom where
  reports : Table Nat ScheduledReport
  notifications : List (EnqueueNotificationInput ReportPayload)
  log : List (Periods.Entry Nat String)

abbrev ReportM := EffectM ServiceError ReportRoom

-- NotificationsService.enqueue inserts the row, and then publishes: the INSERT fails, the
-- publication does before its event is on the stream, or only the stream's answer is lost.
inductive EnqueueOutcome where
  | enqueued
  | notInserted (error : ServiceError)
  | notPublished (error : ServiceError)
  | unanswered (error : ServiceError)

def ReportRoom.queue (room : ReportRoom) (input : EnqueueNotificationInput ReportPayload) : ReportRoom :=
  { room with notifications := room.notifications ++ [input] }

def ReportRoom.mail (room : ReportRoom) (id : Nat) (recipient : String) : ReportRoom :=
  { room with log := room.log ++ [.item id recipient] }

def enqueue (id : Nat) (input : EnqueueNotificationInput ReportPayload) : EnqueueOutcome → ReportM Unit
  | .notInserted error => throw error
  | .notPublished error => do
      modify fun room => room.queue input
      throw error
  | .unanswered error => do
      modify fun room => (room.queue input).mail id input.recipient
      throw error
  | .enqueued => modify fun room => (room.queue input).mail id input.recipient

def reportMail (generator : ReportGenerator) (report : ScheduledReport) (file : RenderedReportFile)
    (recipient : String) :
    EnqueueNotificationInput ReportPayload where
  tenantId := report.tenantId
  channel := "email"
  recipient := recipient
  templateName := "cost.scheduled_report"
  payload :=
    { reportName := report.name
      format := report.format
      attachment :=
        { filename := file.filename
          contentType := file.contentType
          base64 := generator.toBase64 file.buffer } }

-- UPDATE scheduled_reports SET last_run_at, next_run_at WHERE id
def ReportRoom.advance (room : ReportRoom) (id now : Nat) : ReportRoom :=
  match room.reports.lookup id with
  | none => room
  | some report =>
      { room with
        reports := room.reports.insert id
          { report with lastRunAt := some now, nextRunAt := nextRunAt report.cadence now }
        log := room.log ++ [.mark id] }

-- What one run of a report meets: what is rendered, each recipient's call, the clock after
-- them, and the UPDATE's answer.
structure RunFaults where
  generator : ReportGenerator
  enqueued : Nat → EnqueueOutcome
  now : Nat
  updated : Except ServiceError Unit

-- Each recipient, in order, with what becomes of the call for it.
def RunFaults.attempts (faults : RunFaults) (report : ScheduledReport) : List (String × EnqueueOutcome) :=
  report.recipients.mapIdx fun position recipient => (recipient, faults.enqueued position)

def runAndDeliver (faults : RunFaults) (id : Nat) (report : ScheduledReport) : ReportM Unit :=
  match render faults.generator report with
  | .error error => throw error
  | .ok file => do
      forEach (fun attempt => enqueue id (reportMail faults.generator report file attempt.1) attempt.2)
        (faults.attempts report)
      match faults.updated with
      | .error error => throw error
      | .ok () => modify fun room => room.advance id faults.now

-- One sweep of a tenant: when its SELECT runs and in what order its rows come, or that it
-- fails, and what each run meets.
structure TenantSweep where
  tenantId : String
  selectedAt : Nat
  order : ScanOrder (Nat × ScheduledReport)
  selected : Except ServiceError Unit
  faults : Nat → RunFaults

-- is_active = true AND next_run_at <= now()
def ScheduledReport.isDue (report : ScheduledReport) (tenantId : String) (now : Nat) : Bool :=
  report.tenantId == tenantId && report.isActive && decide (report.nextRunAt ≤ now)

def TenantSweep.due (sweep : TenantSweep) (room : ReportRoom) : List (Nat × ScheduledReport) :=
  (sweep.order.apply room.reports.rows).filter fun row => row.2.isDue sweep.tenantId sweep.selectedAt

-- A run that fails is logged.
def TenantSweep.runDue (sweep : TenantSweep) : List (Nat × ScheduledReport) → ReportM Unit :=
  forEach fun row => caught (runAndDeliver (sweep.faults row.1) row.1 row.2)

def sweepTenant (sweep : TenantSweep) (room : ReportRoom) : ReportRoom :=
  match sweep.selected with
  | .error _ => room
  | .ok () => (exec (sweep.runDue (sweep.due room)) room).2

structure CreateScheduledReportDto where
  name : String
  reportKind : String
  params : Option String
  format : ReportFormat
  cadence : ReportCadence
  recipients : List String

-- The first send comes after one full period.
def createReport (tenantId : String) (dto : CreateScheduledReportDto) (now : Nat) : ScheduledReport where
  tenantId := tenantId
  name := dto.name
  reportKind := dto.reportKind
  params := dto.params.getD "\x7b\x7d"
  format := dto.format
  cadence := dto.cadence
  recipients := dto.recipients
  lastRunAt := none
  nextRunAt := nextRunAt dto.cadence now
  isActive := true
  includeAiSummary := false

-- Sweeps come one after the other. A sweep of all tenants is one of each in turn, since
-- one that fails stops none of the others.
inductive ReportEvent where
  | sweepTenant (sweep : TenantSweep)
  | create (id : Nat) (tenantId : String) (dto : CreateScheduledReportDto) (now : Nat)
  | remove (tenantId : String) (id : Nat)

-- Ids are random, and none comes twice.
def ReportRoom.isFresh (room : ReportRoom) (id : Nat) : Bool :=
  decide (id ∉ room.reports) && room.log.all fun entry => entry.key != id

def ReportRoom.step (room : ReportRoom) : ReportEvent → ReportRoom
  | .sweepTenant sweep => Cost.sweepTenant sweep room
  | .create id tenantId dto now =>
      if room.isFresh id then { room with reports := room.reports.insert id (createReport tenantId dto now) } else room
  | .remove tenantId id =>
      match room.reports.lookup id with
      | none => room
      | some report => if report.tenantId = tenantId then { room with reports := room.reports.erase id } else room

def ReportRoom.empty : ReportRoom := ⟨∅, [], []⟩

end CloudOps.Cost
