import CloudOps.Monitoring.AlertEvaluation
import CloudOps.Monitoring.EscalationSweep

namespace CloudOps.Monitoring

open CloudOps.ReadCommitted

-- SELECT * FROM alerts WHERE id = $1, and the 404 that both requests give without it.
def findAlert (id : Nat) : AlertProg Alert := do
  match (← Prog.query fun other _ => other == id).head? with
  | none => .throw (.notFound s!"Alert {id} not found")
  | some (_, alert) => return alert

-- What a transition sets beside the status: the column that dates it.
structure Transition where
  status : AlertStatus
  stamp : Nat → Alert → Alert
  allowedFrom : List AlertStatus

def transition (id : Nat) (opts : Transition) (now : Nat) : AlertProg (Option Alert) := do
  let alert ← findAlert id
  if !opts.allowedFrom.contains alert.status then
    .throw (.badRequest
      s!"Alert {id} cannot move to '{opts.status.text}' from '{alert.status.text}'")
  else Prog.update id fun row => { opts.stamp now row with status := opts.status }

def acknowledge (id now : Nat) : AlertProg (Option Alert) :=
  transition id
    { status := .acknowledged
      stamp := fun at_ row => { row with acknowledgedAt := some at_ }
      allowedFrom := [.opened] } now

def resolve (id now : Nat) : AlertProg (Option Alert) :=
  transition id
    { status := .resolved
      stamp := fun at_ row => { row with resolvedAt := some at_ }
      allowedFrom := [.opened, .acknowledged] } now

-- The manual link. `ticketExists` is what the SELECT on tickets finds.
def linkTicket (id ticketId : Nat) (ticketExists : Bool) : AlertProg (Option Alert) := do
  let alert ← findAlert id
  match alert.ticketId with
  | some linked => .throw (.badRequest s!"Alert {id} is already linked to ticket {linked}")
  | none =>
      if !ticketExists then .throw (.notFound s!"Ticket {ticketId} not found")
      else Prog.update id fun row => { row with ticketId := some ticketId }

-- The calls that write to the alerts table, each one transaction.
inductive AlertCall where
  | evaluate (reads : EvaluationReads) (monitor : EvaluatedMonitor) (result : CheckResult)
  | linkTicketOnCreate (alertId ticketId : Nat)
  | acknowledge (id : Nat)
  | resolve (id : Nat)
  | linkTicket (id ticketId : Nat) (ticketExists : Bool)
  | sweep (catalog : EscalationCatalog)

inductive AlertReply where
  | evaluated (outcome : EvaluationOutcome)
  | linked
  | updated (row : Option Alert)
  | swept (actions : List PendingEscalation)

def alertService (texts : ReasonTexts) :
    Service Nat Alert ServiceError AlertReply AlertCall where
  body call now :=
    match call with
    | .evaluate reads monitor result =>
        (applyToDatabase texts reads monitor result now).map .evaluated
    | .linkTicketOnCreate alertId ticketId =>
        (linkTicketOnCreate alertId ticketId).map fun _ => .linked
    | .acknowledge id => (acknowledge id now).map .updated
    | .resolve id => (resolve id now).map .updated
    | .linkTicket id ticketId ticketExists => (linkTicket id ticketId ticketExists).map .updated
    | .sweep catalog => (sweepTenant catalog).map .swept
  conflict := oneActivePerMonitor

-- The notifications a call decided on; only a sweep decides on any.
def AlertReply.actions : AlertReply → List PendingEscalation
  | swept actions => actions
  | evaluated _ | linked | updated _ => []

abbrev AlertWorld := World Nat Alert AlertReply AlertCall
abbrev AlertDb := Db Nat Alert ServiceError AlertReply AlertCall

-- Everything a call can do to a row: the committed version, none for a row it
-- creates, and the version it commits.
inductive AlertChange (now : Nat) : AlertCall → Nat → Option Alert → Alert → Prop where
  | opened (reads monitor result id) (rule : AlertRule) (reasonText : String) :
      AlertChange now (.evaluate reads monitor result) id none
        (.inserted now monitor.id rule.id rule.severity reasonText)
  | resolvedByCheck (reads monitor result id row) :
      AlertChange now (.evaluate reads monitor result) id (some row)
        { row with status := .resolved, resolvedAt := some now }
  | repeated (reads monitor result id row) (repeatCount : Nat) :
      AlertChange now (.evaluate reads monitor result) id (some row)
        { row with repeatCount := repeatCount, lastSeenAt := now }
  | linkedOnCreate (id ticketId row) (hnone : row.ticketId = none) :
      AlertChange now (.linkTicketOnCreate id ticketId) id (some row)
        { row with ticketId := some ticketId }
  | acknowledged (id row) :
      AlertChange now (.acknowledge id) id (some row)
        { row with acknowledgedAt := some now, status := .acknowledged }
  | resolvedByHand (id row) :
      AlertChange now (.resolve id) id (some row)
        { row with resolvedAt := some now, status := .resolved }
  | linked (id ticketId ticketExists row) :
      AlertChange now (.linkTicket id ticketId ticketExists) id (some row)
        { row with ticketId := some ticketId }
  | escalated (catalog id row) (index : Nat) :
      AlertChange now (.sweep catalog) id (some row) { row with lastEscalatedStep := index }

-- A transaction has changed rows only as its call can.
def ChangesOnly (call : AlertCall) (now : Nat) (world : AlertWorld) (writes : Table Nat Alert) : Prop :=
  ∀ id row, writes.lookup id = some row → AlertChange now call id (world.committed.lookup id) row

-- One notification of a pass: the alert was not resolved when the pass began, the
-- step is one of its policy's and due, and the row is advanced to it.
structure Escalates (catalog : EscalationCatalog) (begunOn : Table Nat Alert) (world : AlertWorld)
    (writes : Table Nat Alert) (action : PendingEscalation) (alert : Alert)
    (steps : List EscalationStep) : Prop where
  committed : world.committed.lookup action.alertId = some alert
  written : writes.lookup action.alertId =
    some { alert with lastEscalatedStep := action.stepNumber }
  policy : catalog.join alert = some (action.monitorName, steps)
  step : steps[action.stepNumber]? = some action.step
  due : alert.openedAt + action.step.delayMinutes * 60000 ≤ world.clock
  unresolved : ∀ old, begunOn.lookup action.alertId = some old → old.status ≠ .resolved

-- What a pass returns and what it writes are one notification and one row an alert.
structure SweepDone (catalog : EscalationCatalog) (begunOn : Table Nat Alert) (world : AlertWorld)
    (writes : Table Nat Alert) (actions : List PendingEscalation) : Prop where
  nodup : (actions.map PendingEscalation.alertId).Nodup
  each : ∀ action ∈ actions, ∃ alert steps, Escalates catalog begunOn world writes action alert steps
  covered : ∀ id ∈ writes, ∃ action ∈ actions, action.alertId = id

structure CallDone (call : AlertCall) (begunOn : Table Nat Alert) (startedAt : Nat)
    (world : AlertWorld) (writes : Table Nat Alert) (reply : AlertReply) : Prop where
  changes : ChangesOnly call startedAt world writes
  swept : ∀ catalog, call = .sweep catalog → SweepDone catalog begunOn world writes reply.actions
  quiet : (∀ catalog, call ≠ .sweep catalog) → reply.actions = []

-- What every transaction may take for granted of the others: rows stay, with what
-- identifies them, a resolved alert stays resolved, and time goes on.
structure Later (before after : AlertWorld) : Prop where
  clock : before.clock ≤ after.clock
  rows : ∀ id old, before.committed.lookup id = some old →
    ∃ new, after.committed.lookup id = some new ∧ new.identity = old.identity ∧
      (old.status = .resolved → new.status = .resolved)

theorem Later.refl (world : AlertWorld) : Later world world where
  clock := Nat.le_refl _
  rows _ old h := ⟨old, h, rfl, id⟩

theorem Later.trans {a b c : AlertWorld} (hab : Later a b) (hbc : Later b c) : Later a c where
  clock := Nat.le_trans hab.clock hbc.clock
  rows id old h := by
    obtain ⟨mid, hm, hmid, hms⟩ := hab.rows id old h
    obtain ⟨new, hn, hnew, hns⟩ := hbc.rows id mid hm
    exact ⟨new, hn, hnew.trans hmid, fun ho => hns (hms ho)⟩

theorem AlertChange.identity {now id : Nat} {call : AlertCall} {old new : Alert}
    (h : AlertChange now call id (some old) new) : new.identity = old.identity := by
  cases h <;> rfl

-- Only an acknowledge leads out of resolved.
theorem AlertChange.resolved {now id : Nat} {call : AlertCall} {old new : Alert}
    (h : AlertChange now call id (some old) new) (hcall : call ≠ .acknowledge id)
    (hold : old.status = .resolved) : new.status = .resolved := by
  cases h with
  | acknowledged => exact absurd rfl hcall
  | resolvedByCheck | resolvedByHand => rfl
  | repeated | linkedOnCreate | linked | escalated => exact hold

-- Only a sweep advances an alert.
theorem AlertChange.lastEscalatedStep {now id : Nat} {call : AlertCall} {old new : Alert}
    (h : AlertChange now call id (some old) new) (hcall : ∀ catalog, call ≠ .sweep catalog) :
    new.lastEscalatedStep = old.lastEscalatedStep := by
  cases h with
  | escalated catalog => exact absurd rfl (hcall catalog)
  | _ => rfl

theorem AlertChange.opened_lastEscalatedStep {now id : Nat} {call : AlertCall} {new : Alert}
    (h : AlertChange now call id none new) : new.lastEscalatedStep = -1 := by
  cases h
  rfl

theorem ChangesOnly.lastEscalatedStep {call : AlertCall} {now : Nat} {world : AlertWorld}
    {writes : Table Nat Alert} (h : ChangesOnly call now world writes)
    (hcall : ∀ catalog, call ≠ .sweep catalog) {id : Nat} {new : Alert}
    (hnew : (writes ∪ world.committed).lookup id = some new) :
    new.lastEscalatedStep = ((world.committed.lookup id).map Alert.lastEscalatedStep).getD (-1) := by
  rcases Table.lookup_union_cases hnew with hown | ⟨-, hbase⟩
  · have hchange := h id new hown
    cases hc : world.committed.lookup id with
    | none => exact (hc ▸ hchange).opened_lastEscalatedStep
    | some old => exact (hc ▸ hchange).lastEscalatedStep hcall
  · simp [hbase]

end CloudOps.Monitoring
