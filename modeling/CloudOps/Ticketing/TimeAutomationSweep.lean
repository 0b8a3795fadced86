import CloudOps.ReadCommitted.Rely
import CloudOps.Ticketing.Automation

namespace CloudOps.Ticketing.TimeAutomation

open CloudOps.ReadCommitted

-- An active time_based rule as one pass reads it.
structure TimeRule where
  id : Uuid
  timeTriggerMinutes : Nat
  conditions : List AutomationCondition
  actions : List AutomationAction

-- Which action of which rule, for which ticket.
structure ActionRef where
  ruleId : Uuid
  ticketId : Uuid
  index : Nat
  deriving DecidableEq

-- The rows a pass reads and writes: tickets, automation_rule_applications under
-- their unique key, and the two tables it only inserts into. `writtenBy` records
-- which action wrote a row; the code never reads it.
inductive SweepKey where
  | ticket (id : Uuid)
  | application (ruleId ticketId : Uuid)
  | generated (id : Nat)
  deriving DecidableEq

inductive SweepRow where
  | ticket (row : Ticket)
  | application
  | activity (writtenBy : Option ActionRef) (row : TicketActivity)
  | message (writtenBy : Option ActionRef) (row : TicketMessage)
  deriving DecidableEq

def SweepRow.writtenBy : SweepRow → Option ActionRef
  | ticket _ | application => none
  | activity writtenBy _ | message writtenBy _ => writtenBy

def SweepRow.onTicket (set : Ticket → Ticket) : SweepRow → SweepRow
  | ticket row => ticket (set row)
  | row => row

abbrev SweepProg := Prog SweepKey SweepRow ServiceError

-- gen_random_uuid() never hands out a key of another kind.
def insertGenerated (row : SweepRow) : SweepProg Unit := do
  match ← Prog.insertRow row with
  | .inserted (.generated _) => return
  | _ => .throw (.error "duplicate key value violates unique constraint")

-- ON CONFLICT (automation_rule_id, ticket_id) DO NOTHING
def insertApplication (ruleId ticketId : Uuid) : SweepProg Unit :=
  .write (.application ruleId ticketId)
    (fun current => if current.isNone then some .application else none) fun _ => .ret ()

-- What one pass runs with: the rules its first SELECT returned, and the tables its
-- actions only look references up in.
structure SweepCall where
  rules : List TimeRule
  reads : TicketStore

variable (env : Environment)

-- applyAction, as statements of the pass's transaction.
def sweepAction (reads : TicketStore) (now : Nat) (ref : ActionRef) (ticket : Ticket)
    (action : AutomationAction) : SweepProg Ticket :=
  match action.type.field with
  | some field =>
      let oldValue := field.read env ticket
      if oldValue = some action.value then .ret ticket
      else match (field.assign env now action.value).run reads with
        | .error error => .throw error
        | .ok (set, _) => do
            match ← Prog.update (.ticket ref.ticketId) (SweepRow.onTicket set) with
            | some (.ticket row) =>
                insertGenerated (.activity (some ref)
                  { ticketId := ref.ticketId, field := field.column, oldValue := oldValue,
                    newValue := action.value, actorAgentId := none })
                return row
            | _ => .throw (.error "foreign key constraint violated")
  | none =>
      if action.type = .addNote then do
        insertGenerated (.message (some ref)
          { ticketId := ref.ticketId, type := .note, authorType := .system, authorId := none,
            body := action.value, cc := [], createdAt := now })
        return ticket
      else
        let tag := trim action.value
        if tag = "" then .ret ticket
        else if ticket.tags.contains tag then .ret ticket
        else do
          let row ← Prog.update (.ticket ref.ticketId) (SweepRow.onTicket fun row =>
            { row with tags := row.tags ++ [tag], updatedAt := now })
          match row with
          | some (.ticket row) => return row
          | _ => .throw (.error "rows[0] is undefined")

def sweepActions (reads : TicketStore) (now : Nat) (ruleId ticketId : Uuid) :
    Nat → List AutomationAction → Ticket → SweepProg Ticket
  | _, [], ticket => .ret ticket
  | index, action :: rest, ticket => do
      let row ← sweepAction env reads now ⟨ruleId, ticketId, index⟩ ticket action
      sweepActions reads now ruleId ticketId (index + 1) rest row

-- The rows the candidates SELECT looks at: tickets still open and old enough, and
-- the rule's own applications.
def relevant (rule : TimeRule) (now : Nat) : SweepKey → SweepRow → Bool
  | .ticket _, .ticket ticket =>
      !ticket.status.isClosing && decide (ticket.createdAt + rule.timeTriggerMinutes * 60000 ≤ now)
  | .application ruleId _, _ => ruleId == rule.id
  | _, _ => false

-- AND NOT EXISTS (SELECT 1 FROM automation_rule_applications ...)
def candidateOf (rule : TimeRule) (rows : List (SweepKey × SweepRow)) :
    SweepKey × SweepRow → Option (Uuid × Ticket)
  | (.ticket id, .ticket ticket) =>
      if SweepKey.application rule.id id ∈ rows.map Prod.fst then none else some (id, ticket)
  | _ => none

def candidates (rule : TimeRule) (rows : List (SweepKey × SweepRow)) : List (Uuid × Ticket) :=
  rows.filterMap (candidateOf rule rows)

-- The applications so far are the rule and ticket of each; the code keeps their
-- number.
def sweepCandidates (reads : TicketStore) (now : Nat) (rule : TimeRule) :
    List (Uuid × Ticket) → List (Uuid × Uuid) → SweepProg (List (Uuid × Uuid))
  | [], applied => .ret applied
  | (id, ticket) :: rest, applied =>
      if rule.conditions.all (conditionMatches env ticket) then do
        let _ ← sweepActions env reads now rule.id id 0 rule.actions ticket
        insertApplication rule.id id
        sweepCandidates reads now rule rest (applied ++ [(rule.id, id)])
      else sweepCandidates reads now rule rest applied

def sweepRules (reads : TicketStore) (now : Nat) :
    List TimeRule → List (Uuid × Uuid) → SweepProg (List (Uuid × Uuid))
  | [], applied => .ret applied
  | rule :: rest, applied => do
      let rows ← Prog.query (relevant rule now)
      let applied ← sweepCandidates env reads now rule (candidates rule rows) applied
      sweepRules reads now rest applied

-- TimeAutomationSweepService.sweepTenant
def timeSweepService : Service SweepKey SweepRow ServiceError (List (Uuid × Uuid)) SweepCall where
  body call now := sweepRules env call.reads now call.rules []
  conflict _ _ := false

end CloudOps.Ticketing.TimeAutomation
