import CloudOps.Cost.RightsizingSweep

namespace CloudOps.Cost

open CloudOps.ReadCommitted CloudOps.SharedTransaction
open CloudOps.Ticketing (Uuid TicketPriority)

def RecommendationType.text : RecommendationType → String
  | .rightsize => "rightsize"
  | .idle => "idle"
  | .terminate => "terminate"

def RecommendationStatus.text : RecommendationStatus → String
  | .open => "open"
  | .dismissed => "dismissed"
  | .ticketCreated => "ticket_created"
  | .resolved => "resolved"

-- The statuses a PATCH may set.
inductive PatchableStatus where
  | dismissed
  | resolved
  deriving DecidableEq

def PatchableStatus.status : PatchableStatus → RecommendationStatus
  | .dismissed => .dismissed
  | .resolved => .resolved

-- The body of POST /internal/tickets/from_alert.
structure FromAlertBody where
  subject : String
  description : String
  resourceId : Uuid
  priority : TicketPriority
  deriving DecidableEq

-- An UPDATE .. WHERE id = $1 in a transaction of its own.
def Recommendations.updateRow (table : Recommendations) (id : Uuid) (set : Recommendation → Recommendation) :
    Recommendations :=
  match table.rows.lookup id with
  | none => table
  | some row =>
      match table.put id (set row) with
      | .ok after => after
      | .error _ => table

-- RecommendationsService.update
def updateRecommendation (table : Recommendations) (id : Uuid) (status : PatchableStatus) (now : Nat) :
    Except ServiceError Recommendations :=
  if id ∈ table.rows then
    .ok (table.updateRow id fun row => { row with status := status.status, updatedAt := now })
  else .error (.notFound s!"Recommendation {id} not found")

-- createTicket is one transaction that reads, a request to the ticket service, and one
-- transaction that writes. Between two of them it is in one of these states.
inductive TicketCall where
  | posting (id : Uuid) (body : FromAlertBody)
  | linking (id ticketId : Uuid)
  deriving DecidableEq

-- What createTicket does with the row it has read: it answers the ticket of the row, or
-- asks for a new one. `resourceName` is resources.name.
def createTicket (resourceName : Uuid → Option String) (table : Recommendations) (id : Uuid) :
    Except ServiceError (Uuid ⊕ FromAlertBody) :=
  let found := (table.rows.lookup id).bind fun row => (resourceName row.resourceId).map fun name => (row, name)
  match found with
  | none => .error (.notFound s!"Recommendation {id} not found")
  | some (recommendation, name) =>
      match recommendation.ticketId with
      | some ticketId => .ok (.inl ticketId)
      | none =>
          if recommendation.status ≠ .open then
            .error (.badRequest s!"Recommendation {id} is {recommendation.status.text}, not open")
          else
            .ok (.inr {
              subject := s!"[Cost] {name}: {recommendation.recommendationType.text} recommendation"
              description := recommendation.reasonText
              resourceId := recommendation.resourceId
              priority := .medium })

def ticketAnswered (answer : Option Uuid) : Except ServiceError Uuid :=
  match answer with
  | some ticketId => .ok ticketId
  | none => .error (.badRequest "Ticket creation failed -- recommendation left open")

def linkTicket (table : Recommendations) (id ticketId : Uuid) (now : Nat) : Recommendations :=
  table.updateRow id fun row =>
    { row with status := .ticketCreated, ticketId := some ticketId, updatedAt := now }

-- The recommendations of one tenant, the createTicket calls in flight, and the tickets
-- they have had created.
structure Desk where
  table : Recommendations
  calls : Table Uuid TicketCall
  tickets : List (Uuid × FromAlertBody)

-- A pass and an update happen at once, and a createTicket call from step to step: the
-- request creates a ticket or none, and its answer arrives or does not. A call may
-- end at any point.
inductive DeskEvent where
  | pass (reads : SweepReads) (monitors : List CloudMetricMonitor)
  | createTicket (call id : Uuid)
  | posted (call : Uuid) (created : Option Uuid) (answered : Bool)
  | linked (call : Uuid) (now : Nat)
  | dropped (call : Uuid)
  | update (id : Uuid) (status : PatchableStatus) (now : Nat)

namespace Desk

variable (resourceName : Uuid → Option String)

def begin (desk : Desk) (call id : Uuid) : Desk :=
  match createTicket resourceName desk.table id with
  | .ok (.inr body) =>
      if call ∈ desk.calls then desk else { desk with calls := desk.calls.insert call (.posting id body) }
  | .ok (.inl _) => desk
  | .error _ => desk

def post (desk : Desk) (call : Uuid) (created : Option Uuid) (answered : Bool) : Desk :=
  match desk.calls.lookup call with
  | some (.posting id body) =>
      { desk with
        calls := match ticketAnswered (if answered then created else none) with
          | .ok ticketId => desk.calls.insert call (.linking id ticketId)
          | .error _ => desk.calls.erase call
        tickets := desk.tickets ++ created.toList.map fun ticketId => (ticketId, body) }
  | _ => desk

def link (desk : Desk) (call : Uuid) (now : Nat) : Desk :=
  match desk.calls.lookup call with
  | some (.linking id ticketId) =>
      { desk with table := linkTicket desk.table id ticketId now, calls := desk.calls.erase call }
  | _ => desk

def step (desk : Desk) : DeskEvent → Desk
  | .pass reads monitors => { desk with table := commit (sweepMonitors reads monitors) desk.table }
  | .createTicket call id => desk.begin resourceName call id
  | .posted call created answered => desk.post call created answered
  | .linked call now => desk.link call now
  | .dropped call => { desk with calls := desk.calls.erase call }
  | .update id status now =>
      match updateRecommendation desk.table id status now with
      | .ok after => { desk with table := after }
      | .error _ => desk

end Desk

end CloudOps.Cost
