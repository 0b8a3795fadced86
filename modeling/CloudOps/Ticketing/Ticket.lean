import Mathlib.Data.List.Basic

namespace CloudOps.Ticketing

-- The value a uuid's text stands for.
abbrev Uuid := Nat

inductive TicketStatus where
  | new
  | opened
  | pending
  | resolved
  | closed
  deriving DecidableEq

def TicketStatus.text : TicketStatus → String
  | new => "new"
  | opened => "open"
  | pending => "pending"
  | resolved => "resolved"
  | closed => "closed"

def TicketStatus.all : List TicketStatus := [new, opened, pending, resolved, closed]

-- status IN ('resolved', 'closed')
def TicketStatus.isClosing (status : TicketStatus) : Bool :=
  status = resolved || status = closed

inductive TicketPriority where
  | low
  | medium
  | high
  | urgent
  deriving DecidableEq

def TicketPriority.text : TicketPriority → String
  | low => "low"
  | medium => "medium"
  | high => "high"
  | urgent => "urgent"

def TicketPriority.all : List TicketPriority := [low, medium, high, urgent]

inductive TicketPlatform where
  | aws
  | azure
  | alibabaCloud
  | microsoft365
  | tittuMarketingPlatform
  | other
  deriving DecidableEq

def TicketPlatform.text : TicketPlatform → String
  | aws => "aws"
  | azure => "azure"
  | alibabaCloud => "alibaba_cloud"
  | microsoft365 => "microsoft_365"
  | tittuMarketingPlatform => "tittu_marketing_platform"
  | other => "other"

def TicketPlatform.all : List TicketPlatform :=
  [aws, azure, alibabaCloud, microsoft365, tittuMarketingPlatform, other]

inductive TicketSource where
  | email
  | webForm
  | webPortal
  | agentOutbound
  | whatsapp
  | chat
  | api
  | alert
  deriving DecidableEq

def TicketSource.text : TicketSource → String
  | email => "email"
  | webForm => "web_form"
  | webPortal => "web_portal"
  | agentOutbound => "agent_outbound"
  | whatsapp => "whatsapp"
  | chat => "chat"
  | api => "api"
  | alert => "alert"

-- A map of custom field values: each key with the JSON of its value.
abbrev CustomFields := List (String × String)

-- A row of tickets, of one tenant. Times are in milliseconds.
structure Ticket where
  ticketNumber : Nat
  subject : String
  contactId : Uuid
  ticketTypeId : Option Uuid
  status : TicketStatus
  priority : TicketPriority
  groupId : Option Uuid
  agentId : Option Uuid
  resourceId : Option Uuid
  source : TicketSource
  sourceDetail : Option String
  platform : Option TicketPlatform
  tags : List String
  customFields : CustomFields
  requiredSkill : Option String
  slaPolicyId : Option Uuid
  firstResponseDueAt : Option Nat
  firstResponseAt : Option Nat
  firstResponseOverdueNotifiedAt : Option Nat
  resolutionDueAt : Option Nat
  resolvedAt : Option Nat
  resolutionOverdueNotifiedAt : Option Nat
  mergedIntoId : Option Uuid
  createdAt : Nat
  updatedAt : Nat
  deriving DecidableEq

-- The columns the SLA clock is about, but for resolved_at.
structure SlaColumns where
  createdAt : Nat
  slaPolicyId : Option Uuid
  firstResponseDueAt : Option Nat
  firstResponseAt : Option Nat
  firstResponseOverdueNotifiedAt : Option Nat
  resolutionDueAt : Option Nat
  resolutionOverdueNotifiedAt : Option Nat
  deriving DecidableEq

def Ticket.sla (ticket : Ticket) : SlaColumns where
  createdAt := ticket.createdAt
  slaPolicyId := ticket.slaPolicyId
  firstResponseDueAt := ticket.firstResponseDueAt
  firstResponseAt := ticket.firstResponseAt
  firstResponseOverdueNotifiedAt := ticket.firstResponseOverdueNotifiedAt
  resolutionDueAt := ticket.resolutionDueAt
  resolutionOverdueNotifiedAt := ticket.resolutionOverdueNotifiedAt

inductive OverdueType where
  | firstResponse
  | resolution
  deriving DecidableEq

end CloudOps.Ticketing
