import CloudOps.Ticketing.HelpDesk

namespace CloudOps.Ticketing

open CloudOps.ReadCommitted CloudOps.Transaction

-- What becomes of a download: the path its bytes are saved under, or the message of
-- the error.
structure FreshdeskAttachment where
  id : Nat
  name : String
  downloaded : Except String String

structure FreshdeskConversation where
  bodyText : Option String
  incoming : Bool
  isPrivate : Bool
  createdAt : String
  attachments : List FreshdeskAttachment

structure FreshdeskRequester where
  name : Option String
  email : String

structure FreshdeskTicket where
  id : Nat
  subject : String
  status : Nat
  priority : Nat
  type : Option String
  groupId : Option Nat
  responderId : Option Nat
  requester : Option FreshdeskRequester
  createdAt : String
  updatedAt : String
  conversations : List FreshdeskConversation
  attachments : List FreshdeskAttachment

structure MigrationContext where
  groupIdByFreshdeskId : List (Nat × Uuid)
  agentIdByFreshdeskResponderId : List (Nat × Uuid)
  ticketTypeIdByName : List (String × Uuid)

-- STATUS_MAP
def statusMap : List (Nat × TicketStatus) := [(2, .opened), (3, .pending), (4, .resolved), (5, .closed)]

-- PRIORITY_MAP
def priorityMap : List (Nat × TicketPriority) := [(1, .low), (2, .medium), (3, .high), (4, .urgent)]

-- The name of a key every object inherits has none of the two fields.
structure FreshdeskType where
  typeName : Option String
  platform : Option TicketPlatform

-- FRESHDESK_TYPE_MAP
def freshdeskTypeMap : List (String × String × Option TicketPlatform) :=
  [("Cloud Support - Azure", "Cloud Support", some .azure),
    ("Cloud Support - AWS", "Cloud Support", some .aws),
    ("Cloud Support - Alibaba", "Cloud Support", some .alibabaCloud),
    ("Cloud Support - Others", "Cloud Support", some .other),
    ("M365 Support - Microsoft", "Cloud Support", some .microsoft365),
    ("Support - Tittu Marketing Platform", "Platform Support", some .tittuMarketingPlatform),
    ("Cloud Estimate", "Cloud Estimate", none),
    ("Cloud POC - AWS", "Cloud POC", some .aws),
    ("Cloud POC - Azure", "Cloud POC", some .azure),
    ("Cloud POC - Other", "Cloud POC", some .other),
    ("Development", "Development", none),
    ("Tittu New Features - Development", "Development", some .tittuMarketingPlatform),
    ("Cloud Project - AWS", "Cloud Project", some .aws),
    ("Cloud Project - Azure", "Cloud Project", some .azure),
    ("Cloud Project - Others", "Cloud Project", some .other),
    ("Cloud Project - Alibaba", "Cloud Project", some .alibabaCloud),
    ("Devops Project", "DevOps Project", none),
    ("Cloud Account Setup - AWS", "Account/Tenant Setup", some .aws),
    ("Cloud Account Setup - Azure", "Account/Tenant Setup", some .azure),
    ("Cloud Account Setup - Alibaba", "Account/Tenant Setup", some .alibabaCloud),
    ("M365 Tenant Setup - Microsoft", "Account/Tenant Setup", some .microsoft365),
    ("Cloud Billing", "Billing", none),
    ("Training", "Training", none),
    ("Cloud Migration", "Migration", none),
    ("M365 Migration", "Migration", some .microsoft365),
    ("Cloud Audit - Azure", "Audit", some .azure),
    ("Cloud Audit - AWS", "Audit", some .aws),
    ("Cloud Audit - Other", "Audit", some .other),
    ("Reports", "Reports", none),
    ("WAP APP Setup", "App Setup", none),
    ("EMP APP Setup", "App Setup", none)]

-- The keys an object literal inherits.
def inheritedKeys : List String :=
  ["constructor", "__defineGetter__", "__defineSetter__", "hasOwnProperty", "__lookupGetter__",
    "__lookupSetter__", "isPrototypeOf", "propertyIsEnumerable", "toString", "valueOf", "__proto__",
    "toLocaleString"]

def resolveFreshdeskType (rawType : String) : FreshdeskType :=
  match freshdeskTypeMap.lookup rawType with
  | some (typeName, platform) => ⟨some typeName, platform⟩
  | none => if rawType ∈ inheritedKeys then ⟨none, none⟩ else ⟨some rawType, none⟩

-- The truthy type of a ticket, resolved.
def resolvedType (ticket : FreshdeskTicket) : Option FreshdeskType :=
  (ticket.type.filter fun type => type ≠ "").map resolveFreshdeskType

def importedTypeId (ticket : FreshdeskTicket) (context : MigrationContext) : Option Uuid :=
  ((resolvedType ticket).bind FreshdeskType.typeName).bind fun name =>
    context.ticketTypeIdByName.lookup name

structure ImportResult where
  imported : Bool
  messagesImported : Nat
  warnings : List String

namespace HelpDesk

variable (runtime : Runtime)

-- new Date(text), as a timestamptz parameter.
def newDate (text : String) : TicketM Nat :=
  match runtime.parseDate text with
  | some date => pure date
  | none => throw (.error "invalid input syntax for type timestamp with time zone")

def importedResolvedAt (status : TicketStatus) (updatedAt : String) : TicketM (Option Nat) :=
  if status.isClosing then some <$> newDate runtime updatedAt else pure none

-- A foreign key of the INSERT.
def references (contains : TicketStore → Uuid → Bool) (id : Option Uuid) : TicketM Unit := do
  let store ← get
  if id.all (contains store) then pure () else throw (.error "foreign key constraint violated")

def importConversations (ticketId : Uuid) : List FreshdeskConversation → TicketM Unit
  | [] => pure ()
  | conversation :: rest => do
      let createdAt ← newDate runtime conversation.createdAt
      insertMessage
        { ticketId := ticketId
          type := if conversation.isPrivate then .note else .reply
          authorType :=
            if conversation.isPrivate then .system
            else if conversation.incoming then .contact else .agent
          authorId := none
          body := runtime.sanitizeHtml (conversation.bodyText.getD "")
          cc := []
          createdAt := createdAt }
      importConversations ticketId rest

-- The failed downloads become warnings, the others rows.
def persistAttachments (ticketId : Uuid) : List FreshdeskAttachment → List String → TicketM (List String)
  | [], warnings => pure warnings
  | attachment :: rest, warnings =>
      match attachment.downloaded with
      | .error message =>
          persistAttachments ticketId rest (warnings ++
            [s!"attachment \"{attachment.name}\" (Freshdesk id {attachment.id}) failed to migrate: {message}"])
      | .ok storagePath => do
          modify fun store => { store with
            attachments := store.attachments ++
              [{ ticketId := ticketId, fileName := attachment.name, storagePath := storagePath }] }
          persistAttachments ticketId rest warnings

-- The INSERT of importTicket, with the row's own number.
def insertImported (ticket : FreshdeskTicket) (id contactId : Uuid) (ticketTypeId groupId agentId : Option Uuid)
    (platform : Option TicketPlatform) : TicketM Unit := do
  let ticketNumber ← nextTicketNumber
  let status := (statusMap.lookup ticket.status).getD .new
  let createdAt ← newDate runtime ticket.createdAt
  let resolvedAt ← importedResolvedAt runtime status ticket.updatedAt
  references hasTicketType ticketTypeId
  references hasGroup groupId
  references hasAgent agentId
  insertTicket id
    { ticketNumber := ticketNumber
      subject := ticket.subject
      contactId := contactId
      ticketTypeId := ticketTypeId
      status := status
      priority := (priorityMap.lookup ticket.priority).getD .medium
      groupId := groupId
      agentId := agentId
      resourceId := none
      source := .api
      sourceDetail := none
      platform := platform
      tags := []
      customFields := []
      requiredSkill := none
      slaPolicyId := none
      firstResponseDueAt := none
      firstResponseAt := none
      firstResponseOverdueNotifiedAt := none
      resolutionDueAt := none
      resolvedAt := resolvedAt
      resolutionOverdueNotifiedAt := none
      mergedIntoId := none
      createdAt := createdAt
      updatedAt := createdAt }

-- FreshdeskMigrationService.importTicket
def importTicket (ticket : FreshdeskTicket) (context : MigrationContext) (newIds : GeneratedIds) :
    HelpDeskM ImportResult := do
  let desk ← get
  if desk.legacyTicketNumbers.rows.any fun row => row.2 == ticket.id then
    return ⟨false, 0, [s!"ticket {ticket.id} already imported, skipping"]⟩
  match ticket.requester.filter fun requester => requester.email ≠ "" with
  | none => return ⟨false, 0, [s!"ticket {ticket.id} has no requester email, skipping"]⟩
  | some requester => do
      let contactId ← onTickets (upsertContactByEmail
        ⟨requester.name.getD requester.email, requester.email⟩ newIds.contactId)
      let ticketTypeId := importedTypeId ticket context
      let typeName := ((resolvedType ticket).bind FreshdeskType.typeName).getD "undefined"
      let rawType := ticket.type.getD ""
      let typeWarnings := if (resolvedType ticket).isSome && ticketTypeId.isNone then
        [s!"ticket {ticket.id}: no local ticket_type named \"{typeName}\" (mapped from Freshdesk type \"{rawType}\"), left unset"]
        else []
      let groupId := (ticket.groupId.filter fun id => id ≠ 0).bind fun id =>
        context.groupIdByFreshdeskId.lookup id
      let responderId := ticket.responderId.filter fun id => id ≠ 0
      let agentId := responderId.bind fun id => context.agentIdByFreshdeskResponderId.lookup id
      let responder := responderId.getD 0
      let agentWarnings := if responderId.isSome && agentId.isNone then
        [s!"ticket {ticket.id}: responder_id {responder} did not match a seeded agent, left unassigned"]
        else []
      onTickets (insertImported runtime ticket newIds.ticketId contactId ticketTypeId groupId agentId
        ((resolvedType ticket).bind FreshdeskType.platform))
      modify fun desk => { desk with
        legacyTicketNumbers := desk.legacyTicketNumbers.insert newIds.ticketId ticket.id }
      onTickets (importConversations runtime newIds.ticketId ticket.conversations)
      let warnings ← onTickets (persistAttachments newIds.ticketId
        (ticket.conversations.flatMap FreshdeskConversation.attachments ++ ticket.attachments)
        (typeWarnings ++ agentWarnings))
      return ⟨true, ticket.conversations.length, warnings⟩

end HelpDesk

end CloudOps.Ticketing
