import CloudOps.ReadCommitted.Columns
import CloudOps.ReadCommitted.Rely
import CloudOps.Ticketing.FreshdeskMigration

namespace CloudOps.Ticketing.TicketIntake

open CloudOps.ReadCommitted

-- Which entry of which Freshdesk ticket's conversation, counted from 0.
structure EntryRef where
  freshdeskTicketId : Nat
  index : Nat
  deriving DecidableEq

-- The rows a creation or an import reads and writes, of all tenants: the ticket
-- number counters and the assignment cursors under their keys, the other ones under
-- generated ids. `importedFrom` records which entry a message was made from; the code
-- never reads it.
inductive IntakeKey where
  | counter (tenantId : Uuid)
  | cursor (tenantId groupId : Uuid)
  | generated (id : Uuid)
  deriving DecidableEq

inductive IntakeRow where
  | counter (nextValue : Nat)
  | cursor (lastAgentId : Uuid)
  | contact (tenantId : Uuid) (row : Contact)
  | ticket (tenantId : Uuid) (legacyTicketNumber : Option Nat) (row : Ticket)
  | message (tenantId : Uuid) (importedFrom : Option EntryRef) (row : TicketMessage)
  | attachment (tenantId : Uuid) (row : TicketAttachment)
  | activity (tenantId : Uuid) (row : TicketActivity)
  deriving DecidableEq

def IntakeRow.onTicket (set : Ticket → Ticket) : IntakeRow → IntakeRow
  | ticket tenantId legacyTicketNumber row => ticket tenantId legacyTicketNumber (set row)
  | row => row

abbrev IntakeProg := Prog IntakeKey IntakeRow ServiceError

-- Statements that only look up references, in tables no transaction here writes.
def reading {α : Type} (reads : TicketStore) (tx : TicketM α) : IntakeProg α :=
  match tx.run reads with
  | .ok (value, _) => .ret value
  | .error error => .throw error

-- INSERT .. RETURNING id
def insertGenerated (row : IntakeRow) : IntakeProg Uuid := do
  match ← Prog.insertRow row with
  | .inserted (.generated id) => return id
  | _ => .throw (.error "duplicate key value violates unique constraint")

def insertAll : List IntakeRow → IntakeProg Unit
  | [] => .ret ()
  | row :: rest => do
      let _ ← insertGenerated row
      insertAll rest

def contactWithEmail (tenantId : Uuid) (email : String) : IntakeKey → IntakeRow → Bool
  | .generated _, .contact owner row => owner == tenantId && row.email == email
  | _, _ => false

def contactWithId (tenantId id : Uuid) : IntakeKey → IntakeRow → Bool
  | .generated key, .contact owner _ => key == id && owner == tenantId
  | _, _ => false

def upsertContactByEmail (tenantId : Uuid) (contact : Contact) : IntakeProg Uuid := do
  match (← Prog.query (contactWithEmail tenantId contact.email)).head? with
  | some (.generated id, _) => return id
  | _ => insertGenerated (.contact tenantId contact)

-- INSERT .. VALUES ($1, 2) ON CONFLICT (tenant_id) DO UPDATE SET next_value = next_value + 1
def incrementCounter : Option IntakeRow → Option IntakeRow
  | none => some (.counter 2)
  | some (.counter nextValue) => some (.counter (nextValue + 1))
  | some _ => none

-- RETURNING next_value - 1
def nextTicketNumber (tenantId : Uuid) : IntakeProg Nat :=
  .write (.counter tenantId) incrementCounter fun
    | some (.counter nextValue) => .ret (nextValue - 1)
    | _ => .throw (.error "row is undefined")

variable (env : Environment) (runtime : Runtime) (tenantId : Uuid) (reads : TicketStore)

def contactOf (dto : CreateTicketDto) : IntakeProg Uuid :=
  match dto.contactId, dto.contact with
  | some contactId, _ => do
      let id ← reading reads (castUuid env contactId)
      match (← Prog.query (contactWithId tenantId id)).head? with
      | some _ => return id
      | none => .throw (.badRequest s!"contact {contactId} not found for this tenant")
  | none, some contact => upsertContactByEmail tenantId contact
  | none, none => .throw (.badRequest "Either contactId or contact \x7b name, email \x7d is required")

section Assignment

def openTicket (agentIds : List Uuid) : IntakeKey → IntakeRow → Bool
  | .generated _, .ticket owner _ row =>
      owner == tenantId && row.agentId.any agentIds.contains && row.status.countsAsOpen
  | _, _ => false

def assignedTo (agentId : Uuid) : IntakeRow → Bool
  | .ticket _ _ row => row.agentId == some agentId
  | _ => false

def openTicketCounts (agentIds : List Uuid) : IntakeProg (Uuid → Nat) := do
  let rows ← Prog.query (openTicket tenantId agentIds)
  return fun agentId => (rows.filter fun row => assignedTo agentId row.2).length

def isCursor (groupId : Uuid) : IntakeKey → IntakeRow → Bool
  | .cursor owner group, _ => owner == tenantId && group == groupId
  | _, _ => false

def roundRobin (groupId : Uuid) (agentIds : List Uuid) : IntakeProg (Option Uuid) := do
  let rows ← Prog.query (isCursor tenantId groupId)
  let nextIndex :=
    match rows.head? with
    | some (_, .cursor lastAgentId) => (agentIds.idxOf? lastAgentId).elim 0 fun index =>
        (index + 1) % agentIds.length
    | _ => 0
  match agentIds[nextIndex]? with
  | none => return none
  | some chosen => .write (.cursor tenantId groupId) (fun _ => some (.cursor chosen)) fun _ => .ret (some chosen)

-- AssignmentService.pickAssignee
def pickAssignee (groupId : Uuid) (requiredSkill : Option String) : IntakeProg (Option Uuid) :=
  let least (config : GroupAssignmentConfig) (agentIds : List Uuid) : IntakeProg (Option Uuid) := do
    let counts ← openTicketCounts tenantId agentIds
    return leastLoaded counts config.maxOpenTicketsPerAgent agentIds
  let agentIds := activeGroupAgents reads groupId
  match reads.groups.lookup groupId with
  | none => .ret none
  | some config =>
      match config.assignmentStrategy with
      | .manual => .ret none
      | .roundRobin => if agentIds.isEmpty then .ret none else roundRobin tenantId groupId agentIds
      | .loadBased => if agentIds.isEmpty then .ret none else least config agentIds
      | .skillBased =>
          match requiredSkill.filter fun skill => skill ≠ "" with
          | none => .ret none
          | some skill =>
              let skilled := agentIds.filter fun id => reads.agentSkills.contains (id, skill)
              if skilled.isEmpty then .ret none else least config skilled

def assigneeOf (agentId groupId : Option Uuid) (requiredSkill : Option String) : IntakeProg (Option Uuid) :=
  match agentId, groupId with
  | some id, _ => .ret (some id)
  | none, some groupId => pickAssignee tenantId reads groupId requiredSkill
  | none, none => .ret none

end Assignment

section Create

-- What create looks up before it takes a number.
structure CreateReferences where
  ticketType : Option (Uuid × TicketType)
  groupId : Option Uuid
  agentId : Option Uuid
  resourceId : Option Uuid

def createReferences (dto : CreateTicketDto) : TicketM CreateReferences := do
  let ticketType ← ticketTypeOf env dto.ticketTypeId
  let groupId ← groupOf env dto.groupId (ticketType.bind fun row => row.2.defaultGroupId)
  let agentId ← optionalOf env hasAgent dto.agentId "agent"
  let resourceId ← optionalOf env hasResource dto.resourceId "resource"
  return ⟨ticketType, groupId, agentId, resourceId⟩

-- The row create inserts.
def newTicket (dto : CreateTicketDto) (contactId : Uuid) (references : CreateReferences)
    (ticketNumber createdAt : Nat) (customFields : CustomFields) (agentId : Option Uuid) : Ticket :=
  let slaPolicyId := references.ticketType.bind fun row => row.2.defaultSlaPolicyId
  let slaPolicy := fetchSlaPolicy reads slaPolicyId
  let due := calculateDueDates env createdAt slaPolicy (fetchBusinessHours reads slaPolicy)
  { ticketNumber := ticketNumber
    subject := dto.subject
    contactId := contactId
    ticketTypeId := references.ticketType.map Prod.fst
    status := .new
    priority := dto.priority.getD .medium
    groupId := references.groupId
    agentId := agentId
    resourceId := references.resourceId
    source := dto.source
    sourceDetail := dto.sourceDetail
    platform := dto.platform
    tags := dto.tags.getD []
    customFields := customFields
    requiredSkill := dto.requiredSkill
    slaPolicyId := slaPolicyId
    firstResponseDueAt := due.firstResponseDueAt
    firstResponseAt := none
    firstResponseOverdueNotifiedAt := none
    resolutionDueAt := due.resolutionDueAt
    resolvedAt := none
    resolutionOverdueNotifiedAt := none
    mergedIntoId := none
    createdAt := createdAt
    updatedAt := createdAt }

-- The rules for a new ticket run on its row, which nobody else sees before the
-- commit: its last version is written at once, then the rows they insert.
def runCreationRules (id : Uuid) (ticket : Ticket) (startedAt : Nat) : IntakeProg Ticket :=
  match (runRules env .ticketCreated id ticket startedAt).run
      { reads with tickets := (∅ : Table Uuid Ticket).insert id ticket, messages := [], activities := [] } with
  | .error error => .throw error
  | .ok (result, store) => do
      let _ ← Prog.update (.generated id) (IntakeRow.onTicket fun row => (store.tickets.lookup id).getD row)
      insertAll (store.activities.map (IntakeRow.activity tenantId))
      insertAll (store.messages.map (IntakeRow.message tenantId none))
      return result

-- TicketsService.create
def create (dto : CreateTicketDto) (startedAt : Nat) : IntakeProg Ticket := do
  let contactId ← contactOf env tenantId reads dto
  let references ← reading reads (createReferences env dto)
  let ticketNumber ← nextTicketNumber tenantId
  let createdAt ← Prog.dateNow
  let customFields ← reading reads (checkCustomFields env dto.customFields)
  let agentId ← assigneeOf tenantId reads references.agentId references.groupId dto.requiredSkill
  let ticket := newTicket env reads dto contactId references ticketNumber createdAt customFields agentId
  let id ← insertGenerated (.ticket tenantId none ticket)
  runCreationRules env tenantId reads id ticket startedAt

end Create

section Import

def importedAs (legacyTicketNumber : Nat) : IntakeKey → IntakeRow → Bool
  | .generated _, .ticket owner legacy _ => owner == tenantId && legacy == some legacyTicketNumber
  | _, _ => false

def importedGroupId (ticket : FreshdeskTicket) (context : MigrationContext) : Option Uuid :=
  (ticket.groupId.filter fun id => id ≠ 0).bind fun id => context.groupIdByFreshdeskId.lookup id

def responderOf (ticket : FreshdeskTicket) : Option Nat := ticket.responderId.filter fun id => id ≠ 0

def importedAgentId (ticket : FreshdeskTicket) (context : MigrationContext) : Option Uuid :=
  (responderOf ticket).bind fun id => context.agentIdByFreshdeskResponderId.lookup id

def mappingWarnings (ticket : FreshdeskTicket) (context : MigrationContext) : List String :=
  let typeName := ((resolvedType ticket).bind FreshdeskType.typeName).getD "undefined"
  let rawType := ticket.type.getD ""
  let responder := (responderOf ticket).getD 0
  (if (resolvedType ticket).isSome && (importedTypeId ticket context).isNone then
    [s!"ticket {ticket.id}: no local ticket_type named \"{typeName}\" (mapped from Freshdesk type \"{rawType}\"), left unset"]
    else []) ++
  if (responderOf ticket).isSome && (importedAgentId ticket context).isNone then
    [s!"ticket {ticket.id}: responder_id {responder} did not match a seeded agent, left unassigned"]
    else []

-- The row importTicket inserts.
def importedRow (ticket : FreshdeskTicket) (context : MigrationContext) (ticketNumber : Nat) (contactId : Uuid) :
    TicketM Ticket := do
  let status := (statusMap.lookup ticket.status).getD .new
  let createdAt ← HelpDesk.newDate runtime ticket.createdAt
  let resolvedAt ← HelpDesk.importedResolvedAt runtime status ticket.updatedAt
  HelpDesk.references hasTicketType (importedTypeId ticket context)
  HelpDesk.references hasGroup (importedGroupId ticket context)
  HelpDesk.references hasAgent (importedAgentId ticket context)
  return { ticketNumber := ticketNumber
           subject := ticket.subject
           contactId := contactId
           ticketTypeId := importedTypeId ticket context
           status := status
           priority := (priorityMap.lookup ticket.priority).getD .medium
           groupId := importedGroupId ticket context
           agentId := importedAgentId ticket context
           resourceId := none
           source := .api
           sourceDetail := none
           platform := (resolvedType ticket).bind FreshdeskType.platform
           tags := []
           customFields := []
           requiredSkill := none
           slaPolicyId := none
           firstResponseDueAt := none
           firstResponseAt := none
           firstResponseOverdueNotifiedAt := none
           resolutionDueAt := none
           resolvedAt := resolvedAt
           resolutionOverdueNotifiedAt := none
           mergedIntoId := none
           createdAt := createdAt
           updatedAt := createdAt }

-- The loop over the conversations, from the entry at `index` on.
def importConversations (freshdeskTicketId : Nat) (ticketId : Uuid) :
    Nat → List FreshdeskConversation → IntakeProg Unit
  | _, [] => .ret ()
  | index, conversation :: rest => do
      let createdAt ← reading reads (HelpDesk.newDate runtime conversation.createdAt)
      let _ ← insertGenerated (.message tenantId (some ⟨freshdeskTicketId, index⟩)
        { ticketId := ticketId
          type := if conversation.isPrivate then .note else .reply
          authorType :=
            if conversation.isPrivate then .system
            else if conversation.incoming then .contact else .agent
          authorId := none
          body := runtime.sanitizeHtml (conversation.bodyText.getD "")
          cc := []
          createdAt := createdAt })
      importConversations freshdeskTicketId ticketId (index + 1) rest

-- The failed downloads become warnings, the others rows.
def persistAttachments (ticketId : Uuid) :
    List FreshdeskAttachment → List String → IntakeProg (List String)
  | [], warnings => .ret warnings
  | attachment :: rest, warnings =>
      match attachment.downloaded with
      | .error message =>
          persistAttachments ticketId rest (warnings ++
            [s!"attachment \"{attachment.name}\" (Freshdesk id {attachment.id}) failed to migrate: {message}"])
      | .ok storagePath => do
          let _ ← insertGenerated (.attachment tenantId
            { ticketId := ticketId, fileName := attachment.name, storagePath := storagePath })
          persistAttachments ticketId rest warnings

-- What follows once the ticket has a contact.
def importNew (ticket : FreshdeskTicket) (context : MigrationContext) (contactId : Uuid) :
    IntakeProg ImportResult := do
  let ticketNumber ← nextTicketNumber tenantId
  let row ← reading reads (importedRow runtime ticket context ticketNumber contactId)
  let id ← insertGenerated (.ticket tenantId (some ticket.id) row)
  importConversations runtime tenantId reads ticket.id id 0 ticket.conversations
  let warnings ← persistAttachments tenantId id
    (ticket.conversations.flatMap FreshdeskConversation.attachments ++ ticket.attachments)
    (mappingWarnings ticket context)
  return ⟨true, ticket.conversations.length, warnings⟩

-- FreshdeskMigrationService.importTicket
def importTicket (ticket : FreshdeskTicket) (context : MigrationContext) : IntakeProg ImportResult := do
  match (← Prog.query (importedAs tenantId ticket.id)).head? with
  | some _ => return ⟨false, 0, [s!"ticket {ticket.id} already imported, skipping"]⟩
  | none =>
      match ticket.requester.filter fun requester => requester.email ≠ "" with
      | none => return ⟨false, 0, [s!"ticket {ticket.id} has no requester email, skipping"]⟩
      | some requester => do
          let contactId ← upsertContactByEmail tenantId
            ⟨requester.name.getD requester.email, requester.email⟩
          importNew runtime tenantId reads ticket context contactId

end Import

inductive IntakeRequest where
  | create (dto : CreateTicketDto)
  | importTicket (ticket : FreshdeskTicket) (context : MigrationContext)

-- What one transaction runs with: its tenant, and the tables it only looks
-- references up in.
structure IntakeCall where
  tenantId : Uuid
  reads : TicketStore
  request : IntakeRequest

inductive IntakeResult where
  | created (ticket : Ticket)
  | imported (result : ImportResult)

-- UNIQUE (tenant_id, ticket_number)
def sameNumber : IntakeRow → IntakeRow → Bool
  | .ticket tenantId _ row, .ticket otherId _ other =>
      tenantId == otherId && row.ticketNumber == other.ticketNumber
  | _, _ => false

-- The transactions that open tickets, each in its withTenantContext.
def intakeService : Service IntakeKey IntakeRow ServiceError IntakeResult IntakeCall where
  body call startedAt :=
    match call.request with
    | .create dto => (create env call.tenantId call.reads dto startedAt).map .created
    | .importTicket ticket context =>
        (importTicket runtime call.tenantId call.reads ticket context).map .imported
  conflict := sameNumber

end CloudOps.Ticketing.TicketIntake

-- What the statements of creations and imports do to the rows, for any relation between the
-- version of a row and the next one, and for any stages.
namespace CloudOps.Ticketing.TicketIntake

open CloudOps.ReadCommitted

variable {α : Type} {step : IntakeKey → Option IntakeRow → IntakeRow → Prop} {tenantId : Uuid}

theorem changes_reading (reads : TicketStore) (tx : TicketM α) : (reading reads tx).Changes step := by
  unfold reading
  split <;> trivial

theorem changes_insertGenerated {row : IntakeRow} (hrow : ∀ key, step key none row) :
    (insertGenerated row).Changes step := by
  refine ⟨hrow, fun result => ?_⟩
  cases result with
  | inserted key => cases key <;> trivial
  | duplicateKey => trivial

-- From stage to stage, where the stages hold of a row under a new key.
theorem goes_insertNew {γ C S : Type}
    {rely : World IntakeKey IntakeRow γ C → World IntakeKey IntakeRow γ C → Prop}
    {inv : World IntakeKey IntakeRow γ C → Prop} {stages : Stages rely inv S} {stage : S} {row : IntakeRow}
    {result : Uuid → S → Prop}
    (h : ∀ id world writes, stages.holds stage world writes → .generated id ∉ writes →
      .generated id ∉ world.committed →
      ∃ after, result id after ∧ stages.holds after world (writes.insert (.generated id) row)) :
    stages.Goes stage (insertGenerated row) result := by
  intro world writes hw after ha
  refine ⟨fun key hwrites hcommitted => ?_, trivial⟩
  cases key with
  | counter | cursor => trivial
  | generated id =>
      intro later hl
      obtain ⟨next, hnext, hholds⟩ := h id after writes (stages.stable hw ha) hwrites hcommitted
      exact ⟨next, hnext, stages.stable hholds hl⟩

theorem changes_insertAll {rows : List IntakeRow} (hrows : ∀ row ∈ rows, ∀ key, step key none row) :
    (insertAll rows).Changes step := by
  induction rows with
  | nil => trivial
  | cons row rest ih =>
      obtain ⟨hrow, hrest⟩ := List.forall_mem_cons.mp hrows
      exact (changes_insertGenerated hrow).bind fun _ => ih hrest

theorem changes_contactOf (env : Environment) (reads : TicketStore)
    (hcontact : ∀ key contact, step key none (.contact tenantId contact)) (dto : CreateTicketDto) :
    (contactOf env tenantId reads dto).Changes step := by
  unfold contactOf
  split
  · refine (changes_reading reads _).bind fun id => (Prog.changes_query _).bind fun rows => ?_
    split <;> trivial
  · refine (Prog.changes_query _).bind fun rows => ?_
    split
    · trivial
    · exact changes_insertGenerated fun key => hcontact key _
  · trivial

section Ungenerated

-- Counters and cursors may change in any way.
variable (hfree : ∀ key old row, (∀ id, key ≠ .generated id) → step key old row)
include hfree

theorem changes_nextTicketNumber : (nextTicketNumber tenantId).Changes step := by
  refine ⟨fun old row _ => hfree _ old row (by simp), fun result => ?_⟩
  cases result with
  | none => trivial
  | some row => cases row <;> trivial

theorem changes_roundRobin (groupId : Uuid) (agentIds : List Uuid) :
    (roundRobin tenantId groupId agentIds).Changes step := by
  refine (Prog.changes_query _).bind fun rows => ?_
  dsimp only
  generalize agentIds[(_ : Nat)]? = chosen
  cases chosen with
  | none => trivial
  | some chosen => exact ⟨fun old row _ => hfree _ old row (by simp), fun _ => trivial⟩

theorem changes_assigneeOf (reads : TicketStore) (agentId groupId : Option Uuid) (requiredSkill : Option String) :
    (assigneeOf tenantId reads agentId groupId requiredSkill).Changes step := by
  have hleast : ∀ (config : GroupAssignmentConfig) (agentIds : List Uuid),
      (openTicketCounts tenantId agentIds >>= fun counts =>
        (.ret (leastLoaded counts config.maxOpenTicketsPerAgent agentIds) : IntakeProg (Option Uuid))).Changes
          step :=
    fun config agentIds => fun _ => trivial
  unfold assigneeOf pickAssignee
  split
  · trivial
  · dsimp only
    split
    · trivial
    · split
      · trivial
      · split
        · trivial
        · exact changes_roundRobin hfree _ _
      · split
        · trivial
        · exact hleast _ _
      · split
        · trivial
        · split
          · trivial
          · exact hleast _ _
  · trivial

end Ungenerated

end CloudOps.Ticketing.TicketIntake
