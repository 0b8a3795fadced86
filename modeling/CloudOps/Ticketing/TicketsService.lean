import CloudOps.Ticketing.Automation
import CloudOps.Ticketing.TicketStore

namespace CloudOps.Ticketing

open CloudOps.ReadCommitted CloudOps.Transaction

-- OPEN_STATUSES
def TicketStatus.countsAsOpen (status : TicketStatus) : Bool :=
  status = .new || status = .opened || status = .pending

-- ORDER BY id
def activeGroupAgents (store : TicketStore) (groupId : Uuid) : List Uuid :=
  ((store.agents.rows.filter fun row => decide (groupId ∈ row.2.groupIds) && row.2.isActive).map
    Prod.fst).mergeSort

def openTicketCount (store : TicketStore) (agentId : Uuid) : Nat :=
  (store.tickets.rows.filter fun row =>
    decide (row.2.agentId = some agentId) && row.2.status.countsAsOpen).length

-- Least loaded first, ties broken by id; an agent at the cap is left out.
def leastLoaded (counts : Uuid → Nat) (cap : Option Nat) (agentIds : List Uuid) : Option Uuid :=
  let eligible := agentIds.filter fun id => cap.all fun cap => counts id < cap
  (eligible.mergeSort fun first second =>
    counts first < counts second || counts first == counts second && first ≤ second).head?

def roundRobin (groupId : Uuid) (agentIds : List Uuid) : TicketM (Option Uuid) := do
  let store ← get
  let nextIndex :=
    match (store.groupAssignmentCursor.lookup groupId).bind fun last => agentIds.idxOf? last with
    | none => 0
    | some lastIndex => (lastIndex + 1) % agentIds.length
  match agentIds[nextIndex]? with
  | none => return none
  | some chosen =>
      modify fun store => { store with
        groupAssignmentCursor := store.groupAssignmentCursor.insert groupId chosen }
      return some chosen

-- AssignmentService.pickAssignee
def pickAssignee (groupId : Uuid) (requiredSkill : Option String) : TicketM (Option Uuid) := do
  let store ← get
  let agentIds := activeGroupAgents store groupId
  match store.groups.lookup groupId with
  | none => return none
  | some config =>
      match config.assignmentStrategy with
      | .manual => return none
      | .roundRobin => roundRobin groupId agentIds
      | .loadBased => return leastLoaded (openTicketCount store) config.maxOpenTicketsPerAgent agentIds
      | .skillBased =>
          match requiredSkill.filter fun skill => skill ≠ "" with
          | none => return none
          | some skill =>
              let skilled := agentIds.filter fun id => decide ((id, skill) ∈ store.agentSkills)
              return leastLoaded (openTicketCount store) config.maxOpenTicketsPerAgent skilled

variable (env : Environment)

structure SlaDueDates where
  firstResponseDueAt : Option Nat
  resolutionDueAt : Option Nat
  deriving DecidableEq

def calculateDueDates (createdAt : Nat) (slaPolicy : Option SlaTargets)
    (businessHours : Option BusinessHours) : SlaDueDates :=
  match slaPolicy with
  | none => ⟨none, none⟩
  | some policy =>
      let due (targetMinutes : Nat) : Nat :=
        match businessHours.filter fun _ => policy.businessHoursOnly with
        | some hours => env.addBusinessMinutes createdAt targetMinutes hours
        | none => createdAt + targetMinutes * 60000
      ⟨due policy.firstResponseTargetMinutes, due policy.resolutionTargetMinutes⟩

structure CreateTicketDto where
  subject : String
  contactId : Option String
  contact : Option Contact
  source : TicketSource
  sourceDetail : Option String
  ticketTypeId : Option String
  groupId : Option String
  agentId : Option String
  requiredSkill : Option String
  resourceId : Option String
  priority : Option TicketPriority
  platform : Option TicketPlatform
  tags : Option (List String)
  customFields : CustomFields

-- What gen_random_uuid() returns to the statements of one call.
structure GeneratedIds where
  contactId : Uuid
  ticketId : Uuid

def upsertContactByEmail (contact : Contact) (newId : Uuid) : TicketM Uuid := do
  let store ← get
  match store.contacts.rows.find? fun row => row.2.email == contact.email with
  | some (id, _) => return id
  | none =>
      if newId ∈ store.contacts then throw (.error "duplicate key value violates unique constraint")
      modify fun store => { store with contacts := store.contacts.insert newId contact }
      return newId

def nextTicketNumber : TicketM Nat := do
  let store ← get
  let nextValue := store.nextTicketNumber.elim 2 (· + 1)
  modify fun store => { store with nextTicketNumber := some nextValue }
  return nextValue - 1

def fetchSlaPolicy (store : TicketStore) (slaPolicyId : Option Uuid) : Option SlaTargets :=
  slaPolicyId.bind fun id => store.slaPolicies.lookup id

-- Read for a policy that counts business hours only.
def fetchBusinessHours (store : TicketStore) (slaPolicy : Option SlaTargets) : Option BusinessHours :=
  if slaPolicy.any SlaTargets.businessHoursOnly then store.businessHours else none

def checkCustomFields (submitted : CustomFields) : TicketM CustomFields :=
  match env.validateCustomFields submitted with
  | .ok customFields => pure customFields
  | .error message => throw (.badRequest message)

def contactOf (dto : CreateTicketDto) (newId : Uuid) : TicketM Uuid :=
  match dto.contactId, dto.contact with
  | some contactId, _ => assertBelongsToTenant env hasContact contactId "contact"
  | none, some contact => upsertContactByEmail contact newId
  | none, none => throw (.badRequest "Either contactId or contact \x7b name, email \x7d is required")

def ticketTypeOf (ticketTypeId : Option String) : TicketM (Option (Uuid × TicketType)) :=
  match ticketTypeId with
  | none => pure none
  | some text => do
      let id ← assertBelongsToTenant env hasTicketType text "ticket type"
      let store ← get
      return (store.ticketTypes.lookup id).map fun row => (id, row)

def groupOf (groupId : Option String) (defaultGroupId : Option Uuid) : TicketM (Option Uuid) :=
  match groupId, defaultGroupId with
  | some text, _ => some <$> assertBelongsToTenant env hasGroup text "group"
  | none, none => pure none
  | none, some id => do
      let store ← get
      let text := env.uuidText id
      if hasGroup store id then return some id
      else throw (.badRequest s!"group {text} not found for this tenant")

def optionalOf (contains : TicketStore → Uuid → Bool) (id : Option String) (label : String) :
    TicketM (Option Uuid) :=
  match id with
  | none => pure none
  | some text => some <$> assertBelongsToTenant env contains text label

-- An explicit agent wins; without one, a ticket in a group is assigned.
def assigneeOf (agentId groupId : Option Uuid) (requiredSkill : Option String) : TicketM (Option Uuid) :=
  match agentId, groupId with
  | some id, _ => pure (some id)
  | none, some groupId => pickAssignee groupId requiredSkill
  | none, none => pure none

def insertTicket (id : Uuid) (ticket : Ticket) : TicketM Unit := do
  let store ← get
  if id ∈ store.tickets || store.tickets.rows.any fun row => row.2.ticketNumber == ticket.ticketNumber then
    throw (.error "duplicate key value violates unique constraint")
  else modify fun store => { store with tickets := store.tickets.insert id ticket }

-- The row TicketsService.create inserts.
def newTicket (dto : CreateTicketDto) (newIds : GeneratedIds) (now : Nat) : TicketM Ticket := do
  let contactId ← contactOf env dto newIds.contactId
  let ticketType ← ticketTypeOf env dto.ticketTypeId
  let slaPolicyId := ticketType.bind fun row => row.2.defaultSlaPolicyId
  let groupId ← groupOf env dto.groupId (ticketType.bind fun row => row.2.defaultGroupId)
  let givenAgentId ← optionalOf env hasAgent dto.agentId "agent"
  let resourceId ← optionalOf env hasResource dto.resourceId "resource"
  let store ← get
  let slaPolicy := fetchSlaPolicy store slaPolicyId
  let ticketNumber ← nextTicketNumber
  let due := calculateDueDates env now slaPolicy (fetchBusinessHours store slaPolicy)
  let customFields ← checkCustomFields env dto.customFields
  let agentId ← assigneeOf givenAgentId groupId dto.requiredSkill
  return { ticketNumber := ticketNumber
           subject := dto.subject
           contactId := contactId
           ticketTypeId := ticketType.map Prod.fst
           status := .new
           priority := dto.priority.getD .medium
           groupId := groupId
           agentId := agentId
           resourceId := resourceId
           source := dto.source
           sourceDetail := dto.sourceDetail
           platform := dto.platform
           tags := dto.tags.getD []
           customFields := customFields
           requiredSkill := dto.requiredSkill
           slaPolicyId := slaPolicyId
           firstResponseDueAt := due.firstResponseDueAt
           firstResponseAt := none
           firstResponseOverdueNotifiedAt := none
           resolutionDueAt := due.resolutionDueAt
           resolvedAt := none
           resolutionOverdueNotifiedAt := none
           mergedIntoId := none
           createdAt := now
           updatedAt := now }

-- TicketsService.create up to its commit.
def create (dto : CreateTicketDto) (newIds : GeneratedIds) (now : Nat) : TicketM Ticket := do
  let ticket ← newTicket env dto newIds now
  insertTicket newIds.ticketId ticket
  runRules env .ticketCreated newIds.ticketId ticket now

-- Carries a source's conversation over to the primary, closes the source and points
-- it at the primary.
def mergeSource (primaryKey : Uuid) (primaryNumber now : Nat) (sourceKey : Uuid) : TicketM Unit := do
  modify fun store => { store with
    messages := store.messages.map fun message =>
      if message.ticketId = sourceKey then { message with ticketId := primaryKey } else message
    attachments := store.attachments.map fun attachment =>
      if attachment.ticketId = sourceKey then { attachment with ticketId := primaryKey } else attachment }
  let _ ← updateTicket sourceKey fun row =>
    { row with
      status := .closed
      resolvedAt := row.resolvedAt.or (some now)
      mergedIntoId := some primaryKey
      updatedAt := now }
  insertSystemNote sourceKey s!"This ticket was merged into #{primaryNumber}." now

-- The loop over the sources, with the numbers of the tickets merged so far.
def mergeSources (primaryId : String) (primaryKey : Uuid) (primaryNumber now : Nat) :
    List String → List Nat → TicketM (List Nat)
  | [], mergedNumbers => pure mergedNumbers
  | sourceId :: rest, mergedNumbers =>
      if sourceId = primaryId then mergeSources primaryId primaryKey primaryNumber now rest mergedNumbers
      else do
        match ← selectTicket env sourceId with
        | none => throw (.notFound s!"Ticket {sourceId} not found")
        | some (sourceKey, source) =>
            if source.mergedIntoId.isSome then
              mergeSources primaryId primaryKey primaryNumber now rest mergedNumbers
            else do
              mergeSource primaryKey primaryNumber now sourceKey
              mergeSources primaryId primaryKey primaryNumber now rest
                (mergedNumbers ++ [source.ticketNumber])

-- TicketsService.merge.
def merge (primaryId : String) (sourceTicketIds : List String) (now : Nat) : TicketM (Option Ticket) := do
  match ← selectTicket env primaryId with
  | none => throw (.notFound s!"Ticket {primaryId} not found")
  | some (primaryKey, primary) =>
      let mergedNumbers ← mergeSources env primaryId primaryKey primary.ticketNumber now sourceTicketIds []
      let numbers := ", ".intercalate (mergedNumbers.map fun number => s!"#{number}")
      if 0 < mergedNumbers.length then
        insertSystemNote primaryKey s!"Merged in ticket(s): {numbers}." now
      let store ← get
      return store.tickets.lookup primaryKey

-- A field of a PATCH: absent, null, or a value.
inductive Patch (α : Type) where
  | undefined
  | null
  | value (value : α)
  deriving DecidableEq

-- A null status, priority or list of tags raises an error, so a request that has
-- one changes nothing and is left out.
structure UpdateTicketDto where
  status : Option TicketStatus
  priority : Option TicketPriority
  groupId : Patch String
  agentId : Patch String
  ticketTypeId : Patch String
  platform : Patch TicketPlatform
  tags : Option (List String)
  customFields : Option CustomFields

structure ActivityChange where
  field : String
  oldValue : Option String
  newValue : Option String
  deriving DecidableEq

-- What one field of the request adds to the UPDATE and to the timeline.
structure Edits where
  sets : List (Ticket → Ticket)
  changes : List ActivityChange

def Edits.none : Edits := ⟨[], []⟩

def Edits.append (first second : Edits) : Edits :=
  ⟨first.sets ++ second.sets, first.changes ++ second.changes⟩

instance : Append Edits := ⟨Edits.append⟩

def trackChange (field : String) (oldValue newValue : Option String) : List ActivityChange :=
  if oldValue = newValue then [] else [⟨field, oldValue, newValue⟩]

def statusEdits (existing : Ticket) (now : Nat) : Option TicketStatus → Edits
  | none => .none
  | some status =>
      { sets := [fun row => { row with
          status := status, resolvedAt := if status.isClosing then some now else none }]
        changes := trackChange "status" existing.status.text status.text }

def priorityEdits (existing : Ticket) : Option TicketPriority → Edits
  | none => .none
  | some priority =>
      { sets := [fun row => { row with priority := priority }]
        changes := trackChange "priority" existing.priority.text priority.text }

def platformEdits (existing : Ticket) : Patch TicketPlatform → Edits
  | .undefined => .none
  | .null =>
      { sets := [fun row => { row with platform := none }]
        changes := trackChange "platform" (existing.platform.map TicketPlatform.text) none }
  | .value platform =>
      { sets := [fun row => { row with platform := platform }]
        changes := trackChange "platform" (existing.platform.map TicketPlatform.text) platform.text }

-- group_id, agent_id: the request's text stands beside the id it was checked to be.
def referenceEdits (field : String) (current : Option Uuid) (set : Option Uuid → Ticket → Ticket) :
    Patch (String × Uuid) → Edits
  | .undefined => .none
  | .null => ⟨[set none], trackChange field (current.map env.uuidText) none⟩
  | .value (text, id) => ⟨[set (some id)], trackChange field (current.map env.uuidText) (some text)⟩

def tagsEdits : Option (List String) → Edits
  | none => .none
  | some tags => ⟨[fun row => { row with
      tags := ((tags.map trim).filter fun tag => tag ≠ "").eraseDups }], []⟩

-- The submitted keys over the stored ones.
def overlay (stored submitted : CustomFields) : CustomFields :=
  (stored.filter fun field => (submitted.map Prod.fst).all fun key => key ≠ field.1) ++ submitted

def customFieldsEdits (existing : Ticket) : Option CustomFields → TicketM Edits
  | none => pure .none
  | some submitted => do
      let validated ← checkCustomFields env (overlay existing.customFields submitted)
      return ⟨[fun row => { row with customFields := validated }], []⟩

structure SlaAssignment where
  slaPolicyId : Option Uuid
  due : SlaDueDates

def SlaAssignment.set (assignment : SlaAssignment) (row : Ticket) : Ticket :=
  { row with
    slaPolicyId := assignment.slaPolicyId
    firstResponseDueAt := assignment.due.firstResponseDueAt
    resolutionDueAt := assignment.due.resolutionDueAt }

-- A new ticket type brings its default policy. The due dates stay anchored to
-- created_at, and are calculated anew only when the policy is another one.
def recalculateSla (store : TicketStore) (existing : Ticket) (ticketTypeId : Patch (String × Uuid)) :
    Option SlaAssignment :=
  let newSlaPolicyId? : Option (Option Uuid) :=
    match ticketTypeId with
    | .undefined => none
    | .null => some none
    | .value (_, id) => some ((store.ticketTypes.lookup id).bind TicketType.defaultSlaPolicyId)
  (newSlaPolicyId?.filter fun newSlaPolicyId => newSlaPolicyId ≠ existing.slaPolicyId).map
    fun newSlaPolicyId =>
      let slaPolicy := fetchSlaPolicy store newSlaPolicyId
      ⟨newSlaPolicyId,
        calculateDueDates env existing.createdAt slaPolicy (fetchBusinessHours store slaPolicy)⟩

def slaEdits : Option SlaAssignment → Edits
  | none => .none
  | some assignment => ⟨[assignment.set], []⟩

def checkedPatch (contains : TicketStore → Uuid → Bool) (label : String) :
    Patch String → TicketM (Patch (String × Uuid))
  | .undefined => pure .undefined
  | .null => pure .null
  | .value text => do
      let id ← assertBelongsToTenant env contains text label
      return .value (text, id)

def insertActivities (id : Uuid) (actorAgentId : Option Uuid) : List ActivityChange → TicketM Unit
  | [] => pure ()
  | change :: rest => do
      insertActivity
        { ticketId := id, field := change.field, oldValue := change.oldValue,
          newValue := change.newValue, actorAgentId := actorAgentId }
      insertActivities id actorAgentId rest

structure UpdateOutcome where
  result : Ticket
  assignedAgentId : Option String
  resolvedNow : Bool

-- The agent to be told of the assignment once it is committed.
def newlyAssigned (existing : Ticket) : Patch String → Option String
  | .value agentId => if some agentId = existing.agentId.map env.uuidText then none else some agentId
  | .undefined | .null => none

-- All the request's edits of the row it found.
def editsOf (dto : UpdateTicketDto) (existing : Ticket) (groupId agentId ticketTypeId : Patch (String × Uuid))
    (customFields : Edits) (assignment : Option SlaAssignment) (now : Nat) : Edits :=
  statusEdits existing now dto.status ++ priorityEdits existing dto.priority ++
    platformEdits existing dto.platform ++
    referenceEdits env "group_id" existing.groupId (fun id row => { row with groupId := id }) groupId ++
    referenceEdits env "agent_id" existing.agentId (fun id row => { row with agentId := id }) agentId ++
    tagsEdits dto.tags ++ customFields ++
    referenceEdits env "ticket_type_id" existing.ticketTypeId
      (fun id row => { row with ticketTypeId := id }) ticketTypeId ++
    slaEdits assignment

def Edits.apply (edits : Edits) (row : Ticket) : Ticket := edits.sets.foldl (fun row set => set row) row

-- TicketsService.update up to its commit.
def update (id : String) (dto : UpdateTicketDto) (actorAgentId : Option Uuid) (now : Nat) :
    TicketM UpdateOutcome := do
  match ← selectTicket env id with
  | none => throw (.notFound s!"Ticket {id} not found")
  | some (key, existing) =>
      let groupId ← checkedPatch env hasGroup "group" dto.groupId
      let agentId ← checkedPatch env hasAgent "agent" dto.agentId
      let ticketTypeId ← checkedPatch env hasTicketType "ticket type" dto.ticketTypeId
      let customFields ← customFieldsEdits env existing dto.customFields
      let store ← get
      let assignment := recalculateSla env store existing ticketTypeId
      let edits := editsOf env dto existing groupId agentId ticketTypeId customFields assignment now
      if edits.sets.length = 0 then return ⟨existing, none, false⟩
      let row ← updateTicket key fun row => { edits.apply row with updatedAt := now }
      match row with
      | none => throw (.error "rows[0] is undefined")
      | some row =>
          insertActivities key actorAgentId edits.changes
          let result ← runRules env .ticketUpdated key row now
          return { result := result
                   assignedAgentId := newlyAssigned env existing dto.agentId
                   resolvedNow := dto.status = some .resolved && existing.status ≠ .resolved }

end CloudOps.Ticketing
