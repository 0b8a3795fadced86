import CloudOps.ReadCommitted.Table
import CloudOps.ServiceError
import CloudOps.Ticketing.Ticket
import CloudOps.Transaction

namespace CloudOps.Ticketing

open CloudOps.ReadCommitted

inductive MessageType where
  | reply
  | note
  | forward
  deriving DecidableEq

inductive AuthorType where
  | agent
  | contact
  | system
  deriving DecidableEq

structure TicketMessage where
  ticketId : Uuid
  type : MessageType
  authorType : AuthorType
  authorId : Option Uuid
  body : String
  cc : List String
  createdAt : Nat
  deriving DecidableEq

structure TicketAttachment where
  ticketId : Uuid
  fileName : String
  storagePath : String
  deriving DecidableEq

structure TicketActivity where
  ticketId : Uuid
  field : String
  oldValue : Option String
  newValue : Option String
  actorAgentId : Option Uuid
  deriving DecidableEq

structure Contact where
  name : String
  email : String
  deriving DecidableEq

structure TicketType where
  defaultGroupId : Option Uuid
  defaultSlaPolicyId : Option Uuid
  deriving DecidableEq

inductive AssignmentStrategy where
  | manual
  | roundRobin
  | loadBased
  | skillBased
  deriving DecidableEq

-- GroupAssignmentConfig: the columns of a group that assignment reads.
structure GroupAssignmentConfig where
  assignmentStrategy : AssignmentStrategy
  maxOpenTicketsPerAgent : Option Nat
  deriving DecidableEq

structure Agent where
  groupIds : List Uuid
  isActive : Bool
  deriving DecidableEq

structure SlaTargets where
  firstResponseTargetMinutes : Nat
  resolutionTargetMinutes : Nat
  businessHoursOnly : Bool
  deriving DecidableEq

structure BusinessHours where
  startMinute : Nat
  endMinute : Nat
  days : List Nat
  timezone : String
  deriving DecidableEq

inductive AutomationTrigger where
  | ticketCreated
  | ticketUpdated
  | timeBased
  deriving DecidableEq

inductive ConditionField where
  | status
  | priority
  | source
  | subject
  | ticketTypeId
  | groupId
  | platform
  | tags
  deriving DecidableEq

inductive ConditionOperator where
  | equals
  | contains
  deriving DecidableEq

structure AutomationCondition where
  field : ConditionField
  operator : ConditionOperator
  value : String
  deriving DecidableEq

inductive ActionType where
  | setStatus
  | setPriority
  | setGroup
  | setAgent
  | setPlatform
  | addNote
  | addTag
  deriving DecidableEq

structure AutomationAction where
  type : ActionType
  value : String
  deriving DecidableEq

structure AutomationRule where
  trigger : AutomationTrigger
  position : Nat
  isActive : Bool
  conditions : List AutomationCondition
  actions : List AutomationAction
  createdAt : Nat
  deriving DecidableEq

-- The rows of one tenant that the ticketing services read and write.
structure TicketStore where
  tickets : Table Uuid Ticket
  messages : List TicketMessage
  attachments : List TicketAttachment
  activities : List TicketActivity
  nextTicketNumber : Option Nat
  contacts : Table Uuid Contact
  ticketTypes : Table Uuid TicketType
  groups : Table Uuid GroupAssignmentConfig
  agents : Table Uuid Agent
  agentSkills : List (Uuid × String)
  groupAssignmentCursor : Table Uuid Uuid
  resources : List Uuid
  slaPolicies : Table Uuid SlaTargets
  businessHours : Option BusinessHours
  automationRules : List AutomationRule

-- What the database's types, the runtime and two pure helpers compute. Nothing that
-- is proved depends on which functions they are.
structure Environment where
  castUuid : String → Option Uuid
  uuidText : Uuid → String
  toLowerCase : String → String
  validateCustomFields : CustomFields → Except String CustomFields
  addBusinessMinutes : Nat → Nat → BusinessHours → Nat

abbrev TicketM := StateT TicketStore (Except ServiceError)

variable (env : Environment)

-- $1::uuid
def castUuid (text : String) : TicketM Uuid :=
  match env.castUuid text with
  | some id => pure id
  | none => throw (.error s!"invalid input syntax for type uuid: {text}")

-- SELECT .. FROM tickets WHERE id = $1
def selectTicket (id : String) : TicketM (Option (Uuid × Ticket)) := do
  let key ← castUuid env id
  let store ← get
  return (store.tickets.lookup key).map fun ticket => (key, ticket)

-- UPDATE tickets SET .. WHERE id = $1 RETURNING *
def updateTicket (id : Uuid) (set : Ticket → Ticket) : TicketM (Option Ticket) :=
  modifyGet fun store =>
    match store.tickets.lookup id with
    | none => (none, store)
    | some ticket => (some (set ticket), { store with tickets := store.tickets.insert id (set ticket) })

-- A note no agent wrote.
def insertSystemNote (ticketId : Uuid) (body : String) (now : Nat) : TicketM Unit :=
  modify fun store => { store with
    messages := store.messages ++
      [{ ticketId := ticketId, type := .note, authorType := .system, authorId := none,
         body := body, cc := [], createdAt := now }] }

def insertActivity (activity : TicketActivity) : TicketM Unit :=
  modify fun store => { store with activities := store.activities ++ [activity] }

-- Hands back the id the text stands for, once it is one of the tenant's.
def assertBelongsToTenant (contains : TicketStore → Uuid → Bool) (id label : String) : TicketM Uuid := do
  let key ← castUuid env id
  let store ← get
  if contains store key then pure key
  else throw (.badRequest s!"{label} {id} not found for this tenant")

def hasContact (store : TicketStore) (id : Uuid) : Bool := decide (id ∈ store.contacts)

def hasTicketType (store : TicketStore) (id : Uuid) : Bool := decide (id ∈ store.ticketTypes)

def hasGroup (store : TicketStore) (id : Uuid) : Bool := decide (id ∈ store.groups)

def hasAgent (store : TicketStore) (id : Uuid) : Bool := decide (id ∈ store.agents)

def hasResource (store : TicketStore) (id : Uuid) : Bool := decide (id ∈ store.resources)

-- No ticket has come or gone, and what `columns` reads of each is as before.
def Same {α : Type} (columns : Ticket → α) (before after : TicketStore) : Prop :=
  ∀ id, (after.tickets.lookup id).map columns = (before.tickets.lookup id).map columns

instance {α : Type} (columns : Ticket → α) : IsPreorder TicketStore (Same columns) where
  refl _ _ := rfl
  trans _ _ _ hab hbc id := (hbc id).trans (hab id)

theorem Same.of_tickets {α : Type} {columns : Ticket → α} {before after : TicketStore}
    (h : after.tickets = before.tickets) : Same columns before after := by
  intro id
  rw [h]

-- Columns that are read off the others are as before too.
theorem Same.comp {α β : Type} {columns : Ticket → α} {before after : TicketStore}
    (read : α → β) (h : Same columns before after) : Same (read ∘ columns) before after := by
  intro id
  have hid := congrArg (Option.map read) (h id)
  rwa [Option.map_map, Option.map_map] at hid

theorem Same.lookup {α : Type} {columns : Ticket → α} {before after : TicketStore} {id : Uuid}
    {ticket : Ticket} (h : Same columns before after) (hl : before.tickets.lookup id = some ticket) :
    ∃ kept, after.tickets.lookup id = some kept ∧ columns kept = columns ticket := by
  have hid := h id
  rw [hl, Option.map_some, Option.map_eq_some_iff] at hid
  exact hid

open Transaction

theorem castUuid_reads (text : String) : Keeps Eq (castUuid env text) := by
  unfold castUuid
  split
  · exact .pure _
  · exact .throw _

theorem assertBelongsToTenant_reads (contains : TicketStore → Uuid → Bool) (id label : String) :
    Keeps Eq (assertBelongsToTenant env contains id label) := by
  refine .bind (castUuid_reads env id) fun _ => .bind .get fun _ => ?_
  split
  · exact .pure _
  · exact .throw _

theorem selectTicket_run {id : String} {key : Uuid} (h : env.castUuid id = some key)
    (store : TicketStore) : (selectTicket env id).run store =
      .ok ((store.tickets.lookup key).map fun ticket => (key, ticket), store) := by
  simp only [selectTicket, castUuid, h]
  rfl

theorem selectTicket_run_none {id : String} (h : env.castUuid id = none) (store : TicketStore) :
    ∃ error, (selectTicket env id).run store = .error error := by
  simp only [selectTicket, castUuid, h]
  exact ⟨_, rfl⟩

theorem keeps_updateTicket {α : Type} {columns : Ticket → α} (id : Uuid) {set : Ticket → Ticket}
    (hset : ∀ ticket, columns (set ticket) = columns ticket) :
    Keeps (Same columns) (updateTicket id set) := by
  apply Keeps.modifyGet
  intro store
  cases hl : store.tickets.lookup id with
  | none => exact refl_of (Same columns) store
  | some ticket =>
      intro other
      simp only [Table.lookup_insert_eq]
      split
      · rename_i hsame
        rw [hsame, hl, Option.map_some, Option.map_some, hset]
      · rfl

theorem keeps_modify {α : Type} (columns : Ticket → α) {change : TicketStore → TicketStore}
    (h : ∀ store, (change store).tickets = store.tickets) :
    Keeps (Same columns) (modify change : TicketM Unit) :=
  .modify fun store => .of_tickets (h store)

end CloudOps.Ticketing
