import CloudOps.Ticketing.TicketStore
import Mathlib.Data.List.Infix

namespace CloudOps.Ticketing

open CloudOps.ReadCommitted CloudOps.Transaction

-- What the runtime's trim takes off both ends of a string.
def isWhiteSpace (c : Char) : Bool :=
  c.toNat ∈ [0x9, 0xA, 0xB, 0xC, 0xD, 0x20, 0xA0, 0x1680, 0x2028, 0x2029, 0x202F, 0x205F, 0x3000, 0xFEFF]
    || 0x2000 ≤ c.toNat && c.toNat ≤ 0x200A

def trim (text : String) : String :=
  .ofList ((text.toList.dropWhile isWhiteSpace).reverse.dropWhile isWhiteSpace).reverse

def includes (text needle : String) : Bool := decide (needle.toList <:+: text.toList)

variable (env : Environment)

-- The scalar a condition reads off a ticket, none for the list of its tags.
def ConditionField.scalar (ticket : Ticket) : ConditionField → Option String
  | status => ticket.status.text
  | priority => ticket.priority.text
  | source => ticket.source.text
  | subject => ticket.subject
  | ticketTypeId => (ticket.ticketTypeId.map env.uuidText).getD ""
  | groupId => (ticket.groupId.map env.uuidText).getD ""
  | platform => (ticket.platform.map TicketPlatform.text).getD ""
  | tags => none

def conditionMatches (ticket : Ticket) (condition : AutomationCondition) : Bool :=
  let needle := env.toLowerCase condition.value
  match condition.field.scalar env ticket, condition.operator with
  | none, .equals => ticket.tags.contains condition.value
  | none, .contains => ticket.tags.any fun tag => includes (env.toLowerCase tag) needle
  | some actual, .equals => actual == condition.value
  | some actual, .contains => includes (env.toLowerCase actual) needle

-- ACTION_FIELD
inductive ActionField where
  | status
  | priority
  | groupId
  | agentId
  | platform
  deriving DecidableEq

def ActionType.field : ActionType → Option ActionField
  | setStatus => some .status
  | setPriority => some .priority
  | setGroup => some .groupId
  | setAgent => some .agentId
  | setPlatform => some .platform
  | addNote | addTag => none

def ActionField.column : ActionField → String
  | status => "status"
  | priority => "priority"
  | groupId => "group_id"
  | agentId => "agent_id"
  | platform => "platform"

def ActionField.read (ticket : Ticket) : ActionField → Option String
  | status => ticket.status.text
  | priority => ticket.priority.text
  | groupId => ticket.groupId.map env.uuidText
  | agentId => ticket.agentId.map env.uuidText
  | platform => ticket.platform.map TicketPlatform.text

-- An enum's text, or the exception of a text that is none of its values.
def castEnum {α : Type} (name : String) (text : α → String) (all : List α) (value : String) : TicketM α :=
  match all.find? fun item => text item == value with
  | some item => pure item
  | none => throw (.error s!"invalid input value for enum {name}: {value}")

-- A reference to a row, or the exception of a violated foreign key.
def castReference (contains : TicketStore → Uuid → Bool) (value : String) : TicketM Uuid := do
  let id ← castUuid env value
  let store ← get
  if contains store id then pure id else throw (.error "foreign key constraint violated")

-- SET field = $1, updated_at = now(), with resolved_at beside a status.
def ActionField.assign (now : Nat) (value : String) : ActionField → TicketM (Ticket → Ticket)
  | status => do
      let status ← castEnum "ticket_status_enum" TicketStatus.text TicketStatus.all value
      let resolvedAt := if status.isClosing then some now else none
      return fun ticket => { ticket with status := status, resolvedAt := resolvedAt, updatedAt := now }
  | priority => do
      let priority ← castEnum "ticket_priority_enum" TicketPriority.text TicketPriority.all value
      return fun ticket => { ticket with priority := priority, updatedAt := now }
  | groupId => do
      let groupId ← castReference env hasGroup value
      return fun ticket => { ticket with groupId := some groupId, updatedAt := now }
  | agentId => do
      let agentId ← castReference env hasAgent value
      return fun ticket => { ticket with agentId := some agentId, updatedAt := now }
  | platform => do
      let platform ← castEnum "ticket_platform_enum" TicketPlatform.text TicketPlatform.all value
      return fun ticket => { ticket with platform := some platform, updatedAt := now }

-- The ticket handed on is the row the last action's UPDATE returned.
def applyAction (now : Nat) (id : Uuid) (ticket : Ticket) (action : AutomationAction) : TicketM Ticket :=
  match action.type.field with
  | some field => do
      let oldValue := field.read env ticket
      if oldValue = some action.value then return ticket
      let set ← field.assign env now action.value
      match ← updateTicket id set with
      | none => throw (.error "foreign key constraint violated")
      | some row =>
          insertActivity
            { ticketId := id, field := field.column, oldValue := oldValue,
              newValue := action.value, actorAgentId := none }
          return row
  | none =>
      if action.type = .addNote then do
        insertSystemNote id action.value now
        return ticket
      else do
        let tag := trim action.value
        if tag = "" then return ticket
        if ticket.tags.contains tag then return ticket
        let row ← updateTicket id fun row => { row with tags := row.tags ++ [tag], updatedAt := now }
        match row with
        | none => throw (.error "rows[0] is undefined")
        | some row => return row

def applyActions (now : Nat) (id : Uuid) : List AutomationAction → Ticket → TicketM Ticket
  | [], ticket => pure ticket
  | action :: rest, ticket => do applyActions now id rest (← applyAction env now id ticket action)

def applyRules (now : Nat) (id : Uuid) : List AutomationRule → Ticket → TicketM Ticket
  | [], ticket => pure ticket
  | rule :: rest, ticket =>
      if rule.conditions.all (conditionMatches env ticket) then do
        applyRules now id rest (← applyActions env now id rule.actions ticket)
      else applyRules now id rest ticket

-- ORDER BY position, created_at
def AutomationRule.comesBefore (rule other : AutomationRule) : Bool :=
  rule.position < other.position || rule.position == other.position && rule.createdAt ≤ other.createdAt

def runRules (trigger : AutomationTrigger) (id : Uuid) (ticket : Ticket) (now : Nat) : TicketM Ticket := do
  let store ← get
  let rules := store.automationRules.filter fun rule => rule.trigger = trigger && rule.isActive
  applyRules env now id (rules.mergeSort AutomationRule.comesBefore) ticket

-- The columns no action of a rule writes.
def Ticket.beyondRules (ticket : Ticket) : Ticket :=
  { ticket with
    status := .new, priority := .low, groupId := none, agentId := none, platform := none, tags := [],
    resolvedAt := none, updatedAt := 0 }

theorem castEnum_reads {α : Type} (name : String) (text : α → String) (all : List α)
    (value : String) : Keeps Eq (castEnum name text all value) := by
  unfold castEnum
  split
  · exact .pure _
  · exact .throw _

theorem castReference_reads (contains : TicketStore → Uuid → Bool) (value : String) :
    Keeps Eq (castReference env contains value) := by
  refine .bind (castUuid_reads env value) fun _ => .bind .get fun _ => ?_
  split
  · exact .pure _
  · exact .throw _

-- Whatever an action assigns, it keeps the columns beyond the rules.
theorem ActionField.assign_yields (now : Nat) (value : String) (field : ActionField) :
    Yields Eq (fun set => ∀ ticket, (set ticket).beyondRules = ticket.beyondRules)
      (field.assign env now value) := by
  cases field with
  | status | priority | platform =>
      exact (castEnum_reads _ _ _ _).bind_yields fun _ => .pure fun _ => rfl
  | groupId | agentId =>
      exact (castReference_reads env _ _).bind_yields fun _ => .pure fun _ => rfl

theorem keeps_applyAction (now : Nat) (id : Uuid) (ticket : Ticket) (action : AutomationAction) :
    Keeps (Same Ticket.beyondRules) (applyAction env now id ticket action) := by
  unfold applyAction
  cases action.type.field with
  | some field =>
      dsimp only
      split
      · exact .pure _
      · intro before
        refine (field.assign_yields env now action.value before).bind fun set middle hset => ?_
        obtain ⟨rfl, hset⟩ := hset
        refine Keeps.bind (keeps_updateTicket id hset) ?_ before
        intro row
        cases row with
        | none => exact .throw _
        | some row => exact .bind (keeps_modify _ fun _ => rfl) fun _ => .pure _
  | none =>
      dsimp only
      split
      · exact .bind (keeps_modify _ fun _ => rfl) fun _ => .pure _
      · split
        · exact .pure _
        · split
          · exact .pure _
          · refine .bind (keeps_updateTicket id fun _ => rfl) fun row => ?_
            cases row with
            | none => exact .throw _
            | some row => exact .pure _

theorem keeps_applyActions (now : Nat) (id : Uuid) (actions : List AutomationAction) (ticket : Ticket) :
    Keeps (Same Ticket.beyondRules) (applyActions env now id actions ticket) := by
  induction actions generalizing ticket with
  | nil => exact .pure _
  | cons action rest ih => exact .bind (keeps_applyAction env now id ticket action) fun row => ih row

theorem keeps_applyRules (now : Nat) (id : Uuid) (rules : List AutomationRule) (ticket : Ticket) :
    Keeps (Same Ticket.beyondRules) (applyRules env now id rules ticket) := by
  induction rules generalizing ticket with
  | nil => exact .pure _
  | cons rule rest ih =>
      unfold applyRules
      split
      · exact .bind (keeps_applyActions env now id rule.actions ticket) fun row => ih row
      · exact ih ticket

theorem keeps_runRules (trigger : AutomationTrigger) (id : Uuid) (ticket : Ticket) (now : Nat) :
    Keeps (Same Ticket.beyondRules) (runRules env trigger id ticket now) :=
  .bind .get fun _ => keeps_applyRules env now id _ ticket

end CloudOps.Ticketing
