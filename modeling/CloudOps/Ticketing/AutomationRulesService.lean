import CloudOps.Runs
import CloudOps.Ticketing.RuleEffects
import CloudOps.Ticketing.Writes

namespace CloudOps.Ticketing

open CloudOps.ReadCommitted CloudOps.Transaction

-- A row of automation_rules. The columns conditions and actions are jsonb NOT NULL, which
-- a JSON null passes: it is none here.
structure SavedRule where
  name : String
  trigger : AutomationTrigger
  position : Nat
  isActive : Bool
  conditions : Option (List AutomationCondition)
  actions : Option (List AutomationAction)
  timeTriggerMinutes : Option Nat
  createdAt : Nat
  updatedAt : Nat

structure CreateAutomationRuleDto where
  name : String
  trigger : AutomationTrigger
  position : Option Nat
  isActive : Option Bool
  timeTriggerMinutes : Option Nat
  conditions : List AutomationCondition
  actions : List AutomationAction

-- IsOptional lets a null through in any field.
structure UpdateAutomationRuleDto where
  name : Patch String
  trigger : Patch AutomationTrigger
  position : Patch Nat
  isActive : Patch Bool
  timeTriggerMinutes : Patch Nat
  conditions : Patch (List AutomationCondition)
  actions : Patch (List AutomationAction)

abbrev RuleTable := Table Uuid SavedRule

-- The service writes automation_rules only; of the ticketing tables it reads groups and
-- agents.
abbrev RulesM := StateT RuleTable (Except ServiceError)

variable (env : Environment) (store : TicketStore)

def castParameter (text : String) : RulesM Uuid :=
  match env.castUuid text with
  | some id => pure id
  | none => throw (.error s!"invalid input syntax for type uuid: {text}")

def assertTargetExists (contains : TicketStore → Uuid → Bool) (value message : String) : RulesM Unit := do
  let id ← castParameter env value
  if contains store id then pure () else throw (.badRequest message)

def assertActionTarget (action : AutomationAction) : RulesM Unit :=
  match action.type with
  | .setGroup => assertTargetExists env store hasGroup action.value
      s!"set_group action references group {action.value}, which does not exist for this tenant"
  | .setAgent => assertTargetExists env store hasAgent action.value
      s!"set_agent action references agent {action.value}, which does not exist for this tenant"
  | .setStatus | .setPriority | .setPlatform | .addNote | .addTag => pure ()

def assertActionTargetsBelongToTenant : List AutomationAction → RulesM Unit
  | [] => pure ()
  | action :: rest => do
      assertActionTarget env store action
      assertActionTargetsBelongToTenant rest

def insertRule (id : Uuid) (rule : SavedRule) : RulesM SavedRule := do
  let rules ← get
  if id ∈ rules then throw (.error "duplicate key value violates unique constraint")
  else modifyGet fun rules => (rule, rules.insert id rule)

-- SET column = $1 of a column that takes no NULL.
def Patch.assign {α : Type} (column : String) (current : α) : Patch α → RulesM α
  | undefined => pure current
  | null => throw (.error s!"null value in column {column} violates not-null constraint")
  | value new => pure new

def UpdateAutomationRuleDto.isEmpty (dto : UpdateAutomationRuleDto) : Bool :=
  dto.name = .undefined && dto.trigger = .undefined && dto.position = .undefined && dto.isActive = .undefined &&
    dto.timeTriggerMinutes = .undefined && dto.conditions = .undefined && dto.actions = .undefined

namespace AutomationRulesService

def create (dto : CreateAutomationRuleDto) (newId : Uuid) (now : Nat) : RulesM SavedRule :=
  if dto.trigger = .timeBased && dto.timeTriggerMinutes.getD 0 = 0 then
    throw (.badRequest "trigger 'time_based' requires timeTriggerMinutes")
  else do
    assertActionTargetsBelongToTenant env store dto.actions
    insertRule newId
      { name := dto.name
        trigger := dto.trigger
        position := dto.position.getD 0
        isActive := dto.isActive.getD true
        conditions := some dto.conditions
        actions := some dto.actions
        timeTriggerMinutes := dto.timeTriggerMinutes
        createdAt := now
        updatedAt := now }

-- The actions of a PATCH are checked unless it has none or null.
def assertPatchedTargets : Patch (List AutomationAction) → RulesM Unit
  | .value actions => assertActionTargetsBelongToTenant env store actions
  | .undefined | .null => pure ()

def updateRow (key : Uuid) (dto : UpdateAutomationRuleDto) (now : Nat) (existing : SavedRule) : RulesM SavedRule := do
  let name ← dto.name.assign "name" existing.name
  let trigger ← dto.trigger.assign "trigger" existing.trigger
  let position ← dto.position.assign "position" existing.position
  let isActive ← dto.isActive.assign "is_active" existing.isActive
  let rule : SavedRule :=
    { name := name
      trigger := trigger
      position := position
      isActive := isActive
      conditions := dto.conditions.over existing.conditions
      actions := dto.actions.over existing.actions
      timeTriggerMinutes := dto.timeTriggerMinutes.over existing.timeTriggerMinutes
      createdAt := existing.createdAt
      updatedAt := now }
  modifyGet fun rules => (rule, rules.insert key rule)

def update (id : String) (dto : UpdateAutomationRuleDto) (now : Nat) : RulesM SavedRule := do
  let key ← castParameter env id
  let rules ← get
  match rules.lookup key with
  | none => throw (.notFound s!"Automation rule {id} not found")
  | some existing => do
      assertPatchedTargets env store dto.actions
      if dto.isEmpty then return existing else updateRow key dto now existing

def remove (id : String) : RulesM Unit := do
  let key ← castParameter env id
  let rules ← get
  if key ∈ rules then modify fun rules => rules.erase key
  else throw (.notFound s!"Automation rule {id} not found")

-- ORDER BY position, created_at, rules that agree on both in the database's order.
def selectRules (order : ScanOrder SavedRule) (trigger : AutomationTrigger) (rules : RuleTable) : List SavedRule :=
  (order.apply ((rules.rows.map Prod.snd).filter fun rule => rule.trigger = trigger && rule.isActive)).mergeSort
    fun rule other => rule.position < other.position ||
      rule.position == other.position && rule.createdAt ≤ other.createdAt

-- The loop of runRules over what its SELECT returned.
def applyRules (now : Nat) (id : Uuid) : List SavedRule → Ticket → TicketM Ticket
  | [], ticket => pure ticket
  | rule :: rest, ticket =>
      match rule.conditions with
      | none => throw (.error "Cannot read properties of null (reading 'every')")
      | some conditions =>
          if conditions.all (conditionMatches env ticket) then
            match rule.actions with
            | none => throw (.error "rule.actions is not iterable")
            | some actions => do applyRules now id rest (← applyActions env now id actions ticket)
          else applyRules now id rest ticket

def runRules (rules : RuleTable) (order : ScanOrder SavedRule) (trigger : AutomationTrigger) (id : Uuid)
    (ticket : Ticket) (now : Nat) : TicketM Ticket :=
  applyRules env now id (selectRules order trigger rules) ticket

-- TicketsService.create with the rules as they are saved: the row it inserts, and what
-- the transaction does from there.
def insertNew (dto : CreateTicketDto) (newIds : GeneratedIds) (now : Nat) : TicketM Ticket := do
  let ticket ← newTicket env dto newIds now
  insertTicket newIds.ticketId ticket
  return ticket

def createTicket (rules : RuleTable) (order : ScanOrder SavedRule) (dto : CreateTicketDto) (newIds : GeneratedIds)
    (now : Nat) : TicketM Ticket := do
  let ticket ← insertNew env dto newIds now
  runRules env rules order .ticketCreated newIds.ticketId ticket now

end AutomationRulesService

-- Where no rule has a null, these are the rules of the ticketing tables.
def SavedRule.rule (saved : SavedRule) : AutomationRule where
  trigger := saved.trigger
  position := saved.position
  isActive := saved.isActive
  conditions := saved.conditions.getD []
  actions := saved.actions.getD []
  createdAt := saved.createdAt

variable {env}

theorem applyRules_of_saved (now : Nat) (id : Uuid) (saved : List SavedRule)
    (hconditions : ∀ rule ∈ saved, rule.conditions.isSome) (hactions : ∀ rule ∈ saved, rule.actions.isSome)
    (ticket : Ticket) :
    AutomationRulesService.applyRules env now id saved ticket =
      applyRules env now id (saved.map SavedRule.rule) ticket := by
  induction saved generalizing ticket with
  | nil => rfl
  | cons rule rest ih =>
      obtain ⟨hfirst, hrest⟩ := List.forall_mem_cons.mp hconditions
      obtain ⟨hfirstActions, hrestActions⟩ := List.forall_mem_cons.mp hactions
      obtain ⟨conditions, hsome⟩ := Option.isSome_iff_exists.mp hfirst
      obtain ⟨actions, hsomeActions⟩ := Option.isSome_iff_exists.mp hfirstActions
      unfold AutomationRulesService.applyRules
      rw [List.map_cons, applyRules]
      simp only [SavedRule.rule, hsome, hsomeActions, Option.getD_some]
      split
      · exact bind_congr fun row => ih hrest hrestActions row
      · exact ih hrest hrestActions ticket

end CloudOps.Ticketing
