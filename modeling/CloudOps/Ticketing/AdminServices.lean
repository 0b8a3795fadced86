import CloudOps.Platform.AdminStatements
import CloudOps.Ticketing.PortalAuthService

namespace CloudOps.Platform.Admin

open CloudOps.RowSecurity
open CloudOps.Ticketing (ActionType AutomationAction Patch Uuid)

namespace CompaniesService

structure CreateCompanyDto where
  name : String
  domain : Patch String

structure UpdateCompanyDto where
  name : Patch String
  domain : Patch String

-- The LEFT JOIN with the contacts counted by company.
def contactCount (rows : List AdminRow) (company : AdminRow) : AdminRow :=
  withColumn "contact_count" (.int (rows.countP fun row => row.table = "contacts" &&
    row.columns "company_id" = .uuid company.id)) company

def list (before : AdminRow → AdminRow → Bool) : AdminProg :=
  .select fun rows =>
    .ret (((rows.filter fun row => row.table = "companies").map (contactCount rows)).mergeSort before)

def get (id : Uuid) : AdminProg := getById "companies" "Company" id

def create (tenantId newId : Uuid) (dto : CreateCompanyDto) : AdminProg :=
  insertInto tenantId "companies" newId [("name", .text dto.name), ("domain", orNull .text dto.domain)] []
    queryFailed created

def update (now : Nat) (id : Uuid) (dto : UpdateCompanyDto) : AdminProg :=
  existing (isRow "companies" id) (.notFound s!"Company {id} not found") <|
    patchById now "companies" id [] [("name", assigned .text dto.name), ("domain", assigned .text dto.domain)] []
      queryFailed .ret

def remove (id : Uuid) : AdminProg :=
  removeRows (isRow "companies" id) (.notFound s!"Company {id} not found") queryFailed

end CompaniesService

namespace GroupsService

structure CreateGroupDto where
  name : String
  description : Patch String
  assignmentStrategy : Patch String
  maxOpenTicketsPerAgent : Patch Int

structure UpdateGroupDto where
  name : Patch String
  description : Patch String
  assignmentStrategy : Patch String
  maxOpenTicketsPerAgent : Patch Int

def list (before : AdminRow → AdminRow → Bool) : AdminProg := selectAll "groups" before

def create (tenantId newId : Uuid) (now : Nat) (dto : CreateGroupDto) : AdminProg :=
  insertInto tenantId "groups" newId
    [("name", .text dto.name), ("description", orNull .text dto.description),
      ("assignment_strategy", orElse .text "manual" dto.assignmentStrategy),
      ("max_open_tickets_per_agent", orNull .int dto.maxOpenTicketsPerAgent)]
    [("created_at", .timestamp now)] queryFailed created

def update (now : Nat) (id : Uuid) (dto : UpdateGroupDto) : AdminProg :=
  existing (isRow "groups" id) (.notFound s!"Group {id} not found") <|
    patchById now "groups" id []
      [("name", assigned .text dto.name), ("description", assigned .text dto.description),
        ("assignment_strategy", assigned .text dto.assignmentStrategy),
        ("max_open_tickets_per_agent", assigned .int dto.maxOpenTicketsPerAgent)] []
      queryFailed .ret

def remove (id : Uuid) : AdminProg :=
  removeRows (isRow "groups" id) (.notFound s!"Group {id} not found") <| onCode "23503" <| .badRequest
    s!"Group {id} is still referenced by existing tickets or ticket types and cannot be deleted"

end GroupsService

namespace ContactsService

structure CreateContactDto where
  name : String
  email : Patch String
  phone : Patch String
  companyId : Patch Uuid

structure UpdateContactDto where
  name : Patch String
  email : Patch String
  phone : Patch String
  companyId : Patch Uuid

def isEmailValid : Patch String → Bool
  | .undefined | .null => true
  | .value email => CloudOps.Ticketing.Portal.isEmailValid email

def get (id : Uuid) : AdminProg := getById "contacts" "Contact" id

def create (tenantId newId : Uuid) (dto : CreateContactDto) : AdminProg :=
  assertGiven "companies" "Company" dto.companyId <|
    insertInto tenantId "contacts" newId
      [("name", .text dto.name), ("email", orNull .text dto.email), ("phone", orNull .text dto.phone),
        ("company_id", orNull .uuid dto.companyId), ("email_valid", .boolean (isEmailValid dto.email))] []
      queryFailed created

def update (now : Nat) (id : Uuid) (dto : UpdateContactDto) : AdminProg :=
  existing (isRow "contacts" id) (.notFound s!"Contact {id} not found") <|
    assertGiven "companies" "Company" dto.companyId <|
      patchById now "contacts" id []
        [("name", assigned .text dto.name), ("email", assigned .text dto.email),
          ("email_valid", (assigned .text dto.email).map fun _ => .boolean (isEmailValid dto.email)),
          ("phone", assigned .text dto.phone), ("company_id", assigned .uuid dto.companyId)] []
        queryFailed .ret

end ContactsService

namespace AgentsService

structure CreateAgentDto where
  name : String
  email : String
  groupIds : Patch (List Uuid)

structure UpdateAgentDto where
  name : Patch String
  email : Patch String
  isActive : Patch Bool
  groupIds : Patch (List Uuid)

def assertGroupsBelongToTenant : List Uuid → AdminProg → AdminProg
  | [], next => next
  | groupId :: rest, next =>
      assertBelongsToTenant "groups" groupId "Group" (assertGroupsBelongToTenant rest next)

-- `dto.groupIds?.length`: the groups that are checked, if any were sent.
def groupsToCheck : Patch (List Uuid) → List Uuid
  | .undefined | .null => []
  | .value groupIds => groupIds

def emailTaken (email : String) : Violation → ServiceError :=
  onCode "23505" (.badRequest s!"A user with email {email} already exists for this tenant")

def withUser (agent user : AdminRow) : AdminRow :=
  withColumn "email" (user.columns "email") (withColumn "name" (user.columns "name") agent)

-- agents a JOIN users u ON u.id = a.user_id
def joinUsers (rows agents : List AdminRow) : List AdminRow :=
  agents.flatMap fun agent => (rows.filter fun user =>
    user.table = "users" && agent.columns "user_id" = .uuid user.id).map (withUser agent)

def list (before : AdminRow → AdminRow → Bool) : AdminProg :=
  .select fun rows => .ret ((joinUsers rows (rows.filter fun row => row.table = "agents")).mergeSort before)

def ofUser (userId : Uuid) (rows : List AdminRow) : Option AdminRow :=
  rows.find? fun row => row.table = "agents" && row.columns "user_id" = .uuid userId

def findByUserId (userId : Uuid) : AdminProg := .select fun rows => .ret (ofUser userId rows).toList

def create (tenantId userId agentId : Uuid) (now : Nat) (dto : CreateAgentDto) : AdminProg :=
  assertGroupsBelongToTenant (groupsToCheck dto.groupIds) <|
    insertInto tenantId "users" userId
      [("email", .text dto.email), ("name", .text dto.name), ("password_hash", .text "x"), ("role", .text "agent")]
      [("created_at", .timestamp now), ("updated_at", .timestamp now)] (emailTaken dto.email) fun user =>
        insertInto tenantId "agents" agentId
          [("user_id", .uuid user.id), ("group_ids", orElse .uuids [] dto.groupIds)] [("is_active", .boolean true)]
          queryFailed fun agent => .ret [withUser agent user]

def update (now : Nat) (id : Uuid) (dto : UpdateAgentDto) : AdminProg :=
  .select fun rows => match rows.find? (isRow "agents" id) with
  | none => .throw (.notFound s!"Agent {id} not found")
  | some agent =>
      assertGroupsBelongToTenant (groupsToCheck dto.groupIds) <|
        patchById now "users" ((agent.columns "user_id").reference.getD 0) []
          [("name", assigned .text dto.name), ("email", assigned .text dto.email)] []
          (emailTaken (match dto.email with | .value email => email | .null => "null" | .undefined => "undefined"))
          fun _ => patchById now "agents" id []
            [("is_active", assigned .boolean dto.isActive), ("group_ids", assigned .uuids dto.groupIds)] []
            queryFailed fun _ => .select fun rows => .ret (joinUsers rows (rows.filter (isRow "agents" id)))

end AgentsService

namespace TicketTypesService

structure CreateTicketTypeDto where
  name : String
  defaultGroupId : Patch Uuid
  defaultSlaPolicyId : Patch Uuid

structure UpdateTicketTypeDto where
  name : Patch String
  defaultGroupId : Patch Uuid
  defaultSlaPolicyId : Patch Uuid

def list (before : AdminRow → AdminRow → Bool) : AdminProg := selectAll "ticket_types" before

def create (tenantId newId : Uuid) (dto : CreateTicketTypeDto) : AdminProg :=
  assertGiven "groups" "group" dto.defaultGroupId <|
    assertGiven "sla_policies" "SLA policy" dto.defaultSlaPolicyId <|
      insertInto tenantId "ticket_types" newId
        [("name", .text dto.name), ("default_group_id", orNull .uuid dto.defaultGroupId),
          ("default_sla_policy_id", orNull .uuid dto.defaultSlaPolicyId)] []
        queryFailed created

def update (now : Nat) (id : Uuid) (dto : UpdateTicketTypeDto) : AdminProg :=
  existing (isRow "ticket_types" id) (.notFound s!"Ticket type {id} not found") <|
    assertGiven "groups" "group" dto.defaultGroupId <|
      assertGiven "sla_policies" "SLA policy" dto.defaultSlaPolicyId <|
        patchById now "ticket_types" id []
          [("name", assigned .text dto.name), ("default_group_id", assigned .uuid dto.defaultGroupId),
            ("default_sla_policy_id", assigned .uuid dto.defaultSlaPolicyId)] []
          queryFailed .ret

def remove (id : Uuid) : AdminProg :=
  removeRows (isRow "ticket_types" id) (.notFound s!"Ticket type {id} not found") <| onCode "23503" <| .badRequest
    s!"Ticket type {id} is still referenced by existing tickets and cannot be deleted"

end TicketTypesService

namespace SlaPoliciesService

structure CreateSlaPolicyDto where
  name : String
  firstResponseTargetMinutes : Int
  resolutionTargetMinutes : Int
  businessHoursOnly : Patch Bool

structure UpdateSlaPolicyDto where
  name : Patch String
  firstResponseTargetMinutes : Patch Int
  resolutionTargetMinutes : Patch Int
  businessHoursOnly : Patch Bool

def list (before : AdminRow → AdminRow → Bool) : AdminProg := selectAll "sla_policies" before

def create (tenantId newId : Uuid) (dto : CreateSlaPolicyDto) : AdminProg :=
  insertInto tenantId "sla_policies" newId
    [("name", .text dto.name), ("first_response_target_minutes", .int dto.firstResponseTargetMinutes),
      ("resolution_target_minutes", .int dto.resolutionTargetMinutes),
      ("business_hours_only", orElse .boolean false dto.businessHoursOnly)]
    [("escalation_rules", .json (.object "\x7b\x7d"))] queryFailed created

def update (now : Nat) (id : Uuid) (dto : UpdateSlaPolicyDto) : AdminProg :=
  existing (isRow "sla_policies" id) (.notFound s!"SLA policy {id} not found") <|
    patchById now "sla_policies" id []
      [("name", assigned .text dto.name),
        ("first_response_target_minutes", assigned .int dto.firstResponseTargetMinutes),
        ("resolution_target_minutes", assigned .int dto.resolutionTargetMinutes),
        ("business_hours_only", assigned .boolean dto.businessHoursOnly)] []
      queryFailed .ret

def remove (id : Uuid) : AdminProg :=
  removeRows (isRow "sla_policies" id) (.notFound s!"SLA policy {id} not found") <| onCode "23503" <| .badRequest
    s!"SLA policy {id} is still referenced and cannot be deleted"

end SlaPoliciesService

namespace CannedResponseFoldersService

structure CreateCannedResponseFolderDto where
  name : String
  agentId : Patch Uuid

structure UpdateCannedResponseFolderDto where
  name : Patch String
  agentId : Patch Uuid

def list (before : AdminRow → AdminRow → Bool) : AdminProg := selectAll "canned_response_folders" before

def create (tenantId newId : Uuid) (now : Nat) (dto : CreateCannedResponseFolderDto) : AdminProg :=
  assertGiven "agents" "Agent" dto.agentId <|
    insertInto tenantId "canned_response_folders" newId
      [("agent_id", orNull .uuid dto.agentId), ("name", .text dto.name)] [("created_at", .timestamp now)]
      queryFailed created

def update (now : Nat) (id : Uuid) (dto : UpdateCannedResponseFolderDto) : AdminProg :=
  existing (isRow "canned_response_folders" id) (.notFound s!"Canned response folder {id} not found") <|
    assertGiven "agents" "Agent" dto.agentId <|
      patchById now "canned_response_folders" id []
        [("name", assigned .text dto.name), ("agent_id", assigned .uuid dto.agentId)] [] queryFailed .ret

def remove (id : Uuid) : AdminProg :=
  removeRows (isRow "canned_response_folders" id) (.notFound s!"Canned response folder {id} not found") queryFailed

end CannedResponseFoldersService

namespace CannedResponsesService

structure CreateCannedResponseDto where
  title : String
  body : String
  folderId : Patch Uuid

structure UpdateCannedResponseDto where
  title : Patch String
  body : Patch String
  folderId : Patch Uuid

def list (before : AdminRow → AdminRow → Bool) : AdminProg := selectAll "canned_responses" before

-- Neither function asks whose folder it is.
def create (tenantId newId : Uuid) (now : Nat) (dto : CreateCannedResponseDto) : AdminProg :=
  insertInto tenantId "canned_responses" newId
    [("title", .text dto.title), ("body", .text dto.body), ("folder_id", orNull .uuid dto.folderId)]
    [("created_at", .timestamp now), ("updated_at", .timestamp now)] queryFailed created

def update (now : Nat) (id : Uuid) (dto : UpdateCannedResponseDto) : AdminProg :=
  existing (isRow "canned_responses" id) (.notFound s!"Canned response {id} not found") <|
    patchById now "canned_responses" id []
      [("title", assigned .text dto.title), ("body", assigned .text dto.body),
        ("folder_id", assigned .uuid dto.folderId)] ["updated_at"]
      queryFailed .ret

def remove (id : Uuid) : AdminProg :=
  removeRows (isRow "canned_responses" id) (.notFound s!"Canned response {id} not found") queryFailed

end CannedResponsesService

namespace TicketViewsService

structure CreateTicketViewDto where
  name : String
  filters : String

structure UpdateTicketViewDto where
  name : Patch String
  filters : Patch String

def create (tenantId newId : Uuid) (now : Nat) (agentId : Option Uuid) (dto : CreateTicketViewDto) : AdminProg :=
  insertInto tenantId "ticket_views" newId
    [("agent_id", (agentId.map .uuid).getD .null), ("name", .text dto.name),
      ("filters", .json (.object dto.filters))]
    [("created_at", .timestamp now)] queryFailed created

-- TicketViewsController.create and list. No agent is ever deleted, so the one found in the
-- transaction before is still there.
def createFor (tenantId newId : Uuid) (now : Nat) (userId : Option Uuid) (dto : CreateTicketViewDto) : AdminProg :=
  .select fun rows => create tenantId newId now
    ((userId.bind (AgentsService.ofUser · rows)).map Row.id) dto

def list (agentId : Option Uuid) (before : AdminRow → AdminRow → Bool) : AdminProg :=
  .select fun rows => .ret ((rows.filter fun row => row.table = "ticket_views" && (row.columns "agent_id" = .null ||
    agentId.any fun id => row.columns "agent_id" = .uuid id)).mergeSort before)

def listFor (userId : Option Uuid) (before : AdminRow → AdminRow → Bool) : AdminProg :=
  .select fun rows => list ((userId.bind (AgentsService.ofUser · rows)).map Row.id) before

def update (now : Nat) (id : Uuid) (dto : UpdateTicketViewDto) : AdminProg :=
  existing (isRow "ticket_views" id) (.notFound s!"Ticket view {id} not found") <|
    patchById now "ticket_views" id []
      [("name", assigned .text dto.name), ("filters", assignedJson .object dto.filters)] []
      queryFailed .ret

def remove (id : Uuid) : AdminProg :=
  removeRows (isRow "ticket_views" id) (.notFound s!"Ticket view {id} not found") queryFailed

end TicketViewsService

namespace ScenariosService

structure CreateScenarioDto where
  name : String
  agentId : Patch Uuid
  actions : List AutomationAction

structure UpdateScenarioDto where
  name : Patch String
  agentId : Patch Uuid
  actions : Patch (List AutomationAction)

section Targets

variable (castUuid : String → Option Uuid)

def assertTarget (table value : String) (error : ServiceError) (next : AdminProg) : AdminProg :=
  match castUuid value with
  | none => .throw (.error s!"invalid input syntax for type uuid: \"{value}\"")
  | some id => existing (isRow table id) error next

def assertActionTargetsBelongToTenant : List AutomationAction → AdminProg → AdminProg
  | [], next => next
  | action :: rest, next =>
      let others := assertActionTargetsBelongToTenant rest next
      match action.type with
      | .setGroup => assertTarget castUuid "groups" action.value (.badRequest
          s!"set_group action references group {action.value}, which does not exist for this tenant") others
      | .setAgent => assertTarget castUuid "agents" action.value (.badRequest
          s!"set_agent action references agent {action.value}, which does not exist for this tenant") others
      | .setStatus | .setPriority | .setPlatform | .addNote | .addTag => others

def actionsToCheck : Patch (List AutomationAction) → List AutomationAction
  | .undefined | .null => []
  | .value actions => actions

def list (before : AdminRow → AdminRow → Bool) : AdminProg := selectAll "scenarios" before

def create (tenantId newId : Uuid) (now : Nat) (dto : CreateScenarioDto) : AdminProg :=
  assertGiven "agents" "Agent" dto.agentId <|
    assertActionTargetsBelongToTenant castUuid dto.actions <|
      insertInto tenantId "scenarios" newId
        [("agent_id", orNull .uuid dto.agentId), ("name", .text dto.name), ("actions", .json (.actions dto.actions))]
        [("created_at", .timestamp now), ("updated_at", .timestamp now)] queryFailed created

def update (now : Nat) (id : Uuid) (dto : UpdateScenarioDto) : AdminProg :=
  existing (isRow "scenarios" id) (.notFound s!"Scenario {id} not found") <|
    assertGiven "agents" "Agent" dto.agentId <|
      assertActionTargetsBelongToTenant castUuid (actionsToCheck dto.actions) <|
        patchById now "scenarios" id []
          [("name", assigned .text dto.name), ("agent_id", assigned .uuid dto.agentId),
            ("actions", assignedJson .actions dto.actions)] ["updated_at"]
          queryFailed .ret

def remove (id : Uuid) : AdminProg :=
  removeRows (isRow "scenarios" id) (.notFound s!"Scenario {id} not found") queryFailed

end Targets

end ScenariosService

-- What is kept under a ticket: the row must be the tenant's, and its ticket the one asked for.
def assertTicketExists (ticketId : Uuid) (next : AdminProg) : AdminProg :=
  existing (isRow "tickets" ticketId) (.notFound s!"Ticket {ticketId} not found") next

def isOn (table : String) (ticketId id : Uuid) (row : AdminRow) : Bool :=
  isRow table id row && row.columns "ticket_id" = .uuid ticketId

def ofTicket (table : String) (ticketId : Uuid) (before : AdminRow → AdminRow → Bool) : AdminProg :=
  assertTicketExists ticketId <| .select fun rows => .ret
    ((rows.filter fun row => row.table = table && row.columns "ticket_id" = .uuid ticketId).mergeSort before)

namespace TicketTodosService

structure UpdateTicketTodoDto where
  body : Patch String
  isDone : Patch Bool

def doneAt (now : Nat) : Patch Bool → Option SqlValue
  | .undefined => none
  | .null | .value false => some .null
  | .value true => some (.timestamp now)

def create (tenantId newId : Uuid) (now : Nat) (ticketId : Uuid) (body : String) : AdminProg :=
  assertTicketExists ticketId <|
    insertInto tenantId "ticket_todos" newId [("ticket_id", .uuid ticketId), ("body", .text body)]
      [("is_done", .boolean false), ("created_at", .timestamp now)] queryFailed created

def list (ticketId : Uuid) (before : AdminRow → AdminRow → Bool) : AdminProg :=
  ofTicket "ticket_todos" ticketId before

def update (now : Nat) (ticketId todoId : Uuid) (dto : UpdateTicketTodoDto) : AdminProg :=
  existing (isOn "ticket_todos" ticketId todoId) (.notFound s!"To-do {todoId} not found on ticket {ticketId}") <|
    patchById now "ticket_todos" todoId []
      [("body", assigned .text dto.body), ("is_done", assigned .boolean dto.isDone),
        ("done_at", doneAt now dto.isDone)] []
      queryFailed .ret

def remove (ticketId todoId : Uuid) : AdminProg :=
  removeRows (isOn "ticket_todos" ticketId todoId) (.notFound s!"To-do {todoId} not found on ticket {ticketId}")
    queryFailed

end TicketTodosService

namespace TicketTimeLogsService

structure CreateTicketTimeLogDto where
  minutes : Int
  note : Patch String
  agentId : Patch Uuid

def create (tenantId newId : Uuid) (now : Nat) (ticketId : Uuid) (dto : CreateTicketTimeLogDto) : AdminProg :=
  assertTicketExists ticketId <| assertGiven "agents" "agent" dto.agentId <|
    insertInto tenantId "ticket_time_logs" newId
      [("ticket_id", .uuid ticketId), ("agent_id", orNull .uuid dto.agentId), ("minutes", .int dto.minutes),
        ("note", orNull .text dto.note), ("logged_at", .timestamp now)]
      [("created_at", .timestamp now)] queryFailed created

def remove (ticketId logId : Uuid) : AdminProg :=
  removeRows (isOn "ticket_time_logs" ticketId logId) (.notFound s!"Time log {logId} not found on ticket {ticketId}")
    queryFailed

end TicketTimeLogsService

namespace CustomFieldsService

structure CreateCustomFieldDto where
  key : String
  label : String
  fieldType : String
  options : Patch (List String)
  isRequired : Patch Bool
  position : Patch Int

structure UpdateCustomFieldDto where
  label : Patch String
  options : Patch (List String)
  isRequired : Patch Bool
  isActive : Patch Bool
  position : Patch Int

def hasOptions : Patch (List String) → Bool
  | .undefined | .null => false
  | .value options => !options.isEmpty

def list (before : AdminRow → AdminRow → Bool) : AdminProg := selectAll "ticket_custom_field_defs" before

def create (tenantId newId : Uuid) (now : Nat) (dto : CreateCustomFieldDto) : AdminProg :=
  if dto.fieldType = "dropdown" && !hasOptions dto.options then
    .throw (.badRequest "A dropdown custom field needs at least one option")
  else .select fun rows =>
    if rows.any fun row => row.table = "ticket_custom_field_defs" && row.columns "key" = .text dto.key then
      .throw (.badRequest s!"A custom field with key \"{dto.key}\" already exists")
    else insertInto tenantId "ticket_custom_field_defs" newId
      [("key", .text dto.key), ("label", .text dto.label), ("field_type", .text dto.fieldType),
        ("options", orElse .texts [] dto.options), ("is_required", orElse .boolean false dto.isRequired),
        ("position", orElse .int 0 dto.position)]
      [("is_active", .boolean true), ("created_at", .timestamp now), ("updated_at", .timestamp now)]
      queryFailed created

def update (now : Nat) (id : Uuid) (dto : UpdateCustomFieldDto) : AdminProg :=
  patchById now "ticket_custom_field_defs" id []
    [("label", assigned .text dto.label), ("options", assigned .texts dto.options),
      ("is_required", assigned .boolean dto.isRequired), ("is_active", assigned .boolean dto.isActive),
      ("position", assigned .int dto.position)] ["updated_at"]
    queryFailed (found (.notFound s!"Custom field {id} not found"))

def remove (id : Uuid) : AdminProg :=
  removeRows (isRow "ticket_custom_field_defs" id) (.notFound s!"Custom field {id} not found") queryFailed

end CustomFieldsService

namespace SolutionsService

structure CreateSolutionDto where
  title : String
  body : String
  isPublished : Patch Bool

structure UpdateSolutionDto where
  title : Patch String
  body : Patch String
  isPublished : Patch Bool

def get (id : Uuid) : AdminProg := getById "solutions" "Solution" id

def create (tenantId newId : Uuid) (now : Nat) (dto : CreateSolutionDto) : AdminProg :=
  insertInto tenantId "solutions" newId
    [("title", .text dto.title), ("body", .text dto.body), ("is_published", orElse .boolean false dto.isPublished)]
    [("created_at", .timestamp now), ("updated_at", .timestamp now)] queryFailed created

-- Its SET starts with updated_at = now(), so it is never empty.
def update (now : Nat) (id : Uuid) (dto : UpdateSolutionDto) : AdminProg :=
  existing (isRow "solutions" id) (.notFound s!"Solution {id} not found") <|
    patchById now "solutions" id ["updated_at"]
      [("title", assigned .text dto.title), ("body", assigned .text dto.body),
        ("is_published", assigned .boolean dto.isPublished)] []
      queryFailed .ret

def remove (id : Uuid) : AdminProg :=
  removeRows (isRow "solutions" id) (.notFound s!"Solution {id} not found") queryFailed

end SolutionsService

end CloudOps.Platform.Admin
