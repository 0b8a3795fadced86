import CloudOps.Monitoring.AdminServices
import CloudOps.Ticketing.AdminServices

namespace CloudOps.Platform.Admin

open CloudOps.RowSecurity
open CloudOps.Ticketing (AutomationAction Patch Uuid)

-- What Postgres and its collation add: the cast of a text to a uuid, the order of a result.
structure AdminEnvironment where
  castUuid : String → Option Uuid
  before : AdminRow → AdminRow → Bool

-- The functions of the services, with what a request gives them. ScenariosService.apply,
-- SolutionsService.createFromResolvedTicket, the lists of contacts, solutions and time logs,
-- currentOnCall, and the dashboard and fleet summary of resources are left out.
inductive AdminCall where
  | listCompanies
  | getCompany (id : Uuid)
  | createCompany (dto : CompaniesService.CreateCompanyDto)
  | updateCompany (id : Uuid) (dto : CompaniesService.UpdateCompanyDto)
  | removeCompany (id : Uuid)
  | listGroups
  | createGroup (dto : GroupsService.CreateGroupDto)
  | updateGroup (id : Uuid) (dto : GroupsService.UpdateGroupDto)
  | removeGroup (id : Uuid)
  | getContact (id : Uuid)
  | createContact (dto : ContactsService.CreateContactDto)
  | updateContact (id : Uuid) (dto : ContactsService.UpdateContactDto)
  | listAgents
  | findAgent (userId : Uuid)
  | createAgent (dto : AgentsService.CreateAgentDto)
  | updateAgent (id : Uuid) (dto : AgentsService.UpdateAgentDto)
  | listTicketTypes
  | createTicketType (dto : TicketTypesService.CreateTicketTypeDto)
  | updateTicketType (id : Uuid) (dto : TicketTypesService.UpdateTicketTypeDto)
  | removeTicketType (id : Uuid)
  | listSlaPolicies
  | createSlaPolicy (dto : SlaPoliciesService.CreateSlaPolicyDto)
  | updateSlaPolicy (id : Uuid) (dto : SlaPoliciesService.UpdateSlaPolicyDto)
  | removeSlaPolicy (id : Uuid)
  | listFolders
  | createFolder (dto : CannedResponseFoldersService.CreateCannedResponseFolderDto)
  | updateFolder (id : Uuid) (dto : CannedResponseFoldersService.UpdateCannedResponseFolderDto)
  | removeFolder (id : Uuid)
  | listCannedResponses
  | createCannedResponse (dto : CannedResponsesService.CreateCannedResponseDto)
  | updateCannedResponse (id : Uuid) (dto : CannedResponsesService.UpdateCannedResponseDto)
  | removeCannedResponse (id : Uuid)
  | listTicketViews (userId : Option Uuid)
  | createTicketView (userId : Option Uuid) (dto : TicketViewsService.CreateTicketViewDto)
  | updateTicketView (id : Uuid) (dto : TicketViewsService.UpdateTicketViewDto)
  | removeTicketView (id : Uuid)
  | listScenarios
  | createScenario (dto : ScenariosService.CreateScenarioDto)
  | updateScenario (id : Uuid) (dto : ScenariosService.UpdateScenarioDto)
  | removeScenario (id : Uuid)
  | listTodos (ticketId : Uuid)
  | createTodo (ticketId : Uuid) (body : String)
  | updateTodo (ticketId todoId : Uuid) (dto : TicketTodosService.UpdateTicketTodoDto)
  | removeTodo (ticketId todoId : Uuid)
  | createTimeLog (ticketId : Uuid) (dto : TicketTimeLogsService.CreateTicketTimeLogDto)
  | removeTimeLog (ticketId logId : Uuid)
  | listCustomFields
  | createCustomField (dto : CustomFieldsService.CreateCustomFieldDto)
  | updateCustomField (id : Uuid) (dto : CustomFieldsService.UpdateCustomFieldDto)
  | removeCustomField (id : Uuid)
  | getSolution (id : Uuid)
  | createSolution (dto : SolutionsService.CreateSolutionDto)
  | updateSolution (id : Uuid) (dto : SolutionsService.UpdateSolutionDto)
  | removeSolution (id : Uuid)
  | listOnCallSchedules
  | createOnCallSchedule (dto : OnCallSchedulesService.CreateOnCallScheduleDto)
  | updateOnCallSchedule (id : Uuid) (dto : OnCallSchedulesService.UpdateOnCallScheduleDto)
  | removeOnCallSchedule (id : Uuid)
  | listEscalationPolicies
  | createEscalationPolicy (dto : EscalationPoliciesService.CreateEscalationPolicyDto)
  | updateEscalationPolicy (id : Uuid) (dto : EscalationPoliciesService.UpdateEscalationPolicyDto)
  | removeEscalationPolicy (id : Uuid)
  | listNotificationTemplates
  | createNotificationTemplate (dto : NotificationTemplatesService.CreateNotificationTemplateDto)
  | updateNotificationTemplate (id : Uuid) (dto : NotificationTemplatesService.UpdateNotificationTemplateDto)
  | removeNotificationTemplate (id : Uuid)
  | listResources
  | getResource (id : Uuid)
  | createResource (dto : ResourcesService.CreateResourceDto)
  | updateResource (id : Uuid) (dto : ResourcesService.UpdateResourceDto)
  | removeResource (id : Uuid)
  | listDowntimeEvents
  | createDowntimeEvent (createdBy : Option Uuid) (dto : DowntimeEventsService.CreateDowntimeEventDto)
  | endDowntimeEvent (id : Uuid)

-- The tenant, the time, and the ids the database would draw for the rows inserted.
structure AdminRequest where
  tenantId : Uuid
  now : Nat
  newId : Uuid
  secondId : Uuid
  call : AdminCall

def AdminRequest.prog (env : AdminEnvironment) (request : AdminRequest) : AdminProg :=
  let tenantId := request.tenantId
  let now := request.now
  let newId := request.newId
  match request.call with
  | .listCompanies => CompaniesService.list env.before
  | .getCompany id => CompaniesService.get id
  | .createCompany dto => CompaniesService.create tenantId newId dto
  | .updateCompany id dto => CompaniesService.update now id dto
  | .removeCompany id => CompaniesService.remove id
  | .listGroups => GroupsService.list env.before
  | .createGroup dto => GroupsService.create tenantId newId now dto
  | .updateGroup id dto => GroupsService.update now id dto
  | .removeGroup id => GroupsService.remove id
  | .getContact id => ContactsService.get id
  | .createContact dto => ContactsService.create tenantId newId dto
  | .updateContact id dto => ContactsService.update now id dto
  | .listAgents => AgentsService.list env.before
  | .findAgent userId => AgentsService.findByUserId userId
  | .createAgent dto => AgentsService.create tenantId newId request.secondId now dto
  | .updateAgent id dto => AgentsService.update now id dto
  | .listTicketTypes => TicketTypesService.list env.before
  | .createTicketType dto => TicketTypesService.create tenantId newId dto
  | .updateTicketType id dto => TicketTypesService.update now id dto
  | .removeTicketType id => TicketTypesService.remove id
  | .listSlaPolicies => SlaPoliciesService.list env.before
  | .createSlaPolicy dto => SlaPoliciesService.create tenantId newId dto
  | .updateSlaPolicy id dto => SlaPoliciesService.update now id dto
  | .removeSlaPolicy id => SlaPoliciesService.remove id
  | .listFolders => CannedResponseFoldersService.list env.before
  | .createFolder dto => CannedResponseFoldersService.create tenantId newId now dto
  | .updateFolder id dto => CannedResponseFoldersService.update now id dto
  | .removeFolder id => CannedResponseFoldersService.remove id
  | .listCannedResponses => CannedResponsesService.list env.before
  | .createCannedResponse dto => CannedResponsesService.create tenantId newId now dto
  | .updateCannedResponse id dto => CannedResponsesService.update now id dto
  | .removeCannedResponse id => CannedResponsesService.remove id
  | .listTicketViews userId => TicketViewsService.listFor userId env.before
  | .createTicketView userId dto => TicketViewsService.createFor tenantId newId now userId dto
  | .updateTicketView id dto => TicketViewsService.update now id dto
  | .removeTicketView id => TicketViewsService.remove id
  | .listScenarios => ScenariosService.list env.before
  | .createScenario dto => ScenariosService.create env.castUuid tenantId newId now dto
  | .updateScenario id dto => ScenariosService.update env.castUuid now id dto
  | .removeScenario id => ScenariosService.remove id
  | .listTodos ticketId => TicketTodosService.list ticketId env.before
  | .createTodo ticketId body => TicketTodosService.create tenantId newId now ticketId body
  | .updateTodo ticketId todoId dto => TicketTodosService.update now ticketId todoId dto
  | .removeTodo ticketId todoId => TicketTodosService.remove ticketId todoId
  | .createTimeLog ticketId dto => TicketTimeLogsService.create tenantId newId now ticketId dto
  | .removeTimeLog ticketId logId => TicketTimeLogsService.remove ticketId logId
  | .listCustomFields => CustomFieldsService.list env.before
  | .createCustomField dto => CustomFieldsService.create tenantId newId now dto
  | .updateCustomField id dto => CustomFieldsService.update now id dto
  | .removeCustomField id => CustomFieldsService.remove id
  | .getSolution id => SolutionsService.get id
  | .createSolution dto => SolutionsService.create tenantId newId now dto
  | .updateSolution id dto => SolutionsService.update now id dto
  | .removeSolution id => SolutionsService.remove id
  | .listOnCallSchedules => OnCallSchedulesService.list env.before
  | .createOnCallSchedule dto => OnCallSchedulesService.create tenantId newId now dto
  | .updateOnCallSchedule id dto => OnCallSchedulesService.update now id dto
  | .removeOnCallSchedule id => OnCallSchedulesService.remove id
  | .listEscalationPolicies => EscalationPoliciesService.list env.before
  | .createEscalationPolicy dto => EscalationPoliciesService.create tenantId newId now dto
  | .updateEscalationPolicy id dto => EscalationPoliciesService.update now id dto
  | .removeEscalationPolicy id => EscalationPoliciesService.remove id
  | .listNotificationTemplates => NotificationTemplatesService.list env.before
  | .createNotificationTemplate dto => NotificationTemplatesService.create tenantId newId now dto
  | .updateNotificationTemplate id dto => NotificationTemplatesService.update now id dto
  | .removeNotificationTemplate id => NotificationTemplatesService.remove id
  | .listResources => ResourcesService.list env.before
  | .getResource id => ResourcesService.get id
  | .createResource dto => ResourcesService.create tenantId newId now dto
  | .updateResource id dto => ResourcesService.update now id dto
  | .removeResource id => ResourcesService.remove id
  | .listDowntimeEvents => DowntimeEventsService.list env.before
  | .createDowntimeEvent createdBy dto => DowntimeEventsService.create tenantId newId now createdBy dto
  | .endDowntimeEvent id => DowntimeEventsService.end now id

def AdminRequest.toRequest (env : AdminEnvironment) (request : AdminRequest) :
    Request Uuid Uuid SqlValue ServiceError (List AdminRow) where
  tenant := request.tenantId
  prog := request.prog env

-- The keys of the tables the services write.
section Keys

theorem keysOf_contacts : keysOf "contacts" = [reference "contacts" "company_id" "companies" .setNull] := by
  simp [keysOf, foreignKeys]

theorem keysOf_agents : keysOf "agents" = [reference "agents" "user_id" "users" .cascade] := by
  simp [keysOf, foreignKeys]

theorem keysOf_ticketTypes : keysOf "ticket_types" = [reference "ticket_types" "default_group_id" "groups" .setNull,
    ⟨"fk_ticket_types_default_sla_policy", "ticket_types", "default_sla_policy_id", "sla_policies", .setNull⟩] := by
  simp [keysOf, foreignKeys]

theorem keysOf_agentOwned {table : String} (h : table ∈ ["canned_response_folders", "ticket_views", "scenarios"]) :
    keysOf table = [reference table "agent_id" "agents" .cascade] := by
  simp only [List.mem_cons, List.not_mem_nil, or_false] at h
  rcases h with rfl | rfl | rfl <;> simp [keysOf, foreignKeys]

theorem keysOf_cannedResponses : keysOf "canned_responses" =
    [reference "canned_responses" "folder_id" "canned_response_folders" .setNull] := by
  simp [keysOf, foreignKeys]

theorem keysOf_todos : keysOf "ticket_todos" = [reference "ticket_todos" "ticket_id" "tickets" .cascade] := by
  simp [keysOf, foreignKeys]

theorem keysOf_timeLogs : keysOf "ticket_time_logs" = [reference "ticket_time_logs" "ticket_id" "tickets" .cascade,
    reference "ticket_time_logs" "agent_id" "agents" .noAction] := by
  simp [keysOf, foreignKeys]

theorem keysOf_downtimeEvents : keysOf "downtime_events" =
    [reference "downtime_events" "resource_id" "resources" .cascade,
      reference "downtime_events" "monitor_id" "monitors" .setNull] := by
  simp [keysOf, foreignKeys]

theorem keysOf_resources : keysOf "resources" =
    [reference "resources" "cloud_credential_id" "cloud_credentials" .setNull] := by
  simp [keysOf, foreignKeys]

theorem keysOf_solutions : keysOf "solutions" = [reference "solutions" "source_ticket_id" "tickets" .setNull] := by
  simp [keysOf, foreignKeys]

theorem keysOf_plain {table : String} (h : table ∈ ["companies", "groups", "users", "sla_policies",
    "ticket_custom_field_defs", "on_call_schedules", "escalation_policies", "notification_templates"]) :
    keysOf table = [] := by
  simp only [List.mem_cons, List.not_mem_nil, or_false] at h
  rcases h with rfl | rfl | rfl | rfl | rfl | rfl | rfl | rfl <;> simp [keysOf, foreignKeys]

theorem reference_assigned {field : Patch Uuid} {value : SqlValue} {target : Uuid}
    (h : assigned .uuid field = some value) (href : value.reference = some target) : field = .value target := by
  cases field with
  | undefined => cases h
  | null =>
      cases h
      cases href
  | value id =>
      cases h
      cases href
      rfl

theorem reference_orNull {field : Patch Uuid} {target : Uuid} (h : (orNull .uuid field).reference = some target) :
    field = .value target := by
  cases field with
  | undefined => cases h
  | null => cases h
  | value id =>
      cases h
      rfl

theorem own_of_isRow {tenantId id : Uuid} {db : List AdminRow} {table : String} (hs : Sound schema db)
    (h : ∃ row ∈ visible tenantId db, isRow table id row = true) : Own tenantId db table id := by
  obtain ⟨row, hrow, hkey⟩ := h
  simp only [isRow, Bool.and_eq_true, decide_eq_true_eq] at hkey
  exact Own.of_visible hs.keys ⟨row, hrow, hkey⟩

end Keys

section Services

variable {tenantId newId id : Uuid} {now : Nat} {db : List AdminRow}

section Plain

variable {table : String} {values defaults : List (String × SqlValue)} {fields : List (String × Option SqlValue)}
  {lead stamp : List String} {failed : Violation → ServiceError} {next : List AdminRow → AdminProg}

theorem keeps_insertPlain (hplain : keysOf table = []) (hs : Sound schema db) (hown : Own tenantId db table id) :
    Keeps schema tenantId (insertInto tenantId table id values defaults failed created) db := by
  refine keeps_insertInto hs hown ?_ fun _ _ _ _ _ => trivial
  rw [hplain]
  exact fun _ hkey => absurd hkey List.not_mem_nil

theorem keeps_patchPlain (hplain : keysOf table = []) (hs : Sound schema db) (hnodup : (fields.map Prod.fst).Nodup)
    (hnext : ∀ rows after, Sound schema after → Keeps schema tenantId (next rows) after) :
    Keeps schema tenantId (patchById now table id lead fields stamp failed next) db := by
  refine keeps_patchById hs hnodup ?_ hnext
  rw [hplain]
  exact fun _ hkey => absurd hkey List.not_mem_nil

-- A service that has found the row updates a table without foreign keys.
theorem keeps_updatePlain {hits : AdminRow → Bool} {error : ServiceError} (hplain : keysOf table = [])
    (hs : Sound schema db) (hnodup : (fields.map Prod.fst).Nodup) : Keeps schema tenantId
      (existing hits error (patchById now table id lead fields stamp failed .ret)) db :=
  keeps_existing fun _ => keeps_patchPlain hplain hs hnodup fun _ _ _ => trivial

end Plain

theorem keeps_createContact {dto : ContactsService.CreateContactDto} (hs : Sound schema db)
    (hown : Own tenantId db "contacts" newId) :
    Keeps schema tenantId (ContactsService.create tenantId newId dto) db := by
  refine keeps_assertGiven hs fun hcompany => keeps_insertInto hs hown ?_ fun _ _ _ _ _ => trivial
  rw [keysOf_contacts]
  intro key hkey target href
  obtain rfl := List.mem_singleton.mp hkey
  exact hcompany target (reference_orNull href)

theorem keeps_updateContact {dto : ContactsService.UpdateContactDto} (hs : Sound schema db) :
    Keeps schema tenantId (ContactsService.update now id dto) db := by
  refine keeps_existing fun _ => keeps_assertGiven hs fun hcompany =>
    keeps_patchById hs (by simp) ?_ fun _ _ _ => trivial
  rw [keysOf_contacts]
  intro key hkey value hvalue target href
  obtain rfl := List.mem_singleton.mp hkey
  exact hcompany target (reference_assigned (Option.some.inj hvalue) href)

theorem keeps_createTicketType {dto : TicketTypesService.CreateTicketTypeDto} (hs : Sound schema db)
    (hown : Own tenantId db "ticket_types" newId) :
    Keeps schema tenantId (TicketTypesService.create tenantId newId dto) db := by
  refine keeps_assertGiven hs fun hgroup => keeps_assertGiven hs fun hpolicy =>
    keeps_insertInto hs hown ?_ fun _ _ _ _ _ => trivial
  rw [keysOf_ticketTypes]
  refine List.forall_mem_cons.mpr ⟨?_, List.forall_mem_singleton.mpr ?_⟩
  · exact fun target href => hgroup target (reference_orNull href)
  · exact fun target href => hpolicy target (reference_orNull href)

theorem keeps_updateTicketType {dto : TicketTypesService.UpdateTicketTypeDto} (hs : Sound schema db) :
    Keeps schema tenantId (TicketTypesService.update now id dto) db := by
  refine keeps_existing fun _ => keeps_assertGiven hs fun hgroup => keeps_assertGiven hs fun hpolicy =>
    keeps_patchById hs (by simp) ?_ fun _ _ _ => trivial
  rw [keysOf_ticketTypes]
  refine List.forall_mem_cons.mpr ⟨?_, List.forall_mem_singleton.mpr ?_⟩
  · exact fun value hvalue target href => hgroup target (reference_assigned (Option.some.inj hvalue) href)
  · exact fun value hvalue target href => hpolicy target (reference_assigned (Option.some.inj hvalue) href)

theorem keeps_createFolder {dto : CannedResponseFoldersService.CreateCannedResponseFolderDto} (hs : Sound schema db)
    (hown : Own tenantId db "canned_response_folders" newId) :
    Keeps schema tenantId (CannedResponseFoldersService.create tenantId newId now dto) db := by
  refine keeps_assertGiven hs fun hagent => keeps_insertInto hs hown ?_ fun _ _ _ _ _ => trivial
  rw [keysOf_agentOwned (by decide)]
  intro key hkey target href
  obtain rfl := List.mem_singleton.mp hkey
  exact hagent target (reference_orNull href)

theorem keeps_updateFolder {dto : CannedResponseFoldersService.UpdateCannedResponseFolderDto} (hs : Sound schema db) :
    Keeps schema tenantId (CannedResponseFoldersService.update now id dto) db := by
  refine keeps_existing fun _ => keeps_assertGiven hs fun hagent =>
    keeps_patchById hs (by simp) ?_ fun _ _ _ => trivial
  rw [keysOf_agentOwned (by decide)]
  intro key hkey value hvalue target href
  obtain rfl := List.mem_singleton.mp hkey
  exact hagent target (reference_assigned (Option.some.inj hvalue) href)

-- The folder is the one reference of these two that no query has looked up.
theorem keeps_createCannedResponse {dto : CannedResponsesService.CreateCannedResponseDto} (hs : Sound schema db)
    (hown : Own tenantId db "canned_responses" newId)
    (hfolder : ∀ target, dto.folderId = .value target → Own tenantId db "canned_response_folders" target) :
    Keeps schema tenantId (CannedResponsesService.create tenantId newId now dto) db := by
  refine keeps_insertInto hs hown ?_ fun _ _ _ _ _ => trivial
  rw [keysOf_cannedResponses]
  intro key hkey target href
  obtain rfl := List.mem_singleton.mp hkey
  exact hfolder target (reference_orNull href)

theorem keeps_updateCannedResponse {dto : CannedResponsesService.UpdateCannedResponseDto} (hs : Sound schema db)
    (hfolder : ∀ target, dto.folderId = .value target → Own tenantId db "canned_response_folders" target) :
    Keeps schema tenantId (CannedResponsesService.update now id dto) db := by
  refine keeps_existing fun _ => keeps_patchById hs (by simp) ?_ fun _ _ _ => trivial
  rw [keysOf_cannedResponses]
  intro key hkey value hvalue target href
  obtain rfl := List.mem_singleton.mp hkey
  exact hfolder target (reference_assigned (Option.some.inj hvalue) href)

theorem keeps_createTicketView {userId : Option Uuid} {dto : TicketViewsService.CreateTicketViewDto}
    (hs : Sound schema db) (hown : Own tenantId db "ticket_views" newId) :
    Keeps schema tenantId (TicketViewsService.createFor tenantId newId now userId dto) db := by
  change Keeps schema tenantId (TicketViewsService.create tenantId newId now
    ((userId.bind (AgentsService.ofUser · (visible tenantId db))).map Row.id) dto) db
  refine keeps_insertInto hs hown ?_ fun _ _ _ _ _ => trivial
  rw [keysOf_agentOwned (by decide)]
  intro key hkey target href
  obtain rfl := List.mem_singleton.mp hkey
  cases hagent : userId.bind (AgentsService.ofUser · (visible tenantId db)) with
  | none => rw [hagent] at href; cases href
  | some agent =>
      rw [hagent] at href
      obtain rfl : agent.id = target := Option.some.inj href
      obtain ⟨user, -, huser⟩ := Option.bind_eq_some_iff.mp hagent
      have htable := List.find?_some huser
      simp only [Bool.and_eq_true, decide_eq_true_eq] at htable
      exact Own.of_visible hs.keys ⟨agent, List.mem_of_find?_eq_some huser, htable.1, rfl⟩

theorem keeps_updateTicketView {dto : TicketViewsService.UpdateTicketViewDto} (hs : Sound schema db) :
    Keeps schema tenantId (TicketViewsService.update now id dto) db := by
  refine keeps_existing fun _ => keeps_patchById hs (by simp) ?_ fun _ _ _ => trivial
  rw [keysOf_agentOwned (by decide)]
  intro key hkey value hvalue
  obtain rfl := List.mem_singleton.mp hkey
  cases hvalue

section Targets

variable {castUuid : String → Option Uuid} {next : AdminProg}

theorem keeps_assertActionTargets (actions : List AutomationAction) (h : Keeps schema tenantId next db) :
    Keeps schema tenantId (ScenariosService.assertActionTargetsBelongToTenant castUuid actions next) db := by
  have htarget : ∀ table value error (others : AdminProg), Keeps schema tenantId others db →
      Keeps schema tenantId (ScenariosService.assertTarget castUuid table value error others) db := by
    intro table value error others hothers
    unfold ScenariosService.assertTarget
    split
    · trivial
    · exact keeps_existing fun _ => hothers
  induction actions with
  | nil => exact h
  | cons action rest ih =>
      unfold ScenariosService.assertActionTargetsBelongToTenant
      split
      · exact htarget _ _ _ _ ih
      · exact htarget _ _ _ _ ih
      · exact ih
      · exact ih
      · exact ih
      · exact ih
      · exact ih

theorem keeps_createScenario {dto : ScenariosService.CreateScenarioDto} (hs : Sound schema db)
    (hown : Own tenantId db "scenarios" newId) :
    Keeps schema tenantId (ScenariosService.create castUuid tenantId newId now dto) db := by
  refine keeps_assertGiven hs fun hagent => keeps_assertActionTargets _ <|
    keeps_insertInto hs hown ?_ fun _ _ _ _ _ => trivial
  rw [keysOf_agentOwned (by decide)]
  intro key hkey target href
  obtain rfl := List.mem_singleton.mp hkey
  exact hagent target (reference_orNull href)

theorem keeps_updateScenario {dto : ScenariosService.UpdateScenarioDto} (hs : Sound schema db) :
    Keeps schema tenantId (ScenariosService.update castUuid now id dto) db := by
  refine keeps_existing fun _ => keeps_assertGiven hs fun hagent => keeps_assertActionTargets _ <|
    keeps_patchById hs (by simp) ?_ fun _ _ _ => trivial
  rw [keysOf_agentOwned (by decide)]
  intro key hkey value hvalue target href
  obtain rfl := List.mem_singleton.mp hkey
  exact hagent target (reference_assigned (Option.some.inj hvalue) href)

end Targets

theorem keeps_assertGroups {next : AdminProg} (groupIds : List Uuid) (h : Keeps schema tenantId next db) :
    Keeps schema tenantId (AgentsService.assertGroupsBelongToTenant groupIds next) db := by
  induction groupIds with
  | nil => exact h
  | cons groupId rest ih => exact keeps_existing fun _ => ih

-- The agent's user is the row the transaction has just inserted.
theorem keeps_createAgent {agentId : Uuid} {dto : AgentsService.CreateAgentDto} (hs : Sound schema db)
    (huser : Own tenantId db "users" newId) (hagent : Own tenantId db "agents" agentId) :
    Keeps schema tenantId (AgentsService.create tenantId newId agentId now dto) db := by
  refine keeps_assertGroups _ <| keeps_insertInto hs huser ?_ fun user htable hid htenant hs' => ?_
  · rw [keysOf_plain (by decide)]
    exact fun _ hkey => absurd hkey List.not_mem_nil
  · have hadded : ∀ table id, Own tenantId db table id → Own tenantId (db ++ [user]) table id := by
      intro table id hown row hrow
      rcases List.mem_append.mp hrow with hold | hnew
      · exact hown row hold
      · rw [List.mem_singleton.mp hnew]
        exact fun _ _ => htenant
    refine keeps_insertInto hs' (hadded _ _ hagent) ?_ fun _ _ _ _ _ => trivial
    rw [keysOf_agents]
    intro key hkey target href
    obtain rfl := List.mem_singleton.mp hkey
    obtain rfl : user.id = target := Option.some.inj href
    exact hid ▸ hadded _ _ huser

theorem keeps_updateAgent {dto : AgentsService.UpdateAgentDto} (hs : Sound schema db) :
    Keeps schema tenantId (AgentsService.update now id dto) db := by
  rw [AgentsService.update, Keeps]
  split
  · trivial
  · refine keeps_assertGroups _ <| keeps_patchPlain (keysOf_plain (by decide)) hs (by simp) fun _ after hs' => ?_
    refine keeps_patchById hs' (by simp) ?_ fun _ _ _ => trivial
    rw [keysOf_agents]
    intro key hkey value hvalue
    obtain rfl := List.mem_singleton.mp hkey
    cases hvalue

theorem keeps_createTodo {ticketId : Uuid} {body : String} (hs : Sound schema db)
    (hown : Own tenantId db "ticket_todos" newId) :
    Keeps schema tenantId (TicketTodosService.create tenantId newId now ticketId body) db := by
  refine keeps_existing fun hticket => keeps_insertInto hs hown ?_ fun _ _ _ _ _ => trivial
  rw [keysOf_todos]
  intro key hkey target href
  obtain rfl := List.mem_singleton.mp hkey
  obtain rfl : ticketId = target := Option.some.inj href
  exact own_of_isRow hs hticket

theorem keeps_updateTodo {ticketId todoId : Uuid} {dto : TicketTodosService.UpdateTicketTodoDto}
    (hs : Sound schema db) : Keeps schema tenantId (TicketTodosService.update now ticketId todoId dto) db := by
  refine keeps_existing fun _ => keeps_patchById hs (by simp) ?_ fun _ _ _ => trivial
  rw [keysOf_todos]
  intro key hkey value hvalue
  obtain rfl := List.mem_singleton.mp hkey
  cases hvalue

theorem keeps_createTimeLog {ticketId : Uuid} {dto : TicketTimeLogsService.CreateTicketTimeLogDto}
    (hs : Sound schema db) (hown : Own tenantId db "ticket_time_logs" newId) :
    Keeps schema tenantId (TicketTimeLogsService.create tenantId newId now ticketId dto) db := by
  refine keeps_existing fun hticket => keeps_assertGiven hs fun hagent =>
    keeps_insertInto hs hown ?_ fun _ _ _ _ _ => trivial
  rw [keysOf_timeLogs]
  refine List.forall_mem_cons.mpr ⟨?_, List.forall_mem_singleton.mpr ?_⟩
  · intro target href
    obtain rfl : ticketId = target := Option.some.inj href
    exact own_of_isRow hs hticket
  · exact fun target href => hagent target (reference_orNull href)

theorem keeps_createDowntimeEvent {createdBy : Option Uuid} {dto : DowntimeEventsService.CreateDowntimeEventDto}
    (hs : Sound schema db) (hown : Own tenantId db "downtime_events" newId)
    (hmonitor : ∀ target, dto.monitorId = .value target → Own tenantId db "monitors" target) :
    Keeps schema tenantId (DowntimeEventsService.create tenantId newId now createdBy dto) db := by
  refine keeps_existing fun hresource => keeps_insertInto hs hown ?_ fun _ _ _ _ _ => trivial
  rw [keysOf_downtimeEvents]
  refine List.forall_mem_cons.mpr ⟨?_, List.forall_mem_singleton.mpr ?_⟩
  · intro target href
    obtain rfl : dto.resourceId = target := Option.some.inj href
    exact own_of_isRow hs hresource
  · exact fun target href => hmonitor target (reference_orNull href)

theorem keeps_createCustomField {dto : CustomFieldsService.CreateCustomFieldDto} (hs : Sound schema db)
    (hown : Own tenantId db "ticket_custom_field_defs" newId) :
    Keeps schema tenantId (CustomFieldsService.create tenantId newId now dto) db := by
  unfold CustomFieldsService.create
  split
  · trivial
  · change Keeps schema tenantId (if _ then _ else _) db
    split
    · trivial
    · exact keeps_insertPlain (keysOf_plain (by decide)) hs hown

theorem keeps_createSolution {dto : SolutionsService.CreateSolutionDto} (hs : Sound schema db)
    (hown : Own tenantId db "solutions" newId) :
    Keeps schema tenantId (SolutionsService.create tenantId newId now dto) db := by
  refine keeps_insertInto hs hown ?_ fun _ _ _ _ _ => trivial
  rw [keysOf_solutions]
  intro key hkey target href
  obtain rfl := List.mem_singleton.mp hkey
  cases href

theorem keeps_updateSolution {dto : SolutionsService.UpdateSolutionDto} (hs : Sound schema db) :
    Keeps schema tenantId (SolutionsService.update now id dto) db := by
  refine keeps_existing fun _ => keeps_patchById hs (by simp) ?_ fun _ _ _ => trivial
  rw [keysOf_solutions]
  intro key hkey value hvalue
  obtain rfl := List.mem_singleton.mp hkey
  cases hvalue

theorem keeps_createResource {dto : ResourcesService.CreateResourceDto} (hs : Sound schema db)
    (hown : Own tenantId db "resources" newId) :
    Keeps schema tenantId (ResourcesService.create tenantId newId now dto) db := by
  refine keeps_insertInto hs hown ?_ fun _ _ _ _ _ => trivial
  rw [keysOf_resources]
  intro key hkey target href
  obtain rfl := List.mem_singleton.mp hkey
  cases href

theorem keeps_updateResource {dto : ResourcesService.UpdateResourceDto} (hs : Sound schema db) :
    Keeps schema tenantId (ResourcesService.update now id dto) db := by
  refine keeps_existing fun _ => keeps_patchById hs (by simp) ?_ fun _ _ _ => trivial
  rw [keysOf_resources]
  intro key hkey value hvalue
  obtain rfl := List.mem_singleton.mp hkey
  cases hvalue

theorem keeps_endDowntimeEvent (hs : Sound schema db) :
    Keeps schema tenantId (DowntimeEventsService.end now id) db := by
  rw [DowntimeEventsService.end, Keeps]
  split
  · trivial
  · split
    · trivial
    · refine ⟨fun row hrow hit key hkey htable target href => ?_, fun _ _ => trivial⟩
      obtain rfl := targeted_tenant hit
      have hset : (applySets (["ends_at"].map .now) [] now row.columns key.column).reference = some target := href
      exact hs.ownReferences hrow key hkey htable target (reference_stamp _ _ hset)

end Services

-- The ids drawn for new rows are those of no row already there.
def AdminRequest.Fresh (db : List AdminRow) (request : AdminRequest) : Prop :=
  ∀ row ∈ db, row.id ≠ request.newId ∧ row.id ≠ request.secondId

instance AdminRequest.Fresh.decidable (db : List AdminRow) (request : AdminRequest) : Decidable (request.Fresh db) :=
  inferInstanceAs (Decidable (∀ row ∈ db, row.id ≠ request.newId ∧ row.id ≠ request.secondId))

-- The folder and the monitor that no query looks up are no other tenant's.
def AdminRequest.NamesOwn (db : List AdminRow) (request : AdminRequest) : Prop :=
  match request.call with
  | .createCannedResponse dto =>
      ∀ id, dto.folderId = .value id → Own request.tenantId db "canned_response_folders" id
  | .updateCannedResponse _ dto =>
      ∀ id, dto.folderId = .value id → Own request.tenantId db "canned_response_folders" id
  | .createDowntimeEvent _ dto => ∀ id, dto.monitorId = .value id → Own request.tenantId db "monitors" id
  | _ => True

section Requests

variable {env : AdminEnvironment} {db : List AdminRow} {request : AdminRequest}

theorem AdminRequest.Fresh.own (h : request.Fresh db) (table : String) :
    Own request.tenantId db table request.newId ∧ Own request.tenantId db table request.secondId :=
  ⟨fun row hrow _ hid => absurd hid (h row hrow).1, fun row hrow _ hid => absurd hid (h row hrow).2⟩

theorem keeps_prog (hs : Sound schema db) (hfresh : request.Fresh db) (hown : request.NamesOwn db) :
    Keeps schema request.tenantId (request.prog env) db := by
  have hnew := fun table => (hfresh.own table).1
  have hsecond := fun table => (hfresh.own table).2
  obtain ⟨tenantId, now, newId, secondId, call⟩ := request
  cases call with
  | listCompanies => exact trivial
  | getCompany _ => exact keeps_found
  | createCompany _ => exact keeps_insertPlain (keysOf_plain (by decide)) hs (hnew _)
  | updateCompany _ _ => exact keeps_updatePlain (keysOf_plain (by decide)) hs (by simp)
  | removeCompany _ => exact keeps_removeRows
  | listGroups => exact trivial
  | createGroup _ => exact keeps_insertPlain (keysOf_plain (by decide)) hs (hnew _)
  | updateGroup _ _ => exact keeps_updatePlain (keysOf_plain (by decide)) hs (by simp)
  | removeGroup _ => exact keeps_removeRows
  | getContact _ => exact keeps_found
  | createContact _ => exact keeps_createContact hs (hnew _)
  | updateContact _ _ => exact keeps_updateContact hs
  | listAgents => exact trivial
  | findAgent _ => exact trivial
  | createAgent _ => exact keeps_createAgent hs (hnew _) (hsecond _)
  | updateAgent _ _ => exact keeps_updateAgent hs
  | listTicketTypes => exact trivial
  | createTicketType _ => exact keeps_createTicketType hs (hnew _)
  | updateTicketType _ _ => exact keeps_updateTicketType hs
  | removeTicketType _ => exact keeps_removeRows
  | listSlaPolicies => exact trivial
  | createSlaPolicy _ => exact keeps_insertPlain (keysOf_plain (by decide)) hs (hnew _)
  | updateSlaPolicy _ _ => exact keeps_updatePlain (keysOf_plain (by decide)) hs (by simp)
  | removeSlaPolicy _ => exact keeps_removeRows
  | listFolders => exact trivial
  | createFolder _ => exact keeps_createFolder hs (hnew _)
  | updateFolder _ _ => exact keeps_updateFolder hs
  | removeFolder _ => exact keeps_removeRows
  | listCannedResponses => exact trivial
  | createCannedResponse _ => exact keeps_createCannedResponse hs (hnew _) hown
  | updateCannedResponse _ _ => exact keeps_updateCannedResponse hs hown
  | removeCannedResponse _ => exact keeps_removeRows
  | listTicketViews _ => exact trivial
  | createTicketView _ _ => exact keeps_createTicketView hs (hnew _)
  | updateTicketView _ _ => exact keeps_updateTicketView hs
  | removeTicketView _ => exact keeps_removeRows
  | listScenarios => exact trivial
  | createScenario _ => exact keeps_createScenario hs (hnew _)
  | updateScenario _ _ => exact keeps_updateScenario hs
  | removeScenario _ => exact keeps_removeRows
  | listTodos _ => exact keeps_existing fun _ => trivial
  | createTodo _ _ => exact keeps_createTodo hs (hnew _)
  | updateTodo _ _ _ => exact keeps_updateTodo hs
  | removeTodo _ _ => exact keeps_removeRows
  | createTimeLog _ _ => exact keeps_createTimeLog hs (hnew _)
  | removeTimeLog _ _ => exact keeps_removeRows
  | listCustomFields => exact trivial
  | createCustomField _ => exact keeps_createCustomField hs (hnew _)
  | updateCustomField _ _ => exact keeps_patchPlain (keysOf_plain (by decide)) hs (by simp) fun _ _ _ => keeps_found
  | removeCustomField _ => exact keeps_removeRows
  | getSolution _ => exact keeps_found
  | createSolution _ => exact keeps_createSolution hs (hnew _)
  | updateSolution _ _ => exact keeps_updateSolution hs
  | removeSolution _ => exact keeps_removeRows
  | listOnCallSchedules => exact trivial
  | createOnCallSchedule _ => exact keeps_insertPlain (keysOf_plain (by decide)) hs (hnew _)
  | updateOnCallSchedule _ _ => exact keeps_updatePlain (keysOf_plain (by decide)) hs (by simp)
  | removeOnCallSchedule _ => exact keeps_removeRows
  | listEscalationPolicies => exact trivial
  | createEscalationPolicy _ => exact keeps_insertPlain (keysOf_plain (by decide)) hs (hnew _)
  | updateEscalationPolicy _ _ => exact keeps_updatePlain (keysOf_plain (by decide)) hs (by simp)
  | removeEscalationPolicy _ => exact keeps_removeRows
  | listNotificationTemplates => exact trivial
  | createNotificationTemplate _ => exact keeps_insertPlain (keysOf_plain (by decide)) hs (hnew _)
  | updateNotificationTemplate _ _ => exact keeps_updatePlain (keysOf_plain (by decide)) hs (by simp)
  | removeNotificationTemplate _ => exact keeps_removeRows
  | listResources => exact trivial
  | getResource _ => exact keeps_found
  | createResource _ => exact keeps_createResource hs (hnew _)
  | updateResource _ _ => exact keeps_updateResource hs
  | removeResource _ => exact keeps_removeRows
  | listDowntimeEvents => exact trivial
  | createDowntimeEvent _ _ => exact keeps_createDowntimeEvent hs (hnew _) hown
  | endDowntimeEvent _ => exact keeps_endDowntimeEvent hs

end Requests

end CloudOps.Platform.Admin
