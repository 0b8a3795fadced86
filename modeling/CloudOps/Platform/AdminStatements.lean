import CloudOps.Monitoring.EscalationSweep
import CloudOps.PrivateDatabases
import CloudOps.ServiceError
import CloudOps.Ticketing.TicketsService

namespace CloudOps.Platform.Admin

open CloudOps.Monitoring (EscalationStep)
open CloudOps.RowSecurity
open CloudOps.Ticketing (AutomationAction Patch Uuid)

structure OnCallEntry where
  agentId : Uuid
  startsAt : String
  endsAt : String
  deriving DecidableEq

-- The documents of the jsonb columns: an object as the caller sent it, or one of the lists
-- whose items the services read.
inductive Document where
  | object (text : String)
  | actions (items : List AutomationAction)
  | entries (items : List OnCallEntry)
  | steps (items : List EscalationStep)
  deriving DecidableEq

inductive SqlValue where
  | null
  | uuid (id : Uuid)
  | text (value : String)
  | int (value : Int)
  | boolean (value : Bool)
  | timestamp (value : Nat)
  | uuids (ids : List Uuid)
  | texts (values : List String)
  | json (document : Document)
  deriving DecidableEq

def SqlValue.reference : SqlValue → Option Uuid
  | .uuid id => some id
  | _ => none

def reference (table column target : String) (onDelete : OnDelete) : ForeignKey where
  constraint := table ++ "_" ++ column ++ "_fkey"
  table
  column
  target
  onDelete

@[simp] theorem reference_table (table column target : String) (onDelete : OnDelete) :
    (reference table column target onDelete).table = table := rfl

-- Every foreign key of the migrations but those to tenants, whose rows stay.
def foreignKeys : List ForeignKey := [
  reference "agents" "user_id" "users" .cascade,
  reference "contacts" "company_id" "companies" .setNull,
  reference "ticket_types" "default_group_id" "groups" .setNull,
  ⟨"fk_ticket_types_default_sla_policy", "ticket_types", "default_sla_policy_id", "sla_policies", .setNull⟩,
  reference "tickets" "contact_id" "contacts" .noAction,
  reference "tickets" "ticket_type_id" "ticket_types" .noAction,
  reference "tickets" "group_id" "groups" .noAction,
  reference "tickets" "agent_id" "agents" .noAction,
  reference "tickets" "resource_id" "resources" .noAction,
  ⟨"fk_tickets_sla_policy", "tickets", "sla_policy_id", "sla_policies", .setNull⟩,
  reference "tickets" "merged_into_id" "tickets" .setNull,
  reference "ticket_messages" "ticket_id" "tickets" .cascade,
  reference "ticket_todos" "ticket_id" "tickets" .cascade,
  reference "ticket_time_logs" "ticket_id" "tickets" .cascade,
  reference "ticket_time_logs" "agent_id" "agents" .noAction,
  reference "ticket_activities" "ticket_id" "tickets" .cascade,
  reference "ticket_activities" "actor_agent_id" "agents" .setNull,
  reference "ticket_attachments" "ticket_message_id" "ticket_messages" .cascade,
  reference "ticket_attachments" "ticket_id" "tickets" .cascade,
  reference "scenarios" "agent_id" "agents" .cascade,
  reference "canned_response_folders" "agent_id" "agents" .cascade,
  reference "canned_responses" "folder_id" "canned_response_folders" .setNull,
  reference "monitors" "resource_id" "resources" .cascade,
  reference "monitor_checks" "monitor_id" "monitors" .cascade,
  reference "alert_rules" "monitor_id" "monitors" .cascade,
  reference "alert_rules" "escalation_policy_id" "escalation_policies" .setNull,
  reference "alerts" "monitor_id" "monitors" .cascade,
  reference "alerts" "alert_rule_id" "alert_rules" .setNull,
  reference "alerts" "ticket_id" "tickets" .setNull,
  reference "alerts" "resource_id" "resources" .setNull,
  reference "alerts" "cost_budget_id" "cost_budgets" .setNull,
  reference "agent_tokens" "resource_id" "resources" .cascade,
  reference "downtime_events" "resource_id" "resources" .cascade,
  reference "downtime_events" "monitor_id" "monitors" .setNull,
  reference "cost_line_items" "cloud_credential_id" "cloud_credentials" .cascade,
  reference "cost_line_items" "resource_id" "resources" .setNull,
  reference "cost_budgets" "cloud_credential_id" "cloud_credentials" .cascade,
  reference "rightsizing_recommendations" "resource_id" "resources" .cascade,
  reference "rightsizing_recommendations" "ticket_id" "tickets" .setNull,
  reference "cost_savings_log" "resource_id" "resources" .cascade,
  reference "cost_savings_log" "recommendation_id" "rightsizing_recommendations" .setNull,
  reference "cost_savings_log" "ticket_id" "tickets" .setNull,
  reference "resources" "cloud_credential_id" "cloud_credentials" .setNull,
  reference "automation_rule_applications" "automation_rule_id" "automation_rules" .cascade,
  reference "automation_rule_applications" "ticket_id" "tickets" .cascade,
  reference "ticket_presence" "ticket_id" "tickets" .cascade,
  reference "ticket_presence" "agent_id" "agents" .cascade,
  reference "ticket_views" "agent_id" "agents" .cascade,
  reference "ticket_satisfaction_ratings" "ticket_id" "tickets" .cascade,
  reference "ticket_satisfaction_ratings" "contact_id" "contacts" .cascade,
  reference "cost_anomalies" "cloud_credential_id" "cloud_credentials" .cascade,
  reference "disk_forecasts" "monitor_id" "monitors" .cascade,
  reference "disk_forecasts" "resource_id" "resources" .setNull,
  reference "admin_audit_log" "actor_user_id" "users" .setNull,
  reference "ticket_links" "from_ticket_id" "tickets" .cascade,
  reference "ticket_links" "to_ticket_id" "tickets" .cascade,
  reference "ticket_watchers" "ticket_id" "tickets" .cascade,
  reference "ticket_watchers" "agent_id" "agents" .cascade,
  reference "solutions" "source_ticket_id" "tickets" .setNull,
  reference "password_reset_tokens" "user_id" "users" .cascade,
  reference "chat_sessions" "contact_id" "contacts" .setNull,
  reference "chat_sessions" "assigned_agent_id" "agents" .setNull,
  reference "chat_messages" "chat_session_id" "chat_sessions" .cascade,
  reference "agent_skills" "agent_id" "agents" .cascade,
  reference "group_assignment_cursor" "group_id" "groups" .cascade,
  reference "status_page_monitors" "status_page_id" "status_pages" .cascade,
  reference "status_page_monitors" "monitor_id" "monitors" .cascade,
  reference "commitments" "cloud_credential_id" "cloud_credentials" .cascade,
  reference "commitment_recommendations" "cloud_credential_id" "cloud_credentials" .cascade,
  reference "synthetic_run_steps" "monitor_check_id" "monitor_checks" .cascade,
  reference "log_entries" "log_source_id" "log_sources" .cascade,
  reference "log_alert_rules" "log_source_id" "log_sources" .cascade,
  reference "log_alert_rules" "escalation_policy_id" "escalation_policies" .setNull,
  reference "apm_spans" "trace_id" "apm_traces" .cascade,
  reference "rum_events" "rum_app_key_id" "rum_app_keys" .cascade,
  reference "network_interface_samples" "network_device_id" "network_devices" .cascade,
  reference "ticket_ai_triage" "ticket_id" "tickets" .cascade,
  reference "ticket_similar_suggestions" "ticket_id" "tickets" .cascade,
  reference "ticket_similar_suggestions" "similar_ticket_id" "tickets" .cascade,
  reference "kb_articles" "created_by" "agents" .noAction,
  reference "ask_messages" "session_id" "ask_sessions" .cascade]

def keysOf (table : String) : List ForeignKey :=
  foreignKeys.filter fun key => key.table = table

-- The columns without which the services' own inserts and updates fail.
def requiredColumns : String → List String
  | "companies" | "ticket_types" | "contacts" | "canned_response_folders" => ["name"]
  | "groups" => ["name", "assignment_strategy"]
  | "users" => ["email", "name", "password_hash"]
  | "agents" => ["user_id", "group_ids", "is_active"]
  | "canned_responses" => ["title", "body"]
  | "solutions" => ["title", "body", "is_published"]
  | "scenarios" => ["name", "actions"]
  | "ticket_views" => ["name", "filters"]
  | "sla_policies" => ["name", "first_response_target_minutes", "resolution_target_minutes", "business_hours_only"]
  | "ticket_todos" => ["ticket_id", "body", "is_done"]
  | "ticket_time_logs" => ["ticket_id", "minutes"]
  | "ticket_custom_field_defs" => ["key", "label", "field_type", "options", "is_required", "is_active", "position"]
  | "on_call_schedules" => ["name", "entries"]
  | "escalation_policies" => ["name", "steps"]
  | "notification_templates" => ["channel", "event_type", "body", "is_default"]
  | "resources" => ["name", "resource_type", "tags"]
  | "downtime_events" => ["resource_id", "reason"]
  | _ => []

def columnsKey (columns : List String) (row : String → SqlValue) : Option (List SqlValue) :=
  some (columns.map row)

-- The unique indexes of the written tables; each has the tenant as its first column.
def uniqueKeys : List (UniqueKey SqlValue) := [
  ⟨"users_tenant_id_email_key", "users", columnsKey ["email"]⟩,
  ⟨"agents_tenant_id_user_id_key", "agents", columnsKey ["user_id"]⟩,
  ⟨"idx_ticket_custom_field_defs_key", "ticket_custom_field_defs", columnsKey ["key"]⟩,
  ⟨"idx_notification_templates_one_default", "notification_templates", fun row =>
    if row "is_default" = .boolean true then columnsKey ["channel", "event_type"] row else none⟩]

@[reducible] def schema : Schema Uuid SqlValue where
  null := .null
  reference := SqlValue.reference
  reference_null := rfl
  notNull := requiredColumns
  uniqueKeys
  foreignKeys

abbrev AdminRow := Row Uuid Uuid SqlValue

abbrev AdminProg := Prog Uuid Uuid SqlValue ServiceError (List AdminRow)

def Violation.message : Violation → String
  | .notNull table column =>
      s!"null value in column \"{column}\" of relation \"{table}\" violates not-null constraint"
  | .unique constraint => s!"duplicate key value violates unique constraint \"{constraint}\""
  | .missing key =>
      s!"insert or update on table \"{key.table}\" violates foreign key constraint \"{key.constraint}\""
  | .referenced key => s!"update or delete on table \"{key.target}\" violates foreign key constraint " ++
      s!"\"{key.constraint}\" on table \"{key.table}\""

def queryFailed (violation : Violation) : ServiceError := .error (Violation.message violation)

-- A catch that turns one error code into an exception and rethrows the others.
def onCode (code : String) (error : ServiceError) (violation : Violation) : ServiceError :=
  if violation.code = code then error else queryFailed violation

section Fields

variable {α : Type} (toSql : α → SqlValue)

-- `if (dto.field !== undefined) assign(..)`, `dto.field ?? null` and `dto.field ?? default`.
def assigned : Patch α → Option SqlValue
  | .undefined => none
  | .null => some .null
  | .value value => some (toSql value)

def orNull (field : Patch α) : SqlValue := (assigned toSql field).getD .null

def orElse (default : α) : Patch α → SqlValue
  | .undefined | .null => toSql default
  | .value value => toSql value

-- JSON.stringify makes of null the JSON value null, which is no SQL NULL.
def assignedJson (toDocument : α → Document) : Patch α → Option SqlValue
  | .undefined => none
  | .null => some (.json (.object "null"))
  | .value value => some (.json (toDocument value))

end Fields

-- What an UPDATE sets, under the numbers of its parameters.
inductive SetClause where
  | assign (column : String) (placeholder : Nat)
  | now (column : String)

structure Assignments where
  sets : List SetClause := []
  params : List SqlValue := []

def Assignments.assign (assignments : Assignments) (column : String) (value : SqlValue) : Assignments where
  params := assignments.params ++ [value]
  sets := assignments.sets ++ [.assign column (assignments.params.length + 1)]

-- The fields that were sent, in the order the service asks for them.
def assignGiven (assignments : Assignments) (fields : List (String × Option SqlValue)) : Assignments :=
  fields.foldl (fun assignments field => match field.2 with
    | none => assignments
    | some value => assignments.assign field.1 value) assignments

def param (params : List SqlValue) (placeholder : Nat) : SqlValue :=
  (params[placeholder - 1]?).getD .null

def SetClause.apply (params : List SqlValue) (now : Nat) (columns : String → SqlValue) :
    SetClause → String → SqlValue
  | .assign column placeholder => Function.update columns column (param params placeholder)
  | .now column => Function.update columns column (.timestamp now)

def applySets (sets : List SetClause) (params : List SqlValue) (now : Nat) (columns : String → SqlValue) :
    String → SqlValue :=
  sets.foldl (SetClause.apply params now) columns

section Statements

variable (now : Nat)

def isRow (table : String) (id : Uuid) (row : AdminRow) : Bool := row.table = table && row.id = id

-- A row of a result with one more column.
def withColumn (column : String) (value : SqlValue) (row : AdminRow) : AdminRow :=
  { row with columns := Function.update row.columns column value }

-- A SELECT, and the exception when it finds no row.
def existing (hits : AdminRow → Bool) (error : ServiceError) (next : AdminProg) : AdminProg :=
  .select fun rows => if rows.any hits then next else .throw error

def found (error : ServiceError) (rows : List AdminRow) : AdminProg :=
  if rows.isEmpty then .throw error else .ret rows

def getById (table label : String) (id : Uuid) : AdminProg :=
  .select fun rows => found (.notFound s!"{label} {id} not found") (rows.filter (isRow table id))

-- The order the database's collation has for the values of a column.
def selectAll (table : String) (before : AdminRow → AdminRow → Bool) : AdminProg :=
  .select fun rows => .ret ((rows.filter fun row => row.table = table).mergeSort before)

def assertBelongsToTenant (table : String) (id : Uuid) (label : String) (next : AdminProg) : AdminProg :=
  existing (isRow table id) (.badRequest s!"{label} {id} not found for this tenant") next

-- The check is made of a field that was sent and is not null.
def assertGiven (table label : String) (field : Patch Uuid) (next : AdminProg) : AdminProg :=
  match field with
  | .undefined | .null => next
  | .value id => assertBelongsToTenant table id label next

def columnsOf (values : List (String × SqlValue)) (column : String) : SqlValue :=
  (values.lookup column).getD .null

-- INSERT .. RETURNING *: the columns the statement does not name get their defaults.
def insertInto (tenantId : Uuid) (table : String) (id : Uuid) (values defaults : List (String × SqlValue))
    (failed : Violation → ServiceError) (next : AdminRow → AdminProg) : AdminProg :=
  .insert table id (columnsOf (values ++ defaults)) failed
    (next ⟨table, id, tenantId, columnsOf (values ++ defaults)⟩)

def created (row : AdminRow) : AdminProg := .ret [row]

def Assignments.stamped (assignments : Assignments) (stamp : List String) : Assignments :=
  { assignments with sets := assignments.sets ++ stamp.map .now }

-- params.push(id), then UPDATE .. WHERE id = $n RETURNING *.
def updateById (table : String) (id : Uuid) (assignments : Assignments) (failed : Violation → ServiceError)
    (next : List AdminRow → AdminProg) : AdminProg :=
  let params := assignments.params ++ [.uuid id]
  .update (fun row => row.table = table && .uuid row.id = param params params.length)
    (applySets assignments.sets params now) failed next

-- The clauses some services start with and those some end with set a column to now().
def patched (lead : List String) (fields : List (String × Option SqlValue)) : Assignments :=
  assignGiven { sets := lead.map .now } fields

-- The rest of an update, once the row is found and the references are checked.
def patchById (table : String) (id : Uuid) (lead : List String) (fields : List (String × Option SqlValue))
    (stamp : List String) (failed : Violation → ServiceError) (next : List AdminRow → AdminProg) : AdminProg :=
  if (patched lead fields).sets.isEmpty then .select fun rows => next (rows.filter (isRow table id))
  else updateById now table id ((patched lead fields).stamped stamp) failed next

def removeRows (hits : AdminRow → Bool) (error : ServiceError) (failed : Violation → ServiceError) : AdminProg :=
  .delete hits failed fun rows => if rows.isEmpty then .throw error else .ret []

end Statements

-- The assignments an UPDATE makes are those of the fields that were sent.
section Assigned

variable {assignments : Assignments} {fields : List (String × Option SqlValue)} {params : List SqlValue}
  (now : Nat) (columns : String → SqlValue)

def assignFields (fields : List (String × Option SqlValue)) (columns : String → SqlValue) : String → SqlValue :=
  fields.foldl (fun columns field => match field.2 with
    | none => columns
    | some value => Function.update columns field.1 value) columns

-- The numbers in the clauses are those of parameters already there.
def Assignments.Numbered (assignments : Assignments) : Prop :=
  ∀ column placeholder, .assign column placeholder ∈ assignments.sets →
    0 < placeholder ∧ placeholder ≤ assignments.params.length

theorem param_append {placeholder : Nat} (h : 0 < placeholder ∧ placeholder ≤ params.length) (more : List SqlValue) :
    param (params ++ more) placeholder = param params placeholder := by
  have hlt : placeholder - 1 < params.length := by omega
  rw [param, param, List.getElem?_append_left hlt]

theorem param_last (value : SqlValue) (more : List SqlValue) :
    param (params ++ value :: more) (params.length + 1) = value := by
  simp [param]

theorem Assignments.Numbered.applySets (h : assignments.Numbered) (more : List SqlValue) :
    applySets assignments.sets (assignments.params ++ more) now columns =
      applySets assignments.sets assignments.params now columns := by
  apply List.foldl_ext
  intro columns clause hclause
  cases clause with
  | assign column placeholder => simp only [SetClause.apply, param_append (h column placeholder hclause)]
  | now column => rfl

theorem Assignments.Numbered.assign (h : assignments.Numbered) (column : String) (value : SqlValue) :
    (assignments.assign column value).Numbered := by
  intro other placeholder hmem
  simp only [Assignments.assign, List.mem_append, List.mem_singleton, SetClause.assign.injEq,
    List.length_append, List.length_singleton] at hmem ⊢
  rcases hmem with hold | ⟨-, rfl⟩
  · have := h other placeholder hold
    omega
  · omega

theorem Assignments.Numbered.applySets_assign (h : assignments.Numbered) (column : String) (value : SqlValue) :
    Admin.applySets (assignments.assign column value).sets (assignments.assign column value).params now columns =
      Function.update (Admin.applySets assignments.sets assignments.params now columns) column value := by
  have hkept := h.applySets now columns [value]
  simp only [Admin.applySets, Assignments.assign, List.foldl_append, List.foldl_cons, List.foldl_nil] at hkept ⊢
  rw [hkept, SetClause.apply, param_last]

theorem Assignments.Numbered.assignGiven (h : assignments.Numbered) (fields : List (String × Option SqlValue)) :
    (assignGiven assignments fields).Numbered := by
  induction fields generalizing assignments with
  | nil => exact h
  | cons field rest ih =>
      obtain ⟨column, value?⟩ := field
      cases value? with
      | none => exact ih h
      | some value => exact ih (h.assign column value)

theorem Assignments.Numbered.applySets_assignGiven (h : assignments.Numbered)
    (fields : List (String × Option SqlValue)) :
    Admin.applySets (Admin.assignGiven assignments fields).sets (Admin.assignGiven assignments fields).params now
        columns =
      assignFields fields (Admin.applySets assignments.sets assignments.params now columns) := by
  induction fields generalizing assignments with
  | nil => rfl
  | cons field rest ih =>
      obtain ⟨column, value?⟩ := field
      cases value? with
      | none => exact ih h
      | some value =>
          refine (ih (h.assign column value)).trans ?_
          rw [h.applySets_assign]
          rfl

theorem numbered_lead (lead : List String) : Assignments.Numbered { sets := lead.map .now } := by
  intro column placeholder h
  obtain ⟨_, -, h⟩ := List.mem_map.mp h
  cases h

-- Each column keeps its value or has the one of a field.
theorem assignFields_cases (column : String) : assignFields fields columns column = columns column ∨
    (column, some (assignFields fields columns column)) ∈ fields := by
  induction fields generalizing columns with
  | nil => exact .inl rfl
  | cons field rest ih =>
      obtain ⟨other, value?⟩ := field
      cases value? with
      | none => exact (ih columns).imp id (List.mem_cons_of_mem _)
      | some value =>
          rcases ih (Function.update columns other value) with h | h
          · by_cases hcolumn : column = other
            · subst hcolumn
              rw [Function.update_self] at h
              refine .inr ?_
              change (column, some (assignFields rest (Function.update columns column value) column)) ∈ _
              rw [h]
              exact List.mem_cons_self
            · rw [Function.update_of_ne hcolumn] at h
              exact .inl h
          · exact .inr (List.mem_cons_of_mem _ h)

theorem lookup_of_mem (hnodup : (fields.map Prod.fst).Nodup) {field : String × Option SqlValue}
    (h : field ∈ fields) : fields.lookup field.1 = some field.2 := by
  induction fields with
  | nil => cases h
  | cons head rest ih =>
      obtain ⟨hnotin, hnodup⟩ := List.nodup_cons.mp hnodup
      rcases List.mem_cons.mp h with rfl | hrest
      · rw [List.lookup_cons_self]
      · have hne : (field.1 == head.1) = false := by
          rw [beq_eq_false_iff_ne]
          exact fun heq => hnotin (heq ▸ List.mem_map_of_mem hrest)
        rw [List.lookup_cons, hne]
        exact ih hnodup hrest

theorem applySets_stamp (stamp : List String) (column : String) :
    applySets (stamp.map .now) params now columns column = columns column ∨
      applySets (stamp.map .now) params now columns column = .timestamp now := by
  induction stamp generalizing columns with
  | nil => exact .inl rfl
  | cons other rest ih =>
      rcases ih (Function.update columns other (.timestamp now)) with h | h
      · by_cases hcolumn : column = other
        · subst hcolumn
          rw [Function.update_self] at h
          exact .inr h
        · rw [Function.update_of_ne hcolumn] at h
          exact .inl h
      · exact .inr h

-- The statement sets what the fields say and the stamped columns, whatever parameters follow.
theorem applySets_patched (lead stamp : List String) (more : List SqlValue) :
    applySets ((patched lead fields).stamped stamp).sets ((patched lead fields).params ++ more) now columns =
      applySets (stamp.map .now) ((patched lead fields).params ++ more) now
        (assignFields fields (applySets (lead.map .now) [] now columns)) := by
  have hgiven := (numbered_lead lead).applySets_assignGiven now columns fields
  have hkept := ((numbered_lead lead).assignGiven fields).applySets now columns more
  rw [hgiven] at hkept
  rw [Assignments.stamped, applySets, List.foldl_append]
  exact congrArg (List.foldl _ · _) hkept

theorem reference_stamp {stamp : List String} {column : String} {target : Uuid}
    (h : (applySets (stamp.map .now) params now columns column).reference = some target) :
    (columns column).reference = some target := by
  rcases applySets_stamp now columns stamp column with hset | hset
  · exact hset ▸ h
  · rw [hset] at h
    cases h

theorem reference_patched {lead stamp : List String} {more : List SqlValue} {column : String} {target : Uuid}
    (h : (applySets ((patched lead fields).stamped stamp).sets ((patched lead fields).params ++ more) now
      columns column).reference = some target) :
    (columns column).reference = some target ∨
      ∃ value, (column, some value) ∈ fields ∧ value.reference = some target := by
  rw [applySets_patched] at h
  have hfields := reference_stamp _ _ h
  rcases assignFields_cases (applySets (lead.map .now) [] now columns) column with hkept | hfield
  · rw [hkept] at hfields
    exact .inl (reference_stamp _ _ hfields)
  · exact .inr ⟨_, hfield, hfields⟩

-- The last parameter is the id the WHERE clause asks for.
theorem updateById_eq (table : String) (id : Uuid) (failed : Violation → ServiceError)
    (next : List AdminRow → AdminProg) : updateById now table id assignments failed next =
      .update (isRow table id) (applySets assignments.sets (assignments.params ++ [SqlValue.uuid id]) now)
        failed next := by
  have hlast : param (assignments.params ++ [SqlValue.uuid id]) (assignments.params.length + 1) = .uuid id :=
    param_last (.uuid id) []
  have hhits : (fun row : AdminRow => decide (row.table = table) && decide (SqlValue.uuid row.id =
      param (assignments.params ++ [.uuid id]) (assignments.params.length + 1))) = isRow table id := by
    funext row
    simp only [hlast, SqlValue.uuid.injEq, isRow]
  rw [updateById, List.length_append, List.length_singleton]
  exact congrArg (Prog.update · _ failed next) hhits

end Assigned

-- The building blocks write keys and references of their tenant alone.
section Kept

variable {tenantId : Uuid} {db : List AdminRow} {table : String} {id : Uuid} {error : ServiceError}
  {hits : AdminRow → Bool} {failed : Violation → ServiceError}

theorem keeps_existing {next : AdminProg}
    (h : (∃ row ∈ visible tenantId db, hits row = true) → Keeps schema tenantId next db) :
    Keeps schema tenantId (existing hits error next) db := by
  change Keeps schema tenantId (if (visible tenantId db).any hits then next else .throw error) db
  split
  · rename_i hany
    exact h (List.any_eq_true.mp hany)
  · trivial

theorem keeps_assertBelongsToTenant {label : String} {next : AdminProg} (hs : Sound schema db)
    (h : Own tenantId db table id → Keeps schema tenantId next db) :
    Keeps schema tenantId (assertBelongsToTenant table id label next) db := by
  apply keeps_existing
  rintro ⟨row, hrow, hkey⟩
  simp only [isRow, Bool.and_eq_true, decide_eq_true_eq] at hkey
  exact h (Own.of_visible hs.keys ⟨row, hrow, hkey⟩)

theorem keeps_assertGiven {field : Patch Uuid} {label : String} {next : AdminProg} (hs : Sound schema db)
    (h : (∀ id, field = .value id → Own tenantId db table id) → Keeps schema tenantId next db) :
    Keeps schema tenantId (assertGiven table label field next) db := by
  cases field with
  | undefined => exact h nofun
  | null => exact h nofun
  | value id =>
      refine keeps_assertBelongsToTenant hs fun hown => h fun other hother => ?_
      cases hother
      exact hown

theorem keeps_found {rows : List AdminRow} : Keeps schema tenantId (found error rows) db := by
  unfold found
  split
  · trivial
  · trivial

theorem keeps_insertInto {values defaults : List (String × SqlValue)} {next : AdminRow → AdminProg}
    (hs : Sound schema db) (hown : Own tenantId db table id)
    (h : ∀ key ∈ keysOf table, ∀ target, (columnsOf (values ++ defaults) key.column).reference = some target →
      Own tenantId db key.target target)
    (hnext : ∀ row : AdminRow, row.table = table → row.id = id → row.tenant = tenantId →
      Sound schema (db ++ [row]) → Keeps schema tenantId (next row) (db ++ [row])) :
    Keeps schema tenantId (insertInto tenantId table id values defaults failed next) db := by
  have href : OwnReferences schema tenantId db table (columnsOf (values ++ defaults)) := by
    intro key hkey htable target htarget
    exact h key (List.mem_filter.mpr ⟨hkey, by simpa using htable⟩) target htarget
  refine ⟨hown, href, fun after hok => ?_⟩
  have hsound := (insertRow_sound hs rfl href hok).1
  obtain ⟨rfl, -⟩ := insertRow_ok hok
  exact hnext _ rfl rfl rfl hsound

theorem keeps_removeRows : Keeps schema tenantId (removeRows hits error failed) db := by
  intro after _
  dsimp only
  split
  · trivial
  · trivial

theorem keeps_patchById {now : Nat} {lead stamp : List String} {fields : List (String × Option SqlValue)}
    {next : List AdminRow → AdminProg} (hs : Sound schema db) (hnodup : (fields.map Prod.fst).Nodup)
    (h : ∀ key ∈ keysOf table, ∀ value, fields.lookup key.column = some (some value) → ∀ target,
      value.reference = some target → Own tenantId db key.target target)
    (hnext : ∀ rows after, Sound schema after → Keeps schema tenantId (next rows) after) :
    Keeps schema tenantId (patchById now table id lead fields stamp failed next) db := by
  unfold patchById
  split
  · exact hnext _ db hs
  · rw [updateById_eq]
    have href : ∀ row ∈ db, targeted tenantId (isRow table id) row = true →
        OwnReferences schema tenantId db row.table (applySets ((patched lead fields).stamped stamp).sets
          ((patched lead fields).params ++ [SqlValue.uuid id]) now row.columns) := by
      intro row hrow hit key hkey htable target htarget
      simp only [targeted, isRow, Bool.and_eq_true, decide_eq_true_eq] at hit
      obtain ⟨rfl, rfl, -⟩ := hit
      rcases reference_patched _ _ htarget with hold | ⟨value, hfield, hvalue⟩
      · exact hs.ownReferences hrow key hkey htable target hold
      · exact h key (List.mem_filter.mpr ⟨hkey, by simpa using htable⟩) value (lookup_of_mem hnodup hfield) target
          hvalue
    exact ⟨href, fun after hok => hnext _ after (updateRows_sound hs href hok).1⟩

end Kept

end CloudOps.Platform.Admin
