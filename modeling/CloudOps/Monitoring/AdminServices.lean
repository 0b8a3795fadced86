import CloudOps.Platform.AdminStatements

namespace CloudOps.Platform.Admin

open CloudOps.Monitoring (EscalationStep)
open CloudOps.RowSecurity
open CloudOps.Ticketing (Patch Uuid)

namespace OnCallSchedulesService

structure CreateOnCallScheduleDto where
  name : String
  entries : List OnCallEntry

structure UpdateOnCallScheduleDto where
  name : Patch String
  entries : Patch (List OnCallEntry)

def list (before : AdminRow → AdminRow → Bool) : AdminProg := selectAll "on_call_schedules" before

def create (tenantId newId : Uuid) (now : Nat) (dto : CreateOnCallScheduleDto) : AdminProg :=
  insertInto tenantId "on_call_schedules" newId [("name", .text dto.name), ("entries", .json (.entries dto.entries))]
    [("created_at", .timestamp now), ("updated_at", .timestamp now)] queryFailed created

def update (now : Nat) (id : Uuid) (dto : UpdateOnCallScheduleDto) : AdminProg :=
  existing (isRow "on_call_schedules" id) (.notFound s!"On-call schedule {id} not found") <|
    patchById now "on_call_schedules" id []
      [("name", assigned .text dto.name), ("entries", assignedJson .entries dto.entries)]
      ["updated_at"] queryFailed .ret

def remove (id : Uuid) : AdminProg :=
  removeRows (isRow "on_call_schedules" id) (.notFound s!"On-call schedule {id} not found") queryFailed

end OnCallSchedulesService

namespace EscalationPoliciesService

structure CreateEscalationPolicyDto where
  name : String
  steps : List EscalationStep

structure UpdateEscalationPolicyDto where
  name : Patch String
  steps : Patch (List EscalationStep)

def list (before : AdminRow → AdminRow → Bool) : AdminProg := selectAll "escalation_policies" before

def create (tenantId newId : Uuid) (now : Nat) (dto : CreateEscalationPolicyDto) : AdminProg :=
  insertInto tenantId "escalation_policies" newId [("name", .text dto.name), ("steps", .json (.steps dto.steps))]
    [("created_at", .timestamp now), ("updated_at", .timestamp now)] queryFailed created

def update (now : Nat) (id : Uuid) (dto : UpdateEscalationPolicyDto) : AdminProg :=
  existing (isRow "escalation_policies" id) (.notFound s!"Escalation policy {id} not found") <|
    patchById now "escalation_policies" id []
      [("name", assigned .text dto.name), ("steps", assignedJson .steps dto.steps)]
      ["updated_at"] queryFailed .ret

def remove (id : Uuid) : AdminProg :=
  removeRows (isRow "escalation_policies" id) (.notFound s!"Escalation policy {id} not found") queryFailed

end EscalationPoliciesService

namespace NotificationTemplatesService

structure CreateNotificationTemplateDto where
  channel : String
  eventType : String
  subject : Patch String
  body : String
  isDefault : Patch Bool

structure UpdateNotificationTemplateDto where
  subject : Patch String
  body : Patch String
  isDefault : Patch Bool

def list (before : AdminRow → AdminRow → Bool) : AdminProg := selectAll "notification_templates" before

def create (tenantId newId : Uuid) (now : Nat) (dto : CreateNotificationTemplateDto) : AdminProg :=
  insertInto tenantId "notification_templates" newId
    [("channel", .text dto.channel), ("event_type", .text dto.eventType), ("subject", orNull .text dto.subject),
      ("body", .text dto.body), ("is_default", orElse .boolean false dto.isDefault)]
    [("created_at", .timestamp now), ("updated_at", .timestamp now)]
    (onCode "23505" (.badRequest s!"A default template already exists for {dto.channel}/{dto.eventType}")) created

def update (now : Nat) (id : Uuid) (dto : UpdateNotificationTemplateDto) : AdminProg :=
  existing (isRow "notification_templates" id) (.notFound s!"Notification template {id} not found") <|
    patchById now "notification_templates" id []
      [("subject", assigned .text dto.subject), ("body", assigned .text dto.body),
        ("is_default", assigned .boolean dto.isDefault)]
      ["updated_at"]
      (onCode "23505" (.badRequest "A default template already exists for this channel/event_type")) .ret

def remove (id : Uuid) : AdminProg :=
  removeRows (isRow "notification_templates" id) (.notFound s!"Notification template {id} not found") queryFailed

end NotificationTemplatesService

namespace ResourcesService

structure CreateResourceDto where
  name : String
  resourceType : String
  groupName : Patch String
  tags : Patch String

structure UpdateResourceDto where
  name : Patch String
  groupName : Patch String
  tags : Patch String

def object (text : String) : SqlValue := .json (.object text)

def list (before : AdminRow → AdminRow → Bool) : AdminProg := selectAll "resources" before

def get (id : Uuid) : AdminProg := getById "resources" "Resource" id

def create (tenantId newId : Uuid) (now : Nat) (dto : CreateResourceDto) : AdminProg :=
  insertInto tenantId "resources" newId
    [("name", .text dto.name), ("resource_type", .text dto.resourceType), ("group_name", orNull .text dto.groupName),
      ("tags", orElse object "\x7b\x7d" dto.tags)]
    [("external_ref", object "\x7b\x7d"), ("created_at", .timestamp now), ("updated_at", .timestamp now)]
    queryFailed created

def update (now : Nat) (id : Uuid) (dto : UpdateResourceDto) : AdminProg :=
  existing (isRow "resources" id) (.notFound s!"Resource {id} not found") <|
    patchById now "resources" id []
      [("name", assigned .text dto.name), ("group_name", assigned .text dto.groupName),
        ("tags", assignedJson .object dto.tags)]
      ["updated_at"] queryFailed .ret

def remove (id : Uuid) : AdminProg :=
  removeRows (isRow "resources" id) (.notFound s!"Resource {id} not found") queryFailed

end ResourcesService

namespace DowntimeEventsService

structure CreateDowntimeEventDto where
  resourceId : Uuid
  monitorId : Patch Uuid
  reason : String

def list (before : AdminRow → AdminRow → Bool) : AdminProg := selectAll "downtime_events" before

-- The resource must be the tenant's; the monitor is not asked for.
def create (tenantId newId : Uuid) (now : Nat) (createdBy : Option Uuid) (dto : CreateDowntimeEventDto) : AdminProg :=
  existing (isRow "resources" dto.resourceId) (.notFound s!"Resource {dto.resourceId} not found") <|
    insertInto tenantId "downtime_events" newId
      [("resource_id", .uuid dto.resourceId), ("monitor_id", orNull .uuid dto.monitorId),
        ("reason", .text dto.reason), ("is_manual", .boolean true), ("created_by", (createdBy.map .uuid).getD .null)]
      [("starts_at", .timestamp now), ("created_at", .timestamp now)] queryFailed created

-- UPDATE downtime_events SET ends_at = now() WHERE id = $1
def «end» (now : Nat) (id : Uuid) : AdminProg :=
  .select fun rows => match rows.find? (isRow "downtime_events" id) with
  | none => .throw (.notFound s!"Downtime event {id} not found")
  | some event =>
      if event.columns "ends_at" ≠ .null then .throw (.badRequest s!"Downtime event {id} has already ended")
      else .update (isRow "downtime_events" id) (SetClause.apply [] now · (.now "ends_at")) queryFailed .ret

end DowntimeEventsService

end CloudOps.Platform.Admin
