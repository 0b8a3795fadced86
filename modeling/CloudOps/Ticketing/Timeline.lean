import CloudOps.ChangeLog
import CloudOps.Ticketing.HelpDeskSystem

namespace CloudOps.Ticketing

open CloudOps.ReadCommitted CloudOps.Transaction CloudOps.ChangeLog

variable (env : Environment)

-- The columns whose changes ticket_activities is to tell.
inductive TrackedField where
  | assignable (field : ActionField)
  | ticketTypeId
  deriving DecidableEq

def TrackedField.column : TrackedField → String
  | assignable field => field.column
  | ticketTypeId => "ticket_type_id"

def TrackedField.read (ticket : Ticket) : TrackedField → Option String
  | assignable field => field.read env ticket
  | ticketTypeId => ticket.ticketTypeId.map env.uuidText

-- The changes of a ticket's column that the rows tell, in their order.
def changesOf (activities : List TicketActivity) (id : Uuid) (field : TrackedField) :
    List (Option String × Option String) :=
  (activities.filter fun activity => activity.ticketId = id && activity.field = field.column).map
    fun activity => (activity.oldValue, activity.newValue)

theorem TrackedField.column_injective {first second : TrackedField} (h : first.column = second.column) :
    first = second := by
  cases first with
  | ticketTypeId =>
      cases second with
      | ticketTypeId => rfl
      | assignable other => cases other <;> simp [column, ActionField.column] at h
  | assignable field =>
      cases second with
      | ticketTypeId => cases field <;> simp [column, ActionField.column] at h
      | assignable other =>
          cases field <;> cases other <;> simp [column, ActionField.column] at h <;> rfl

theorem changesOf_append (first second : List TicketActivity) (id : Uuid) (field : TrackedField) :
    changesOf (first ++ second) id field = changesOf first id field ++ changesOf second id field := by
  simp only [changesOf, List.filter_append, List.map_append]

-- Rows of other tickets tell nothing.
theorem changesOf_of_forall_ne {activities : List TicketActivity} {id : Uuid}
    (h : ∀ activity ∈ activities, activity.ticketId ≠ id) (field : TrackedField) :
    changesOf activities id field = [] := by
  unfold changesOf
  rw [List.map_eq_nil_iff, List.filter_eq_nil_iff]
  intro activity hactivity
  simp [h activity hactivity]

-- What every ticket's timeline has, with the rows the tickets were inserted with, and
-- that there is no row of a ticket that there is not.
structure Logged (inserted : Table Uuid Ticket) (store : TicketStore) : Prop where
  known : ∀ activity ∈ store.activities, activity.ticketId ∈ store.tickets
  replays : ∀ id row, store.tickets.lookup id = some row → ∃ first, inserted.lookup id = some first ∧
    ∀ field : TrackedField,
      Replays (field.read env first) (changesOf store.activities id field) (field.read env row)

-- The rows a write adds are exactly those of the changes it makes.
structure Logs (id : Uuid) (row written : Ticket) (added : List TicketActivity) : Prop where
  own : ∀ activity ∈ added, activity.ticketId = id
  entries : ∀ field : TrackedField,
    changesOf added id field = entry (field.read env row) (field.read env written)

variable {env} {inserted : Table Uuid Ticket} {store after : TicketStore}

theorem Logs.none {row written : Ticket} (h : ∀ field : TrackedField, field.read env written = field.read env row)
    (id : Uuid) : Logs env id row written [] := by
  refine ⟨by simp, fun field => ?_⟩
  rw [h field]
  simp [changesOf, entry]

theorem Logged.congr (h : Logged env inserted store) (htickets : after.tickets = store.tickets)
    (hactivities : after.activities = store.activities) : Logged env inserted after := by
  refine ⟨?_, ?_⟩
  · rw [htickets, hactivities]
    exact h.known
  · rw [htickets, hactivities]
    exact h.replays

-- A write that logs what it changes keeps the timelines.
theorem Logged.write (h : Logged env inserted store) {id : Uuid} {row written : Ticket}
    {added : List TicketActivity} (hrow : store.tickets.lookup id = some row)
    (htickets : after.tickets = store.tickets.insert id written)
    (hactivities : after.activities = store.activities ++ added) (hlogs : Logs env id row written added) :
    Logged env inserted after := by
  refine ⟨?_, ?_⟩
  · intro activity hactivity
    rw [hactivities, List.mem_append] at hactivity
    rw [htickets, AList.mem_insert]
    rcases hactivity with hold | hnew
    · exact .inr (h.known activity hold)
    · exact .inl (hlogs.own activity hnew)
  · intro other ticket hl
    rw [htickets, Table.lookup_insert_eq] at hl
    by_cases hsame : other = id
    · subst hsame
      rw [if_pos rfl] at hl
      obtain rfl := Option.some.inj hl
      obtain ⟨first, hfirst, hreplays⟩ := h.replays other row hrow
      refine ⟨first, hfirst, fun field => ?_⟩
      rw [hactivities, changesOf_append, hlogs.entries field]
      exact (hreplays field).append_entry _
    · rw [if_neg hsame] at hl
      obtain ⟨first, hfirst, hreplays⟩ := h.replays other ticket hl
      refine ⟨first, hfirst, fun field => ?_⟩
      have hforeign : changesOf added other field = [] :=
        changesOf_of_forall_ne (fun activity hactivity he =>
          hsame (he.symm.trans (hlogs.own activity hactivity))) field
      rw [hactivities, changesOf_append, hforeign, List.append_nil]
      exact hreplays field

-- A new ticket has no timeline yet.
theorem Logged.insert (h : Logged env inserted store) {id : Uuid} (hfree : store.tickets.lookup id = none)
    (row : Ticket) : Logged env (inserted.insert id row) (putTicket id row store) := by
  have hnotMem : id ∉ store.tickets := AList.lookup_eq_none.mp hfree
  refine ⟨?_, ?_⟩
  · intro activity hactivity
    rw [putTicket, AList.mem_insert]
    exact .inr (h.known activity hactivity)
  · intro other ticket hl
    simp only [putTicket, Table.lookup_insert_eq] at hl ⊢
    by_cases hsame : other = id
    · subst hsame
      rw [if_pos rfl] at hl
      obtain rfl := Option.some.inj hl
      refine ⟨row, if_pos rfl, fun field => ?_⟩
      have hforeign : ∀ activity ∈ store.activities, activity.ticketId ≠ other := by
        intro activity hactivity he
        exact hnotMem (he ▸ h.known activity hactivity)
      have hempty : changesOf store.activities other field = [] := changesOf_of_forall_ne hforeign field
      rw [hempty]
      rfl
    · rw [if_neg hsame] at hl ⊢
      exact h.replays other ticket hl

-- The text is the one the database shows the id as.
def PlainText (env : Environment) (text : String) : Prop :=
  ∀ id, env.castUuid text = some id → env.uuidText id = text

-- An action that assigns a reference does it by the id's own text.
def AssignsPlainly (env : Environment) (ticket : Ticket) (action : AutomationAction) : Prop :=
  ∀ field, action.type.field = some field → field = .groupId ∨ field = .agentId →
    field.read env ticket ≠ some action.value → PlainText env action.value

theorem Assigned.read_self {now : Nat} {value : String} {field : ActionField} {set : Ticket → Ticket}
    (h : Assigned env now value field set)
    (hplain : field = .groupId ∨ field = .agentId → PlainText env value) (ticket : Ticket) :
    field.read env (set ticket) = some value := by
  cases h with
  | status status htext => exact congrArg some htext
  | priority priority htext => exact congrArg some htext
  | groupId id hid => exact congrArg some (hplain (.inl rfl) id hid)
  | agentId id hid => exact congrArg some (hplain (.inr rfl) id hid)
  | platform platform htext => exact congrArg some htext

theorem Assigned.read_other {now : Nat} {value : String} {field : ActionField} {set : Ticket → Ticket}
    (h : Assigned env now value field set) {other : TrackedField} (hne : other ≠ .assignable field)
    (ticket : Ticket) : other.read env (set ticket) = other.read env ticket := by
  cases other with
  | ticketTypeId => cases h <;> rfl
  | assignable other =>
      have hother : other ≠ field := fun he => hne (congrArg TrackedField.assignable he)
      cases h <;> cases other <;> first | rfl | exact absurd rfl hother

theorem Assigned.logs {now : Nat} {value : String} {field : ActionField} {set : Ticket → Ticket}
    (h : Assigned env now value field set) {ticket : Ticket}
    (hplain : field = .groupId ∨ field = .agentId → PlainText env value)
    (hvalue : field.read env ticket ≠ some value) (id : Uuid) :
    Logs env id ticket (set ticket) [actionActivity env id ticket field value] := by
  refine ⟨by simp [actionActivity], fun other => ?_⟩
  by_cases hsame : other = .assignable field
  · subst hsame
    have hread : (TrackedField.assignable field).read env (set ticket) = some value := h.read_self hplain ticket
    rw [hread]
    simp [changesOf, actionActivity, entry, TrackedField.column, TrackedField.read, hvalue]
  · have hcolumn : field.column ≠ other.column :=
      fun he => hsame (TrackedField.column_injective he.symm)
    rw [h.read_other hsame]
    simp [changesOf, actionActivity, entry, hcolumn]

-- Actions keep the timelines, and hand on the row that stands in the store; they
-- write no other ticket.
structure AtTicket (env : Environment) (inserted : Table Uuid Ticket) (id : Uuid) (base : TicketStore)
    (ticket : Ticket) (store : TicketStore) : Prop where
  logged : Logged env inserted store
  row : store.tickets.lookup id = some ticket
  others : ∀ other, other ≠ id → store.tickets.lookup other = base.tickets.lookup other

theorem AtTicket.put {id : Uuid} {base : TicketStore} {ticket : Ticket}
    (h : AtTicket env inserted id base ticket store) {row : Ticket} (hlogged : Logged env inserted after)
    (htickets : after.tickets = store.tickets.insert id row) : AtTicket env inserted id base row after := by
  refine ⟨hlogged, ?_, fun other hother => ?_⟩
  · rw [htickets, Table.lookup_insert_eq, if_pos rfl]
  · rw [htickets, Table.lookup_insert_eq, if_neg hother]
    exact h.others other hother

theorem atTicket_actions (env : Environment) (inserted : Table Uuid Ticket) (id : Uuid) (base : TicketStore)
    (now : Nat) : ActionsKeep env (AssignsPlainly env) now id (AtTicket env inserted id base) := by
  intro ticket before action row after h hplain hwrite
  cases hwrite with
  | kept hread => exact h
  | assigned field set found hfield hvalue hset hrow =>
      obtain rfl := Option.some.inj (h.row.symm.trans hrow)
      have hlogs := hset.logs (fun hreference => hplain field hfield hreference hvalue) hvalue id
      exact h.put (h.logged.write hrow rfl rfl hlogs) rfl
  | noted hfield => exact ⟨h.logged.congr rfl rfl, h.row, h.others⟩
  | tagged found tag hfield hrow =>
      obtain rfl := Option.some.inj (h.row.symm.trans hrow)
      have hlogs : Logs env id ticket { ticket with tags := ticket.tags ++ [tag], updatedAt := now } [] := by
        refine Logs.none (fun field => ?_) id
        cases field with
        | ticketTypeId => rfl
        | assignable field => cases field <;> rfl
      exact h.put (h.logged.write hrow rfl (List.append_nil _).symm hlogs) rfl

-- A request refers to a row by the id's own text.
def PlainPatch (env : Environment) : Patch String → Prop
  | .undefined | .null => True
  | .value text => PlainText env text

structure PlainRequest (env : Environment) (dto : UpdateTicketDto) : Prop where
  groupId : PlainPatch env dto.groupId
  agentId : PlainPatch env dto.agentId
  ticketTypeId : PlainPatch env dto.ticketTypeId

def loggedChanges (changes : List ActivityChange) (field : TrackedField) :
    List (Option String × Option String) :=
  (changes.filter fun change => change.field = field.column).map
    fun change => (change.oldValue, change.newValue)

theorem changesOf_activityOf (id : Uuid) (actorAgentId : Option Uuid) (changes : List ActivityChange)
    (field : TrackedField) :
    changesOf (changes.map (activityOf id actorAgentId)) id field = loggedChanges changes field := by
  simp only [changesOf, loggedChanges, activityOf, List.filter_map, List.map_map, Function.comp_def,
    decide_true, Bool.true_and]
  rfl

theorem loggedChanges_append (first second : Edits) (field : TrackedField) :
    loggedChanges (first ++ second).changes field =
      loggedChanges first.changes field ++ loggedChanges second.changes field := by
  have hchanges : (first ++ second).changes = first.changes ++ second.changes := rfl
  simp only [hchanges, loggedChanges, List.filter_append, List.map_append]

theorem loggedChanges_trackChange (name : String) (oldValue newValue : Option String) (field : TrackedField) :
    loggedChanges (trackChange name oldValue newValue) field =
      if name = field.column then entry oldValue newValue else [] := by
  unfold trackChange entry
  by_cases hsame : oldValue = newValue
  · simp [hsame, loggedChanges]
  · by_cases hname : name = field.column
    · simp [hsame, hname, loggedChanges]
    · simp [hsame, hname, loggedChanges]

theorem statusEdits_logged (existing : Ticket) (now : Nat) (status : Option TicketStatus) (field : TrackedField) :
    loggedChanges (statusEdits existing now status).changes field = if "status" = field.column then
      entry (some existing.status.text) (some (status.getD existing.status).text) else [] := by
  cases status with
  | none => simp [statusEdits, Edits.none, loggedChanges, entry]
  | some status => exact loggedChanges_trackChange _ _ _ field

theorem priorityEdits_logged (existing : Ticket) (priority : Option TicketPriority) (field : TrackedField) :
    loggedChanges (priorityEdits existing priority).changes field = if "priority" = field.column then
      entry (some existing.priority.text) (some (priority.getD existing.priority).text) else [] := by
  cases priority with
  | none => simp [priorityEdits, Edits.none, loggedChanges, entry]
  | some priority => exact loggedChanges_trackChange _ _ _ field

theorem platformEdits_logged (existing : Ticket) (platform : Patch TicketPlatform) (field : TrackedField) :
    loggedChanges (platformEdits existing platform).changes field = if "platform" = field.column then
      entry (existing.platform.map TicketPlatform.text)
        ((platform.over existing.platform).map TicketPlatform.text) else [] := by
  cases platform with
  | undefined => simp [platformEdits, Edits.none, loggedChanges, entry, Patch.over]
  | null => exact loggedChanges_trackChange _ _ _ field
  | value platform => exact loggedChanges_trackChange _ _ _ field

-- Of a reference that the request gives by the id's own text.
theorem referenceEdits_logged (name : String) (current : Option Uuid) (set : Option Uuid → Ticket → Ticket)
    {patch : Patch String} (hplain : PlainPatch env patch) (field : TrackedField) :
    loggedChanges (referenceEdits env name current set (patch.resolve env)).changes field =
      if name = field.column then entry (current.map env.uuidText)
        ((patchedId (patch.resolve env) current).map env.uuidText) else [] := by
  cases patch with
  | undefined => simp [Patch.resolve, referenceEdits, Edits.none, loggedChanges, entry, patchedId]
  | null => exact loggedChanges_trackChange _ _ _ field
  | value text =>
      cases hid : env.castUuid text with
      | none => simp [Patch.resolve, hid, referenceEdits, Edits.none, loggedChanges, entry, patchedId]
      | some id =>
          have htext : env.uuidText id = text := hplain id hid
          simp only [Patch.resolve, hid, Option.elim_some, referenceEdits, patchedId, Option.map_some, htext]
          exact loggedChanges_trackChange _ _ _ field

theorem customOnly_logged {edits : Edits} (h : edits.CustomOnly) (field : TrackedField) :
    loggedChanges edits.changes field = [] := by
  obtain rfl | ⟨customFields, rfl⟩ := h
  · rfl
  · rfl

-- An update logs the changes that its request makes of the row it finds.
theorem updated_logs {id : String} {dto : UpdateTicketDto} {now : Nat} {key : Uuid} {existing : Ticket}
    {edits : Edits} (hedits : EditsFor env id dto now store key existing edits) (hplain : PlainRequest env dto)
    (actorAgentId : Option Uuid) : Logs env key existing (edits.updated now existing)
      (edits.changes.map (activityOf key actorAgentId)) := by
  obtain ⟨customFields, hrow⟩ := hedits.updated_eq
  obtain ⟨slaPolicyId, firstResponseDueAt, resolutionDueAt, hsla⟩ :=
    withSla_eq (recalculateSla env store existing (dto.ticketTypeId.resolve env)) _
  refine ⟨by simp [activityOf], fun field => ?_⟩
  rw [changesOf_activityOf, hrow, hsla]
  obtain ⟨customEdits, hrun, rfl⟩ := hedits.edits
  have hcustom := (customFieldsEdits_customOnly env existing dto.customFields store _ _ hrun).2
  have htags : loggedChanges (tagsEdits dto.tags).changes field = [] := by cases dto.tags <;> rfl
  have hassignment : ∀ assignment, loggedChanges (slaEdits assignment).changes field = [] := by
    intro assignment
    cases assignment <;> rfl
  simp only [editsOf, loggedChanges_append, statusEdits_logged, priorityEdits_logged, platformEdits_logged,
    referenceEdits_logged _ _ _ hplain.groupId, referenceEdits_logged _ _ _ hplain.agentId,
    referenceEdits_logged _ _ _ hplain.ticketTypeId, htags, hassignment, customOnly_logged hcustom]
  cases field with
  | ticketTypeId => simp [TrackedField.column, TrackedField.read]
  | assignable field =>
      cases field <;> simp [TrackedField.column, TrackedField.read, ActionField.column, ActionField.read]

end CloudOps.Ticketing
