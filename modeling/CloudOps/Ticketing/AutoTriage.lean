import CloudOps.ReadCommitted.Rely
import CloudOps.Ticketing.TicketIntake
import CloudOps.Ticketing.TicketTriage

-- TicketsService.create, the run of TicketTriageService.triageTicket that it starts where the
-- tenant's mode is 'apply' and the model answers, and actions that tag tickets meanwhile.
namespace CloudOps.Ticketing.AutoTriage

open CloudOps.ReadCommitted CloudOps.Ticketing.TicketIntake

deriving instance DecidableEq for TriageAllowlists

variable (env : Environment) (runtime : Runtime) (tenantId : Uuid) (reads : TicketStore)

def asTicket : IntakeRow → Option Ticket
  | .ticket _ _ row => some row
  | _ => none

def asMessage : IntakeRow → Option TicketMessage
  | .message _ _ row => some row
  | _ => none

def ticketOwned : IntakeRow → Option Ticket
  | .ticket owner _ row => if owner = tenantId then some row else none
  | _ => none

def ticketAt (table : Table IntakeKey IntakeRow) (id : Uuid) : Option Ticket :=
  (table.lookup (.generated id)).bind (ticketOwned tenantId)

def ticketOf : IntakeKey → IntakeRow → Bool
  | .generated _, .ticket owner _ _ => owner == tenantId
  | _, _ => false

def ticketWithId (id : Uuid) : IntakeKey → IntakeRow → Bool
  | .generated key, .ticket owner _ _ => key == id && owner == tenantId
  | _, _ => false

def messageOf (ticketId : Uuid) : IntakeKey → IntakeRow → Bool
  | .generated _, .message owner _ row => row.ticketId == ticketId && owner == tenantId
  | _, _ => false

def ticketIn (rows : List (IntakeKey × IntakeRow)) : Option Ticket := rows.findSome? fun row => asTicket row.2

-- `create`, with the id it starts triage with.
def createTicket (dto : CreateTicketDto) (startedAt : Nat) : IntakeProg (Uuid × Ticket) := do
  let contactId ← TicketIntake.contactOf env tenantId reads dto
  let references ← reading reads (createReferences env dto)
  let ticketNumber ← TicketIntake.nextTicketNumber tenantId
  let createdAt ← Prog.dateNow
  let customFields ← reading reads (checkCustomFields env dto.customFields)
  let agentId ← TicketIntake.assigneeOf tenantId reads references.agentId references.groupId dto.requiredSkill
  let ticket :=
    TicketIntake.newTicket env reads dto contactId references ticketNumber createdAt customFields agentId
  let id ← insertGenerated (.ticket tenantId none ticket)
  let result ← runCreationRules env tenantId reads id ticket startedAt
  return (id, result)

-- Of skills and tags the first rows only, in the order the database returns them.
def loadAllowlists (order : ScanOrder String) : IntakeProg TriageAllowlists := do
  let skilled ← Prog.query (ticketOf tenantId)
  let tagged ← Prog.query (ticketOf tenantId)
  let skills := skilled.filterMap fun row => (asTicket row.2).bind Ticket.requiredSkill
  let tags := tagged.flatMap fun row => (asTicket row.2).elim [] Ticket.tags
  return { priorities := TicketPriority.all.map TicketPriority.text
           typeIds := reads.ticketTypes.keys.map env.uuidText
           skills := (order.apply skills.eraseDups).take 50
           tags := (order.apply tags.eraseDups).take 100 }

structure LoadedTicket where
  subject : String
  firstMessage : Option String
  deriving DecidableEq

-- FROM tickets t LEFT JOIN ticket_messages tm ON tm.ticket_id = t.id WHERE t.id = $1
def withMessages (ticketId : Uuid) (key : IntakeKey) (row : IntakeRow) : Bool :=
  ticketWithId tenantId ticketId key row || messageOf tenantId ticketId key row

-- ORDER BY tm.created_at ASC NULLS LAST LIMIT 1
def loadTicket (ticketId : Uuid) : IntakeProg (Option LoadedTicket) := do
  let rows ← Prog.query (withMessages tenantId ticketId)
  let messages := rows.filterMap fun row => asMessage row.2
  let ordered := messages.insertionSort fun first second => first.createdAt ≤ second.createdAt
  return (ticketIn rows).map fun ticket => ⟨ticket.subject, ordered.head?.map TicketMessage.body⟩

-- The UPDATE of the last transaction. The rows it adds to ticket_ai_triage are read by
-- nothing here.
def applySuggestion (ticketId : Uuid) (suggestion : TriageSuggestion) : IntakeProg Bool := do
  let sets ← reading reads (HelpDesk.setSuggested env suggestion)
  if sets.length = 0 then return false
  else do
    let _ ← Prog.updateWhere (.generated ticketId) (ticketWithId tenantId ticketId (.generated ticketId))
      (IntakeRow.onTicket (HelpDesk.applySets sets))
    return true

-- applyAction of an add_tag action, on the row the actions before it have handed on.
def addTag (ticketId : Uuid) (startedAt : Nat) (ticket : Ticket) (value : String) : IntakeProg Ticket := do
  let tag := trim value
  if tag = "" then return ticket
  else if ticket.tags.contains tag then return ticket
  else do
    let updated ← Prog.updateWhere (.generated ticketId) (ticketWithId tenantId ticketId (.generated ticketId))
      (IntakeRow.onTicket fun row => { row with tags := row.tags ++ [tag], updatedAt := startedAt })
    match updated.bind asTicket with
    | some row => return row
    | none => .throw (.error "rows[0] is undefined")

def addTags (ticketId : Uuid) (startedAt : Nat) : List String → Ticket → IntakeProg Ticket
  | [], ticket => return ticket
  | value :: rest, ticket => do addTags ticketId startedAt rest (← addTag tenantId ticketId startedAt ticket value)

-- ScenariosService.apply, as time-based automations do it too.
def applyScenario (ticketId : Uuid) (values : List String) (startedAt : Nat) : IntakeProg Ticket := do
  match ticketIn (← Prog.query (ticketWithId tenantId ticketId)) with
  | none => .throw (.notFound s!"Ticket {ticketId} not found")
  | some ticket => addTags tenantId ticketId startedAt values ticket

-- The UPDATE of a TicketsService.update that names no tags, and the add_tag actions of the
-- rules that match its ticket.
def updateThenRules (ticketId : Uuid) (values : List String) (startedAt : Nat) : IntakeProg Ticket := do
  let updated ← Prog.updateWhere (.generated ticketId) (ticketWithId tenantId ticketId (.generated ticketId))
    (IntakeRow.onTicket fun row => { row with updatedAt := startedAt })
  match updated.bind asTicket with
  | none => .throw (.notFound s!"Ticket {ticketId} not found")
  | some ticket => addTags tenantId ticketId startedAt values ticket

inductive TriageRequest where
  | create (dto : CreateTicketDto)
  | loadAllowlists (ticketId : Uuid) (order : ScanOrder String)
  | loadTicket (ticketId : Uuid)
  | applySuggestion (ticketId : Uuid) (raw : String) (allowlists : TriageAllowlists)
  | applyScenario (ticketId : Uuid) (values : List String)
  | updateThenRules (ticketId : Uuid) (values : List String)

structure TriageCall where
  tenantId : Uuid
  reads : TicketStore
  request : TriageRequest

inductive TriageResult where
  | created (id : Uuid) (ticket : Ticket)
  | allowlists (allowlists : TriageAllowlists)
  | loaded (ticket : Option LoadedTicket)
  | applied (changed : Bool)
  | tagged (ticket : Ticket)

def triageService : Service IntakeKey IntakeRow ServiceError TriageResult TriageCall where
  body call startedAt :=
    match call.request with
    | .create dto => (createTicket env call.tenantId call.reads dto startedAt).map fun made => .created made.1 made.2
    | .loadAllowlists _ order => (loadAllowlists env call.tenantId call.reads order).map .allowlists
    | .loadTicket ticketId => (loadTicket call.tenantId ticketId).map .loaded
    | .applySuggestion ticketId raw allowlists =>
        (applySuggestion env call.tenantId call.reads ticketId
          (HelpDesk.parseSuggestion runtime raw allowlists)).map .applied
    | .applyScenario ticketId values => (applyScenario call.tenantId ticketId values startedAt).map .tagged
    | .updateThenRules ticketId values => (updateThenRules call.tenantId ticketId values startedAt).map .tagged
  conflict := sameNumber

abbrev TriageTable := Table IntakeKey IntakeRow
abbrev TriageWorld := World IntakeKey IntakeRow TriageResult TriageCall
abbrev TriageDb := Db IntakeKey IntakeRow ServiceError TriageResult TriageCall
abbrev TriageTxn := Txn IntakeKey IntakeRow ServiceError TriageResult TriageCall
abbrev TriageEvent := Event IntakeKey IntakeRow TriageCall

def isCreated (ticketId : Uuid) : TriageResult → Bool
  | .created id _ => id == ticketId
  | _ => false

-- The creation of the ticket has called triageTicket: it has run all its statements, and is
-- about to commit or has committed.
def started (db : TriageDb) (tenantId ticketId : Uuid) : Bool :=
  (db.active.rows.any fun other =>
      other.2.call.tenantId == tenantId && other.2.prog.value?.any (isCreated ticketId)) ||
    db.world.returned.any fun done => done.call.tenantId == tenantId && isCreated ticketId done.value

def hasAllowlists (world : TriageWorld) (tenantId ticketId : Uuid) (wanted : TriageAllowlists → Bool) : Bool :=
  world.returned.any fun done =>
    match done.call.request, done.value with
    | .loadAllowlists other _, .allowlists lists =>
        other == ticketId && done.call.tenantId == tenantId && wanted lists
    | _, _ => false

def hasLoaded (world : TriageWorld) (tenantId ticketId : Uuid) : Bool :=
  world.returned.any fun done =>
    match done.call.request, done.value with
    | .loadTicket other, .loaded ticket => other == ticketId && done.call.tenantId == tenantId && ticket.isSome
    | _, _ => false

-- triageTicket makes its calls one after another, the last one with the model's answer to
-- the ticket it has loaded.
def admits (db : TriageDb) : TriageEvent → Bool
  | .begin _ ⟨tenantId, _, .loadAllowlists ticketId _⟩ => started db tenantId ticketId
  | .begin _ ⟨tenantId, _, .loadTicket ticketId⟩ =>
      started db tenantId ticketId && hasAllowlists db.world tenantId ticketId fun _ => true
  | .begin _ ⟨tenantId, _, .applySuggestion ticketId _ allowlists⟩ =>
      hasLoaded db.world tenantId ticketId && hasAllowlists db.world tenantId ticketId (allowlists == ·)
  | .begin .. | .exec .. | .commit _ | .rollback _ | .tick _ => true

def step (db : TriageDb) (event : TriageEvent) : TriageDb :=
  if admits db event then db.step (triageService env runtime) event else db

-- It is what the other modules call a creation.
theorem create_eq (dto : CreateTicketDto) (startedAt : Nat) :
    TicketIntake.create env tenantId reads dto startedAt =
      (createTicket env tenantId reads dto startedAt).map Prod.snd := by
  have hresult : ∀ (prog : IntakeProg Ticket) (id : Uuid),
      (prog >>= fun result => (Prog.ret (id, result) : IntakeProg (Uuid × Ticket)).map Prod.snd) = prog :=
    fun prog _ => prog.map_id
  unfold createTicket
  simp only [Prog.map_bind, Prog.pure_eq, hresult]
  rfl

end CloudOps.Ticketing.AutoTriage
