import CloudOps.Ticketing.FreshdeskMigration
import CloudOps.Ticketing.TicketTriage

namespace CloudOps.Ticketing

open CloudOps.ReadCommitted CloudOps.Transaction

-- The calls that write tickets, of TicketsService and of the services beside it, one
-- after the other.
inductive HelpDeskCall where
  | tickets (call : TicketCall)
  | applyScenario (scenarioId ticketId : String) (now : Nat)
  | sweepTenant (order : ScanOrder (Uuid × Ticket)) (now : Nat)
  | importTicket (ticket : FreshdeskTicket) (context : MigrationContext) (newIds : GeneratedIds)
  | triageTicket (ticketId : Uuid) (reply : AiReply) (order : ScanOrder String)

variable (env : Environment) (runtime : Runtime)

def HelpDesk.step (desk : HelpDesk) : HelpDeskCall → HelpDesk
  | .tickets call => { desk with toTicketStore := Ticketing.step env desk.toTicketStore call }
  | .applyScenario scenarioId ticketId now => commit (applyScenario env scenarioId ticketId now) desk
  | .sweepTenant order now => commit (sweepTenant env order now) desk
  | .importTicket ticket context newIds => commit (importTicket runtime ticket context newIds) desk
  | .triageTicket ticketId reply order => commit (triageTicket env runtime ticketId reply order) desk

-- A property of the ticketing tables that only depends on the rows of tickets.
def AllTickets (good : Ticket → Prop) (store : TicketStore) : Prop :=
  ∀ id ticket, store.tickets.lookup id = some ticket → good ticket

variable {good : Ticket → Prop}

theorem AllTickets.of_tickets {before after : TicketStore} (h : AllTickets good before)
    (htickets : after.tickets = before.tickets) : AllTickets good after := by
  intro id ticket hl
  rw [htickets] at hl
  exact h id ticket hl

theorem AllTickets.insert {store after : TicketStore} (h : AllTickets good store) {id : Uuid} {row : Ticket}
    (htickets : after.tickets = store.tickets.insert id row) (hrow : good row) : AllTickets good after := by
  intro other ticket hl
  rw [htickets, Table.lookup_insert_eq] at hl
  split at hl
  · obtain rfl := Option.some.inj hl
    exact hrow
  · exact h other ticket hl

theorem AllTickets.written {store after : TicketStore} (h : AllTickets good store) {id : Uuid} {row : Ticket}
    (hwritten : Written store id row after) (hrow : good row) : AllTickets good after := by
  rcases hwritten.rest with rfl | rfl
  · exact h
  · exact h.insert rfl hrow

-- The writes of a single row that every call but triage and an update's own comes to.
inductive RowWrite : Ticket → Ticket → Prop where
  | assigned (now : Nat) (value : String) (field : ActionField) (set : Ticket → Ticket) (row : Ticket)
      (hset : Assigned env now value field set) : RowWrite row (set row)
  | tagged (row : Ticket) (tags : List String) (now : Nat) :
      RowWrite row { row with tags := tags, updatedAt := now }
  | merged (row : Ticket) (primaryKey now : Nat) : RowWrite row (mergedRow primaryKey now row)

-- A property of the tickets, under the configuration of the SLA columns, that these
-- writes keep.
structure RowsKeep (inv : TicketStore → Prop) : Prop where
  elsewhere : ∀ {before after}, inv before → Agree TicketStore.tickets before after →
    Agree TicketStore.slaConfig before after → inv after
  written : ∀ store id row written, inv store → store.tickets.lookup id = some row →
    RowWrite env row written → inv (putTicket id written store)

variable {env} {inv : TicketStore → Prop}

theorem RowsKeep.actions (h : RowsKeep env inv) (now : Nat) (id : Uuid) :
    ActionsKeep env (fun _ _ => True) now id fun _ store => inv store := by
  intro ticket before action row after hbefore _ hwrite
  cases hwrite with
  | kept hread => exact hbefore
  | assigned field set row hfield hvalue hset hrow =>
      have hwritten := h.written before id row _ hbefore hrow (.assigned now _ field set row hset)
      exact h.elsewhere hwritten rfl rfl
  | noted hfield => exact h.elsewhere hbefore rfl rfl
  | tagged row tag hfield hrow => exact h.written before id row _ hbefore hrow (.tagged row _ now)

theorem RowsKeep.applyActions (h : RowsKeep env inv) (now : Nat) (id : Uuid)
    (actions : List AutomationAction) (ticket : Ticket) :
    Keeps (Stays inv) (applyActions env now id actions ticket) :=
  .stays fun before hbefore =>
    (h.actions now id).applyActions actions ticket before (actionsMeet_true _ _ _ _ _ _) hbefore

theorem RowsKeep.runRules (h : RowsKeep env inv) (trigger : AutomationTrigger) (now : Nat) (id : Uuid)
    (ticket : Ticket) : Keeps (Stays inv) (runRules env trigger id ticket now) :=
  .stays fun before hbefore =>
    (h.actions now id).runRules trigger ticket before (rulesMeet_true _ _ _ _ _ _) hbefore

theorem RowsKeep.create (h : RowsKeep env inv) (dto : CreateTicketDto) (newIds : GeneratedIds) (now : Nat)
    (hnew : ∀ store ticket, inv store → NewTicket env store now ticket →
      inv (putTicket newIds.ticketId ticket store)) :
    Keeps (Stays inv) (create env dto newIds now) := by
  apply Keeps.stays
  intro before hbefore
  refine (create_writes env dto newIds now before).mono ?_
  rintro result after ⟨ticket, middle, hticket, -, hrules⟩
  obtain ⟨hagree, hfresh⟩ := newTicket_ensures env dto newIds now before ticket middle hticket
  have htickets : Agree TicketStore.tickets before middle := hagree.comp TicketStore.tickets
  have hinserted : inv (putTicket newIds.ticketId ticket middle) := by
    refine h.elsewhere (hnew before ticket hbefore hfresh) ?_ (hagree.comp TicketStore.slaConfig)
    exact congrArg (fun tickets : Table Uuid Ticket => tickets.insert newIds.ticketId ticket) htickets
  exact h.runRules _ now _ ticket _ result after hrules hinserted

theorem RowsKeep.update (h : RowsKeep env inv) (id : String) (dto : UpdateTicketDto)
    (actorAgentId : Option Uuid) (now : Nat)
    (hupdated : ∀ before key existing edits, inv before → EditsFor env id dto now before key existing edits →
      inv (putTicket key (edits.updated now existing) before)) :
    Keeps (Stays inv) (update env id dto actorAgentId now) := by
  apply Keeps.stays
  intro before hbefore
  refine (update_writes env id dto actorAgentId now before).mono ?_
  rintro outcome after ⟨key, existing, edits, hedits, ⟨-, rfl⟩ | ⟨-, hrules⟩⟩
  · exact hbefore
  · have hrequested : inv (requested key (edits.updated now existing) actorAgentId edits.changes before) :=
      h.elsewhere (hupdated before key existing edits hbefore hedits) rfl rfl
    exact h.runRules _ now _ _ _ outcome.result after hrules hrequested

theorem RowsKeep.merge (h : RowsKeep env inv) (primaryId : String) (sourceTicketIds : List String)
    (now : Nat) : Keeps (Stays inv) (merge env primaryId sourceTicketIds now) := by
  apply Keeps.stays
  intro before hbefore
  have hkeep : ∀ primaryKey primary, env.castUuid primaryId = some primaryKey →
      before.tickets.lookup primaryKey = some primary →
      MergeKeeps env primaryId primaryKey primary.ticketNumber now (fun _ => inv) ∧ inv before := by
    refine fun primaryKey primary _ _ => ⟨⟨?_, ?_, ?_⟩, hbefore⟩
    · exact fun _ _ hstore => hstore
    · exact fun _ _ _ _ _ hstore _ _ _ _ => hstore
    · intro sourceId rest store key source hstore _ _ hl _
      have hwritten := h.written store key source _ hstore hl (.merged source primaryKey now)
      exact h.elsewhere hwritten rfl rfl
  exact merge_ensures primaryId sourceTicketIds now before hkeep (fun _ h => h)
    fun store id body hstore => h.elsewhere hstore rfl rfl

-- The same of the desk's tables.
abbrev OfDesk (inv : TicketStore → Prop) (desk : HelpDesk) : Prop := inv desk.toTicketStore

theorem RowsKeep.applyScenario (h : RowsKeep env inv) (scenarioId ticketId : String) (now : Nat) :
    Keeps (Stays (OfDesk inv)) (HelpDesk.applyScenario env scenarioId ticketId now) := by
  apply Keeps.stays
  intro desk hdesk
  refine (applyScenario_writes scenarioId ticketId now desk).mono ?_
  rintro row after ⟨_, actions, key, ticket, -, -, -, -, hactions⟩
  exact h.applyActions now key actions ticket desk.toTicketStore row after.toTicketStore hactions hdesk

theorem RowsKeep.sweepCandidates (h : RowsKeep env inv) (now : Nat) (rule : TimeAutomation.TimeRule)
    (candidates : List (Uuid × Ticket)) (appliedCount : Nat) :
    Keeps (Stays (OfDesk inv)) (HelpDesk.sweepCandidates env now rule candidates appliedCount) := by
  induction candidates generalizing appliedCount with
  | nil => exact .pure _
  | cons candidate rest ih =>
      unfold HelpDesk.sweepCandidates
      split
      · refine .bind (onTickets_stays (h.applyActions now _ rule.actions _)) fun _ => ?_
        refine .bind (.modify fun desk hdesk => ?_) fun _ => ih _
        split
        · exact hdesk
        · exact hdesk
      · exact ih appliedCount

-- A sweep keeps what it keeps for each rule.
theorem sweepTenant_keeps {rel : HelpDesk → HelpDesk → Prop} [IsPreorder HelpDesk rel]
    (order : ScanOrder (Uuid × Ticket)) (now : Nat)
    (hrule : ∀ rule, Keeps rel (HelpDesk.sweepRule env order now rule)) :
    Keeps rel (HelpDesk.sweepTenant env order now) := by
  refine .bind .get fun desk => ?_
  suffices hrules : ∀ rules appliedCount, Keeps rel (HelpDesk.sweepRules env order now rules appliedCount) from
    hrules desk.timeRules 0
  intro rules
  induction rules with
  | nil => exact fun _ => .pure _
  | cons rule rest ih =>
      intro appliedCount
      exact .bind (hrule rule) fun applied => ih (appliedCount + applied)

theorem RowsKeep.sweepTenant (h : RowsKeep env inv) (order : ScanOrder (Uuid × Ticket)) (now : Nat) :
    Keeps (Stays (OfDesk inv)) (HelpDesk.sweepTenant env order now) :=
  sweepTenant_keeps order now fun rule => .bind .get fun _ => h.sweepCandidates now rule _ 0

-- The rows an import can insert.
structure Imported (ticket : FreshdeskTicket) (context : MigrationContext) (row : Ticket) : Prop where
  resolved : ∃ date, row.resolvedAt = if row.status.isClosing then some date else none
  ticketTypeId : row.ticketTypeId = importedTypeId ticket context
  slaPolicyId : row.slaPolicyId = none
  firstResponseDueAt : row.firstResponseDueAt = none
  resolutionDueAt : row.resolutionDueAt = none
  tags : row.tags = []

variable (runtime : Runtime)

theorem newDate_reads (text : String) : Keeps Eq (HelpDesk.newDate runtime text) := by
  unfold HelpDesk.newDate
  split
  · exact .pure _
  · exact .throw _

theorem importedResolvedAt_yields (status : TicketStatus) (updatedAt : String) :
    Yields Eq (fun resolvedAt => ∃ date, resolvedAt = if status.isClosing then some date else none)
      (HelpDesk.importedResolvedAt runtime status updatedAt) := by
  unfold HelpDesk.importedResolvedAt
  split
  · rw [← bind_pure_comp]
    exact (newDate_reads runtime _).bind_yields fun date => .pure ⟨date, rfl⟩
  · exact .pure ⟨0, rfl⟩

theorem references_reads (contains : TicketStore → Uuid → Bool) (id : Option Uuid) :
    Keeps Eq (HelpDesk.references contains id) := by
  refine .bind .get fun store => ?_
  split
  · exact .pure _
  · exact .throw _

-- A property that is about the tickets and the SLA columns' configuration only.
def AboutTickets (inv : TicketStore → Prop) : Prop :=
  ∀ {before after}, inv before → Agree TicketStore.tickets before after →
    Agree TicketStore.slaConfig before after → inv after

theorem insertImported_stays (h : AboutTickets inv) (ticket : FreshdeskTicket) (context : MigrationContext)
    (id contactId : Uuid) (groupId agentId : Option Uuid) (platform : Option TicketPlatform)
    (hnew : ∀ store row, inv store → store.tickets.lookup id = none → Imported ticket context row →
      inv (putTicket id row store)) :
    Keeps (Stays inv) (HelpDesk.insertImported runtime ticket id contactId (importedTypeId ticket context)
      groupId agentId platform) := by
  apply Keeps.stays
  intro before hbefore
  refine (nextTicketNumber_agrees before).bind fun ticketNumber numbered hnumbered => ?_
  refine (newDate_reads runtime _ numbered).bind ?_
  rintro createdAt _ rfl
  refine (importedResolvedAt_yields runtime _ _ numbered).bind ?_
  rintro resolvedAt _ ⟨rfl, hdate⟩
  refine (references_reads _ _ numbered).bind ?_
  rintro _ _ rfl
  refine (references_reads _ _ numbered).bind ?_
  rintro _ _ rfl
  refine (references_reads _ _ numbered).bind ?_
  rintro _ _ rfl
  refine (insertTicket_ensures id _ numbered).mono ?_
  rintro _ _ ⟨hfree, rfl⟩
  have hstore : inv numbered := h hbefore (hnumbered.comp TicketStore.tickets)
    (hnumbered.comp TicketStore.slaConfig)
  exact hnew numbered _ hstore hfree ⟨hdate, rfl, rfl, rfl, rfl, rfl⟩

-- The rows that neither a message nor an attachment is among.
def TicketStore.beyondConversation (store : TicketStore) : TicketStore :=
  { store with messages := [], attachments := [] }

theorem importConversations_keeps (ticketId : Uuid) (conversations : List FreshdeskConversation) :
    Keeps (Agree TicketStore.beyondConversation)
      (HelpDesk.importConversations runtime ticketId conversations) := by
  induction conversations with
  | nil => exact .pure _
  | cons conversation rest ih =>
      refine .bind (newDate_reads runtime _).of_eq fun createdAt => ?_
      exact .bind (.modify fun _ => rfl) fun _ => ih

theorem persistAttachments_keeps (ticketId : Uuid) (attachments : List FreshdeskAttachment)
    (warnings : List String) :
    Keeps (Agree TicketStore.beyondConversation)
      (HelpDesk.persistAttachments ticketId attachments warnings) := by
  induction attachments generalizing warnings with
  | nil => exact .pure _
  | cons attachment rest ih =>
      unfold HelpDesk.persistAttachments
      split
      · exact ih _
      · exact .bind (.modify fun _ => rfl) fun _ => ih _

-- A transaction that leaves the tickets and the configuration keeps the property.
theorem AboutTickets.of_agree {α : Type} (h : AboutTickets inv) {read : TicketStore → TicketStore} {tx : TicketM α}
    (htx : Keeps (Agree read) tx) (htickets : TicketStore.tickets ∘ read = TicketStore.tickets)
    (hconfig : TicketStore.slaConfig ∘ read = TicketStore.slaConfig) : Keeps (Stays inv) tx := by
  intro before
  refine (htx before).mono fun _ after hagree hbefore => ?_
  refine h hbefore ?_ ?_
  · exact htickets ▸ hagree.comp TicketStore.tickets
  · exact hconfig ▸ hagree.comp TicketStore.slaConfig

theorem importTicket_stays (h : AboutTickets inv) (ticket : FreshdeskTicket) (context : MigrationContext)
    (newIds : GeneratedIds)
    (hnew : ∀ store row, inv store → store.tickets.lookup newIds.ticketId = none → Imported ticket context row →
      inv (putTicket newIds.ticketId row store)) :
    Keeps (Stays (OfDesk inv)) (HelpDesk.importTicket runtime ticket context newIds) := by
  refine .bind .get fun desk => ?_
  split
  · exact .pure _
  cases ticket.requester.filter fun requester => requester.email ≠ "" with
  | none => exact .pure _
  | some requester =>
      refine .bind (onTickets_stays (h.of_agree (upsertContactByEmail_agrees _ _) rfl rfl)) fun contactId => ?_
      refine .bind (onTickets_stays (insertImported_stays runtime h ticket context _ _ _ _ _ hnew)) fun _ => ?_
      refine .bind (.modify fun _ h => h) fun _ => ?_
      refine .bind (onTickets_stays (h.of_agree (importConversations_keeps runtime _ _) rfl rfl)) fun _ => ?_
      refine .bind (onTickets_stays (h.of_agree (persistAttachments_keeps _ _ _) rfl rfl)) fun _ => ?_
      exact .pure _

theorem RowsKeep.importTicket (h : RowsKeep env inv) (ticket : FreshdeskTicket) (context : MigrationContext)
    (newIds : GeneratedIds)
    (hnew : ∀ store row, inv store → Imported ticket context row → inv (putTicket newIds.ticketId row store)) :
    Keeps (Stays (OfDesk inv)) (HelpDesk.importTicket runtime ticket context newIds) :=
  importTicket_stays runtime h.elsewhere ticket context newIds fun store row hstore _ => hnew store row hstore

end CloudOps.Ticketing
