import CloudOps.Ticketing.HelpDeskSystem
import CloudOps.Ticketing.MergePointers

namespace CloudOps.Ticketing

open CloudOps.ReadCommitted CloudOps.Transaction

variable (env : Environment) (runtime : Runtime)

-- resolved_at is set exactly while the status is resolved or closed.
def Ticket.ResolvedWithStatus (ticket : Ticket) : Prop :=
  ticket.resolvedAt.isSome = true ↔ ticket.status = .resolved ∨ ticket.status = .closed

def ResolvedTracksStatus (store : TicketStore) : Prop := AllTickets Ticket.ResolvedWithStatus store

theorem resolvedWithStatus_of_status {ticket : Ticket} (now : Nat)
    (h : ticket.resolvedAt = if ticket.status.isClosing then some now else none) :
    ticket.ResolvedWithStatus := by
  unfold Ticket.ResolvedWithStatus
  rw [h]
  cases ticket.status <;> simp [TicketStatus.isClosing]

-- resolved_at and the status are all it depends on.
theorem Ticket.ResolvedWithStatus.congr {row other : Ticket} (h : row.ResolvedWithStatus)
    (hstatus : other.status = row.status) (hresolved : other.resolvedAt = row.resolvedAt) :
    other.ResolvedWithStatus := by
  unfold Ticket.ResolvedWithStatus
  rw [hstatus, hresolved]
  exact h

theorem resolvedWithStatus_written {row written : Ticket} (h : row.ResolvedWithStatus)
    (hwrite : RowWrite env row written) : written.ResolvedWithStatus := by
  cases hwrite with
  | assigned now value field set row hset =>
      cases hset with
      | status status htext => exact resolvedWithStatus_of_status now rfl
      | priority | groupId | agentId | platform => exact h.congr rfl rfl
  | tagged row tags now => exact h.congr rfl rfl
  | merged row primaryKey now =>
      unfold Ticket.ResolvedWithStatus mergedRow
      cases row.resolvedAt <;> simp

theorem resolvedTracksStatus_rows : RowsKeep env ResolvedTracksStatus where
  elsewhere h htickets _ := h.of_tickets htickets
  written _ id row _ h hl hwrite := h.insert rfl (resolvedWithStatus_written env (h id row hl) hwrite)

theorem updated_resolvedWithStatus {id : String} {dto : UpdateTicketDto} {now : Nat} {before : TicketStore}
    {key : Uuid} {existing : Ticket} {edits : Edits} (hedits : EditsFor env id dto now before key existing edits)
    (h : existing.ResolvedWithStatus) : (edits.updated now existing).ResolvedWithStatus := by
  obtain ⟨customFields, hrow⟩ := hedits.updated_eq
  obtain ⟨slaPolicyId, firstResponseDueAt, resolutionDueAt, hsla⟩ :=
    withSla_eq (recalculateSla env before existing (dto.ticketTypeId.resolve env)) _
  rw [hrow, hsla]
  cases dto.status with
  | none => exact h.congr rfl rfl
  | some status => exact resolvedWithStatus_of_status now rfl

theorem imported_resolvedWithStatus {ticket : FreshdeskTicket} {context : MigrationContext} {row : Ticket}
    (h : Imported ticket context row) : row.ResolvedWithStatus := by
  obtain ⟨date, hresolved⟩ := h.resolved
  exact resolvedWithStatus_of_status date hresolved

theorem newTicket_resolvedWithStatus {store : TicketStore} {now : Nat} {ticket : Ticket}
    (h : NewTicket env store now ticket) : ticket.ResolvedWithStatus := by
  unfold Ticket.ResolvedWithStatus
  rw [h.unresolved, h.status]
  simp

-- No call leaves a ticket whose resolved_at and status disagree, if it finds none.
theorem step_resolvedTracksStatus (desk : HelpDesk) (call : HelpDeskCall)
    (h : ResolvedTracksStatus desk.toTicketStore) :
    ResolvedTracksStatus (desk.step env runtime call).toTicketStore := by
  have hrows := resolvedTracksStatus_rows env
  cases call with
  | tickets call =>
      cases call with
      | create dto newIds now =>
          refine (hrows.create dto newIds now fun store ticket hstore hticket => ?_).commit _ h
          have hnew : ticket.ResolvedWithStatus := newTicket_resolvedWithStatus env hticket
          exact hstore.insert rfl hnew
      | update id dto actorAgentId now =>
          refine (hrows.update id dto actorAgentId now fun store key existing edits hstore hedits => ?_).commit _ h
          have hexisting : existing.ResolvedWithStatus := hstore key existing hedits.row
          have hupdated := updated_resolvedWithStatus env hedits hexisting
          exact hstore.insert rfl hupdated
      | merge primaryId sourceTicketIds now => exact (hrows.merge primaryId sourceTicketIds now).commit _ h
  | applyScenario scenarioId ticketId now => exact (hrows.applyScenario scenarioId ticketId now).commit _ h
  | sweepTenant order now => exact (hrows.sweepTenant order now).commit _ h
  | importTicket ticket context newIds =>
      refine (hrows.importTicket runtime ticket context newIds fun store row hstore himported => ?_).commit _ h
      have hrow : row.ResolvedWithStatus := imported_resolvedWithStatus himported
      exact hstore.insert rfl hrow
  | triageTicket ticketId reply order =>
      have htriage : Ensures (HelpDesk.triageTicket env runtime ticketId reply order) desk
          fun _ after => ResolvedTracksStatus after.toTicketStore := by
        refine (triageTicket_ensures runtime ticketId reply order desk).mono fun _ after hwrite => ?_
        generalize after.toTicketStore = store at hwrite
        cases hwrite with
        | kept hnot => exact h
        | applied row suggestion priority newTypeId after happlies hsuggested hwritten =>
            have hrow : row.ResolvedWithStatus := h ticketId row happlies.row
            exact h.written hwritten (hrow.congr rfl rfl)
      exact htriage.commit h

-- From a tenant without tickets on, whatever is called and in whatever order.
theorem resolved_at_tracks_status (desk : HelpDesk) (hempty : desk.tickets = ∅)
    (calls : List HelpDeskCall) :
    Runs.Always (HelpDesk.step env runtime) (fun desk => ResolvedTracksStatus desk.toTicketStore)
      desk calls := by
  refine Runs.always_of_step _ ?_ (fun desk call h => step_resolvedTracksStatus env runtime desk call h) calls
  intro id ticket hl
  rw [hempty, AList.lookup_empty] at hl
  cases hl

-- A tenant with one contact, and triage that applies what it suggests.
def newTenant : HelpDesk where
  toTicketStore := { twoTickets with tickets := ∅, nextTicketNumber := none }
  scenarios := ∅
  timeRules := []
  applications := []
  legacyTicketNumbers := ∅
  autoTriageMode := some .apply
  defaultTriageMode := .off
  ticketAiTriage := []

-- Bodies as they come, every date the same, and an answer of one priority.
def plainRuntime : Runtime where
  sanitizeHtml body := body
  parseDate _ := some 1000
  parseObject _ := some [("priority", .string "urgent")]

def requestOf (subject : String) : CreateTicketDto where
  subject := subject
  contactId := none
  contact := some ⟨"Ann", "ann@example.com"⟩
  source := .email
  sourceDetail := none
  ticketTypeId := none
  groupId := none
  agentId := none
  requiredSkill := none
  resourceId := none
  priority := none
  platform := none
  tags := none
  customFields := []

def noChange : UpdateTicketDto where
  status := none
  priority := none
  groupId := .undefined
  agentId := .undefined
  ticketTypeId := .undefined
  platform := .undefined
  tags := none
  customFields := none

theorem createThenResolve_tracks_status :
    Runs.Always (HelpDesk.step twoIds plainRuntime) (fun desk => ResolvedTracksStatus desk.toTicketStore)
      newTenant
      [.tickets (.create (requestOf "Printer on fire") ⟨2, 1⟩ 10),
        .tickets (.update firstId { noChange with status := some .resolved } none 20),
        .tickets (.merge secondId [firstId] 30)] :=
  resolved_at_tracks_status twoIds plainRuntime newTenant rfl _

end CloudOps.Ticketing
