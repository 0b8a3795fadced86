import CloudOps.Ticketing.OverdueSweep
import CloudOps.Ticketing.Writes

namespace CloudOps.Ticketing

open CloudOps.ReadCommitted CloudOps.Transaction

variable (env : Environment)

-- What a call does to the SLA columns of a ticket: it leaves them, it adds a ticket
-- that nothing was reported of, or it recalculates the due dates of a new policy.
inductive SlaChange (store : TicketStore) : TicketCall → Uuid → Option Ticket → Ticket → Prop where
  | kept (call id row after) (hsla : after.sla = row.sla) : SlaChange store call id (some row) after
  | opened (dto newIds now after) (hunreported : ∀ overdueType, after.notifiedAt overdueType = none) :
      SlaChange store (.create dto newIds now) newIds.ticketId none after
  | recalculated (text dto actorAgentId now id row after) (assignment : SlaAssignment)
      (hid : env.castUuid text = some id)
      (hassigned : recalculateSla env store row (dto.ticketTypeId.resolve env) = some assignment)
      (hsla : after.sla = (assignment.set row).sla) :
      SlaChange store (.update text dto actorAgentId now) id (some row) after

theorem Ticket.dueAt_of_sla {row other : Ticket} (h : row.sla = other.sla) (overdueType : OverdueType) :
    row.dueAt overdueType = other.dueAt overdueType := by
  cases overdueType with
  | firstResponse => exact congrArg SlaColumns.firstResponseDueAt h
  | resolution => exact congrArg SlaColumns.resolutionDueAt h

theorem Ticket.notifiedAt_of_sla {row other : Ticket} (h : row.sla = other.sla)
    (overdueType : OverdueType) : row.notifiedAt overdueType = other.notifiedAt overdueType := by
  cases overdueType with
  | firstResponse => exact congrArg SlaColumns.firstResponseOverdueNotifiedAt h
  | resolution => exact congrArg SlaColumns.resolutionOverdueNotifiedAt h

theorem SlaAssignment.notifiedAt_set (assignment : SlaAssignment) (row : Ticket)
    (overdueType : OverdueType) : (assignment.set row).notifiedAt overdueType = row.notifiedAt overdueType := by
  cases overdueType <;> rfl

-- No call reports a missed target, or takes back that one was reported.
theorem SlaChange.notifiedAt {store : TicketStore} {call : TicketCall} {id : Uuid}
    {before : Option Ticket} {after : Ticket} (h : SlaChange env store call id before after)
    (overdueType : OverdueType) :
    after.notifiedAt overdueType = before.bind fun row => row.notifiedAt overdueType := by
  cases h with
  | kept call id row after hsla => exact Ticket.notifiedAt_of_sla hsla overdueType
  | opened dto newIds now after hunreported => exact hunreported overdueType
  | recalculated text dto actorAgentId now id row after assignment hid hassigned hsla =>
      exact (Ticket.notifiedAt_of_sla hsla overdueType).trans (assignment.notifiedAt_set row overdueType)

-- A merge writes none of the SLA columns.
theorem merge_keeps (primaryId : String) (sourceTicketIds : List String) (now : Nat) :
    Keeps (Same Ticket.sla) (merge env primaryId sourceTicketIds now) := by
  intro before
  have hkeep : ∀ primaryKey primaryNumber, MergeKeeps env primaryId primaryKey primaryNumber now
      fun _ store => Same Ticket.sla before store := by
    intro primaryKey primaryNumber
    refine ⟨fun _ _ h => h, fun _ _ _ _ _ h _ _ _ _ => h, ?_⟩
    intro _ _ store key source h _ _ hl _ id
    rw [← h id, afterMerge, Table.lookup_insert_eq]
    by_cases hsame : id = key
    · rw [if_pos hsame, hsame, hl]
      rfl
    · rw [if_neg hsame]
  apply merge_ensures primaryId sourceTicketIds now before
  · exact fun primaryKey primary _ _ => ⟨hkeep primaryKey primary.ticketNumber, fun _ => rfl⟩
  · exact fun store h => h
  · exact fun store _ _ h => h

-- Tickets stay, and each one left behind is as the call can leave it.
structure SlaStep (store : TicketStore) (call : TicketCall) (after : TicketStore) : Prop where
  stays : ∀ id ∈ store.tickets, id ∈ after.tickets
  changes : ∀ id ticket, after.tickets.lookup id = some ticket →
    SlaChange env store call id (store.tickets.lookup id) ticket

theorem SlaStep.of_same {store after : TicketStore} (call : TicketCall)
    (h : Same Ticket.sla store after) : SlaStep env store call after := by
  constructor
  · intro id hid
    obtain ⟨ticket, hl⟩ := Option.isSome_iff_exists.mp (AList.lookup_isSome.mpr hid)
    obtain ⟨kept, hk, -⟩ := h.lookup hl
    exact Table.mem_of_lookup hk
  · intro id ticket hl
    have hid := h id
    rw [hl, Option.map_some] at hid
    obtain ⟨row, hrow, hsla⟩ := Option.map_eq_some_iff.mp hid.symm
    rw [hrow]
    exact .kept _ _ row ticket hsla.symm

theorem create_sla (store : TicketStore) (dto : CreateTicketDto) (newIds : GeneratedIds) (now : Nat) :
    Ensures (create env dto newIds now) store fun _ after =>
      SlaStep env store (.create dto newIds now) after := by
  refine (create_ensures env dto newIds now store).mono ?_
  rintro _ after ⟨ticket, hfresh, hnew, hafter⟩
  constructor
  · exact fun id hid => mem_of_changed hafter hid
  · intro id row hl
    have hrow := hafter id
    rw [hl, Option.map_some] at hrow
    split at hrow
    · rename_i hsame
      have hsla : row.sla = ticket.sla := by
        have hrules : row.beyondRules.sla = ticket.beyondRules.sla :=
          congrArg Ticket.sla (Option.some.inj hrow)
        exact hrules
      rw [hsame, hnew]
      refine .opened _ _ _ _ fun overdueType => ?_
      rw [Ticket.notifiedAt_of_sla hsla]
      cases overdueType with
      | firstResponse => exact hfresh.firstResponse
      | resolution => exact hfresh.resolution
    · obtain ⟨old, hold, he⟩ := Option.map_eq_some_iff.mp hrow.symm
      have hsla : old.beyondRules.sla = row.beyondRules.sla := congrArg Ticket.sla he
      rw [hold]
      exact .kept _ _ old row hsla.symm

theorem update_sla (store : TicketStore) (text : String) (dto : UpdateTicketDto)
    (actorAgentId : Option Uuid) (now : Nat) :
    Ensures (update env text dto actorAgentId now) store fun _ after =>
      SlaStep env store (.update text dto actorAgentId now) after := by
  refine (update_ensures env text dto actorAgentId now store).mono ?_
  rintro _ after ⟨key, existing, hkey, hexisting, hafter⟩
  constructor
  · exact fun id hid => mem_of_changed hafter hid
  · intro id row hl
    have hrow := hafter id
    rw [hl, Option.map_some] at hrow
    split at hrow
    · rename_i hsame
      have hrequest := congrArg Ticket.sla (Option.some.inj hrow)
      have hsla : row.sla = (withSla (recalculateSla env store existing
        (dto.ticketTypeId.resolve env)) existing).sla := hrequest
      rw [hsame, hexisting]
      cases hassigned : recalculateSla env store existing (dto.ticketTypeId.resolve env) with
      | none =>
          rw [hassigned] at hsla
          exact .kept _ _ existing row hsla
      | some assignment =>
          rw [hassigned] at hsla
          exact .recalculated text dto actorAgentId now key existing row assignment hkey hassigned hsla
    · obtain ⟨old, hold, he⟩ := Option.map_eq_some_iff.mp hrow.symm
      have hsla : old.beyondRequest.sla = row.beyondRequest.sla := congrArg Ticket.sla he
      rw [hold]
      exact .kept _ _ old row hsla.symm

-- The one specification of every call, as far as the SLA goes.
theorem step_sla (store : TicketStore) (call : TicketCall) : SlaStep env store call (step env store call) := by
  have hnothing : SlaStep env store call store := .of_same env call fun _ => rfl
  cases call with
  | create dto newIds now => exact (create_sla env store dto newIds now).commit hnothing
  | update id dto actorAgentId now => exact (update_sla env store id dto actorAgentId now).commit hnothing
  | merge primaryId sourceTicketIds now =>
      exact .of_same env _ ((merge_keeps env primaryId sourceTicketIds now).commit store)

end CloudOps.Ticketing

namespace CloudOps.Ticketing

open CloudOps.ReadCommitted

variable (env : Environment)

-- A target of a ticket is given a due date it did not have, or the sweep makes a call.
inductive OverdueEntry where
  | assigned (key : Uuid × OverdueType) (dueAt : Nat)
  | dispatched (call : DispatchCall)
  deriving DecidableEq

def OverduePayload.key (payload : OverduePayload) : Uuid × OverdueType :=
  (payload.ticketId, payload.overdueType)

-- The ticket.overdue event of the target goes to the bus, whether or not it gets there.
def OverdueEntry.attempts (key : Uuid × OverdueType) : OverdueEntry → Bool
  | .dispatched (.publish payload _) => payload.key == key
  | .dispatched (.enqueue ..) | .assigned .. => false

def OverdueEntry.publishes (key : Uuid × OverdueType) : OverdueEntry → Bool
  | .dispatched (.publish payload returned) => returned && payload.key == key
  | .dispatched (.enqueue ..) | .assigned .. => false

def OverdueEntry.assigns (key : Uuid × OverdueType) : OverdueEntry → Bool
  | .assigned other _ => other == key
  | .dispatched _ => false

-- The tickets, and what has happened to their due dates, the newest first.
structure OverdueState where
  store : TicketStore
  history : List OverdueEntry

def OverdueState.start (store : TicketStore) : OverdueState where
  store := { store with tickets := ∅ }
  history := []

inductive OverdueEvent where
  | request (call : TicketCall)
  | sweep (solo : Solo Uuid Ticket) (outcomes : DispatchOutcomes) (now : Nat)

def assignment (before : Table Uuid Ticket) (check : (Uuid × Ticket) × OverdueType) :
    Option OverdueEntry :=
  (check.1.2.dueAt check.2).bind fun dueAt =>
    if (before.lookup check.1.1).bind (fun row => row.dueAt check.2) = some dueAt then none
    else some (.assigned (check.1.1, check.2) dueAt)

-- The due dates that are there now and were not there before.
def assignments (before after : Table Uuid Ticket) : List OverdueEntry :=
  (checksOf after.rows).filterMap (assignment before)

-- A sweep dispatches what its committed transaction handed back.
def OverdueState.step (state : OverdueState) : OverdueEvent → OverdueState
  | .request call =>
      let after := Ticketing.step env state.store call
      { store := after
        history := assignments state.store.tickets after.tickets ++ state.history }
  | .sweep solo outcomes now =>
      match passAlone solo now state.store.tickets with
      | .returned breaches writes =>
          { store := { state.store with tickets := writes ∪ state.store.tickets }
            history := ((dispatchAll outcomes breaches).map .dispatched).reverse ++ state.history }
      | .threw _ | .failed => state

theorem mem_assignments {before after : Table Uuid Ticket} {entry : OverdueEntry}
    (h : entry ∈ assignments before after) : ∃ id overdueType row dueAt,
      entry = .assigned (id, overdueType) dueAt ∧ after.lookup id = some row ∧
      row.dueAt overdueType = some dueAt ∧
      (before.lookup id).bind (fun old => old.dueAt overdueType) ≠ some dueAt := by
  obtain ⟨⟨⟨id, row⟩, overdueType⟩, hcheck, he⟩ := List.mem_filterMap.mp h
  obtain ⟨dueAt, hdue, he⟩ := Option.bind_eq_some_iff.mp he
  split at he
  · cases he
  · rename_i hnew
    exact ⟨id, overdueType, row, dueAt, (Option.some.inj he).symm,
      Table.mem_rows.mp (mem_checksOf.mp hcheck), hdue, hnew⟩

-- A call marks nothing and takes no mark away.
theorem marked_step (store : TicketStore) (call : TicketCall) (key : Uuid × OverdueType) :
    Marked (Ticketing.step env store call).tickets key ↔ Marked store.tickets key := by
  have hstep := step_sla env store call
  constructor
  · rintro ⟨ticket, hticket, hmark⟩
    rw [(hstep.changes key.1 ticket hticket).notifiedAt] at hmark
    cases hrow : store.tickets.lookup key.1 with
    | none =>
        rw [hrow] at hmark
        cases hmark
    | some row =>
        rw [hrow] at hmark
        exact ⟨row, hrow, hmark⟩
  · rintro ⟨row, hrow, hmark⟩
    obtain ⟨ticket, hticket⟩ := Option.isSome_iff_exists.mp
      (AList.lookup_isSome.mpr (hstep.stays key.1 (Table.mem_of_lookup hrow)))
    refine ⟨ticket, hticket, ?_⟩
    rw [(hstep.changes key.1 ticket hticket).notifiedAt, hrow]
    exact hmark

theorem mem_overdueBreaches {order : ScanOrder (Uuid × Ticket)} {now : Nat}
    {tickets : Table Uuid Ticket} {breach : OverdueBreach} :
    breach ∈ overdueBreaches order now tickets ↔
      tickets.lookup breach.ticketId = some breach.ticket ∧ isCandidate now breach.ticket = true ∧
      breach.ticket.breaches breach.overdueType now = true ∧
      breach.ticket.dueAt breach.overdueType = some breach.dueAt := by
  constructor
  · intro h
    obtain ⟨⟨⟨id, row⟩, overdueType⟩, hcheck, hbreach⟩ := List.mem_filterMap.mp h
    have hmem := (order.perm _).mem_iff.mp (mem_checksOf.mp hcheck)
    obtain ⟨hrow, hcandidate⟩ := List.mem_filter.mp hmem
    obtain ⟨hmissed, hdue, hid, hticket, htype⟩ := breachOf_eq_some.mp hbreach
    rw [hid, hticket, htype]
    exact ⟨Table.mem_rows.mp hrow, hcandidate, hmissed, hdue⟩
  · rintro ⟨hrow, hcandidate, hmissed, hdue⟩
    refine List.mem_filterMap.mpr ⟨((breach.ticketId, breach.ticket), breach.overdueType), ?_, ?_⟩
    · rw [mem_checksOf, (order.perm _).mem_iff]
      exact List.mem_filter.mpr ⟨Table.mem_rows.mpr hrow, hcandidate⟩
    · exact breachOf_eq_some.mpr ⟨hmissed, hdue, rfl, rfl, rfl⟩

-- What is there to be found is not marked, and each target is found once.
theorem not_marked_of_mem {order : ScanOrder (Uuid × Ticket)} {now : Nat} {tickets : Table Uuid Ticket}
    {breach : OverdueBreach} (h : breach ∈ overdueBreaches order now tickets) :
    ¬ Marked tickets breach.key := by
  obtain ⟨hrow, -, hmissed, -⟩ := mem_overdueBreaches.mp h
  rintro ⟨row, hl, hmark⟩
  obtain rfl := Option.some.inj (hrow.symm.trans hl)
  have hnone : (breach.ticket.notifiedAt breach.overdueType).isNone = true := by
    simp only [Ticket.breaches, Bool.and_eq_true] at hmissed
    exact hmissed.2
  have hsome : (breach.ticket.notifiedAt breach.overdueType).isSome = true := hmark
  rw [← Option.not_isSome, hsome] at hnone
  cases hnone

theorem nodup_overdueBreaches (order : ScanOrder (Uuid × Ticket)) (now : Nat)
    (tickets : Table Uuid Ticket) :
    ((overdueBreaches order now tickets).map OverdueBreach.key).Nodup := by
  have hids : ((order.apply (tickets.rows.filter fun row => isCandidate now row.2)).map
      Prod.fst).Nodup := Table.nodup_ids_of_perm (order.perm _)
  refine (nodup_checksOf hids).sublist ?_
  unfold overdueBreaches
  generalize checksOf (order.apply (tickets.rows.filter fun row => isCandidate now row.2)) = checks
  induction checks with
  | nil => exact .slnil
  | cons check rest ih =>
      cases hbreach : breachOf now check with
      | none =>
          rw [List.filterMap_cons_none hbreach]
          exact ih.cons _
      | some breach =>
          obtain ⟨-, -, hid, -, htype⟩ := breachOf_eq_some.mp hbreach
          have hkey : breach.key = (check.1.1, check.2) := by rw [OverdueBreach.key, hid, htype]
          rw [List.filterMap_cons_some hbreach, List.map_cons, List.map_cons, hkey]
          exact ih.cons_cons _

-- A sweep marks what it finds and dispatches it, failure or no failure.
theorem OverdueState.step_sweep (state : OverdueState) (solo : Solo Uuid Ticket)
    (outcomes : DispatchOutcomes) (now : Nat) :
    let breaches := overdueBreaches solo.order now state.store.tickets
    let after := state.step env (.sweep solo outcomes now)
    PassLeaves state.store.tickets after.store.tickets (breaches.map OverdueBreach.key) ∧
      after.history = ((dispatchAll outcomes breaches).map OverdueEntry.dispatched).reverse ++
        state.history := by
  intro breaches after
  obtain ⟨writes, hreturned, hleaves⟩ := passAlone_returned solo now state.store.tickets
  have hafter : after =
      { store := { state.store with tickets := writes ∪ state.store.tickets }
        history := ((dispatchAll outcomes breaches).map OverdueEntry.dispatched).reverse ++
          state.history } := by
    simp only [after, OverdueState.step, hreturned]
    rfl
  rw [hafter]
  exact ⟨hleaves, rfl⟩

def contactId : String := "7c9e6679-7425-40de-944b-e07fc1f90ae7"

def urgentTypeId : String := "9b1deb4d-3b7d-4bad-9bdd-2b0d7b3dcb6d"

def routineTypeId : String := "3f2504e0-4f89-41d3-9a0c-0305e82c3301"

def ticketId : String := "16fd2706-8baf-433b-82eb-8c7fada847da"

-- The ids of a tenant's one contact, its two ticket types and its first ticket.
def deskIds : Environment where
  castUuid text :=
    if text = contactId then some 1 else if text = urgentTypeId then some 2
    else if text = routineTypeId then some 3 else if text = ticketId then some 6 else none
  uuidText id :=
    if id = 1 then contactId else if id = 2 then urgentTypeId
    else if id = 3 then routineTypeId else ticketId
  toLowerCase text := text.toLower
  validateCustomFields submitted := .ok submitted
  addBusinessMinutes createdAt minutes _ := createdAt + minutes * 60000

-- A tenant that answers urgent tickets within a minute and routine ones within two.
def desk : TicketStore where
  tickets := ∅
  messages := []
  attachments := []
  activities := []
  nextTicketNumber := none
  contacts := (∅ : Table Uuid Contact).insert 1 ⟨"Ann", "ann@example.com"⟩
  ticketTypes := ((∅ : Table Uuid TicketType).insert 2 ⟨none, some 4⟩).insert 3 ⟨none, some 5⟩
  groups := ∅
  agents := ∅
  agentSkills := []
  groupAssignmentCursor := ∅
  resources := []
  slaPolicies := ((∅ : Table Uuid SlaTargets).insert 4 ⟨1, 60, false⟩).insert 5 ⟨2, 90, false⟩
  businessHours := none
  automationRules := []

def urgentTicket : CreateTicketDto where
  subject := "Printer on fire"
  contactId := some contactId
  contact := none
  source := .email
  sourceDetail := none
  ticketTypeId := some urgentTypeId
  groupId := none
  agentId := none
  requiredSkill := none
  resourceId := none
  priority := none
  platform := none
  tags := none
  customFields := []

end CloudOps.Ticketing
