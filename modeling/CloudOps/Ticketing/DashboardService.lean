import CloudOps.SqlTruth
import CloudOps.Ticketing.OverdueSweep
import CloudOps.Ticketing.ResolutionMet

namespace CloudOps.Ticketing

open CloudOps.ReadCommitted CloudOps.SqlTruth

-- The conditions the statements are made of. A timestamptz column counts
-- microseconds, and so do the tickets and the instants of this module.
def stillOpen (ticket : Ticket) : Truth :=
  .negate (.ofBool (ticket.status ∈ [TicketStatus.resolved, TicketStatus.closed]))

def before (first second : Option Nat) : Truth := .compare (fun a b => a < b) first second

def notAfter (first second : Option Nat) : Truth := .compare (fun a b => a ≤ b) first second

-- Due, not done, and the due date in the past.
def missed (now : Nat) (dueAt doneAt : Option Nat) : Truth :=
  (Truth.isNotNull dueAt).both ((Truth.isNull doneAt).both (before dueAt (some now)))

structure ListTicketsQuery where
  status : Option TicketStatus
  priority : Option TicketPriority
  platform : Option TicketPlatform
  groupId : Option Uuid
  agentId : Option Uuid
  unassigned : Bool
  tag : Option String
  overdue : Bool
  createdFrom : Option Nat
  createdTo : Option Nat
  resolvedFrom : Option Nat
  resolvedTo : Option Nat
  limit : Nat
  offset : Nat

-- What a request without filters is given.
def ListTicketsQuery.default : ListTicketsQuery where
  status := none
  priority := none
  platform := none
  groupId := none
  agentId := none
  unassigned := false
  tag := none
  overdue := false
  createdFrom := none
  createdTo := none
  resolvedFrom := none
  resolvedTo := none
  limit := 25
  offset := 0

def equalTo {α : Type} [DecidableEq α] (first second : Option α) : Truth :=
  .compare (fun a b => a = b) first second

def overdueFilter (now : Nat) (ticket : Ticket) : Truth :=
  (stillOpen ticket).both ((missed now ticket.firstResponseDueAt ticket.firstResponseAt).either
    (missed now ticket.resolutionDueAt ticket.resolvedAt))

-- A condition for each filter that is given.
def listConditions (query : ListTicketsQuery) (now : Nat) (ticket : Ticket) : List Truth :=
  (query.status.map fun status => equalTo (some ticket.status) (some status)).toList ++
  (query.priority.map fun priority => equalTo (some ticket.priority) (some priority)).toList ++
  (query.platform.map fun platform => equalTo ticket.platform (some platform)).toList ++
  (query.groupId.map fun groupId => equalTo ticket.groupId (some groupId)).toList ++
  (query.agentId.map fun agentId => equalTo ticket.agentId (some agentId)).toList ++
  (if query.unassigned then [Truth.isNull ticket.agentId] else []) ++
  ((query.tag.filter (· ≠ "")).map fun tag => Truth.ofBool (ticket.tags.contains tag)).toList ++
  (if query.overdue then [overdueFilter now ticket] else []) ++
  (query.createdFrom.map fun time => notAfter (some time) (some ticket.createdAt)).toList ++
  (query.createdTo.map fun time => notAfter (some ticket.createdAt) (some time)).toList ++
  (query.resolvedFrom.map fun time => notAfter (some time) ticket.resolvedAt).toList ++
  (query.resolvedTo.map fun time => notAfter ticket.resolvedAt (some time)).toList

def listWhere (query : ListTicketsQuery) (now : Nat) (ticket : Ticket) : Truth :=
  .all (listConditions query now ticket)

structure TicketPage where
  items : List (Uuid × Ticket)
  total : Nat

-- TicketsService.list, the numbers of the tickets being unique.
def listTickets (query : ListTicketsQuery) (now : Nat) (tickets : List (Uuid × Ticket)) : TicketPage :=
  let matching := tickets.filter fun row => (listWhere query now row.2).holds
  let newestFirst := matching.insertionSort fun first second =>
    second.2.ticketNumber ≤ first.2.ticketNumber
  ⟨(newestFirst.drop query.offset).take query.limit, matching.length⟩

def summaryFirstResponse (now : Nat) (ticket : Ticket) : Truth :=
  (stillOpen ticket).both (missed now ticket.firstResponseDueAt ticket.firstResponseAt)

def summaryResolution (now : Nat) (ticket : Ticket) : Truth :=
  (stillOpen ticket).both (missed now ticket.resolutionDueAt ticket.resolvedAt)

def summaryUnassigned (ticket : Ticket) : Truth :=
  (stillOpen ticket).both (Truth.isNull ticket.agentId)

structure Summary where
  byStatus : List (TicketStatus × Nat)
  byPriority : List (TicketPriority × Nat)
  overdueFirstResponse : Nat
  overdueResolution : Nat
  unassigned : Nat
  totalOpen : Nat

-- DashboardService.summary
def summary (now : Nat) (tickets : List Ticket) : Summary :=
  let byStatus := TicketStatus.all.map fun status => (status, tickets.countP fun ticket => ticket.status = status)
  { byStatus := byStatus
    byPriority := TicketPriority.all.map fun priority =>
      (priority, tickets.countP fun ticket => ticket.priority = priority)
    overdueFirstResponse := countWhere (summaryFirstResponse now) tickets
    overdueResolution := countWhere (summaryResolution now) tickets
    unassigned := countWhere summaryUnassigned tickets
    totalOpen := ((byStatus.filter fun entry => !entry.1.isClosing).map Prod.snd).sum }

inductive AttentionSeverity where
  | warning
  | critical
  deriving DecidableEq

structure AttentionItem where
  id : String
  severity : AttentionSeverity
  message : String
  count : Nat
  deriving DecidableEq

-- The counts needsAttention takes from the other tables.
structure OtherCounts where
  invalidEmail : Nat
  openAlerts : Nat
  brokenCredentials : Nat

def pluralOf (count : Nat) : String := if count = 1 then "" else "s"

-- An item for a count that is not zero.
def attentionItem (id : String) (severity : AttentionSeverity) (message : String) (count : Nat) :
    List AttentionItem :=
  if 0 < count then [⟨id, severity, message, count⟩] else []

def attentionFirstResponse (now : Nat) (ticket : Ticket) : Truth :=
  (stillOpen ticket).both (missed now ticket.firstResponseDueAt ticket.firstResponseAt)

def attentionResolution (now : Nat) (ticket : Ticket) : Truth :=
  (stillOpen ticket).both (missed now ticket.resolutionDueAt ticket.resolvedAt)

def attentionUnassigned (ticket : Ticket) : Truth :=
  (stillOpen ticket).both (Truth.isNull ticket.agentId)

-- DashboardService.needsAttention
def needsAttention (now : Nat) (tickets : List Ticket) (other : OtherCounts) : List AttentionItem :=
  let overdueFirstResponse := countWhere (attentionFirstResponse now) tickets
  let overdueResolution := countWhere (attentionResolution now) tickets
  let unassigned := countWhere attentionUnassigned tickets
  attentionItem "overdue_first_response" .critical
    s!"{overdueFirstResponse} ticket{pluralOf overdueFirstResponse} overdue for first response"
    overdueFirstResponse ++
  attentionItem "overdue_resolution" .critical
    s!"{overdueResolution} ticket{pluralOf overdueResolution} overdue for resolution" overdueResolution ++
  attentionItem "unassigned_tickets" .warning
    s!"{unassigned} open ticket{pluralOf unassigned} with no agent assigned" unassigned ++
  attentionItem "contacts_needing_action" .warning
    s!"{other.invalidEmail} contact{pluralOf other.invalidEmail} with an invalid email address"
    other.invalidEmail ++
  attentionItem "open_monitoring_alerts" .critical
    s!"{other.openAlerts} open monitoring alert{pluralOf other.openAlerts}" other.openAlerts ++
  attentionItem "broken_cloud_credentials" .critical
    (s!"{other.brokenCredentials} connected cloud account{pluralOf other.brokenCredentials} " ++
      (if other.brokenCredentials = 1 then "hasn't" else "haven't") ++ " synced in over a day")
    other.brokenCredentials

-- What the feed counts under an id, zero where it has no such item.
def attentionCount (items : List AttentionItem) (id : String) : Nat :=
  ((items.filter fun item => item.id = id).map AttentionItem.count).sum

def withPolicy (ticket : Ticket) : Truth := Truth.isNotNull ticket.slaPolicyId

def policyMet (doneAt dueAt : Option Nat) (ticket : Ticket) : Truth :=
  (withPolicy ticket).both ((Truth.isNotNull doneAt).both (notAfter doneAt dueAt))

def policyBreached (now : Nat) (doneAt dueAt : Option Nat) (ticket : Ticket) : Truth :=
  (withPolicy ticket).both (((Truth.isNotNull doneAt).both (before dueAt doneAt)).either
    ((Truth.isNull doneAt).both (before dueAt (some now))))

-- The counts of slaSummary as its statement writes them.
def slaCounts (now : Nat) (tickets : List Ticket) : SlaSummary :=
  let totalWithSla := countWhere withPolicy tickets
  let tally (doneAt dueAt : Ticket → Option Nat) : SlaTally :=
    let met := countWhere (fun ticket => policyMet (doneAt ticket) (dueAt ticket) ticket) tickets
    let breached := countWhere (fun ticket => policyBreached now (doneAt ticket) (dueAt ticket) ticket) tickets
    ⟨met, breached, totalWithSla - met - breached⟩
  { totalWithSla := totalWithSla
    firstResponse := tally Ticket.firstResponseAt Ticket.firstResponseDueAt
    resolution := tally Ticket.resolvedAt Ticket.resolutionDueAt }

-- The SELECT of OverdueSweepService.sweepTenant.
def sweepWhere (now : Nat) (ticket : Ticket) : Truth :=
  (stillOpen ticket).both
    (((missed now ticket.firstResponseDueAt ticket.firstResponseAt).both
        (Truth.isNull ticket.firstResponseOverdueNotifiedAt)).either
      ((missed now ticket.resolutionDueAt ticket.resolvedAt).both
        (Truth.isNull ticket.resolutionOverdueNotifiedAt)))

-- The columns as the process reads them: a Date keeps the milliseconds.
def Ticket.asDates (ticket : Ticket) : Ticket :=
  { ticket with
    firstResponseDueAt := ticket.firstResponseDueAt.map (· / 1000)
    firstResponseAt := ticket.firstResponseAt.map (· / 1000)
    firstResponseOverdueNotifiedAt := ticket.firstResponseOverdueNotifiedAt.map (· / 1000)
    resolutionDueAt := ticket.resolutionDueAt.map (· / 1000)
    resolvedAt := ticket.resolvedAt.map (· / 1000)
    resolutionOverdueNotifiedAt := ticket.resolutionOverdueNotifiedAt.map (· / 1000)
    createdAt := ticket.createdAt / 1000
    updatedAt := ticket.updatedAt / 1000 }

-- The targets a pass at this instant reports of the ticket: those its loop finds
-- breached, if the SELECT returns it.
def sweepReports (now : Nat) (ticket : Ticket) : List OverdueType :=
  if (sweepWhere now ticket).holds then
    [OverdueType.firstResponse, .resolution].filter fun overdueType =>
      ticket.asDates.breaches overdueType (now / 1000)
  else []

-- What all of them are about: a due date in the past, and nothing done.
def Ticket.overdueFor (ticket : Ticket) (now : Nat) (overdueType : OverdueType) : Bool :=
  ((ticket.dueAt overdueType).any fun dueAt => dueAt < now) && (ticket.metAt overdueType).isNone

def Ticket.isOverdue (ticket : Ticket) (now : Nat) : Bool :=
  !ticket.status.isClosing && (ticket.overdueFor now .firstResponse || ticket.overdueFor now .resolution)

-- The filter of the quick view "overdue", and no other.
def overdueQuery : ListTicketsQuery := { ListTicketsQuery.default with overdue := true }

@[simp] theorem holds_stillOpen (ticket : Ticket) : (stillOpen ticket).holds = !ticket.status.isClosing := by
  rw [stillOpen, Truth.holds_negate_ofBool]
  cases ticket.status <;> rfl

@[simp] theorem holds_missed (now : Nat) (dueAt doneAt : Option Nat) :
    (missed now dueAt doneAt).holds = ((dueAt.any fun due => due < now) && doneAt.isNone) := by
  cases dueAt <;> simp [missed, before, Bool.and_comm]

theorem holds_overdueFilter (now : Nat) (ticket : Ticket) :
    (overdueFilter now ticket).holds = ticket.isOverdue now := by
  rw [overdueFilter, Truth.holds_both, Truth.holds_either, holds_stillOpen, holds_missed, holds_missed]
  rfl

theorem holds_overdueQuery (now : Nat) (ticket : Ticket) :
    (listWhere overdueQuery now ticket).holds = ticket.isOverdue now := by
  have hconditions : listConditions overdueQuery now ticket = [overdueFilter now ticket] := rfl
  rw [listWhere, Truth.holds_all, hconditions, List.all_cons, List.all_nil, Bool.and_true,
    holds_overdueFilter]

-- The pages of the quick view show overdue tickets, and its total counts all of them.
theorem listTickets_overdue (now : Nat) (tickets : List (Uuid × Ticket)) :
    (∀ row ∈ (listTickets overdueQuery now tickets).items, row ∈ tickets ∧ row.2.isOverdue now = true) ∧
      (listTickets overdueQuery now tickets).total = tickets.countP fun row => row.2.isOverdue now := by
  unfold listTickets
  simp only [holds_overdueQuery]
  refine ⟨fun row hrow => ?_, List.countP_eq_length_filter.symm⟩
  have hsorted := List.mem_of_mem_drop (List.mem_of_mem_take hrow)
  exact List.mem_filter.mp ((List.mem_insertionSort _).mp hsorted)

-- With other filters beside it, the quick view keeps what they keep and is overdue.
theorem holds_listWhere_overdue (query : ListTicketsQuery) (now : Nat) (ticket : Ticket) :
    (listWhere { query with overdue := true } now ticket).holds =
      ((listWhere { query with overdue := false } now ticket).holds && ticket.isOverdue now) := by
  simp only [listWhere, Truth.holds_all, listConditions, List.all_append, if_true, Bool.false_eq_true, if_false,
    List.all_nil, List.all_cons, Bool.and_true, holds_overdueFilter]
  ac_rfl

theorem isOverdue_iff_summary (now : Nat) (ticket : Ticket) :
    ticket.isOverdue now = true ↔
      (summaryFirstResponse now ticket).holds = true ∨ (summaryResolution now ticket).holds = true := by
  rw [summaryFirstResponse, summaryResolution, Truth.holds_both, Truth.holds_both, holds_stillOpen,
    holds_missed, holds_missed, ← Bool.or_eq_true, ← Bool.and_or_distrib_left]
  rfl

-- The SELECT is the one the passes of the sweep are run with.
theorem holds_sweepWhere (now : Nat) (ticket : Ticket) : (sweepWhere now ticket).holds = isCandidate now ticket := by
  simp only [sweepWhere, Truth.holds_both, Truth.holds_either, holds_stillOpen, holds_missed,
    Truth.holds_isNull]
  rfl

-- And what is reported, what their loop finds.
theorem sweepReports_eq (now : Nat) (id : Uuid) (ticket : Ticket) :
    sweepReports now ticket = if isCandidate now ticket then
      ((checksOf [(id, ticket.asDates)]).filterMap (breachOf (now / 1000))).map OverdueBreach.overdueType
      else [] := by
  have hbreach : ∀ overdueType,
      (breachOf (now / 1000) ((id, ticket.asDates), overdueType)).map OverdueBreach.overdueType =
        if ticket.asDates.breaches overdueType (now / 1000) then some overdueType else none := by
    intro overdueType
    unfold breachOf
    split
    · rename_i hbreaches
      cases hdue : ticket.asDates.dueAt overdueType with
      | none => simp [Ticket.breaches, hdue] at hbreaches
      | some dueAt => rfl
    · rfl
  rw [sweepReports, holds_sweepWhere, List.map_filterMap]
  simp only [checksOf, List.flatMap_cons, List.flatMap_nil, List.append_nil, hbreach, List.filterMap_cons,
    List.filterMap_nil, List.filter_cons, List.filter_nil]
  cases ticket.asDates.breaches .firstResponse (now / 1000) <;>
    cases ticket.asDates.breaches .resolution (now / 1000) <;> rfl

-- The ticket with both notified-at markers null.
def Ticket.unnotified (ticket : Ticket) : Ticket :=
  { ticket with firstResponseOverdueNotifiedAt := none, resolutionOverdueNotifiedAt := none }

theorem breaches_unnotified (ticket : Ticket) (overdueType : OverdueType) (now : Nat) :
    ticket.unnotified.breaches overdueType now = ticket.overdueFor now overdueType := by
  cases overdueType <;> exact Bool.and_true _

theorem isCandidate_unnotified (ticket : Ticket) (now : Nat) :
    isCandidate now ticket.unnotified = ticket.isOverdue now := by
  rw [isCandidate, breaches_unnotified, breaches_unnotified]
  rfl

-- Dates compare as the instants do at the start of the later one's millisecond.
theorem overdueFor_asDates (ticket : Ticket) (overdueType : OverdueType) (now : Nat) :
    ticket.asDates.overdueFor (now / 1000) overdueType = ticket.overdueFor (now / 1000 * 1000) overdueType := by
  have hdates : ∀ dueAt doneAt : Option Nat,
      ((((dueAt.map (· / 1000)).any fun due => decide (due < now / 1000)) && (doneAt.map (· / 1000)).isNone) =
        ((dueAt.any fun due => decide (due < now / 1000 * 1000)) && doneAt.isNone)) := by
    intro dueAt doneAt
    have hdue : ∀ due, (due / 1000 < now / 1000) = (due < now / 1000 * 1000) := fun due =>
      propext (Nat.div_lt_iff_lt_mul (by decide))
    cases dueAt <;> simp [hdue]
  cases overdueType <;> exact hdates _ _

theorem isOverdue_mono {ticket : Ticket} {first second : Nat} (hle : first ≤ second)
    (h : ticket.isOverdue first = true) : ticket.isOverdue second = true := by
  have hdue : ∀ overdueType, ticket.overdueFor first overdueType = true →
      ticket.overdueFor second overdueType = true := by
    intro overdueType hoverdue
    rw [Ticket.overdueFor, Bool.and_eq_true, Option.any_eq_true] at hoverdue ⊢
    obtain ⟨⟨due, hsome, hlt⟩, hmet⟩ := hoverdue
    exact ⟨⟨due, hsome, decide_eq_true ((of_decide_eq_true hlt).trans_le hle)⟩, hmet⟩
  rw [Ticket.isOverdue, Bool.and_eq_true, Bool.or_eq_true] at h ⊢
  exact ⟨h.1, h.2.imp (hdue _) (hdue _)⟩

-- The loop looks at the Dates of what the SELECT has found a moment before.
theorem sweepReports_unnotified (now : Nat) (ticket : Ticket) :
    sweepReports now ticket.unnotified ≠ [] ↔ ticket.isOverdue (now / 1000 * 1000) = true := by
  have hreported : ∀ overdueType,
      ticket.unnotified.asDates.breaches overdueType (now / 1000) =
        ticket.overdueFor (now / 1000 * 1000) overdueType := by
    intro overdueType
    rw [← overdueFor_asDates]
    exact breaches_unnotified ticket.asDates overdueType (now / 1000)
  rw [sweepReports, holds_sweepWhere, isCandidate_unnotified]
  simp only [hreported, Ticket.isOverdue]
  constructor
  · intro h
    split at h
    · rename_i hcandidate
      rw [Bool.and_eq_true] at hcandidate ⊢
      refine ⟨hcandidate.1, ?_⟩
      by_contra hnone
      rw [Bool.or_eq_true, not_or] at hnone
      exact h (by simp [hnone.1, hnone.2])
    · exact absurd rfl h
  · intro h
    have hcandidate := isOverdue_mono (Nat.div_mul_le_self now 1000) h
    rw [Ticket.isOverdue] at hcandidate
    rw [if_pos hcandidate]
    rw [Bool.and_eq_true, Bool.or_eq_true] at h
    rcases h.2 with hfirst | hresolution
    · simp [hfirst]
    · exact List.ne_nil_of_mem (List.mem_filter.mpr ⟨by simp, hresolution⟩)

theorem attentionCount_append (first second : List AttentionItem) (id : String) :
    attentionCount (first ++ second) id = attentionCount first id + attentionCount second id := by
  rw [attentionCount, List.filter_append, List.map_append, List.sum_append]
  rfl

-- The feed shows each count that is not zero, under its own id.
theorem attentionCount_item (id other : String) (severity : AttentionSeverity) (message : String) (count : Nat) :
    attentionCount (attentionItem id severity message count) other = if id = other then count else 0 := by
  unfold attentionCount attentionItem
  by_cases hcount : 0 < count
  · rw [if_pos hcount]
    by_cases hid : id = other
    · simp [hid]
    · simp [hid]
  · simp [Nat.eq_zero_of_not_pos hcount]

theorem needsAttention_counts (now : Nat) (tickets : List Ticket) (other : OtherCounts) :
    attentionCount (needsAttention now tickets other) "overdue_first_response" =
        (summary now tickets).overdueFirstResponse ∧
      attentionCount (needsAttention now tickets other) "overdue_resolution" =
        (summary now tickets).overdueResolution ∧
      attentionCount (needsAttention now tickets other) "unassigned_tickets" =
        (summary now tickets).unassigned := by
  simp [needsAttention, attentionCount_append, attentionCount_item, summary]
  exact ⟨rfl, rfl, rfl⟩

theorem holds_policyMet (doneAt dueAt : Option Nat) (ticket : Ticket) :
    (policyMet doneAt dueAt ticket).holds = (ticket.slaPolicyId.isSome && onTime doneAt dueAt) := by
  cases doneAt <;> simp [policyMet, withPolicy, notAfter, onTime]

theorem holds_policyBreached (now : Nat) (doneAt dueAt : Option Nat) (ticket : Ticket) :
    (policyBreached now doneAt dueAt ticket).holds =
      (ticket.slaPolicyId.isSome && overdue now doneAt dueAt) := by
  cases doneAt <;> cases dueAt <;> simp [policyBreached, withPolicy, before, overdue]

-- slaSummary as the theorems on resolution take it.
theorem slaCounts_eq (now : Nat) (store : TicketStore) :
    slaCounts now (store.tickets.rows.map Prod.snd) = slaSummary now store := by
  simp only [slaCounts, countWhere, holds_policyMet, holds_policyBreached, withPolicy, Truth.holds_isNotNull]
  rfl

theorem not_met_and_breached (now : Nat) (doneAt dueAt : Option Nat) (ticket : Ticket) :
    ¬ ((policyMet doneAt dueAt ticket).holds = true ∧ (policyBreached now doneAt dueAt ticket).holds = true) := by
  rw [holds_policyMet, holds_policyBreached, Bool.and_eq_true, Bool.and_eq_true]
  rintro ⟨⟨-, hmet⟩, -, hbreached⟩
  cases doneAt with
  | none => simp [onTime] at hmet
  | some done =>
      cases dueAt with
      | none => simp [onTime] at hmet
      | some due =>
          have hle : done ≤ due := by simpa [onTime] using hmet
          have hlt : due < done := by simpa [overdue] using hbreached
          omega

theorem pending_nonneg (now : Nat) (tickets : List Ticket) (doneAt dueAt : Ticket → Option Nat) :
    (0 : Int) ≤ countWhere withPolicy tickets -
      countWhere (fun ticket => policyMet (doneAt ticket) (dueAt ticket) ticket) tickets -
      countWhere (fun ticket => policyBreached now (doneAt ticket) (dueAt ticket) ticket) tickets := by
  have hmet : ∀ ticket, (policyMet (doneAt ticket) (dueAt ticket) ticket).holds = true →
      (withPolicy ticket).holds = true := by
    intro ticket h
    rw [policyMet, Truth.holds_both, Bool.and_eq_true] at h
    exact h.1
  have hbreached : ∀ ticket, (policyBreached now (doneAt ticket) (dueAt ticket) ticket).holds = true →
      (withPolicy ticket).holds = true := by
    intro ticket h
    rw [policyBreached, Truth.holds_both, Bool.and_eq_true] at h
    exact h.1
  have hle := countWhere_add_le tickets hmet hbreached fun ticket => not_met_and_breached now _ _ ticket
  omega

theorem overdue_everywhere :
    (∀ now ticket, (listWhere overdueQuery now ticket).holds = true ↔
      (summaryFirstResponse now ticket).holds = true ∨ (summaryResolution now ticket).holds = true) ∧
    (∀ now ticket, sweepReports now ticket.unnotified ≠ [] ↔
      (listWhere overdueQuery (now / 1000 * 1000) ticket).holds = true) ∧
    (∀ now tickets other,
      attentionCount (needsAttention now tickets other) "overdue_first_response" =
          (summary now tickets).overdueFirstResponse ∧
        attentionCount (needsAttention now tickets other) "overdue_resolution" =
          (summary now tickets).overdueResolution ∧
        attentionCount (needsAttention now tickets other) "unassigned_tickets" =
          (summary now tickets).unassigned) ∧
    (∀ now doneAt dueAt ticket,
      ¬ ((policyMet doneAt dueAt ticket).holds = true ∧ (policyBreached now doneAt dueAt ticket).holds = true)) ∧
    ∀ now tickets, 0 ≤ (slaCounts now tickets).firstResponse.pending ∧
      0 ≤ (slaCounts now tickets).resolution.pending := by
  refine ⟨?_, ?_, needsAttention_counts, not_met_and_breached, ?_⟩
  · intro now ticket
    rw [holds_overdueQuery, isOverdue_iff_summary]
  · intro now ticket
    rw [holds_overdueQuery, sweepReports_unnotified]
  · exact fun now tickets => ⟨pending_nonneg now tickets _ _, pending_nonneg now tickets _ _⟩

-- A ticket whose first response was due on a whole millisecond.
def dueTicket : Ticket where
  ticketNumber := 1
  subject := "Cannot log in"
  contactId := 1
  ticketTypeId := none
  status := .opened
  priority := .medium
  groupId := none
  agentId := none
  resourceId := none
  source := .email
  sourceDetail := none
  platform := none
  tags := []
  customFields := []
  requiredSkill := none
  slaPolicyId := some 1
  firstResponseDueAt := some 1753000000000000
  firstResponseAt := none
  firstResponseOverdueNotifiedAt := none
  resolutionDueAt := none
  resolvedAt := none
  resolutionOverdueNotifiedAt := none
  mergedIntoId := none
  createdAt := 1752996400000000
  updatedAt := 1752996400000000

-- 300 microseconds later it is overdue to the statements, not yet to the sweep's Dates.
theorem overdue_within_millisecond :
    ¬ ∀ now ticket, (listWhere overdueQuery now ticket).holds = true ↔
      sweepReports now ticket.unnotified ≠ [] :=
  fun h => absurd ((h 1753000000000300 dueTicket).mp (by decide)) (by decide)

end CloudOps.Ticketing
