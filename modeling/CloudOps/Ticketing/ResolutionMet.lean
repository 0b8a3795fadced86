import CloudOps.Ticketing.ResolvedAt
import CloudOps.Ticketing.RuleEffects

namespace CloudOps.Ticketing

open CloudOps.ReadCommitted CloudOps.Transaction

section Dashboard

-- The timestamp stands, and is not after the due date.
def onTime (doneAt dueAt : Option Nat) : Bool := doneAt.any fun done => dueAt.any fun due => done ≤ due

-- It is after the due date, or the due date has passed without it.
def overdue (now : Nat) (doneAt dueAt : Option Nat) : Bool := dueAt.any fun due => due < doneAt.getD now

def Ticket.resolutionMet (ticket : Ticket) : Bool :=
  ticket.slaPolicyId.isSome && onTime ticket.resolvedAt ticket.resolutionDueAt

def Ticket.resolutionBreached (now : Nat) (ticket : Ticket) : Bool :=
  ticket.slaPolicyId.isSome && overdue now ticket.resolvedAt ticket.resolutionDueAt

structure SlaTally where
  met : Nat
  breached : Nat
  pending : Int
  deriving DecidableEq

structure SlaSummary where
  totalWithSla : Nat
  firstResponse : SlaTally
  resolution : SlaTally
  deriving DecidableEq

-- DashboardService.slaSummary
def slaSummary (now : Nat) (store : TicketStore) : SlaSummary :=
  let tickets := store.tickets.rows.map Prod.snd
  let totalWithSla := tickets.countP fun ticket => ticket.slaPolicyId.isSome
  let tally (met breached : Ticket → Bool) : SlaTally :=
    let metCount := tickets.countP met
    let breachedCount := tickets.countP breached
    ⟨metCount, breachedCount, totalWithSla - metCount - breachedCount⟩
  { totalWithSla := totalWithSla
    firstResponse := tally
      (fun ticket => ticket.slaPolicyId.isSome && onTime ticket.firstResponseAt ticket.firstResponseDueAt)
      (fun ticket => ticket.slaPolicyId.isSome && overdue now ticket.firstResponseAt ticket.firstResponseDueAt)
    resolution := tally Ticket.resolutionMet (Ticket.resolutionBreached now) }

-- No ticket is counted on both sides.
theorem not_breached_of_met {ticket : Ticket} (h : ticket.resolutionMet = true) (now : Nat) :
    ticket.resolutionBreached now = false := by
  unfold Ticket.resolutionMet onTime at h
  unfold Ticket.resolutionBreached overdue
  cases hdone : ticket.resolvedAt <;> cases hdue : ticket.resolutionDueAt <;> simp_all

end Dashboard

section Statuses

variable (env : Environment) (now : Nat) (store : TicketStore)

-- The status an action assigns to the ticket it is applied to.
def AutomationAction.assignedStatus (action : AutomationAction) (ticket : Ticket) : Option TicketStatus :=
  match action.type with
  | .setStatus =>
      if ticket.status.text = action.value then none
      else enumOf TicketStatus.text TicketStatus.all action.value
  | _ => none

-- The last status that actions assign, each to what the ones before it have made of the
-- ticket.
def lastStatus : List AutomationAction → Ticket → Option TicketStatus
  | [], _ => none
  | action :: rest, ticket =>
      (lastStatus rest (action.effect env now store ticket)).or (action.assignedStatus ticket)

def lastRuleStatus : List AutomationRule → Ticket → Option TicketStatus
  | [], _ => none
  | rule :: rest, ticket =>
      if rule.conditions.all (conditionMatches env ticket) then
        (lastRuleStatus rest (effects env now store rule.actions ticket)).or
          (lastStatus env now store rule.actions ticket)
      else lastRuleStatus rest ticket

end Statuses

-- The row has been given the status, if any, and the time of it with a terminal one.
structure Stamped (now : Nat) (assigned : Option TicketStatus) (row later : Ticket) : Prop where
  status : later.status = assigned.getD row.status
  resolvedAt : later.resolvedAt =
    assigned.elim row.resolvedAt fun status => if status.isClosing then some now else none

variable {env : Environment} {now : Nat} {store : TicketStore}

theorem Stamped.refl (row : Ticket) : Stamped now none row row := ⟨rfl, rfl⟩

theorem Stamped.trans {first second : Option TicketStatus} {row middle last : Ticket}
    (h : Stamped now first row middle) (hnext : Stamped now second middle last) :
    Stamped now (second.or first) row last := by
  cases second with
  | none => exact ⟨hnext.status.trans h.status, hnext.resolvedAt.trans h.resolvedAt⟩
  | some status => exact ⟨hnext.status, hnext.resolvedAt⟩

-- Of what actions assign, only a status comes with resolved_at.
theorem stamped_setter {value : String} {field : ActionField} (hfield : field ≠ .status) (ticket : Ticket) :
    Stamped now none ticket ((field.setter env now store value).elim ticket fun set => set ticket) := by
  cases hset : field.setter env now store value with
  | none => exact .refl ticket
  | some set =>
      cases field with
      | status => exact absurd rfl hfield
      | priority | groupId | agentId | platform =>
          obtain ⟨_, -, rfl⟩ := Option.map_eq_some_iff.mp hset
          exact ⟨rfl, rfl⟩

theorem stamped_effect (action : AutomationAction) (ticket : Ticket) :
    Stamped now (action.assignedStatus ticket) ticket (action.effect env now store ticket) := by
  obtain ⟨type, value⟩ := action
  unfold AutomationAction.assignedStatus AutomationAction.effect
  cases type with
  | setStatus =>
      simp only [ActionType.field, ActionField.read, Option.some.injEq, ActionField.setter]
      split
      · exact .refl ticket
      · cases enumOf TicketStatus.text TicketStatus.all value with
        | none => exact .refl ticket
        | some status => exact ⟨rfl, rfl⟩
  | setPriority | setGroup | setAgent | setPlatform =>
      dsimp only [ActionType.field]
      split
      · exact .refl ticket
      · exact stamped_setter (by simp) ticket
  | addNote => exact .refl ticket
  | addTag =>
      dsimp only [ActionType.field]
      split
      · exact .refl ticket
      split
      · exact .refl ticket
      split
      · exact .refl ticket
      · exact ⟨rfl, rfl⟩

theorem stamped_effects (actions : List AutomationAction) (ticket : Ticket) :
    Stamped now (lastStatus env now store actions ticket) ticket (effects env now store actions ticket) := by
  induction actions generalizing ticket with
  | nil => exact .refl ticket
  | cons action rest ih => exact (stamped_effect action ticket).trans (ih _)

theorem stamped_ruleEffects (rules : List AutomationRule) (ticket : Ticket) :
    Stamped now (lastRuleStatus env now store rules ticket) ticket (ruleEffects env now store rules ticket) := by
  induction rules generalizing ticket with
  | nil => exact .refl ticket
  | cons rule rest ih =>
      unfold lastRuleStatus
      rw [ruleEffects, List.foldl_cons, ← ruleEffects]
      split
      · exact (stamped_effects rule.actions ticket).trans (ih _)
      · exact ih ticket

-- A ticket that was terminal is so still only with the time it was resolved at.
def KeepsResolvedAt (before after : TicketStore) : Prop :=
  ∀ id row later, before.tickets.lookup id = some row → row.status.isClosing = true →
    after.tickets.lookup id = some later → later.status.isClosing = true → later.resolvedAt = row.resolvedAt

theorem KeepsResolvedAt.refl (store : TicketStore) : KeepsResolvedAt store store := by
  intro id row later hrow _ hlater _
  rw [Option.some.inj (hrow.symm.trans hlater)]

section Steps

variable {before after : TicketStore} {id : Uuid} {row later : Ticket} {assigned : Option TicketStatus}

-- Where one ticket is written, it depends on the last status it is assigned.
theorem keepsResolvedAt_iff (hrow : before.tickets.lookup id = some row) (hran : RanOn id before later after)
    (hstamped : Stamped now assigned row later) : KeepsResolvedAt before after ↔
      (row.status.isClosing = true → ∀ status, assigned = some status → status.isClosing = true →
        row.resolvedAt = some now) := by
  have hlater : KeepsResolvedAt before after ↔
      (row.status.isClosing = true → later.status.isClosing = true → later.resolvedAt = row.resolvedAt) := by
    constructor
    · exact fun h hclosing hlaterClosing => h id row later hrow hclosing hran.row hlaterClosing
    · intro h other otherRow otherLater hother hclosing hafter hafterClosing
      by_cases hsame : other = id
      · subst hsame
        obtain rfl := Option.some.inj (hrow.symm.trans hother)
        obtain rfl := Option.some.inj (hran.row.symm.trans hafter)
        exact h hclosing hafterClosing
      · rw [hran.others other hsame] at hafter
        rw [Option.some.inj (hother.symm.trans hafter)]
  rw [hlater, hstamped.status, hstamped.resolvedAt]
  cases assigned with
  | none => simp
  | some status =>
      simp only [Option.getD_some, Option.elim_some, Option.some.injEq, forall_eq']
      refine imp_congr_right fun _ => imp_congr_right fun hclosing => ?_
      rw [if_pos hclosing]
      exact eq_comm

theorem EditsFor.unique {idText : String} {dto : UpdateTicketDto} {key other : Uuid} {existing found : Ticket}
    {edits otherEdits : Edits} (h : EditsFor env idText dto now before key existing edits)
    (hother : EditsFor env idText dto now before other found otherEdits) :
    key = other ∧ existing = found ∧ edits = otherEdits := by
  obtain rfl := Option.some.inj (h.found.symm.trans hother.found)
  obtain rfl := Option.some.inj (h.row.symm.trans hother.row)
  obtain ⟨customEdits, hrun, rfl⟩ := h.edits
  obtain ⟨otherCustom, hotherRun, rfl⟩ := hother.edits
  obtain ⟨rfl, -⟩ := Prod.mk.inj (Except.ok.inj (hrun.symm.trans hotherRun))
  exact ⟨rfl, rfl, rfl⟩

theorem EditsFor.stamped {idText : String} {dto : UpdateTicketDto} {key : Uuid} {existing : Ticket}
    {edits : Edits} (h : EditsFor env idText dto now before key existing edits) :
    Stamped now dto.status existing (edits.updated now existing) := by
  obtain ⟨customFields, hrow⟩ := h.updated_eq
  obtain ⟨slaPolicyId, firstResponseDueAt, resolutionDueAt, hsla⟩ :=
    withSla_eq (recalculateSla env before existing (dto.ticketTypeId.resolve env)) _
  rw [hrow, hsla]
  exact ⟨rfl, rfl⟩

end Steps

variable (env) in
-- The last status an update assigns, its rules' included.
def updateStatus (now : Nat) (store : TicketStore) (dto : UpdateTicketDto) (edits : Edits) (existing : Ticket) :
    Option TicketStatus :=
  (lastRuleStatus env now store (triggeredRules store .ticketUpdated) (edits.updated now existing)).or dto.status

variable (env) in
-- An update that is committed assigns no terminal status, as the last one, to a ticket
-- that is terminal, but at the very time of its resolved_at.
def UpdateKeeps (store : TicketStore) (id : String) (dto : UpdateTicketDto) (actorAgentId : Option Uuid)
    (now : Nat) : Prop :=
  Commits (update env id dto actorAgentId now) store →
    ∀ key existing edits, EditsFor env id dto now store key existing edits → edits.sets ≠ [] →
      existing.status.isClosing = true → ∀ status, updateStatus env now store dto edits existing = some status →
        status.isClosing = true → existing.resolvedAt = some now

theorem update_keeps_iff (id : String) (dto : UpdateTicketDto) (actorAgentId : Option Uuid) :
    KeepsResolvedAt store (commit (update env id dto actorAgentId now) store) ↔
      UpdateKeeps env store id dto actorAgentId now := by
  unfold UpdateKeeps commit
  cases hrun : (update env id dto actorAgentId now).run store with
  | error error =>
      exact iff_of_true (.refl store) fun hcommits => absurd hcommits (Commits.not_of_error hrun)
  | ok pair =>
      obtain ⟨outcome, after⟩ := pair
      obtain ⟨key, existing, edits, hedits, hwritten⟩ :=
        update_writes env id dto actorAgentId now store outcome after hrun
      have hcommits : Commits (update env id dto actorAgentId now) store := ⟨outcome, after, hrun⟩
      rcases hwritten with ⟨hnone, rfl⟩ | ⟨hsome, hrules⟩
      · refine iff_of_true (.refl after) ?_
        intro _ other found otherEdits hother hsets
        obtain ⟨rfl, rfl, rfl⟩ := hedits.unique hother
        exact absurd hnone hsets
      · have hrequested : RanOn key store (edits.updated now existing)
            (requested key (edits.updated now existing) actorAgentId edits.changes store) := .insert rfl rfl rfl
        obtain ⟨-, -, hran⟩ := (makes_runRules .ticketUpdated hrequested.row).ensures outcome.result after hrules
        rw [hrequested.ruleEffects] at hran
        have hruled : Stamped now (lastRuleStatus env now store (triggeredRules store .ticketUpdated)
              (edits.updated now existing)) (edits.updated now existing)
            (ruleEffects env now store (triggeredRules store .ticketUpdated) (edits.updated now existing)) :=
          stamped_ruleEffects _ _
        have hstamped := hedits.stamped.trans hruled
        refine (keepsResolvedAt_iff hedits.row (hrequested.trans hran) hstamped).trans ?_
        constructor
        · intro h _ other found otherEdits hother _
          obtain ⟨rfl, rfl, rfl⟩ := hedits.unique hother
          exact h
        · exact fun h => h hcommits key existing edits hedits hsome

variable (env) in
-- The same of a scenario.
def ScenarioKeeps (desk : HelpDesk) (scenarioId ticketId : String) (now : Nat) : Prop :=
  Commits (HelpDesk.applyScenario env scenarioId ticketId now) desk →
    ∀ scenarioKey actions key ticket, env.castUuid scenarioId = some scenarioKey →
      desk.scenarios.lookup scenarioKey = some actions → env.castUuid ticketId = some key →
      desk.tickets.lookup key = some ticket → ticket.status.isClosing = true →
      ∀ status, lastStatus env now desk.toTicketStore actions ticket = some status →
        status.isClosing = true → ticket.resolvedAt = some now

theorem scenario_keeps_iff (scenarioId ticketId : String) (desk : HelpDesk) :
    KeepsResolvedAt desk.toTicketStore
        (commit (HelpDesk.applyScenario env scenarioId ticketId now) desk).toTicketStore ↔
      ScenarioKeeps env desk scenarioId ticketId now := by
  unfold ScenarioKeeps commit
  cases hrun : (HelpDesk.applyScenario env scenarioId ticketId now).run desk with
  | error error =>
      exact iff_of_true (.refl _) fun hcommits => absurd hcommits (Commits.not_of_error hrun)
  | ok pair =>
      obtain ⟨row, after⟩ := pair
      have hcommits : Commits (HelpDesk.applyScenario env scenarioId ticketId now) desk := ⟨row, after, hrun⟩
      obtain ⟨scenarioKey, actions, key, ticket, hscenario, hactions, hkey, hticket, hrow⟩ :=
        applyScenario_writes scenarioId ticketId now desk row after hrun
      obtain ⟨-, -, hran⟩ := (makes_applyActions actions hticket).ensures row _ hrow
      refine (keepsResolvedAt_iff hticket hran (stamped_effects actions ticket)).trans ?_
      constructor
      · intro h _ otherScenario otherActions other found hotherScenario hotherActions hother hfound
        obtain rfl := Option.some.inj (hscenario.symm.trans hotherScenario)
        obtain rfl := Option.some.inj (hactions.symm.trans hotherActions)
        obtain rfl := Option.some.inj (hkey.symm.trans hother)
        obtain rfl := Option.some.inj (hticket.symm.trans hfound)
        exact h
      · exact fun h => h hcommits scenarioKey actions key ticket hscenario hactions hkey hticket

section Others

variable {id : Uuid} {row : Ticket}

-- A terminal ticket that stays as it was.
def Holds (id : Uuid) (row : Ticket) (store : TicketStore) : Prop := store.tickets.lookup id = some row

theorem aboutTickets_holds : AboutTickets (Holds id row) := by
  intro before after hbefore htickets _
  unfold Holds
  rw [htickets]
  exact hbefore

theorem keepsResolvedAt_of_holds {before after : TicketStore}
    (h : ∀ id row, row.status.isClosing = true → Holds id row before → Holds id row after) :
    KeepsResolvedAt before after := by
  intro id row later hrow hclosing hlater _
  rw [Option.some.inj ((h id row hclosing hrow).symm.trans hlater)]

theorem create_holds (dto : CreateTicketDto) (newIds : GeneratedIds) (now : Nat) :
    Keeps (Stays (Holds id row)) (create env dto newIds now) := by
  apply Keeps.stays
  intro before hbefore
  refine (create_writes env dto newIds now before).mono ?_
  rintro result after ⟨ticket, middle, hticket, hfree, hrules⟩
  obtain ⟨hagree, -⟩ := newTicket_ensures env dto newIds now before ticket middle hticket
  have htickets : middle.tickets = before.tickets := hagree.comp TicketStore.tickets
  have hmiddle : Holds id row middle := by
    rw [Holds, htickets]
    exact hbefore
  have hother : id ≠ newIds.ticketId := by
    rintro rfl
    rw [Holds, hfree] at hmiddle
    cases hmiddle
  obtain ⟨-, -, hran⟩ := (makes_runRules .ticketCreated (AList.lookup_insert _)).ensures result after hrules
  rw [Holds, hran.others id hother, AList.lookup_insert_ne hother]
  exact hmiddle

theorem importTicket_holds (runtime : Runtime) (ticket : FreshdeskTicket) (context : MigrationContext)
    (newIds : GeneratedIds) :
    Keeps (Stays (OfDesk (Holds id row))) (HelpDesk.importTicket runtime ticket context newIds) := by
  refine importTicket_stays runtime aboutTickets_holds ticket context newIds ?_
  intro store imported hstore hfree _
  have hother : id ≠ newIds.ticketId := by
    rintro rfl
    rw [Holds, hfree] at hstore
    cases hstore
  rw [Holds, putTicket, AList.lookup_insert_ne hother]
  exact hstore

-- Actions on another ticket.
theorem actionsKeep_holds {other : Uuid} (hother : id ≠ other) :
    ActionsKeep env (fun _ _ => True) now other fun _ store => Holds id row store := by
  intro ticket before action result after hbefore _ hwrite
  cases hwrite with
  | kept hread => exact hbefore
  | assigned field set found hfield hvalue hset hfound =>
      rw [Holds, assignRow, AList.lookup_insert_ne hother]
      exact hbefore
  | noted hfield => exact hbefore
  | tagged found tag hfield hfound =>
      rw [Holds, AList.lookup_insert_ne hother]
      exact hbefore

theorem sweepCandidates_holds (rule : TimeAutomation.TimeRule) (candidates : List (Uuid × Ticket))
    (hother : ∀ candidate ∈ candidates, id ≠ candidate.1) (appliedCount : Nat) :
    Keeps (Stays (OfDesk (Holds id row))) (HelpDesk.sweepCandidates env now rule candidates appliedCount) := by
  induction candidates generalizing appliedCount with
  | nil => exact .pure _
  | cons candidate rest ih =>
      obtain ⟨hfirst, hrest⟩ := List.forall_mem_cons.mp hother
      unfold HelpDesk.sweepCandidates
      split
      · have hactions : Keeps (Stays (Holds id row)) (applyActions env now candidate.1 rule.actions candidate.2) :=
          .stays fun before hbefore => (actionsKeep_holds hfirst).applyActions rule.actions candidate.2 before
            (actionsMeet_true _ _ _ _ _ _) hbefore
        refine .bind (onTickets_stays hactions) fun _ => .bind (.modify fun desk hdesk => ?_) fun _ => ih hrest _
        split
        · exact hdesk
        · exact hdesk
      · exact ih hrest appliedCount

-- A terminal ticket is no candidate of a sweep.
theorem sweepRule_holds (hclosing : row.status.isClosing = true) (order : ScanOrder (Uuid × Ticket))
    (rule : TimeAutomation.TimeRule) :
    Keeps (Stays (OfDesk (Holds id row))) (HelpDesk.sweepRule env order now rule) := by
  apply Keeps.stays
  intro desk hdesk
  have hother : ∀ candidate ∈ order.apply (HelpDesk.candidates now rule desk), id ≠ candidate.1 := by
    rintro ⟨_, ticket⟩ hmem rfl
    have hcandidate := (order.perm _).mem_iff.mp hmem
    simp only [HelpDesk.candidates, List.mem_filter, Table.mem_rows, Bool.and_eq_true, Bool.not_eq_true'] at hcandidate
    obtain rfl := Option.some.inj (hdesk.symm.trans hcandidate.1)
    rw [hclosing] at hcandidate
    cases hcandidate.2.1.1
  exact .get_bind fun value after hr => sweepCandidates_holds rule _ hother 0 desk value after hr hdesk

theorem sweepTenant_holds (hclosing : row.status.isClosing = true) (order : ScanOrder (Uuid × Ticket)) :
    Keeps (Stays (OfDesk (Holds id row))) (HelpDesk.sweepTenant env order now) :=
  sweepTenant_keeps order now fun rule => sweepRule_holds hclosing order rule

end Others

-- A merge keeps the time of a ticket that has one.
theorem merge_keepsResolvedAt (primaryId : String) (sourceTicketIds : List String) (now : Nat)
    (h : ResolvedTracksStatus store) :
    KeepsResolvedAt store (commit (merge env primaryId sourceTicketIds now) store) := by
  intro id row later hrow hclosing hlater _
  let Kept : TicketStore → Prop := fun after =>
    ∃ later, after.tickets.lookup id = some later ∧ later.resolvedAt = row.resolvedAt
  have hresolved : row.resolvedAt.isSome = true := by
    refine (h id row hrow).mpr ?_
    simpa [TicketStatus.isClosing] using hclosing
  have hmerge : Ensures (merge env primaryId sourceTicketIds now) store fun _ after => Kept after := by
    suffices hkeep : ∀ primaryKey primary, env.castUuid primaryId = some primaryKey →
        store.tickets.lookup primaryKey = some primary →
        MergeKeeps env primaryId primaryKey primary.ticketNumber now (fun _ => Kept) ∧ Kept store from
      merge_ensures primaryId sourceTicketIds now store hkeep (fun _ h => h) fun _ _ _ h => h
    intro primaryKey primary _ _
    refine ⟨⟨fun _ _ h => h, fun _ _ _ _ _ h _ _ _ _ => h, ?_⟩, row, hrow, rfl⟩
    rintro sourceId rest before key source ⟨kept, hkept, hkeptAt⟩ - - hsource -
    by_cases hsame : id = key
    · subst hsame
      obtain rfl := Option.some.inj (hkept.symm.trans hsource)
      refine ⟨_, AList.lookup_insert _, ?_⟩
      obtain ⟨resolvedAt, hsome⟩ := Option.isSome_iff_exists.mp hresolved
      rw [mergedRow, hkeptAt, hsome, Option.some_or]
    · exact ⟨kept, (AList.lookup_insert_ne hsame).trans hkept, hkeptAt⟩
  obtain ⟨kept, hkept, hkeptAt⟩ := hmerge.commit ⟨row, hrow, rfl⟩
  rw [Option.some.inj (hlater.symm.trans hkept)]
  exact hkeptAt

theorem triageTicket_keepsResolvedAt (runtime : Runtime) (ticketId : Uuid) (reply : AiReply) (order : ScanOrder String)
    (desk : HelpDesk) :
    KeepsResolvedAt desk.toTicketStore
      (commit (HelpDesk.triageTicket env runtime ticketId reply order) desk).toTicketStore := by
  suffices htriage : Ensures (HelpDesk.triageTicket env runtime ticketId reply order) desk
      fun _ after => KeepsResolvedAt desk.toTicketStore after.toTicketStore from htriage.commit (.refl _)
  refine (triageTicket_ensures runtime ticketId reply order desk).mono fun _ after hwrite => ?_
  generalize after.toTicketStore = store at hwrite
  cases hwrite with
  | kept hnot => exact .refl _
  | applied row suggestion priority newTypeId after happlies hsuggested hwritten =>
      have hstamped : Stamped 0 none row (suggestedRow priority newTypeId suggestion.tags row) := ⟨rfl, rfl⟩
      exact (keepsResolvedAt_iff happlies.row hwritten.ranOn hstamped).mpr fun _ _ hnone => nomatch hnone

variable (env) (runtime : Runtime)

-- What a call must not do, lest a terminal ticket gets another resolved_at. Only updates
-- and scenarios can do it.
def CallKeeps (desk : HelpDesk) : HelpDeskCall → Prop
  | .tickets (.update id dto actorAgentId now) => UpdateKeeps env desk.toTicketStore id dto actorAgentId now
  | .applyScenario scenarioId ticketId now => ScenarioKeeps env desk scenarioId ticketId now
  | .tickets (.create _ _ _) | .tickets (.merge _ _ _) | .sweepTenant _ _ | .importTicket _ _ _
  | .triageTicket _ _ _ => True

theorem step_keepsResolvedAt_iff (desk : HelpDesk) (call : HelpDeskCall)
    (h : ResolvedTracksStatus desk.toTicketStore) :
    KeepsResolvedAt desk.toTicketStore (desk.step env runtime call).toTicketStore ↔ CallKeeps env desk call := by
  cases call with
  | tickets call =>
      cases call with
      | create dto newIds now =>
          exact iff_of_true (keepsResolvedAt_of_holds fun _ _ _ => (create_holds dto newIds now).commit _) trivial
      | update id dto actorAgentId now => exact update_keeps_iff id dto actorAgentId
      | merge primaryId sourceTicketIds now =>
          exact iff_of_true (merge_keepsResolvedAt primaryId sourceTicketIds now h) trivial
  | applyScenario scenarioId ticketId now => exact scenario_keeps_iff scenarioId ticketId desk
  | sweepTenant order now =>
      exact iff_of_true (keepsResolvedAt_of_holds fun _ _ hclosing =>
        (sweepTenant_holds hclosing order).commit desk) trivial
  | importTicket ticket context newIds =>
      exact iff_of_true (keepsResolvedAt_of_holds fun _ _ _ =>
        (importTicket_holds runtime ticket context newIds).commit desk) trivial
  | triageTicket ticketId reply order =>
      exact iff_of_true (triageTicket_keepsResolvedAt runtime ticketId reply order desk) trivial

-- The ticket is resolved or closed.
def TerminalTicket (id : Uuid) (desk : HelpDesk) : Prop :=
  ∃ row, desk.tickets.lookup id = some row ∧ row.status.isClosing = true

def resolvedAtOf (id : Uuid) (desk : HelpDesk) : Option Nat := (desk.tickets.lookup id).bind Ticket.resolvedAt

theorem keepsResolvedAt_iff_stretch {desk after : HelpDesk} :
    KeepsResolvedAt desk.toTicketStore after.toTicketStore ↔ ∀ id,
      TerminalTicket id desk → TerminalTicket id after → resolvedAtOf id after = resolvedAtOf id desk := by
  unfold resolvedAtOf
  constructor
  · rintro h id ⟨row, hrow, hclosing⟩ ⟨later, hlater, hlaterClosing⟩
    rw [hrow, hlater]
    exact h id row later hrow hclosing hlater hlaterClosing
  · intro h id row later hrow hclosing hlater hlaterClosing
    have hkept := h id ⟨row, hrow, hclosing⟩ ⟨later, hlater, hlaterClosing⟩
    rwa [hrow, hlater] at hkept

-- A ticket whose target is counted as met is so at the end of a stretch that it is
-- terminal in, unless it has got another policy or another due date.
def MetStaysMet (id : Uuid) (desk : HelpDesk) (calls : List HelpDeskCall) : Prop :=
  ∀ first second rest, calls = first ++ (second ++ rest) →
    Runs.Always (HelpDesk.step env runtime) (TerminalTicket id)
      (Runs.run (HelpDesk.step env runtime) desk first) second →
    ∀ row later, (Runs.run (HelpDesk.step env runtime) desk first).tickets.lookup id = some row →
      (Runs.run (HelpDesk.step env runtime) desk (first ++ second)).tickets.lookup id = some later →
      later.slaPolicyId = row.slaPolicyId → later.resolutionDueAt = row.resolutionDueAt →
      row.resolutionMet = true → later.resolutionMet = true ∧ ∀ now, later.resolutionBreached now = false

theorem metStaysMet_of_kept {id : Uuid} {desk : HelpDesk} {calls : List HelpDeskCall}
    (h : Runs.KeptInStretches (HelpDesk.step env runtime) (TerminalTicket id) (resolvedAtOf id) desk calls) :
    MetStaysMet env runtime id desk calls := by
  intro first second rest hcalls hterminal row later hrow hlater hpolicy hdue hmet
  have hkept := h first second rest hcalls hterminal
  unfold resolvedAtOf at hkept
  rw [hrow, hlater] at hkept
  have hresolved : later.resolvedAt = row.resolvedAt := hkept
  have hlaterMet : later.resolutionMet = true := by
    rwa [Ticket.resolutionMet, hpolicy, hresolved, hdue]
  exact ⟨hlaterMet, not_breached_of_met hlaterMet⟩

-- From a tenant without tickets on, whatever is called and in whatever order.
theorem resolved_at_kept_iff (desk : HelpDesk) (hempty : desk.tickets = ∅) (calls : List HelpDeskCall) :
    (∀ id, Runs.KeptInStretches (HelpDesk.step env runtime) (TerminalTicket id) (resolvedAtOf id) desk calls ∧
        MetStaysMet env runtime id desk calls) ↔
      Runs.AllSteps (HelpDesk.step env runtime) (CallKeeps env) desk calls := by
  have htracks : ResolvedTracksStatus desk.toTicketStore := by
    intro id ticket hl
    rw [hempty, AList.lookup_empty] at hl
    cases hl
  have hstretches : (∀ id, Runs.KeptInStretches (HelpDesk.step env runtime) (TerminalTicket id) (resolvedAtOf id)
      desk calls) ↔ Runs.AllSteps (HelpDesk.step env runtime) (CallKeeps env) desk calls := by
    simp only [Runs.keptInStretches_iff]
    rw [← Runs.allSteps_forall]
    refine Runs.allSteps_congr calls htracks (step_resolvedTracksStatus env runtime) fun desk call h => ?_
    exact keepsResolvedAt_iff_stretch.symm.trans (step_keepsResolvedAt_iff env runtime desk call h)
  refine Iff.trans ?_ hstretches
  exact forall_congr' fun id => and_iff_left_of_imp (metStaysMet_of_kept env runtime)

def resolvedThenClosed : List HelpDeskCall :=
  [.tickets (.create (requestOf "Printer on fire") ⟨2, 1⟩ 10),
    .tickets (.update firstId { noChange with status := some .resolved } none 20),
    .tickets (.update firstId { noChange with status := some .closed } none 30)]

theorem resolvedThenClosed_kept_iff :
    (∀ id, Runs.KeptInStretches (HelpDesk.step twoIds plainRuntime) (TerminalTicket id) (resolvedAtOf id) newTenant
        resolvedThenClosed ∧ MetStaysMet twoIds plainRuntime id newTenant resolvedThenClosed) ↔
      Runs.AllSteps (HelpDesk.step twoIds plainRuntime) (CallKeeps twoIds) newTenant resolvedThenClosed :=
  resolved_at_kept_iff twoIds plainRuntime newTenant rfl _

theorem resolvedThenClosed_not_kept :
    ¬ Runs.KeptInStretches (HelpDesk.step twoIds plainRuntime) (TerminalTicket 1) (resolvedAtOf 1) newTenant
      resolvedThenClosed := by
  intro h
  let resolved := Runs.run (HelpDesk.step twoIds plainRuntime) newTenant (resolvedThenClosed.take 2)
  let closed := Runs.run (HelpDesk.step twoIds plainRuntime) newTenant resolvedThenClosed
  have hresolved : (resolved.tickets.lookup 1).map Ticket.status = some .resolved := by decide +kernel
  have hclosed : (closed.tickets.lookup 1).map Ticket.status = some .closed := by decide +kernel
  obtain ⟨row, hrow, hstatus⟩ := Option.map_eq_some_iff.mp hresolved
  obtain ⟨later, hlater, hlaterStatus⟩ := Option.map_eq_some_iff.mp hclosed
  have hkept := h (resolvedThenClosed.take 2) (resolvedThenClosed.drop 2) [] rfl
    ⟨⟨row, hrow, by rw [hstatus]; rfl⟩, later, hlater, by rw [hlaterStatus]; rfl⟩
  have hat : resolvedAtOf 1 resolved = some 20 := by decide +kernel
  have hlaterAt : resolvedAtOf 1 closed = some 30 := by decide +kernel
  exact absurd (hlaterAt.symm.trans (hkept.trans hat)) (by decide)

end CloudOps.Ticketing
