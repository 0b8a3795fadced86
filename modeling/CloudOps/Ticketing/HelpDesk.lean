import CloudOps.Js.Value
import CloudOps.Ticketing.Writes
import CloudOps.Ticketing.TimeAutomationSweep

namespace CloudOps.Ticketing

open CloudOps.ReadCommitted CloudOps.Transaction
open TimeAutomation (TimeRule)

-- auto_triage_mode
inductive TriageMode where
  | off
  | suggest
  | apply
  deriving DecidableEq

-- A row of ticket_ai_triage.
structure TicketAiTriage where
  ticketId : Uuid
  suggestedPriority : Option String
  suggestedTypeId : Option String
  suggestedTags : List String
  suggestedSkill : Option String
  rationale : String
  applied : Bool
  deriving DecidableEq

-- The tenant's rows that the services beside TicketsService read and write as well:
-- the scenarios' actions, the active time_based rules and their applications, the
-- column legacy_ticket_number, and what AI triage is set to and has suggested.
structure HelpDesk extends TicketStore where
  scenarios : Table Uuid (List AutomationAction)
  timeRules : List TimeRule
  applications : List (Uuid × Uuid)
  legacyTicketNumbers : Table Uuid Nat
  autoTriageMode : Option TriageMode
  defaultTriageMode : TriageMode
  ticketAiTriage : List TicketAiTriage

-- What a package and the runtime compute for these services: sanitize-html, the parser
-- of Date, and JSON.parse of an object, each key with its value.
structure Runtime where
  sanitizeHtml : String → String
  parseDate : String → Option Nat
  parseObject : String → Option (List (String × Js.Value))

abbrev HelpDeskM := StateT HelpDesk (Except ServiceError)

-- Statements on the ticketing tables.
def onTickets {α : Type} (tx : TicketM α) : HelpDeskM α := fun desk =>
  match tx.run desk.toTicketStore with
  | .ok (value, store) => .ok (value, { desk with toTicketStore := store })
  | .error error => .error error

def insertMessage (message : TicketMessage) : TicketM Unit :=
  modify fun store => { store with messages := store.messages ++ [message] }

namespace HelpDesk

variable (env : Environment)

-- ScenariosService.apply
def applyScenario (scenarioId ticketId : String) (now : Nat) : HelpDeskM Ticket := do
  let scenarioKey ← onTickets (castUuid env scenarioId)
  let desk ← get
  match desk.scenarios.lookup scenarioKey with
  | none => throw (.notFound s!"Scenario {scenarioId} not found")
  | some actions =>
      match ← onTickets (selectTicket env ticketId) with
      | none => throw (.notFound s!"Ticket {ticketId} not found")
      | some (key, ticket) => onTickets (applyActions env now key actions ticket)

-- ON CONFLICT (automation_rule_id, ticket_id) DO NOTHING
def insertApplication (ruleId ticketId : Uuid) : HelpDeskM Unit :=
  modify fun desk =>
    if (ruleId, ticketId) ∈ desk.applications then desk
    else { desk with applications := desk.applications ++ [(ruleId, ticketId)] }

def sweepCandidates (now : Nat) (rule : TimeRule) :
    List (Uuid × Ticket) → Nat → HelpDeskM Nat
  | [], appliedCount => pure appliedCount
  | (id, ticket) :: rest, appliedCount =>
      if rule.conditions.all (conditionMatches env ticket) then do
        let _ ← onTickets (applyActions env now id rule.actions ticket)
        insertApplication rule.id id
        sweepCandidates now rule rest (appliedCount + 1)
      else sweepCandidates now rule rest appliedCount

-- Open, old enough, and without an application of the rule.
def candidates (now : Nat) (rule : TimeRule) (desk : HelpDesk) : List (Uuid × Ticket) :=
  desk.tickets.rows.filter fun row =>
    !row.2.status.isClosing && decide (row.2.createdAt + rule.timeTriggerMinutes * 60000 ≤ now) &&
      !desk.applications.contains (rule.id, row.1)

def sweepRule (order : ScanOrder (Uuid × Ticket)) (now : Nat) (rule : TimeRule) : HelpDeskM Nat := do
  let desk ← get
  sweepCandidates env now rule (order.apply (candidates now rule desk)) 0

def sweepRules (order : ScanOrder (Uuid × Ticket)) (now : Nat) : List TimeRule → Nat → HelpDeskM Nat
  | [], appliedCount => pure appliedCount
  | rule :: rest, appliedCount => do
      let applied ← sweepRule env order now rule
      sweepRules order now rest (appliedCount + applied)

-- TimeAutomationSweepService.sweepTenant, with no transaction beside it. Statement
-- by statement it is `TimeAutomation.timeSweepService`.
def sweepTenant (order : ScanOrder (Uuid × Ticket)) (now : Nat) : HelpDeskM Nat := do
  let desk ← get
  sweepRules env order now desk.timeRules 0

end HelpDesk

-- What a transaction on the ticketing tables ensures of them, it ensures of the desk.
theorem onTickets_ensures {α : Type} {tx : TicketM α} {desk : HelpDesk}
    {post : α → HelpDesk → Prop}
    (h : Ensures tx desk.toTicketStore fun value store => post value { desk with toTicketStore := store }) :
    Ensures (onTickets tx) desk post := by
  intro value after hr
  simp only [onTickets, StateT.run] at hr
  split at hr
  · rename_i value' store hrun
    obtain ⟨rfl, rfl⟩ := Prod.mk.inj (Except.ok.inj hr)
    exact h _ store hrun
  · cases hr

theorem onTickets_stays {α : Type} {tx : TicketM α} {good : TicketStore → Prop}
    (h : Keeps (Stays good) tx) : Keeps (Stays fun desk : HelpDesk => good desk.toTicketStore) (onTickets tx) :=
  fun desk => onTickets_ensures (h desk.toTicketStore)

theorem onTickets_commits {α : Type} {tx : TicketM α} {desk : HelpDesk}
    (h : Commits tx desk.toTicketStore) : Commits (onTickets tx) desk := by
  obtain ⟨value, store, hrun⟩ := h
  refine ⟨value, { desk with toTicketStore := store }, ?_⟩
  simp only [StateT.run] at hrun
  simp only [onTickets, StateT.run, hrun]

-- A statement on the ticketing tables returns what it returns there.
theorem onTickets_ran {α : Type} (tx : TicketM α) (desk : HelpDesk) :
    Ensures (onTickets tx) desk fun value after => tx.run desk.toTicketStore = .ok (value, after.toTicketStore) :=
  onTickets_ensures (Ensures.ran tx desk.toTicketStore)

theorem onTickets_reads {α : Type} {tx : TicketM α} {desk : HelpDesk} {good : α → Prop}
    (h : Ensures tx desk.toTicketStore fun value store => desk.toTicketStore = store ∧ good value) :
    Ensures (onTickets tx) desk fun value after => desk = after ∧ good value := by
  refine onTickets_ensures (h.mono ?_)
  rintro value store ⟨rfl, hvalue⟩
  exact ⟨rfl, hvalue⟩

variable {env : Environment}

-- A scenario runs its actions on the ticket it finds.
theorem applyScenario_writes (scenarioId ticketId : String) (now : Nat) (desk : HelpDesk) :
    Ensures (HelpDesk.applyScenario env scenarioId ticketId now) desk fun row after =>
      ∃ scenarioKey actions key ticket, env.castUuid scenarioId = some scenarioKey ∧
        desk.scenarios.lookup scenarioKey = some actions ∧ env.castUuid ticketId = some key ∧
        desk.tickets.lookup key = some ticket ∧
        (applyActions env now key actions ticket).run desk.toTicketStore = .ok (row, after.toTicketStore) := by
  refine (onTickets_reads (castUuid_yields env scenarioId desk.toTicketStore)).bind ?_
  rintro scenarioKey _ ⟨rfl, hscenario⟩
  refine .get_bind ?_
  cases hactions : desk.scenarios.lookup scenarioKey with
  | none => exact .throw _
  | some actions =>
      refine (onTickets_reads (selectTicket_ensures env ticketId desk.toTicketStore)).bind ?_
      rintro found _ ⟨rfl, key, hkey, rfl⟩
      cases hl : desk.tickets.lookup key with
      | none => exact .throw _
      | some ticket =>
          refine (onTickets_ran _ desk).mono fun row after hrun => ?_
          exact ⟨scenarioKey, actions, key, ticket, hscenario, hactions, hkey, hl, hrun⟩

end CloudOps.Ticketing
