import CloudOps.Mirrors
import CloudOps.Ticketing.AutomationRulesService
import CloudOps.Ticketing.MergePointers

-- What the rules of a trigger mean on the database alone: no ticket is handed from action to
-- action, and the row is read anew for every rule and for every action.
namespace CloudOps.Ticketing

open CloudOps.ReadCommitted CloudOps.Transaction

def ticketRow (id : Uuid) (store : TicketStore) : Option Ticket := store.tickets.lookup id

def readRow (id : Uuid) : TicketM Ticket := do
  let store ← get
  match ticketRow id store with
  | none => throw (.error "rows[0] is undefined")
  | some row => return row

section OnRow

variable (env : Environment) (now : Nat) (id : Uuid)

def applyToRow (action : AutomationAction) : TicketM Unit := do
  let row ← readRow id
  let _ ← applyAction env now id row action
  return ()

def applyActionsToRow : List AutomationAction → TicketM Unit
  | [] => pure ()
  | action :: rest => do
      applyToRow env now id action
      applyActionsToRow rest

def applyRulesToRow : List SavedRule → TicketM Unit
  | [] => pure ()
  | rule :: rest => do
      let row ← readRow id
      match rule.conditions with
      | none => throw (.error "Cannot read properties of null (reading 'every')")
      | some conditions =>
          if conditions.all (conditionMatches env row) then
            match rule.actions with
            | none => throw (.error "rule.actions is not iterable")
            | some actions => do
                applyActionsToRow env now id actions
                applyRulesToRow rest
          else applyRulesToRow rest

def runRulesOnRow (rules : List SavedRule) : TicketM Ticket := do
  applyRulesToRow env now id rules
  readRow id

end OnRow

variable {env : Environment} {now : Nat} {id : Uuid} {ticket : Ticket} {store : TicketStore}

theorem run_readRow {row : Ticket} {state : TicketStore} (h : ticketRow id state = some row) :
    (readRow id).run state = .ok (row, state) := by
  simp only [readRow, StateT.run_bind, StateT.run_get, pure_bind, h]
  rfl

-- Whatever its type, an action hands on the row it leaves.
theorem applyAction_row (h : ticketRow id store = some ticket) (action : AutomationAction) :
    Ensures (applyAction env now id ticket action) store fun row after => ticketRow id after = some row := by
  refine (makes_applyAction h action).ensures.mono ?_
  rintro row after ⟨-, rfl, hran⟩
  exact hran.row

theorem mirrors_applyAction (h : ticketRow id store = some ticket) (action : AutomationAction) :
    Mirrors (ticketRow id) (applyAction env now id ticket action) (applyToRow env now id action) store :=
  .of_read (run_readRow h) (.of_ensures (applyAction_row h action))

theorem mirrors_applyActions (actions : List AutomationAction) (h : ticketRow id store = some ticket) :
    Mirrors (ticketRow id) (applyActions env now id actions ticket) (applyActionsToRow env now id actions) store := by
  induction actions generalizing ticket store with
  | nil => exact .pure h
  | cons action rest ih => exact (mirrors_applyAction h action).bind fun _ _ hread => ih hread

theorem mirrors_applyRules (rules : List SavedRule) (h : ticketRow id store = some ticket) :
    Mirrors (ticketRow id) (AutomationRulesService.applyRules env now id rules ticket)
      (applyRulesToRow env now id rules) store := by
  induction rules generalizing ticket store with
  | nil => exact .pure h
  | cons rule rest ih =>
      refine .of_read (run_readRow h) ?_
      unfold AutomationRulesService.applyRules
      cases rule.conditions with
      | none => exact .throw _
      | some conditions =>
          dsimp only
          split
          · cases rule.actions with
            | none => exact .throw _
            | some actions => exact (mirrors_applyActions actions h).bind fun _ _ hread => ih hread
          · exact ih h

section Notes

def systemNote (id : Uuid) (now : Nat) (body : String) : TicketMessage where
  ticketId := id
  type := .note
  authorType := .system
  authorId := none
  body := body
  cc := []
  createdAt := now

def noteTexts (actions : List AutomationAction) : List String :=
  (actions.filter fun action => action.type = .addNote).map AutomationAction.value

-- The notes of the rules that match, each asked of the ticket the ones before it leave.
def ruleNotes (env : Environment) (now : Nat) (store : TicketStore) : List AutomationRule → Ticket → List String
  | [], _ => []
  | rule :: rest, ticket =>
      if rule.conditions.all (conditionMatches env ticket) then
        noteTexts rule.actions ++ ruleNotes env now store rest (effects env now store rule.actions ticket)
      else ruleNotes env now store rest ticket

-- The messages after these notes have been written to the ticket.
def WithNotes (id : Uuid) (now : Nat) (texts : List String) (before after : TicketStore) : Prop :=
  after.messages = before.messages ++ texts.map (systemNote id now)

variable {first second third : TicketStore}

theorem WithNotes.of_agree (h : Agree TicketStore.messages first second) : WithNotes id now [] first second :=
  (show second.messages = first.messages from h).trans (List.append_nil _).symm

theorem WithNotes.trans {texts others : List String} (h : WithNotes id now texts first second)
    (hnext : WithNotes id now others second third) : WithNotes id now (texts ++ others) first third := by
  unfold WithNotes at *
  rw [hnext, h, List.map_append, List.append_assoc]

theorem updateTicket_messages (set : Ticket → Ticket) : Keeps (Agree TicketStore.messages) (updateTicket id set) := by
  refine .modifyGet fun store => ?_
  split <;> rfl

theorem applyAction_notes (action : AutomationAction) :
    Ensures (applyAction env now id ticket action) store fun _ after =>
      WithNotes id now (noteTexts [action]) store after := by
  obtain ⟨type, value⟩ := action
  cases hfield : type.field with
  | some field =>
      have htexts : noteTexts [⟨type, value⟩] = [] := by
        cases type <;> first | rfl | cases hfield
      have hkeeps : Keeps (Agree TicketStore.messages) (applyAction env now id ticket ⟨type, value⟩) := by
        unfold applyAction
        simp only [hfield]
        split
        · exact .pure _
        refine (Keeps.of_eq ?_).bind fun set => (updateTicket_messages set).bind fun row => ?_
        · exact fun before => (field.assign_yields env now value before).mono fun _ _ h => h.1
        · cases row with
          | none => exact .throw _
          | some row => exact .bind (.modify fun _ => rfl) fun _ => .pure _
      rw [htexts]
      exact (hkeeps store).mono fun _ _ h => .of_agree h
  | none =>
      cases type with
      | setStatus | setPriority | setGroup | setAgent | setPlatform => cases hfield
      | addNote => exact .modify_bind (.pure rfl)
      | addTag =>
          have hkeeps : Keeps (Agree TicketStore.messages) (applyAction env now id ticket ⟨.addTag, value⟩) := by
            unfold applyAction
            simp only [ActionType.field, reduceCtorEq, if_false]
            split
            · exact .pure _
            split
            · exact .pure _
            refine (updateTicket_messages _).bind fun row => ?_
            cases row with
            | none => exact .throw _
            | some row => exact .pure _
          exact (hkeeps store).mono fun _ _ h => .of_agree h

theorem applyActions_notes (actions : List AutomationAction) :
    Ensures (applyActions env now id actions ticket) store fun _ after =>
      WithNotes id now (noteTexts actions) store after := by
  induction actions generalizing ticket store with
  | nil => exact .pure (.of_agree rfl)
  | cons action rest ih =>
      refine (applyAction_notes action).bind fun row middle hfirst => ih.mono fun _ after hrest => ?_
      have htexts : noteTexts (action :: rest) = noteTexts [action] ++ noteTexts rest := by
        unfold noteTexts
        rw [← List.map_append, ← List.filter_append, List.singleton_append]
      exact htexts ▸ hfirst.trans hrest

end Notes

section Saved

variable (env now id)

-- What a pass of saved rules has made of its ticket, if it returns.
structure Applied (rules : List AutomationRule) (before : TicketStore) (ticket row : Ticket)
    (after : TicketStore) : Prop where
  effects : row = ruleEffects env now before rules ticket
  ran : RanOn id before row after
  notes : WithNotes id now (ruleNotes env now before rules ticket) before after

end Saved

theorem RanOn.ruleNotes {row : Ticket} {before after : TicketStore} (h : RanOn id before row after) :
    ruleNotes env now after = ruleNotes env now before := by
  funext rules ticket
  induction rules generalizing ticket with
  | nil => rfl
  | cons rule rest ih => simp only [Ticketing.ruleNotes, h.effects, ih]

-- A rule with a null raises as soon as it is asked, or as soon as it matches.
theorem applyRules_applied (rules : List SavedRule) (h : ticketRow id store = some ticket) :
    Ensures (AutomationRulesService.applyRules env now id rules ticket) store fun result after =>
      Applied env now id (rules.map SavedRule.rule) store ticket result after := by
  induction rules generalizing ticket store with
  | nil => exact .pure ⟨rfl, .refl h, .of_agree rfl⟩
  | cons rule rest ih =>
      unfold AutomationRulesService.applyRules
      cases hconditions : rule.conditions with
      | none => exact .throw _
      | some conditions =>
          have hasked : rule.rule.conditions = conditions := by rw [SavedRule.rule, hconditions, Option.getD_some]
          dsimp only
          split
          case isFalse hunmet =>
            refine (ih h).mono fun row after happlied => ⟨happlied.effects.trans ?_, happlied.ran, ?_⟩
            · rw [ruleEffects, ruleEffects, List.map_cons, List.foldl_cons, hasked, if_neg hunmet]
            · rw [List.map_cons, ruleNotes, hasked, if_neg hunmet]
              exact happlied.notes
          case isTrue hmet =>
            cases hactions : rule.actions with
            | none => exact .throw _
            | some actions =>
                have hdone : rule.rule.actions = actions := by rw [SavedRule.rule, hactions, Option.getD_some]
                refine Ensures.bind (fun row middle hrun =>
                  And.intro ((makes_applyActions actions h).ensures row middle hrun)
                    (applyActions_notes actions row middle hrun)) ?_
                rintro row middle ⟨⟨-, rfl, hran⟩, hnotes⟩
                refine (ih hran.row).mono fun last after happlied => ?_
                have heffects := happlied.effects
                have hrest := happlied.notes
                rw [hran.ruleEffects] at heffects
                rw [hran.ruleNotes] at hrest
                refine ⟨heffects.trans ?_, hran.trans happlied.ran, ?_⟩
                · rw [ruleEffects, ruleEffects, List.map_cons, List.foldl_cons, hasked, if_pos hmet, hdone]
                · rw [List.map_cons, ruleNotes, hasked, if_pos hmet, hdone]
                  exact hnotes.trans hrest

-- The caller in TicketsService.create hands over the row it inserted.
theorem createTicket_row (rules : RuleTable) (order : ScanOrder SavedRule) (dto : CreateTicketDto)
    (newIds : GeneratedIds) :
    Ensures (AutomationRulesService.createTicket env rules order dto newIds now) store fun ticket after =>
      ticketRow newIds.ticketId after = some ticket := by
  have hinserted : Ensures (AutomationRulesService.insertNew env dto newIds now) store fun ticket middle =>
      ticketRow newIds.ticketId middle = some ticket := by
    refine Ensures.bind (.ran _ _) fun ticket middle _ => ?_
    refine (insertTicket_ensures newIds.ticketId ticket middle).bind ?_
    rintro - after ⟨-, rfl⟩
    exact .pure (AList.lookup_insert _)
  exact hinserted.bind fun ticket middle h => (mirrors_applyRules _ h).ensures

-- SELECT ... WHERE trigger = $1 AND is_active ORDER BY position, created_at
theorem selectRules_perm (order : ScanOrder SavedRule) (trigger : AutomationTrigger) (rules : RuleTable) :
    (AutomationRulesService.selectRules order trigger rules).Perm
      ((rules.rows.map Prod.snd).filter fun rule => rule.trigger = trigger && rule.isActive) :=
  (List.mergeSort_perm _ _).trans (order.perm _)

theorem selectRules_sorted (order : ScanOrder SavedRule) (trigger : AutomationTrigger) (rules : RuleTable) :
    (AutomationRulesService.selectRules order trigger rules).Pairwise fun rule other =>
      rule.position < other.position ∨ rule.position = other.position ∧ rule.createdAt ≤ other.createdAt := by
  unfold AutomationRulesService.selectRules
  refine (List.pairwise_mergeSort ?_ ?_ _).imp ?_
  · intro first second third hfirst hsecond
    simp only [Bool.or_eq_true, Bool.and_eq_true, decide_eq_true_eq, beq_iff_eq] at *
    omega
  · intro first second
    simp only [Bool.or_eq_true, Bool.and_eq_true, decide_eq_true_eq, beq_iff_eq]
    omega
  · intro rule other h
    simpa using h

-- The ticket runRules hands on is the row throughout: the rules, by position, do what they do
-- on the row alone, and it returns the row they leave. That row is the ticket with the effects
-- of the rules that match, each asked of what the ones before it left.
theorem runRules_eq_runRulesOnRow (env : Environment) (now : Nat) (rules : RuleTable) (order : ScanOrder SavedRule)
    (trigger : AutomationTrigger) (h : ticketRow id store = some ticket) :
    let selected := AutomationRulesService.selectRules order trigger rules
    selected.Perm ((rules.rows.map Prod.snd).filter fun rule => rule.trigger = trigger && rule.isActive) ∧
      (selected.Pairwise fun rule other =>
        rule.position < other.position ∨ rule.position = other.position ∧ rule.createdAt ≤ other.createdAt) ∧
      (AutomationRulesService.runRules env rules order trigger id ticket now).run store =
        (runRulesOnRow env now id selected).run store ∧
      Ensures (AutomationRulesService.runRules env rules order trigger id ticket now) store fun result after =>
        ticketRow id after = some result ∧
          result = ruleEffects env now store (selected.map SavedRule.rule) ticket ∧
          WithNotes id now (ruleNotes env now store (selected.map SavedRule.rule) ticket) store after := by
  intro selected
  have hmirrors : Mirrors (ticketRow id) (AutomationRulesService.applyRules env now id selected ticket)
      (applyRulesToRow env now id selected) store := mirrors_applyRules selected h
  refine ⟨selectRules_perm order trigger rules, selectRules_sorted order trigger rules, ?_, ?_⟩
  · exact hmirrors.run_eq fun row state hread => run_readRow hread
  · exact (applyRules_applied selected h).mono fun row after happlied =>
      ⟨happlied.ran.row, happlied.effects, happlied.notes⟩

def resolvePrinter : SavedRule where
  name := "Printers resolve themselves"
  trigger := .ticketCreated
  position := 0
  isActive := true
  conditions := some [⟨.subject, .contains, "printer"⟩]
  actions := some [⟨.setStatus, "resolved"⟩, ⟨.addNote, "Turned off and on again"⟩, ⟨.addTag, "printer"⟩]
  timeTriggerMinutes := none
  createdAt := 0
  updatedAt := 0

def resolvedPrinter : Ticket :=
  { unmergedTicket 1 with status := .resolved, resolvedAt := some 5, tags := ["printer"], updatedAt := 5 }

theorem runRules_eq_runRulesOnRow_printer :
    ∃ after, (AutomationRulesService.runRules twoIds ((∅ : RuleTable).insert 7 resolvePrinter) (.stored SavedRule)
        .ticketCreated 1 (unmergedTicket 1) 5).run twoTickets = .ok (resolvedPrinter, after) ∧
      ticketRow 1 after = some resolvedPrinter ∧
      after.messages = twoTickets.messages ++ [systemNote 1 5 "Turned off and on again"] := by
  have hrow : ticketRow 1 twoTickets = some (unmergedTicket 1) := rfl
  have hpass := (runRules_eq_runRulesOnRow twoIds 5 ((∅ : RuleTable).insert 7 resolvePrinter) (.stored SavedRule)
    .ticketCreated hrow).2.2.2
  have hselected : AutomationRulesService.selectRules (.stored SavedRule) .ticketCreated
      ((∅ : RuleTable).insert 7 resolvePrinter) = [resolvePrinter] :=
    List.mergeSort_singleton resolvePrinter
  rw [hselected] at hpass
  have heffects : ruleEffects twoIds 5 twoTickets [resolvePrinter.rule] (unmergedTicket 1) = resolvedPrinter := by
    decide +kernel
  have hnotes : ruleNotes twoIds 5 twoTickets [resolvePrinter.rule] (unmergedTicket 1) =
      ["Turned off and on again"] := by
    decide +kernel
  obtain ⟨result, after, hrun⟩ : Commits (AutomationRulesService.runRules twoIds
      ((∅ : RuleTable).insert 7 resolvePrinter) (.stored SavedRule) .ticketCreated 1 (unmergedTicket 1) 5)
      twoTickets := by
    unfold AutomationRulesService.runRules
    rw [hselected, applyRules_of_saved 5 1 [resolvePrinter] (by decide) (by decide)]
    exact (makes_applyRules [resolvePrinter.rule] rfl).commits_iff.mpr (by decide +kernel)
  obtain ⟨hrow, hresult, hmessages⟩ := hpass result after hrun
  rw [List.map_singleton] at hresult hmessages
  obtain rfl := hresult.trans heffects
  refine ⟨after, hrun, hrow, ?_⟩
  rw [WithNotes, hnotes] at hmessages
  exact hmessages

end CloudOps.Ticketing
