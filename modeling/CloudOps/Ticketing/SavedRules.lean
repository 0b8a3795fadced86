import CloudOps.Ticketing.AutomationRulesService
import CloudOps.Ticketing.ResolvedAt

namespace CloudOps.Ticketing

open CloudOps.ReadCommitted CloudOps.Transaction

-- The column an action sets takes its value, whatever the value of it before. A reference
-- is checked when the rule is saved. The length up to which the index on tags takes a key is
-- left out.
def AutomationAction.takesValue (action : AutomationAction) : Bool :=
  match action.type with
  | .setStatus => (enumOf TicketStatus.text TicketStatus.all action.value).isSome
  | .setPriority => (enumOf TicketPriority.text TicketPriority.all action.value).isSome
  | .setPlatform => (enumOf TicketPlatform.text TicketPlatform.all action.value).isSome
  | .setGroup | .setAgent | .addNote | .addTag => true

section Conditions

variable (env : Environment) (now : Nat) (store : TicketStore)

-- No rule has null for conditions; and of the rules whose conditions match the ticket, as
-- the rules before have left it, none has null for actions or an action with a value that
-- its column does not take. Saved conditions have no null among them.
def harmless : List SavedRule → Ticket → Bool
  | [], _ => true
  | rule :: rest, ticket =>
      match rule.conditions with
      | none => false
      | some conditions =>
          if conditions.all (conditionMatches env ticket) then
            match rule.actions with
            | none => false
            | some actions =>
                actions.all AutomationAction.takesValue && harmless rest (effects env now store actions ticket)
          else harmless rest ticket

-- The group or agent an action assigns is there.
def AutomationAction.ReferenceStands (action : AutomationAction) : Prop :=
  (action.type = .setGroup → (referenceOf env store hasGroup action.value).isSome) ∧
    (action.type = .setAgent → (referenceOf env store hasAgent action.value).isSome)

def ReferencesStand (rules : List SavedRule) : Prop :=
  ∀ rule ∈ rules, ∀ actions, rule.actions = some actions →
    ∀ action ∈ actions, action.ReferenceStands env store

end Conditions

variable {env : Environment} {now : Nat} {before : TicketStore} {id : Uuid} {ticket : Ticket}

theorem enumOf_text {α : Type} {text : α → String} {all : List α} {item : α} (h : item ∈ all) :
    (enumOf text all (text item)).isSome = true :=
  List.find?_isSome.mpr ⟨item, h, beq_self_eq_true _⟩

-- A value the column has already is one it takes.
theorem applies_eq_takesValue (action : AutomationAction) (h : action.ReferenceStands env before) (ticket : Ticket) :
    action.applies env now before ticket = action.takesValue := by
  obtain ⟨type, value⟩ := action
  obtain ⟨hgroup, hagent⟩ := h
  cases type with
  | setStatus =>
      simp only [AutomationAction.applies, AutomationAction.takesValue, ActionType.field, Option.all_some,
        ActionField.read, ActionField.setter, Option.isSome_map, Bool.or_eq_right_iff_imp, beq_iff_eq,
        Option.some.injEq]
      rintro rfl
      exact enumOf_text (by cases ticket.status <;> decide)
  | setPriority =>
      simp only [AutomationAction.applies, AutomationAction.takesValue, ActionType.field, Option.all_some,
        ActionField.read, ActionField.setter, Option.isSome_map, Bool.or_eq_right_iff_imp, beq_iff_eq,
        Option.some.injEq]
      rintro rfl
      exact enumOf_text (by cases ticket.priority <;> decide)
  | setPlatform =>
      simp only [AutomationAction.applies, AutomationAction.takesValue, ActionType.field, Option.all_some,
        ActionField.read, ActionField.setter, Option.isSome_map, Bool.or_eq_right_iff_imp, beq_iff_eq]
      intro hvalue
      obtain ⟨platform, -, rfl⟩ := Option.map_eq_some_iff.mp hvalue
      exact enumOf_text (by cases platform <;> decide)
  | setGroup => simp [AutomationAction.applies, AutomationAction.takesValue,
      ActionType.field, ActionField.setter, hgroup rfl]
  | setAgent => simp [AutomationAction.applies, AutomationAction.takesValue,
      ActionType.field, ActionField.setter, hagent rfl]
  | addNote | addTag => rfl

theorem actionsApply_eq_takesValue (actions : List AutomationAction)
    (h : ∀ action ∈ actions, action.ReferenceStands env before) (ticket : Ticket) :
    actionsApply env now before actions ticket = actions.all AutomationAction.takesValue := by
  induction actions generalizing ticket with
  | nil => rfl
  | cons action rest ih =>
      obtain ⟨hfirst, hrest⟩ := List.forall_mem_cons.mp h
      rw [actionsApply, applies_eq_takesValue action hfirst, ih hrest, List.all_cons]

theorem ReferencesStand.of_ranOn {rules : List SavedRule} {after : TicketStore} {row : Ticket}
    (h : ReferencesStand env before rules) (hran : RanOn id before row after) : ReferencesStand env after rules := by
  have hgroup : hasGroup after = hasGroup before := by
    unfold hasGroup
    rw [hran.groups]
  have hagent : hasAgent after = hasAgent before := by
    unfold hasAgent
    rw [hran.agents]
  intro rule hrule actions hactions action haction
  have hstands := h rule hrule actions hactions action haction
  unfold AutomationAction.ReferenceStands referenceOf at hstands ⊢
  rwa [hgroup, hagent]

theorem RanOn.harmless {after : TicketStore} {row : Ticket} (h : RanOn id before row after) (rules : List SavedRule)
    (ticket : Ticket) : harmless env now after rules ticket = Ticketing.harmless env now before rules ticket := by
  induction rules generalizing ticket with
  | nil => rfl
  | cons rule rest ih => simp only [Ticketing.harmless, h.effects, ih]

-- The loop raises nothing exactly if the rules are harmless.
theorem applyRules_commits_iff (rules : List SavedRule) (hrefs : ReferencesStand env before rules)
    (h : before.tickets.lookup id = some ticket) :
    Commits (AutomationRulesService.applyRules env now id rules ticket) before ↔
      harmless env now before rules ticket = true := by
  induction rules generalizing ticket before with
  | nil => exact iff_of_true ⟨ticket, before, rfl⟩ rfl
  | cons rule rest ih =>
      obtain ⟨hfirst, hrest⟩ := List.forall_mem_cons.mp hrefs
      unfold AutomationRulesService.applyRules harmless
      cases rule.conditions with
      | none => exact iff_of_false (Commits.not_of_error rfl) (by simp)
      | some conditions =>
          dsimp only
          split
          · cases hactions : rule.actions with
            | none => exact iff_of_false (Commits.not_of_error rfl) (by simp)
            | some actions =>
                have hmakes : Makes (applyActions env now id actions ticket) id before _ _ :=
                  makes_applyActions actions h
                dsimp only
                rw [actionsApply_eq_takesValue actions (hfirst actions hactions)] at hmakes
                cases hvalues : actions.all AutomationAction.takesValue with
                | false =>
                    rw [hvalues] at hmakes
                    obtain ⟨error, herror⟩ := hmakes
                    exact iff_of_false (Commits.not_of_error (run_bind_error herror)) (by simp)
                | true =>
                    rw [hvalues] at hmakes
                    obtain ⟨after, hrun, hran⟩ := hmakes
                    have hlater : ReferencesStand env after rest := ReferencesStand.of_ranOn hrest hran
                    rw [commits_bind_iff hrun, ih hlater hran.row, hran.harmless, Bool.true_and]
          · exact ih hrest h

-- The tables of one tenant that rules are saved in and applied to.
structure RuleDesk where
  store : TicketStore
  rules : RuleTable

-- A call of AutomationRulesService, or whatever else is done to the tenant's other tables.
inductive RuleCall where
  | create (dto : CreateAutomationRuleDto) (newId : Uuid) (now : Nat)
  | update (id : String) (dto : UpdateAutomationRuleDto) (now : Nat)
  | remove (id : String)
  | elsewhere (store : TicketStore)

variable (env) in
def RuleDesk.step (desk : RuleDesk) : RuleCall → RuleDesk
  | .create dto newId now =>
      { desk with rules := commit (AutomationRulesService.create env desk.store dto newId now) desk.rules }
  | .update id dto now =>
      { desk with rules := commit (AutomationRulesService.update env desk.store id dto now) desk.rules }
  | .remove id => { desk with rules := commit (AutomationRulesService.remove env id) desk.rules }
  | .elsewhere store => { desk with store := store }

variable (env) in
-- What a saved rule assigns to group_id or agent_id is the text of a uuid.
def ReferencesCast (actions : List AutomationAction) : Prop :=
  ∀ action ∈ actions, action.type = .setGroup ∨ action.type = .setAgent → (env.castUuid action.value).isSome

variable (env) in
def RulesChecked (rules : RuleTable) : Prop :=
  ∀ id rule, rules.lookup id = some rule → ∀ actions, rule.actions = some actions → ReferencesCast env actions

theorem castParameter_yields (text : String) :
    Yields Eq (fun id => env.castUuid text = some id) (castParameter env text) := by
  unfold castParameter
  cases env.castUuid text with
  | none => exact .throw _
  | some id => exact .pure rfl

theorem assertTargetExists_ensures (store : TicketStore)
    (contains : TicketStore → Uuid → Bool) (value message : String)
    (rules : RuleTable) : Ensures (assertTargetExists env store contains value message) rules fun _ after =>
      after = rules ∧ (env.castUuid value).isSome := by
  refine (castParameter_yields value rules).bind ?_
  rintro id _ ⟨rfl, hid⟩
  split
  · exact .pure ⟨rfl, Option.isSome_of_eq_some hid⟩
  · exact .throw _

theorem assertActionTarget_ensures (store : TicketStore) (action : AutomationAction) (rules : RuleTable) :
    Ensures (assertActionTarget env store action) rules fun _ after =>
      after = rules ∧
        (action.type = .setGroup ∨ action.type = .setAgent → (env.castUuid action.value).isSome) := by
  unfold assertActionTarget
  cases action.type with
  | setGroup | setAgent =>
      exact (assertTargetExists_ensures store _ action.value _ rules).mono fun _ _ h => ⟨h.1, fun _ => h.2⟩
  | setStatus | setPriority | setPlatform | addNote | addTag => exact .pure ⟨rfl, by simp⟩

theorem assertActionTargets_ensures (store : TicketStore) (actions : List AutomationAction) (rules : RuleTable) :
    Ensures (assertActionTargetsBelongToTenant env store actions) rules fun _ after =>
      after = rules ∧ ReferencesCast env actions := by
  induction actions with
  | nil => exact .pure ⟨rfl, by simp [ReferencesCast]⟩
  | cons action rest ih =>
      refine (assertActionTarget_ensures store action rules).bind ?_
      rintro _ _ ⟨rfl, hfirst⟩
      refine ih.mono ?_
      rintro _ after ⟨hsame, hrest⟩
      exact ⟨hsame, List.forall_mem_cons.mpr ⟨hfirst, hrest⟩⟩

theorem RulesChecked.insert {rules : RuleTable} (h : RulesChecked env rules) {id : Uuid} {rule : SavedRule}
    (hrule : ∀ actions, rule.actions = some actions → ReferencesCast env actions) :
    RulesChecked env (rules.insert id rule) := by
  intro other found hl
  rw [Table.lookup_insert_eq] at hl
  split at hl
  · obtain rfl := Option.some.inj hl
    exact hrule
  · exact h other found hl

theorem create_rulesChecked (store : TicketStore) (dto : CreateAutomationRuleDto) (newId : Uuid) (now : Nat) :
    Keeps (Stays (RulesChecked env)) (AutomationRulesService.create env store dto newId now) := by
  apply Keeps.stays
  intro rules hrules
  unfold AutomationRulesService.create
  split
  · exact .throw _
  · refine (assertActionTargets_ensures store dto.actions rules).bind ?_
    rintro _ _ ⟨rfl, hactions⟩
    refine .get_bind ?_
    split
    · exact .throw _
    · refine .modifyGet (hrules.insert ?_)
      rintro actions ⟨⟩
      exact hactions

theorem assertPatchedTargets_ensures (store : TicketStore)
    (patch : Patch (List AutomationAction)) (rules : RuleTable) :
    Ensures (AutomationRulesService.assertPatchedTargets env store patch) rules fun _ after =>
      after = rules ∧ ∀ actions, patch = .value actions → ReferencesCast env actions := by
  cases patch with
  | value actions =>
      refine (assertActionTargets_ensures store actions rules).mono ?_
      rintro _ after ⟨hsame, hactions⟩
      refine ⟨hsame, ?_⟩
      rintro _ ⟨⟩
      exact hactions
  | undefined | null => exact .pure ⟨rfl, by simp⟩

theorem Patch.assign_reads {α : Type} (patch : Patch α) (column : String) (current : α) :
    Keeps Eq (patch.assign column current) := by
  cases patch with
  | undefined | value => exact .pure _
  | null => exact .throw _

theorem updateRow_rulesChecked (key : Uuid) (dto : UpdateAutomationRuleDto) (now : Nat) (existing : SavedRule)
    (hactions : ∀ actions, dto.actions.over existing.actions = some actions → ReferencesCast env actions) :
    Keeps (Stays (RulesChecked env)) (AutomationRulesService.updateRow key dto now existing) := by
  refine .bind (dto.name.assign_reads _ _).of_eq fun name => ?_
  refine .bind (dto.trigger.assign_reads _ _).of_eq fun trigger => ?_
  refine .bind (dto.position.assign_reads _ _).of_eq fun position => ?_
  refine .bind (dto.isActive.assign_reads _ _).of_eq fun isActive => ?_
  exact .modifyGet fun rules hrules => hrules.insert hactions

theorem update_rulesChecked (store : TicketStore) (id : String) (dto : UpdateAutomationRuleDto) (now : Nat) :
    Keeps (Stays (RulesChecked env)) (AutomationRulesService.update env store id dto now) := by
  apply Keeps.stays
  intro rules hrules
  refine (castParameter_yields id rules).bind ?_
  rintro key _ ⟨rfl, -⟩
  refine .get_bind ?_
  cases hexisting : rules.lookup key with
  | none => exact .throw _
  | some existing =>
      refine (assertPatchedTargets_ensures store dto.actions rules).bind ?_
      rintro _ rules ⟨rfl, hpatched⟩
      split
      · exact .pure hrules
      · have hactions : ∀ actions, dto.actions.over existing.actions = some actions →
            ReferencesCast env actions := by
          cases hpatch : dto.actions with
          | undefined => exact hrules key existing hexisting
          | null => simp [Patch.over]
          | value actions =>
              rintro _ ⟨⟩
              exact hpatched actions hpatch
        intro rule after hr
        exact updateRow_rulesChecked key dto now existing hactions rules rule after hr hrules

theorem remove_rulesChecked (id : String) :
    Keeps (Stays (RulesChecked env)) (AutomationRulesService.remove env id) := by
  apply Keeps.stays
  intro rules hrules
  refine (castParameter_yields id rules).bind ?_
  rintro key _ ⟨rfl, -⟩
  refine .get_bind ?_
  split
  · refine .modify fun other rule hl => ?_
    by_cases hsame : other = key
    · subst hsame
      rw [AList.lookup_erase] at hl
      cases hl
    · rw [AList.lookup_erase_ne hsame] at hl
      exact hrules other rule hl
  · exact .throw _

theorem step_rulesChecked (desk : RuleDesk) (call : RuleCall) (h : RulesChecked env desk.rules) :
    RulesChecked env (desk.step env call).rules := by
  cases call with
  | create dto newId now => exact (create_rulesChecked desk.store dto newId now).commit _ h
  | update id dto now => exact (update_rulesChecked desk.store id dto now).commit _ h
  | remove id => exact (remove_rulesChecked id).commit _ h
  | elsewhere store => exact h

variable (env) in
-- Every group and agent that the saved rules refer to exists.
def ReferencesExist (desk : RuleDesk) : Prop :=
  ∀ id rule, desk.rules.lookup id = some rule → ∀ actions, rule.actions = some actions →
    ∀ action ∈ actions,
    ∀ key, env.castUuid action.value = some key →
      (action.type = .setGroup → key ∈ desk.store.groups) ∧
        (action.type = .setAgent → key ∈ desk.store.agents)

theorem mem_selectRules {order : ScanOrder SavedRule} {trigger : AutomationTrigger} {rules : RuleTable}
    {rule : SavedRule} (h : rule ∈ AutomationRulesService.selectRules order trigger rules) :
    ∃ id, rules.lookup id = some rule := by
  have hfound := (order.perm _).mem_iff.mp (List.mem_mergeSort.mp h)
  obtain ⟨⟨id, _⟩, hrow, rfl⟩ := List.mem_map.mp (List.mem_filter.mp hfound).1
  exact ⟨id, Table.mem_rows.mp hrow⟩

theorem referencesStand_of_checked {store : TicketStore} {rules : RuleTable} (hchecked : RulesChecked env rules)
    (hexist : ReferencesExist env ⟨store, rules⟩) (order : ScanOrder SavedRule) (trigger : AutomationTrigger) :
    ReferencesStand env store (AutomationRulesService.selectRules order trigger rules) := by
  intro rule hrule actions hactions action haction
  obtain ⟨id, hl⟩ := mem_selectRules hrule
  have hcast := hchecked id rule hl actions hactions action haction
  have hexists := hexist id rule hl actions hactions action haction
  unfold AutomationAction.ReferenceStands referenceOf
  refine ⟨fun htype => ?_, fun htype => ?_⟩
  · obtain ⟨key, hkey⟩ := Option.isSome_iff_exists.mp (hcast (.inl htype))
    simp [hkey, hasGroup, (hexists key hkey).1 htype]
  · obtain ⟨key, hkey⟩ := Option.isSome_iff_exists.mp (hcast (.inr htype))
    simp [hkey, hasAgent, (hexists key hkey).2 htype]

theorem insertNew_ensures (dto : CreateTicketDto) (newIds : GeneratedIds) (now : Nat) (before : TicketStore) :
    Ensures (AutomationRulesService.insertNew env dto newIds now) before fun ticket after =>
      after.tickets.lookup newIds.ticketId = some ticket ∧ after.groups = before.groups ∧
        after.agents = before.agents := by
  refine (newTicket_ensures env dto newIds now before).bind ?_
  rintro row middle ⟨hmiddle, -⟩
  refine (insertTicket_ensures newIds.ticketId row middle).bind ?_
  rintro _ _ ⟨-, rfl⟩
  exact .pure ⟨AList.lookup_insert _, hmiddle.comp TicketStore.groups, hmiddle.comp TicketStore.agents⟩

variable (env) in
-- Whatever rules have been saved and whatever ticket is inserted, the creation is not
-- rolled back exactly if the rules of ticket_created are harmless to the ticket.
theorem createTicket_commits_iff (store : TicketStore) (calls : List RuleCall) (order : ScanOrder SavedRule)
    (dto : CreateTicketDto) (newIds : GeneratedIds) (now : Nat) (ticket : Ticket) (inserted : TicketStore)
    (hexist : ReferencesExist env (Runs.run (RuleDesk.step env) ⟨store, ∅⟩ calls))
    (hinserted : (AutomationRulesService.insertNew env dto newIds now).run
      (Runs.run (RuleDesk.step env) ⟨store, ∅⟩ calls).store = .ok (ticket, inserted)) :
    Commits (AutomationRulesService.createTicket env
        (Runs.run (RuleDesk.step env) ⟨store, ∅⟩ calls).rules order dto
        newIds now) (Runs.run (RuleDesk.step env) ⟨store, ∅⟩ calls).store ↔
      harmless env now inserted (AutomationRulesService.selectRules order .ticketCreated
        (Runs.run (RuleDesk.step env) ⟨store, ∅⟩ calls).rules) ticket = true := by
  have hchecked : RulesChecked env (Runs.run (RuleDesk.step env) ⟨store, ∅⟩ calls).rules := by
    refine (Runs.always_of_step (fun desk : RuleDesk => RulesChecked env desk.rules) ?_ step_rulesChecked calls).last
    intro id rule hl
    rw [AList.lookup_empty] at hl
    cases hl
  generalize Runs.run (RuleDesk.step env) ⟨store, ∅⟩ calls = desk at hexist hinserted hchecked ⊢
  obtain ⟨hrow, hgroups, hagents⟩ := insertNew_ensures dto newIds now desk.store ticket inserted hinserted
  have hrefs : ReferencesStand env inserted
      (AutomationRulesService.selectRules order .ticketCreated desk.rules) := by
    have hstands : ReferencesExist env ⟨inserted, desk.rules⟩ := by
      intro id rule hl actions hactions action haction key hkey
      rw [hgroups, hagents]
      exact hexist id rule hl actions hactions action haction key hkey
    exact referencesStand_of_checked hchecked hstands order _
  exact (commits_bind_iff hinserted).trans (applyRules_commits_iff _ hrefs hrow)

def inProgress : CreateAutomationRuleDto where
  name := "Start work"
  trigger := .ticketCreated
  position := none
  isActive := none
  timeTriggerMinutes := none
  conditions := []
  actions := [⟨.setStatus, "in_progress"⟩]

def inProgressSaved : RuleDesk :=
  Runs.run (RuleDesk.step twoIds) ⟨newTenant.toTicketStore, ∅⟩ [.create inProgress 7 5]

-- The rule refers to no group and to no agent.
theorem inProgressSaved_references : ReferencesExist twoIds inProgressSaved := by
  have hrules : (inProgressSaved.rules.rows.map fun row => row.2.actions) = [some inProgress.actions] := by
    decide +kernel
  intro id rule hl actions hactions action haction key _
  have hmem : rule.actions ∈ inProgressSaved.rules.rows.map fun row => row.2.actions :=
    List.mem_map.mpr ⟨(id, rule), Table.mem_rows.mpr hl, rfl⟩
  rw [hrules, List.mem_singleton, hactions] at hmem
  obtain rfl := Option.some.inj hmem
  obtain rfl := List.mem_singleton.mp haction
  simp

def printerOnFire : Except ServiceError (Ticket × TicketStore) :=
  (AutomationRulesService.insertNew twoIds (requestOf "Printer on fire") ⟨2, 1⟩ 10).run inProgressSaved.store

theorem inProgress_commits_iff : ∃ ticket inserted, printerOnFire = .ok (ticket, inserted) ∧
    (Commits (AutomationRulesService.createTicket twoIds inProgressSaved.rules (.stored _)
        (requestOf "Printer on fire")
        ⟨2, 1⟩ 10) inProgressSaved.store ↔
      harmless twoIds 10 inserted (AutomationRulesService.selectRules (.stored _) .ticketCreated inProgressSaved.rules)
        ticket = true) := by
  have hok : printerOnFire.isOk = true := by decide +kernel
  cases hinserted : printerOnFire with
  | error error =>
      rw [hinserted] at hok
      cases hok
  | ok pair =>
      exact ⟨pair.1, pair.2, rfl, createTicket_commits_iff twoIds newTenant.toTicketStore [.create inProgress 7 5]
        (.stored _) (requestOf "Printer on fire") ⟨2, 1⟩ 10 pair.1 pair.2 inProgressSaved_references hinserted⟩

-- The rule is saved and the ticket inserted, and still there is no ticket.
theorem inProgress_rolls_back :
    Commits (AutomationRulesService.create twoIds newTenant.toTicketStore inProgress 7 5) ∅ ∧
      ReferencesExist twoIds inProgressSaved ∧ printerOnFire.isOk = true ∧
      ¬ Commits (AutomationRulesService.createTicket twoIds inProgressSaved.rules (.stored _)
        (requestOf "Printer on fire") ⟨2, 1⟩ 10) inProgressSaved.store := by
  refine ⟨⟨_, _, rfl⟩, inProgressSaved_references, by decide +kernel, ?_⟩
  rintro ⟨ticket, after, hrun⟩
  have hfails : ((AutomationRulesService.createTicket twoIds inProgressSaved.rules (.stored _)
      (requestOf "Printer on fire") ⟨2, 1⟩ 10).run inProgressSaved.store).isOk = false := by decide +kernel
  rw [hrun] at hfails
  cases hfails

end CloudOps.Ticketing
