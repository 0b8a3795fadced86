import CloudOps.Ticketing.RuleWrites

namespace CloudOps.Ticketing

open CloudOps.ReadCommitted CloudOps.Transaction

section Effects

variable (env : Environment) (now : Nat) (store : TicketStore)

def enumOf {α : Type} (text : α → String) (all : List α) (value : String) : Option α :=
  all.find? fun item => text item == value

def referenceOf (contains : TicketStore → Uuid → Bool) (value : String) : Option Uuid :=
  (env.castUuid value).filter (contains store)

-- What SET field = $1 does to a row, none for a value the column does not take.
def ActionField.setter (value : String) : ActionField → Option (Ticket → Ticket)
  | status => (enumOf TicketStatus.text TicketStatus.all value).map fun status ticket =>
      { ticket with
        status := status, resolvedAt := if status.isClosing then some now else none, updatedAt := now }
  | priority => (enumOf TicketPriority.text TicketPriority.all value).map fun priority ticket =>
      { ticket with priority := priority, updatedAt := now }
  | groupId => (referenceOf env store hasGroup value).map fun id ticket =>
      { ticket with groupId := some id, updatedAt := now }
  | agentId => (referenceOf env store hasAgent value).map fun id ticket =>
      { ticket with agentId := some id, updatedAt := now }
  | platform => (enumOf TicketPlatform.text TicketPlatform.all value).map fun platform ticket =>
      { ticket with platform := some platform, updatedAt := now }

-- What an action makes of the ticket it is applied to, if it raises nothing.
def AutomationAction.effect (action : AutomationAction) (ticket : Ticket) : Ticket :=
  match action.type.field with
  | some field =>
      if field.read env ticket = some action.value then ticket
      else (field.setter env now store action.value).elim ticket fun set => set ticket
  | none =>
      let tag := trim action.value
      if action.type = .addNote then ticket
      else if tag = "" then ticket
      else if ticket.tags.contains tag then ticket
      else { ticket with tags := ticket.tags ++ [tag], updatedAt := now }

def effects (actions : List AutomationAction) (ticket : Ticket) : Ticket :=
  actions.foldl (fun ticket action => action.effect env now store ticket) ticket

def ruleEffects (rules : List AutomationRule) (ticket : Ticket) : Ticket :=
  rules.foldl (fun ticket rule =>
    if rule.conditions.all (conditionMatches env ticket) then effects env now store rule.actions ticket
    else ticket) ticket

-- An action raises nothing on a ticket that has its value already, or whose column
-- takes it.
def AutomationAction.applies (action : AutomationAction) (ticket : Ticket) : Bool :=
  action.type.field.all fun field =>
    field.read env ticket == some action.value || (field.setter env now store action.value).isSome

-- The same of all of them, each on what the ones before it have made of the ticket.
def actionsApply : List AutomationAction → Ticket → Bool
  | [], _ => true
  | action :: rest, ticket =>
      action.applies env now store ticket && actionsApply rest (action.effect env now store ticket)

def rulesApply : List AutomationRule → Ticket → Bool
  | [], _ => true
  | rule :: rest, ticket =>
      if rule.conditions.all (conditionMatches env ticket) then
        actionsApply env now store rule.actions ticket &&
          rulesApply rest (effects env now store rule.actions ticket)
      else rulesApply rest ticket

end Effects

-- A transaction on one ticket has left this row of it, and the other tickets, the
-- groups and the agents as they were.
structure RanOn (id : Uuid) (before : TicketStore) (row : Ticket) (after : TicketStore) : Prop where
  row : after.tickets.lookup id = some row
  others : ∀ other, other ≠ id → after.tickets.lookup other = before.tickets.lookup other
  groups : after.groups = before.groups
  agents : after.agents = before.agents

theorem RanOn.refl {id : Uuid} {store : TicketStore} {row : Ticket} (h : store.tickets.lookup id = some row) :
    RanOn id store row store :=
  ⟨h, fun _ _ => rfl, rfl, rfl⟩

theorem RanOn.insert {id : Uuid} {before after : TicketStore} {row : Ticket}
    (htickets : after.tickets = before.tickets.insert id row) (hgroups : after.groups = before.groups)
    (hagents : after.agents = before.agents) : RanOn id before row after where
  row := htickets ▸ AList.lookup_insert _
  others _ hother := htickets ▸ AList.lookup_insert_ne hother
  groups := hgroups
  agents := hagents

theorem Written.ranOn {id : Uuid} {store after : TicketStore} {row : Ticket} (h : Written store id row after) :
    RanOn id store row after := by
  rcases h.rest with rfl | rfl
  · exact .refl h.found
  · exact .insert rfl rfl rfl

theorem RanOn.trans {id : Uuid} {first second third : TicketStore} {row last : Ticket}
    (h : RanOn id first row second) (hnext : RanOn id second last third) : RanOn id first last third where
  row := hnext.row
  others other hother := (hnext.others other hother).trans (h.others other hother)
  groups := hnext.groups.trans h.groups
  agents := hnext.agents.trans h.agents

theorem RanOn.congr {id : Uuid} {before after later : TicketStore} {row : Ticket} (h : RanOn id before row after)
    (htickets : later.tickets = after.tickets) (hgroups : later.groups = after.groups)
    (hagents : later.agents = after.agents) : RanOn id before row later where
  row := htickets ▸ h.row
  others other hother := htickets ▸ h.others other hother
  groups := hgroups.trans h.groups
  agents := hagents.trans h.agents

variable {env : Environment} {now : Nat} {value : String} {before : TicketStore} {id : Uuid} {ticket : Ticket}

-- An UPDATE by id that finds its row.
theorem updateTicket_ranOn (h : before.tickets.lookup id = some ticket) (set : Ticket → Ticket) :
    ∃ after, (updateTicket id set).run before = .ok (some (set ticket), after) ∧
      RanOn id before (set ticket) after :=
  ⟨_, updateTicket_run ticket h set, .insert rfl rfl rfl⟩

-- What a text is found to stand for, or an exception.
def Finds {α : Type} (tx : TicketM α) (before : TicketStore) : Option α → Prop
  | none => ∃ error, tx.run before = .error error
  | some item => tx.run before = .ok (item, before)

theorem castEnum_finds {α : Type} (name : String) (text : α → String) (all : List α) :
    Finds (castEnum name text all value) before (enumOf text all value) := by
  unfold castEnum enumOf
  cases all.find? fun item => text item == value with
  | none => exact ⟨_, rfl⟩
  | some item => exact rfl

theorem castReference_finds (contains : TicketStore → Uuid → Bool) :
    Finds (castReference env contains value) before (referenceOf env before contains value) := by
  unfold castReference castUuid referenceOf
  cases env.castUuid value with
  | none => exact ⟨_, rfl⟩
  | some id =>
      cases hknown : contains before id with
      | true =>
          simp only [Option.filter, hknown, if_true, Finds]
          simp [hknown]
          rfl
      | false =>
          simp only [Option.filter, hknown, Bool.false_eq_true, if_false]
          exact ⟨.error "foreign key constraint violated", by simp [hknown]; rfl⟩

theorem Finds.setter {α : Type} {tx : TicketM α} {found : Option α} (h : Finds tx before found)
    (set : α → Ticket → Ticket) :
    Finds (do let item ← tx; return set item : TicketM (Ticket → Ticket)) before (found.map set) := by
  cases found with
  | none => exact h.imp fun _ herror => run_bind_error herror
  | some item => exact run_bind_ok h

-- An assignment raises exactly if the column does not take the value.
theorem ActionField.assign_finds (field : ActionField) :
    Finds (field.assign env now value) before (field.setter env now before value) := by
  cases field with
  | status => exact (castEnum_finds _ _ _).setter _
  | priority => exact (castEnum_finds _ _ _).setter _
  | platform => exact (castEnum_finds _ _ _).setter _
  | groupId => exact (castReference_finds _).setter _
  | agentId => exact (castReference_finds _).setter _

-- The transaction raises nothing exactly if `applies`, and then makes `row` of its ticket.
def Makes (tx : TicketM Ticket) (id : Uuid) (before : TicketStore) (applies : Bool) (row : Ticket) : Prop :=
  if applies then ∃ after, tx.run before = .ok (row, after) ∧ RanOn id before row after
  else ∃ error, tx.run before = .error error

theorem Makes.bind {tx : TicketM Ticket} {next : Ticket → TicketM Ticket} {applies nextApplies : Bool}
    {row last : Ticket} (h : Makes tx id before applies row)
    (hnext : ∀ after, RanOn id before row after → Makes (next row) id after nextApplies last) :
    Makes (tx >>= next) id before (applies && nextApplies) last := by
  unfold Makes at h ⊢
  cases applies with
  | false =>
      obtain ⟨error, herror⟩ := h
      exact ⟨error, run_bind_error herror⟩
  | true =>
      obtain ⟨middle, hrun, hran⟩ := h
      have hlast := hnext middle hran
      unfold Makes at hlast
      cases nextApplies with
      | false =>
          obtain ⟨error, herror⟩ := hlast
          exact ⟨error, (run_bind_ok hrun).trans herror⟩
      | true =>
          obtain ⟨after, hafter, hranAfter⟩ := hlast
          exact ⟨after, (run_bind_ok hrun).trans hafter, hran.trans hranAfter⟩

theorem makes_pure (h : before.tickets.lookup id = some ticket) : Makes (pure ticket) id before true ticket :=
  ⟨before, rfl, .refl h⟩

theorem Makes.commits_iff {tx : TicketM Ticket} {applies : Bool} {row : Ticket} (h : Makes tx id before applies row) :
    Commits tx before ↔ applies = true := by
  unfold Makes at h
  cases applies with
  | true =>
      obtain ⟨after, hrun, -⟩ := h
      exact iff_of_true ⟨row, after, hrun⟩ rfl
  | false =>
      obtain ⟨error, herror⟩ := h
      exact iff_of_false (Commits.not_of_error herror) (by simp)

theorem Makes.ensures {tx : TicketM Ticket} {applies : Bool} {row : Ticket} (h : Makes tx id before applies row) :
    Ensures tx before fun result after => applies = true ∧ result = row ∧ RanOn id before row after := by
  intro result after hr
  have happlies := h.commits_iff.mp ⟨result, after, hr⟩
  unfold Makes at h
  rw [if_pos happlies] at h
  obtain ⟨_, hrun, hran⟩ := h
  obtain ⟨rfl, rfl⟩ := Prod.mk.inj (Except.ok.inj (hr.symm.trans hrun))
  exact ⟨happlies, rfl, hran⟩

theorem makes_applyAction (h : before.tickets.lookup id = some ticket) (action : AutomationAction) :
    Makes (applyAction env now id ticket action) id before (action.applies env now before ticket)
      (action.effect env now before ticket) := by
  unfold applyAction AutomationAction.effect AutomationAction.applies
  cases action.type.field with
  | some field =>
      rw [Option.all_some]
      dsimp only
      by_cases hvalue : field.read env ticket = some action.value
      · rw [if_pos hvalue, if_pos hvalue, hvalue, beq_self_eq_true, Bool.true_or]
        exact makes_pure h
      · rw [if_neg hvalue, if_neg hvalue, beq_eq_false_iff_ne.mpr hvalue, Bool.false_or]
        have hassign : Finds (field.assign env now action.value) before (field.setter env now before action.value) :=
          field.assign_finds
        cases hset : field.setter env now before action.value with
        | none =>
            rw [hset] at hassign
            obtain ⟨error, herror⟩ := hassign
            exact ⟨error, run_bind_error herror⟩
        | some set =>
            rw [hset] at hassign
            obtain ⟨after, hupdate, hran⟩ := updateTicket_ranOn h set
            exact ⟨_, (run_bind_ok hassign).trans (run_bind_ok hupdate), hran.congr rfl rfl rfl⟩
  | none =>
      dsimp only
      split
      · exact ⟨_, rfl, (RanOn.refl h).congr rfl rfl rfl⟩
      split
      · exact makes_pure h
      split
      · exact makes_pure h
      · obtain ⟨after, hupdate, hran⟩ := updateTicket_ranOn h fun row : Ticket =>
          { row with tags := row.tags ++ [trim action.value], updatedAt := now }
        exact ⟨after, run_bind_ok hupdate, hran⟩

section Configuration

-- What actions do depends on no more of the store than its groups and its agents.
variable {after : TicketStore} {row : Ticket}

theorem RanOn.setter (h : RanOn id before row after) (value : String) (field : ActionField) :
    field.setter env now after value = field.setter env now before value := by
  have hgroup : hasGroup after = hasGroup before := by
    unfold hasGroup
    rw [h.groups]
  have hagent : hasAgent after = hasAgent before := by
    unfold hasAgent
    rw [h.agents]
  cases field with
  | status | priority | platform => rfl
  | groupId => simp only [ActionField.setter, referenceOf, hgroup]
  | agentId => simp only [ActionField.setter, referenceOf, hagent]

theorem RanOn.effect (h : RanOn id before row after) :
    AutomationAction.effect env now after = AutomationAction.effect env now before := by
  funext action ticket
  unfold AutomationAction.effect
  cases action.type.field with
  | none => rfl
  | some field => simp only [h.setter]

theorem RanOn.effects (h : RanOn id before row after) : effects env now after = effects env now before := by
  funext actions ticket
  simp only [Ticketing.effects, h.effect]

theorem RanOn.actionsApply (h : RanOn id before row after) (actions : List AutomationAction) (ticket : Ticket) :
    actionsApply env now after actions ticket = actionsApply env now before actions ticket := by
  induction actions generalizing ticket with
  | nil => rfl
  | cons action rest ih =>
      simp only [Ticketing.actionsApply, AutomationAction.applies, h.setter, h.effect, ih]

theorem RanOn.rulesApply (h : RanOn id before row after) (rules : List AutomationRule) (ticket : Ticket) :
    rulesApply env now after rules ticket = rulesApply env now before rules ticket := by
  induction rules generalizing ticket with
  | nil => rfl
  | cons rule rest ih => simp only [Ticketing.rulesApply, h.actionsApply, h.effects, ih]

theorem RanOn.ruleEffects (h : RanOn id before row after) :
    ruleEffects env now after = ruleEffects env now before := by
  funext rules ticket
  simp only [Ticketing.ruleEffects, h.effects]

end Configuration

theorem makes_applyActions (actions : List AutomationAction) (h : before.tickets.lookup id = some ticket) :
    Makes (applyActions env now id actions ticket) id before (actionsApply env now before actions ticket)
      (effects env now before actions ticket) := by
  induction actions generalizing ticket before with
  | nil => exact makes_pure h
  | cons action rest ih =>
      refine (makes_applyAction h action).bind fun after hran => ?_
      have hrest := ih hran.row
      rwa [hran.actionsApply, hran.effects] at hrest

theorem makes_applyRules (rules : List AutomationRule) (h : before.tickets.lookup id = some ticket) :
    Makes (applyRules env now id rules ticket) id before (rulesApply env now before rules ticket)
      (ruleEffects env now before rules ticket) := by
  induction rules generalizing ticket before with
  | nil => exact makes_pure h
  | cons rule rest ih =>
      unfold applyRules rulesApply
      rw [ruleEffects, List.foldl_cons, ← ruleEffects]
      split
      · refine (makes_applyActions rule.actions h).bind fun after hran => ?_
        have hrest := ih hran.row
        rwa [hran.rulesApply, hran.ruleEffects] at hrest
      · exact ih h

-- The rules of a trigger raise nothing exactly if each action they come to applies.
theorem makes_runRules (trigger : AutomationTrigger) (h : before.tickets.lookup id = some ticket) :
    Makes (runRules env trigger id ticket now) id before
      (rulesApply env now before (triggeredRules before trigger) ticket)
      (ruleEffects env now before (triggeredRules before trigger) ticket) :=
  makes_applyRules _ h

-- The row that is returned is the one left, with what rules do not touch as it was.
theorem runRules_leaves (trigger : AutomationTrigger) (h : before.tickets.lookup id = some ticket) :
    Ensures (runRules env trigger id ticket now) before fun result after =>
      after.tickets.lookup id = some result ∧ result.beyondRules = ticket.beyondRules ∧
        result = ruleEffects env now before (triggeredRules before trigger) ticket := by
  intro result after hrun
  obtain ⟨-, rfl, hran⟩ := (makes_runRules trigger h).ensures result after hrun
  obtain ⟨kept, hkept, hcolumns⟩ := (keeps_runRules env trigger id ticket now before _ after hrun).lookup h
  obtain rfl := Option.some.inj (hran.row.symm.trans hkept)
  exact ⟨hran.row, hcolumns, rfl⟩

end CloudOps.Ticketing
