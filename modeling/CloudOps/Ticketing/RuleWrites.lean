import CloudOps.Ticketing.TicketsService

namespace CloudOps.Ticketing

open CloudOps.ReadCommitted CloudOps.Transaction

variable (env : Environment)

def putTicket (id : Uuid) (row : Ticket) (store : TicketStore) : TicketStore :=
  { store with tickets := store.tickets.insert id row }

-- The row stands in the store, and nothing else has changed.
structure Written (store : TicketStore) (id : Uuid) (row : Ticket) (after : TicketStore) : Prop where
  found : after.tickets.lookup id = some row
  rest : after = store ∨ after = putTicket id row store

-- The ids a field of the request stands for; a text that stands for none raises.
def Patch.resolve : Patch String → Patch (String × Uuid)
  | undefined => undefined
  | null => null
  | value text => (env.castUuid text).elim undefined fun id => value (text, id)

theorem checkCustomFields_reads (submitted : CustomFields) :
    Keeps Eq (checkCustomFields env submitted) := by
  unfold checkCustomFields
  split
  · exact .pure _
  · exact .throw _

theorem castUuid_yields (text : String) :
    Yields Eq (fun key => env.castUuid text = some key) (castUuid env text) := by
  unfold castUuid
  split
  · rename_i key h
    exact .pure h
  · exact .throw _

theorem assertBelongsToTenant_yields (contains : TicketStore → Uuid → Bool) (id label : String) :
    Yields Eq (fun key => env.castUuid id = some key) (assertBelongsToTenant env contains id label) := by
  refine (castUuid_yields env id).bind fun key hkey => ?_
  refine Keeps.get.bind_yields fun _ => ?_
  split
  · exact .pure hkey
  · exact .throw _

theorem optionalOf_reads (contains : TicketStore → Uuid → Bool) (id : Option String) (label : String) :
    Keeps Eq (optionalOf env contains id label) := by
  cases id with
  | none => exact .pure _
  | some text => exact .map (assertBelongsToTenant_reads env _ _ _)

theorem groupOf_reads (groupId : Option String) (defaultGroupId : Option Uuid) :
    Keeps Eq (groupOf env groupId defaultGroupId) := by
  cases groupId with
  | some text => exact .map (assertBelongsToTenant_reads env _ _ _)
  | none =>
      cases defaultGroupId with
      | none => exact .pure _
      | some id =>
          refine .bind .get fun _ => ?_
          dsimp only
          split
          · exact .pure _
          · exact .throw _

theorem castEnum_yields {α : Type} (name : String) (text : α → String) (all : List α) (value : String) :
    Yields Eq (fun item => text item = value) (castEnum name text all value) := by
  unfold castEnum
  split
  · rename_i item hfound
    have htext := List.find?_some hfound
    exact .pure (by simpa using htext)
  · exact .throw _

theorem castReference_yields (contains : TicketStore → Uuid → Bool) (value : String) :
    Yields Eq (fun id => env.castUuid value = some id) (castReference env contains value) := by
  refine (castUuid_yields env value).bind fun id hid => ?_
  refine Keeps.get.bind_yields fun _ => ?_
  split
  · exact .pure hid
  · exact .throw _

theorem ticketTypeOf_ensures (ticketTypeId : Option String) (before : TicketStore) :
    Ensures (ticketTypeOf env ticketTypeId) before fun result after => before = after ∧
      ∀ pair, result = some pair → before.ticketTypes.lookup pair.1 = some pair.2 := by
  cases ticketTypeId with
  | none => exact .pure ⟨rfl, fun pair h => by cases h⟩
  | some text =>
      refine (assertBelongsToTenant_reads env hasTicketType text "ticket type" before).bind ?_
      rintro id _ rfl
      refine .get_bind (.pure ⟨rfl, fun pair h => ?_⟩)
      obtain ⟨row, hrow, rfl⟩ := Option.map_eq_some_iff.mp h
      exact hrow

theorem checkedPatch_yields (contains : TicketStore → Uuid → Bool) (label : String)
    (patch : Patch String) :
    Yields Eq (fun checked => checked = patch.resolve env) (checkedPatch env contains label patch) := by
  cases patch with
  | undefined => exact .pure rfl
  | null => exact .pure rfl
  | value text =>
      refine (assertBelongsToTenant_yields env contains text label).bind fun key hkey => .pure ?_
      simp [Patch.resolve, hkey]

theorem selectTicket_ensures (id : String) (before : TicketStore) :
    Ensures (selectTicket env id) before fun result after => before = after ∧
      ∃ key, env.castUuid id = some key ∧
        result = (before.tickets.lookup key).map fun ticket => (key, ticket) := by
  cases hkey : env.castUuid id with
  | some key =>
      intro result after hr
      rw [selectTicket_run env hkey] at hr
      obtain ⟨rfl, rfl⟩ := Prod.mk.inj (Except.ok.inj hr)
      exact ⟨rfl, key, rfl, rfl⟩
  | none =>
      intro result after hr
      obtain ⟨error, he⟩ := selectTicket_run_none env hkey before
      rw [he] at hr
      cases hr

theorem updateTicket_run {id : Uuid} (ticket : Ticket) {store : TicketStore}
    (h : store.tickets.lookup id = some ticket) (set : Ticket → Ticket) :
    (updateTicket id set).run store =
      .ok (some (set ticket), { store with tickets := store.tickets.insert id (set ticket) }) := by
  simp only [updateTicket, StateT.run_modifyGet, h]
  rfl

-- An UPDATE by id, with the row it returns.
theorem updateTicket_writes (id : Uuid) (set : Ticket → Ticket) (before : TicketStore) :
    Ensures (updateTicket id set) before fun result after =>
      result = none ∧ after = before ∧ before.tickets.lookup id = none ∨
      ∃ row, before.tickets.lookup id = some row ∧ result = some (set row) ∧
        after = { before with tickets := before.tickets.insert id (set row) } := by
  apply Ensures.modifyGet
  cases hl : before.tickets.lookup id with
  | none => exact .inl ⟨rfl, rfl, rfl⟩
  | some row => exact .inr ⟨row, rfl, rfl, rfl⟩

theorem insertTicket_ensures (id : Uuid) (ticket : Ticket) (before : TicketStore) :
    Ensures (insertTicket id ticket) before fun _ after =>
      before.tickets.lookup id = none ∧
        after = { before with tickets := before.tickets.insert id ticket } := by
  refine .get_bind ?_
  split
  · exact .throw _
  · rename_i hnew
    simp only [Bool.or_eq_true, decide_eq_true_eq, not_or] at hnew
    exact .modify ⟨AList.lookup_eq_none.mpr hnew.1, rfl⟩

end CloudOps.Ticketing

namespace CloudOps.Ticketing

open CloudOps.ReadCommitted CloudOps.Transaction

variable (env : Environment)

-- What SET field = $1 does to a row, by the field and the value's text.
inductive Assigned (now : Nat) (value : String) : ActionField → (Ticket → Ticket) → Prop where
  | status (status : TicketStatus) (htext : status.text = value) :
      Assigned now value .status fun ticket => { ticket with
        status := status, resolvedAt := if status.isClosing then some now else none, updatedAt := now }
  | priority (priority : TicketPriority) (htext : priority.text = value) :
      Assigned now value .priority fun ticket => { ticket with priority := priority, updatedAt := now }
  | groupId (id : Uuid) (hid : env.castUuid value = some id) :
      Assigned now value .groupId fun ticket => { ticket with groupId := some id, updatedAt := now }
  | agentId (id : Uuid) (hid : env.castUuid value = some id) :
      Assigned now value .agentId fun ticket => { ticket with agentId := some id, updatedAt := now }
  | platform (platform : TicketPlatform) (htext : platform.text = value) :
      Assigned now value .platform fun ticket => { ticket with platform := some platform, updatedAt := now }

-- The rows an assignment and its entry in the timeline leave.
def assignRow (id : Uuid) (row : Ticket) (activity : TicketActivity) (store : TicketStore) : TicketStore :=
  { store with
    tickets := store.tickets.insert id row
    activities := store.activities ++ [activity] }

-- The activity row of an action that found `ticket`.
def actionActivity (id : Uuid) (ticket : Ticket) (field : ActionField) (value : String) : TicketActivity where
  ticketId := id
  field := field.column
  oldValue := field.read env ticket
  newValue := value
  actorAgentId := none

def actionNote (id : Uuid) (body : String) (now : Nat) : TicketMessage where
  ticketId := id
  type := .note
  authorType := .system
  authorId := none
  body := body
  cc := []
  createdAt := now

-- All that one action can do: nothing, an assignment with its activity, a note, or a
-- tag. The ticket handed on stands beside the store that is left.
inductive ActionWrite (now : Nat) (id : Uuid) (ticket : Ticket) (action : AutomationAction)
    (before : TicketStore) : Ticket → TicketStore → Prop where
  | kept (hread : ∀ field, action.type.field = some field → field.read env ticket = some action.value) :
      ActionWrite now id ticket action before ticket before
  | assigned (field : ActionField) (set : Ticket → Ticket) (row : Ticket)
      (hfield : action.type.field = some field) (hvalue : field.read env ticket ≠ some action.value)
      (hset : Assigned env now action.value field set) (hrow : before.tickets.lookup id = some row) :
      ActionWrite now id ticket action before (set row)
        (assignRow id (set row) (actionActivity env id ticket field action.value) before)
  | noted (hfield : action.type.field = none) :
      ActionWrite now id ticket action before ticket
        { before with messages := before.messages ++ [actionNote id action.value now] }
  | tagged (row : Ticket) (tag : String) (hfield : action.type.field = none)
      (hrow : before.tickets.lookup id = some row) :
      ActionWrite now id ticket action before { row with tags := row.tags ++ [tag], updatedAt := now }
        { before with tickets :=
            before.tickets.insert id { row with tags := row.tags ++ [tag], updatedAt := now } }

theorem ActionField.assign_assigned (now : Nat) (value : String) (field : ActionField) :
    Yields Eq (Assigned env now value field) (field.assign env now value) := by
  cases field with
  | status => exact (castEnum_yields _ _ _ _).bind fun status htext => .pure (.status status htext)
  | priority => exact (castEnum_yields _ _ _ _).bind fun priority htext => .pure (.priority priority htext)
  | groupId => exact (castReference_yields env _ _).bind fun id hid => .pure (.groupId id hid)
  | agentId => exact (castReference_yields env _ _).bind fun id hid => .pure (.agentId id hid)
  | platform => exact (castEnum_yields _ _ _ _).bind fun platform htext => .pure (.platform platform htext)

theorem applyAction_write (now : Nat) (id : Uuid) (ticket : Ticket) (action : AutomationAction)
    (before : TicketStore) :
    Ensures (applyAction env now id ticket action) before
      (ActionWrite env now id ticket action before) := by
  unfold applyAction
  cases hfield : action.type.field with
  | some field =>
      dsimp only
      split
      · rename_i hread
        refine .pure (.kept fun other hother => ?_)
        obtain rfl := Option.some.inj (hfield.symm.trans hother)
        exact hread
      · rename_i hvalue
        refine (field.assign_assigned env now action.value before).bind ?_
        rintro set _ ⟨rfl, hset⟩
        refine (updateTicket_writes id set before).bind ?_
        rintro _ _ (⟨rfl, -, -⟩ | ⟨row, hrow, rfl, rfl⟩)
        · exact .throw _
        · exact .modify_bind (.pure (.assigned field set row hfield hvalue hset hrow))
  | none =>
      dsimp only
      split
      · exact .modify_bind (.pure (.noted hfield))
      have hkept : ActionWrite env now id ticket action before ticket before :=
        .kept fun field hother => by simp [hfield] at hother
      split
      · exact .pure hkept
      split
      · exact .pure hkept
      refine (updateTicket_writes id _ before).bind ?_
      rintro _ _ (⟨rfl, -, -⟩ | ⟨row, hrow, rfl, rfl⟩)
      · exact .throw _
      · exact .pure (.tagged row _ hfield hrow)

-- The rules of a trigger, in the order they are applied.
def triggeredRules (store : TicketStore) (trigger : AutomationTrigger) : List AutomationRule :=
  (store.automationRules.filter fun rule => rule.trigger = trigger && rule.isActive).mergeSort
    AutomationRule.comesBefore

-- The condition holds of every action in turn, for the ticket it is applied to.
def ActionsMeet (cond : Ticket → AutomationAction → Prop) (now : Nat) (id : Uuid) :
    List AutomationAction → Ticket → TicketStore → Prop
  | [], _, _ => True
  | action :: rest, ticket, store =>
      cond ticket action ∧
        Ensures (applyAction env now id ticket action) store (ActionsMeet cond now id rest)

-- The same of every action of every rule that matches when its turn comes.
def RulesMeet (cond : Ticket → AutomationAction → Prop) (now : Nat) (id : Uuid) :
    List AutomationRule → Ticket → TicketStore → Prop
  | [], _, _ => True
  | rule :: rest, ticket, store =>
      if rule.conditions.all (conditionMatches env ticket) then
        ActionsMeet env cond now id rule.actions ticket store ∧
          Ensures (applyActions env now id rule.actions ticket) store (RulesMeet cond now id rest)
      else RulesMeet cond now id rest ticket store

-- What the writes of actions that meet the condition keep, of the ticket handed on
-- and the store.
def ActionsKeep (cond : Ticket → AutomationAction → Prop) (now : Nat) (id : Uuid)
    (inv : Ticket → TicketStore → Prop) : Prop :=
  ∀ ticket before action row after, inv ticket before → cond ticket action →
    ActionWrite env now id ticket action before row after → inv row after

theorem actionsMeet_true (now : Nat) (id : Uuid) (actions : List AutomationAction) (ticket : Ticket)
    (store : TicketStore) : ActionsMeet env (fun _ _ => True) now id actions ticket store := by
  induction actions generalizing ticket store with
  | nil => trivial
  | cons action rest ih => exact ⟨trivial, fun row after _ => ih row after⟩

theorem rulesMeet_true (now : Nat) (id : Uuid) (rules : List AutomationRule) (ticket : Ticket)
    (store : TicketStore) : RulesMeet env (fun _ _ => True) now id rules ticket store := by
  induction rules generalizing ticket store with
  | nil => trivial
  | cons rule rest ih =>
      unfold RulesMeet
      split
      · exact ⟨actionsMeet_true env now id rule.actions ticket store, fun row after _ => ih row after⟩
      · exact ih ticket store

variable {env} {cond : Ticket → AutomationAction → Prop} {now : Nat} {id : Uuid}
  {inv : Ticket → TicketStore → Prop}

theorem ActionsKeep.applyActions (hkeep : ActionsKeep env cond now id inv) (actions : List AutomationAction)
    (ticket : Ticket) (before : TicketStore) (hmeet : ActionsMeet env cond now id actions ticket before)
    (h : inv ticket before) : Ensures (applyActions env now id actions ticket) before inv := by
  induction actions generalizing ticket before with
  | nil => exact .pure h
  | cons action rest ih =>
      refine (Ensures.ran _ _).bind fun row after hrun => ?_
      have hwrite := applyAction_write env now id ticket action before row after hrun
      exact ih row after (hmeet.2 row after hrun) (hkeep ticket before action row after h hmeet.1 hwrite)

theorem ActionsKeep.applyRules (hkeep : ActionsKeep env cond now id inv) (rules : List AutomationRule)
    (ticket : Ticket) (before : TicketStore) (hmeet : RulesMeet env cond now id rules ticket before)
    (h : inv ticket before) : Ensures (applyRules env now id rules ticket) before inv := by
  induction rules generalizing ticket before with
  | nil => exact .pure h
  | cons rule rest ih =>
      unfold RulesMeet at hmeet
      unfold Ticketing.applyRules
      split
      · rename_i hmatches
        rw [if_pos hmatches] at hmeet
        refine (Ensures.ran _ _).bind fun row after hrun => ?_
        exact ih row after (hmeet.2 row after hrun)
          (hkeep.applyActions rule.actions ticket before hmeet.1 h row after hrun)
      · rename_i hmatches
        rw [if_neg hmatches] at hmeet
        exact ih ticket before hmeet h

theorem ActionsKeep.runRules (hkeep : ActionsKeep env cond now id inv) (trigger : AutomationTrigger)
    (ticket : Ticket) (before : TicketStore)
    (hmeet : RulesMeet env cond now id (triggeredRules before trigger) ticket before)
    (h : inv ticket before) : Ensures (runRules env trigger id ticket now) before inv :=
  .get_bind (hkeep.applyRules _ ticket before hmeet h)

end CloudOps.Ticketing
