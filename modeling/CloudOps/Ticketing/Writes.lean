import CloudOps.Runs
import CloudOps.Ticketing.RuleWrites

namespace CloudOps.Ticketing

open CloudOps.ReadCommitted CloudOps.Transaction

variable (env : Environment)

-- A ticket nobody has answered, resolved, reported or merged.
structure Ticket.Fresh (ticket : Ticket) : Prop where
  unanswered : ticket.firstResponseAt = none
  unmerged : ticket.mergedIntoId = none
  firstResponse : ticket.firstResponseOverdueNotifiedAt = none
  resolution : ticket.resolutionOverdueNotifiedAt = none

-- The row after the SLA columns are assigned, if they are.
def withSla (assignment : Option SlaAssignment) (row : Ticket) : Ticket :=
  assignment.elim row fun assignment => assignment.set row

-- The row a request's edits leave, before the rules see it.
def Edits.updated (edits : Edits) (now : Nat) (row : Ticket) : Ticket :=
  { edits.apply row with updatedAt := now }

def activityOf (id : Uuid) (actorAgentId : Option Uuid) (change : ActivityChange) : TicketActivity where
  ticketId := id
  field := change.field
  oldValue := change.oldValue
  newValue := change.newValue
  actorAgentId := actorAgentId

-- The store between the request's own statements and the rules.
def requested (id : Uuid) (row : Ticket) (actorAgentId : Option Uuid) (changes : List ActivityChange)
    (store : TicketStore) : TicketStore :=
  { store with
    tickets := store.tickets.insert id row
    activities := store.activities ++ changes.map (activityOf id actorAgentId) }

theorem insertActivities_writes (id : Uuid) (actorAgentId : Option Uuid) (changes : List ActivityChange)
    (before : TicketStore) : Ensures (insertActivities id actorAgentId changes) before fun _ after =>
      after = { before with
        activities := before.activities ++ changes.map (activityOf id actorAgentId) } := by
  induction changes generalizing before with
  | nil => exact .pure (by simp)
  | cons change rest ih =>
      refine .modify_bind ((ih _).mono fun _ after hafter => ?_)
      simp [hafter, activityOf]

-- What a field of a request leaves of the column it was about.
def Patch.over {α : Type} : Patch α → Option α → Option α
  | undefined, old => old
  | null, _ => none
  | value new, _ => some new

def patchedId : Patch (String × Uuid) → Option Uuid → Option Uuid
  | .undefined, old => old
  | .null, _ => none
  | .value (_, id), _ => some id

theorem Edits.apply_append (first second : Edits) (row : Ticket) :
    (first ++ second).apply row = second.apply (first.apply row) :=
  List.foldl_append

theorem statusEdits_apply (existing : Ticket) (now : Nat) (status : Option TicketStatus) (row : Ticket) :
    (statusEdits existing now status).apply row = { row with
      status := status.getD row.status
      resolvedAt := status.elim row.resolvedAt fun status => if status.isClosing then some now else none } := by
  cases status with
  | none => rfl
  | some status => rfl

theorem priorityEdits_apply (existing : Ticket) (priority : Option TicketPriority) (row : Ticket) :
    (priorityEdits existing priority).apply row = { row with priority := priority.getD row.priority } := by
  cases priority with
  | none => rfl
  | some priority => rfl

theorem platformEdits_apply (existing : Ticket) (platform : Patch TicketPlatform) (row : Ticket) :
    (platformEdits existing platform).apply row = { row with platform := platform.over row.platform } := by
  cases platform with
  | undefined => rfl
  | null => rfl
  | value platform => rfl

theorem groupEdits_apply (current : Option Uuid) (patch : Patch (String × Uuid)) (row : Ticket) :
    (referenceEdits env "group_id" current (fun id row => { row with groupId := id }) patch).apply row =
      { row with groupId := patchedId patch row.groupId } := by
  cases patch with
  | undefined => rfl
  | null => rfl
  | value pair => rfl

theorem agentEdits_apply (current : Option Uuid) (patch : Patch (String × Uuid)) (row : Ticket) :
    (referenceEdits env "agent_id" current (fun id row => { row with agentId := id }) patch).apply row =
      { row with agentId := patchedId patch row.agentId } := by
  cases patch with
  | undefined => rfl
  | null => rfl
  | value pair => rfl

theorem ticketTypeEdits_apply (current : Option Uuid) (patch : Patch (String × Uuid)) (row : Ticket) :
    (referenceEdits env "ticket_type_id" current (fun id row => { row with ticketTypeId := id }) patch).apply
      row = { row with ticketTypeId := patchedId patch row.ticketTypeId } := by
  cases patch with
  | undefined => rfl
  | null => rfl
  | value pair => rfl

theorem tagsEdits_apply (tags : Option (List String)) (row : Ticket) :
    (tagsEdits tags).apply row = { row with
      tags := tags.elim row.tags fun tags => ((tags.map trim).filter fun tag => tag ≠ "").eraseDups } := by
  cases tags with
  | none => rfl
  | some tags => rfl

theorem slaEdits_apply (assignment : Option SlaAssignment) (row : Ticket) :
    (slaEdits assignment).apply row = withSla assignment row := by
  cases assignment with
  | none => rfl
  | some assignment => rfl

-- The SLA columns are all that an assignment of them changes.
theorem withSla_eq (assignment : Option SlaAssignment) (row : Ticket) :
    ∃ slaPolicyId firstResponseDueAt resolutionDueAt, withSla assignment row = { row with
      slaPolicyId := slaPolicyId
      firstResponseDueAt := firstResponseDueAt
      resolutionDueAt := resolutionDueAt } := by
  cases assignment with
  | none => exact ⟨_, _, _, rfl⟩
  | some assignment => exact ⟨_, _, _, rfl⟩

-- Edits of the custom fields alone.
def Edits.CustomOnly (edits : Edits) : Prop :=
  edits = .none ∨ ∃ customFields, edits = ⟨[fun row => { row with customFields := customFields }], []⟩

-- The edits a request comes to, for the row it finds.
structure EditsFor (id : String) (dto : UpdateTicketDto) (now : Nat) (before : TicketStore) (key : Uuid)
    (existing : Ticket) (edits : Edits) : Prop where
  found : env.castUuid id = some key
  row : before.tickets.lookup key = some existing
  edits : ∃ customEdits, (customFieldsEdits env existing dto.customFields).run before =
      .ok (customEdits, before) ∧
    edits = editsOf env dto existing (dto.groupId.resolve env) (dto.agentId.resolve env)
      (dto.ticketTypeId.resolve env) customEdits
      (recalculateSla env before existing (dto.ticketTypeId.resolve env)) now

theorem Edits.CustomOnly.apply {edits : Edits} (h : edits.CustomOnly) (row : Ticket) :
    ∃ customFields, edits.apply row = { row with customFields := customFields } := by
  obtain rfl | ⟨customFields, rfl⟩ := h
  · exact ⟨row.customFields, rfl⟩
  · exact ⟨customFields, rfl⟩

-- The row all the edits of a request make of another one.
theorem editsOf_row (dto : UpdateTicketDto) (existing : Ticket)
    (groupId agentId ticketTypeId : Patch (String × Uuid)) {customEdits : Edits}
    (hcustom : customEdits.CustomOnly) (assignment : Option SlaAssignment) (now : Nat) (row : Ticket) :
    ∃ customFields,
      (editsOf env dto existing groupId agentId ticketTypeId customEdits assignment now).apply row =
        withSla assignment { row with
          status := dto.status.getD row.status
          resolvedAt := dto.status.elim row.resolvedAt fun status =>
            if status.isClosing then some now else none
          priority := dto.priority.getD row.priority
          platform := dto.platform.over row.platform
          groupId := patchedId groupId row.groupId
          agentId := patchedId agentId row.agentId
          ticketTypeId := patchedId ticketTypeId row.ticketTypeId
          tags := dto.tags.elim row.tags fun tags => ((tags.map trim).filter fun tag => tag ≠ "").eraseDups
          customFields := customFields } := by
  simp only [editsOf, Edits.apply_append, statusEdits_apply, priorityEdits_apply, platformEdits_apply,
    groupEdits_apply, agentEdits_apply, tagsEdits_apply]
  obtain ⟨customFields, hrow⟩ := hcustom.apply (tagsEdits dto.tags |>.apply { row with
    status := dto.status.getD row.status
    resolvedAt := dto.status.elim row.resolvedAt fun status => if status.isClosing then some now else none
    priority := dto.priority.getD row.priority
    platform := dto.platform.over row.platform
    groupId := patchedId groupId row.groupId
    agentId := patchedId agentId row.agentId })
  rw [tagsEdits_apply] at hrow
  rw [hrow, ticketTypeEdits_apply, slaEdits_apply]
  exact ⟨customFields, rfl⟩

theorem customFieldsEdits_customOnly (existing : Ticket) (submitted : Option CustomFields) :
    Yields Eq Edits.CustomOnly (customFieldsEdits env existing submitted) := by
  cases submitted with
  | none => exact .pure (.inl rfl)
  | some submitted =>
      exact (checkCustomFields_reads env _).bind_yields fun validated => .pure (.inr ⟨validated, rfl⟩)

-- The row a request makes of the one it finds.
theorem EditsFor.updated_eq {env : Environment} {id : String} {dto : UpdateTicketDto} {now : Nat}
    {before : TicketStore} {key : Uuid} {existing : Ticket} {edits : Edits}
    (h : EditsFor env id dto now before key existing edits) : ∃ customFields,
      edits.updated now existing =
        { withSla (recalculateSla env before existing (dto.ticketTypeId.resolve env)) { existing with
            status := dto.status.getD existing.status
            resolvedAt := dto.status.elim existing.resolvedAt fun status =>
              if status.isClosing then some now else none
            priority := dto.priority.getD existing.priority
            platform := dto.platform.over existing.platform
            groupId := patchedId (dto.groupId.resolve env) existing.groupId
            agentId := patchedId (dto.agentId.resolve env) existing.agentId
            ticketTypeId := patchedId (dto.ticketTypeId.resolve env) existing.ticketTypeId
            tags := dto.tags.elim existing.tags fun tags => ((tags.map trim).filter fun tag => tag ≠ "").eraseDups
            customFields := customFields } with updatedAt := now } := by
  obtain ⟨customEdits, hrun, rfl⟩ := h.edits
  have hcustom := (customFieldsEdits_customOnly env existing dto.customFields before _ _ hrun).2
  obtain ⟨customFields, hrow⟩ := editsOf_row env dto existing (dto.groupId.resolve env)
    (dto.agentId.resolve env) (dto.ticketTypeId.resolve env) hcustom
    (recalculateSla env before existing (dto.ticketTypeId.resolve env)) now existing
  refine ⟨customFields, ?_⟩
  rw [Edits.updated, hrow]

-- A request without an edit changes nothing. Any other one writes its row and its
-- activities, and hands the row to the rules.
theorem update_writes (id : String) (dto : UpdateTicketDto) (actorAgentId : Option Uuid) (now : Nat)
    (before : TicketStore) :
    Ensures (update env id dto actorAgentId now) before fun outcome after => ∃ key existing edits,
      EditsFor env id dto now before key existing edits ∧
      (edits.sets = [] ∧ after = before ∨
        edits.sets ≠ [] ∧
        (runRules env .ticketUpdated key (edits.updated now existing) now).run
          (requested key (edits.updated now existing) actorAgentId edits.changes before) =
            .ok (outcome.result, after)) := by
  refine (selectTicket_ensures env id before).bind ?_
  rintro result _ ⟨rfl, key, hkey, rfl⟩
  cases hl : before.tickets.lookup key with
  | none => exact .throw _
  | some existing =>
      simp only [Option.map_some]
      refine (checkedPatch_yields env hasGroup "group" dto.groupId before).bind ?_
      rintro _ _ ⟨rfl, rfl⟩
      refine (checkedPatch_yields env hasAgent "agent" dto.agentId before).bind ?_
      rintro _ _ ⟨rfl, rfl⟩
      refine (checkedPatch_yields env hasTicketType "ticket type" dto.ticketTypeId before).bind ?_
      rintro _ _ ⟨rfl, rfl⟩
      refine (Ensures.ran _ _).bind fun customEdits middle hcustom => ?_
      obtain ⟨rfl, -⟩ := customFieldsEdits_customOnly env existing dto.customFields before _ _ hcustom
      refine .get_bind ?_
      have hedits : EditsFor env id dto now before key existing _ := ⟨hkey, hl, customEdits, hcustom, rfl⟩
      revert hedits
      generalize editsOf env dto existing (dto.groupId.resolve env) (dto.agentId.resolve env)
        (dto.ticketTypeId.resolve env) customEdits
        (recalculateSla env before existing (dto.ticketTypeId.resolve env)) now = edits
      intro hedits
      split
      · rename_i hnone
        exact .pure ⟨key, existing, edits, hedits, .inl ⟨List.length_eq_zero_iff.mp hnone, rfl⟩⟩
      · rename_i hsome
        refine (updateTicket_writes key _ before).bind ?_
        rintro _ _ (⟨rfl, -, -⟩ | ⟨row, hrow, rfl, rfl⟩)
        · exact .throw _
        · obtain rfl := Option.some.inj (hl.symm.trans hrow)
          refine (insertActivities_writes key actorAgentId edits.changes _).bind ?_
          rintro _ _ rfl
          refine (Ensures.ran _ _).bind fun row after hrules => .pure ?_
          refine ⟨key, existing, edits, hedits, .inr ⟨fun hnil => hsome ?_, hrules⟩⟩
          rw [hnil, List.length_nil]

-- The rows a creation does not touch before its rules run.
def TicketStore.beyondCreation (store : TicketStore) : TicketStore :=
  { store with contacts := ∅, nextTicketNumber := none, groupAssignmentCursor := ∅ }

theorem upsertContactByEmail_agrees (contact : Contact) (newId : Uuid) :
    Keeps (Agree TicketStore.beyondCreation) (upsertContactByEmail contact newId) := by
  refine .bind .get fun store => ?_
  split
  · exact .pure _
  · split
    · exact .bind (.throw _) fun _ => .bind (.modify fun _ => rfl) fun _ => .pure _
    · exact .bind (.modify fun _ => rfl) fun _ => .pure _

theorem contactOf_agrees (dto : CreateTicketDto) (newId : Uuid) :
    Keeps (Agree TicketStore.beyondCreation) (contactOf env dto newId) := by
  unfold contactOf
  split
  · exact (assertBelongsToTenant_reads env _ _ _).of_eq
  · exact upsertContactByEmail_agrees _ newId
  · exact .throw _

theorem nextTicketNumber_agrees : Keeps (Agree TicketStore.beyondCreation) nextTicketNumber :=
  .bind .get fun _ => .bind (.modify fun _ => rfl) fun _ => .pure _

theorem pickAssignee_agrees (groupId : Uuid) (requiredSkill : Option String) :
    Keeps (Agree TicketStore.beyondCreation) (pickAssignee groupId requiredSkill) := by
  refine .bind .get fun store => ?_
  cases store.groups.lookup groupId with
  | none => exact .pure _
  | some config =>
      dsimp only
      cases config.assignmentStrategy with
      | manual => exact .pure _
      | loadBased => exact .pure _
      | skillBased =>
          dsimp only
          split
          · exact .pure _
          · exact .pure _
      | roundRobin =>
          refine .bind .get fun _ => ?_
          dsimp only
          split
          · exact .pure _
          · exact .bind (.modify fun _ => rfl) fun _ => .pure _

theorem assigneeOf_agrees (agentId groupId : Option Uuid) (requiredSkill : Option String) :
    Keeps (Agree TicketStore.beyondCreation) (assigneeOf agentId groupId requiredSkill) := by
  unfold assigneeOf
  split
  · exact .pure _
  · exact pickAssignee_agrees _ _
  · exact .pure _

-- The default_sla_policy_id of a ticket's type, null without one.
def defaultSlaPolicyId (store : TicketStore) (ticketTypeId : Option Uuid) : Option Uuid :=
  ticketTypeId.bind fun id => (store.ticketTypes.lookup id).bind TicketType.defaultSlaPolicyId

-- The SLA columns a ticket of that type gets: the type's default policy, and the due
-- dates of that policy.
def slaOfType (store : TicketStore) (createdAt : Nat) (ticketTypeId : Option Uuid) : SlaAssignment :=
  let slaPolicy := fetchSlaPolicy store (defaultSlaPolicyId store ticketTypeId)
  ⟨defaultSlaPolicyId store ticketTypeId,
    calculateDueDates env createdAt slaPolicy (fetchBusinessHours store slaPolicy)⟩

def Ticket.slaAssignment (ticket : Ticket) : SlaAssignment :=
  ⟨ticket.slaPolicyId, ⟨ticket.firstResponseDueAt, ticket.resolutionDueAt⟩⟩

-- The configuration the SLA columns come from.
def TicketStore.slaConfig (store : TicketStore) :
    Table Uuid TicketType × Table Uuid SlaTargets × Option BusinessHours :=
  (store.ticketTypes, store.slaPolicies, store.businessHours)

theorem slaOfType_congr {before after : TicketStore} (h : Agree TicketStore.slaConfig before after) :
    slaOfType env after = slaOfType env before := by
  funext createdAt ticketTypeId
  cases before
  cases after
  simp only [Agree, TicketStore.slaConfig, Prod.mk.injEq] at h
  obtain ⟨rfl, rfl, rfl⟩ := h
  rfl

-- The columns of a new row that do not come from the request.
structure NewTicket (store : TicketStore) (now : Nat) (ticket : Ticket) : Prop extends ticket.Fresh where
  status : ticket.status = .new
  unresolved : ticket.resolvedAt = none
  createdAt : ticket.createdAt = now
  sla : ticket.slaAssignment = slaOfType env store now ticket.ticketTypeId

theorem newTicket_ensures (dto : CreateTicketDto) (newIds : GeneratedIds) (now : Nat)
    (before : TicketStore) :
    Ensures (newTicket env dto newIds now) before fun ticket after =>
      Agree TicketStore.beyondCreation before after ∧ NewTicket env before now ticket := by
  unfold newTicket
  refine (contactOf_agrees env dto newIds.contactId before).bind fun contactId middle hmiddle => ?_
  refine (ticketTypeOf_ensures env dto.ticketTypeId middle).bind ?_
  rintro ticketType _ ⟨rfl, htype⟩
  refine (groupOf_reads env _ _ middle).bind ?_
  rintro groupId _ rfl
  refine (optionalOf_reads env _ _ _ middle).bind ?_
  rintro agentId _ rfl
  refine (optionalOf_reads env _ _ _ middle).bind ?_
  rintro resourceId _ rfl
  refine .get_bind ?_
  refine (nextTicketNumber_agrees middle).bind fun ticketNumber numbered hnumbered => ?_
  refine (checkCustomFields_reads env _ numbered).bind ?_
  rintro customFields _ rfl
  refine (assigneeOf_agrees _ _ _ numbered).bind fun agentId after hafter => .pure ?_
  have hagree : Agree TicketStore.beyondCreation before after :=
    trans_of _ (trans_of _ hmiddle hnumbered) hafter
  refine ⟨hagree, ⟨⟨rfl, rfl, rfl, rfl⟩, rfl, rfl, rfl, ?_⟩⟩
  rw [← slaOfType_congr env (hmiddle.comp TicketStore.slaConfig)]
  cases ticketType with
  | none => rfl
  | some pair =>
      have hpair := htype pair rfl
      simp [slaOfType, defaultSlaPolicyId, Ticket.slaAssignment, hpair]

-- A creation inserts its new row under a new id, and hands the row to the rules.
theorem create_writes (dto : CreateTicketDto) (newIds : GeneratedIds) (now : Nat) (before : TicketStore) :
    Ensures (create env dto newIds now) before fun result after => ∃ ticket middle,
      (newTicket env dto newIds now).run before = .ok (ticket, middle) ∧
      middle.tickets.lookup newIds.ticketId = none ∧
      (runRules env .ticketCreated newIds.ticketId ticket now).run
        { middle with tickets := middle.tickets.insert newIds.ticketId ticket } = .ok (result, after) := by
  refine (Ensures.ran _ _).bind fun ticket middle hnew => ?_
  refine (insertTicket_ensures newIds.ticketId ticket middle).bind ?_
  rintro _ _ ⟨hfree, rfl⟩
  exact (Ensures.ran _ _).mono fun result after hrules => ⟨ticket, middle, hnew, hfree, hrules⟩

-- A source row that has been closed and pointed at the primary.
def mergedRow (primaryKey now : Nat) (row : Ticket) : Ticket :=
  { row with
    status := .closed
    resolvedAt := row.resolvedAt.or (some now)
    mergedIntoId := some primaryKey
    updatedAt := now }

def TicketMessage.moved (sourceKey primaryKey : Uuid) (message : TicketMessage) : TicketMessage :=
  if message.ticketId = sourceKey then { message with ticketId := primaryKey } else message

def TicketAttachment.moved (sourceKey primaryKey : Uuid) (attachment : TicketAttachment) : TicketAttachment :=
  if attachment.ticketId = sourceKey then { attachment with ticketId := primaryKey } else attachment

-- What merging one source leaves.
def afterMerge (primaryKey : Uuid) (primaryNumber now : Nat) (sourceKey : Uuid) (source : Ticket)
    (store : TicketStore) : TicketStore :=
  { store with
    tickets := store.tickets.insert sourceKey (mergedRow primaryKey now source)
    messages := store.messages.map (TicketMessage.moved sourceKey primaryKey) ++
      [actionNote sourceKey s!"This ticket was merged into #{primaryNumber}." now]
    attachments := store.attachments.map (TicketAttachment.moved sourceKey primaryKey) }

theorem mergeSource_writes (primaryKey : Uuid) (primaryNumber now : Nat) {sourceKey : Uuid} {source : Ticket}
    {before : TicketStore} (h : before.tickets.lookup sourceKey = some source) :
    Ensures (mergeSource primaryKey primaryNumber now sourceKey) before fun _ after =>
      after = afterMerge primaryKey primaryNumber now sourceKey source before := by
  refine .modify_bind ?_
  refine (updateTicket_writes sourceKey _ _).bind ?_
  rintro _ _ (⟨-, -, hnone⟩ | ⟨row, hrow, -, rfl⟩)
  · rw [h] at hnone
    cases hnone
  · obtain rfl := Option.some.inj (h.symm.trans hrow)
    exact .modify rfl

-- What the loop over the sources keeps, by the sources still to come.
structure MergeKeeps (primaryId : String) (primaryKey : Uuid) (primaryNumber now : Nat)
    (inv : List String → TicketStore → Prop) : Prop where
  own : ∀ rest store, inv (primaryId :: rest) store → inv rest store
  merged : ∀ sourceId rest store key source, inv (sourceId :: rest) store → sourceId ≠ primaryId →
    env.castUuid sourceId = some key → store.tickets.lookup key = some source →
    source.mergedIntoId.isSome → inv rest store
  merges : ∀ sourceId rest store key source, inv (sourceId :: rest) store → sourceId ≠ primaryId →
    env.castUuid sourceId = some key → store.tickets.lookup key = some source →
    source.mergedIntoId = none → inv rest (afterMerge primaryKey primaryNumber now key source store)

variable {env}

theorem MergeKeeps.mergeSources {primaryId : String} {primaryKey : Uuid} {primaryNumber now : Nat}
    {inv : List String → TicketStore → Prop} (hkeep : MergeKeeps env primaryId primaryKey primaryNumber now inv)
    (sourceTicketIds : List String) (mergedNumbers : List Nat) (before : TicketStore)
    (h : inv sourceTicketIds before) :
    Ensures (mergeSources env primaryId primaryKey primaryNumber now sourceTicketIds mergedNumbers) before
      fun _ after => inv [] after := by
  induction sourceTicketIds generalizing mergedNumbers before with
  | nil => exact .pure h
  | cons sourceId rest ih =>
      unfold Ticketing.mergeSources
      split
      · rename_i hown
        subst hown
        exact ih mergedNumbers before (hkeep.own rest before h)
      · rename_i hother
        refine (selectTicket_ensures env sourceId before).bind ?_
        rintro result _ ⟨rfl, key, hkey, rfl⟩
        cases hl : before.tickets.lookup key with
        | none => exact .throw _
        | some source =>
            simp only [Option.map_some]
            split
            · rename_i hmerged
              exact ih mergedNumbers before (hkeep.merged sourceId rest before key source h hother hkey hl hmerged)
            · rename_i hmerged
              refine (mergeSource_writes primaryKey primaryNumber now hl).bind ?_
              rintro _ _ rfl
              refine ih _ _ (hkeep.merges sourceId rest before key source h hother hkey hl ?_)
              simpa using hmerged

-- A merge runs its loop, and may leave one more note on the primary.
theorem merge_ensures (primaryId : String) (sourceTicketIds : List String) (now : Nat)
    (before : TicketStore) {post : TicketStore → Prop} {inv : List String → TicketStore → Prop}
    (hkeep : ∀ primaryKey primary, env.castUuid primaryId = some primaryKey →
      before.tickets.lookup primaryKey = some primary →
      MergeKeeps env primaryId primaryKey primary.ticketNumber now inv ∧ inv sourceTicketIds before)
    (hpost : ∀ store, inv [] store → post store)
    (hnote : ∀ store id body, post store →
      post { store with messages := store.messages ++ [actionNote id body now] }) :
    Ensures (merge env primaryId sourceTicketIds now) before fun _ after => post after := by
  refine (selectTicket_ensures env primaryId before).bind ?_
  rintro result _ ⟨rfl, primaryKey, hkey, rfl⟩
  cases hl : before.tickets.lookup primaryKey with
  | none => exact .throw _
  | some primary =>
      simp only [Option.map_some]
      obtain ⟨hkeeps, hinv⟩ := hkeep primaryKey primary hkey hl
      refine (hkeeps.mergeSources sourceTicketIds [] before hinv).bind fun numbers after hafter => ?_
      split
      · exact .modify_bind (.get_bind (.pure (hnote after _ _ (hpost after hafter))))
      · exact .get_bind (.pure (hpost after hafter))

end CloudOps.Ticketing

namespace CloudOps.Ticketing

open CloudOps.ReadCommitted CloudOps.Transaction

variable (env : Environment)

-- The calls of TicketsService that write tickets, one after the other.
inductive TicketCall where
  | create (dto : CreateTicketDto) (newIds : GeneratedIds) (now : Nat)
  | update (id : String) (dto : UpdateTicketDto) (actorAgentId : Option Uuid) (now : Nat)
  | merge (primaryId : String) (sourceTicketIds : List String) (now : Nat)

def step (store : TicketStore) : TicketCall → TicketStore
  | .create dto newIds now => commit (create env dto newIds now) store
  | .update id dto actorAgentId now => commit (update env id dto actorAgentId now) store
  | .merge primaryId sourceTicketIds now => commit (merge env primaryId sourceTicketIds now) store

-- Where one ticket is written and the others keep their columns, none goes.
theorem mem_of_changed {α : Type} {columns : Ticket → α} {before after : TicketStore} {key id : Uuid}
    {written : α} (h : ∀ id, (after.tickets.lookup id).map columns =
      if id = key then some written else (before.tickets.lookup id).map columns)
    (hid : id ∈ before.tickets) : id ∈ after.tickets := by
  have hlookup := congrArg Option.isSome (h id)
  rw [Option.isSome_map] at hlookup
  rw [← AList.lookup_isSome, hlookup]
  split
  · rfl
  · rw [Option.isSome_map, AList.lookup_isSome]
    exact hid

-- A created ticket stands under a new id, and but for what the rules did to it as it
-- was inserted; the others are what they were, but for what the rules write.
theorem create_ensures (dto : CreateTicketDto) (newIds : GeneratedIds) (now : Nat)
    (before : TicketStore) :
    Ensures (create env dto newIds now) before fun _ after => ∃ ticket : Ticket, ticket.Fresh ∧
      before.tickets.lookup newIds.ticketId = none ∧
      ∀ id, (after.tickets.lookup id).map Ticket.beyondRules =
        if id = newIds.ticketId then some ticket.beyondRules
        else (before.tickets.lookup id).map Ticket.beyondRules := by
  refine (create_writes env dto newIds now before).mono ?_
  rintro result after ⟨ticket, middle, hticket, hfree, hrules⟩
  obtain ⟨hagree, hnew⟩ := newTicket_ensures env dto newIds now before ticket middle hticket
  have htickets : middle.tickets = before.tickets := hagree.comp TicketStore.tickets
  rw [htickets] at hfree
  refine ⟨ticket, hnew.toFresh, hfree, fun id => ?_⟩
  rw [keeps_runRules env _ _ ticket now _ result after hrules id]
  dsimp only
  rw [Table.lookup_insert_eq, htickets]
  split
  · rfl
  · rfl

-- The columns that neither a request nor a rule writes, and the SLA's.
def Ticket.beyondRequest (ticket : Ticket) : Ticket :=
  { ticket.beyondRules with ticketTypeId := none, customFields := [] }

-- An update changes one ticket. But for the columns of the request and of the rules,
-- what it does to it is to assign the SLA columns of the new ticket type, if any.
theorem update_ensures (id : String) (dto : UpdateTicketDto) (actorAgentId : Option Uuid) (now : Nat)
    (before : TicketStore) :
    Ensures (update env id dto actorAgentId now) before fun _ after => ∃ key existing,
      env.castUuid id = some key ∧ before.tickets.lookup key = some existing ∧
      ∀ other, (after.tickets.lookup other).map Ticket.beyondRequest =
        if other = key then
          some (withSla (recalculateSla env before existing (dto.ticketTypeId.resolve env))
            existing).beyondRequest
        else (before.tickets.lookup other).map Ticket.beyondRequest := by
  refine (update_writes env id dto actorAgentId now before).mono ?_
  rintro outcome after ⟨key, existing, edits, hedits, hwritten⟩
  refine ⟨key, existing, hedits.found, hedits.row, fun other => ?_⟩
  obtain ⟨customFields, hupdated⟩ := hedits.updated_eq
  have hrow : (edits.updated now existing).beyondRequest =
      (withSla (recalculateSla env before existing (dto.ticketTypeId.resolve env)) existing).beyondRequest := by
    rw [hupdated]
    cases recalculateSla env before existing (dto.ticketTypeId.resolve env) with
    | none => rfl
    | some assignment => rfl
  rcases hwritten with ⟨hnone, rfl⟩ | ⟨-, hrules⟩
  · have hsame : edits.updated now existing = { existing with updatedAt := now } := by
      rw [Edits.updated, Edits.apply, hnone]
      rfl
    rw [hsame] at hrow
    split
    · rename_i hother
      rw [hother, hedits.row, ← hrow]
      rfl
    · rfl
  · have hsame := keeps_runRules env _ _ _ now _ outcome.result after hrules
    have hrequest := hsame.comp fun row : Ticket =>
      ({ row with ticketTypeId := none, customFields := [] } : Ticket)
    have hother := hrequest other
    rw [requested, Table.lookup_insert_eq] at hother
    refine hother.trans ?_
    split
    · rw [← hrow]
      rfl
    · rfl

end CloudOps.Ticketing
