import CloudOps.ReadCommitted.Transfer
import CloudOps.Ticketing.IntakeWrites
import CloudOps.Ticketing.ResolvedAt
import CloudOps.Ticketing.RuleEffects

namespace CloudOps.Ticketing.TicketIntake

open CloudOps.ReadCommitted

section Counting

-- The tenant's open tickets of an agent.
def openTickets (table : IntakeTable) (tenantId agentId : Uuid) : Nat :=
  (table.rows.filter fun row => openTicket tenantId [agentId] row.1 row.2).length

theorem openTicket_iff {tenantId agentId : Uuid} {key : IntakeKey} {row : IntakeRow} :
    openTicket tenantId [agentId] key row = true ↔ ∃ id legacy ticket, key = .generated id ∧
      row = .ticket tenantId legacy ticket ∧ ticket.agentId = some agentId ∧ ticket.status.countsAsOpen = true := by
  cases key with
  | counter | cursor => simp [openTicket]
  | generated id =>
      cases row with
      | ticket owner legacy ticket =>
          cases hagent : ticket.agentId <;> simp [openTicket, hagent, and_assoc]
      | counter | cursor | contact | message | attachment | activity => simp [openTicket]

-- What openTicketCounts counts for an agent it is asked about.
theorem openTickets_le_counted {table seen : IntakeTable} {tenantId agentId : Uuid} {agentIds : List Uuid}
    {rows : List (IntakeKey × IntakeRow)} (hagent : agentId ∈ agentIds)
    (hrows : rows.Perm (seen.rows.filter fun row => openTicket tenantId agentIds row.1 row.2))
    (hkept : ∀ id row, table.lookup (.generated id) = some row → seen.lookup (.generated id) = some row) :
    openTickets table tenantId agentId ≤ (rows.filter fun row => assignedTo agentId row.2).length := by
  rw [(hrows.filter _).length_eq, List.filter_filter]
  refine (Table.length_filter_rows_le (openTicket tenantId [agentId])
    (fun key row => assignedTo agentId row && openTicket tenantId agentIds key row) []
    fun key row hrow hopen => .inr ⟨row, ?_, ?_⟩).trans_eq (Nat.zero_add _)
  · obtain ⟨id, _, _, rfl, -, -, -⟩ := openTicket_iff.mp hopen
    exact hkept id row hrow
  · obtain ⟨id, legacy, ticket, rfl, rfl, hticket, hstatus⟩ := openTicket_iff.mp hopen
    simp [openTicket, assignedTo, hticket, hstatus, hagent]

-- An agent who is picked under a cap was counted below it.
theorem leastLoaded_lt {counts : Uuid → Nat} {cap agentId : Nat} {agentIds : List Uuid}
    (h : leastLoaded counts (some cap) agentIds = some agentId) : agentId ∈ agentIds ∧ counts agentId < cap := by
  unfold leastLoaded at h
  have hmem := List.mem_of_mem_head? h
  rw [List.mem_mergeSort, List.mem_filter] at hmem
  exact ⟨hmem.1, by simpa using hmem.2⟩

end Counting

section Rules

def assignsAgent (rule : AutomationRule) : Bool := rule.actions.any fun action => action.type = .setAgent

variable (env : Environment) (now : Nat) (store : TicketStore)

theorem agentId_effect {action : AutomationAction} (haction : action.type ≠ .setAgent) (ticket : Ticket) :
    (action.effect env now store ticket).agentId = ticket.agentId := by
  unfold AutomationAction.effect
  cases hfield : action.type.field with
  | some field =>
      dsimp only
      split
      · rfl
      · cases hset : field.setter env now store action.value with
        | none => rfl
        | some set =>
            cases field with
            | agentId =>
                cases htype : action.type <;> simp_all [ActionType.field]
            | status | priority | groupId | platform =>
                obtain ⟨_, -, rfl⟩ := Option.map_eq_some_iff.mp hset
                rfl
  | none =>
      dsimp only
      split
      · rfl
      split
      · rfl
      split <;> rfl

theorem agentId_effects {actions : List AutomationAction} (hactions : ∀ action ∈ actions, action.type ≠ .setAgent)
    (ticket : Ticket) : (effects env now store actions ticket).agentId = ticket.agentId := by
  induction actions generalizing ticket with
  | nil => rfl
  | cons action rest ih =>
      obtain ⟨haction, hrest⟩ := List.forall_mem_cons.mp hactions
      exact (ih hrest _).trans (agentId_effect env now store haction ticket)

theorem agentId_ruleEffects {rules : List AutomationRule} (hrules : ∀ rule ∈ rules, assignsAgent rule = false)
    (ticket : Ticket) : (ruleEffects env now store rules ticket).agentId = ticket.agentId := by
  induction rules generalizing ticket with
  | nil => rfl
  | cons rule rest ih =>
      obtain ⟨hrule, hrest⟩ := List.forall_mem_cons.mp hrules
      rw [ruleEffects, List.foldl_cons, ← ruleEffects, ih hrest]
      split
      · refine agentId_effects env now store (fun action haction htype => ?_) ticket
        have hany : assignsAgent rule = true := List.any_eq_true.mpr ⟨action, haction, decide_eq_true htype⟩
        rw [hrule] at hany
        cases hany
      · rfl

end Rules

section Calls

-- The cap the strategy of a group keeps to: the other two strategies take no notice of it.
def enforcedCap (config : GroupAssignmentConfig) : Option Nat :=
  match config.assignmentStrategy with
  | .loadBased | .skillBased => config.maxOpenTicketsPerAgent
  | .manual | .roundRobin => none

-- The cap under which a creation without an agent of its own is assigned.
def capOf (env : Environment) (call : IntakeCall) : Option Nat :=
  match call.request with
  | .importTicket .. => none
  | .create dto =>
      match (createReferences env dto).run call.reads with
      | .error _ => none
      | .ok (references, _) =>
          if references.agentId.isSome then none
          else (references.groupId.bind call.reads.groups.lookup).bind enforcedCap

-- The rules that run on a new ticket leave its agent alone.
def RulesAssignNoOne (reads : TicketStore) : Prop :=
  ∀ rule ∈ triggeredRules reads .ticketCreated, assignsAgent rule = false

-- Beside creations and imports, any other transactions on the same tables.
inductive DeskCall where
  | intake (call : IntakeCall)
  | other (body : Nat → IntakeProg IntakeResult)

abbrev DeskWorld := World IntakeKey IntakeRow IntakeResult DeskCall
abbrev DeskDb := Db IntakeKey IntakeRow ServiceError IntakeResult DeskCall
abbrev DeskEvent := Event IntakeKey IntakeRow DeskCall

def deskService (env : Environment) (runtime : Runtime) :
    Service IntakeKey IntakeRow ServiceError IntakeResult DeskCall where
  body call startedAt :=
    match call with
    | .intake call => (intakeService env runtime).body call startedAt
    | .other body => body startedAt
  conflict := sameNumber

-- No ticket gets an agent or is reopened, and no number is drawn.
def assignsNothing (world : DeskWorld) (writes : IntakeTable) : Bool :=
  writes.rows.all fun entry =>
    match entry.1, entry.2 with
    | .counter _, _ => false
    | .generated id, .ticket tenantId _ row => !row.status.countsAsOpen || row.agentId.all fun agentId =>
        (world.committed.lookup (.generated id)).any (openTicket tenantId [agentId] (.generated id))
    | _, _ => true

def OthersAssignNothing (world : DeskWorld) (call : DeskCall) (writes : IntakeTable) (_ : IntakeResult) : Prop :=
  match call with
  | .intake _ => True
  | .other _ => assignsNothing world writes = true

instance (world : DeskWorld) (call : DeskCall) (writes : IntakeTable) (value : IntakeResult) :
    Decidable (OthersAssignNothing world call writes value) :=
  match call with
  | .intake _ => .isTrue trivial
  | .other _ => inferInstanceAs (Decidable (assignsNothing world writes = true))

-- A ticket that is assigned under a cap leaves its agent no more open tickets than that.
def WithinCap (env : Environment) (runtime : Runtime) (db : DeskDb) (event : DeskEvent) : Prop :=
  ∀ tid txn value call cap, event = .commit tid → db.active.lookup tid = some txn → txn.prog = .ret value →
    txn.call = .intake call → capOf env call = some cap → RulesAssignNoOne call.reads →
    ∀ id legacy row agentId, txn.writes.lookup (.generated id) = some (.ticket call.tenantId legacy row) →
      row.agentId = some agentId →
      openTickets (db.step (deskService env runtime) event).world.committed call.tenantId agentId ≤ cap

end Calls

section Tables

variable {writes base : IntakeTable} {tenantId : Uuid}

theorem nextNumber_union (h : .counter tenantId ∉ writes) :
    nextNumber (writes ∪ base) tenantId = nextNumber base tenantId := by
  unfold nextNumber
  rw [Table.lookup_union_of_notMem h]

theorem counter_notMem_of_assignsNothing {world : DeskWorld} (h : assignsNothing world writes = true)
    (tenantId : Uuid) : .counter tenantId ∉ writes := by
  intro hmem
  obtain ⟨row, hrow⟩ := Option.isSome_iff_exists.mp (AList.lookup_isSome.mpr hmem)
  have hentry := List.all_eq_true.mp h _ (Table.mem_rows.mpr hrow)
  cases hentry

theorem open_of_assignsNothing {world : DeskWorld} (h : assignsNothing world writes = true) {id : Uuid}
    {legacy : Option Nat} {row : Ticket} {agentId : Uuid}
    (hrow : writes.lookup (.generated id) = some (.ticket tenantId legacy row)) (hagent : row.agentId = some agentId)
    (hopen : row.status.countsAsOpen = true) :
    ∃ oldLegacy old, world.committed.lookup (.generated id) = some (.ticket tenantId oldLegacy old) ∧
      old.agentId = some agentId ∧ old.status.countsAsOpen = true := by
  have hentry := List.all_eq_true.mp h _ (Table.mem_rows.mpr hrow)
  dsimp only at hentry
  rw [hopen, hagent, Bool.not_true, Bool.false_or, Option.all_some, Option.any_eq_true] at hentry
  obtain ⟨found, hfound, hticket⟩ := hentry
  obtain ⟨_, legacy, old, -, rfl, holdAgent, holdOpen⟩ := openTicket_iff.mp hticket
  exact ⟨legacy, old, hfound, holdAgent, holdOpen⟩

-- Written tickets that are open were open with the same agent, or are under these keys.
theorem openTickets_union_le (keys : List IntakeKey) (agentId : Uuid)
    (h : ∀ id legacy row, writes.lookup (.generated id) = some (.ticket tenantId legacy row) →
      row.agentId = some agentId → row.status.countsAsOpen = true →
      .generated id ∈ keys ∨ ∃ oldLegacy old,
        base.lookup (.generated id) = some (.ticket tenantId oldLegacy old) ∧ old.agentId = some agentId ∧
          old.status.countsAsOpen = true) :
    openTickets (writes ∪ base) tenantId agentId ≤ keys.length + openTickets base tenantId agentId := by
  refine Table.length_filter_rows_le (openTicket tenantId [agentId]) (openTicket tenantId [agentId]) keys ?_
  intro key row hrow hopen
  obtain ⟨id, legacy, ticket, rfl, rfl, hagent, hstatus⟩ := openTicket_iff.mp hopen
  rcases Table.lookup_union_cases hrow with hown | ⟨-, hbase⟩
  · rcases h id legacy ticket hown hagent hstatus with hkey | ⟨oldLegacy, old, hold, holdAgent, holdStatus⟩
    · exact .inl hkey
    · exact .inr ⟨_, hold, openTicket_iff.mpr ⟨id, oldLegacy, old, rfl, rfl, holdAgent, holdStatus⟩⟩
  · exact .inr ⟨_, hbase, hopen⟩

end Tables

section Stages

-- A tenant's open tickets only grow in number along with its ticket numbers.
def NumberedGrowth (before after : DeskWorld) : Prop :=
  ∀ tenantId, nextNumber before.committed tenantId ≤ nextNumber after.committed tenantId ∧
    (nextNumber after.committed tenantId = nextNumber before.committed tenantId →
      ∀ agentId, openTickets after.committed tenantId agentId ≤ openTickets before.committed tenantId agentId)

theorem NumberedGrowth.refl (world : DeskWorld) : NumberedGrowth world world :=
  fun _ => ⟨Nat.le_refl _, fun _ _ => Nat.le_refl _⟩

theorem NumberedGrowth.trans (first second third : DeskWorld) (h : NumberedGrowth first second)
    (hnext : NumberedGrowth second third) : NumberedGrowth first third := by
  intro tenantId
  obtain ⟨hle, hsame⟩ := h tenantId
  obtain ⟨hnextLe, hnextSame⟩ := hnext tenantId
  refine ⟨hle.trans hnextLe, fun heq agentId => ?_⟩
  exact (hnextSame (by omega) agentId).trans (hsame (by omega) agentId)

-- How far a creation has come: what it may rely on about the open tickets of each
-- agent, and the ticket it has inserted, with its agent.
structure CapStage where
  counts : Option (Uuid → Nat)
  opened : Option (Uuid × Option Uuid)

-- From the moment it has its number, nobody else can open a ticket for the tenant.
structure AtCap (tenantId : Uuid) (stage : CapStage) (world : DeskWorld) (writes : IntakeTable) : Prop where
  fresh : ∀ id, .generated id ∈ writes → .generated id ∉ world.committed
  counted : ∀ counts, stage.counts = some counts → .counter tenantId ∈ writes ∧
    ∀ agentId, openTickets world.committed tenantId agentId ≤ counts agentId
  tickets : ∀ id owner legacy row, writes.lookup (.generated id) = some (.ticket owner legacy row) →
    stage.opened = some (id, row.agentId)
  written : ∀ id agentId, stage.opened = some (id, agentId) → .generated id ∈ writes

variable {tenantId : Uuid} {stage : CapStage} {world : DeskWorld} {writes : IntakeTable}
  {inv : DeskWorld → Prop}

theorem AtCap.start (tenantId : Uuid) (world : DeskWorld) : AtCap tenantId ⟨none, none⟩ world ∅ where
  fresh := by simp
  counted _ h := by cases h
  tickets := by simp
  written _ _ h := by cases h

theorem AtCap.stable {before after : DeskWorld} (h : AtCap tenantId stage before writes)
    (hi : Interferes NumberedGrowth inv writes before after) : AtCap tenantId stage after writes where
  fresh id hmem := by
    have hnew := h.fresh id hmem
    rw [← AList.lookup_eq_none] at hnew ⊢
    exact (hi.2.2 _ hmem).trans hnew
  counted counts hcounts := by
    obtain ⟨hcounter, hle⟩ := h.counted counts hcounts
    have hsame : nextNumber after.committed tenantId = nextNumber before.committed tenantId := by
      unfold nextNumber
      rw [hi.2.2 _ hcounter]
    exact ⟨hcounter, fun agentId => ((hi.1 tenantId).2 hsame agentId).trans (hle agentId)⟩
  tickets := h.tickets
  written := h.written

-- One more row. A ticket among them is the one that has been opened.
theorem AtCap.insert (h : AtCap tenantId stage world writes) {key : IntakeKey} {row : IntakeRow}
    (hfresh : ∀ id, key = .generated id → key ∉ world.committed)
    (hrow : ∀ id owner legacy ticket, key = .generated id → row = .ticket owner legacy ticket →
      stage.opened = some (id, ticket.agentId)) : AtCap tenantId stage world (writes.insert key row) where
  fresh id hmem := by
    rcases (AList.mem_insert _).mp hmem with hsame | hold
    · exact hsame ▸ hfresh id hsame.symm
    · exact h.fresh id hold
  counted counts hcounts := by
    obtain ⟨hcounter, hle⟩ := h.counted counts hcounts
    exact ⟨(AList.mem_insert _).mpr (.inr hcounter), hle⟩
  tickets id owner legacy ticket hlookup := by
    rw [Table.lookup_insert_eq] at hlookup
    split at hlookup
    · rename_i hsame
      exact hrow id owner legacy ticket hsame.symm (Option.some.inj hlookup)
    · exact h.tickets id owner legacy ticket hlookup
  written id agentId hopened := (AList.mem_insert _).mpr (.inr (h.written id agentId hopened))

-- INSERT INTO tickets
theorem AtCap.openTicket {counts : Option (Uuid → Nat)} (h : AtCap tenantId ⟨counts, none⟩ world writes)
    {id : Uuid} (hcommitted : .generated id ∉ world.committed) (legacy : Option Nat) (row : Ticket) :
    AtCap tenantId ⟨counts, some (id, row.agentId)⟩ world
      (writes.insert (.generated id) (.ticket tenantId legacy row)) where
  fresh other hmem := by
    rcases (AList.mem_insert _).mp hmem with hsame | hold
    · exact hsame ▸ hcommitted
    · exact h.fresh other hold
  counted seen hseen := by
    obtain ⟨hcounter, hle⟩ := h.counted seen hseen
    exact ⟨(AList.mem_insert _).mpr (.inr hcounter), hle⟩
  tickets other owner otherLegacy ticket hlookup := by
    rw [Table.lookup_insert_eq] at hlookup
    split at hlookup
    · rename_i hsame
      obtain rfl := IntakeKey.generated.inj hsame
      obtain ⟨rfl, rfl, rfl⟩ := IntakeRow.ticket.inj (Option.some.inj hlookup)
      rfl
    · cases h.tickets other owner otherLegacy ticket hlookup
  written other agentId hopened := by
    obtain ⟨rfl, -⟩ := Prod.mk.inj (Option.some.inj hopened)
    exact (AList.mem_insert _).mpr (.inl rfl)

def capStages (inv : DeskWorld → Prop) (tenantId : Uuid) : Stages NumberedGrowth inv CapStage where
  holds := AtCap tenantId
  refl := NumberedGrowth.refl
  stable := AtCap.stable

end Stages

section Parts

variable {α : Type} {tenantId : Uuid} {stage : CapStage} {inv : DeskWorld → Prop} {counts : Uuid → Nat}

def isTicket : IntakeRow → Bool
  | .ticket .. => true
  | _ => false

theorem goes_look (reads : TicketStore) (tx : TicketM α) :
    (capStages inv tenantId).Goes stage (reading reads tx) fun _ after => after = stage := by
  unfold reading
  split
  · exact .ret rfl
  · exact .throw _

theorem goes_addAll {rows : List IntakeRow} (hrows : ∀ row ∈ rows, isTicket row = false) :
    (capStages inv tenantId).Goes stage (insertAll rows) fun _ after => after = stage := by
  induction rows with
  | nil => exact .ret rfl
  | cons row rest ih =>
      obtain ⟨hrow, hrest⟩ := List.forall_mem_cons.mp hrows
      have hinsert : (capStages inv tenantId).Goes stage (insertGenerated row) fun _ after => after = stage := by
        refine goes_insertNew fun id world writes hw _ hcommitted => ⟨stage, rfl, hw.insert (fun _ _ => hcommitted) ?_⟩
        rintro _ owner legacy ticket - rfl
        cases hrow
      exact hinsert.then fun _ => ih hrest

theorem goes_findContact (env : Environment) (reads : TicketStore) (dto : CreateTicketDto) :
    (capStages inv tenantId).Goes ⟨none, none⟩ (contactOf env tenantId reads dto)
      fun _ after => after = ⟨none, none⟩ := by
  have hchanges : (contactOf env tenantId reads dto).Changes fun _ old row => old = none ∧ isTicket row = false :=
    changes_contactOf env reads (fun _ _ => ⟨rfl, rfl⟩) dto
  refine .of_changes hchanges (fun world _ _ => .start tenantId world) fun world writes key row hw hstep => ?_
  obtain ⟨hnew, hrow⟩ := hstep
  refine hw.insert (fun _ _ hmem => ?_) ?_
  · obtain ⟨found, hfound⟩ := Option.isSome_iff_exists.mp (AList.lookup_isSome.mpr hmem)
    rw [Table.lookup_union] at hnew
    rw [hfound] at hnew
    cases hown : writes.lookup key <;> simp [hown] at hnew
  · rintro _ owner legacy ticket - rfl
    cases hrow

theorem goes_drawNumber :
    (capStages inv tenantId).Goes ⟨none, none⟩ (nextTicketNumber tenantId)
      fun _ after => ∃ counts, after = ⟨some counts, none⟩ := by
  intro world writes hw after ha
  refine ⟨fun _ => trivial, fun row _ => ?_⟩
  have hafter := hw.stable ha
  have hdrawn : AtCap tenantId ⟨some (openTickets after.committed tenantId), none⟩ after
      (writes.insert (.counter tenantId) row) := by
    refine ⟨fun id hmem => ?_, ?_, fun id owner legacy ticket hlookup => ?_, nofun⟩
    · exact hafter.fresh id (((AList.mem_insert _).mp hmem).resolve_left (by simp))
    · rintro _ ⟨⟩
      exact ⟨(AList.mem_insert _).mpr (.inl rfl), fun _ => Nat.le_refl _⟩
    · rw [AList.lookup_insert_ne (by simp)] at hlookup
      exact hafter.tickets id owner legacy ticket hlookup
  cases row with
  | counter nextValue => exact fun later hl => ⟨_, ⟨_, rfl⟩, hdrawn.stable hl⟩
  | cursor | contact | ticket | message | attachment | activity => trivial

-- The counts are read behind the counter's lock, so they stand until the commit.
theorem goes_leastLoaded (agentIds : List Uuid) (cap : Nat) :
    (capStages inv tenantId).Goes ⟨some counts, none⟩
      (openTicketCounts tenantId agentIds >>= fun counts =>
        (.ret (leastLoaded counts (some cap) agentIds) : IntakeProg (Option Uuid)))
      fun agentId after => ∃ seen, after = ⟨some seen, none⟩ ∧ ∀ id, agentId = some id → seen id < cap := by
  intro world writes hw after ha rows hrows later hl
  have hafter := hw.stable ha
  obtain ⟨hcounter, hle⟩ := hafter.counted counts rfl
  have hkept : ∀ id row, after.committed.lookup (.generated id) = some row →
      (writes ∪ after.committed).lookup (.generated id) = some row := by
    intro id row hrow
    have hown : .generated id ∉ writes := fun hmem => hafter.fresh id hmem (Table.mem_of_lookup hrow)
    rw [Table.lookup_union_of_notMem hown, hrow]
  -- an agent who was not asked about keeps the count there was before
  let seen : Uuid → Nat := fun agentId =>
    if agentId ∈ agentIds then (rows.filter fun row => assignedTo agentId row.2).length else counts agentId
  have hseen : AtCap tenantId ⟨some seen, none⟩ after writes := by
    refine ⟨hafter.fresh, ?_, hafter.tickets, nofun⟩
    rintro _ ⟨⟩
    refine ⟨hcounter, fun agentId => ?_⟩
    by_cases hagent : agentId ∈ agentIds
    · exact (openTickets_le_counted hagent hrows hkept).trans_eq (if_pos hagent).symm
    · exact (hle agentId).trans_eq (if_neg hagent).symm
  refine ⟨_, ⟨seen, rfl, fun agentId hpicked => ?_⟩, hseen.stable hl⟩
  obtain ⟨hagent, hlt⟩ := leastLoaded_lt hpicked
  exact (if_pos hagent).trans_lt hlt

-- The agent picked is below the cap, whoever else is creating tickets.
theorem goes_pickAssignee {reads : TicketStore} {groupId : Uuid} {config : GroupAssignmentConfig} {cap : Nat}
    (hgroup : reads.groups.lookup groupId = some config) (hcap : enforcedCap config = some cap)
    (requiredSkill : Option String) :
    (capStages inv tenantId).Goes ⟨some counts, none⟩ (pickAssignee tenantId reads groupId requiredSkill)
      fun agentId after => ∃ seen, after = ⟨some seen, none⟩ ∧ ∀ id, agentId = some id → seen id < cap := by
  have hnobody : (capStages inv tenantId).Goes ⟨some counts, none⟩ (.ret none : IntakeProg (Option Uuid))
      fun agentId after => ∃ seen, after = ⟨some seen, none⟩ ∧ ∀ id, agentId = some id → seen id < cap :=
    .ret ⟨counts, rfl, nofun⟩
  unfold pickAssignee
  simp only [hgroup]
  unfold enforcedCap at hcap
  split at hcap
  · rename_i hstrategy
    simp only [hstrategy, hcap]
    split
    · exact hnobody
    · exact goes_leastLoaded _ cap
  · rename_i hstrategy
    simp only [hstrategy, hcap]
    split
    · exact hnobody
    · split
      · exact hnobody
      · exact goes_leastLoaded _ cap
  · cases hcap
  · cases hcap

theorem goes_insertTicket (row : Ticket) :
    (capStages inv tenantId).Goes ⟨some counts, none⟩ (insertGenerated (.ticket tenantId none row))
      fun id after => after = ⟨some counts, some (id, row.agentId)⟩ :=
  goes_insertNew fun _ _ _ hw _ hcommitted => ⟨_, rfl, hw.openTicket hcommitted none row⟩

-- Rules that assign no one leave the ticket with the agent it was inserted with.
theorem runRules_agentId (env : Environment) {reads : TicketStore} (hrules : RulesAssignNoOne reads) (id : Uuid)
    (ticket : Ticket) (startedAt : Nat) :
    Transaction.Ensures (runRules env .ticketCreated id ticket startedAt)
      { reads with tickets := (∅ : Table Uuid Ticket).insert id ticket, messages := [], activities := [] }
      fun _ store => ∃ row, store.tickets.lookup id = some row ∧ row.agentId = ticket.agentId := by
  refine (runRules_leaves .ticketCreated (AList.lookup_insert _)).mono ?_
  rintro _ store ⟨hrow, -, rfl⟩
  exact ⟨_, hrow, agentId_ruleEffects env startedAt _ hrules ticket⟩

theorem goes_rules (env : Environment) {reads : TicketStore} (hrules : RulesAssignNoOne reads) {id : Uuid}
    {ticket : Ticket} (startedAt : Nat) (hstage : stage.opened = some (id, ticket.agentId)) :
    (capStages inv tenantId).Goes stage (runCreationRules env tenantId reads id ticket startedAt)
      fun _ after => after = stage := by
  unfold runCreationRules
  split
  · exact .throw _
  · rename_i result store hrun
    obtain ⟨last, hlast, hagent⟩ := runRules_agentId env hrules id ticket startedAt result store hrun
    have hupdate : (capStages inv tenantId).Goes stage
        (Prog.update (.generated id) (IntakeRow.onTicket fun row => (store.tickets.lookup id).getD row) :
          IntakeProg (Option IntakeRow)) fun _ after => after = stage := by
      intro world writes hw after ha
      have hafter := hw.stable ha
      refine ⟨fun _ later hl => ⟨_, rfl, hafter.stable hl⟩, fun row hrow later hl => ⟨_, rfl, ?_⟩⟩
      have hnew := hafter.fresh id (hafter.written _ _ hstage)
      refine (hafter.insert (fun _ _ => hnew) ?_).stable hl
      rintro _ owner legacy changed hkey rfl
      obtain rfl := IntakeKey.generated.inj hkey
      obtain ⟨old, -, hchanged⟩ := Option.map_eq_some_iff.mp hrow
      cases old with
      | ticket _ _ _ =>
          rw [IntakeRow.onTicket, hlast, Option.getD_some] at hchanged
          obtain ⟨-, -, rfl⟩ := IntakeRow.ticket.inj hchanged
          rw [hstage, hagent]
      | counter | cursor | contact | message | attachment | activity => cases hchanged
    refine hupdate.then fun _ => ?_
    have hactivities : ∀ row ∈ store.activities.map (IntakeRow.activity tenantId), isTicket row = false := by
      intro row hrow
      obtain ⟨activity, -, rfl⟩ := List.mem_map.mp hrow
      rfl
    have hmessages : ∀ row ∈ store.messages.map (IntakeRow.message tenantId none), isTicket row = false := by
      intro row hrow
      obtain ⟨message, -, rfl⟩ := List.mem_map.mp hrow
      rfl
    exact (goes_addAll hactivities).then fun _ => (goes_addAll hmessages).then fun _ => .ret rfl

-- A creation under a cap ends with a ticket whose agent was below it.
theorem goes_createUnderCap (env : Environment) {reads : TicketStore} {dto : CreateTicketDto} {cap : Nat}
    (hcap : capOf env ⟨tenantId, reads, .create dto⟩ = some cap) (hrules : RulesAssignNoOne reads)
    (startedAt : Nat) :
    (capStages inv tenantId).Goes ⟨none, none⟩ (create env tenantId reads dto startedAt)
      fun _ after => ∃ counts id agentId, after = ⟨some counts, some (id, agentId)⟩ ∧
        ∀ assignee, agentId = some assignee → counts assignee < cap := by
  unfold capOf at hcap
  dsimp only at hcap
  split at hcap
  · cases hcap
  rename_i references store hreferences
  split at hcap
  · cases hcap
  rename_i hagent
  rw [Bool.not_eq_true, Option.isSome_eq_false_iff, Option.isNone_iff_eq_none] at hagent
  obtain ⟨config, hconfig, hcapped⟩ := Option.bind_eq_some_iff.mp hcap
  obtain ⟨groupId, hgroupId, hgroup⟩ := Option.bind_eq_some_iff.mp hconfig
  have hreading : reading reads (createReferences env dto) = .ret references := by
    unfold reading
    rw [hreferences]
  unfold create
  refine (goes_findContact env reads dto).then fun contactId => ?_
  rw [hreading]
  change (capStages inv tenantId).Goes _ (nextTicketNumber tenantId >>= _) _
  refine goes_drawNumber.bind ?_
  rintro number _ ⟨counts, rfl⟩
  refine (Stages.goes_dateNow _ _).then fun createdAt => ?_
  refine (goes_look _ _).then fun customFields => ?_
  have hassignee : assigneeOf tenantId reads references.agentId references.groupId dto.requiredSkill =
      pickAssignee tenantId reads groupId dto.requiredSkill := by
    rw [hagent, hgroupId]
    rfl
  rw [hassignee]
  refine (goes_pickAssignee hgroup hcapped _).bind ?_
  rintro agentId _ ⟨seen, rfl, hbelow⟩
  refine (goes_insertTicket _).bind ?_
  rintro id _ rfl
  refine (goes_rules env hrules startedAt rfl).mono ?_
  rintro _ _ rfl
  exact ⟨seen, id, agentId, rfl, hbelow⟩

end Parts

section Service

variable (env : Environment) (runtime : Runtime)

-- What a creation that assigns under a cap has written when it commits.
def AssignedUnderCap (call : IntakeCall) (world : DeskWorld) (writes : IntakeTable) : Prop :=
  ∀ cap, capOf env call = some cap → RulesAssignNoOne call.reads →
    ∃ counts id agentId, (∀ assignee, agentId = some assignee → counts assignee < cap) ∧
      AtCap call.tenantId ⟨some counts, some (id, agentId)⟩ world writes

theorem wp_assignedUnderCap (inv : DeskWorld → Prop) (call : IntakeCall) (world : DeskWorld) :
    ((intakeService env runtime).body call world.clock).wp NumberedGrowth inv
      (fun world writes _ => AssignedUnderCap env call world writes) ∅ world := by
  by_cases hcapped : ∃ cap, capOf env call = some cap ∧ RulesAssignNoOne call.reads
  · obtain ⟨cap, hcap, hrules⟩ := hcapped
    obtain ⟨tenantId, reads, request⟩ := call
    cases request with
    | importTicket => cases hcap
    | create dto =>
        have hcreate : (capStages inv tenantId).Goes ⟨none, none⟩
            ((create env tenantId reads dto world.clock).map IntakeResult.created)
            fun _ after => ∃ counts id agentId, after = ⟨some counts, some (id, agentId)⟩ ∧
              ∀ assignee, agentId = some assignee → counts assignee < cap :=
          (goes_createUnderCap env hcap hrules world.clock).map
        refine (hcreate world ∅ (.start tenantId world)).mono ?_
        rintro after writes _ - ⟨_, ⟨counts, id, agentId, rfl, hbelow⟩, hat⟩ other hother -
        obtain rfl := Option.some.inj (hcap.symm.trans hother)
        exact ⟨counts, id, agentId, hbelow, hat⟩
  · refine (Prog.wp_true _ ∅ world).mono ?_
    rintro _ _ _ - - cap hcap hrules
    exact absurd ⟨cap, hcap, hrules⟩ hcapped

def deskPost (call : DeskCall) (world : DeskWorld) (writes : IntakeTable) : Prop :=
  match call with
  | .intake call => Finished call world.forget writes ∧ AssignedUnderCap env call world writes
  | .other _ => True

theorem wp_desk (inv : DeskWorld → Prop) (call : DeskCall) (world : DeskWorld) :
    ((deskService env runtime).body call world.clock).wp NumberedGrowth inv
      (fun world writes _ => deskPost env call world writes) ∅ world := by
  cases call with
  | intake call =>
      have hintake := wp_intake env runtime (fun _ => True) call world.forget
      exact (hintake.forget (fun _ _ _ => trivial) fun _ _ => trivial).and
        (wp_assignedUnderCap env runtime inv call world)
  | other body => exact Prog.wp_true _ _ _

-- A committed transaction that has drawn no number has opened no ticket.
theorem numberedGrowth_publish {call : DeskCall} {world : DeskWorld} {writes : IntakeTable} {value : IntakeResult}
    (hdone : deskPost env call world writes) (hothers : OthersAssignNothing world call writes value)
    (begunOn : IntakeTable) (startedAt : Nat) :
    NumberedGrowth world (world.publish call begunOn startedAt writes value) := by
  intro tenantId
  change nextNumber world.committed tenantId ≤ nextNumber (writes ∪ world.committed) tenantId ∧
    (nextNumber (writes ∪ world.committed) tenantId = nextNumber world.committed tenantId →
      ∀ agentId, openTickets (writes ∪ world.committed) tenantId agentId ≤
        openTickets world.committed tenantId agentId)
  cases call with
  | other body =>
      rw [nextNumber_union (counter_notMem_of_assignsNothing hothers tenantId)]
      refine ⟨Nat.le_refl _, fun _ agentId => ?_⟩
      refine (openTickets_union_le [] agentId fun id legacy row hrow hagent hopen => .inr ?_).trans_eq
        (Nat.zero_add _)
      exact open_of_assignsNothing hothers hrow hagent hopen
  | intake call =>
      obtain ⟨⟨stage, hstage, hwrote⟩, -⟩ := hdone
      by_cases hcounter : .counter tenantId ∈ writes
      · obtain ⟨row, hrow⟩ := Option.isSome_iff_exists.mp (AList.lookup_isSome.mpr hcounter)
        obtain ⟨rfl, hnumber⟩ := (hwrote.allowed _ row hrow).counter
        obtain ⟨number, hnumber⟩ := Option.isSome_iff_exists.mp hnumber
        obtain ⟨hdrawn, hbefore⟩ := hwrote.drawn number hnumber
        have hafter : nextNumber (writes ∪ world.committed) call.tenantId = number + 1 := by
          unfold nextNumber
          rw [Table.lookup_union_own hdrawn]
        change nextNumber world.committed call.tenantId = number at hbefore
        exact ⟨by omega, fun heq => absurd heq (by omega)⟩
      · rw [nextNumber_union hcounter]
        refine ⟨Nat.le_refl _, fun _ agentId => ?_⟩
        refine (openTickets_union_le [] agentId fun id legacy row hrow _ _ => ?_).trans_eq (Nat.zero_add _)
        -- a ticket of this tenant would come with a number of this tenant
        obtain ⟨howner, _, _, -, hopened⟩ := (hwrote.allowed _ _ hrow).ticket
        obtain ⟨hdrawn, -⟩ := hwrote.drawn row.ticketNumber (by rw [hopened]; rfl)
        exact absurd (Table.mem_of_lookup (howner ▸ hdrawn)) hcounter

def assignments : RelyGuarantee (deskService env runtime) where
  rely := NumberedGrowth
  inv _ := True
  post call _ _ world writes _ := deskPost env call world writes
  condition := OthersAssignNothing
  refl := NumberedGrowth.refl
  trans := NumberedGrowth.trans
  tick world _ _ := ⟨trivial, NumberedGrowth.refl world⟩
  body call world _ := wp_desk env runtime _ call world
  commit _ begunOn startedAt _ _ _ _ hdone hothers :=
    ⟨trivial, numberedGrowth_publish env hdone hothers begunOn startedAt⟩

variable {env runtime}

theorem AssignedUnderCap.withinCap {call : IntakeCall} {world : DeskWorld} {writes : IntakeTable}
    (h : AssignedUnderCap env call world writes) {cap : Nat} (hcap : capOf env call = some cap)
    (hrules : RulesAssignNoOne call.reads) {id agentId : Uuid} {row : Ticket} {legacy : Option Nat}
    (hrow : writes.lookup (.generated id) = some (.ticket call.tenantId legacy row))
    (hagent : row.agentId = some agentId) :
    openTickets (writes ∪ world.committed) call.tenantId agentId ≤ cap := by
  obtain ⟨counts, opened, assignee, hbelow, hat⟩ := h cap hcap hrules
  have hcounted := (hat.counted counts rfl).2 agentId
  have hone : openTickets (writes ∪ world.committed) call.tenantId agentId ≤
      [IntakeKey.generated opened].length + openTickets world.committed call.tenantId agentId := by
    refine openTickets_union_le _ agentId fun other otherLegacy ticket hticket _ _ => .inl ?_
    obtain ⟨rfl, -⟩ := Prod.mk.inj (Option.some.inj (hat.tickets other _ otherLegacy ticket hticket))
    exact List.mem_singleton.mpr rfl
  obtain ⟨-, hsame⟩ := Prod.mk.inj (Option.some.inj (hat.tickets id _ legacy row hrow))
  have hlt := hbelow agentId (hsame.trans hagent)
  rw [List.length_singleton] at hone
  omega

theorem withinCap_of_holds {db : DeskDb} (h : (assignments env runtime).Holds db) (event : DeskEvent) :
    WithinCap env runtime db event := by
  rintro tid txn value call cap rfl htxn hprog hcall hcap hrules id legacy row agentId hrow hagent
  have hdone : deskPost env txn.call db.world txn.writes := h.finished htxn hprog
  rw [hcall] at hdone
  rw [RelyGuarantee.step_commit htxn hprog]
  exact hdone.2.withinCap hcap hrules hrow hagent

-- In every run in which nothing beside creations and imports assigns or reopens tickets,
-- each creation that assigns its ticket under a cap leaves the agent within it.
theorem workload_cap_holds (committed : IntakeTable) (clock : Nat) (events : List DeskEvent)
    (hothers : Runs.AllSteps (Db.step (deskService env runtime)) (CommitMeets OthersAssignNothing)
      (Db.start (World.start committed clock)) events) :
    Runs.AllSteps (Db.step (deskService env runtime)) (WithinCap env runtime)
      (Db.start (World.start committed clock)) events := by
  have hstart : (assignments env runtime).Holds (Db.start (World.start committed clock)) := .start trivial
  exact Runs.allSteps_of_invariant hstart (fun _ event h hc => ⟨(h.step hc).1, withinCap_of_holds h event⟩)
    hothers

-- Group 1 assigns to its one agent, who may have one open ticket.
def cappedTenant : TicketStore :=
  { newTenant.toTicketStore with
    groups := AList.singleton 1 ⟨.loadBased, some 1⟩, agents := AList.singleton 5 ⟨[1], true⟩ }

def cappedCreation : DeskCall :=
  .intake ⟨1, cappedTenant, .create { requestOf "Printer on fire" with groupId := some firstId }⟩

def deskStatement (tid newId : Nat) : DeskEvent := .exec tid (.stored _) (.generated newId)

-- Both creations begin before either is assigned. The second waits for the counter, and
-- then finds the agent busy.
def concurrentCreations : List DeskEvent :=
  [.begin 1 cappedCreation, .begin 2 cappedCreation, deskStatement 1 0, deskStatement 2 0,
    deskStatement 1 10, deskStatement 2 20, deskStatement 1 0, deskStatement 2 0, deskStatement 1 0,
    deskStatement 1 0, deskStatement 1 11, deskStatement 2 0, deskStatement 1 0, .commit 1,
    deskStatement 2 0, deskStatement 2 0, deskStatement 2 0, deskStatement 2 21, deskStatement 2 0, .commit 2]

theorem workload_cap_holds_concurrently :
    Runs.AllSteps (Db.step (deskService twoIds plainRuntime)) (WithinCap twoIds plainRuntime)
      (Db.start (World.start ∅ 0)) concurrentCreations :=
  workload_cap_holds ∅ 0 concurrentCreations (by decide +kernel)

end Service

end CloudOps.Ticketing.TicketIntake
