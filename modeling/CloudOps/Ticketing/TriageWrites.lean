import CloudOps.Ticketing.AutoTriage
import CloudOps.Ticketing.TicketIntake
import CloudOps.Ticketing.RuleEffects

-- What the transactions around a new ticket write: the next version of each ticket.
namespace CloudOps.Ticketing.AutoTriage

open CloudOps.ReadCommitted CloudOps.Ticketing.TicketIntake

-- What add_tag actions with these values add.
def tagsOf (values : List String) : List String := (values.map trim).filter fun tag => tag ≠ ""

section Versions

-- What a later version of a ticket keeps, unless its tags have been replaced by these.
structure Keeps (replacing : List String) (before after : Ticket) : Prop where
  subject : after.subject = before.subject
  tags : before.tags ⊆ after.tags ∨ replacing ≠ [] ∧ replacing ⊆ after.tags

variable {replacing : List String}

theorem Keeps.refl (replacing : List String) (ticket : Ticket) : Keeps replacing ticket ticket :=
  ⟨rfl, .inl (List.Subset.refl _)⟩

theorem Keeps.trans {first second third : Ticket} (h : Keeps replacing first second)
    (hnext : Keeps replacing second third) : Keeps replacing first third where
  subject := hnext.subject.trans h.subject
  tags := by
    rcases hnext.tags with hmore | hreplaced
    · rcases h.tags with hkept | ⟨hne, hreplaced⟩
      · exact .inl (List.Subset.trans hkept hmore)
      · exact .inr ⟨hne, List.Subset.trans hreplaced hmore⟩
    · exact .inr hreplaced

theorem Keeps.mem {before after : Ticket} (h : Keeps [] before after) {tag : String} (htag : tag ∈ before.tags) :
    tag ∈ after.tags :=
  (h.tags.resolve_right fun hreplaced => hreplaced.1 rfl) htag

-- No action of a rule takes a tag away.
theorem keeps_effect (env : Environment) (now : Nat) (store : TicketStore) (action : AutomationAction)
    (ticket : Ticket) : Keeps [] ticket (action.effect env now store ticket) := by
  have hsetter : ∀ (field : ActionField) (value : String) (set : Ticket → Ticket),
      field.setter env now store value = some set → Keeps [] ticket (set ticket) := by
    intro field value set hset
    cases field with
    | status | priority | groupId | agentId | platform =>
        obtain ⟨_, -, rfl⟩ := Option.map_eq_some_iff.mp hset
        exact ⟨rfl, .inl (List.Subset.refl _)⟩
  unfold AutomationAction.effect
  cases action.type.field with
  | some field =>
      dsimp only
      split
      · exact .refl [] ticket
      · cases hset : field.setter env now store action.value with
        | none => exact .refl [] ticket
        | some set => exact hsetter field _ set hset
  | none =>
      dsimp only
      split
      · exact .refl [] ticket
      split
      · exact .refl [] ticket
      split
      · exact .refl [] ticket
      · exact ⟨rfl, .inl (List.subset_append_left _ _)⟩

theorem keeps_effects (env : Environment) (now : Nat) (store : TicketStore) (actions : List AutomationAction)
    (ticket : Ticket) : Keeps [] ticket (effects env now store actions ticket) := by
  induction actions generalizing ticket with
  | nil => exact .refl [] ticket
  | cons action rest ih => exact (keeps_effect env now store action ticket).trans (ih _)

theorem keeps_ruleEffects (env : Environment) (now : Nat) (store : TicketStore) (rules : List AutomationRule)
    (ticket : Ticket) : Keeps [] ticket (ruleEffects env now store rules ticket) := by
  induction rules generalizing ticket with
  | nil => exact .refl [] ticket
  | cons rule rest ih =>
      rw [ruleEffects, List.foldl_cons, ← ruleEffects]
      split
      · exact (keeps_effects env now store rule.actions ticket).trans (ih _)
      · exact ih ticket

end Versions

section Tables

-- Every ticket of the one table is there in the other, in a later version. The tags that
-- may have been replaced are told by its tenant and its id.
def Onward (replacing : Uuid → Uuid → List String) (before after : TriageTable) : Prop :=
  ∀ tenantId id ticket, ticketAt tenantId before id = some ticket →
    ∃ later, ticketAt tenantId after id = some later ∧ Keeps (replacing tenantId id) ticket later

def nothing : Uuid → Uuid → List String := fun _ _ => []

-- The same of one row.
def KeepsRow (replacing : Uuid → Uuid → List String) (key : IntakeKey) (old : Option IntakeRow)
    (row : IntakeRow) : Prop :=
  ∀ id, key = .generated id → ∀ tenantId ticket, old.bind (ticketOwned tenantId) = some ticket →
    ∃ later, ticketOwned tenantId row = some later ∧ Keeps (replacing tenantId id) ticket later

variable {replacing : Uuid → Uuid → List String} {tenantId id : Uuid} {ticket : Ticket} {key : IntakeKey}
  {row : IntakeRow}

theorem Onward.refl (replacing : Uuid → Uuid → List String) (table : TriageTable) :
    Onward replacing table table :=
  fun _ _ ticket hticket => ⟨ticket, hticket, .refl _ ticket⟩

theorem Onward.trans {first second third : TriageTable} (h : Onward replacing first second)
    (hnext : Onward replacing second third) : Onward replacing first third := by
  intro tenantId id ticket hticket
  obtain ⟨later, hlater, hkeeps⟩ := h tenantId id ticket hticket
  obtain ⟨last, hlast, hkeepsLast⟩ := hnext tenantId id later hlater
  exact ⟨last, hlast, hkeeps.trans hkeepsLast⟩

theorem onward_insert {table : TriageTable} (h : KeepsRow replacing key (table.lookup key) row) :
    Onward replacing table (table.insert key row) := by
  intro tenantId id ticket hticket
  by_cases hsame : IntakeKey.generated id = key
  · subst hsame
    obtain ⟨later, hlater, hkeeps⟩ := h id rfl tenantId ticket hticket
    refine ⟨later, ?_, hkeeps⟩
    rw [ticketAt, Table.lookup_insert_eq, if_pos rfl]
    exact hlater
  · refine ⟨ticket, ?_, .refl _ ticket⟩
    rw [ticketAt, Table.lookup_insert_eq, if_neg hsame]
    exact hticket

theorem keepsRow_new (key : IntakeKey) (row : IntakeRow) : KeepsRow replacing key none row :=
  fun _ _ _ _ hnone => nomatch hnone

theorem keepsRow_of_not_generated (key : IntakeKey) (old : Option IntakeRow) (row : IntakeRow)
    (hkey : ∀ id, key ≠ .generated id) : KeepsRow replacing key old row :=
  fun id hid => absurd hid (hkey id)

theorem ticketOwned_eq_some :
    ticketOwned tenantId row = some ticket ↔ ∃ legacy, row = .ticket tenantId legacy ticket := by
  cases row with
  | ticket owner legacy found =>
      simp only [ticketOwned, Option.ite_none_right_eq_some, Option.some.injEq, IntakeRow.ticket.injEq]
      constructor
      · rintro ⟨rfl, rfl⟩
        exact ⟨legacy, rfl, rfl, rfl⟩
      · rintro ⟨_, rfl, -, rfl⟩
        exact ⟨rfl, rfl⟩
  | counter | cursor | contact | message | attachment | activity => simp [ticketOwned]

theorem ticketAt_eq_some {table : TriageTable} : ticketAt tenantId table id = some ticket ↔
    ∃ legacy, table.lookup (.generated id) = some (.ticket tenantId legacy ticket) := by
  simp only [ticketAt, Option.bind_eq_some_iff, ticketOwned_eq_some]
  constructor
  · rintro ⟨_, hrow, legacy, rfl⟩
    exact ⟨legacy, hrow⟩
  · rintro ⟨legacy, hrow⟩
    exact ⟨_, hrow, legacy, rfl⟩

theorem keepsRow_ticket (legacy : Option Nat) {later : Ticket} (h : Keeps (replacing tenantId id) ticket later) :
    KeepsRow replacing (.generated id) (some (.ticket tenantId legacy ticket)) (.ticket tenantId legacy later) := by
  rintro other ⟨⟩ owner found hfound
  rw [Option.bind_some] at hfound
  obtain ⟨_, hrow⟩ := ticketOwned_eq_some.mp hfound
  cases hrow
  exact ⟨later, ticketOwned_eq_some.mpr ⟨legacy, rfl⟩, h⟩

-- An UPDATE of the tenant's ticket under this id.
def updated (tenantId id : Uuid) (set : Ticket → Ticket) (old : Option IntakeRow) : Option IntakeRow :=
  (old.filter (ticketWithId tenantId id (.generated id))).map (IntakeRow.onTicket set)

theorem updated_eq_some {set : Ticket → Ticket} {old : Option IntakeRow}
    (h : updated tenantId id set old = some row) :
    ∃ legacy ticket, old = some (.ticket tenantId legacy ticket) ∧
      row = .ticket tenantId legacy (set ticket) := by
  obtain ⟨before, hbefore, rfl⟩ := Option.map_eq_some_iff.mp h
  obtain ⟨rfl, howned⟩ := Option.filter_eq_some_iff.mp hbefore
  cases before with
  | ticket owner legacy ticket =>
      have howner : owner = tenantId := by simpa [ticketWithId] using howned
      exact ⟨legacy, ticket, howner ▸ rfl, howner ▸ rfl⟩
  | counter | cursor | contact | message | attachment | activity => cases howned

theorem keepsRow_updated {set : Ticket → Ticket} {old : Option IntakeRow}
    (hset : ∀ ticket, Keeps (replacing tenantId id) ticket (set ticket))
    (h : updated tenantId id set old = some row) : KeepsRow replacing (.generated id) old row := by
  obtain ⟨legacy, before, rfl, rfl⟩ := updated_eq_some h
  exact keepsRow_ticket legacy (hset before)

end Tables

section Stages

-- How far a transaction is with its ticket: it has inserted it, or knows a version of it
-- that the one there by now keeps.
inductive TriageStage where
  | started
  | opened (id : Uuid) (ticket : Ticket)
  | seen (id : Uuid) (ticket : Ticket)

def TriageStage.Holds (tenantId : Uuid) (committed writes : TriageTable) : TriageStage → Prop
  | started => True
  | opened id ticket => writes.lookup (.generated id) = some (.ticket tenantId none ticket)
  | seen id ticket => ∃ row, ticketAt tenantId (writes ∪ committed) id = some row ∧ Keeps [] ticket row

def nothingLost (before after : TriageWorld) : Prop := Onward nothing before.committed after.committed

theorem nothingLost_refl (world : TriageWorld) : nothingLost world world := .refl nothing world.committed

-- At every stage what it has written is the next version of what is committed.
def AtStage (replacing : Uuid → Uuid → List String) (tenantId : Uuid) (stage : TriageStage) (world : TriageWorld)
    (writes : TriageTable) : Prop :=
  Onward replacing world.committed (writes ∪ world.committed) ∧ stage.Holds tenantId world.committed writes

variable {replacing : Uuid → Uuid → List String} {tenantId : Uuid} {stage : TriageStage}
  {inv : TriageWorld → Prop} {before after world : TriageWorld} {writes : TriageTable}

-- What a transaction sees goes onward with what the others commit.
theorem seen_onward (hi : Interferes nothingLost inv writes before after) :
    Onward nothing (writes ∪ before.committed) (writes ∪ after.committed) := by
  intro tenantId id ticket hticket
  by_cases hown : .generated id ∈ writes
  · refine ⟨ticket, ?_, .refl _ ticket⟩
    rw [ticketAt, AList.lookup_union_left hown] at hticket ⊢
    exact hticket
  · have hbase : ∀ base : TriageTable, ticketAt tenantId (writes ∪ base) id = ticketAt tenantId base id := by
      intro base
      rw [ticketAt, Table.lookup_union_of_notMem hown, ← ticketAt]
    rw [hbase] at hticket ⊢
    exact hi.1 tenantId id ticket hticket

theorem AtStage.stable (h : AtStage replacing tenantId stage before writes)
    (hi : Interferes nothingLost inv writes before after) : AtStage replacing tenantId stage after writes := by
  refine ⟨fun owner id ticket hticket => ?_, ?_⟩
  · by_cases hown : .generated id ∈ writes
    · have hlocked := hi.2.2 _ hown
      have hbefore : ticketAt owner before.committed id = some ticket := by
        rw [ticketAt, ← hlocked]
        exact hticket
      obtain ⟨later, hlater, hkeeps⟩ := h.1 owner id ticket hbefore
      refine ⟨later, ?_, hkeeps⟩
      rw [ticketAt, AList.lookup_union_left hown] at hlater ⊢
      exact hlater
    · refine ⟨ticket, ?_, .refl _ ticket⟩
      rw [ticketAt, Table.lookup_union_of_notMem hown]
      exact hticket
  · cases stage with
    | started => trivial
    | opened id ticket => exact h.2
    | seen id ticket =>
        obtain ⟨row, hrow, hkeeps⟩ := h.2
        obtain ⟨later, hlater, hmore⟩ := seen_onward hi tenantId id row hrow
        exact ⟨later, hlater, hkeeps.trans hmore⟩

variable (replacing tenantId inv) in
def triageStages : Stages nothingLost inv TriageStage where
  holds := AtStage replacing tenantId
  refl := nothingLost_refl
  stable h hi := h.stable hi

theorem AtStage.start (replacing : Uuid → Uuid → List String) (tenantId : Uuid) (world : TriageWorld) :
    AtStage replacing tenantId .started world ∅ := by
  refine ⟨?_, trivial⟩
  rw [AList.empty_union]
  exact .refl replacing world.committed

-- One more row written, and then at any stage that holds.
theorem AtStage.write (h : AtStage replacing tenantId stage world writes) {key : IntakeKey} {row : IntakeRow}
    (hrow : KeepsRow replacing key ((writes ∪ world.committed).lookup key) row) {next : TriageStage}
    (hnext : next.Holds tenantId world.committed (writes.insert key row)) :
    AtStage replacing tenantId next world (writes.insert key row) := by
  refine ⟨?_, hnext⟩
  rw [← AList.insert_union]
  exact h.1.trans (onward_insert hrow)

-- A new row is not the ticket of any stage.
theorem AtStage.insert (h : AtStage replacing tenantId stage world writes) {key : IntakeKey} (row : IntakeRow)
    (hwrites : key ∉ writes) (hcommitted : key ∉ world.committed) :
    AtStage replacing tenantId stage world (writes.insert key row) := by
  have hnew : (writes ∪ world.committed).lookup key = none :=
    AList.lookup_eq_none.mpr fun hmem => (AList.mem_union.mp hmem).elim hwrites hcommitted
  refine h.write (hnew ▸ keepsRow_new key row) ?_
  cases stage with
  | started => trivial
  | opened id ticket =>
      have hopened : writes.lookup (.generated id) = some (.ticket tenantId none ticket) := h.2
      have hother : IntakeKey.generated id ≠ key := fun hsame => hwrites (hsame ▸ Table.mem_of_lookup hopened)
      exact (AList.lookup_insert_ne hother).trans hopened
  | seen id ticket =>
      obtain ⟨found, hfound, hkeeps⟩ := h.2
      obtain ⟨legacy, hlookup⟩ := ticketAt_eq_some.mp hfound
      have hother : IntakeKey.generated id ≠ key := by
        rintro rfl
        rw [hnew] at hlookup
        cases hlookup
      refine ⟨found, ?_, hkeeps⟩
      rw [ticketAt, ← AList.insert_union, Table.lookup_insert_eq, if_neg hother, ← ticketAt]
      exact hfound

end Stages

section Creation

variable {α : Type} {replacing : Uuid → Uuid → List String} {tenantId : Uuid} {inv : TriageWorld → Prop}
  {stage : TriageStage} (env : Environment) (reads : TicketStore)

theorem goes_rest {prog : IntakeProg α} (h : prog.Changes (KeepsRow replacing)) :
    (triageStages replacing tenantId inv).Goes .started prog fun _ after => after = .started := by
  refine .of_changes h (fun world _ _ => .start replacing tenantId world) fun world writes key row hholds hstep => ?_
  exact hholds.write hstep trivial

theorem goes_insertAll (rows : List IntakeRow) :
    (triageStages replacing tenantId inv).Goes stage (insertAll rows) fun _ after => after = stage := by
  induction rows with
  | nil => exact .ret rfl
  | cons row rest ih =>
      have hinsert : (triageStages replacing tenantId inv).Goes stage (insertGenerated row)
          fun _ after => after = stage :=
        goes_insertNew fun _ _ _ hholds hwrites hcommitted => ⟨stage, rfl, hholds.insert row hwrites hcommitted⟩
      exact hinsert.then fun _ => ih

theorem goes_openTicket (ticket : Ticket) :
    (triageStages replacing tenantId inv).Goes .started (insertGenerated (.ticket tenantId none ticket))
      fun id after => after = .opened id ticket := by
  refine goes_insertNew fun id world writes hholds hwrites hcommitted => ⟨_, rfl, ?_⟩
  have hat := hholds.insert (.ticket tenantId none ticket) hwrites hcommitted
  exact ⟨hat.1, AList.lookup_insert _⟩

-- A creation's rules return the row they have left, which keeps what it was inserted with.
theorem runRules_keeps (id : Uuid) (ticket : Ticket) (startedAt : Nat) :
    Transaction.Ensures (runRules env .ticketCreated id ticket startedAt)
      { reads with tickets := (∅ : Table Uuid Ticket).insert id ticket, messages := [], activities := [] }
      fun result store => store.tickets.lookup id = some result ∧ Keeps [] ticket result := by
  refine (runRules_leaves .ticketCreated (AList.lookup_insert _)).mono ?_
  rintro _ store ⟨hrow, -, rfl⟩
  exact ⟨hrow, keeps_ruleEffects env startedAt _ _ ticket⟩

theorem goes_runCreationRules (id : Uuid) (ticket : Ticket) (startedAt : Nat) :
    (triageStages nothing tenantId inv).Goes (.opened id ticket)
      (runCreationRules env tenantId reads id ticket startedAt)
      fun result after => after = .seen id result ∧ Keeps [] ticket result := by
  unfold runCreationRules
  split
  · exact .throw _
  · rename_i result store hrun
    obtain ⟨hlast, hkeeps⟩ := runRules_keeps env reads id ticket startedAt result store hrun
    have hupdate : (triageStages nothing tenantId inv).Goes (.opened id ticket)
        (Prog.update (.generated id) (IntakeRow.onTicket fun row => (store.tickets.lookup id).getD row) :
          IntakeProg (Option IntakeRow)) fun _ after => after = .seen id result := by
      intro world writes hholds after ha
      obtain ⟨honward, hopened⟩ := hholds.stable ha
      have hfound := Table.lookup_union_own hopened after.committed
      refine ⟨fun hnone => ?_, fun row hrow later hl => ⟨_, rfl, ?_⟩⟩
      · rw [hfound] at hnone
        cases hnone
      · rw [hfound, Option.map_some, IntakeRow.onTicket, hlast, Option.getD_some, Option.some.injEq] at hrow
        subst hrow
        refine AtStage.stable (AtStage.write ⟨honward, hopened⟩ ?_ ?_) hl
        · rw [hfound]
          exact keepsRow_ticket none hkeeps
        · refine ⟨result, ticketAt_eq_some.mpr ⟨none, ?_⟩, .refl [] result⟩
          exact Table.lookup_union_own (AList.lookup_insert _) _
    refine hupdate.bind ?_
    rintro _ _ rfl
    exact (goes_insertAll _).then fun _ => (goes_insertAll _).then fun _ => .ret ⟨rfl, hkeeps⟩

theorem goes_createTicket (dto : CreateTicketDto) (startedAt : Nat) :
    (triageStages nothing tenantId inv).Goes .started (createTicket env tenantId reads dto startedAt)
      fun made after => after = .seen made.1 made.2 ∧ dto.tags.getD [] ⊆ made.2.tags := by
  refine (goes_rest (changes_contactOf env reads (fun key _ => keepsRow_new key _) dto)).then fun contactId => ?_
  refine (goes_rest (changes_reading reads _)).then fun references => ?_
  refine (goes_rest (changes_nextTicketNumber keepsRow_of_not_generated)).then fun number => ?_
  refine (Stages.goes_dateNow _ _).then fun createdAt => ?_
  refine (goes_rest (changes_reading reads _)).then fun customFields => ?_
  refine (goes_rest (changes_assigneeOf keepsRow_of_not_generated reads _ _ _)).then fun agentId => ?_
  refine (goes_openTicket _).bind ?_
  rintro id _ rfl
  refine (goes_runCreationRules env reads id _ startedAt).bind ?_
  rintro result _ ⟨rfl, hkeeps⟩
  exact .ret ⟨rfl, fun tag htag => hkeeps.mem htag⟩

end Creation

section Actions

variable {tenantId : Uuid} {inv : TriageWorld → Prop} {stage : TriageStage} {id : Uuid} {ticket : Ticket}

-- An UPDATE of the ticket that takes no tag away, and hands its row on.
theorem goes_update {set : Ticket → Ticket} {next : Option IntakeRow → IntakeProg Ticket}
    {result : Ticket → TriageStage → Prop} (hset : ∀ ticket, Keeps [] ticket (set ticket))
    (hnone : ∃ error, next none = .throw error)
    (hnext : ∀ legacy before, (∀ seen, stage = .seen id seen → Keeps [] seen before) →
      (triageStages nothing tenantId inv).Goes (.seen id (set before))
        (next (some (.ticket tenantId legacy (set before)))) result) :
    (triageStages nothing tenantId inv).Goes stage (.write (.generated id) (updated tenantId id set) next)
      result := by
  intro world writes hholds after ha
  have hafter : AtStage nothing tenantId stage after writes := hholds.stable ha
  constructor
  · intro _
    obtain ⟨error, herror⟩ := hnone
    rw [herror]
    trivial
  · intro row hrow
    obtain ⟨legacy, before, hold, rfl⟩ := updated_eq_some hrow
    have hseen : ∀ seen, stage = .seen id seen → Keeps [] seen before := by
      rintro seen rfl
      obtain ⟨found, hfound, hkeeps⟩ := hafter.2
      obtain ⟨_, hsame⟩ := ticketAt_eq_some.mp hfound
      cases hold.symm.trans hsame
      exact hkeeps
    refine hnext legacy before hseen after _ (hafter.write ?_ ?_)
    · rw [hold]
      exact keepsRow_ticket legacy (hset before)
    · refine ⟨set before, ticketAt_eq_some.mpr ⟨legacy, ?_⟩, .refl [] _⟩
      exact Table.lookup_union_own (AList.lookup_insert _) _

theorem goes_addTag (startedAt : Nat) (value : String) :
    (triageStages nothing tenantId inv).Goes (.seen id ticket) (addTag tenantId id startedAt ticket value)
      fun result after => after = .seen id result ∧ Keeps [] ticket result ∧
        (trim value ≠ "" → trim value ∈ result.tags) := by
  unfold addTag
  dsimp only
  split
  · rename_i hempty
    exact .ret ⟨rfl, .refl [] ticket, fun hne => absurd hempty hne⟩
  split
  · rename_i hmem
    exact .ret ⟨rfl, .refl [] ticket, fun _ => by simpa using hmem⟩
  · refine goes_update (fun row => ⟨rfl, .inl (List.subset_append_left _ _)⟩) ⟨_, rfl⟩ ?_
    intro legacy before hseen
    have hkeeps := hseen ticket rfl
    refine .ret ⟨rfl, ⟨hkeeps.subject, .inl fun tag htag => ?_⟩, fun _ => ?_⟩
    · exact List.mem_append_left _ (hkeeps.mem htag)
    · exact List.mem_append_right _ (List.mem_singleton.mpr rfl)

theorem goes_addTags (startedAt : Nat) (values : List String) :
    (triageStages nothing tenantId inv).Goes (.seen id ticket) (addTags tenantId id startedAt values ticket)
      fun result after => after = .seen id result ∧ Keeps [] ticket result ∧ tagsOf values ⊆ result.tags := by
  induction values generalizing ticket with
  | nil => exact .ret ⟨rfl, .refl [] ticket, List.nil_subset _⟩
  | cons value rest ih =>
      refine (goes_addTag startedAt value).bind ?_
      rintro middle _ ⟨rfl, hkeeps, hvalue⟩
      refine ih.mono ?_
      rintro result _ ⟨rfl, hmore, hrest⟩
      refine ⟨rfl, hkeeps.trans hmore, fun tag htag => ?_⟩
      obtain ⟨hmapped, hne⟩ := List.mem_filter.mp htag
      rcases List.mem_cons.mp hmapped with rfl | hlater
      · exact hmore.mem (hvalue (by simpa using hne))
      · exact hrest (List.mem_filter.mpr ⟨hlater, hne⟩)

-- The rows a SELECT of the ticket finds.
theorem ticketAt_of_rows {table : TriageTable} {rows : List (IntakeKey × IntakeRow)}
    (hrows : ∀ row ∈ rows, table.lookup row.1 = some row.2 ∧
      (asTicket row.2 = some ticket → ticketWithId tenantId id row.1 row.2 = true))
    (h : ticketIn rows = some ticket) : ticketAt tenantId table id = some ticket := by
  obtain ⟨⟨key, row⟩, hmem, hticket⟩ := List.exists_of_findSome?_eq_some h
  obtain ⟨hlookup, howned⟩ := hrows _ hmem
  cases row with
  | ticket owner legacy found =>
      obtain rfl := Option.some.inj hticket
      have hat := howned rfl
      cases key with
      | generated other =>
          simp only [ticketWithId, Bool.and_eq_true, beq_iff_eq] at hat
          obtain ⟨rfl, rfl⟩ := hat
          exact ticketAt_eq_some.mpr ⟨legacy, hlookup⟩
      | counter | cursor => cases hat
  | counter | cursor | contact | message | attachment | activity => cases hticket

theorem goes_findTicket :
    (triageStages nothing tenantId inv).Goes .started (Prog.query (ticketWithId tenantId id) :
        IntakeProg (List (IntakeKey × IntakeRow)))
      fun rows after => ∀ ticket, ticketIn rows = some ticket → after = .seen id ticket := by
  intro world writes hholds after ha rows hrows later hl
  have hlater : AtStage nothing tenantId .started later writes := (hholds.stable ha).stable hl
  cases hticket : ticketIn rows with
  | none => exact ⟨.started, ⟨by simp [hticket], hlater⟩⟩
  | some ticket =>
      have hseen : ticketAt tenantId (writes ∪ after.committed) id = some ticket := by
        refine ticketAt_of_rows (fun row hrow => ?_) hticket
        obtain ⟨hmem, howned⟩ := List.mem_filter.mp (hrows.mem_iff.mp hrow)
        exact ⟨Table.mem_rows.mp hmem, fun _ => howned⟩
      have hat : AtStage nothing tenantId (.seen id ticket) after writes :=
        ⟨(hholds.stable ha).1, ticket, hseen, .refl [] ticket⟩
      exact ⟨.seen id ticket, by simp [hticket], hat.stable hl⟩

theorem goes_applyScenario (values : List String) (startedAt : Nat) :
    (triageStages nothing tenantId inv).Goes .started (applyScenario tenantId id values startedAt)
      fun result after => after = .seen id result ∧ tagsOf values ⊆ result.tags := by
  refine goes_findTicket.bind fun rows after hafter => ?_
  cases hticket : ticketIn rows with
  | none => exact .throw _
  | some ticket =>
      obtain rfl := hafter ticket hticket
      refine (goes_addTags startedAt values).mono ?_
      rintro result _ ⟨rfl, -, htags⟩
      exact ⟨rfl, htags⟩

theorem goes_updateThenRules (values : List String) (startedAt : Nat) :
    (triageStages nothing tenantId inv).Goes .started (updateThenRules tenantId id values startedAt)
      fun result after => after = .seen id result ∧ tagsOf values ⊆ result.tags := by
  refine goes_update (fun row => ⟨rfl, .inl (List.Subset.refl _)⟩) ⟨_, rfl⟩ ?_
  intro legacy before _
  refine (goes_addTags startedAt values).mono ?_
  rintro result _ ⟨rfl, -, htags⟩
  exact ⟨rfl, htags⟩

-- The one UPDATE that may take tags away.
theorem changes_applySuggestion {replacing : Uuid → Uuid → List String} (env : Environment) (reads : TicketStore)
    (suggestion : TriageSuggestion) (hreplacing : replacing tenantId id = suggestion.tags) :
    (applySuggestion env tenantId reads id suggestion).Changes (KeepsRow replacing) := by
  unfold applySuggestion reading
  split
  · rename_i sets store hrun
    obtain ⟨rfl, priority, typeId, -, hsets⟩ := setSuggested_ensures suggestion reads sets store hrun
    dsimp only [Prog.ret_bind]
    split
    · trivial
    · refine ⟨fun old row hrow => keepsRow_updated (fun ticket => ?_) hrow, fun _ => trivial⟩
      rw [hsets, hreplacing]
      refine ⟨rfl, ?_⟩
      unfold suggestedRow
      dsimp only
      split
      · rename_i hne
        exact .inr ⟨List.ne_nil_of_length_pos hne, List.Subset.refl _⟩
      · exact .inl (List.Subset.refl _)
  · trivial

end Actions

end CloudOps.Ticketing.AutoTriage
