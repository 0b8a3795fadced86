import CloudOps.Ticketing.RuleEffects
import CloudOps.Ticketing.TicketIntake

namespace CloudOps.Ticketing.TicketIntake

open CloudOps.ReadCommitted

abbrev IntakeTable := Table IntakeKey IntakeRow
abbrev IntakeWorld := World IntakeKey IntakeRow IntakeResult IntakeCall
abbrev IntakeDb := Db IntakeKey IntakeRow ServiceError IntakeResult IntakeCall
abbrev IntakeEvent := Event IntakeKey IntakeRow IntakeCall

-- The number the tenant's next ticket gets.
def nextNumber (table : IntakeTable) (tenantId : Uuid) : Nat :=
  match table.lookup (.counter tenantId) with
  | some (.counter nextValue) => nextValue
  | _ => 1

-- The entry a row was imported from, and the tenant it was imported for.
def IntakeRow.entry : IntakeRow → Option (Uuid × EntryRef)
  | .message tenantId importedFrom _ => importedFrom.map fun ref => (tenantId, ref)
  | _ => none

-- How far a transaction has come: whether it has drawn its number, then opened its
-- ticket, and how many entries it has imported.
inductive Stage where
  | started
  | numbered (number : Nat)
  | opened (number : Nat) (id : Uuid) (legacyTicketNumber : Option Nat) (entries : Nat)

def Stage.number : Stage → Option Nat
  | started => none
  | numbered number | opened number _ _ _ => some number

-- The rows a transaction has written at a stage. Tickets and imported messages only
-- come from its own ticket.
def Stage.Allows (tenantId : Uuid) (stage : Stage) : IntakeKey → IntakeRow → Prop
  | .counter owner, .counter _ => owner = tenantId ∧ stage.number.isSome
  | .cursor _ _, .cursor _ => True
  | .generated id, .ticket owner legacy row =>
      owner = tenantId ∧ ∃ entries, stage = .opened row.ticketNumber id legacy entries
  | .generated _, .message owner (some ref) _ =>
      owner = tenantId ∧ ∃ number ticketId entries,
        stage = .opened number ticketId (some ref.freshdeskTicketId) entries ∧ ref.index < entries
  | .generated _, .message _ none _ => True
  | .generated _, .contact .. => True
  | .generated _, .attachment .. => True
  | .generated _, .activity .. => True
  | _, _ => False

-- What a transaction has written, under keys nobody else has taken or may take before
-- it ends.
structure Wrote (tenantId : Uuid) (stage : Stage) (world : IntakeWorld) (writes : IntakeTable) : Prop where
  allowed : ∀ key row, writes.lookup key = some row → stage.Allows tenantId key row
  fresh : ∀ id, .generated id ∈ writes → .generated id ∉ world.committed
  drawn : ∀ number, stage.number = some number →
    writes.lookup (.counter tenantId) = some (.counter (number + 1)) ∧
      nextNumber world.committed tenantId = number
  ticket : ∀ number id legacy entries, stage = .opened number id legacy entries →
    ∃ row, writes.lookup (.generated id) = some (.ticket tenantId legacy row)
  once : ∀ key other row otherRow entry, writes.lookup key = some row →
    writes.lookup other = some otherRow → row.entry = some entry → otherRow.entry = some entry → key = other

variable {tenantId : Uuid} {stage next : Stage} {world : IntakeWorld} {writes : IntakeTable}

theorem Wrote.start (tenantId : Uuid) (world : IntakeWorld) : Wrote tenantId .started world ∅ where
  allowed := by simp
  fresh := by simp
  drawn _ h := by cases h
  ticket _ _ _ _ h := by cases h
  once := by simp

-- Nobody else touches the counter once it is incremented, nor a key that is taken.
theorem Wrote.stable {rely : IntakeWorld → IntakeWorld → Prop} {inv : IntakeWorld → Prop}
    {before after : IntakeWorld} (h : Wrote tenantId stage before writes)
    (hi : Interferes rely inv writes before after) : Wrote tenantId stage after writes where
  allowed := h.allowed
  fresh id hmem := by
    have hnew := h.fresh id hmem
    rw [← AList.lookup_eq_none] at hnew ⊢
    exact (hi.2.2 _ hmem).trans hnew
  drawn number hnumber := by
    obtain ⟨hcounter, hnext⟩ := h.drawn number hnumber
    have hlocked := hi.2.2 _ (Table.mem_of_lookup hcounter)
    refine ⟨hcounter, ?_⟩
    unfold nextNumber at hnext ⊢
    rw [hlocked]
    exact hnext
  ticket := h.ticket
  once := h.once

section Rows

-- A stage comes after another one: what was drawn, opened and imported stays so.
structure Stage.Before (stage next : Stage) : Prop where
  number : stage.number.isSome → next.number.isSome
  opened : ∀ number id legacy entries, stage = .opened number id legacy entries →
    ∃ more, entries ≤ more ∧ next = .opened number id legacy more

theorem Stage.Before.refl (stage : Stage) : stage.Before stage where
  number h := h
  opened _ _ _ entries h := ⟨entries, Nat.le_refl entries, h⟩

theorem Stage.Allows.mono (hbefore : stage.Before next) {key : IntakeKey} {row : IntakeRow}
    (h : stage.Allows tenantId key row) : next.Allows tenantId key row := by
  unfold Stage.Allows at h ⊢
  split at h
  · exact ⟨h.1, hbefore.number h.2⟩
  · trivial
  · obtain ⟨howner, entries, hstage⟩ := h
    obtain ⟨more, -, hnext⟩ := hbefore.opened _ _ _ _ hstage
    exact ⟨howner, more, hnext⟩
  · obtain ⟨howner, number, ticketId, entries, hstage, hindex⟩ := h
    obtain ⟨more, hmore, hnext⟩ := hbefore.opened _ _ _ _ hstage
    exact ⟨howner, number, ticketId, more, hnext, by omega⟩
  all_goals trivial

variable {key : IntakeKey} {row : IntakeRow}

theorem Stage.Allows.counter {owner : Uuid} (h : stage.Allows tenantId (.counter owner) row) :
    owner = tenantId ∧ stage.number.isSome := by
  cases row with
  | counter => exact h
  | cursor | contact | ticket | message | attachment | activity => exact h.elim

theorem Stage.Allows.ticket {owner : Uuid} {legacy : Option Nat} {row : Ticket}
    (h : stage.Allows tenantId key (.ticket owner legacy row)) :
    owner = tenantId ∧
      ∃ id entries, key = .generated id ∧ stage = .opened row.ticketNumber id legacy entries := by
  cases key with
  | generated id =>
      obtain ⟨howner, entries, hstage⟩ := h
      exact ⟨howner, id, entries, rfl, hstage⟩
  | counter | cursor => exact h.elim

theorem Stage.Allows.entry {owner : Uuid} {ref : EntryRef} (h : stage.Allows tenantId key row)
    (hentry : row.entry = some (owner, ref)) :
    owner = tenantId ∧ ∃ number ticketId entries,
      stage = .opened number ticketId (some ref.freshdeskTicketId) entries ∧ ref.index < entries := by
  cases row with
  | message _ importedFrom _ =>
      cases importedFrom with
      | none => cases hentry
      | some _ =>
          obtain ⟨rfl, rfl⟩ := Prod.mk.inj (Option.some.inj hentry)
          cases key with
          | generated => exact h
          | counter | cursor => exact h.elim
  | counter | cursor | contact | ticket | attachment | activity => cases hentry

-- One more row. It leaves the counter alone, or is its new version.
theorem Wrote.insert (h : Wrote tenantId stage world writes) (hbefore : stage.Before next)
    (hallowed : next.Allows tenantId key row) (hfresh : ∀ id, key = .generated id → key ∉ world.committed)
    (hdrawn : ∀ number, next.number = some number →
      (writes.insert key row).lookup (.counter tenantId) = some (.counter (number + 1)) ∧
        nextNumber world.committed tenantId = number)
    (hticket : ∀ number id legacy entries, next = .opened number id legacy entries →
      ∃ ticket, (writes.insert key row).lookup (.generated id) = some (.ticket tenantId legacy ticket))
    (honce : ∀ other otherRow entry, writes.lookup other = some otherRow → row.entry = some entry →
      otherRow.entry ≠ some entry) : Wrote tenantId next world (writes.insert key row) where
  allowed other otherRow hlookup := by
    rw [Table.lookup_insert_eq] at hlookup
    split at hlookup
    · rename_i hsame
      obtain rfl := Option.some.inj hlookup
      exact hsame ▸ hallowed
    · exact (h.allowed other otherRow hlookup).mono hbefore
  fresh id hmem := by
    rcases (AList.mem_insert _).mp hmem with hsame | hold
    · exact hsame ▸ hfresh id hsame.symm
    · exact h.fresh id hold
  drawn := hdrawn
  ticket := hticket
  once first second firstRow secondRow entry hfirst hsecond hfirstEntry hsecondEntry := by
    rw [Table.lookup_insert_eq] at hfirst hsecond
    split at hfirst
    · rename_i hfirstKey
      obtain rfl := Option.some.inj hfirst
      split at hsecond
      · rename_i hsecondKey
        exact hfirstKey.trans hsecondKey.symm
      · exact absurd hsecondEntry (honce second secondRow entry hsecond hfirstEntry)
    · split at hsecond
      · obtain rfl := Option.some.inj hsecond
        exact absurd hfirstEntry (honce first firstRow entry hfirst hsecondEntry)
      · exact h.once first second firstRow secondRow entry hfirst hsecond hfirstEntry hsecondEntry

-- Under another key, the counter and the ticket are where they were.
theorem Wrote.insert_same (h : Wrote tenantId stage world writes) (hallowed : stage.Allows tenantId key row)
    (hfresh : ∀ id, key = .generated id → key ∉ world.committed ∧ key ∉ writes)
    (hkey : key ≠ .counter tenantId) (hentry : row.entry = none) :
    Wrote tenantId stage world (writes.insert key row) := by
  refine h.insert (.refl stage) hallowed (fun id hid => (hfresh id hid).1) ?_ ?_ ?_
  · intro number hnumber
    rw [AList.lookup_insert_ne hkey.symm]
    exact h.drawn number hnumber
  · intro number id legacy entries hstage
    obtain ⟨ticket, hticket⟩ := h.ticket number id legacy entries hstage
    have hne : IntakeKey.generated id ≠ key := by
      intro hid
      exact (hfresh id hid.symm).2 (hid ▸ Table.mem_of_lookup hticket)
    exact ⟨ticket, by rwa [AList.lookup_insert_ne hne]⟩
  · intro other otherRow entry _ hrow
    rw [hentry] at hrow
    cases hrow

-- A row under a generated key leaves the counter alone.
theorem Wrote.insert_generated (h : Wrote tenantId stage world writes) (hbefore : stage.Before next)
    (hnumber : next.number = stage.number) {id : Uuid} (hallowed : next.Allows tenantId (.generated id) row)
    (hfresh : .generated id ∉ world.committed)
    (hticket : ∀ number ticketId legacy entries, next = .opened number ticketId legacy entries →
      ∃ ticket, (writes.insert (.generated id) row).lookup (.generated ticketId) =
        some (.ticket tenantId legacy ticket))
    (honce : ∀ other otherRow entry, writes.lookup other = some otherRow → row.entry = some entry →
      otherRow.entry ≠ some entry) : Wrote tenantId next world (writes.insert (.generated id) row) := by
  refine h.insert hbefore hallowed (fun _ _ => hfresh) ?_ hticket honce
  intro number hdrawn
  rw [AList.lookup_insert_ne (by simp)]
  exact h.drawn number (hnumber ▸ hdrawn)

-- INSERT .. ON CONFLICT on the counter, which others may have incremented up to now.
theorem Wrote.draw (h : Wrote tenantId .started world writes) {row : IntakeRow}
    (hrow : incrementCounter ((writes ∪ world.committed).lookup (.counter tenantId)) = some row) :
    ∃ number, row = .counter (number + 1) ∧
      Wrote tenantId (.numbered number) world (writes.insert (.counter tenantId) row) := by
  have hnone : writes.lookup (.counter tenantId) = none := by
    cases hcounter : writes.lookup (.counter tenantId) with
    | none => rfl
    | some found =>
        obtain ⟨-, hdrawn⟩ := (h.allowed _ found hcounter).counter
        cases hdrawn
  have hnumber : row = .counter (nextNumber world.committed tenantId + 1) := by
    rw [Table.lookup_union, hnone, Option.none_or] at hrow
    unfold nextNumber
    cases hcounter : world.committed.lookup (.counter tenantId) with
    | none =>
        rw [hcounter] at hrow
        exact (Option.some.inj hrow).symm
    | some found =>
        rw [hcounter] at hrow
        cases found with
        | counter nextValue => exact (Option.some.inj hrow).symm
        | cursor | contact | ticket | message | attachment | activity => cases hrow
  refine ⟨_, hnumber, ?_⟩
  subst hnumber
  refine h.insert ⟨fun _ => rfl, fun _ _ _ _ hopened => ?_⟩ ⟨rfl, rfl⟩ (fun _ hid => ?_) ?_ ?_ ?_
  · cases hopened
  · cases hid
  · intro number hdrawn
    obtain rfl := Option.some.inj hdrawn
    exact ⟨AList.lookup_insert _, rfl⟩
  · intro number id legacy entries hopened
    cases hopened
  · intro other otherRow entry _ hentry
    cases hentry

-- INSERT INTO tickets, with the number drawn.
theorem Wrote.openTicket {number : Nat} (h : Wrote tenantId (.numbered number) world writes) {id : Uuid}
    (hcommitted : .generated id ∉ world.committed) (legacy : Option Nat)
    {row : Ticket} (hnumber : row.ticketNumber = number) :
    Wrote tenantId (.opened number id legacy 0) world
      (writes.insert (.generated id) (.ticket tenantId legacy row)) := by
  have hsame : (Stage.opened number id legacy 0).number = (Stage.numbered number).number := rfl
  refine h.insert_generated ⟨fun _ => rfl, fun _ _ _ _ hopened => ?_⟩ hsame ?_ hcommitted ?_ ?_
  · cases hopened
  · exact ⟨rfl, 0, by rw [hnumber]⟩
  · intro drawn ticketId otherLegacy entries hopened
    obtain ⟨rfl, rfl, rfl, rfl⟩ := Stage.opened.inj hopened
    exact ⟨row, AList.lookup_insert _⟩
  · intro other otherRow entry _ hentry
    cases hentry

-- A later version of the ticket keeps its number.
theorem Wrote.updateTicket {number entries : Nat} {id : Uuid} {legacy : Option Nat}
    (h : Wrote tenantId (.opened number id legacy entries) world writes) {row : Ticket}
    (hnumber : row.ticketNumber = number) :
    Wrote tenantId (.opened number id legacy entries) world
      (writes.insert (.generated id) (.ticket tenantId legacy row)) := by
  obtain ⟨old, hold⟩ := h.ticket _ _ _ _ rfl
  refine h.insert_generated (.refl _) rfl ?_ (h.fresh id (Table.mem_of_lookup hold)) ?_ ?_
  · exact ⟨rfl, entries, by rw [hnumber]⟩
  · intro drawn ticketId otherLegacy others hopened
    obtain ⟨rfl, rfl, rfl, rfl⟩ := Stage.opened.inj hopened
    exact ⟨row, AList.lookup_insert _⟩
  · intro other otherRow entry _ hentry
    cases hentry

-- The message of the next entry.
theorem Wrote.importEntry {number entries legacy : Nat} {ticketId id : Uuid}
    (h : Wrote tenantId (.opened number ticketId (some legacy) entries) world writes)
    (hwrites : .generated id ∉ writes) (hcommitted : .generated id ∉ world.committed) (row : TicketMessage) :
    Wrote tenantId (.opened number ticketId (some legacy) (entries + 1)) world
      (writes.insert (.generated id) (.message tenantId (some ⟨legacy, entries⟩) row)) := by
  have hsame : (Stage.opened number ticketId (some legacy) (entries + 1)).number =
      (Stage.opened number ticketId (some legacy) entries).number := rfl
  refine h.insert_generated ⟨fun _ => rfl, ?_⟩ hsame ?_ hcommitted ?_ ?_
  · intro drawn opened otherLegacy others hopened
    obtain ⟨rfl, rfl, rfl, rfl⟩ := Stage.opened.inj hopened
    exact ⟨entries + 1, by omega, rfl⟩
  · exact ⟨rfl, number, ticketId, entries + 1, rfl, by dsimp only; omega⟩
  · intro drawn opened otherLegacy others hopened
    obtain ⟨rfl, rfl, rfl, rfl⟩ := Stage.opened.inj hopened
    obtain ⟨ticket, hticket⟩ := h.ticket _ _ _ _ rfl
    have hne : IntakeKey.generated ticketId ≠ .generated id := by
      intro hid
      exact hwrites (hid ▸ Table.mem_of_lookup hticket)
    exact ⟨ticket, by rwa [AList.lookup_insert_ne hne]⟩
  · intro other otherRow entry hother hentry hotherEntry
    obtain rfl : (tenantId, (⟨legacy, entries⟩ : EntryRef)) = entry := Option.some.inj hentry
    -- the entries imported so far come before this one
    obtain ⟨-, _, _, others, hstage, hindex⟩ := (h.allowed other otherRow hother).entry hotherEntry
    obtain ⟨-, -, -, rfl⟩ := Stage.opened.inj hstage
    dsimp only at hindex
    omega

end Rows

-- The stages of an intake transaction, which the others cannot spoil.
def stagesOf (inv : IntakeWorld → Prop) (tenantId : Uuid) : Stages (fun _ _ => True) inv Stage where
  holds := Wrote tenantId
  refl := fun _ => trivial
  stable := Wrote.stable

section Parts

variable {α β : Type} {inv : IntakeWorld → Prop} {prog : IntakeProg α} {result : α → Stage → Prop}

theorem goes_reading_ensures {reads : TicketStore} {tx : TicketM α} {good : α → Prop}
    (h : Transaction.Ensures tx reads fun value _ => good value) :
    (stagesOf inv tenantId).Goes stage (reading reads tx) fun value after => good value ∧ after = stage := by
  unfold reading
  split
  · rename_i value store hrun
    exact .ret ⟨h value store hrun, rfl⟩
  · exact .throw _

theorem goes_reading (reads : TicketStore) (tx : TicketM α) :
    (stagesOf inv tenantId).Goes stage (reading reads tx) fun _ after => after = stage := by
  have hany : Transaction.Ensures tx reads fun _ _ => True := fun _ _ _ => trivial
  exact (goes_reading_ensures hany).mono fun _ _ h => h.2

-- An INSERT under a new key.
theorem goes_insertGenerated {row : IntakeRow} {result : Uuid → Stage → Prop}
    (h : ∀ id world writes, Wrote tenantId stage world writes → .generated id ∉ writes →
      .generated id ∉ world.committed →
      ∃ after, result id after ∧ Wrote tenantId after world (writes.insert (.generated id) row)) :
    (stagesOf inv tenantId).Goes stage (insertGenerated row) result :=
  goes_insertNew h

-- A row no stage is about.
def IntakeRow.IsPlain (row : IntakeRow) : Prop := ∀ id tenantId stage,
  Stage.Allows tenantId stage (.generated id) row ∧ row.entry = none

theorem goes_insertPlain {row : IntakeRow} (hrow : row.IsPlain) :
    (stagesOf inv tenantId).Goes stage (insertGenerated row) fun _ after => after = stage := by
  refine goes_insertGenerated fun id world writes hw hwrites hcommitted => ⟨stage, rfl, ?_⟩
  obtain ⟨hallowed, hentry⟩ := hrow id tenantId stage
  refine hw.insert_same hallowed (fun _ _ => ⟨hcommitted, hwrites⟩) (by simp) hentry

theorem goes_insertAll {rows : List IntakeRow} (hrows : ∀ row ∈ rows, row.IsPlain) :
    (stagesOf inv tenantId).Goes stage (insertAll rows) fun _ after => after = stage := by
  induction rows with
  | nil => exact .ret rfl
  | cons row rest ih =>
      obtain ⟨hrow, hrest⟩ := List.forall_mem_cons.mp hrows
      exact (goes_insertPlain hrow).then fun _ => ih hrest

theorem goes_nextTicketNumber :
    (stagesOf inv tenantId).Goes .started (nextTicketNumber tenantId)
      fun number after => after = .numbered number := by
  intro world writes hw after ha
  refine ⟨fun _ => trivial, fun row hrow => ?_⟩
  obtain ⟨number, rfl, hwrote⟩ := (hw.stable ha).draw hrow
  intro later hl
  exact ⟨_, rfl, hwrote.stable hl⟩

theorem goes_upsertContactByEmail (contact : Contact) :
    (stagesOf inv tenantId).Goes stage (upsertContactByEmail tenantId contact) fun _ after => after = stage := by
  refine (Stages.goes_query _ _ _).then fun rows => ?_
  split
  · exact .ret rfl
  · exact goes_insertPlain fun _ _ _ => ⟨trivial, rfl⟩

variable (env : Environment) (runtime : Runtime) (reads : TicketStore)

theorem goes_contactOf (dto : CreateTicketDto) :
    (stagesOf inv tenantId).Goes stage (contactOf env tenantId reads dto) fun _ after => after = stage := by
  unfold contactOf
  split
  · refine (goes_reading _ _).then fun id => ?_
    refine (Stages.goes_query _ _ _).then fun rows => ?_
    split
    · exact .ret rfl
    · exact .throw _
  · exact goes_upsertContactByEmail _
  · exact .throw _

theorem goes_roundRobin (groupId : Uuid) (agentIds : List Uuid) :
    (stagesOf inv tenantId).Goes stage (roundRobin tenantId groupId agentIds) fun _ after => after = stage := by
  refine (Stages.goes_query _ _ _).then fun rows => ?_
  dsimp only
  generalize agentIds[(_ : Nat)]? = chosen
  cases chosen with
  | none => exact .ret rfl
  | some chosen =>
      intro world writes hw after ha
      constructor
      · intro hnone
        cases hnone
      · intro row hrow later hl
        obtain rfl := Option.some.inj hrow
        have hcursor : stage.Allows tenantId (.cursor tenantId groupId) (.cursor chosen) := trivial
        refine ⟨stage, rfl, ((hw.stable ha).insert_same hcursor (fun _ hid => ?_) (by simp) rfl).stable hl⟩
        cases hid

theorem goes_assigneeOf (agentId groupId : Option Uuid) (requiredSkill : Option String) :
    (stagesOf inv tenantId).Goes stage (assigneeOf tenantId reads agentId groupId requiredSkill)
      fun _ after => after = stage := by
  have hleast : ∀ (config : GroupAssignmentConfig) (agentIds : List Uuid),
      (stagesOf inv tenantId).Goes stage
        (openTicketCounts tenantId agentIds >>= fun counts =>
          (.ret (leastLoaded counts config.maxOpenTicketsPerAgent agentIds) : IntakeProg (Option Uuid)))
        fun _ after => after = stage := by
    intro config agentIds
    have hcounts : (stagesOf inv tenantId).Goes stage (openTicketCounts tenantId agentIds)
        fun _ after => after = stage :=
      (Stages.goes_query _ _ _).then fun _ => .ret rfl
    exact hcounts.then fun _ => .ret rfl
  unfold assigneeOf pickAssignee
  split
  · exact .ret rfl
  · dsimp only
    split
    · exact .ret rfl
    · split
      · exact .ret rfl
      · split
        · exact .ret rfl
        · exact goes_roundRobin _ _
      · split
        · exact .ret rfl
        · exact hleast _ _
      · split
        · exact .ret rfl
        · split
          · exact .ret rfl
          · exact hleast _ _
  · exact .ret rfl

-- The rules keep the number of the ticket they run on.
theorem ticketNumber_runRules (id : Uuid) (ticket : Ticket) (startedAt : Nat) :
    Transaction.Ensures (runRules env .ticketCreated id ticket startedAt)
      { reads with tickets := (∅ : Table Uuid Ticket).insert id ticket, messages := [], activities := [] }
      fun _ store => ∀ row, store.tickets.lookup id = some row → row.ticketNumber = ticket.ticketNumber := by
  refine (runRules_leaves .ticketCreated (AList.lookup_insert _)).mono ?_
  rintro result store ⟨hresult, hcolumns, -⟩ row hrow
  obtain rfl := Option.some.inj (hrow.symm.trans hresult)
  have hnumber : row.beyondRules.ticketNumber = ticket.beyondRules.ticketNumber :=
    congrArg Ticket.ticketNumber hcolumns
  exact hnumber

theorem goes_runCreationRules {number entries : Nat} {id : Uuid} {legacy : Option Nat} {ticket : Ticket}
    (hnumber : ticket.ticketNumber = number) (startedAt : Nat) :
    (stagesOf inv tenantId).Goes (.opened number id legacy entries)
      (runCreationRules env tenantId reads id ticket startedAt)
      fun _ after => after = .opened number id legacy entries := by
  unfold runCreationRules
  split
  · exact .throw _
  · rename_i result store hrun
    have hrules := ticketNumber_runRules env reads id ticket startedAt result store hrun
    have hupdate : (stagesOf inv tenantId).Goes (.opened number id legacy entries)
        (Prog.update (.generated id) (IntakeRow.onTicket fun row => (store.tickets.lookup id).getD row) :
          IntakeProg (Option IntakeRow)) fun _ after => after = .opened number id legacy entries := by
      intro world writes hw after ha
      have hafter := hw.stable ha
      constructor
      · exact fun _ later hl => ⟨_, rfl, hafter.stable hl⟩
      · intro row hrow later hl
        obtain ⟨old, hold⟩ := hafter.ticket _ _ _ _ rfl
        obtain ⟨-, _, hstage⟩ := hafter.allowed _ _ hold
        have holdNumber := (Stage.opened.inj hstage).1
        rw [Table.lookup_union_own hold] at hrow
        obtain rfl := Option.some.inj hrow
        refine ⟨_, rfl, (hafter.updateTicket ?_).stable hl⟩
        cases hlast : store.tickets.lookup id with
        | none => exact holdNumber.symm
        | some last => exact (hrules last hlast).trans hnumber
    refine hupdate.then fun _ => ?_
    have hactivities : ∀ row ∈ store.activities.map (IntakeRow.activity tenantId), row.IsPlain := by
      intro row hrow
      obtain ⟨activity, -, rfl⟩ := List.mem_map.mp hrow
      exact fun _ _ _ => ⟨trivial, rfl⟩
    have hmessages : ∀ row ∈ store.messages.map (IntakeRow.message tenantId none), row.IsPlain := by
      intro row hrow
      obtain ⟨message, -, rfl⟩ := List.mem_map.mp hrow
      exact fun _ _ _ => ⟨trivial, rfl⟩
    exact (goes_insertAll hactivities).then fun _ => (goes_insertAll hmessages).then fun _ => .ret rfl

theorem goes_openTicket {number : Nat} {legacy : Option Nat} {row : Ticket} (hnumber : row.ticketNumber = number) :
    (stagesOf inv tenantId).Goes (.numbered number) (insertGenerated (.ticket tenantId legacy row))
      fun id after => after = .opened number id legacy 0 :=
  goes_insertGenerated fun _ _ _ hw _ hcommitted => ⟨_, rfl, hw.openTicket hcommitted legacy hnumber⟩

-- A creation ends with its ticket open.
theorem goes_create (dto : CreateTicketDto) (startedAt : Nat) :
    (stagesOf inv tenantId).Goes .started (create env tenantId reads dto startedAt)
      fun _ after => ∃ number id, after = .opened number id none 0 := by
  refine (goes_contactOf env reads dto).then fun contactId => ?_
  refine (goes_reading _ _).then fun references => ?_
  refine goes_nextTicketNumber.bind ?_
  rintro number _ rfl
  refine (Stages.goes_dateNow _ _).then fun createdAt => ?_
  refine (goes_reading _ _).then fun customFields => ?_
  refine (goes_assigneeOf reads _ _ _).then fun agentId => ?_
  have hnumber : (newTicket env reads dto contactId references number createdAt customFields agentId).ticketNumber =
      number := rfl
  refine (goes_openTicket hnumber).bind ?_
  rintro id _ rfl
  refine (goes_runCreationRules env reads hnumber startedAt).mono ?_
  rintro _ _ rfl
  exact ⟨_, id, rfl⟩

theorem goes_importConversations (ticketId : Uuid) {number legacy entries : Nat}
    (conversations : List FreshdeskConversation) :
    (stagesOf inv tenantId).Goes (.opened number ticketId (some legacy) entries)
      (importConversations runtime tenantId reads legacy ticketId entries conversations)
      fun _ after => after = .opened number ticketId (some legacy) (entries + conversations.length) := by
  induction conversations generalizing entries with
  | nil => exact .ret rfl
  | cons conversation rest ih =>
      have himported : ∀ row : TicketMessage,
          (stagesOf inv tenantId).Goes (.opened number ticketId (some legacy) entries)
          (insertGenerated (.message tenantId (some ⟨legacy, entries⟩) row))
          fun _ after => after = .opened number ticketId (some legacy) (entries + 1) := by
        intro row
        refine goes_insertGenerated fun id world writes hw hwrites hcommitted => ?_
        exact ⟨_, rfl, hw.importEntry hwrites hcommitted row⟩
      refine (goes_reading _ _).then fun createdAt => ?_
      refine (himported _).bind ?_
      rintro _ _ rfl
      refine ih.mono fun _ after hafter => ?_
      rw [hafter, List.length_cons, Nat.add_assoc, Nat.add_comm 1]

theorem goes_persistAttachments (ticketId : Uuid) (attachments : List FreshdeskAttachment)
    (warnings : List String) :
    (stagesOf inv tenantId).Goes stage (persistAttachments tenantId ticketId attachments warnings)
      fun _ after => after = stage := by
  induction attachments generalizing warnings with
  | nil => exact .ret rfl
  | cons attachment rest ih =>
      unfold persistAttachments
      split
      · exact ih _
      · rename_i storagePath _
        have hplain : (IntakeRow.attachment tenantId
            { ticketId := ticketId, fileName := attachment.name, storagePath := storagePath }).IsPlain :=
          fun _ _ _ => ⟨trivial, rfl⟩
        exact (goes_insertPlain hplain).then fun _ => ih warnings

theorem ticketNumber_importedRow (ticket : FreshdeskTicket) (context : MigrationContext) (number : Nat)
    (contactId : Uuid) : Transaction.Ensures (importedRow runtime ticket context number contactId) reads
      fun row _ => row.ticketNumber = number :=
  .bind (.ran _ _) fun _ _ _ => .bind (.ran _ _) fun _ _ _ => .bind (.ran _ _) fun _ _ _ =>
    .bind (.ran _ _) fun _ _ _ => .bind (.ran _ _) fun _ _ _ => .pure rfl

theorem goes_importNew (ticket : FreshdeskTicket) (context : MigrationContext) (contactId : Uuid) :
    (stagesOf inv tenantId).Goes .started (importNew runtime tenantId reads ticket context contactId)
      fun _ after => ∃ number id entries, after = .opened number id (some ticket.id) entries := by
  refine goes_nextTicketNumber.bind ?_
  rintro number _ rfl
  refine (goes_reading_ensures (ticketNumber_importedRow runtime reads ticket context number contactId)).bind ?_
  rintro row _ ⟨hnumber, rfl⟩
  refine (goes_openTicket hnumber).bind ?_
  rintro id _ rfl
  refine (goes_importConversations runtime reads id ticket.conversations).bind ?_
  rintro _ _ rfl
  refine (goes_persistAttachments id _ _).then fun warnings => ?_
  exact .ret ⟨number, id, _, rfl⟩

-- An import ends with its ticket open, or has written nothing that matters.
theorem goes_importTicket (ticket : FreshdeskTicket) (context : MigrationContext) :
    (stagesOf inv tenantId).Goes .started (importTicket runtime tenantId reads ticket context)
      fun _ after => after = .started ∨
        ∃ number id entries, after = .opened number id (some ticket.id) entries := by
  refine (Stages.goes_query _ _ _).then fun rows => ?_
  split
  · exact .ret (.inl rfl)
  · split
    · exact .ret (.inl rfl)
    · refine (goes_upsertContactByEmail _).then fun contactId => ?_
      exact (goes_importNew runtime reads ticket context contactId).mono fun _ _ h => .inr h

end Parts

section Service

variable (env : Environment) (runtime : Runtime)

-- The legacy number of the ticket a call opens.
def IntakeCall.legacyTicketNumber (call : IntakeCall) : Option Nat :=
  match call.request with
  | .create _ => none
  | .importTicket ticket _ => some ticket.id

-- What a transaction has written when it commits: a ticket it opened, or none.
def Finished (call : IntakeCall) (world : IntakeWorld) (writes : IntakeTable) : Prop :=
  ∃ stage, (stage = .started ∨ ∃ number id entries, stage = .opened number id call.legacyTicketNumber entries) ∧
    Wrote call.tenantId stage world writes

theorem wp_intake (inv : IntakeWorld → Prop) (call : IntakeCall) (world : IntakeWorld) :
    ((intakeService env runtime).body call world.clock).wp (fun _ _ => True) inv
      (fun world writes _ => Finished call world writes) ∅ world := by
  have hstart := Wrote.start call.tenantId world
  obtain ⟨tenantId, reads, request⟩ := call
  cases request with
  | create dto =>
      have hcreate : (stagesOf inv tenantId).Goes .started
          ((create env tenantId reads dto world.clock).map IntakeResult.created)
          fun _ after => ∃ number id, after = .opened number id none 0 :=
        (goes_create env reads dto world.clock).map
      refine (hcreate world ∅ hstart).mono ?_
      rintro _ _ _ - ⟨_, ⟨number, id, rfl⟩, hwrote⟩
      exact ⟨_, .inr ⟨number, id, 0, rfl⟩, hwrote⟩
  | importTicket ticket context =>
      have himport : (stagesOf inv tenantId).Goes .started
          ((importTicket runtime tenantId reads ticket context).map IntakeResult.imported)
          fun _ after => after = .started ∨
            ∃ number id entries, after = .opened number id (some ticket.id) entries :=
        (goes_importTicket runtime reads ticket context).map
      exact (himport world ∅ hstart).mono fun _ _ _ _ hdone => hdone

-- An invariant of the tables that each transaction keeps at its commit, if the
-- condition holds there.
def intakes (inv : IntakeTable → Prop) (condition : IntakeWorld → IntakeCall → IntakeTable → Prop)
    (commit : ∀ call world writes, inv world.committed → Finished call world writes →
      condition world call writes → inv (writes ∪ world.committed)) :
    RelyGuarantee (intakeService env runtime) where
  rely _ _ := True
  inv world := inv world.committed
  post call _ _ world writes _ := Finished call world writes
  condition world call writes _ := condition world call writes
  refl _ := trivial
  trans _ _ _ _ _ := trivial
  tick _ _ h := ⟨h, trivial⟩
  body call world _ := wp_intake env runtime _ call world
  commit call _ _ world writes _ h hdone hcondition := ⟨commit call world writes h hdone hcondition, trivial⟩

end Service

end CloudOps.Ticketing.TicketIntake
