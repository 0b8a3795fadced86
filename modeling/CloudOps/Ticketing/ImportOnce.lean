import CloudOps.Ticketing.TicketNumbering

namespace CloudOps.Ticketing.TicketIntake

open CloudOps.ReadCommitted

-- A tenant has one ticket at most for a Freshdesk ticket, and one message at most for
-- an entry of its conversation.
structure ImportedOnce (table : IntakeTable) : Prop where
  tickets : ∀ id other tenantId legacy row otherRow,
    table.lookup (.generated id) = some (.ticket tenantId (some legacy) row) →
    table.lookup (.generated other) = some (.ticket tenantId (some legacy) otherRow) → id = other
  entries : ∀ id other tenantId ref row otherRow,
    table.lookup (.generated id) = some (.message tenantId (some ref) row) →
    table.lookup (.generated other) = some (.message tenantId (some ref) otherRow) → id = other

-- Beside it, each imported entry has the ticket of its Freshdesk ticket.
structure ImportsStored (table : IntakeTable) : Prop extends ImportedOnce table where
  known : ∀ id tenantId ref row, table.lookup (.generated id) = some (.message tenantId (some ref) row) →
    ∃ ticketId ticket,
      table.lookup (.generated ticketId) = some (.ticket tenantId (some ref.freshdeskTicketId) ticket)

variable (env : Environment) (runtime : Runtime)

def ImportsOnce (start : IntakeDb) (events : List IntakeEvent) : Prop :=
  Runs.Always (Db.step (intakeService env runtime)) (fun db => ImportedOnce db.world.committed) start events

-- What the SELECT of importTicket looks for is there.
def isImported (table : IntakeTable) (tenantId : Uuid) (legacy : Nat) : Bool :=
  table.rows.any fun row => importedAs tenantId legacy row.1 row.2

-- An import about to commit the ticket it has opened, where its SELECT, made now,
-- would find a ticket that another one has committed since.
def importsAgain (world : IntakeWorld) (call : IntakeCall) (writes : IntakeTable) : Bool :=
  call.legacyTicketNumber.any fun legacy =>
    isImported writes call.tenantId legacy && isImported world.committed call.tenantId legacy

def NoSecondImport : IntakeDb → IntakeEvent → Prop :=
  CommitMeets fun world call writes _ => importsAgain world call writes = false

instance (db : IntakeDb) : DecidablePred (NoSecondImport db) :=
  inferInstanceAs (DecidablePred (CommitMeets
    (fun world call writes _ => importsAgain world call writes = false) db))

variable {env runtime} {table : IntakeTable} {tenantId : Uuid} {legacy : Nat}

theorem importedAs_eq_true {key : IntakeKey} {row : IntakeRow} : importedAs tenantId legacy key row = true ↔
    ∃ id ticket, key = .generated id ∧ row = .ticket tenantId (some legacy) ticket := by
  unfold importedAs
  split
  · simp
  · rename_i hother
    constructor
    · intro hfalse
      cases hfalse
    · rintro ⟨id, ticket, hkey, hrow⟩
      exact absurd hrow (hother id tenantId (some legacy) ticket hkey)

theorem isImported_eq_true : isImported table tenantId legacy = true ↔
    ∃ id ticket, table.lookup (.generated id) = some (.ticket tenantId (some legacy) ticket) := by
  simp only [isImported, List.any_eq_true, importedAs_eq_true]
  constructor
  · rintro ⟨⟨_, _⟩, hrow, id, ticket, rfl, rfl⟩
    exact ⟨id, ticket, Table.mem_rows.mp hrow⟩
  · rintro ⟨id, ticket, hlookup⟩
    exact ⟨_, Table.mem_rows.mpr hlookup, id, ticket, rfl, rfl⟩

section Commits

variable {call : IntakeCall} {world : IntakeWorld} {writes : IntakeTable}

-- A ticket or an entry that a transaction brings is of its own Freshdesk ticket, which
-- then has its ticket among what it has written.
theorem Finished.ticket {owner id : Uuid} {row : Ticket} (h : Finished call world writes)
    (hrow : writes.lookup (.generated id) = some (.ticket owner (some legacy) row)) :
    owner = call.tenantId ∧ call.legacyTicketNumber = some legacy ∧
      ∀ other otherRow, writes.lookup (.generated other) = some (.ticket owner (some legacy) otherRow) →
        id = other := by
  obtain ⟨stage, hstage, hwrote⟩ := h
  obtain ⟨howner, entries, rfl⟩ := hwrote.allowed _ _ hrow
  have hlegacy : call.legacyTicketNumber = some legacy := by
    rcases hstage with hstarted | ⟨number, opened, more, hopened⟩
    · cases hstarted
    · exact (Stage.opened.inj hopened).2.2.1.symm
  refine ⟨howner, hlegacy, fun other otherRow hother => ?_⟩
  obtain ⟨-, _, hotherStage⟩ := hwrote.allowed _ _ hother
  exact (Stage.opened.inj hotherStage).2.1

theorem Finished.message {owner id : Uuid} {ref : EntryRef} {row : TicketMessage}
    (h : Finished call world writes)
    (hrow : writes.lookup (.generated id) = some (.message owner (some ref) row)) :
    (∃ ticketId ticket,
      writes.lookup (.generated ticketId) = some (.ticket owner (some ref.freshdeskTicketId) ticket)) ∧
    ∀ other otherRow, writes.lookup (.generated other) = some (.message owner (some ref) otherRow) →
      id = other := by
  obtain ⟨stage, -, hwrote⟩ := h
  obtain ⟨rfl, number, ticketId, entries, hopened, -⟩ := hwrote.allowed _ _ hrow
  obtain ⟨ticket, hticket⟩ := hwrote.ticket _ _ _ _ hopened
  refine ⟨⟨ticketId, ticket, hticket⟩, fun other otherRow hother => ?_⟩
  have hkeys := hwrote.once _ _ _ _ (call.tenantId, ref) hrow hother rfl rfl
  exact IntakeKey.generated.inj hkeys

-- What a transaction has written leaves every committed row in place.
theorem Finished.kept {id : Uuid} {row : IntakeRow} (h : Finished call world writes)
    (hrow : world.committed.lookup (.generated id) = some row) :
    (writes ∪ world.committed).lookup (.generated id) = some row := by
  obtain ⟨_, -, hwrote⟩ := h
  have hnot : .generated id ∉ writes := fun hmem => hwrote.fresh id hmem (Table.mem_of_lookup hrow)
  rwa [Table.lookup_union_of_notMem hnot]

-- A transaction that brings a Freshdesk ticket brings it again where it is there
-- already.
theorem Finished.importsAgain_iff (h : Finished call world writes) :
    importsAgain world call writes = true ↔ ∃ owner legacy id other row otherRow,
      writes.lookup (.generated id) = some (.ticket owner (some legacy) row) ∧
      world.committed.lookup (.generated other) = some (.ticket owner (some legacy) otherRow) := by
  simp only [importsAgain, Option.any_eq_true, Bool.and_eq_true, isImported_eq_true]
  constructor
  · rintro ⟨legacy, -, ⟨id, row, hrow⟩, other, otherRow, hother⟩
    exact ⟨call.tenantId, legacy, id, other, row, otherRow, hrow, hother⟩
  · rintro ⟨owner, legacy, id, other, row, otherRow, hrow, hother⟩
    obtain ⟨rfl, hlegacy, -⟩ := h.ticket hrow
    exact ⟨legacy, hlegacy, ⟨id, row, hrow⟩, other, otherRow, hother⟩

theorem ImportsStored.publish (h : ImportsStored world.committed) (hdone : Finished call world writes)
    (hcondition : importsAgain world call writes = false) : ImportsStored (writes ∪ world.committed) := by
  have hnew : ∀ owner legacy id other row otherRow,
      writes.lookup (.generated id) = some (.ticket owner (some legacy) row) →
      world.committed.lookup (.generated other) ≠ some (.ticket owner (some legacy) otherRow) := by
    intro owner legacy id other row otherRow hrow hother
    have hagain := hdone.importsAgain_iff.mpr ⟨owner, legacy, id, other, row, otherRow, hrow, hother⟩
    rw [hcondition] at hagain
    cases hagain
  -- the ticket of an entry that was there before is there as well
  have hnewEntry : ∀ owner ref id other row otherRow,
      writes.lookup (.generated id) = some (.message owner (some ref) row) →
      world.committed.lookup (.generated other) ≠ some (.message owner (some ref) otherRow) := by
    intro owner ref id other row otherRow hrow hother
    obtain ⟨⟨ticketId, ticket, hticket⟩, -⟩ := hdone.message hrow
    obtain ⟨otherId, otherTicket, hotherTicket⟩ := h.known other owner ref otherRow hother
    exact hnew owner _ ticketId otherId ticket otherTicket hticket hotherTicket
  refine ⟨⟨?_, ?_⟩, ?_⟩
  · intro id other owner legacy row otherRow hrow hother
    rcases Table.lookup_union_cases hrow with hown | ⟨-, hbase⟩
    · rcases Table.lookup_union_cases hother with hotherOwn | ⟨-, hotherBase⟩
      · exact (hdone.ticket hown).2.2 other otherRow hotherOwn
      · exact absurd hotherBase (hnew owner legacy id other row otherRow hown)
    · rcases Table.lookup_union_cases hother with hotherOwn | ⟨-, hotherBase⟩
      · exact absurd hbase (hnew owner legacy other id otherRow row hotherOwn)
      · exact h.tickets id other owner legacy row otherRow hbase hotherBase
  · intro id other owner ref row otherRow hrow hother
    rcases Table.lookup_union_cases hrow with hown | ⟨-, hbase⟩
    · rcases Table.lookup_union_cases hother with hotherOwn | ⟨-, hotherBase⟩
      · exact (hdone.message hown).2 other otherRow hotherOwn
      · exact absurd hotherBase (hnewEntry owner ref id other row otherRow hown)
    · rcases Table.lookup_union_cases hother with hotherOwn | ⟨-, hotherBase⟩
      · exact absurd hbase (hnewEntry owner ref other id otherRow row hotherOwn)
      · exact h.entries id other owner ref row otherRow hbase hotherBase
  · intro id owner ref row hrow
    rcases Table.lookup_union_cases hrow with hown | ⟨-, hbase⟩
    · obtain ⟨⟨ticketId, ticket, hticket⟩, -⟩ := hdone.message hown
      exact ⟨ticketId, ticket, Table.lookup_union_own hticket _⟩
    · obtain ⟨ticketId, ticket, hticket⟩ := h.known id owner ref row hbase
      exact ⟨ticketId, ticket, hdone.kept hticket⟩

-- A ticket brought again is a second one.
theorem Finished.no_second (hdone : Finished call world writes)
    (hafter : ImportedOnce (writes ∪ world.committed)) : importsAgain world call writes = false := by
  refine Bool.eq_false_iff.mpr fun hagain => ?_
  obtain ⟨owner, legacy, id, other, row, otherRow, hrow, hother⟩ := hdone.importsAgain_iff.mp hagain
  have hseen := Table.lookup_union_own hrow world.committed
  have hsame := hafter.tickets id other owner legacy row otherRow hseen (hdone.kept hother)
  subst hsame
  obtain ⟨_, -, hwrote⟩ := hdone
  exact hwrote.fresh id (Table.mem_of_lookup hrow) (Table.mem_of_lookup hother)

end Commits

variable (env runtime) in
def imports : RelyGuarantee (intakeService env runtime) :=
  intakes env runtime ImportsStored (fun world call writes => importsAgain world call writes = false)
    fun _ _ _ h hdone hcondition => h.publish hdone hcondition

-- Each Freshdesk ticket is imported once in exactly the runs in which no import commits
-- after another one of the same ticket has committed behind its check.
theorem imports_once_iff (committed : IntakeTable) (clock : Nat) (hstart : ImportsStored committed)
    (events : List IntakeEvent) :
    ImportsOnce env runtime (Db.start (World.start committed clock)) events ↔
      Runs.AllSteps (Db.step (intakeService env runtime)) NoSecondImport
        (Db.start (World.start committed clock)) events := by
  have hholds : (imports env runtime).Holds (Db.start (World.start committed clock)) := .start hstart
  have hneed : ∀ db event, (imports env runtime).Holds db →
      ImportedOnce (db.step (intakeService env runtime) event).world.committed → NoSecondImport db event := by
    intro db event h
    refine RelyGuarantee.commitMeets_of_step (fun world => ImportedOnce world.committed) h ?_ event
    intro call begunOn startedAt writes value hdone hafter
    exact Finished.no_second hdone hafter
  exact Runs.always_iff_allSteps events hholds (fun _ h => h.inv.toImportedOnce)
    (fun _ _ h hcondition => (h.step hcondition).1) hneed

def annsContact : IntakeTable :=
  (∅ : IntakeTable).insert (.generated 0) (.contact 1 ⟨"Ann", "ann@example.com"⟩)

def vpnTicket : FreshdeskTicket where
  id := 1001
  subject := "VPN down"
  status := 2
  priority := 2
  type := none
  groupId := none
  responderId := none
  requester := some ⟨some "Ann", "ann@example.com"⟩
  createdAt := "2024-01-05T09:00:00Z"
  updatedAt := "2024-01-05T10:00:00Z"
  conversations := [⟨some "Restarted the gateway", false, true, "2024-01-05T10:00:00Z", []⟩]
  attachments := []

def vpnImport : IntakeCall := ⟨1, newTenant.toTicketStore, .importTicket vpnTicket ⟨[], [], []⟩⟩

theorem annsContact_stored : ImportsStored annsContact := by
  have hlookup : ∀ id row, annsContact.lookup (.generated id) = some row →
      row = .contact 1 ⟨"Ann", "ann@example.com"⟩ := by
    intro id row hrow
    rw [annsContact, Table.lookup_insert_eq] at hrow
    split at hrow
    · exact (Option.some.inj hrow).symm
    · simp at hrow
  refine ⟨⟨?_, ?_⟩, ?_⟩
  · intro id other tenantId legacy row otherRow hrow
    cases hlookup _ _ hrow
  · intro id other tenantId ref row otherRow hrow
    cases hlookup _ _ hrow
  · intro id tenantId ref row hrow
    cases hlookup _ _ hrow

-- The second run begins once the first is through, and skips the ticket.
def importThenImport : List IntakeEvent :=
  [.begin 1 vpnImport, intakeStatement 1 0, intakeStatement 1 0, intakeStatement 1 0, intakeStatement 1 10,
    intakeStatement 1 11, .commit 1, .begin 2 vpnImport, intakeStatement 2 0, .commit 2]

theorem importThenImport_imports_once :
    ImportsOnce twoIds plainRuntime (Db.start (World.start annsContact 0)) importThenImport :=
  (imports_once_iff annsContact 0 annsContact_stored _).mpr (by decide +kernel)

-- Both look for the ticket before either has committed one. The second waits for the
-- counter, gets the next number and imports the ticket once more.
def importWithinImport : List IntakeEvent :=
  [.begin 1 vpnImport, .begin 2 vpnImport, intakeStatement 1 0, intakeStatement 2 0, intakeStatement 1 0,
    intakeStatement 2 0, intakeStatement 1 0, intakeStatement 2 0, intakeStatement 1 10, intakeStatement 1 11,
    .commit 1, intakeStatement 2 0, intakeStatement 2 20, intakeStatement 2 21, .commit 2]

def importedVpn (ticketNumber : Nat) : Ticket :=
  { unmergedTicket ticketNumber with
    subject := "VPN down", contactId := 0, status := .opened, source := .api, createdAt := 1000, updatedAt := 1000 }

theorem importWithinImport_imports_twice :
    ¬ ImportsOnce twoIds plainRuntime (Db.start (World.start annsContact 0)) importWithinImport := by
  intro h
  have hids := h.last.tickets 10 20 1 1001 (importedVpn 1) (importedVpn 2) (by decide +kernel)
    (by decide +kernel)
  cases hids

end CloudOps.Ticketing.TicketIntake
