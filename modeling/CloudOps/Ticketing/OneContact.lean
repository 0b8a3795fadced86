import CloudOps.Ticketing.TicketIntake
import CloudOps.Ticketing.IntakeWrites
import CloudOps.Ticketing.PortalAuthService
import CloudOps.Ticketing.TicketNumbering

namespace CloudOps.Ticketing.Portal

open CloudOps.ReadCommitted CloudOps.Ticketing.TicketIntake

abbrev PortalTable := Table IntakeKey PortalRow
abbrev PortalWorld := World IntakeKey PortalRow ContactResult ContactCall
abbrev PortalDb := Db IntakeKey PortalRow ServiceError ContactResult ContactCall
abbrev PortalEvent := Event IntakeKey PortalRow ContactCall

-- The tenant and the email of a contact.
def addressOf : IntakeKey → IntakeRow → Option (Uuid × String)
  | .generated _, .contact tenantId row => some (tenantId, row.email)
  | _, _ => none

def addressAt (table : PortalTable) (key : IntakeKey) : Option (Uuid × String) :=
  (table.lookup key).bind fun row => addressOf key row.1

-- No two contacts of a tenant have the same email.
def OneContactEach (table : PortalTable) : Prop :=
  ∀ key other address, addressAt table key = some address → addressAt table other = some address → key = other

variable (portal : PortalRuntime) (env : Environment) (runtime : Runtime)

def ContactsStayUnique (start : PortalDb) (events : List PortalEvent) : Prop :=
  Runs.Always (Db.step (contactService portal env runtime)) (fun db => OneContactEach db.world.committed) start events

-- A transaction about to commit a contact it has inserted, where one with the same email
-- is there by now.
def addsAgain (world : PortalWorld) (writes : PortalTable) : Bool :=
  writes.rows.any fun added => decide (added.1 ∉ world.committed) &&
    (addressOf added.1 added.2.1).any fun address =>
      world.committed.rows.any fun other => addressOf other.1 other.2.1 == some address

def NoSecondContact : PortalDb → PortalEvent → Prop :=
  CommitMeets fun world _ writes _ => addsAgain world writes = false

instance (db : PortalDb) : DecidablePred (NoSecondContact db) :=
  inferInstanceAs (DecidablePred (CommitMeets (fun world _ writes _ => addsAgain world writes = false) db))

-- What a transaction has written at the stage at which it has inserted this contact, or
-- none: every other contact it has written keeps the address it had.
def ContactsAt (inserted : Option IntakeKey) (world : PortalWorld) (writes : PortalTable) : Prop :=
  ∀ key row, writes.lookup key = some row →
    addressOf key row.1 = addressAt world.committed key ∨ key ∉ world.committed ∧ inserted = some key

-- A step that makes no contact, and leaves one its address.
def KeepsAddress (key : IntakeKey) (old : Option IntakeRow) (row : IntakeRow) : Prop :=
  addressOf key row = old.bind (addressOf key)

section Stages

variable {inserted : Option IntakeKey} {world : PortalWorld} {writes : PortalTable}

theorem ContactsAt.empty (inserted : Option IntakeKey) (world : PortalWorld) : ContactsAt inserted world ∅ := by
  intro key row hrow
  simp at hrow

theorem ContactsAt.stable {rely : PortalWorld → PortalWorld → Prop} {inv : PortalWorld → Prop}
    {before after : PortalWorld} (h : ContactsAt inserted before writes)
    (hi : Interferes rely inv writes before after) : ContactsAt inserted after writes := by
  intro key row hrow
  have hlocked := hi.2.2 key (Table.mem_of_lookup hrow)
  have hsame : addressAt after.committed key = addressAt before.committed key := by
    unfold addressAt
    rw [hlocked]
  rw [hsame]
  refine (h key row hrow).imp_right fun ⟨hnew, hinserted⟩ => ⟨?_, hinserted⟩
  rw [← AList.lookup_eq_none] at hnew ⊢
  exact hlocked.trans hnew

theorem ContactsAt.write (h : ContactsAt inserted world writes) {key : IntakeKey} {row : PortalRow}
    (hstep : KeepsAddress key (((writes ∪ world.committed).lookup key).map Prod.fst) row.1) :
    ContactsAt inserted world (writes.insert key row) := by
  intro other found hfound
  rw [Table.lookup_insert_eq] at hfound
  split at hfound
  · rename_i hsame
    obtain rfl := Option.some.inj hfound
    subst hsame
    unfold KeepsAddress at hstep
    rw [Table.lookup_union] at hstep
    cases hown : writes.lookup other with
    | none =>
        rw [hown, Option.none_or, Option.bind_map] at hstep
        exact .inl hstep
    | some before =>
        rw [hown, Option.some_or] at hstep
        exact (h other before hown).imp_left fun hbefore => hstep.trans hbefore
  · exact h other found hfound

theorem ContactsAt.insert (h : ContactsAt none world writes) {key : IntakeKey} (hnew : key ∉ world.committed)
    (row : PortalRow) : ContactsAt (some key) world (writes.insert key row) := by
  intro other found hfound
  rw [Table.lookup_insert_eq] at hfound
  split at hfound
  · rename_i hsame
    exact .inr ⟨hsame ▸ hnew, congrArg some hsame.symm⟩
  · exact (h other found hfound).imp_right fun ⟨_, hnone⟩ => nomatch hnone

def contactStages (inv : PortalWorld → Prop) :
    Stages (fun _ _ => True : PortalWorld → PortalWorld → Prop) inv (Option IntakeKey) where
  holds := ContactsAt
  refl _ := trivial
  stable h hi := h.stable hi

end Stages

section Code

variable {α : Type} {tenantId : Uuid}

-- A row that is no contact under any key.
def NoContact (row : IntakeRow) : Prop := ∀ key, addressOf key row = none

theorem NoContact.changes {row : IntakeRow} (h : NoContact row) : (insertGenerated row).Changes KeepsAddress := by
  refine changes_insertGenerated ?_
  exact h

theorem noContact_ticket (legacy : Option Nat) (row : Ticket) : NoContact (.ticket tenantId legacy row) := by
  intro key
  cases key <;> rfl

theorem noContact_message (ref : Option EntryRef) (row : TicketMessage) : NoContact (.message tenantId ref row) := by
  intro key
  cases key <;> rfl

theorem noContact_activity (row : TicketActivity) : NoContact (.activity tenantId row) := by
  intro key
  cases key <;> rfl

theorem noContact_attachment (row : TicketAttachment) : NoContact (.attachment tenantId row) := by
  intro key
  cases key <;> rfl

-- Only what stands under a generated key can be a contact.
theorem keepsAddress_of_not_generated (key : IntakeKey) (old : Option IntakeRow) (row : IntakeRow)
    (hkey : ∀ id, key ≠ .generated id) : KeepsAddress key old row := by
  cases key with
  | generated id => exact absurd rfl (hkey id)
  | counter | cursor => cases old <;> rfl

variable (env : Environment) (runtime : Runtime) (reads : TicketStore)

theorem changes_runCreationRules (id : Uuid) (ticket : Ticket) (startedAt : Nat) :
    (runCreationRules env tenantId reads id ticket startedAt).Changes KeepsAddress := by
  unfold runCreationRules
  split
  · trivial
  · rename_i result store _
    have hupdate : (Prog.update (.generated id) (IntakeRow.onTicket fun row => (store.tickets.lookup id).getD row) :
        IntakeProg (Option IntakeRow)).Changes KeepsAddress := by
      refine ⟨fun old row hrow => ?_, fun _ => trivial⟩
      obtain ⟨before, rfl, rfl⟩ := Option.map_eq_some_iff.mp hrow
      cases before <;> rfl
    refine hupdate.bind fun _ => (changes_insertAll ?_).bind fun _ => (changes_insertAll ?_).bind fun _ => trivial
    · intro row hrow
      obtain ⟨activity, -, rfl⟩ := List.mem_map.mp hrow
      exact noContact_activity activity
    · intro row hrow
      obtain ⟨message, -, rfl⟩ := List.mem_map.mp hrow
      exact noContact_message none message

theorem changes_importConversations (freshdeskTicketId : Nat) (ticketId : Uuid) (index : Nat)
    (conversations : List FreshdeskConversation) :
    (importConversations runtime tenantId reads freshdeskTicketId ticketId index conversations).Changes
      KeepsAddress := by
  induction conversations generalizing index with
  | nil => trivial
  | cons conversation rest ih =>
      refine (changes_reading reads _).bind fun createdAt => ?_
      exact (noContact_message _ _).changes.bind fun _ => ih (index + 1)

theorem changes_persistAttachments (ticketId : Uuid) (attachments : List FreshdeskAttachment)
    (warnings : List String) : (persistAttachments tenantId ticketId attachments warnings).Changes KeepsAddress := by
  induction attachments generalizing warnings with
  | nil => trivial
  | cons attachment rest ih =>
      unfold persistAttachments
      split
      · exact ih _
      · exact (noContact_attachment _).changes.bind fun _ => ih warnings

theorem changes_importNew (ticket : FreshdeskTicket) (context : MigrationContext) (contactId : Uuid) :
    (importNew runtime tenantId reads ticket context contactId).Changes KeepsAddress := by
  refine (changes_nextTicketNumber keepsAddress_of_not_generated).bind fun number => ?_
  refine (changes_reading reads _).bind fun row => ?_
  refine (noContact_ticket _ row).changes.bind fun id => ?_
  refine (changes_importConversations runtime reads _ id 0 _).bind fun _ => ?_
  exact (changes_persistAttachments id _ _).bind fun _ => trivial

end Code

section Parts

variable {α : Type} {inv : PortalWorld → Prop} {stage : Option IntakeKey} {tenantId : Uuid}

-- Code of the other services that makes no contact.
theorem goes_rest {prog : IntakeProg α} (h : prog.Changes KeepsAddress) :
    (contactStages inv).Goes stage (prog.withColumns ContactAccount.blank) fun _ after => after = stage := by
  have hwide : (prog.withColumns ContactAccount.blank).Changes
      fun key old row => KeepsAddress key (old.map Prod.fst) row.1 := h.withColumns fun _ _ _ hstep => hstep
  exact .of_changes hwide (fun world _ _ => .empty stage world) fun _ _ _ _ hholds hstep => hholds.write hstep

theorem goes_insertContact (contact : Contact) (account : ContactAccount)
    {next : InsertResult IntakeKey → Prog IntakeKey PortalRow ServiceError α}
    (hnext : ∀ result, (∃ value, next result = .ret value) ∨ ∃ error, next result = .throw error) :
    (contactStages inv).Goes none (.insert (.contact tenantId contact, account) next) fun _ _ => True := by
  intro world writes hholds after ha
  have hafter : ContactsAt none after writes := hholds.stable ha
  refine ⟨fun key _ hcommitted => ?_, ?_⟩
  · rcases hnext (.inserted key) with ⟨value, hvalue⟩ | ⟨error, herror⟩
    · rw [hvalue]
      exact fun later hl => ⟨some key, trivial, (hafter.insert hcommitted _).stable hl⟩
    · rw [herror]
      trivial
  · rcases hnext .duplicateKey with ⟨value, hvalue⟩ | ⟨error, herror⟩
    · rw [hvalue]
      exact fun later _ => ⟨none, trivial, .empty none later⟩
    · rw [herror]
      trivial

theorem goes_upsertContactByEmail (contact : Contact) :
    (contactStages inv).Goes none ((TicketIntake.upsertContactByEmail tenantId contact).withColumns .blank)
      fun _ _ => True := by
  rw [TicketIntake.upsertContactByEmail, Prog.withColumns_bind]
  refine (goes_rest (Prog.changes_query _)).then fun rows => ?_
  split
  · exact .ret trivial
  · refine goes_insertContact contact .blank fun result => ?_
    cases result with
    | inserted key =>
        cases key with
        | generated id => exact .inl ⟨id, rfl⟩
        | counter | cursor => exact .inr ⟨_, rfl⟩
    | duplicateKey => exact .inr ⟨_, rfl⟩

variable (env : Environment) (runtime : Runtime) (portal : PortalRuntime) (reads : TicketStore)

theorem goes_contactOf (dto : CreateTicketDto) :
    (contactStages inv).Goes none ((TicketIntake.contactOf env tenantId reads dto).withColumns .blank)
      fun _ _ => True := by
  unfold TicketIntake.contactOf
  split
  · refine (goes_rest ?_).mono fun _ _ _ => trivial
    refine (changes_reading reads _).bind fun id => (Prog.changes_query _).bind fun rows => ?_
    split <;> trivial
  · exact goes_upsertContactByEmail _
  · exact .throw _

theorem goes_create (dto : CreateTicketDto) (startedAt : Nat) :
    (contactStages inv).Goes none ((TicketIntake.create env tenantId reads dto startedAt).withColumns .blank)
      fun _ _ => True := by
  rw [TicketIntake.create, Prog.withColumns_bind]
  refine (goes_contactOf env reads dto).bind fun contactId after _ => ?_
  refine (goes_rest ?_).mono fun _ _ _ => trivial
  refine (changes_reading reads _).bind fun references =>
    (changes_nextTicketNumber keepsAddress_of_not_generated).bind fun number => ?_
  refine Prog.changes_dateNow.bind fun createdAt => (changes_reading reads _).bind fun customFields => ?_
  refine (changes_assigneeOf keepsAddress_of_not_generated reads _ _ _).bind fun agentId => ?_
  refine (noContact_ticket _ _).changes.bind fun id => ?_
  exact changes_runCreationRules env reads id _ startedAt

theorem goes_importTicket (ticket : FreshdeskTicket) (context : MigrationContext) :
    (contactStages inv).Goes none
      ((TicketIntake.importTicket runtime tenantId reads ticket context).withColumns .blank) fun _ _ => True := by
  rw [TicketIntake.importTicket, Prog.withColumns_bind]
  refine (goes_rest (Prog.changes_query _)).then fun rows => ?_
  split
  · exact .ret trivial
  · split
    · exact .ret trivial
    · rw [Prog.withColumns_bind]
      refine (goes_upsertContactByEmail _).bind fun contactId after _ => ?_
      exact (goes_rest (changes_importNew runtime reads ticket context contactId)).mono fun _ _ _ => trivial

theorem goes_register (dto : PortalRegisterDto) :
    (contactStages inv).Goes none (register portal tenantId dto) fun _ _ => True := by
  refine (Stages.goes_query _ _ _).then fun rows => ?_
  dsimp only
  split
  · rename_i id row account _
    split
    · exact .throw _
    · have hclaim : (Prog.update (.generated id) (claim dto.name (portal.hash dto.password)) :
          Prog IntakeKey PortalRow ServiceError (Option PortalRow)).Changes
            fun key old row => KeepsAddress key (old.map Prod.fst) row.1 := by
        refine ⟨fun old row hrow => ?_, fun _ => trivial⟩
        obtain ⟨⟨before, account⟩, rfl, rfl⟩ := Option.map_eq_some_iff.mp hrow
        cases before <;> rfl
      have hgoes : (contactStages inv).Goes none (Prog.update (.generated id)
          (claim dto.name (portal.hash dto.password)) : Prog IntakeKey PortalRow ServiceError (Option PortalRow))
          fun _ after => after = none :=
        .of_changes hclaim (fun world _ _ => .empty none world) fun _ _ _ _ hholds hstep => hholds.write hstep
      refine hgoes.then fun updated => ?_
      split
      · exact .ret trivial
      · exact .throw _
  · refine goes_insertContact _ _ fun result => ?_
    cases result with
    | inserted key =>
        cases key with
        | generated id => exact .inl ⟨_, rfl⟩
        | counter | cursor => exact .inr ⟨_, rfl⟩
    | duplicateKey => exact .inr ⟨_, rfl⟩

theorem wp_contacts (call : ContactCall) (world : PortalWorld) :
    ((contactService portal env runtime).body call world.clock).wp (fun _ _ => True) inv
      (fun world writes _ => ∃ inserted, ContactsAt inserted world writes) ∅ world := by
  obtain ⟨tenantId, reads, request⟩ := call
  have hgoes : (contactStages inv).Goes none
      ((contactService portal env runtime).body ⟨tenantId, reads, request⟩ world.clock) fun _ _ => True := by
    cases request with
    | register dto => exact (goes_register portal dto).map
    | intake request =>
        cases request with
        | create dto =>
            have hcreate : (contactStages inv).Goes none
                (((TicketIntake.create env tenantId reads dto world.clock).map IntakeResult.created).withColumns
                  .blank) fun _ _ => True := by
              rw [Prog.withColumns_map]
              exact (goes_create env reads dto world.clock).map
            exact hcreate.map
        | importTicket ticket context =>
            have himport : (contactStages inv).Goes none
                (((TicketIntake.importTicket runtime tenantId reads ticket context).map
                  IntakeResult.imported).withColumns .blank) fun _ _ => True := by
              rw [Prog.withColumns_map]
              exact (goes_importTicket runtime reads ticket context).map
            exact himport.map
  exact (hgoes world ∅ (.empty none world)).mono fun _ _ _ _ ⟨inserted, _, hholds⟩ => ⟨inserted, hholds⟩

end Parts

section Commits

variable {inserted : Option IntakeKey} {world : PortalWorld} {writes : PortalTable} {key : IntakeKey}
  {address : Uuid × String}

theorem addressAt_eq_some {table : PortalTable} :
    addressAt table key = some address ↔
      ∃ row, table.lookup key = some row ∧ addressOf key row.1 = some address :=
  Option.bind_eq_some_iff

theorem addsAgain_eq_true : addsAgain world writes = true ↔ ∃ key other address,
    addressAt writes key = some address ∧ key ∉ world.committed ∧
    addressAt world.committed other = some address := by
  simp only [addsAgain, List.any_eq_true, Bool.and_eq_true, decide_eq_true_eq, Option.any_eq_true, beq_iff_eq,
    addressAt_eq_some]
  constructor
  · rintro ⟨⟨key, row⟩, hrow, hnew, address, haddress, ⟨other, otherRow⟩, hother, hotherAddress⟩
    exact ⟨key, other, address, ⟨row, Table.mem_rows.mp hrow, haddress⟩, hnew,
      otherRow, Table.mem_rows.mp hother, hotherAddress⟩
  · rintro ⟨key, other, address, ⟨row, hrow, haddress⟩, hnew, otherRow, hother, hotherAddress⟩
    exact ⟨(key, row), Table.mem_rows.mpr hrow, hnew, address, haddress,
      (other, otherRow), Table.mem_rows.mpr hother, hotherAddress⟩

-- A contact after the commit was there before, or is the one inserted.
theorem ContactsAt.origin (h : ContactsAt inserted world writes)
    (haddress : addressAt (writes ∪ world.committed) key = some address) :
    addressAt world.committed key = some address ∨
      addressAt writes key = some address ∧ key ∉ world.committed ∧ inserted = some key := by
  obtain ⟨row, hrow, hrowAddress⟩ := addressAt_eq_some.mp haddress
  rcases Table.lookup_union_cases hrow with hown | ⟨-, hbase⟩
  · have hwritten : addressAt writes key = some address := addressAt_eq_some.mpr ⟨row, hown, hrowAddress⟩
    rcases h key row hown with hkept | hnew
    · exact .inl (hkept ▸ hrowAddress)
    · exact .inr ⟨hwritten, hnew⟩
  · exact .inl (addressAt_eq_some.mpr ⟨row, hbase, hrowAddress⟩)

theorem ContactsAt.kept (h : ContactsAt inserted world writes)
    (haddress : addressAt world.committed key = some address) :
    addressAt (writes ∪ world.committed) key = some address := by
  obtain ⟨old, hold, holdAddress⟩ := addressAt_eq_some.mp haddress
  refine addressAt_eq_some.mpr ?_
  cases hown : writes.lookup key with
  | none => exact ⟨old, by rw [Table.lookup_union, hown, Option.none_or, hold], holdAddress⟩
  | some row =>
      refine ⟨row, Table.lookup_union_own hown _, ?_⟩
      rcases h key row hown with hkept | ⟨hnew, -⟩
      · exact hkept.trans haddress
      · exact absurd (Table.mem_of_lookup hold) hnew

theorem OneContactEach.publish (h : OneContactEach world.committed) (hdone : ContactsAt inserted world writes)
    (hcondition : addsAgain world writes = false) : OneContactEach (writes ∪ world.committed) := by
  have hnew : ∀ key other address, addressAt writes key = some address → key ∉ world.committed →
      addressAt world.committed other ≠ some address := by
    intro key other address hkey hfresh hother
    have hagain := addsAgain_eq_true.mpr ⟨key, other, address, hkey, hfresh, hother⟩
    rw [hcondition] at hagain
    cases hagain
  intro key other address hkey hother
  rcases hdone.origin hkey with hold | ⟨hwritten, hfresh, hinserted⟩
  · rcases hdone.origin hother with hotherOld | ⟨hotherWritten, hotherFresh, -⟩
    · exact h key other address hold hotherOld
    · exact absurd hold (hnew other key address hotherWritten hotherFresh)
  · rcases hdone.origin hother with hotherOld | ⟨-, -, hotherInserted⟩
    · exact absurd hotherOld (hnew key other address hwritten hfresh)
    · exact Option.some.inj (hinserted.symm.trans hotherInserted)

-- A contact added again is a second one.
theorem ContactsAt.no_second (hdone : ContactsAt inserted world writes)
    (hafter : OneContactEach (writes ∪ world.committed)) : addsAgain world writes = false := by
  refine Bool.eq_false_iff.mpr fun hagain => ?_
  obtain ⟨key, other, address, hkey, hfresh, hother⟩ := addsAgain_eq_true.mp hagain
  obtain ⟨row, hrow, haddress⟩ := addressAt_eq_some.mp hkey
  have hseen : addressAt (writes ∪ world.committed) key = some address :=
    addressAt_eq_some.mpr ⟨row, Table.lookup_union_own hrow _, haddress⟩
  obtain rfl := hafter key other address hseen (hdone.kept hother)
  obtain ⟨found, hfound, -⟩ := addressAt_eq_some.mp hother
  exact hfresh (Table.mem_of_lookup hfound)

end Commits

def contacts : RelyGuarantee (contactService portal env runtime) where
  rely _ _ := True
  inv world := OneContactEach world.committed
  post _ _ _ world writes _ := ∃ inserted, ContactsAt inserted world writes
  condition world _ writes _ := addsAgain world writes = false
  refl _ := trivial
  trans _ _ _ _ _ := trivial
  tick _ _ h := ⟨h, trivial⟩
  body call world _ := wp_contacts env runtime portal call world
  commit _ _ _ _ _ _ h hdone hcondition := ⟨hdone.elim fun _ hat => h.publish hat hcondition, trivial⟩

-- A tenant's contacts keep their emails apart in exactly the runs in which no transaction
-- commits a contact whose email another one has brought since.
theorem one_contact_iff (committed : PortalTable) (clock : Nat) (hstart : OneContactEach committed)
    (events : List PortalEvent) :
    ContactsStayUnique portal env runtime (Db.start (World.start committed clock)) events ↔
      Runs.AllSteps (Db.step (contactService portal env runtime)) NoSecondContact
        (Db.start (World.start committed clock)) events := by
  have hholds : (contacts portal env runtime).Holds (Db.start (World.start committed clock)) := .start hstart
  have hneed : ∀ db event, (contacts portal env runtime).Holds db →
      OneContactEach (db.step (contactService portal env runtime) event).world.committed →
      NoSecondContact db event := by
    intro db event h
    refine RelyGuarantee.commitMeets_of_step (fun world => OneContactEach world.committed) h ?_ event
    rintro call begunOn startedAt writes value ⟨inserted, hdone⟩ hafter
    exact hdone.no_second hafter
  exact Runs.always_iff_allSteps events hholds (fun _ h => h.inv) (fun _ _ h hcondition => (h.step hcondition).1) hneed

-- What register finds under an email is the contact of every ticket under that email.
theorem OneContactEach.claimed {table : PortalTable} (h : OneContactEach table) {tenantId : Uuid} {email : String}
    {key : IntakeKey} {row : PortalRow} (hrow : table.lookup key = some row)
    (hfound : contactWithEmail tenantId email key row.1 = true) {contactId : Uuid}
    (hticket : addressAt table (.generated contactId) = some (tenantId, email)) : key = .generated contactId := by
  refine h key (.generated contactId) (tenantId, email) (addressAt_eq_some.mpr ⟨row, hrow, ?_⟩) hticket
  obtain ⟨intake, account⟩ := row
  unfold contactWithEmail at hfound
  split at hfound
  · rename_i hcontact
    simp only [Bool.and_eq_true, beq_iff_eq] at hfound
    obtain ⟨rfl, rfl⟩ := hfound
    rw [hcontact]
    rfl
  · cases hfound

def plainPortal : PortalRuntime where
  hash password := password
  signJwt _ _ email := email

def annsTicket : ContactCall := ⟨1, newTenant.toTicketStore, .intake (.create (requestOf "Printer on fire"))⟩

def annRegisters : ContactCall :=
  ⟨1, newTenant.toTicketStore, .register ⟨"Ann", "ann@example.com", "correct horse"⟩⟩

def portalStatement (tid newId : Nat) : PortalEvent := .exec tid (.stored _) (.generated newId)

-- Ann's ticket is through before she registers, and she gets its contact.
def ticketThenRegister : List PortalEvent :=
  [.begin 1 annsTicket, portalStatement 1 0, portalStatement 1 10, portalStatement 1 0, portalStatement 1 0,
    portalStatement 1 11, portalStatement 1 0, .commit 1, .begin 2 annRegisters, portalStatement 2 0,
    portalStatement 2 0, .commit 2]

theorem oneContactEach_empty : OneContactEach ∅ := by
  intro key other address hkey
  simp [addressAt] at hkey

theorem ticketThenRegister_one_contact :
    ContactsStayUnique plainPortal twoIds plainRuntime (Db.start (World.start ∅ 0)) ticketThenRegister :=
  (one_contact_iff plainPortal twoIds plainRuntime ∅ 0 oneContactEach_empty _).mpr (by decide +kernel)

-- She registers while her ticket is being opened: both look for her before either is
-- through.
def registerWithinTicket : List PortalEvent :=
  [.begin 1 annsTicket, .begin 2 annRegisters, portalStatement 1 0, portalStatement 2 0, portalStatement 1 10,
    portalStatement 1 0, portalStatement 1 0, portalStatement 1 11, portalStatement 1 0, .commit 1,
    portalStatement 2 20, .commit 2]

theorem registerWithinTicket_two_contacts :
    ¬ ContactsStayUnique plainPortal twoIds plainRuntime (Db.start (World.start ∅ 0)) registerWithinTicket := by
  intro h
  have hkeys := h.last (.generated 10) (.generated 20) (1, "ann@example.com") (by decide +kernel) (by decide +kernel)
  cases hkeys

end CloudOps.Ticketing.Portal
