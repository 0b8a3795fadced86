import CloudOps.Numbering
import CloudOps.Ticketing.IntakeWrites
import CloudOps.Ticketing.ResolvedAt

namespace CloudOps.Ticketing.TicketIntake

open CloudOps.ReadCommitted CloudOps.Numbering

-- The number of a ticket of the tenant.
def numberOf (tenantId : Uuid) : IntakeKey × IntakeRow → Option Nat
  | (.generated _, .ticket owner _ row) => if owner = tenantId then some row.ticketNumber else none
  | _ => none

def ticketNumbers (table : IntakeTable) (tenantId : Uuid) : List Nat := table.rows.filterMap (numberOf tenantId)

-- The tenant's numbers: each ticket's, and the one its counter has for the next.
def numbersOf (table : IntakeTable) (tenantId : Uuid) : Numbers Uuid where
  next := nextNumber table tenantId
  number id := (table.lookup (.generated id)).bind fun row => numberOf tenantId (.generated id, row)

variable (env : Environment) (runtime : Runtime)

-- A step that is not the commit of a transaction of the tenant leaves the tenant's
-- numbers as they are.
def LeavesOthers (db : IntakeDb) (event : IntakeEvent) : Prop :=
  ∀ tenantId, (∀ tid txn value, event = .commit tid → db.active.lookup tid = some txn →
      txn.prog = .ret value → txn.call.tenantId ≠ tenantId) →
    numbersOf (db.step (intakeService env runtime) event).world.committed tenantId =
      numbersOf db.world.committed tenantId

-- In every state of the run each tenant's numbers are 1, 2, .. without a gap.
structure NumbersTickets (start : IntakeDb) (events : List IntakeEvent) : Prop where
  gapFree : Runs.Always (Db.step (intakeService env runtime))
    (fun db => ∀ tenantId, GapFree (ticketNumbers db.world.committed tenantId)) start events
  apart : Runs.AllSteps (Db.step (intakeService env runtime)) (LeavesOthers env runtime) start events

variable {env runtime}

section Numbers

variable {table : IntakeTable} {tenantId : Uuid}

theorem numberOf_eq_some {row : IntakeKey × IntakeRow} {n : Nat} :
    numberOf tenantId row = some n ↔ ∃ id legacy ticket,
      row = (.generated id, .ticket tenantId legacy ticket) ∧ ticket.ticketNumber = n := by
  unfold numberOf
  split
  · rename_i id owner legacy ticket
    by_cases howner : owner = tenantId
    · subst howner
      simp
    · simp [howner]
  · rename_i hother
    constructor
    · intro hnone
      cases hnone
    · rintro ⟨id, legacy, ticket, hrow, -⟩
      exact absurd hrow (hother id tenantId legacy ticket)

theorem numbersOf_number {id : Uuid} {n : Nat} : (numbersOf table tenantId).number id = some n ↔
    ∃ legacy ticket, table.lookup (.generated id) = some (.ticket tenantId legacy ticket) ∧
      ticket.ticketNumber = n := by
  simp only [numbersOf, Option.bind_eq_some_iff, numberOf_eq_some, Prod.mk.injEq, IntakeKey.generated.injEq]
  constructor
  · rintro ⟨_, hlookup, _, legacy, ticket, ⟨-, rfl⟩, hnumber⟩
    exact ⟨legacy, ticket, hlookup, hnumber⟩
  · rintro ⟨legacy, ticket, hlookup, hnumber⟩
    exact ⟨_, hlookup, id, legacy, ticket, ⟨rfl, rfl⟩, hnumber⟩

theorem mem_ticketNumbers {n : Nat} :
    n ∈ ticketNumbers table tenantId ↔ ∃ id, (numbersOf table tenantId).number id = some n := by
  simp only [ticketNumbers, List.mem_filterMap, numberOf_eq_some, numbersOf_number]
  constructor
  · rintro ⟨_, hrow, id, legacy, ticket, rfl, hnumber⟩
    exact ⟨id, legacy, ticket, Table.mem_rows.mp hrow, hnumber⟩
  · rintro ⟨id, legacy, ticket, hlookup, hnumber⟩
    exact ⟨_, Table.mem_rows.mpr hlookup, id, legacy, ticket, rfl, hnumber⟩

-- Numbers that are consecutive make a list without a gap.
theorem gapFree_ticketNumbers (h : (numbersOf table tenantId).Consecutive) :
    GapFree (ticketNumbers table tenantId) := by
  refine h.gapFree ?_ fun n => mem_ticketNumbers
  have hrows : table.rows.Nodup := table.nodup_rows_ids.of_map _
  refine List.pairwise_filterMap.mpr (hrows.pairwise_of_forall_ne ?_)
  intro row hrow other hother hne n hn m hm hsame
  subst hsame
  obtain ⟨id, legacy, ticket, rfl, hnumber⟩ := numberOf_eq_some.mp hn
  obtain ⟨otherId, otherLegacy, otherTicket, rfl, hotherNumber⟩ := numberOf_eq_some.mp hm
  have hlookup := Table.mem_rows.mp hrow
  have hotherLookup := Table.mem_rows.mp hother
  have hid := h.once id otherId n (numbersOf_number.mpr ⟨legacy, ticket, hlookup, hnumber⟩)
    (numbersOf_number.mpr ⟨otherLegacy, otherTicket, hotherLookup, hotherNumber⟩)
  subst hid
  exact hne (congrArg (Prod.mk _) (Option.some.inj (hlookup.symm.trans hotherLookup)))

end Numbers

section Commits

variable {call : IntakeCall} {world : IntakeWorld} {writes : IntakeTable} {tenantId : Uuid}

-- A ticket a transaction has not written, it leaves its number.
theorem Wrote.number_kept {stage : Stage} (h : Wrote call.tenantId stage world writes) {id : Uuid}
    (hticket : ∀ legacy ticket, writes.lookup (.generated id) ≠ some (.ticket tenantId legacy ticket)) :
    (numbersOf (writes ∪ world.committed) tenantId).number id =
      (numbersOf world.committed tenantId).number id := by
  refine Option.ext fun n => ?_
  rw [numbersOf_number, numbersOf_number]
  constructor
  · rintro ⟨legacy, ticket, hrow, hnumber⟩
    rcases Table.lookup_union_cases hrow with hown | ⟨-, hbase⟩
    · exact absurd hown (hticket legacy ticket)
    · exact ⟨legacy, ticket, hbase, hnumber⟩
  · rintro ⟨legacy, ticket, hrow, hnumber⟩
    have hnot : .generated id ∉ writes := fun hmem => h.fresh id hmem (Table.mem_of_lookup hrow)
    exact ⟨legacy, ticket, (Table.lookup_union_of_notMem hnot).trans hrow, hnumber⟩

-- Where a transaction has written no ticket of the tenant and not its counter, the
-- tenant's numbers are as before.
theorem Wrote.numbers_same {stage : Stage} (h : Wrote call.tenantId stage world writes)
    (hcounter : .counter tenantId ∉ writes)
    (htickets : ∀ id legacy ticket, writes.lookup (.generated id) ≠ some (.ticket tenantId legacy ticket)) :
    numbersOf (writes ∪ world.committed) tenantId = numbersOf world.committed tenantId := by
  have hnext : nextNumber (writes ∪ world.committed) tenantId = nextNumber world.committed tenantId := by
    unfold nextNumber
    rw [Table.lookup_union_of_notMem hcounter]
  have hnumber : (numbersOf (writes ∪ world.committed) tenantId).number =
      (numbersOf world.committed tenantId).number := by
    funext id
    exact h.number_kept (htickets id)
  exact Numbers.ext hnext hnumber

-- A transaction that has opened its ticket has given it its tenant's next number.
theorem Wrote.numbers_issued {number entries : Nat} {id : Uuid} {legacy : Option Nat}
    (h : Wrote call.tenantId (.opened number id legacy entries) world writes) :
    (numbersOf world.committed call.tenantId).number id = none ∧
      numbersOf (writes ∪ world.committed) call.tenantId = (numbersOf world.committed call.tenantId).issue id := by
  obtain ⟨ticket, hticket⟩ := h.ticket number id legacy entries rfl
  obtain ⟨hcounter, hnext⟩ := h.drawn number rfl
  obtain ⟨-, _, hstage⟩ := h.allowed _ _ hticket
  have hnumber := (Stage.opened.inj hstage).1
  have hnew := AList.lookup_eq_none.mpr (h.fresh id (Table.mem_of_lookup hticket))
  have hnextAfter : nextNumber (writes ∪ world.committed) call.tenantId = number + 1 := by
    unfold nextNumber
    rw [Table.lookup_union_own hcounter]
  constructor
  · simp [numbersOf, hnew]
  · have hissued : (numbersOf (writes ∪ world.committed) call.tenantId).number =
        ((numbersOf world.committed call.tenantId).issue id).number := by
      funext other
      by_cases hsame : other = id
      · subst hsame
        rw [Numbers.issue_number_self]
        have hshown := Table.lookup_union_own hticket world.committed
        exact numbersOf_number.mpr ⟨legacy, ticket, hshown, hnumber.symm.trans hnext.symm⟩
      · rw [Numbers.issue_number_of_ne _ hsame]
        refine h.number_kept fun otherLegacy otherTicket hother => ?_
        obtain ⟨-, _, hotherStage⟩ := h.allowed _ _ hother
        exact hsame (Stage.opened.inj hotherStage).2.1.symm
    have hnextSame : (numbersOf (writes ∪ world.committed) call.tenantId).next =
        ((numbersOf world.committed call.tenantId).issue id).next := by
      rw [Numbers.issue_next]
      exact hnextAfter.trans (congrArg (· + 1) hnext.symm)
    exact Numbers.ext hnextSame hissued

-- What a transaction commits: its tenant's next number, or nothing of any tenant's.
theorem Finished.numbers (h : Finished call world writes) (tenantId : Uuid) :
    numbersOf (writes ∪ world.committed) tenantId = numbersOf world.committed tenantId ∨
      tenantId = call.tenantId ∧ ∃ id, (numbersOf world.committed tenantId).number id = none ∧
        numbersOf (writes ∪ world.committed) tenantId = (numbersOf world.committed tenantId).issue id := by
  obtain ⟨stage, hstage, hwrote⟩ := h
  by_cases hopened : tenantId = call.tenantId ∧ stage ≠ .started
  · obtain ⟨rfl, hne⟩ := hopened
    obtain ⟨number, id, entries, rfl⟩ := hstage.resolve_left hne
    exact .inr ⟨rfl, id, hwrote.numbers_issued⟩
  · have hcounter : .counter tenantId ∉ writes := by
      intro hmem
      obtain ⟨row, hrow⟩ := Option.isSome_iff_exists.mp (AList.lookup_isSome.mpr hmem)
      obtain ⟨howner, hdrawn⟩ := (hwrote.allowed _ row hrow).counter
      refine hopened ⟨howner, ?_⟩
      rintro rfl
      cases hdrawn
    refine .inl (hwrote.numbers_same hcounter ?_)
    intro id legacy ticket hticket
    obtain ⟨howner, _, hticketStage⟩ := hwrote.allowed _ _ hticket
    refine hopened ⟨howner, ?_⟩
    rintro rfl
    cases hticketStage

variable (env runtime) in
-- The numbers of every tenant are consecutive, whatever commits.
def numberings : RelyGuarantee (intakeService env runtime) :=
  intakes env runtime (fun table => ∀ tenantId, (numbersOf table tenantId).Consecutive) (fun _ _ _ => True)
    fun call world writes h hdone _ tenantId => by
      rcases hdone.numbers tenantId with hsame | ⟨-, id, hnew, hissued⟩
      · rw [hsame]
        exact h tenantId
      · rw [hissued]
        exact (h tenantId).issue hnew

theorem leavesOthers {db : IntakeDb} (h : (numberings env runtime).Holds db) (event : IntakeEvent) :
    LeavesOthers env runtime db event := by
  intro tenantId hother
  by_cases hcommits : RelyGuarantee.Commits db event
  · obtain ⟨tid, txn, value, rfl, htxn, hprog⟩ := hcommits
    have hdone : Finished txn.call db.world txn.writes := h.finished htxn hprog
    rw [RelyGuarantee.step_commit htxn hprog]
    refine (hdone.numbers tenantId).resolve_right fun hown => ?_
    exact hother tid txn value rfl htxn hprog hown.1.symm
  · rw [(RelyGuarantee.step_of_not_commits (intakeService env runtime) hcommits).1]

end Commits

-- Each tenant's tickets have the numbers from 1 to their number in every state of every
-- run, and no other tenant's transactions have a part in it.
theorem numbers_tickets (committed : IntakeTable) (clock : Nat)
    (hstart : ∀ tenantId, (numbersOf committed tenantId).Consecutive) (events : List IntakeEvent) :
    NumbersTickets env runtime (Db.start (World.start committed clock)) events := by
  have hmeets : ∀ (db : IntakeDb) event, CommitMeets (numberings env runtime).condition db event :=
    fun db event => CommitMeets.trivial db event
  have hholds : (numberings env runtime).Holds (Db.start (World.start committed clock)) := .start hstart
  constructor
  · have halways := Runs.always_of_step (numberings env runtime).Holds hholds
      (fun db event h => (h.step (hmeets db event)).1) events
    exact halways.mono fun _ h tenantId => gapFree_ticketNumbers (h.inv tenantId)
  · exact Runs.allSteps_of_step (numberings env runtime).Holds hholds
      (fun db event h => (h.step (hmeets db event)).1) (fun _ event h => leavesOthers h event) events

theorem consecutive_empty (tenantId : Uuid) : (numbersOf ∅ tenantId).Consecutive := by
  have hnone : numbersOf ∅ tenantId = ⟨1, fun _ => none⟩ := by
    simp [numbersOf, nextNumber]
  rw [hnone]
  exact Numbers.consecutive_none

def creation (tenantId : Uuid) : IntakeCall := ⟨tenantId, newTenant.toTicketStore, .create (requestOf "Printer on fire")⟩

def intakeStatement (tid newId : Nat) : IntakeEvent := .exec tid (.stored _) (.generated newId)

-- The first creation draws number 1 while the second one waits for the counter, and is
-- rolled back; another tenant's creation runs beside the two.
def rolledBackCreation : List IntakeEvent :=
  [.begin 1 (creation 1), .begin 2 (creation 1), .begin 3 (creation 2),
    intakeStatement 1 0, intakeStatement 2 0, intakeStatement 3 0,
    intakeStatement 1 10, intakeStatement 2 20, intakeStatement 3 30,
    intakeStatement 1 0, intakeStatement 2 0, intakeStatement 3 0,
    intakeStatement 1 0, intakeStatement 1 11, .rollback 1,
    intakeStatement 2 0, intakeStatement 2 0, intakeStatement 2 21, intakeStatement 2 0, .commit 2,
    intakeStatement 3 0, intakeStatement 3 31, intakeStatement 3 0, .commit 3]

theorem rolledBackCreation_numbers :
    NumbersTickets twoIds plainRuntime (Db.start (World.start ∅ 0)) rolledBackCreation :=
  numbers_tickets ∅ 0 consecutive_empty _

end CloudOps.Ticketing.TicketIntake
