import CloudOps.ReadCommitted.Program
import CloudOps.ReadCommitted.Solo
import CloudOps.ServiceError
import CloudOps.Ticketing.Ticket

namespace CloudOps.Ticketing

open CloudOps.ReadCommitted

-- The columns of one target.
def Ticket.dueAt (ticket : Ticket) : OverdueType → Option Nat
  | .firstResponse => ticket.firstResponseDueAt
  | .resolution => ticket.resolutionDueAt

def Ticket.metAt (ticket : Ticket) : OverdueType → Option Nat
  | .firstResponse => ticket.firstResponseAt
  | .resolution => ticket.resolvedAt

def Ticket.notifiedAt (ticket : Ticket) : OverdueType → Option Nat
  | .firstResponse => ticket.firstResponseOverdueNotifiedAt
  | .resolution => ticket.resolutionOverdueNotifiedAt

def Ticket.markNotified (ticket : Ticket) (now : Nat) : OverdueType → Ticket
  | .firstResponse => { ticket with firstResponseOverdueNotifiedAt := some now }
  | .resolution => { ticket with resolutionOverdueNotifiedAt := some now }

-- Due, missed and not yet reported.
def Ticket.breaches (ticket : Ticket) (overdueType : OverdueType) (now : Nat) : Bool :=
  ((ticket.dueAt overdueType).any fun dueAt => dueAt < now) && (ticket.metAt overdueType).isNone &&
    (ticket.notifiedAt overdueType).isNone

structure OverdueBreach where
  ticketId : Uuid
  ticket : Ticket
  overdueType : OverdueType
  dueAt : Nat
  deriving DecidableEq

def OverdueBreach.key (breach : OverdueBreach) : Uuid × OverdueType :=
  (breach.ticketId, breach.overdueType)

abbrev TicketProg := Prog Uuid Ticket ServiceError

-- The two checks of each ticket, in the order the loop makes them.
def checksOf (tickets : List (Uuid × Ticket)) : List ((Uuid × Ticket) × OverdueType) :=
  tickets.flatMap fun row => [(row, .firstResponse), (row, .resolution)]

-- The loop over the tickets the SELECT returned, with the breaches found so far.
def markBreaches (startedAt : Nat) :
    List ((Uuid × Ticket) × OverdueType) → List OverdueBreach → TicketProg (List OverdueBreach)
  | [], found => return found
  | ((id, ticket), overdueType) :: rest, found =>
      match ticket.dueAt overdueType with
      | none => markBreaches startedAt rest found
      | some dueAt =>
          if (ticket.metAt overdueType).isSome then markBreaches startedAt rest found
          else do
            let now ← Prog.dateNow
            if dueAt < now ∧ (ticket.notifiedAt overdueType).isNone then
              let _ ← Prog.update id fun row => row.markNotified startedAt overdueType
              markBreaches startedAt rest (found ++
                [{ ticketId := id, ticket := ticket, overdueType := overdueType, dueAt := dueAt }])
            else markBreaches startedAt rest found

def isCandidate (now : Nat) (ticket : Ticket) : Bool :=
  !ticket.status.isClosing && (ticket.breaches .firstResponse now || ticket.breaches .resolution now)

-- OverdueSweepService.sweepTenant up to its commit; what it returns is what it goes
-- on to dispatch.
def sweepTenant (startedAt : Nat) : TicketProg (List OverdueBreach) := do
  let tickets ← Prog.query fun _ ticket => isCandidate startedAt ticket
  markBreaches startedAt (checksOf tickets) []

structure OverduePayload where
  ticketId : Uuid
  ticketNumber : Nat
  overdueType : OverdueType
  dueAt : Nat
  deriving DecidableEq

structure OverdueEmail where
  recipient : String
  ticketNumber : Nat
  subject : String
  overdueType : OverdueType
  dueAt : Nat
  deriving DecidableEq

-- A call to the event bus or the notification queue, and whether it returned.
inductive DispatchCall where
  | publish (payload : OverduePayload) (returned : Bool)
  | enqueue (email : OverdueEmail) (returned : Bool)
  deriving DecidableEq

-- What the calls of one pass meet.
structure DispatchOutcomes where
  publishFails : Uuid × OverdueType → Bool
  agentEmail : Uuid → Option String
  enqueueFails : Uuid × OverdueType → Bool

def OverdueBreach.payload (breach : OverdueBreach) : OverduePayload where
  ticketId := breach.ticketId
  ticketNumber := breach.ticket.ticketNumber
  overdueType := breach.overdueType
  dueAt := breach.dueAt

def OverdueBreach.email (breach : OverdueBreach) (recipient : String) : OverdueEmail where
  recipient := recipient
  ticketNumber := breach.ticket.ticketNumber
  subject := breach.ticket.subject
  overdueType := breach.overdueType
  dueAt := breach.dueAt

-- The calls a dispatch makes, and whether it returns.
def dispatchBreach (outcomes : DispatchOutcomes) (breach : OverdueBreach) : List DispatchCall × Bool :=
  if outcomes.publishFails breach.key then ([.publish breach.payload false], false)
  else match breach.ticket.agentId.bind outcomes.agentEmail with
    | none => ([.publish breach.payload true], true)
    | some recipient =>
        let fails := outcomes.enqueueFails breach.key
        ([.publish breach.payload true, .enqueue (breach.email recipient) (!fails)], !fails)

-- The loop over the breaches: an exception ends it.
def dispatchAll (outcomes : DispatchOutcomes) : List OverdueBreach → List DispatchCall
  | [] => []
  | breach :: rest =>
      let (calls, returned) := dispatchBreach outcomes breach
      if returned then calls ++ dispatchAll outcomes rest else calls

-- The target's notified-at column is set.
def Marked (tickets : Table Uuid Ticket) (key : Uuid × OverdueType) : Prop :=
  ∃ ticket, tickets.lookup key.1 = some ticket ∧ (ticket.notifiedAt key.2).isSome

theorem Ticket.notifiedAt_markNotified (ticket : Ticket) (now : Nat) (overdueType other : OverdueType) :
    (ticket.markNotified now overdueType).notifiedAt other =
      if other = overdueType then some now else ticket.notifiedAt other := by
  cases overdueType <;> cases other <;> rfl

theorem mem_checksOf {tickets : List (Uuid × Ticket)} {row : Uuid × Ticket} {overdueType : OverdueType} :
    (row, overdueType) ∈ checksOf tickets ↔ row ∈ tickets := by
  cases overdueType <;> simp [checksOf]

-- A ticket and target are checked once.
theorem nodup_checksOf {tickets : List (Uuid × Ticket)} (h : (tickets.map Prod.fst).Nodup) :
    ((checksOf tickets).map fun check => (check.1.1, check.2)).Nodup := by
  induction tickets with
  | nil => simp [checksOf]
  | cons row rest ih =>
      obtain ⟨hrow, hrest⟩ := List.nodup_cons.mp h
      have hnew : ∀ overdueType, (row.1, overdueType) ∉
          (checksOf rest).map fun check => (check.1.1, check.2) := by
        intro overdueType hmem
        obtain ⟨⟨other, _⟩, hother, he⟩ := List.mem_map.mp hmem
        apply hrow
        rw [← (Prod.mk.inj he).1]
        exact List.mem_map_of_mem (mem_checksOf.mp hother)
      have hsplit : (checksOf (row :: rest)).map (fun check => (check.1.1, check.2)) =
          (row.1, OverdueType.firstResponse) :: (row.1, OverdueType.resolution) ::
            (checksOf rest).map fun check => (check.1.1, check.2) := rfl
      rw [hsplit, List.nodup_cons, List.nodup_cons, List.mem_cons, not_or]
      exact ⟨⟨by simp, hnew _⟩, hnew _, ih hrest⟩

-- What one check of the loop finds when no other transaction interferes.
def breachOf (now : Nat) (check : (Uuid × Ticket) × OverdueType) : Option OverdueBreach :=
  if check.1.2.breaches check.2 now then
    (check.1.2.dueAt check.2).map fun dueAt => ⟨check.1.1, check.1.2, check.2, dueAt⟩
  else none

-- The breaches that are there to be found, in the order of the scan.
def overdueBreaches (order : ScanOrder (Uuid × Ticket)) (now : Nat) (tickets : Table Uuid Ticket) :
    List OverdueBreach :=
  (checksOf (order.apply (tickets.rows.filter fun row => isCandidate now row.2))).filterMap (breachOf now)

-- A mark changes no column of a unique index.
def noConflict (_ _ : Ticket) : Bool := false

-- One pass up to its commit, with no other transaction beside it.
def passAlone (solo : Solo Uuid Ticket) (now : Nat) (tickets : Table Uuid Ticket) :
    Outcome Uuid Ticket ServiceError (List OverdueBreach) :=
  (sweepTenant now).alone noConflict solo now ∅ tickets

def Ticket.beyondMarks (ticket : Ticket) : Ticket :=
  { ticket with firstResponseOverdueNotifiedAt := none, resolutionOverdueNotifiedAt := none }

theorem Ticket.beyondMarks_markNotified (ticket : Ticket) (now : Nat) (overdueType : OverdueType) :
    (ticket.markNotified now overdueType).beyondMarks = ticket.beyondMarks := by
  cases overdueType <;> rfl

theorem breachOf_eq_some {now : Nat} {check : (Uuid × Ticket) × OverdueType} {breach : OverdueBreach} :
    breachOf now check = some breach ↔ check.1.2.breaches check.2 now = true ∧
      check.1.2.dueAt check.2 = some breach.dueAt ∧ breach.ticketId = check.1.1 ∧
      breach.ticket = check.1.2 ∧ breach.overdueType = check.2 := by
  obtain ⟨id, ticket, overdueType, dueAt⟩ := breach
  unfold breachOf
  split
  · rename_i hbreaches
    rw [Option.map_eq_some_iff]
    constructor
    · rintro ⟨found, hdue, he⟩
      obtain ⟨rfl, rfl, rfl, rfl⟩ := OverdueBreach.mk.inj he
      exact ⟨hbreaches, hdue, rfl, rfl, rfl⟩
    · rintro ⟨-, hdue, rfl, rfl, rfl⟩
      exact ⟨dueAt, hdue, rfl⟩
  · rename_i hbreaches
    simp [hbreaches]

-- What a pass leaves of each row: the marks it sets, and nothing else changed.
structure PassLeaves (before after : Table Uuid Ticket) (keys : List (Uuid × OverdueType)) : Prop where
  marked : ∀ key, Marked after key ↔ Marked before key ∨ key ∈ keys
  rest : ∀ id, (after.lookup id).map Ticket.beyondMarks = (before.lookup id).map Ticket.beyondMarks

theorem PassLeaves.nil (tickets : Table Uuid Ticket) : PassLeaves tickets tickets [] :=
  ⟨fun key => by simp, fun _ => rfl⟩

theorem PassLeaves.trans {a b c : Table Uuid Ticket} {first second : List (Uuid × OverdueType)}
    (hab : PassLeaves a b first) (hbc : PassLeaves b c second) : PassLeaves a c (first ++ second) where
  marked key := by rw [hbc.marked, hab.marked, List.mem_append, or_assoc]
  rest id := (hbc.rest id).trans (hab.rest id)

theorem PassLeaves.mark {writes tickets : Table Uuid Ticket} {id : Uuid} {row : Ticket}
    (hrow : (writes ∪ tickets).lookup id = some row) (now : Nat) (overdueType : OverdueType) :
    PassLeaves (writes ∪ tickets) (writes.insert id (row.markNotified now overdueType) ∪ tickets)
      [(id, overdueType)] := by
  have hlookup : ∀ other, (writes.insert id (row.markNotified now overdueType) ∪ tickets).lookup other =
      if other = id then some (row.markNotified now overdueType) else (writes ∪ tickets).lookup other := by
    intro other
    rw [Table.lookup_union, Table.lookup_insert_eq, Table.lookup_union]
    split
    · rw [Option.some_or]
    · rfl
  constructor
  · rintro ⟨other, otherType⟩
    rw [Marked, Marked, hlookup]
    by_cases hsame : other = id
    · subst hsame
      simp only [if_true, hrow, Option.some.injEq, exists_eq_left', Ticket.notifiedAt_markNotified]
      by_cases htype : otherType = overdueType
      · simp [htype]
      · simp [htype]
    · simp [hsame]
  · intro other
    rw [hlookup]
    split
    · rename_i hsame
      rw [hsame, hrow, Option.map_some, Option.map_some, Ticket.beyondMarks_markNotified]
    · rfl

theorem markBreaches_alone (solo : Solo Uuid Ticket) (now : Nat) (tickets : Table Uuid Ticket)
    (checks : List ((Uuid × Ticket) × OverdueType)) (found : List OverdueBreach)
    (writes : Table Uuid Ticket) (hpresent : ∀ check ∈ checks, check.1.1 ∈ tickets) :
    ∃ final, (markBreaches now checks found).alone noConflict solo now writes tickets =
        .returned (found ++ checks.filterMap (breachOf now)) final ∧
      PassLeaves (writes ∪ tickets) (final ∪ tickets)
        ((checks.filterMap (breachOf now)).map OverdueBreach.key) := by
  induction checks generalizing found writes with
  | nil =>
      refine ⟨writes, ?_, .nil _⟩
      simp [markBreaches, Prog.alone]
  | cons check rest ih =>
      obtain ⟨⟨id, ticket⟩, overdueType⟩ := check
      have hrest := fun other ho => hpresent other (List.mem_cons_of_mem _ ho)
      have hskip (hnone : breachOf now ((id, ticket), overdueType) = none) :
          ∃ final, (markBreaches now rest found).alone noConflict solo now writes tickets =
              .returned (found ++ (((id, ticket), overdueType) :: rest).filterMap (breachOf now)) final ∧
            PassLeaves (writes ∪ tickets) (final ∪ tickets)
              (((((id, ticket), overdueType) :: rest).filterMap (breachOf now)).map OverdueBreach.key) := by
        rw [List.filterMap_cons_none hnone]
        exact ih found writes hrest
      unfold markBreaches
      cases hdue : ticket.dueAt overdueType with
      | none => exact hskip (by simp [breachOf, Ticket.breaches, hdue])
      | some dueAt =>
          dsimp only
          by_cases hmet : (ticket.metAt overdueType).isSome
          · rw [if_pos hmet]
            have hpending : (ticket.metAt overdueType).isNone = false := by
              rw [← Option.not_isSome, hmet, Bool.not_true]
            exact hskip (by simp [breachOf, Ticket.breaches, hpending])
          · rw [if_neg hmet, Prog.dateNow_bind, Prog.alone]
            by_cases hmissed : dueAt < now ∧ (ticket.notifiedAt overdueType).isNone
            · have hbreach : breachOf now ((id, ticket), overdueType) =
                  some ⟨id, ticket, overdueType, dueAt⟩ := by
                have hmet : (ticket.metAt overdueType).isNone = true := by simpa using hmet
                simp [breachOf, Ticket.breaches, hdue, hmet, hmissed.1, hmissed.2]
              obtain ⟨row, hrow⟩ : ∃ row, (writes ∪ tickets).lookup id = some row :=
                Option.isSome_iff_exists.mp (AList.lookup_isSome.mpr
                  (AList.mem_union.mpr (.inr (hpresent _ List.mem_cons_self))))
              obtain ⟨final, halone, hleaves⟩ := ih
                (found ++ [⟨id, ticket, overdueType, dueAt⟩])
                (writes.insert id (row.markNotified now overdueType)) hrest
              refine ⟨final, ?_, ?_⟩
              · have hclash : uniqueClash noConflict id (row.markNotified now overdueType)
                    (writes ∪ tickets) = false := by
                  simp [uniqueClash, noConflict]
                simp only [if_pos hmissed, Prog.update_bind, Prog.alone, hrow]
                rw [List.filterMap_cons_some hbreach]
                simpa [hclash] using halone
              · rw [List.filterMap_cons_some hbreach]
                exact (PassLeaves.mark hrow now overdueType).trans hleaves
            · rw [if_neg hmissed]
              apply hskip
              have hfails : ¬ (dueAt < now ∧ ticket.notifiedAt overdueType = none) := by
                simpa using hmissed
              simp only [breachOf, Ticket.breaches, hdue, Option.any_some, Bool.and_eq_true,
                decide_eq_true_eq, Option.isNone_iff_eq_none]
              rw [if_neg]
              rintro ⟨⟨hlt, -⟩, hnone⟩
              exact hfails ⟨hlt, hnone⟩

-- A pass on its own finds every breach there is and marks just those.
theorem passAlone_returned (solo : Solo Uuid Ticket) (now : Nat) (tickets : Table Uuid Ticket) :
    ∃ writes, passAlone solo now tickets =
        .returned (overdueBreaches solo.order now tickets) writes ∧
      PassLeaves tickets (writes ∪ tickets)
        ((overdueBreaches solo.order now tickets).map OverdueBreach.key) := by
  have hpresent : ∀ check ∈ checksOf (solo.order.apply
      (tickets.rows.filter fun row => isCandidate now row.2)), check.1.1 ∈ tickets := by
    rintro ⟨⟨id, ticket⟩, overdueType⟩ hcheck
    have hmem := (solo.order.perm _).mem_iff.mp (mem_checksOf.mp hcheck)
    exact Table.mem_of_lookup (Table.mem_rows.mp (List.mem_filter.mp hmem).1)
  obtain ⟨final, halone, hleaves⟩ := markBreaches_alone solo now tickets _ [] ∅ hpresent
  rw [AList.empty_union] at hleaves
  refine ⟨final, ?_, hleaves⟩
  simpa [passAlone, sweepTenant, Prog.alone, AList.empty_union, overdueBreaches] using halone

end CloudOps.Ticketing
