import CloudOps.ReadCommitted.Rely
import CloudOps.Ticketing.OverdueSweep

namespace CloudOps.Ticketing

open CloudOps.ReadCommitted

-- The sweep, and what else happens to tickets beside it: new ones come, and other
-- services write to them, but leave the due dates and the sweep's own columns alone.
inductive SweepCall where
  | sweep
  | insert (ticket : Ticket)
  | write (id : Uuid) (change : Ticket → Ticket)

def Ticket.withClockOf (ticket original : Ticket) : Ticket :=
  { ticket with
    firstResponseDueAt := original.firstResponseDueAt
    firstResponseOverdueNotifiedAt := original.firstResponseOverdueNotifiedAt
    resolutionDueAt := original.resolutionDueAt
    resolutionOverdueNotifiedAt := original.resolutionOverdueNotifiedAt }

def sweepService : Service Uuid Ticket ServiceError (List OverdueBreach) SweepCall where
  body call now :=
    match call with
    | .sweep => sweepTenant now
    | .insert ticket => (Prog.insertRow ticket).map fun _ => []
    | .write id change => (Prog.update id fun row => (change row).withClockOf row).map fun _ => []
  conflict ticket other := ticket.ticketNumber == other.ticketNumber

abbrev SweepWorld := World Uuid Ticket (List OverdueBreach) SweepCall
abbrev SweepDb := Db Uuid Ticket ServiceError (List OverdueBreach) SweepCall

-- The transactions, and beside them the loops that dispatch what committed passes
-- found: what each has still to dispatch, and all that was dispatched so far.
structure SweepSystem where
  db : SweepDb
  pending : List (List OverdueBreach)
  dispatched : List OverdueBreach

inductive SweepEvent where
  | database (event : Event Uuid Ticket SweepCall)
  | dispatch (loop : Nat)
  | stop (loop : Nat)

def SweepSystem.start (tickets : Table Uuid Ticket) (clock : Nat) : SweepSystem where
  db := Db.start (World.start tickets clock)
  pending := []
  dispatched := []

-- A commit hands the pass's breaches to its loop. A dispatch that throws, or the end
-- of its process, stops a loop.
def SweepSystem.step (system : SweepSystem) : SweepEvent → SweepSystem
  | .database event =>
      let db := system.db.step sweepService event
      { system with
        db := db
        pending := system.pending ++
          (db.world.returned.drop system.db.world.returned.length).map Returned.value }
  | .dispatch loop =>
      match system.pending[loop]? with
      | some (breach :: rest) =>
          { system with
            pending := system.pending.set loop rest
            dispatched := system.dispatched ++ [breach] }
      | _ => system
  | .stop loop => { system with pending := system.pending.set loop [] }

-- No ticket and target is dispatched twice.
def DispatchedOnce (system : SweepSystem) : Prop :=
  (system.dispatched.map OverdueBreach.key).Nodup

-- The targets a pass is about to commit a mark for are still unmarked.
def marksUnmarked (world : SweepWorld) (found : List OverdueBreach) : Bool :=
  found.all fun breach => (world.committed.lookup breach.ticketId).all fun ticket =>
    (ticket.notifiedAt breach.overdueType).isNone

def NoStaleMark (system : SweepSystem) : SweepEvent → Prop
  | .database event =>
      CommitMeets (fun world _ _ found => marksUnmarked world found = true) system.db event
  | .dispatch _ | .stop _ => True

instance NoStaleMark.decidable (system : SweepSystem) : DecidablePred (NoStaleMark system)
  | .database event => inferInstanceAs (Decidable
      (CommitMeets (fun world _ _ found => marksUnmarked world found = true) system.db event))
  | .dispatch _ | .stop _ => isTrue trivial

-- Marks once set stay.
def KeepsMarks (old new : Ticket) : Prop :=
  ∀ overdueType, (old.notifiedAt overdueType).isSome → (new.notifiedAt overdueType).isSome

-- What a transaction has written keeps the marks that are committed.
def WritesKeepMarks (world : SweepWorld) (writes : Table Uuid Ticket) : Prop :=
  ∀ id row, writes.lookup id = some row → ∀ old, world.committed.lookup id = some old → KeepsMarks old row

structure SweepDone (world : SweepWorld) (writes : Table Uuid Ticket) (found : List OverdueBreach) :
    Prop where
  keeps : WritesKeepMarks world writes
  nodup : (found.map OverdueBreach.key).Nodup
  marked : ∀ breach ∈ found, Marked writes breach.key

-- Rows stay, with their marks.
def LaterMarks (before after : SweepWorld) : Prop :=
  ∀ id old, before.committed.lookup id = some old →
    ∃ new, after.committed.lookup id = some new ∧ KeepsMarks old new

def foundKeys (world : SweepWorld) : List (Uuid × OverdueType) :=
  world.returned.flatMap fun pass => pass.value.map OverdueBreach.key

structure FoundOnce (world : SweepWorld) : Prop where
  nodup : (foundKeys world).Nodup
  marked : ∀ key ∈ foundKeys world, Marked world.committed key

theorem KeepsMarks.refl (ticket : Ticket) : KeepsMarks ticket ticket := fun _ h => h

theorem KeepsMarks.trans {a b c : Ticket} (hab : KeepsMarks a b) (hbc : KeepsMarks b c) :
    KeepsMarks a c := fun overdueType h => hbc overdueType (hab overdueType h)

theorem KeepsMarks.markNotified (ticket : Ticket) (now : Nat) (overdueType : OverdueType) :
    KeepsMarks ticket (ticket.markNotified now overdueType) := by
  intro other h
  rw [Ticket.notifiedAt_markNotified]
  split
  · rfl
  · exact h

theorem LaterMarks.refl (world : SweepWorld) : LaterMarks world world :=
  fun _ old h => ⟨old, h, .refl old⟩

theorem LaterMarks.trans {a b c : SweepWorld} (hab : LaterMarks a b) (hbc : LaterMarks b c) :
    LaterMarks a c := by
  intro id old h
  obtain ⟨mid, hm, hold⟩ := hab id old h
  obtain ⟨new, hn, hmid⟩ := hbc id mid hm
  exact ⟨new, hn, hold.trans hmid⟩

theorem LaterMarks.mem {before after : SweepWorld} (h : LaterMarks before after) {id : Uuid}
    (hid : id ∈ before.committed) : id ∈ after.committed := by
  obtain ⟨old, ho⟩ := Option.isSome_iff_exists.mp (AList.lookup_isSome.mpr hid)
  obtain ⟨new, hn, -⟩ := h id old ho
  exact Table.mem_of_lookup hn

theorem Marked.later {before after : SweepWorld} (h : LaterMarks before after)
    {key : Uuid × OverdueType} (hm : Marked before.committed key) : Marked after.committed key := by
  obtain ⟨old, ho, hmark⟩ := hm
  obtain ⟨new, hn, hkeeps⟩ := h key.1 old ho
  exact ⟨new, hn, hkeeps key.2 hmark⟩

-- The rows a transaction has written are locked, so the committed ones are the same.
theorem WritesKeepMarks.locked {before after : SweepWorld} {writes : Table Uuid Ticket}
    (h : WritesKeepMarks before writes)
    (hlocked : ∀ id ∈ writes, after.committed.lookup id = before.committed.lookup id) :
    WritesKeepMarks after writes := by
  intro id row hrow old ho
  rw [hlocked id (Table.mem_of_lookup hrow)] at ho
  exact h id row hrow old ho

theorem SweepDone.locked {before after : SweepWorld} {writes : Table Uuid Ticket}
    {found : List OverdueBreach} (h : SweepDone before writes found)
    (hlocked : ∀ id ∈ writes, after.committed.lookup id = before.committed.lookup id) :
    SweepDone after writes found where
  keeps := h.keeps.locked hlocked
  nodup := h.nodup
  marked := h.marked

-- One more breach marked.
theorem SweepDone.mark {world : SweepWorld} {writes : Table Uuid Ticket} {found : List OverdueBreach}
    (h : SweepDone world writes found) (breach : OverdueBreach) {current : Ticket} {now : Nat}
    (hcurrent : (writes ∪ world.committed).lookup breach.ticketId = some current)
    (hnew : breach.key ∉ found.map OverdueBreach.key) :
    SweepDone world (writes.insert breach.ticketId (current.markNotified now breach.overdueType))
      (found ++ [breach]) where
  keeps := by
    intro id row hrow old ho
    rw [Table.lookup_insert_eq] at hrow
    split at hrow
    · rename_i hsame
      obtain rfl := Option.some.inj hrow
      subst hsame
      have hkept : KeepsMarks old current := by
        rcases Table.lookup_union_cases hcurrent with hown | ⟨-, hbase⟩
        · exact h.keeps _ current hown old ho
        · obtain rfl := Option.some.inj (ho.symm.trans hbase)
          exact .refl old
      exact hkept.trans (.markNotified current now breach.overdueType)
    · exact h.keeps id row hrow old ho
  nodup := by
    rw [List.map_append, List.map_singleton, List.nodup_append]
    refine ⟨h.nodup, by simp, ?_⟩
    intro key hkey other hother
    rw [List.mem_singleton.mp hother]
    rintro rfl
    exact hnew hkey
  marked := by
    intro other hother
    rcases List.mem_append.mp hother with ho | ho
    · obtain ⟨row, hrow, hmark⟩ := h.marked other ho
      by_cases hsame : other.ticketId = breach.ticketId
      · refine ⟨_, (Table.lookup_insert_eq _ _ _ _).trans (if_pos hsame), ?_⟩
        have hown : current = row := by
          rw [Table.lookup_union, ← hsame] at hcurrent
          have hrow : writes.lookup other.ticketId = some row := hrow
          rw [hrow, Option.some_or] at hcurrent
          exact (Option.some.inj hcurrent).symm
        rw [hown]
        exact KeepsMarks.markNotified row now breach.overdueType _ hmark
      · exact ⟨row, (Table.lookup_insert_eq _ _ _ _).trans ((if_neg hsame).trans hrow), hmark⟩
    · obtain rfl := List.mem_singleton.mp ho
      refine ⟨_, AList.lookup_insert _, ?_⟩
      rw [OverdueBreach.key, Ticket.notifiedAt_markNotified, if_pos rfl]
      rfl

section Sweep

variable {inv : SweepWorld → Prop}

-- What each check may count on: its ticket is there, and it is checked for the first
-- time.
structure ChecksReady (world : SweepWorld) (found : List OverdueBreach)
    (checks : List ((Uuid × Ticket) × OverdueType)) : Prop where
  nodup : (checks.map fun check => (check.1.1, check.2)).Nodup
  unmarked : ∀ check ∈ checks, (check.1.1, check.2) ∉ found.map OverdueBreach.key
  present : ∀ check ∈ checks, check.1.1 ∈ world.committed

theorem ChecksReady.tail {world after : SweepWorld} {found : List OverdueBreach}
    {check : (Uuid × Ticket) × OverdueType} {rest : List ((Uuid × Ticket) × OverdueType)}
    (h : ChecksReady world found (check :: rest)) (hlater : LaterMarks world after) :
    ChecksReady after found rest where
  nodup := (List.nodup_cons.mp h.nodup).2
  unmarked other hother := h.unmarked other (List.mem_cons_of_mem _ hother)
  present other hother := hlater.mem (h.present other (List.mem_cons_of_mem _ hother))

theorem markBreaches_done (startedAt : Nat) (checks : List ((Uuid × Ticket) × OverdueType)) :
    ∀ (found : List OverdueBreach) (writes : Table Uuid Ticket) (world : SweepWorld),
      ChecksReady world found checks → SweepDone world writes found →
      (markBreaches startedAt checks found).wp LaterMarks inv SweepDone writes world := by
  induction checks with
  | nil => exact fun found writes world _ hdone after ha => hdone.locked ha.2.2
  | cons check rest ih =>
      obtain ⟨⟨id, ticket⟩, overdueType⟩ := check
      intro found writes world hready hdone
      have hstay := ih found writes world (hready.tail (.refl world)) hdone
      unfold markBreaches
      cases ticket.dueAt overdueType with
      | none => exact hstay
      | some dueAt =>
          dsimp only
          split
          · exact hstay
          refine Prog.wp_clock fun now hnow => ?_
          split
          · rw [Prog.update_bind]
            intro after hafter
            have hlater : LaterMarks world after := LaterMarks.trans hnow.1 hafter.1
            have hlocked : ∀ id ∈ writes, after.committed.lookup id = world.committed.lookup id :=
              fun id hid => (hafter.2.2 id hid).trans (hnow.2.2 id hid)
            have hid : id ∈ after.committed := hlater.mem (hready.present _ List.mem_cons_self)
            obtain ⟨current, hcurrent⟩ : ∃ current, (writes ∪ after.committed).lookup id = some current :=
              Option.isSome_iff_exists.mp (AList.lookup_isSome.mpr (AList.mem_union.mpr (.inr hid)))
            rw [hcurrent]
            refine ⟨fun hn => by simp at hn, fun new hn => ?_⟩
            obtain rfl := Option.some.inj hn
            refine ih _ _ after ⟨(List.nodup_cons.mp hready.nodup).2, ?_, (hready.tail hlater).present⟩
              ((hdone.locked hlocked).mark ⟨id, ticket, overdueType, dueAt⟩ hcurrent
                (hready.unmarked _ List.mem_cons_self))
            intro other hother
            rw [List.map_append, List.mem_append, not_or]
            refine ⟨hready.unmarked other (List.mem_cons_of_mem _ hother), ?_⟩
            rw [List.map_singleton, List.mem_singleton]
            intro hsame
            apply (List.nodup_cons.mp hready.nodup).1
            exact List.mem_map.mpr ⟨other, hother, hsame⟩
          · exact ih found writes now (hready.tail hnow.1) (hdone.locked hnow.2.2)

theorem sweepTenant_done (world : SweepWorld) :
    (sweepTenant world.clock).wp LaterMarks inv SweepDone ∅ world := by
  unfold sweepTenant
  rw [Prog.query_bind]
  intro after hafter rows hrows
  rw [AList.empty_union] at hrows
  refine markBreaches_done world.clock (checksOf rows) [] ∅ after ⟨?_, by simp, ?_⟩ ?_
  · apply nodup_checksOf
    exact Table.nodup_ids_of_perm hrows
  · rintro ⟨⟨id, ticket⟩, overdueType⟩ hcheck
    have hmem := (List.mem_filter.mp (hrows.mem_iff.mp (mem_checksOf.mp hcheck))).1
    exact Table.mem_of_lookup (Table.mem_rows.mp hmem)
  · exact ⟨fun id row hrow => by simp at hrow, by simp, by simp⟩

-- The one specification of every transaction.
theorem sweepService_done (call : SweepCall) (world : SweepWorld) :
    (sweepService.body call world.clock).wp LaterMarks inv SweepDone ∅ world := by
  cases call with
  | sweep => exact sweepTenant_done world
  | insert ticket =>
      refine Prog.wp.map (Prog.wp_insert_ret InsertResult.inserted .duplicateKey
        (fun _ => rfl) rfl ?_ ?_)
      · intro after id _ hnew
        refine ⟨fun other row hrow old ho => ?_, by simp, by simp⟩
        rw [Table.lookup_insert_eq] at hrow
        split at hrow
        · rename_i hsame
          rw [hsame, hnew] at ho
          cases ho
        · simp at hrow
      · intro after _
        exact ⟨fun id row hrow => by simp at hrow, by simp, by simp⟩
  | write id change =>
      refine Prog.wp.map (Prog.wp_write_ret (fun row => row) ?_ ?_)
      · intro after _
        exact ⟨fun id row hrow => by simp at hrow, by simp, by simp⟩
      · intro after row _ hrow
        refine ⟨fun other new hnew old ho => ?_, by simp, by simp⟩
        rw [Table.lookup_insert_eq] at hnew
        split at hnew
        · rename_i hsame
          obtain rfl := Option.some.inj hnew
          rw [hsame] at ho
          rw [ho, Option.map_some] at hrow
          obtain rfl := Option.some.inj hrow
          intro overdueType hmark
          cases overdueType <;> exact hmark
        · simp at hnew

end Sweep

theorem foundKeys_publish (world : SweepWorld) (call : SweepCall) (begunOn : Table Uuid Ticket)
    (startedAt : Nat) (writes : Table Uuid Ticket) (found : List OverdueBreach) :
    foundKeys (world.publish call begunOn startedAt writes found) =
      foundKeys world ++ found.map OverdueBreach.key := by
  simp [foundKeys, World.publish]

theorem SweepDone.later {world : SweepWorld} {writes : Table Uuid Ticket} {found : List OverdueBreach}
    (h : SweepDone world writes found) (call : SweepCall) (begunOn : Table Uuid Ticket)
    (startedAt : Nat) : LaterMarks world (world.publish call begunOn startedAt writes found) := by
  intro id old ho
  simp only [World.publish, Table.lookup_union]
  cases hw : writes.lookup id with
  | none => exact ⟨old, by rw [Option.none_or, ho], .refl old⟩
  | some row => exact ⟨row, by rw [Option.some_or], h.keeps id row hw old ho⟩

theorem FoundOnce.publish {world : SweepWorld} (hinv : FoundOnce world) {writes : Table Uuid Ticket}
    {found : List OverdueBreach} (h : SweepDone world writes found)
    (hunmarked : marksUnmarked world found = true) (call : SweepCall) (begunOn : Table Uuid Ticket)
    (startedAt : Nat) : FoundOnce (world.publish call begunOn startedAt writes found) := by
  have hlater := h.later call begunOn startedAt
  constructor
  · rw [foundKeys_publish, List.nodup_append]
    refine ⟨hinv.nodup, h.nodup, ?_⟩
    rintro key hold _ hnew rfl
    obtain ⟨breach, hbreach, rfl⟩ := List.mem_map.mp hnew
    obtain ⟨ticket, hl, hmark⟩ := hinv.marked _ hold
    have hnone := List.all_eq_true.mp hunmarked breach hbreach
    have hl : world.committed.lookup breach.ticketId = some ticket := hl
    have hmark : (ticket.notifiedAt breach.overdueType).isSome = true := hmark
    rw [hl, Option.all_some, ← Option.not_isSome, hmark] at hnone
    simp at hnone
  · intro key hkey
    rw [foundKeys_publish, List.mem_append] at hkey
    rcases hkey with hold | hnew
    · exact (hinv.marked key hold).later hlater
    · obtain ⟨breach, hbreach, rfl⟩ := List.mem_map.mp hnew
      obtain ⟨row, hrow, hmark⟩ := h.marked breach hbreach
      exact ⟨row, Table.lookup_union_own hrow _, hmark⟩

def marking : RelyGuarantee sweepService where
  rely := LaterMarks
  inv := FoundOnce
  post _ _ _ := SweepDone
  condition world _ _ found := marksUnmarked world found = true
  refl := .refl
  trans _ _ _ := .trans
  tick world _ hinv := ⟨⟨hinv.nodup, hinv.marked⟩, .refl world⟩
  body call world _ := sweepService_done call world
  commit call begunOn startedAt _ _ _ hinv hdone hcondition :=
    ⟨hinv.publish hdone hcondition call begunOn startedAt, hdone.later call begunOn startedAt⟩

def breachKeys (breaches : List OverdueBreach) : List (Uuid × OverdueType) :=
  breaches.map OverdueBreach.key

-- What was dispatched, and what the loops still have to dispatch, is no more than what
-- the committed passes found.
structure SweepSystem.Sound (system : SweepSystem) : Prop where
  holds : marking.Holds system.db
  counts : ∀ key, (breachKeys system.dispatched).count key +
    (breachKeys system.pending.flatten).count key ≤ (foundKeys system.db.world).count key

theorem SweepSystem.Sound.dispatchedOnce {system : SweepSystem} (h : system.Sound) :
    DispatchedOnce system := by
  apply List.nodup_iff_count_le_one.mpr
  intro key
  have hcount := h.counts key
  have hfound := List.nodup_iff_count_le_one.mp h.holds.inv.nodup key
  exact Nat.le_trans (Nat.le_add_right _ _) (Nat.le_trans hcount hfound)

theorem count_flatten_set (pending : List (List OverdueBreach)) (loop : Nat)
    (current rest : List OverdueBreach) (hloop : pending[loop]? = some current)
    (key : Uuid × OverdueType) :
    (breachKeys (pending.set loop rest).flatten).count key + (breachKeys current).count key =
      (breachKeys pending.flatten).count key + (breachKeys rest).count key := by
  induction pending generalizing loop with
  | nil => simp at hloop
  | cons first others ih =>
      cases loop with
      | zero =>
          obtain rfl := Option.some.inj hloop
          simp only [List.set_cons_zero, List.flatten_cons, breachKeys, List.map_append,
            List.count_append]
          omega
      | succ loop =>
          have htail := ih loop hloop
          simp only [breachKeys] at htail
          simp only [List.set_cons_succ, List.flatten_cons, breachKeys, List.map_append,
            List.count_append]
          omega

theorem SweepSystem.Sound.step {system : SweepSystem} (h : system.Sound) (event : SweepEvent)
    (hfresh : NoStaleMark system event) : (system.step event).Sound := by
  cases event with
  | database event =>
      refine ⟨(h.holds.step hfresh).1, fun key => ?_⟩
      obtain ⟨newer, hnewer⟩ := RelyGuarantee.step_returned sweepService system.db event
      have hfound : foundKeys (system.db.step sweepService event).world =
          foundKeys system.db.world ++ breachKeys (newer.map Returned.value).flatten := by
        simp only [foundKeys, hnewer, List.flatMap_append, breachKeys, List.map_flatten, List.map_map]
        rfl
      have hcount := h.counts key
      simp only [SweepSystem.step, hnewer, List.drop_left, List.flatten_append]
      rw [hfound, List.count_append]
      simp only [breachKeys, List.map_append, List.count_append] at hcount ⊢
      omega
  | dispatch loop =>
      have hcount := h.counts
      simp only [SweepSystem.step]
      split
      · rename_i breach rest hloop
        refine ⟨h.holds, fun key => ?_⟩
        have hset := count_flatten_set system.pending loop (breach :: rest) rest hloop key
        have hkey := hcount key
        have hhead : breachKeys (breach :: rest) = breachKeys [breach] ++ breachKeys rest := rfl
        rw [hhead, List.count_append] at hset
        simp only [breachKeys, List.map_append, List.count_append] at hset hkey ⊢
        omega
      · exact h
  | stop loop =>
      refine ⟨h.holds, fun key => ?_⟩
      have hkey := h.counts key
      simp only [SweepSystem.step]
      cases hloop : system.pending[loop]? with
      | none =>
          rw [List.set_eq_of_length_le (List.getElem?_eq_none_iff.mp hloop)]
          exact hkey
      | some current =>
          have hset := count_flatten_set system.pending loop current [] hloop key
          simp only [breachKeys, List.map_nil, List.count_nil] at hset hkey ⊢
          omega

-- Each breach is dispatched at most once in every run in which no pass commits a mark
-- over one that another pass has committed.
theorem dispatched_at_most_once (tickets : Table Uuid Ticket) (clock : Nat) (events : List SweepEvent)
    (hfresh : Runs.AllSteps SweepSystem.step NoStaleMark (.start tickets clock) events) :
    Runs.Always SweepSystem.step DispatchedOnce (.start tickets clock) events := by
  have hstart : (SweepSystem.start tickets clock).Sound := by
    refine ⟨.start ⟨by simp [foundKeys, World.start], by simp [foundKeys, World.start]⟩, ?_⟩
    intro key
    simp [SweepSystem.start, breachKeys]
  have hsound := Runs.invariant hstart (fun _ event h hf => h.step event hf) hfresh
  exact hsound.mono fun _ h => h.dispatchedOnce

def overdueTicket : Ticket where
  ticketNumber := 41
  subject := "Printer on fire"
  contactId := 1
  ticketTypeId := some 1
  status := .opened
  priority := .high
  groupId := none
  agentId := none
  resourceId := none
  source := .email
  sourceDetail := none
  platform := none
  tags := []
  customFields := []
  requiredSkill := none
  slaPolicyId := some 1
  firstResponseDueAt := some 50
  firstResponseAt := none
  firstResponseOverdueNotifiedAt := none
  resolutionDueAt := some 900
  resolvedAt := none
  resolutionOverdueNotifiedAt := none
  mergedIntoId := none
  createdAt := 0
  updatedAt := 0

def oneOverdue : Table Uuid Ticket := (∅ : Table Uuid Ticket).insert 7 overdueTicket

def statement (tid : Nat) : SweepEvent := .database (.exec tid (.stored _) 0)

-- The second pass begins before the first one commits, but reads after it.
def overlappingPasses : List SweepEvent :=
  [.database (.begin 1 .sweep), .database (.begin 2 .sweep), statement 1, statement 1, statement 1,
    statement 1, .database (.commit 1), statement 2, .database (.commit 2), .dispatch 0, .dispatch 1]

theorem overlappingPasses_dispatch_once :
    Runs.Always SweepSystem.step DispatchedOnce (.start oneOverdue 100) overlappingPasses :=
  dispatched_at_most_once oneOverdue 100 _ (by decide)

-- Here both read the ticket before either marks it. The second one's UPDATE waits for
-- the first to commit.
def racingPasses : List SweepEvent :=
  [.database (.begin 1 .sweep), .database (.begin 2 .sweep), statement 1, statement 2, statement 1,
    statement 1, statement 1, .database (.commit 1), statement 2, statement 2, statement 2,
    .database (.commit 2), .dispatch 0, .dispatch 1]

theorem racing_passes_dispatch_twice :
    ¬ Runs.Always SweepSystem.step DispatchedOnce (.start oneOverdue 100) racingPasses := by
  intro h
  have honce := h.last
  unfold DispatchedOnce at honce
  exact absurd honce (by decide)

end CloudOps.Ticketing
