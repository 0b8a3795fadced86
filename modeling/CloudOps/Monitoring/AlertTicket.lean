import CloudOps.Monitoring.AlertLifecycle
import CloudOps.Monitoring.Evaluated

namespace CloudOps.Monitoring

open CloudOps.ReadCommitted

def ticketOf (table : Table Nat Alert) (id : Nat) : Option Nat := (table.lookup id).bind Alert.ticketId

-- A ticket once linked stays the alert's ticket.
def KeepsTickets (earlier later : AlertWorld) : Prop :=
  ∀ id ticketId, ticketOf earlier.committed id = some ticketId →
    ticketOf later.committed id = some ticketId

def OneAlertOneTicket (texts : ReasonTexts) (start : AlertDb)
    (events : List (Event Nat Alert AlertCall)) : Prop :=
  Runs.Always (Db.step (alertService texts)) (fun db => AtMostOneActive db.world.committed) start events ∧
  Runs.Throughout (Db.step (alertService texts))
    (fun earlier later => KeepsTickets earlier.world later.world) start events

-- A manual link about to commit its UPDATE over an alert that has been linked to
-- another ticket since the request read it.
def relinks (world : AlertWorld) (call : AlertCall) (writes : Table Nat Alert) : Bool :=
  match call with
  | .linkTicket id ticketId _ =>
      decide (id ∈ writes) && (ticketOf world.committed id).any fun linked => decide (linked ≠ ticketId)
  | _ => false

def NoRelink : AlertDb → Event Nat Alert AlertCall → Prop :=
  CommitMeets fun world call writes _ => relinks world call writes = false

instance (db : AlertDb) : DecidablePred (NoRelink db) :=
  inferInstanceAs (DecidablePred (CommitMeets
    (fun world call writes _ => relinks world call writes = false) db))

theorem relinks_iff {world : AlertWorld} {call : AlertCall} {writes : Table Nat Alert} :
    relinks world call writes = true ↔
      ∃ id ticketId ticketExists linked, call = .linkTicket id ticketId ticketExists ∧ id ∈ writes ∧
        ticketOf world.committed id = some linked ∧ linked ≠ ticketId := by
  cases call with
  | linkTicket id ticketId ticketExists => simp [relinks, Option.any_eq_true]
  | _ => simp [relinks]

-- Only the two links touch the column, and only the manual one fills it twice.
theorem AlertChange.ticketId {now id : Nat} {call : AlertCall} {old new : Alert} {linked : Nat}
    (h : AlertChange now call id (some old) new) (hold : old.ticketId = some linked) :
    new.ticketId = some linked ∨
      ∃ ticketId ticketExists, call = .linkTicket id ticketId ticketExists ∧
        new.ticketId = some ticketId := by
  cases h with
  | linked _ ticketId ticketExists => exact .inr ⟨ticketId, ticketExists, rfl, rfl⟩
  | linkedOnCreate _ _ _ hnone => rw [hold] at hnone; cases hnone
  | resolvedByCheck | repeated | acknowledged | resolvedByHand | escalated => exact .inl hold

theorem KeepsTickets.refl (world : AlertWorld) : KeepsTickets world world := fun _ _ h => h

theorem KeepsTickets.trans {a b c : AlertWorld} (hab : KeepsTickets a b) (hbc : KeepsTickets b c) :
    KeepsTickets a c := fun id ticketId h => hbc id ticketId (hab id ticketId h)

-- One commit keeps every link exactly if it is not a manual link over another one.
theorem ChangesOnly.keepsTickets_iff {call : AlertCall} {now : Nat} {world : AlertWorld}
    {writes : Table Nat Alert} (h : ChangesOnly call now world writes) (begunOn : Table Nat Alert)
    (startedAt : Nat) (reply : AlertReply) :
    KeepsTickets world (world.publish call begunOn startedAt writes reply) ↔
      relinks world call writes = false := by
  have hafter : ∀ id, ticketOf (writes ∪ world.committed) id =
      ((writes.lookup id).or (world.committed.lookup id)).bind Alert.ticketId := by
    intro id
    rw [ticketOf, Table.lookup_union]
  constructor
  · intro hkeeps
    refine Bool.eq_false_iff.mpr fun hrelinks => ?_
    obtain ⟨id, ticketId, ticketExists, linked, rfl, hid, hlinked, hne⟩ := relinks_iff.mp hrelinks
    obtain ⟨new, hn⟩ := Option.isSome_iff_exists.mp (AList.lookup_isSome.mpr hid)
    have hstays := hkeeps id linked hlinked
    rw [World.publish, hafter, hn, Option.some_or] at hstays
    have hchange := h id new hn
    obtain ⟨old, ho, -⟩ := Option.bind_eq_some_iff.mp hlinked
    rw [ho] at hchange
    cases hchange
    exact hne (Option.some.inj hstays).symm
  · intro hrelinks id linked hlinked
    obtain ⟨old, ho, hold⟩ := Option.bind_eq_some_iff.mp hlinked
    rw [World.publish, hafter]
    cases hw : writes.lookup id with
    | none => rw [Option.none_or]; exact hlinked
    | some new =>
        rw [Option.some_or]
        have hchange := h id new hw
        rw [ho] at hchange
        rcases hchange.ticketId hold with hkept | ⟨ticketId, ticketExists, rfl, hnew⟩
        · exact hkept
        · by_cases hne : linked = ticketId
          · subst hne
            exact hnew
          · have hclash := relinks_iff.mpr
              ⟨id, ticketId, ticketExists, linked, rfl, Table.mem_of_lookup hw, hlinked, hne⟩
            exact absurd (hrelinks.symm.trans hclash) Bool.false_ne_true

theorem atMostOneActive_singleton (id : Nat) (alert : Alert) :
    AtMostOneActive ((∅ : Table Nat Alert).insert id alert) := by
  intro first firstAlert second secondAlert hfirst hsecond _ _ _
  simp only [Table.lookup_insert_eq, AList.lookup_empty] at hfirst hsecond
  split at hfirst <;> split at hsecond <;> simp_all

-- Nothing assumed of the others, nothing of the commits.
def unconditional (texts : ReasonTexts) : RelyGuarantee (alertService texts) where
  rely _ _ := True
  inv _ := True
  post call _ startedAt world writes _ := ChangesOnly call startedAt world writes
  condition _ _ _ _ := True
  refl _ := trivial
  trans _ _ _ _ _ := trivial
  tick _ _ _ := ⟨trivial, trivial⟩
  body call world _ := alertService_changes texts call world.clock world
  commit _ _ _ _ _ _ _ _ _ := ⟨trivial, trivial⟩

-- An alert has one ticket and a monitor one active alert in exactly the runs in
-- which no manual link commits over a link made since it read the alert.
theorem one_alert_one_ticket_iff (texts : ReasonTexts) (committed : Table Nat Alert) (clock : Nat)
    (hunique : AtMostOneActive committed) (events : List (Event Nat Alert AlertCall)) :
    OneAlertOneTicket texts (Db.start (World.start committed clock)) events ↔
      Runs.AllSteps (Db.step (alertService texts)) NoRelink
        (Db.start (World.start committed clock)) events := by
  have hactive : Runs.Always (Db.step (alertService texts)) (fun db => AtMostOneActive db.world.committed)
      (Db.start (World.start committed clock)) events :=
    (always_respectsUnique (alertService texts) oneActivePerMonitor_symm
      (atMostOneActive_iff.mp hunique) events).mono fun _ h => atMostOneActive_iff.mpr h
  have hstep : ∀ db event, (unconditional texts).Holds db →
      (KeepsTickets db.world (db.step (alertService texts) event).world ↔ NoRelink db event) := by
    intro db event h
    refine h.step_iff (fun before after hsame => ?_) (fun _ begunOn startedAt _ _ reply _ hchanges =>
      hchanges.keepsTickets_iff begunOn startedAt reply) event
    rw [KeepsTickets, hsame]
    exact fun _ _ hlinked => hlinked
  have hholds : ∀ (db : AlertDb) event, (unconditional texts).Holds db →
      (unconditional texts).Holds (db.step (alertService texts) event) :=
    fun db event h => (h.step (CommitMeets.trivial _ event)).1
  have hstart : (unconditional texts).Holds (Db.start (World.start committed clock)) := .start trivial
  have hiff := Runs.throughout_iff_allSteps
    (fun earlier later : AlertDb => KeepsTickets earlier.world later.world) events
    (fun db => KeepsTickets.refl db.world)
    (fun _ _ _ => KeepsTickets.trans) hstart
    (fun db event h hlink => ⟨hholds db event h, (hstep db event h).mpr hlink⟩)
    (fun db event h hkeeps => (hstep db event h).mp hkeeps)
  exact ⟨fun h => hiff.mp h.2, fun h => ⟨hactive, hiff.mpr h⟩⟩

-- A second request for a link that arrives after the first is turned away.
def linkThenLink : List (Event Nat Alert AlertCall) :=
  [.begin 1 (.linkTicketOnCreate 7 100), statement 1, .commit 1, .begin 2 (.linkTicket 7 200 true),
    statement 2, .rollback 2]

theorem linkThenLink_one_ticket :
    OneAlertOneTicket plainTexts (Db.start (World.start openAlert 100)) linkThenLink :=
  (one_alert_one_ticket_iff plainTexts openAlert 100 (atMostOneActive_singleton _ _) _).mpr (by decide)

-- Both requests read the alert before either has linked it; the automatic link
-- would have left it alone.
def linkWithinLink : List (Event Nat Alert AlertCall) :=
  [.begin 1 (.linkTicketOnCreate 7 100), .begin 2 (.linkTicket 7 200 true), statement 2, statement 1,
    .commit 1, statement 2, .commit 2]

theorem linkWithinLink_relinks :
    ¬ OneAlertOneTicket plainTexts (Db.start (World.start openAlert 100)) linkWithinLink := by
  intro h
  have hkeeps := h.2 (linkWithinLink.take 5) (linkWithinLink.drop 5) [] rfl 7 100 (by decide)
  exact absurd hkeeps (by decide)

end CloudOps.Monitoring
