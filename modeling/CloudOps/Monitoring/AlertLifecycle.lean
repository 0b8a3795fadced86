import CloudOps.Monitoring.AlertSpecs

namespace CloudOps.Monitoring

open CloudOps.ReadCommitted

def IsResolved (table : Table Nat Alert) (id : Nat) : Prop :=
  (table.lookup id).map Alert.status = some .resolved

-- An alert carries the time of its resolution exactly while it is resolved.
def ResolvedDated (table : Table Nat Alert) : Prop :=
  ∀ row ∈ table.rows, row.2.status = .resolved ↔ row.2.resolvedAt ≠ none

instance (table : Table Nat Alert) : Decidable (ResolvedDated table) :=
  inferInstanceAs (Decidable (∀ row ∈ table.rows, row.2.status = .resolved ↔ row.2.resolvedAt ≠ none))

-- An acknowledge about to commit its UPDATE over an alert that has been committed
-- as resolved since the transaction read it.
def acknowledgesResolved (world : AlertWorld) (call : AlertCall) (writes : Table Nat Alert) : Bool :=
  match call with
  | .acknowledge id =>
      decide (id ∈ writes) && decide ((world.committed.lookup id).map Alert.status = some .resolved)
  | _ => false

def NoLateAcknowledge : AlertDb → Event Nat Alert AlertCall → Prop :=
  CommitMeets fun world call writes _ => acknowledgesResolved world call writes = false

instance (db : AlertDb) : DecidablePred (NoLateAcknowledge db) :=
  inferInstanceAs (DecidablePred (CommitMeets
    (fun world call writes _ => acknowledgesResolved world call writes = false) db))

theorem acknowledgesResolved_iff {world : AlertWorld} {call : AlertCall} {writes : Table Nat Alert} :
    acknowledgesResolved world call writes = true ↔
      ∃ id, call = .acknowledge id ∧ id ∈ writes ∧ IsResolved world.committed id := by
  cases call with
  | acknowledge id => simp [acknowledgesResolved, IsResolved]
  | _ => simp [acknowledgesResolved]

-- The lifecycle of an alert, over all states of a run.
def AlertLifecycle (texts : ReasonTexts) (start : AlertDb) (events : List (Event Nat Alert AlertCall)) :
    Prop :=
  Runs.Throughout (Db.step (alertService texts))
    (fun earlier later => ∀ id, IsResolved earlier.world.committed id →
      IsResolved later.world.committed id) start events ∧
  Runs.Always (Db.step (alertService texts)) (fun db => ResolvedDated db.world.committed) start events

theorem resolvedDated_iff {table : Table Nat Alert} :
    ResolvedDated table ↔ ∀ id alert, table.lookup id = some alert →
      (alert.status = .resolved ↔ alert.resolvedAt ≠ none) := by
  constructor
  · exact fun h id alert hl => h (id, alert) (Table.mem_rows.mpr hl)
  · exact fun h row hr => h row.1 row.2 (Table.mem_rows.mp hr)

theorem AlertChange.resolvedDated {now id : Nat} {call : AlertCall} {old : Option Alert} {new : Alert}
    (h : AlertChange now call id old new)
    (hold : ∀ alert, old = some alert → (alert.status = .resolved ↔ alert.resolvedAt ≠ none))
    (hcall : call = .acknowledge id → old.map Alert.status ≠ some .resolved) :
    new.status = .resolved ↔ new.resolvedAt ≠ none := by
  cases h with
  | opened => simp [Alert.inserted]
  | resolvedByCheck | resolvedByHand => simp
  | repeated _ _ _ _ row | linkedOnCreate _ _ row | linked _ _ _ row | escalated _ _ row =>
      exact hold row rfl
  | acknowledged _ row =>
      have hopen : row.status ≠ .resolved := by simpa using hcall rfl
      have hdated := hold row rfl
      simp_all

-- What a transaction commits, the others may rely on, unless it acknowledges a
-- resolved alert.
theorem ChangesOnly.later {call : AlertCall} {now : Nat} {world : AlertWorld}
    {writes : Table Nat Alert} (h : ChangesOnly call now world writes)
    (hack : acknowledgesResolved world call writes = false) (begunOn : Table Nat Alert)
    (startedAt : Nat) (reply : AlertReply) :
    Later world (world.publish call begunOn startedAt writes reply) where
  clock := Nat.le_refl _
  rows id old ho := by
    by_cases hid : id ∈ writes
    · obtain ⟨new, hn⟩ := Option.isSome_iff_exists.mp (AList.lookup_isSome.mpr hid)
      have hchange := h id new hn
      rw [ho] at hchange
      refine ⟨new, ?_, hchange.identity, fun hr => hchange.resolved ?_ hr⟩
      · exact Table.lookup_union_own hn _
      · rintro rfl
        have hresolved : IsResolved world.committed id := by simp [IsResolved, ho, hr]
        exact Bool.false_ne_true (hack.symm.trans (acknowledgesResolved_iff.mpr ⟨id, rfl, hid, hresolved⟩))
    · exact ⟨old, (Table.lookup_union_of_notMem hid).trans ho, rfl, fun hr => hr⟩

theorem ChangesOnly.resolvedDated {call : AlertCall} {now : Nat} {world : AlertWorld}
    {writes : Table Nat Alert} (h : ChangesOnly call now world writes)
    (hdated : ResolvedDated world.committed)
    (hack : acknowledgesResolved world call writes = false) :
    ResolvedDated (writes ∪ world.committed) := by
  refine resolvedDated_iff.mpr fun id alert hl => ?_
  rcases Table.lookup_union_cases hl with hown | ⟨-, hbase⟩
  · refine (h id alert hown).resolvedDated (resolvedDated_iff.mp hdated id) ?_
    rintro rfl hr
    exact Bool.false_ne_true (hack.symm.trans
      (acknowledgesResolved_iff.mpr ⟨id, rfl, Table.mem_of_lookup hown, hr⟩))
  · exact resolvedDated_iff.mp hdated id alert hbase

def lifecycle (texts : ReasonTexts) : RelyGuarantee (alertService texts) where
  rely := Later
  inv world := ResolvedDated world.committed
  post := CallDone
  condition world call writes _ := acknowledgesResolved world call writes = false
  refl := Later.refl
  trans _ _ _ := Later.trans
  tick world elapsed hinv := by
    refine ⟨hinv, ?_, fun _ old h => ⟨old, h, rfl, id⟩⟩
    exact Nat.le_add_right _ _
  body call world _ := alertService_done (fun _ _ h => h) texts call world
  commit call begunOn startedAt world writes reply hinv hdone hcondition :=
    ⟨hdone.changes.resolvedDated hinv hcondition, hdone.changes.later hcondition begunOn startedAt reply⟩

-- The commit that breaks the lifecycle: the alert ends as acknowledged, with the
-- time at which it was resolved.
theorem not_resolvedDated_of_acknowledge {now : Nat} {world : AlertWorld} {id : Nat}
    {writes : Table Nat Alert} (h : ChangesOnly (.acknowledge id) now world writes)
    (hdated : ResolvedDated world.committed) (hid : id ∈ writes)
    (hresolved : IsResolved world.committed id) : ¬ ResolvedDated (writes ∪ world.committed) := by
  intro hafter
  obtain ⟨old, ho, hs⟩ := Option.map_eq_some_iff.mp hresolved
  obtain ⟨new, hn⟩ := Option.isSome_iff_exists.mp (AList.lookup_isSome.mpr hid)
  have hchange := h id new hn
  rw [ho] at hchange
  have hnew := resolvedDated_iff.mp hafter id new (Table.lookup_union_own hn _)
  have hold := resolvedDated_iff.mp hdated id old ho
  cases hchange
  simp_all

-- The lifecycle holds in exactly the runs in which no acknowledge commits over an
-- alert that was resolved after the acknowledge had read it.
theorem alert_lifecycle_iff (texts : ReasonTexts) (committed : Table Nat Alert) (clock : Nat)
    (hdated : ResolvedDated committed) (events : List (Event Nat Alert AlertCall)) :
    AlertLifecycle texts (Db.start (World.start committed clock)) events ↔
      Runs.AllSteps (Db.step (alertService texts)) NoLateAcknowledge
        (Db.start (World.start committed clock)) events := by
  have hneed : ∀ db event, (lifecycle texts).Holds db →
      ResolvedDated (db.step (alertService texts) event).world.committed → NoLateAcknowledge db event := by
    intro db event h
    refine RelyGuarantee.commitMeets_of_step (fun world => ResolvedDated world.committed) h (fun call _ _ writes _
      hdone hafter => ?_) event
    refine Bool.eq_false_iff.mpr fun hack => ?_
    obtain ⟨id, rfl, hid, hresolved⟩ := acknowledgesResolved_iff.mp hack
    exact not_resolvedDated_of_acknowledge hdone.changes h.inv hid hresolved hafter
  have hinv : (lifecycle texts).inv (World.start committed clock) := hdated
  have hiff := Runs.always_iff_allSteps events (RelyGuarantee.Holds.start hinv) (fun _ h => h.inv)
    (fun _ _ h hc => (h.step hc).1) hneed
  refine ⟨fun h => hiff.mp h.2, fun h => ⟨?_, hiff.mpr h⟩⟩
  intro first second rest he id hresolved
  obtain ⟨old, ho, hs⟩ := Option.map_eq_some_iff.mp hresolved
  obtain ⟨new, hn, -, hstays⟩ :=
    ((lifecycle texts).throughout_rely hinv h first second rest he).rows id old ho
  simp [IsResolved, hn, hstays hs]

def openAlert : Table Nat Alert :=
  (∅ : Table Nat Alert).insert 7 (.inserted 10 3 4 .warning "api is down.")

def statement (tid : Nat) : Event Nat Alert AlertCall := .exec tid (.stored _) 0

-- Two people look at one open alert at once. The second one's UPDATE waits for the
-- first to commit.
def acknowledgeThenResolve : List (Event Nat Alert AlertCall) :=
  [.begin 1 (.acknowledge 7), .begin 2 (.resolve 7), statement 1, statement 2, statement 1, statement 2,
    .commit 1, .tick 5, statement 2, .commit 2]

theorem acknowledgeThenResolve_lifecycle :
    AlertLifecycle plainTexts (Db.start (World.start openAlert 100)) acknowledgeThenResolve :=
  (alert_lifecycle_iff plainTexts openAlert 100 (by decide) _).mpr (by decide)

-- Here the resolve commits between the two statements of the acknowledge.
def resolveWithinAcknowledge : List (Event Nat Alert AlertCall) :=
  [.begin 1 (.acknowledge 7), statement 1, .begin 2 (.resolve 7), statement 2, statement 2, .commit 2,
    .tick 5, statement 1, .commit 1]

theorem acknowledge_reopens_resolved :
    ¬ AlertLifecycle plainTexts (Db.start (World.start openAlert 100)) resolveWithinAcknowledge := by
  intro h
  exact absurd h.2 (by decide)

end CloudOps.Monitoring
