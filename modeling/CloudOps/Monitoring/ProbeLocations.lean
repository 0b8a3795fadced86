import CloudOps.Monitoring.BusFailures

namespace CloudOps.Monitoring.Scheduler

open CloudOps.Effects
open CloudOps.ReadCommitted (Table)

-- A pass of a worker, or whatever others do to the tables: monitors come, go and change,
-- and other services record checks too.
inductive SchedulerEvent where
  | pass (probe : WorkerPass)
  | elsewhere (db : SchedulerDb)

variable (texts : ReasonTexts)

def SchedulerDb.step (db : SchedulerDb) : SchedulerEvent → SchedulerDb
  | .pass probe => { db with checks := db.checks ++ (sweepActivelyPolled texts probe db).recorded }
  | .elsewhere db => db

-- The check is within the last interval.
def Monitor.isRecent (monitor : Monitor) (now : Nat) (check : MonitorCheck) : Bool :=
  decide (now ≤ check.checkedAt + monitor.intervalSeconds * 1000)

-- Every monitor that is polled has a recent check of the location.
def ProbedFrom (location : String) (now : Nat) (db : SchedulerDb) : Prop :=
  ∀ id monitor, db.monitors.lookup id = some monitor → monitor.isPolled = true →
    ∃ check ∈ db.checksOf id, check.location = location ∧ monitor.isRecent now check = true

-- No check throws, and the transaction that records them commits.
def WorkerPass.Succeeds (probe : WorkerPass) : Prop :=
  (∀ monitorType config, ∃ result, probe.runCheck monitorType config = .ok result) ∧ probe.recording = .ok ()

-- Right after the pass.
def PassProbes (db : SchedulerDb) : SchedulerEvent → Prop
  | .pass probe => probe.Succeeds → ProbedFrom probe.worker.location probe.startedAt (db.step texts (.pass probe))
  | .elsewhere _ => True

-- A monitor that some location has checked recently has been checked recently by the
-- worker's own.
def OwnCheckStands (db : SchedulerDb) : SchedulerEvent → Prop
  | .pass probe => probe.Succeeds → ∀ id monitor,
      db.monitors.lookup id = some monitor → monitor.isPolled = true →
      (∃ check ∈ db.checksOf id, monitor.isRecent probe.startedAt check = true) →
      ∃ check ∈ db.checksOf id, check.location = probe.worker.location ∧
        monitor.isRecent probe.startedAt check = true
  | .elsewhere _ => True

variable {texts} {db : SchedulerDb} {probe : WorkerPass} {id : Nat} {monitor : Monitor}

theorem le_of_latest {checks : List MonitorCheck} {latest check : MonitorCheck}
    (hlatest : (latestFirst checks).head? = some latest) (hcheck : check ∈ checks) :
    check.checkedAt ≤ latest.checkedAt := by
  have hsorted := latestFirst_sorted checks
  have hmem := mem_latestFirst.mpr hcheck
  obtain ⟨rest, hcons⟩ := List.head?_eq_some_iff.mp hlatest
  rw [hcons] at hsorted hmem
  rcases List.mem_cons.mp hmem with rfl | hrest
  · exact Nat.le_refl _
  · exact (List.pairwise_cons.mp hsorted).1 check hrest

-- A monitor is due exactly if no location has checked it recently.
theorem isDue_iff {checks : List MonitorCheck} {now : Nat} :
    monitor.isDue now checks = true ↔ ∀ check ∈ checks, monitor.isRecent now check = false := by
  unfold Monitor.isDue Monitor.isRecent
  simp only [decide_eq_false_iff_not, Nat.not_le]
  cases hlatest : (latestFirst checks).head? with
  | none =>
      have hnone : checks = [] := by
        refine List.eq_nil_iff_forall_not_mem.mpr fun check hmem => ?_
        have hlisted := mem_latestFirst.mpr hmem
        rw [List.head?_eq_none_iff.mp hlatest] at hlisted
        cases hlisted
      simp [hnone]
  | some latest =>
      have hmem : latest ∈ checks := mem_latestFirst.mp (List.mem_of_head? hlatest)
      rw [Option.all_some, decide_eq_true_eq]
      refine ⟨fun hold check hcheck => ?_, fun h => h latest hmem⟩
      have hle := le_of_latest hlatest hcheck
      omega

theorem recorded_eq (texts : ReasonTexts) (worker : Worker) (recordedAt : Nat)
    (entries : List (CheckedEntry × EntryFaults)) :
    (exec (recordAndEvaluate texts worker recordedAt (.ok ()) entries) .empty).2.recorded =
      entries.map fun item => checkRow worker recordedAt item.1 := by
  unfold recordAndEvaluate
  split
  · rename_i hnone
    rw [List.length_eq_zero_iff.mp hnone]
    rfl
  · dsimp only
    rw [exec_modify_bind]
    exact (exec_loop texts entries _).recorded

theorem mem_dueMonitors {due : DueMonitor} : due ∈ probe.dueMonitors db ↔
    ∃ id monitor, db.monitors.lookup id = some monitor ∧ monitor.isPolled = true ∧
      monitor.isDue probe.startedAt (db.checksOf id) = true ∧ due = monitor.due id := by
  simp only [WorkerPass.dueMonitors, List.mem_map, List.mem_filter, (probe.order.perm _).mem_iff, Prod.exists,
    Table.mem_rows, Bool.and_eq_true]
  constructor
  · rintro ⟨id, monitor, ⟨hrow, hpolled, hdue⟩, rfl⟩
    exact ⟨id, monitor, hrow, hpolled, hdue, rfl⟩
  · rintro ⟨id, monitor, hrow, hpolled, hdue, rfl⟩
    exact ⟨id, monitor, ⟨hrow, hpolled, hdue⟩, rfl⟩

theorem mem_entries {item : CheckedEntry × EntryFaults} : item ∈ probe.entries db ↔
    item.1.monitor ∈ probe.dueMonitors db ∧
      probe.runCheck item.1.monitor.monitorType item.1.monitor.config = .ok item.1.result ∧
      item.2 = probe.faults item.1.monitor.id := by
  obtain ⟨⟨due, result⟩, faults⟩ := item
  simp only [WorkerPass.entries, List.mem_filterMap]
  constructor
  · rintro ⟨found, hdue, hchecked⟩
    split at hchecked
    · rename_i _ hrun
      obtain ⟨⟨rfl, rfl⟩, rfl⟩ := hchecked
      exact ⟨hdue, hrun, rfl⟩
    · cases hchecked
  · rintro ⟨hdue, hrun, hfaults⟩
    refine ⟨due, hdue, ?_⟩
    rw [hrun, hfaults]

-- What a pass that succeeds adds to the checks of a monitor.
theorem mem_checksOf_step (hsucceeds : probe.Succeeds) (hrow : db.monitors.lookup id = some monitor)
    {check : MonitorCheck} : check ∈ (db.step texts (.pass probe)).checksOf id ↔
      check ∈ db.checksOf id ∨ monitor.isPolled = true ∧
        monitor.isDue probe.startedAt (db.checksOf id) = true ∧
        ∃ result, probe.runCheck monitor.monitorType monitor.config = .ok result ∧
          check = { result with location := probe.worker.location, checkedAt := probe.recordedAt } := by
  have hrecorded : (sweepActivelyPolled texts probe db).recorded =
      (probe.entries db).map fun item => checkRow probe.worker probe.recordedAt item.1 := by
    unfold sweepActivelyPolled
    rw [hsucceeds.2]
    exact recorded_eq texts probe.worker probe.recordedAt _
  have hchecks : ∀ rows : SchedulerDb, check ∈ rows.checksOf id ↔ (id, check) ∈ rows.checks := by
    intro rows
    simp [SchedulerDb.checksOf]
  rw [hchecks, hchecks]
  simp only [SchedulerDb.step, hrecorded, List.mem_append]
  refine or_congr_right ?_
  constructor
  · intro hmem
    obtain ⟨item, hitem, hcheckRow⟩ := List.mem_map.mp hmem
    obtain ⟨hdue, hrun, -⟩ := mem_entries.mp hitem
    obtain ⟨key, found, hfound, hpolled, hisDue, hrowDue⟩ := mem_dueMonitors.mp hdue
    rw [hrowDue] at hrun
    obtain ⟨hkey, hcheck⟩ := Prod.mk.inj hcheckRow
    have hid : key = id := by rw [← hkey, hrowDue]; rfl
    subst hid
    obtain rfl := Option.some.inj (hrow.symm.trans hfound)
    exact ⟨hpolled, hisDue, item.1.result, hrun, hcheck.symm⟩
  · rintro ⟨hpolled, hisDue, result, hrun, rfl⟩
    have hdue : monitor.due id ∈ probe.dueMonitors db :=
      mem_dueMonitors.mpr ⟨id, monitor, hrow, hpolled, hisDue, rfl⟩
    refine List.mem_map.mpr ⟨(⟨monitor.due id, result⟩, probe.faults id), ?_, rfl⟩
    exact mem_entries.mpr ⟨hdue, hrun, rfl⟩

-- After a pass of its worker a location has a recent check of every polled monitor,
-- exactly if before it no monitor stood recently checked by other locations only.
theorem passProbes_iff (db : SchedulerDb) (event : SchedulerEvent) :
    PassProbes texts db event ↔ OwnCheckStands db event := by
  cases event with
  | elsewhere _ => exact Iff.rfl
  | pass probe =>
      refine forall_congr' fun hsucceeds => forall_congr' fun id => forall_congr' fun monitor => ?_
      refine forall_congr' fun hrow => forall_congr' fun hpolled => ?_
      have hstep : ∀ check, check ∈ (db.step texts (.pass probe)).checksOf id ↔ _ := fun check =>
        mem_checksOf_step hsucceeds (show db.monitors.lookup id = some monitor from hrow)
      constructor
      · rintro hprobed ⟨recent, hrecent, hisRecent⟩
        obtain ⟨check, hcheck, hlocation, hcheckRecent⟩ := hprobed
        rcases (hstep check).mp hcheck with hbefore | ⟨-, hdue, -⟩
        · exact ⟨check, hbefore, hlocation, hcheckRecent⟩
        · have hold := isDue_iff.mp hdue recent hrecent
          rw [hisRecent] at hold
          cases hold
      · intro hstands
        by_cases hrecent : ∃ check ∈ db.checksOf id, monitor.isRecent probe.startedAt check = true
        · obtain ⟨check, hcheck, hlocation, hcheckRecent⟩ := hstands hrecent
          exact ⟨check, (hstep check).mpr (.inl hcheck), hlocation, hcheckRecent⟩
        · have hdue : monitor.isDue probe.startedAt (db.checksOf id) = true := by
            refine isDue_iff.mpr fun check hcheck => ?_
            exact Bool.eq_false_iff.mpr fun hcheckRecent => hrecent ⟨check, hcheck, hcheckRecent⟩
          obtain ⟨result, hrun⟩ := hsucceeds.1 monitor.monitorType monitor.config
          refine ⟨_, (hstep _).mpr (.inr ⟨hpolled, hdue, result, hrun, rfl⟩), rfl, ?_⟩
          have hafter := probe.recordedAfter
          simp only [Monitor.isRecent, decide_eq_true_eq]
          omega

variable (texts) in
theorem passes_probe_iff (db : SchedulerDb) (events : List SchedulerEvent) :
    Runs.AllSteps (SchedulerDb.step texts) (PassProbes texts) db events ↔
      Runs.AllSteps (SchedulerDb.step texts) OwnCheckStands db events :=
  @Runs.allSteps_congr _ _ _ (fun _ => True) _ _ _ events trivial (fun _ _ _ => trivial)
    fun db event _ => passProbes_iff db event

-- The rows a pass adds are of its worker's location, whatever fails in it.
theorem location_of_recorded {row : Nat × MonitorCheck} (h : row ∈ (sweepActivelyPolled texts probe db).recorded) :
    row.2.location = probe.worker.location := by
  unfold sweepActivelyPolled at h
  cases hrecording : probe.recording with
  | error error =>
      rw [hrecording] at h
      unfold recordAndEvaluate at h
      split at h
      · cases h
      · cases h
  | ok =>
      rw [hrecording, recorded_eq] at h
      obtain ⟨item, -, rfl⟩ := List.mem_map.mp h
      rfl

def OnlyFrom (location : String) (db : SchedulerDb) : Prop := ∀ row ∈ db.checks, row.2.location = location

-- A location that is alone always keeps probing.
theorem lone_location_probes (location : String) (hstart : OnlyFrom location db) (events : List SchedulerEvent)
    (halone : ∀ event ∈ events, match event with
      | .pass probe => probe.worker.location = location
      | .elsewhere other => OnlyFrom location other) :
    Runs.AllSteps (SchedulerDb.step texts) (PassProbes texts) db events := by
  refine Runs.AllSteps.mono (fun db event => (passProbes_iff db event).mpr) ?_
  induction events generalizing db with
  | nil => trivial
  | cons event rest ih =>
      obtain ⟨hevent, hrest⟩ := List.forall_mem_cons.mp halone
      cases event with
      | elsewhere other => exact ⟨trivial, ih hevent hrest⟩
      | pass probe =>
          refine ⟨?_, ih ?_ hrest⟩
          · rintro - id monitor - - ⟨check, hcheck, hrecent⟩
            obtain ⟨row, hrow, rfl⟩ := List.mem_map.mp hcheck
            exact ⟨row.2, hcheck, (hstart row (List.mem_filter.mp hrow).1).trans hevent.symm, hrecent⟩
          · intro row hrow
            rcases List.mem_append.mp hrow with hbefore | hadded
            · exact hstart row hbefore
            · exact (location_of_recorded hadded).trans hevent

-- Each pass of the location comes when every polled monitor has a recent check, which can
-- be of any other location.
def AlwaysLate (location : String) (db : SchedulerDb) : SchedulerEvent → Prop
  | .pass probe => probe.worker.location = location → ∀ id monitor, db.monitors.lookup id = some monitor →
      monitor.isPolled = true → ∃ check ∈ db.checksOf id, monitor.isRecent probe.startedAt check = true
  | .elsewhere other => ∀ row ∈ other.checks, row.2.location ≠ location

theorem entries_eq_nil (h : ∀ id monitor, db.monitors.lookup id = some monitor → monitor.isPolled = true →
    ∃ check ∈ db.checksOf id, monitor.isRecent probe.startedAt check = true) : probe.entries db = [] := by
  refine List.eq_nil_iff_forall_not_mem.mpr fun item hitem => ?_
  obtain ⟨hdue, -, -⟩ := mem_entries.mp hitem
  obtain ⟨id, monitor, hrow, hpolled, hisDue, -⟩ := mem_dueMonitors.mp hdue
  obtain ⟨check, hcheck, hrecent⟩ := h id monitor hrow hpolled
  have hold := isDue_iff.mp hisDue check hcheck
  rw [hrecent] at hold
  cases hold

-- A location that always comes second never probes at all.
theorem late_location_starves (location : String) (hstart : ∀ row ∈ db.checks, row.2.location ≠ location)
    (events : List SchedulerEvent)
    (hlate : Runs.AllSteps (SchedulerDb.step texts) (AlwaysLate location) db events) :
    Runs.Always (SchedulerDb.step texts) (fun db => ∀ row ∈ db.checks, row.2.location ≠ location) db events := by
  refine Runs.invariant hstart ?_ hlate
  intro db event h hlate
  cases event with
  | elsewhere other => exact hlate
  | pass probe =>
      intro row hrow
      rcases List.mem_append.mp hrow with hbefore | hadded
      · exact h row hbefore
      · intro hlocation
        have hprobe : probe.worker.location = location := (location_of_recorded hadded).symm.trans hlocation
        unfold sweepActivelyPolled at hadded
        rw [entries_eq_nil (hlate hprobe)] at hadded
        cases hadded

def apiMonitor : Monitor where
  name := "api"
  resourceId := 1
  monitorType := .http
  config := "{}"
  intervalSeconds := 60
  consecutiveFailuresToAlert := 1
  minFailingLocations := 2
  isEnabled := true

-- A pass that takes no time and meets no failure.
def probeAt (location : String) (time : Nat) : WorkerPass where
  worker := ⟨some location⟩
  startedAt := time
  recordedAt := time
  recordedAfter := Nat.le_refl time
  order := .stored _
  runCheck _ _ := .ok ⟨.down, none, []⟩
  recording := .ok ()
  faults _ := streamUp

theorem usAfterEu_starves :
    ¬ Runs.AllSteps (SchedulerDb.step plainTexts) (PassProbes plainTexts)
      ⟨(∅ : Table Nat Monitor).insert 1 apiMonitor, []⟩
        [.pass (probeAt "eu" 100000), .pass (probeAt "us" 110000)] := by
  intro h
  obtain ⟨check, hcheck, hlocation, -⟩ := h.2.1 ⟨fun _ _ => ⟨_, rfl⟩, rfl⟩ 1 apiMonitor rfl rfl
  let after := Runs.run (SchedulerDb.step plainTexts) ⟨(∅ : Table Nat Monitor).insert 1 apiMonitor, []⟩
    [.pass (probeAt "eu" 100000), .pass (probeAt "us" 110000)]
  have hlocations : (after.checksOf 1).map MonitorCheck.location = ["eu"] := by decide +kernel
  have hmem : "us" ∈ (after.checksOf 1).map MonitorCheck.location := List.mem_map.mpr ⟨check, hcheck, hlocation⟩
  rw [hlocations] at hmem
  exact absurd hmem (by decide)

end CloudOps.Monitoring.Scheduler
