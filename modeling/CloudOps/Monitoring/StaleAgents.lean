import CloudOps.LeftJoin
import CloudOps.Monitoring.AgentMonitor
import CloudOps.Monitoring.ProbeLocations

namespace CloudOps.Monitoring.Scheduler

open CloudOps.Effects
open CloudOps.LeftJoin
open CloudOps.ReadCommitted (Table ScanOrder)

-- A row of agent_tokens. The schema allows a resource any number of them.
structure AgentTokenRow where
  resourceId : Nat
  isEnabled : Bool
  lastSeenAt : Option Nat
  deriving DecidableEq

structure AgentDb extends SchedulerDb where
  tokens : Table Nat AgentTokenRow

def Monitor.isServerAgent (monitor : Monitor) : Bool :=
  monitor.isEnabled && monitor.monitorType == .serverAgent

-- ON at.resource_id = m.resource_id AND at.is_enabled = true
def tokenOf (monitor : Nat × Monitor) (token : Nat × AgentTokenRow) : Bool :=
  token.2.resourceId == monitor.2.resourceId && token.2.isEnabled

-- Neither service selects min_failing_locations.
def Monitor.agentRow (id : Nat) (monitor : Monitor) : DueMonitor :=
  { monitor.due id with minFailingLocations := none }

structure DueAgentMonitor where
  monitor : DueMonitor
  intervalSeconds : Nat
  lastSeenAt : Option Nat

abbrev AgentRow := (Nat × Monitor) × Option (Nat × AgentTokenRow)

def dueAgent (row : AgentRow) : DueAgentMonitor where
  monitor := row.1.2.agentRow row.1.1
  intervalSeconds := row.1.2.intervalSeconds
  lastSeenAt := row.2.bind fun token => token.2.lastSeenAt

-- One pass over the tenant's agents: when its SELECT runs, the clock it reads for each row
-- it has selected, when its INSERTs run, the order its rows come in, and the failures it
-- meets.
structure AgentPass where
  worker : Worker
  startedAt : Nat
  judgedAt : Nat → Nat
  recordedAt : Nat
  order : ScanOrder AgentRow
  recording : Except ServiceError Unit
  faults : Nat → EntryFaults

def AgentPass.selects (pass : AgentPass) (db : AgentDb) (row : Nat × Monitor) : Bool :=
  row.2.isServerAgent && row.2.isDue pass.startedAt (db.checksOf row.1)

def AgentPass.rows (pass : AgentPass) (db : AgentDb) : List AgentRow :=
  (pass.order.apply (leftJoin tokenOf db.monitors.rows db.tokens.rows)).filter fun row => pass.selects db row.1

def AgentPass.dueMonitors (pass : AgentPass) (db : AgentDb) : List DueAgentMonitor := (pass.rows db).map dueAgent

def AgentPass.entries (pass : AgentPass) (db : AgentDb) : List (CheckedEntry × EntryFaults) :=
  (pass.dueMonitors db).mapIdx fun i due =>
    (⟨due.monitor, checkAgentStaleness due.lastSeenAt (due.intervalSeconds * STALENESS_MULTIPLIER) (pass.judgedAt i)⟩,
      pass.faults i)

def sweepStaleAgents (texts : ReasonTexts) (pass : AgentPass) (db : AgentDb) : PassLog :=
  (exec (recordAndEvaluate texts pass.worker pass.recordedAt pass.recording (pass.entries db)) .empty).2

-- UPDATE agent_tokens SET last_seen_at = now() WHERE id = $1
def AgentDb.heartbeat (db : AgentDb) (agentTokenId now : Nat) : AgentDb :=
  match db.tokens.lookup agentTokenId with
  | none => db
  | some token => { db with tokens := db.tokens.insert agentTokenId { token with lastSeenAt := some now } }

-- A report: the token and the resource its device is authenticated as, when it comes and
-- when its check is inserted, the order of the SELECT's rows, and what becomes of its
-- calls of the database and of the evaluation.
structure ReportCall where
  agentTokenId : Nat
  resourceId : Nat
  dto : AgentReport
  receivedAt : Nat
  recordedAt : Nat
  order : ScanOrder (Nat × Monitor)
  heartbeat : Except ServiceError Unit
  select : Except ServiceError Unit
  insert : Except ServiceError Unit
  faults : EntryFaults

def ofResource (resourceId : Nat) (row : Nat × Monitor) : Bool :=
  row.2.resourceId == resourceId && row.2.isServerAgent

-- The server_agent monitors that are enabled for the resource.
def AgentDb.agentMonitors (db : AgentDb) (resourceId : Nat) : List (Nat × Monitor) :=
  db.monitors.rows.filter (ofResource resourceId)

section Report

-- The jsonb column read as the thresholds; NULL is {}.
variable (texts : ReasonTexts) (thresholds : String → AgentReportThresholds) (call : ReportCall)

-- LIMIT 1 leaves the first that comes.
def reportMonitor (db : AgentDb) : Option (Nat × Monitor) :=
  ((call.order.apply db.monitors.rows).filter (ofResource call.resourceId)).head?

def recordReport (row : Nat × Monitor) : PassM Unit := do
  let result := evaluateAgentReport (thresholds row.2.config) call.dto
  match call.insert with
  | .error error => throw error
  | .ok () => do
      modify fun log => { log with
        recorded := log.recorded ++ [(row.1, { result with location := "default", checkedAt := call.recordedAt })] }
      evaluate texts ⟨row.2.agentRow row.1, result⟩ call.faults

def reportChecks (db : AgentDb) : PassM Unit :=
  match call.select with
  | .error error => throw error
  | .ok () =>
      match reportMonitor call db with
      | none => return
      | some row => recordReport texts thresholds call row

def report (db : AgentDb) : AgentDb × PassLog :=
  match call.heartbeat with
  | .error _ => (db, .empty)
  | .ok () =>
      let seen := db.heartbeat call.agentTokenId call.receivedAt
      (seen, (exec (reportChecks texts thresholds call seen) .empty).2)

end Report

-- The agent that holds the token was heard from within the threshold.
def AgentTokenRow.SeenWithin (token : AgentTokenRow) (thresholdSeconds now : Nat) : Prop :=
  ∃ seen, token.lastSeenAt = some seen ∧ now ≤ seen + thresholdSeconds * 1000

-- A pass records one check of a monitor at most, and no 'down' of one whose resource has
-- been heard from.
structure PassSound (texts : ReasonTexts) (pass : AgentPass) (db : AgentDb) : Prop where
  single : ((sweepStaleAgents texts pass db).recorded.map Prod.fst).Nodup
  heard : ∀ i id check monitor, (sweepStaleAgents texts pass db).recorded[i]? = some (id, check) →
    check.status = .down → db.monitors.lookup id = some monitor →
    ∀ token ∈ db.tokens.rows, tokenOf (id, monitor) token = true →
      ¬ token.2.SeenWithin (monitor.intervalSeconds * STALENESS_MULTIPLIER) (pass.judgedAt i)

structure ReportCall.Succeeds (call : ReportCall) : Prop where
  heartbeat : call.heartbeat = .ok ()
  select : call.select = .ok ()
  insert : call.insert = .ok ()

-- A report leaves a new check of every monitor of its resource.
def ReportRefreshes (texts : ReasonTexts) (thresholds : String → AgentReportThresholds) (call : ReportCall)
    (db : AgentDb) : Prop :=
  call.Succeeds → ∀ row ∈ db.agentMonitors call.resourceId,
    ∃ check, (row.1, check) ∈ (report texts thresholds call db).2.recorded

-- No monitor the pass selects has two tokens.
def AgentPass.OneToken (pass : AgentPass) (db : AgentDb) : Prop :=
  ∀ row ∈ db.monitors.rows, pass.selects db row = true → (matched tokenOf db.tokens.rows row).length ≤ 1

section Pass

variable {texts : ReasonTexts} {pass : AgentPass} {db : AgentDb}

theorem perm_rows (pass : AgentPass) (db : AgentDb) : (pass.rows db).Perm
    (leftJoin tokenOf (db.monitors.rows.filter (pass.selects db)) db.tokens.rows) := by
  rw [← filter_leftJoin]
  exact (pass.order.perm _).filter _

theorem recorded_sweep (hrecording : pass.recording = .ok ()) : (sweepStaleAgents texts pass db).recorded =
    (pass.entries db).map fun item => checkRow pass.worker pass.recordedAt item.1 := by
  unfold sweepStaleAgents
  rw [hrecording]
  exact recorded_eq texts pass.worker pass.recordedAt _

theorem recorded_sweep_error {error : ServiceError} (hrecording : pass.recording = .error error) :
    (sweepStaleAgents texts pass db).recorded = [] := by
  unfold sweepStaleAgents recordAndEvaluate
  rw [hrecording]
  split
  · rfl
  · rfl

theorem ids_recorded (hrecording : pass.recording = .ok ()) :
    (sweepStaleAgents texts pass db).recorded.map Prod.fst = (pass.rows db).map fun row => row.1.1 := by
  rw [recorded_sweep hrecording, List.map_map, AgentPass.entries, AgentPass.dueMonitors]
  apply List.ext_getElem
  · simp
  · intro i hi hi'
    simp [checkRow, dueAgent, Monitor.agentRow, Monitor.due]

theorem single_iff (hrecording : pass.recording = .ok ()) :
    ((sweepStaleAgents texts pass db).recorded.map Prod.fst).Nodup ↔ pass.OneToken db := by
  have hkeys : ((db.monitors.rows.filter (pass.selects db)).map Prod.fst).Nodup :=
    (Table.nodup_rows_ids db.monitors).sublist (List.filter_sublist.map _)
  rw [ids_recorded hrecording, ((perm_rows pass db).map _).nodup_iff, nodup_leftJoin_iff hkeys]
  simp only [List.mem_filter, and_imp]
  rfl

-- The row behind a check that was recorded.
theorem row_of_recorded {i id : Nat} {check : MonitorCheck}
    (h : (sweepStaleAgents texts pass db).recorded[i]? = some (id, check)) :
    ∃ monitor found, db.monitors.lookup id = some monitor ∧ pass.selects db (id, monitor) = true ∧
      found ∈ beside tokenOf db.tokens.rows (id, monitor) ∧
      check.status = (checkAgentStaleness (found.bind fun token => token.2.lastSeenAt)
        (monitor.intervalSeconds * STALENESS_MULTIPLIER) (pass.judgedAt i)).status := by
  cases hrecording : pass.recording with
  | error error =>
      rw [recorded_sweep_error hrecording] at h
      cases h
  | ok =>
      rw [recorded_sweep hrecording, AgentPass.entries, AgentPass.dueMonitors, List.getElem?_map,
        List.getElem?_mapIdx, List.getElem?_map] at h
      cases hrow : (pass.rows db)[i]? with
      | none => simp [hrow] at h
      | some row =>
          obtain ⟨⟨key, monitor⟩, found⟩ := row
          simp only [hrow, Option.map_some, Option.some.injEq] at h
          obtain ⟨rfl, rfl⟩ := Prod.mk.inj h
          have hmem := (perm_rows pass db).mem_iff.mp (List.mem_of_getElem? hrow)
          obtain ⟨hleft, hbeside⟩ := mem_leftJoin.mp hmem
          obtain ⟨hstored, hselected⟩ := List.mem_filter.mp hleft
          exact ⟨monitor, found, Table.mem_rows.mp hstored, hselected, hbeside, rfl⟩

-- The one token there is has been judged.
theorem heard_of_oneToken (hone : pass.OneToken db) {i id : Nat} {check : MonitorCheck} {monitor : Monitor}
    (h : (sweepStaleAgents texts pass db).recorded[i]? = some (id, check)) (hdown : check.status = .down)
    (hmonitor : db.monitors.lookup id = some monitor) {token : Nat × AgentTokenRow}
    (htoken : token ∈ db.tokens.rows) (hof : tokenOf (id, monitor) token = true) :
    ¬ token.2.SeenWithin (monitor.intervalSeconds * STALENESS_MULTIPLIER) (pass.judgedAt i) := by
  obtain ⟨selected, found, hselected, hselects, hfound, hstatus⟩ := row_of_recorded h
  obtain rfl := Option.some.inj (hselected.symm.trans hmonitor)
  have hmatched := mem_matched.mpr ⟨htoken, hof⟩
  have hfew := hone (id, selected) (Table.mem_rows.mpr hmonitor) hselects
  cases found with
  | none =>
      rw [none_mem_beside.mp hfound] at hmatched
      cases hmatched
  | some other =>
      have hsame : other = token := matched_unique hfew (some_mem_beside.mp hfound) hmatched
      rw [hdown, hsame] at hstatus
      rintro ⟨seen, hseen, hrecent⟩
      have hlate := checkAgentStaleness_down.mp hstatus.symm seen hseen
      omega

theorem passSound_iff (texts : ReasonTexts) (pass : AgentPass) (db : AgentDb) :
    PassSound texts pass db ↔ (pass.recording = .ok () → pass.OneToken db) := by
  constructor
  · exact fun h hrecording => (single_iff hrecording).mp h.single
  · intro hone
    cases hrecording : pass.recording with
    | error error =>
        have hnone : (sweepStaleAgents texts pass db).recorded = [] := recorded_sweep_error hrecording
        exact ⟨by simp [hnone], fun i id check monitor h => by simp [hnone] at h⟩
    | ok =>
        exact ⟨(single_iff hrecording).mpr (hone hrecording),
          fun _ _ _ _ h hdown hmonitor _ htoken hof => heard_of_oneToken (hone hrecording) h hdown hmonitor htoken hof⟩

end Pass

section Report

variable {texts : ReasonTexts} {thresholds : String → AgentReportThresholds} {call : ReportCall} {db : AgentDb}

theorem heartbeat_monitors (db : AgentDb) (agentTokenId now : Nat) :
    (db.heartbeat agentTokenId now).monitors = db.monitors := by
  unfold AgentDb.heartbeat
  split
  · rfl
  · rfl

-- One check, of the monitor that came first.
theorem recorded_report (hsucceeds : call.Succeeds) :
    (report texts thresholds call db).2.recorded = (reportMonitor call db).toList.map fun row =>
      (row.1, { evaluateAgentReport (thresholds row.2.config) call.dto with
        location := "default", checkedAt := call.recordedAt }) := by
  have hmonitor : reportMonitor call (db.heartbeat call.agentTokenId call.receivedAt) = reportMonitor call db := by
    rw [reportMonitor, heartbeat_monitors, reportMonitor]
  simp only [report, hsucceeds.heartbeat, reportChecks, hsucceeds.select, hmonitor]
  cases reportMonitor call db with
  | none => rfl
  | some row =>
      simp only [recordReport, hsucceeds.insert]
      rw [exec_modify_bind, (exec_evaluate texts _ call.faults _).recorded]
      rfl

theorem perm_agentMonitors (call : ReportCall) (db : AgentDb) :
    ((call.order.apply db.monitors.rows).filter (ofResource call.resourceId)).Perm
      (db.agentMonitors call.resourceId) := (call.order.perm _).filter _

theorem nodup_agentMonitors (db : AgentDb) (resourceId : Nat) :
    ((db.agentMonitors resourceId).map Prod.fst).Nodup :=
  (Table.nodup_rows_ids db.monitors).sublist (List.filter_sublist.map _)

theorem reportRefreshes_iff (texts : ReasonTexts) (thresholds : String → AgentReportThresholds) (call : ReportCall)
    (db : AgentDb) : ReportRefreshes texts thresholds call db ↔
      (call.Succeeds → (db.agentMonitors call.resourceId).length ≤ 1) := by
  refine forall_congr' fun hsucceeds => ?_
  rw [recorded_report hsucceeds]
  constructor
  · intro h
    have hchosen : ∀ row ∈ db.agentMonitors call.resourceId, ∃ chosen, reportMonitor call db = some chosen ∧
        chosen.1 = row.1 := by
      intro row hrow
      obtain ⟨check, hcheck⟩ := h row hrow
      obtain ⟨chosen, hmem, heq⟩ := List.mem_map.mp hcheck
      exact ⟨chosen, Option.mem_toList.mp hmem, (Prod.mk.inj heq).1⟩
    have hnodup := nodup_agentMonitors db call.resourceId
    cases hmonitors : db.agentMonitors call.resourceId with
    | nil => exact Nat.zero_le 1
    | cons first rest =>
        cases rest with
        | nil => exact Nat.le_refl 1
        | cons second others =>
            rw [hmonitors] at hchosen hnodup
            obtain ⟨chosen, hsome, hfirst⟩ := hchosen first (by simp)
            obtain ⟨other, hsome', hsecond⟩ := hchosen second (by simp)
            obtain rfl := Option.some.inj (hsome.symm.trans hsome')
            have hsame : first.1 = second.1 := hfirst.symm.trans hsecond
            simp [hsame] at hnodup
  · intro hfew row hrow
    obtain ⟨only, honly⟩ := List.length_eq_one_iff.mp (le_antisymm hfew (List.length_pos_of_mem hrow))
    have hperm := perm_agentMonitors call db
    rw [honly] at hperm hrow
    obtain rfl := List.mem_singleton.mp hrow
    rw [reportMonitor, List.perm_singleton.mp hperm]
    exact ⟨_, List.mem_singleton.mpr rfl⟩

end Report

-- A reporting agent is not reported down, and refreshes its monitors, exactly where no
-- resource concerned has two tokens or two monitors.
theorem reporting_agents_iff (texts : ReasonTexts) (thresholds : String → AgentReportThresholds) (db : AgentDb)
    (pass : AgentPass) (call : ReportCall) :
    PassSound texts pass db ∧ ReportRefreshes texts thresholds call db ↔
      (pass.recording = .ok () → pass.OneToken db) ∧
        (call.Succeeds → (db.agentMonitors call.resourceId).length ≤ 1) :=
  and_congr (passSound_iff texts pass db) (reportRefreshes_iff texts thresholds call db)

def webMonitor : Monitor where
  name := "web-1"
  resourceId := 1
  monitorType := .serverAgent
  config := "\x7b\x7d"
  intervalSeconds := 60
  consecutiveFailuresToAlert := 1
  minFailingLocations := 1
  isEnabled := true

-- A second token has been made for the resource; its agent has never reported.
def twoTokens : AgentDb where
  monitors := (∅ : Table Nat Monitor).insert 1 webMonitor
  checks := []
  tokens := ((∅ : Table Nat AgentTokenRow).insert 1 ⟨1, true, some 100000⟩).insert 2 ⟨1, true, none⟩

-- A pass that takes no time and meets no failure.
def agentPassAt (time : Nat) : AgentPass where
  worker := ⟨none⟩
  startedAt := time
  judgedAt _ := time
  recordedAt := time
  order := .stored _
  recording := .ok ()
  faults _ := streamUp

-- One second after the first agent's report the monitor is recorded 'down' for the second.
theorem twoTokens_recorded_down : ¬ ∀ texts pass db, PassSound texts pass db := by
  intro h
  have hfirst : (sweepStaleAgents plainTexts (agentPassAt 101000) twoTokens).recorded[0]?.map
      (fun row => (row.1, row.2.status)) = some (1, .down) := by decide +kernel
  obtain ⟨⟨id, check⟩, hrow, heq⟩ := Option.map_eq_some_iff.mp hfirst
  obtain ⟨rfl, hdown⟩ := Prod.mk.inj heq
  refine (h plainTexts (agentPassAt 101000) twoTokens).heard 0 1 check webMonitor hrow hdown rfl
    (1, ⟨1, true, some 100000⟩) (by decide) rfl ⟨100000, rfl, ?_⟩
  decide

end CloudOps.Monitoring.Scheduler
