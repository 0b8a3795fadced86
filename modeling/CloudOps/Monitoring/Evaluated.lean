import CloudOps.Monitoring.AlertSystem
import CloudOps.ReadCommitted.Unique

namespace CloudOps.Monitoring

open CloudOps.ReadCommitted

-- At most one alert of a monitor is active.
def AtMostOneActive (table : Table Nat Alert) : Prop :=
  ∀ id alert other otherAlert, table.lookup id = some alert → table.lookup other = some otherAlert →
    alert.isActive → otherAlert.isActive → alert.monitorId = otherAlert.monitorId → id = other

theorem atMostOneActive_iff {table : Table Nat Alert} :
    AtMostOneActive table ↔ RespectsUnique oneActivePerMonitor table := by
  constructor
  · intro h id alert other otherAlert hid hother hne
    refine Bool.eq_false_iff.mpr fun hconflict => hne ?_
    simp only [oneActivePerMonitor, Bool.and_eq_true, beq_iff_eq] at hconflict
    exact h id alert other otherAlert hid hother hconflict.1.1 hconflict.1.2 hconflict.2
  · intro h id alert other otherAlert hid hother hactive hotherActive hsame
    by_contra hne
    have hconflict := h id alert other otherAlert hid hother hne
    simp [oneActivePerMonitor, hactive, hotherActive, hsame] at hconflict

theorem oneActivePerMonitor_symm (alert other : Alert) :
    oneActivePerMonitor alert other = oneActivePerMonitor other alert := by
  simp only [oneActivePerMonitor, Bool.and_comm alert.isActive, Bool.beq_comm]

theorem AtMostOneActive.serve {texts : ReasonTexts} {world : AlertWorld}
    (h : AtMostOneActive world.committed) (solo : Solo Nat Alert) (call : AlertCall) :
    AtMostOneActive (world.serve (alertService texts) solo call).committed :=
  atMostOneActive_iff.mpr
    (RespectsUnique.serve (atMostOneActive_iff.mp h) oneActivePerMonitor_symm solo call)

-- What an evaluation reads of the alerts table.
def activeAlerts (monitor : EvaluatedMonitor) (table : Table Nat Alert) : List (Nat × Alert) :=
  table.rows.filter fun row => row.2.monitorId == monitor.id && row.2.isActive

theorem mem_activeAlerts {monitor : EvaluatedMonitor} {table : Table Nat Alert} {row : Nat × Alert} :
    row ∈ activeAlerts monitor table ↔
      table.lookup row.1 = some row.2 ∧ row.2.monitorId = monitor.id ∧ row.2.isActive := by
  obtain ⟨id, alert⟩ := row
  simp only [activeAlerts, List.mem_filter, Table.mem_rows, Bool.and_eq_true, beq_iff_eq]

theorem AtMostOneActive.activeAlerts {monitor : EvaluatedMonitor} {table : Table Nat Alert}
    (h : AtMostOneActive table) :
    ∀ first ∈ activeAlerts monitor table, ∀ other ∈ activeAlerts monitor table,
      first.1 = other.1 := by
  intro first hfirst other hother
  obtain ⟨hl, hm, ha⟩ := mem_activeAlerts.mp hfirst
  obtain ⟨hol, hom, hoa⟩ := mem_activeAlerts.mp hother
  exact h _ _ _ _ hl hol ha hoa (hm.trans hom.symm)

theorem activeAlerts_single {monitor : EvaluatedMonitor} {table : Table Nat Alert}
    (hsingle : ∀ first ∈ activeAlerts monitor table, ∀ other ∈ activeAlerts monitor table,
      first.1 = other.1) :
    activeAlerts monitor table = [] ∨ ∃ row, activeAlerts monitor table = [row] := by
  have hnodup : ((activeAlerts monitor table).map Prod.fst).Nodup :=
    table.nodup_rows_ids.sublist (List.filter_sublist.map Prod.fst)
  cases hactive : activeAlerts monitor table with
  | nil => exact .inl rfl
  | cons row rest =>
      cases rest with
      | nil => exact .inr ⟨row, rfl⟩
      | cons other _ =>
          rw [hactive] at hsingle hnodup
          have hsame := hsingle row (by simp) other (by simp)
          simp [hsame] at hnodup

theorem uniqueClash_eq_false {monitor : EvaluatedMonitor} {table : Table Nat Alert} {id : Nat} {row : Alert}
    (hmonitor : row.monitorId = monitor.id)
    (hother : row.isActive = true → ∀ other ∈ activeAlerts monitor table, other.1 = id) :
    uniqueClash oneActivePerMonitor id row table = false := by
  rw [uniqueClash, List.any_eq_false]
  intro other ho hclash
  simp only [oneActivePerMonitor, Bool.and_eq_true, decide_eq_true_eq, beq_iff_eq] at hclash
  obtain ⟨hne, ⟨hactive, hactiveOther⟩, hsame⟩ := hclash
  refine hne (hother hactive other (List.mem_filter.mpr ⟨ho, ?_⟩))
  simp [hactiveOther, ← hsame, hmonitor]

-- The row an evaluation that nobody disturbs writes, by the active alert it finds.
def decidedRow (texts : ReasonTexts) (rule : AlertRule) (metric : Option MetricEvaluation)
    (reads : EvaluationReads) (monitor : EvaluatedMonitor) (result : CheckResult) (now newId : Nat) :
    Option (Nat × Alert) → Option (Nat × Alert)
  | some (id, alert) =>
      if rule.isBad result metric then
        some (id, { alert with repeatCount := alert.repeatCount + 1, lastSeenAt := now })
      else if AlertRule.shouldResolve result metric then
        some (id, { alert with status := .resolved, resolvedAt := some now })
      else none
  | none =>
      if rule.isBad result metric && rule.thresholdReached monitor reads.recentChecks metric &&
          !rule.awaitsQuorum monitor reads.locationChecks metric then
        some (newId, .inserted now monitor.id rule.id rule.severity
          (rule.reasonText texts monitor result metric))
      else none

-- The table with that row in it.
def putRow (table : Table Nat Alert) : Option (Nat × Alert) → Table Nat Alert
  | some (id, row) => (∅ : Table Nat Alert).insert id row ∪ table
  | none => table

variable {texts : ReasonTexts} {rule : AlertRule} {monitor : EvaluatedMonitor}

theorem alone_decidedRow {metric : Option MetricEvaluation} {reads : EvaluationReads}
    (hrule : reads.rule = some rule) (hmetric : rule.metricEval reads.metricChecks = .ok metric)
    (result : CheckResult) (now : Nat) (solo : Solo Nat Alert) (table : Table Nat Alert)
    (hsingle : ∀ first ∈ activeAlerts monitor table, ∀ other ∈ activeAlerts monitor table,
      first.1 = other.1) :
    ((applyToDatabase texts reads monitor result now).alone oneActivePerMonitor solo now ∅ table).table
        table =
      putRow table (decidedRow texts rule metric reads monitor result now (solo.newId table)
        (activeAlerts monitor table).head?) := by
  have hperm := solo.order.perm (activeAlerts monitor table)
  unfold applyToDatabase
  simp only [hrule, hmetric, Prog.query_bind, Prog.alone, AList.empty_union]
  rw [← activeAlerts]
  rcases activeAlerts_single hsingle with hactive | ⟨⟨id, alert⟩, hactive⟩
  · rw [hactive, List.perm_nil, ← hactive] at hperm
    rw [hperm, hactive, List.head?_nil, decidedRow]
    have hclash : ∀ newId row, row.monitorId = monitor.id →
        uniqueClash oneActivePerMonitor newId row table = false :=
      fun _ _ hmonitor => uniqueClash_eq_false hmonitor (by simp [hactive])
    cases rule.isBad result metric with
    | false => rfl
    | true =>
        cases rule.thresholdReached monitor reads.recentChecks metric with
        | false => rfl
        | true =>
            cases rule.awaitsQuorum monitor reads.locationChecks metric with
            | true => rfl
            | false =>
                simp only [Bool.not_true, Bool.false_eq_true, ite_false, Prog.insertRow_bind,
                  Prog.alone, AList.empty_union, Bool.and_self, Bool.not_false, ite_true]
                rw [hclash _ _ rfl]
                rfl
  · rw [hactive, List.perm_singleton, ← hactive] at hperm
    rw [hperm, hactive, List.head?_cons, decidedRow]
    have hrow : (id, alert) ∈ activeAlerts monitor table := by simp [hactive]
    obtain ⟨hlookup, hmonitor, -⟩ := mem_activeAlerts.mp hrow
    have hclash : ∀ row, row.monitorId = monitor.id → uniqueClash oneActivePerMonitor id row table = false :=
      fun _ hmonitor => uniqueClash_eq_false hmonitor (by simp [hactive])
    cases rule.isBad result metric with
    | false =>
        simp only [Bool.false_eq_true, ite_false]
        split
        · simp only [Prog.update_bind, Prog.alone, AList.empty_union, hlookup, Option.map_some]
          rw [hclash]
          · rfl
          · exact hmonitor
        · exact AList.empty_union
    | true =>
        simp only [Prog.update_bind, Prog.alone, AList.empty_union, hlookup, Option.map_some, ite_true]
        rw [hclash]
        · rfl
        · exact hmonitor

-- The alerts table after one evaluate call that nobody disturbs.
theorem serve_evaluate {metric : Option MetricEvaluation} {reads : EvaluationReads}
    (hrule : reads.rule = some rule) (hmetric : rule.metricEval reads.metricChecks = .ok metric)
    (result : CheckResult) (solo : Solo Nat Alert) {world : AlertWorld}
    (hsingle : ∀ first ∈ activeAlerts monitor world.committed,
      ∀ other ∈ activeAlerts monitor world.committed, first.1 = other.1) :
    (world.serve (alertService texts) solo (.evaluate reads monitor result)).committed =
      putRow world.committed (decidedRow texts rule metric reads monitor result world.clock
        (solo.newId world.committed) (activeAlerts monitor world.committed).head?) := by
  rw [serve_committed, alertService, alone_map_table]
  exact alone_decidedRow hrule hmetric _ _ _ _ hsingle

-- A metric that is not an allowed one makes the call throw, which changes nothing.
theorem serve_evaluate_error {reads : EvaluationReads} {error : ServiceError}
    (hrule : reads.rule = some rule) (hmetric : rule.metricEval reads.metricChecks = .error error)
    (result : CheckResult) (solo : Solo Nat Alert) (world : AlertWorld) :
    (world.serve (alertService texts) solo (.evaluate reads monitor result)).committed =
      world.committed := by
  rw [serve_committed, alertService, alone_map_table]
  simp only [applyToDatabase, hrule, hmetric]
  rfl

-- An alert of the monitor that was active is not any more.
def ResolvesAlert (monitor : EvaluatedMonitor) (before after : Table Nat Alert) : Prop :=
  ∃ id alert new, before.lookup id = some alert ∧ alert.monitorId = monitor.id ∧ alert.isActive ∧
    after.lookup id = some new ∧ new.isActive = false

theorem lookup_putRow (table : Table Nat Alert) (id other : Nat) (row : Alert) :
    (putRow table (some (id, row))).lookup other = if other = id then some row else table.lookup other :=
  Table.lookup_insert_union table id other row

-- An evaluation resolves the active alert it finds if it finds nothing bad and, for
-- a status rule, an 'up'.
theorem resolvesAlert_decidedRow {metric : Option MetricEvaluation} {reads : EvaluationReads}
    (result : CheckResult) (now newId : Nat) (table : Table Nat Alert)
    (hsingle : ∀ first ∈ activeAlerts monitor table, ∀ other ∈ activeAlerts monitor table,
      first.1 = other.1) :
    ResolvesAlert monitor table (putRow table (decidedRow texts rule metric reads monitor result now newId
        (activeAlerts monitor table).head?)) ↔
      activeAlerts monitor table ≠ [] ∧ rule.isBad result metric = false ∧
        AlertRule.shouldResolve result metric = true := by
  rcases activeAlerts_single hsingle with hactive | ⟨⟨id, alert⟩, hactive⟩
  · refine iff_of_false ?_ (fun h => h.1 hactive)
    rintro ⟨id, alert, new, hlookup, hmonitor, hisActive, -⟩
    have hmem : (id, alert) ∈ activeAlerts monitor table :=
      mem_activeAlerts.mpr ⟨hlookup, hmonitor, hisActive⟩
    simp [hactive] at hmem
  · have hrow : (id, alert) ∈ activeAlerts monitor table := by simp [hactive]
    obtain ⟨hlookup, hmonitor, hisActive⟩ := mem_activeAlerts.mp hrow
    -- the alert that is resolved is the one the evaluation found
    have honly : ∀ other old, table.lookup other = some old → old.monitorId = monitor.id →
        old.isActive → other = id ∧ old = alert := by
      intro other old hother hsame hold
      have hmem : (other, old) ∈ activeAlerts monitor table := mem_activeAlerts.mpr ⟨hother, hsame, hold⟩
      simpa [hactive] using hmem
    have hstays : ∀ after : Table Nat Alert, (∀ new, after.lookup id = some new → new.isActive) →
        ¬ ResolvesAlert monitor table after := by
      rintro after hafter ⟨other, old, new, hother, hsame, hold, hnew, hresolved⟩
      obtain ⟨rfl, rfl⟩ := honly other old hother hsame hold
      simp [hafter new hnew] at hresolved
    rw [hactive, List.head?_cons, decidedRow]
    cases hbad : rule.isBad result metric with
    | true =>
        refine iff_of_false (hstays _ fun new hnew => ?_) (by simp)
        simp only [ite_true, lookup_putRow, Option.some.injEq] at hnew
        subst hnew
        exact hisActive
    | false =>
        cases hresolve : AlertRule.shouldResolve result metric with
        | true =>
            refine iff_of_true ?_ (by simp)
            refine ⟨id, alert, { alert with status := .resolved, resolvedAt := some now }, hlookup,
              hmonitor, hisActive, ?_, rfl⟩
            simp [lookup_putRow]
        | false =>
            refine iff_of_false (hstays _ fun new hnew => ?_) (by simp)
            obtain rfl : new = alert := Option.some.inj (hnew.symm.trans hlookup)
            exact hisActive

-- An alert of the monitor is active that was not.
def OpensAlert (monitor : EvaluatedMonitor) (before after : Table Nat Alert) : Prop :=
  ∃ id alert, after.lookup id = some alert ∧ alert.monitorId = monitor.id ∧ alert.isActive ∧
    ∀ old, before.lookup id = some old → old.isActive = false

theorem not_opensAlert_self (monitor : EvaluatedMonitor) (table : Table Nat Alert) :
    ¬ OpensAlert monitor table table := by
  rintro ⟨id, alert, hlookup, -, hactive, hbefore⟩
  simp [hbefore alert hlookup] at hactive

-- An evaluation opens an alert if it finds none active, a bad result, the debounce
-- reached and the quorum with it.
theorem opensAlert_decidedRow {metric : Option MetricEvaluation} {reads : EvaluationReads}
    (result : CheckResult) (now newId : Nat) (table : Table Nat Alert) (hfresh : newId ∉ table)
    (hsingle : ∀ first ∈ activeAlerts monitor table, ∀ other ∈ activeAlerts monitor table,
      first.1 = other.1) :
    OpensAlert monitor table (putRow table (decidedRow texts rule metric reads monitor result now newId
        (activeAlerts monitor table).head?)) ↔
      activeAlerts monitor table = [] ∧ rule.isBad result metric = true ∧
        rule.thresholdReached monitor reads.recentChecks metric = true ∧
        rule.awaitsQuorum monitor reads.locationChecks metric = false := by
  rcases activeAlerts_single hsingle with hactive | ⟨⟨id, alert⟩, hactive⟩
  · rw [hactive, List.head?_nil, decidedRow]
    cases hopens : rule.isBad result metric && rule.thresholdReached monitor reads.recentChecks metric &&
        !rule.awaitsQuorum monitor reads.locationChecks metric with
    | true =>
        simp only [Bool.and_eq_true, Bool.not_eq_true'] at hopens
        have hinserted := lookup_putRow table newId newId (.inserted now monitor.id rule.id rule.severity
          (rule.reasonText texts monitor result metric))
        rw [if_pos rfl] at hinserted
        refine iff_of_true ⟨newId, _, hinserted, rfl, rfl, fun old hold => ?_⟩
          ⟨rfl, hopens.1.1, hopens.1.2, hopens.2⟩
        exact absurd (Table.mem_of_lookup hold) hfresh
    | false =>
        refine iff_of_false (not_opensAlert_self monitor table) fun h => ?_
        simp [h] at hopens
  · refine iff_of_false ?_ (by simp [hactive])
    have hrow : (id, alert) ∈ activeAlerts monitor table := by simp [hactive]
    obtain ⟨hlookup, -, hisActive⟩ := mem_activeAlerts.mp hrow
    rintro ⟨other, new, hnew, -, hnewActive, hbefore⟩
    -- nothing but the row of the active alert is touched
    have htouched : other = id ∨ table.lookup other = some new := by
      rw [hactive, List.head?_cons, decidedRow] at hnew
      split at hnew
      · rw [lookup_putRow] at hnew
        split at hnew
        · exact .inl ‹_›
        · exact .inr hnew
      · split at hnew
        · rw [lookup_putRow] at hnew
          split at hnew
          · exact .inl ‹_›
          · exact .inr hnew
        · exact .inr hnew
    rcases htouched with rfl | hsame
    · exact absurd (hbefore alert hlookup) (by simp [show alert.isActive = true from hisActive])
    · exact absurd (hbefore new hsame) (by simp [hnewActive])

theorem resolvesAlert_serve {metric : Option MetricEvaluation} {reads : EvaluationReads}
    (hrule : reads.rule = some rule) (hmetric : rule.metricEval reads.metricChecks = .ok metric)
    (result : CheckResult) (solo : Solo Nat Alert) {world : AlertWorld}
    (h : AtMostOneActive world.committed) :
    ResolvesAlert monitor world.committed
        (world.serve (alertService texts) solo (.evaluate reads monitor result)).committed ↔
      activeAlerts monitor world.committed ≠ [] ∧ rule.isBad result metric = false ∧
        AlertRule.shouldResolve result metric = true := by
  rw [serve_evaluate hrule hmetric _ _ h.activeAlerts]
  exact resolvesAlert_decidedRow _ _ _ _ h.activeAlerts

theorem opensAlert_serve {metric : Option MetricEvaluation} {reads : EvaluationReads}
    (hrule : reads.rule = some rule) (hmetric : rule.metricEval reads.metricChecks = .ok metric)
    (result : CheckResult) (solo : Solo Nat Alert) {world : AlertWorld}
    (h : AtMostOneActive world.committed) :
    OpensAlert monitor world.committed
        (world.serve (alertService texts) solo (.evaluate reads monitor result)).committed ↔
      activeAlerts monitor world.committed = [] ∧ rule.isBad result metric = true ∧
        rule.thresholdReached monitor reads.recentChecks metric = true ∧
        rule.awaitsQuorum monitor reads.locationChecks metric = false := by
  rw [serve_evaluate hrule hmetric _ _ h.activeAlerts]
  exact opensAlert_decidedRow _ _ _ _ (solo.fresh _) h.activeAlerts

theorem not_resolvesAlert_self (monitor : EvaluatedMonitor) (table : Table Nat Alert) :
    ¬ ResolvesAlert monitor table table := by
  rintro ⟨id, alert, new, hlookup, -, hactive, hnew, hresolved⟩
  obtain rfl := Option.some.inj (hlookup.symm.trans hnew)
  simp [hactive] at hresolved

def IsActiveAlert (monitor : EvaluatedMonitor) (table : Table Nat Alert) (id : Nat) : Prop :=
  ∃ alert, table.lookup id = some alert ∧ alert.monitorId = monitor.id ∧ alert.isActive

instance (monitor : EvaluatedMonitor) (table : Table Nat Alert) (id : Nat) :
    Decidable (IsActiveAlert monitor table id) :=
  decidable_of_iff
    ((table.lookup id).any fun alert => decide (alert.monitorId = monitor.id) && alert.isActive)
    (by simp [IsActiveAlert, Option.any_eq_true])

-- An alert that is there is active after an evaluation if it was and the evaluation
-- resolves nothing.
theorem isActiveAlert_decidedRow {metric : Option MetricEvaluation} {reads : EvaluationReads}
    (result : CheckResult) (now newId : Nat) {table : Table Nat Alert} (hfresh : newId ∉ table)
    (hsingle : ∀ first ∈ activeAlerts monitor table, ∀ other ∈ activeAlerts monitor table,
      first.1 = other.1) {id : Nat} (hid : id ∈ table) :
    IsActiveAlert monitor (putRow table (decidedRow texts rule metric reads monitor result now newId
        (activeAlerts monitor table).head?)) id ↔
      IsActiveAlert monitor table id ∧
        ¬ (rule.isBad result metric = false ∧ AlertRule.shouldResolve result metric = true) := by
  have hother : ∀ other row, other ≠ id →
      (IsActiveAlert monitor (putRow table (some (other, row))) id ↔ IsActiveAlert monitor table id) := by
    intro other row hne
    simp only [IsActiveAlert, lookup_putRow, if_neg (Ne.symm hne)]
  rcases activeAlerts_single hsingle with hactive | ⟨⟨found, alert⟩, hactive⟩
  · have hnone : ¬ IsActiveAlert monitor table id := by
      rintro ⟨alert, hrow⟩
      have hmem : (id, alert) ∈ activeAlerts monitor table := mem_activeAlerts.mpr hrow
      simp [hactive] at hmem
    have hne : newId ≠ id := fun he => hfresh (he ▸ hid)
    rw [hactive, List.head?_nil, decidedRow]
    refine iff_of_false ?_ (fun h => hnone h.1)
    split
    · rwa [hother newId _ hne]
    · exact hnone
  · have hrow : (found, alert) ∈ activeAlerts monitor table := by simp [hactive]
    obtain ⟨hlookup, hmonitor, hisActive⟩ := mem_activeAlerts.mp hrow
    have honly : IsActiveAlert monitor table id → id = found := by
      rintro ⟨other, hother⟩
      have hmem : (id, other) ∈ activeAlerts monitor table := mem_activeAlerts.mpr hother
      rw [hactive, List.mem_singleton] at hmem
      exact congrArg Prod.fst hmem
    rw [hactive, List.head?_cons, decidedRow]
    by_cases hfound : found = id
    · subst hfound
      have hbefore : IsActiveAlert monitor table found := ⟨alert, hlookup, hmonitor, hisActive⟩
      rw [and_iff_right hbefore]
      cases hbad : rule.isBad result metric with
      | true =>
          refine iff_of_true ⟨_, (lookup_putRow table found found _).trans (if_pos rfl), hmonitor, hisActive⟩ ?_
          simp
      | false =>
          cases hresolve : AlertRule.shouldResolve result metric with
          | true =>
              refine iff_of_false ?_ (by simp)
              rintro ⟨new, hnew, -, hnewActive⟩
              rw [if_neg Bool.false_ne_true, if_pos rfl, lookup_putRow, if_pos rfl, Option.some.injEq] at hnew
              subst hnew
              simp [Alert.isActive] at hnewActive
          | false => exact iff_of_true hbefore (by simp)
    · have hnone : ¬ IsActiveAlert monitor table id := fun h => hfound (honly h).symm
      refine iff_of_false ?_ (fun h => hnone h.1)
      split
      · rwa [hother found _ hfound]
      split
      · rwa [hother found _ hfound]
      · exact hnone

theorem isActiveAlert_serve {metric : Option MetricEvaluation} {reads : EvaluationReads}
    (hrule : reads.rule = some rule) (hmetric : rule.metricEval reads.metricChecks = .ok metric)
    (result : CheckResult) (solo : Solo Nat Alert) {world : AlertWorld}
    (h : AtMostOneActive world.committed) {id : Nat} (hid : id ∈ world.committed) :
    IsActiveAlert monitor
        (world.serve (alertService texts) solo (.evaluate reads monitor result)).committed id ↔
      IsActiveAlert monitor world.committed id ∧
        ¬ (rule.isBad result metric = false ∧ AlertRule.shouldResolve result metric = true) := by
  rw [serve_evaluate hrule hmetric _ _ h.activeAlerts]
  exact isActiveAlert_decidedRow _ _ _ (solo.fresh _) h.activeAlerts hid

-- What the evaluation of a check reads when nothing is recorded while it runs.
def readsOf (rule : AlertRule) (checks : List MonitorCheck) : EvaluationReads :=
  { rule := some rule
    metricChecks := checks
    recentChecks := checks
    locationChecks := checks }

end CloudOps.Monitoring
