import CloudOps.Episodes
import CloudOps.Monitoring.Evaluated
import Mathlib.Data.List.Induction
import Mathlib.Data.Set.Function

namespace CloudOps.Monitoring

open CloudOps.ReadCommitted CloudOps.Episodes

-- What the debounce is for, over the whole history of a monitor, oldest check first.
section Specification

variable (rule : AlertRule) (consecutive : Nat)

-- The checks j-N+1 .. j all exist and are all bad.
def FailingRun (checks : List MonitorCheck) (j : Nat) : Prop :=
  consecutive ≤ j ∧ j ≤ checks.length ∧
    ∀ check ∈ (checks.take j).drop (j - consecutive), rule.holdsOf check.toCheckResult = true

-- Such a run has been, and no check since has been up.
def Alerting (checks : List MonitorCheck) : Prop :=
  ∃ j, FailingRun rule consecutive checks j ∧ ∀ check ∈ checks.drop j, check.status ≠ .up

def AlertingAfter (checks : List MonitorCheck) (step : Nat) : Prop :=
  Alerting rule consecutive (checks.take step)

-- The bad checks of the steps after `first` up to `last`.
def badChecks (checks : List MonitorCheck) (first last : Nat) : Nat :=
  ((checks.take last).drop first).countP fun check => rule.holdsOf check.toCheckResult

end Specification

-- One check as it is recorded and evaluated.
structure Probe where
  check : MonitorCheck
  elapsed : Nat
  solo : Solo Nat Alert

structure Monitored where
  checks : List MonitorCheck
  world : AlertWorld

def Monitored.start (clock : Nat) : Monitored := ⟨[], World.start ∅ clock⟩

-- A check is recorded, and one evaluate call on it runs to its end.
def record (texts : ReasonTexts) (rule : AlertRule) (monitor : EvaluatedMonitor)
    (state : Monitored) (probe : Probe) : Monitored :=
  let checks := state.checks ++ [probe.check]
  let reads : EvaluationReads :=
    { rule := some rule
      metricChecks := checks
      recentChecks := checks
      locationChecks := checks }
  { checks := checks
    world := (state.world.tick probe.elapsed).serve (alertService texts) probe.solo
      (.evaluate reads monitor probe.check.toCheckResult) }

-- The rows of the alerts table against the specification: the monitor has an
-- active alert exactly while it is alerting, and never two; and the rows are the
-- episodes, each row counting the bad checks since the one that opened it.
structure Debounced (rule : AlertRule) (monitor : EvaluatedMonitor) (state : Monitored) : Prop where
  active : (∃ id alert, state.world.committed.lookup id = some alert ∧
      alert.monitorId = monitor.id ∧ alert.isActive) ↔
    Alerting rule monitor.consecutiveFailuresToAlert state.checks
  single : ∀ id other alert otherAlert, state.world.committed.lookup id = some alert →
    state.world.committed.lookup other = some otherAlert →
    alert.isActive → otherAlert.isActive → id = other
  episodes : ∃ openedBy : Nat → Nat,
    Set.BijOn openedBy {id | id ∈ state.world.committed}
      {first | ∃ last, Episode (AlertingAfter rule monitor.consecutiveFailuresToAlert state.checks)
        state.checks.length first last} ∧
    ∀ id alert last, state.world.committed.lookup id = some alert →
      Episode (AlertingAfter rule monitor.consecutiveFailuresToAlert state.checks)
        state.checks.length (openedBy id) last →
      alert.repeatCount = badChecks rule state.checks (openedBy id) last ∧
        (alert.isActive ↔ last = state.checks.length)

section History

variable {rule : AlertRule} {consecutive : Nat} {checks : List MonitorCheck} {check : MonitorCheck}

-- The last N checks are bad: what the evaluator reads out of the history.
def WindowBad (rule : AlertRule) (consecutive : Nat) (checks : List MonitorCheck) : Prop :=
  FailingRun rule consecutive checks checks.length

theorem failingRun_append {j : Nat} (hj : j ≤ checks.length) :
    FailingRun rule consecutive (checks ++ [check]) j ↔ FailingRun rule consecutive checks j := by
  simp only [FailingRun, List.take_append_of_le_length hj, List.length_append, List.length_singleton]
  constructor
  · rintro ⟨hn, -, hbad⟩
    exact ⟨hn, hj, hbad⟩
  · rintro ⟨hn, -, hbad⟩
    exact ⟨hn, Nat.le_succ_of_le hj, hbad⟩

theorem WindowBad.last_bad (hpos : 1 ≤ consecutive)
    (h : WindowBad rule consecutive (checks ++ [check])) :
    rule.holdsOf check.toCheckResult = true := by
  refine h.2.2 check ?_
  rw [List.take_length, List.length_append, List.length_singleton,
    List.drop_append_of_le_length (by omega)]
  simp

theorem alerting_append (hpos : 1 ≤ consecutive) (hup : "up" ∉ rule.statuses) :
    Alerting rule consecutive (checks ++ [check]) ↔ check.status ≠ .up ∧
      (Alerting rule consecutive checks ∨ WindowBad rule consecutive (checks ++ [check])) := by
  constructor
  · rintro ⟨j, hrun, hquiet⟩
    by_cases hj : j ≤ checks.length
    · rw [List.drop_append_of_le_length hj] at hquiet
      refine ⟨hquiet check (by simp), .inl ⟨j, (failingRun_append hj).mp hrun, ?_⟩⟩
      exact fun other ho => hquiet other (by simp [ho])
    · obtain rfl : j = (checks ++ [check]).length := by
        have hle := hrun.2.1
        simp only [List.length_append, List.length_singleton] at hle ⊢
        omega
      refine ⟨fun hstatus => hup ?_, .inr hrun⟩
      have hbad := WindowBad.last_bad hpos hrun
      simpa [AlertRule.holdsOf, hstatus, CheckStatus.text] using hbad
  · rintro ⟨hstatus, hrun | hrun⟩
    · obtain ⟨j, hrun, hquiet⟩ := hrun
      have hj := hrun.2.1
      refine ⟨j, (failingRun_append hj).mpr hrun, ?_⟩
      rw [List.drop_append_of_le_length hj]
      intro other ho
      rcases List.mem_append.mp ho with ho | ho
      · exact hquiet other ho
      · exact List.mem_singleton.mp ho ▸ hstatus
    · exact ⟨_, hrun, by simp⟩

theorem not_alerting_nil (hpos : 1 ≤ consecutive) : ¬ Alerting rule consecutive [] := by
  rintro ⟨j, ⟨hn, hj, -⟩, -⟩
  simp only [List.length_nil] at hj
  omega

theorem thresholdReached_iff {monitor : EvaluatedMonitor}
    (hsorted : checks.Pairwise fun a b => a.checkedAt < b.checkedAt) :
    rule.thresholdReached monitor checks none = true ↔
      WindowBad rule monitor.consecutiveFailuresToAlert checks := by
  simp only [AlertRule.thresholdReached, latestFirst_of_increasing hsorted, Bool.and_eq_true,
    decide_eq_true_eq, List.take_reverse, List.length_reverse, List.length_drop, List.all_eq_true,
    List.mem_reverse, WindowBad, FailingRun, List.take_length, le_refl, true_and]
  constructor
  · rintro ⟨hlen, hbad⟩
    exact ⟨by omega, hbad⟩
  · rintro ⟨hlen, hbad⟩
    exact ⟨by omega, hbad⟩

theorem alertingAfter_append {k : Nat} (hk : k ≤ checks.length) :
    AlertingAfter rule consecutive checks k ↔ AlertingAfter rule consecutive (checks ++ [check]) k := by
  rw [AlertingAfter, AlertingAfter, List.take_append_of_le_length hk]

theorem badChecks_append {first last : Nat} (hl : last ≤ checks.length) :
    badChecks rule (checks ++ [check]) first last = badChecks rule checks first last := by
  rw [badChecks, badChecks, List.take_append_of_le_length hl]

theorem badChecks_last {first : Nat} (hf : first ≤ checks.length) :
    badChecks rule (checks ++ [check]) first (checks.length + 1) =
      badChecks rule checks first checks.length +
        if rule.holdsOf check.toCheckResult then 1 else 0 := by
  have hlength : checks.length + 1 = (checks ++ [check]).length := by simp
  rw [badChecks, badChecks, hlength, List.take_length, List.take_length,
    List.drop_append_of_le_length hf, List.countP_append, List.countP_singleton]

end History

section Step

variable {texts : ReasonTexts} {rule : AlertRule} {monitor : EvaluatedMonitor}

-- One evaluation on its own, by what it finds: the row it writes, if any.
def evaluated (texts : ReasonTexts) (rule : AlertRule) (monitor : EvaluatedMonitor)
    (checks : List MonitorCheck) (check : MonitorCheck) (now newId : Nat) :
    List (Nat × Alert) → Option (Nat × Alert)
  | (id, alert) :: _ =>
      if rule.holdsOf check.toCheckResult then
        some (id, { alert with repeatCount := alert.repeatCount + 1, lastSeenAt := now })
      else if check.status = .up then some (id, { alert with status := .resolved, resolvedAt := some now })
      else none
  | [] =>
      if rule.holdsOf check.toCheckResult && rule.thresholdReached monitor checks none then
        some (newId, .inserted now monitor.id rule.id rule.severity
          (texts.generateReasonText monitor.name check.toCheckResult))
      else none

-- For a status rule of one location that is what any evaluation decides.
theorem decidedRow_status {checks : List MonitorCheck}
    (hlocations : monitor.minFailingLocations.getD 1 = 1) (check : MonitorCheck) (now newId : Nat)
    (rows : List (Nat × Alert)) :
    decidedRow texts rule none ⟨some rule, checks, checks, checks⟩ monitor check.toCheckResult now newId
        rows.head? = evaluated texts rule monitor checks check now newId rows := by
  have hbad : rule.isBad check.toCheckResult none = rule.holdsOf check.toCheckResult := rfl
  have hquorum : rule.awaitsQuorum monitor checks none = false := by simp [AlertRule.awaitsQuorum, hlocations]
  cases rows with
  | nil =>
      rw [List.head?_nil, decidedRow, hbad, hquorum, Bool.not_false, Bool.and_true, evaluated]
      rfl
  | cons row rest =>
      rw [List.head?_cons, decidedRow, hbad, evaluated]
      simp only [AlertRule.shouldResolve, decide_eq_true_eq]

theorem alone_applyToDatabase (hkind : rule.ruleKind = .status)
    (hlocations : monitor.minFailingLocations.getD 1 = 1) (checks : List MonitorCheck)
    (check : MonitorCheck) (now : Nat) (solo : Solo Nat Alert) (table : Table Nat Alert)
    (hsingle : ∀ first ∈ activeAlerts monitor table, ∀ other ∈ activeAlerts monitor table,
      first.1 = other.1) :
    ((applyToDatabase texts ⟨some rule, checks, checks, checks⟩ monitor check.toCheckResult now).alone
        oneActivePerMonitor solo now ∅ table).table table =
      match evaluated texts rule monitor checks check now (solo.newId table)
        (activeAlerts monitor table) with
      | some (id, row) => (∅ : Table Nat Alert).insert id row ∪ table
      | none => table := by
  have hmetric : rule.metricEval checks = .ok none := by rw [AlertRule.metricEval, if_pos hkind]
  let reads : EvaluationReads := ⟨some rule, checks, checks, checks⟩
  have hrule : reads.rule = some rule := rfl
  rw [alone_decidedRow hrule hmetric _ _ _ _ hsingle, decidedRow_status hlocations]
  rfl

theorem record_committed (hkind : rule.ruleKind = .status)
    (hlocations : monitor.minFailingLocations.getD 1 = 1) (state : Monitored) (probe : Probe)
    (hsingle : ∀ first ∈ activeAlerts monitor state.world.committed,
      ∀ other ∈ activeAlerts monitor state.world.committed, first.1 = other.1) :
    (record texts rule monitor state probe).world.committed =
      match evaluated texts rule monitor (state.checks ++ [probe.check]) probe.check
        (state.world.clock + probe.elapsed) (probe.solo.newId state.world.committed)
        (activeAlerts monitor state.world.committed) with
      | some (id, row) => (∅ : Table Nat Alert).insert id row ∪ state.world.committed
      | none => state.world.committed := by
  unfold record
  rw [serve_committed, alertService, alone_map_table]
  exact alone_applyToDatabase hkind hlocations _ _ _ _ _ hsingle

theorem record_atMostOneActive {state : Monitored} {probe : Probe}
    (h : AtMostOneActive state.world.committed) :
    AtMostOneActive (record texts rule monitor state probe).world.committed := by
  have hticked : AtMostOneActive (state.world.tick probe.elapsed).committed := h
  exact hticked.serve probe.solo _

theorem Monitored.start_atMostOneActive (clock : Nat) :
    AtMostOneActive (Monitored.start clock).world.committed := by
  intro id alert other otherAlert h
  simp [Monitored.start, World.start] at h

end Step

section Episodes

variable {rule : AlertRule} {monitor : EvaluatedMonitor} {holds : Nat → Prop}
  {checks : List MonitorCheck} {check : MonitorCheck} {table after : Table Nat Alert}
  {openedBy : Nat → Nat}

-- The invariant: the rows of the table are the episodes of `holds` so far.
structure Tracks (rule : AlertRule) (monitor : EvaluatedMonitor) (holds : Nat → Prop)
    (checks : List MonitorCheck) (table : Table Nat Alert) (openedBy : Nat → Nat) : Prop where
  opened : Set.BijOn openedBy {id | id ∈ table} {first | Opening holds checks.length first}
  ofMonitor : ∀ id alert, table.lookup id = some alert → alert.monitorId = monitor.id
  counted : ∀ id alert last, table.lookup id = some alert →
    Episode holds checks.length (openedBy id) last →
    alert.repeatCount = badChecks rule checks (openedBy id) last ∧
      (alert.isActive = true ↔ last = checks.length)

theorem Tracks.congr {other : Nat → Prop} (h : Tracks rule monitor holds checks table openedBy)
    (hsame : ∀ k ≤ checks.length, holds k ↔ other k) :
    Tracks rule monitor other checks table openedBy where
  opened := by
    have hset : {first | Opening other checks.length first} = {first | Opening holds checks.length first} :=
      Set.ext fun first => ⟨Opening.congr fun k hk => (hsame k hk).symm, Opening.congr hsame⟩
    rw [hset]
    exact h.opened
  ofMonitor := h.ofMonitor
  counted id alert last hl he := h.counted id alert last hl (he.congr fun k hk => (hsame k hk).symm)

theorem Tracks.opening (h : Tracks rule monitor holds checks table openedBy) {id : Nat} {alert : Alert}
    (hl : table.lookup id = some alert) : Opening holds checks.length (openedBy id) :=
  h.opened.mapsTo (Table.mem_of_lookup hl)

-- An active alert is the episode that is going on.
theorem Tracks.current (h : Tracks rule monitor holds checks table openedBy) {id : Nat} {alert : Alert}
    (hl : table.lookup id = some alert) (hactive : alert.isActive = true) :
    Episode holds checks.length (openedBy id) checks.length := by
  obtain ⟨last, he⟩ := (h.opening hl).exists_episode
  exact (h.counted id alert last hl he).2.mp hactive ▸ he

theorem Tracks.single (h : Tracks rule monitor holds checks table openedBy) {id other : Nat}
    {alert otherAlert : Alert} (hl : table.lookup id = some alert)
    (ho : table.lookup other = some otherAlert) (hactive : alert.isActive = true)
    (hactiveOther : otherAlert.isActive = true) : id = other :=
  h.opened.injOn (Table.mem_of_lookup hl) (Table.mem_of_lookup ho)
    ((h.current hl hactive).first_eq (h.current ho hactiveOther))

theorem Tracks.exists_active (h : Tracks rule monitor holds checks table openedBy) (hzero : ¬ holds 0) :
    (∃ id alert, table.lookup id = some alert ∧ alert.isActive = true) ↔ holds checks.length := by
  constructor
  · rintro ⟨id, alert, hl, hactive⟩
    have he := h.current hl hactive
    exact he.during _ he.ordered (Nat.le_refl _)
  · intro hholds
    obtain ⟨first, he⟩ := exists_current hzero hholds
    obtain ⟨id, hid, rfl⟩ := h.opened.surjOn he.opening
    obtain ⟨alert, hl⟩ := Option.isSome_iff_exists.mp (AList.lookup_isSome.mpr hid)
    exact ⟨id, alert, hl, (h.counted id alert _ hl he).2.mpr rfl⟩

-- While an episode is going on, the evaluator rewrites its row: it counts a bad
-- check, and resolves the alert when the episode ends.
theorem Tracks.rewrite (h : Tracks rule monitor holds checks table openedBy) {id : Nat}
    {alert row : Alert} (hl : table.lookup id = some alert) (hactive : alert.isActive = true)
    (hafter : ∀ other, after.lookup other = if other = id then some row else table.lookup other)
    (hmonitor : row.monitorId = alert.monitorId)
    (hgoes : holds (checks.length + 1) → row.isActive = true ∧
      row.repeatCount = alert.repeatCount + if rule.holdsOf check.toCheckResult then 1 else 0)
    (hends : ¬ holds (checks.length + 1) → row.isActive = false ∧ row.repeatCount = alert.repeatCount) :
    Tracks rule monitor holds (checks ++ [check]) after openedBy := by
  have hlength : (checks ++ [check]).length = checks.length + 1 := by simp
  have hcurrent := h.current hl hactive
  have hholds := hcurrent.during _ hcurrent.ordered (Nat.le_refl _)
  refine ⟨?_, fun other found ho => ?_, fun other found last ho he => ?_⟩
  · have hids : {other | other ∈ after} = {other | other ∈ table} := by
      ext other
      simp only [Set.mem_ofPred_eq, ← AList.lookup_isSome, hafter]
      split
      · rename_i heq
        rw [heq, hl]
        exact Iff.rfl
      · rfl
    have hopenings : {first | Opening holds (checks ++ [check]).length first} =
        {first | Opening holds checks.length first} := by
      ext first
      simp only [Set.mem_ofPred_eq, hlength, opening_succ]
      exact ⟨fun ho => ho.resolve_right fun hnew => hnew.2.2 hholds, .inl⟩
    rw [hids, hopenings]
    exact h.opened
  · rw [hafter] at ho
    split at ho
    · obtain rfl := Option.some.inj ho
      exact hmonitor.trans (h.ofMonitor id alert hl)
    · exact h.ofMonitor other found ho
  · rw [hlength] at he ⊢
    rw [hafter] at ho
    have hopening : openedBy other ≤ checks.length := by
      split at ho
      · rename_i heq
        exact heq ▸ (h.opening hl).within
      · exact (h.opening ho).within
    split at ho
    · rename_i heq
      obtain rfl := Option.some.inj ho
      subst heq
      rcases he.of_succ with hold | ⟨rfl, hnext, -⟩
      · -- the episode of this row ended with this very check
        obtain ⟨hcount, hlast⟩ := h.counted other alert last hl hold
        obtain rfl := hlast.mp hactive
        have hstop : ¬ holds (checks.length + 1) := he.ended.resolve_left (by omega)
        rw [badChecks_append (Nat.le_refl _), ← hcount, (hends hstop).1, (hends hstop).2]
        simp
      · rw [badChecks_last hopening, ← (h.counted other alert _ hl hcurrent).1]
        exact ⟨(hgoes hnext).2, by simp [(hgoes hnext).1]⟩
    · rename_i hne
      have hinactive : found.isActive = false := by
        refine Bool.eq_false_iff.mpr fun hfound => hne (h.single ho hl hfound hactive)
      rcases he.of_succ with hold | ⟨rfl, -, hnew | hold⟩
      · have hwithin := hold.within
        rw [badChecks_append hwithin, hinactive]
        exact ⟨(h.counted other found last ho hold).1, by simp; omega⟩
      · omega
      · have hfound := (h.counted other found _ ho hold).2.mpr rfl
        simp [hinactive] at hfound

-- A check that is not bad leaves the row of the episode as it is.
theorem Tracks.keep (h : Tracks rule monitor holds checks table openedBy) {id : Nat}
    {alert : Alert} (hl : table.lookup id = some alert) (hactive : alert.isActive = true)
    (hbad : rule.holdsOf check.toCheckResult = false) (hnext : holds (checks.length + 1)) :
    Tracks rule monitor holds (checks ++ [check]) table openedBy := by
  refine h.rewrite hl hactive (fun other => ?_) rfl (fun _ => ⟨hactive, by simp [hbad]⟩) (absurd hnext)
  split
  · rename_i heq
    rw [heq, hl]
  · rfl

theorem Tracks.begin (h : Tracks rule monitor holds checks table openedBy)
    (hbefore : ¬ holds checks.length) (hnext : holds (checks.length + 1)) {id : Nat} {row : Alert}
    (hid : id ∉ table)
    (hafter : ∀ other, after.lookup other = if other = id then some row else table.lookup other)
    (hmonitor : row.monitorId = monitor.id) (hactive : row.isActive = true)
    (hcount : row.repeatCount = 0) :
    Tracks rule monitor holds (checks ++ [check]) after
      (Function.update openedBy id (checks.length + 1)) := by
  have hlength : (checks ++ [check]).length = checks.length + 1 := by simp
  have hother : ∀ other found, other ≠ id → after.lookup other = some found →
      table.lookup other = some found ∧
        Function.update openedBy id (checks.length + 1) other = openedBy other := by
    intro other found hne ho
    rw [hafter, if_neg hne] at ho
    exact ⟨ho, Function.update_of_ne hne _ _⟩
  refine ⟨?_, fun other found ho => ?_, fun other found last ho he => ?_⟩
  · have hids : {other | other ∈ after} = insert id {other | other ∈ table} := by
      ext other
      simp only [Set.mem_insert_iff, Set.mem_ofPred_eq, ← AList.lookup_isSome, hafter]
      split
      · rename_i heq
        simp [heq]
      · rename_i hne
        simp [hne]
    have hopenings : {first | Opening holds (checks ++ [check]).length first} =
        insert (checks.length + 1) {first | Opening holds checks.length first} := by
      ext first
      simp only [Set.mem_insert_iff, Set.mem_ofPred_eq, hlength, opening_succ]
      constructor
      · rintro (ho | ⟨rfl, -, -⟩)
        · exact .inr ho
        · exact .inl rfl
      · rintro (rfl | ho)
        · exact .inr ⟨rfl, hnext, hbefore⟩
        · exact .inl ho
    have hsame : Set.BijOn (Function.update openedBy id (checks.length + 1)) {other | other ∈ table}
        {first | Opening holds checks.length first} := by
      refine h.opened.congr fun other ho => ?_
      have hne : other ≠ id := by
        rintro rfl
        exact hid ho
      exact (Function.update_of_ne hne _ _).symm
    have hnew : Function.update openedBy id (checks.length + 1) id = checks.length + 1 :=
      Function.update_self ..
    have hnotOpen : Function.update openedBy id (checks.length + 1) id ∉
        {first | Opening holds checks.length first} := by
      rw [hnew]
      intro hold
      exact absurd hold.within (by omega)
    have hinsert := hsame.insert hnotOpen
    rw [hnew] at hinsert
    rw [hids, hopenings]
    exact hinsert
  · by_cases heq : other = id
    · rw [hafter, if_pos heq] at ho
      obtain rfl := Option.some.inj ho
      exact hmonitor
    · exact h.ofMonitor other found (hother other found heq ho).1
  · rw [hlength] at he ⊢
    by_cases heq : other = id
    · subst heq
      rw [hafter, if_pos rfl] at ho
      obtain rfl := Option.some.inj ho
      rw [Function.update_self] at he ⊢
      obtain rfl := Nat.le_antisymm he.within he.ordered
      rw [badChecks, ← hlength, List.take_length, List.drop_length]
      exact ⟨hcount, by simp [hactive]⟩
    · obtain ⟨ho, hfirst⟩ := hother other found heq ho
      rw [hfirst] at he ⊢
      rcases he.of_succ with hold | ⟨rfl, -, hnew | hold⟩
      · obtain ⟨hsame, hlast⟩ := h.counted other found last ho hold
        have hwithin := hold.within
        rw [badChecks_append hwithin]
        refine ⟨hsame, hlast.trans ⟨fun hl => ?_, fun hl => by omega⟩⟩
        exact absurd (hl ▸ hold.during last hold.ordered (Nat.le_refl _)) hbefore
      · have hwithin := (h.opening ho).within
        omega
      · exact absurd (hold.during _ hold.ordered (Nat.le_refl _)) hbefore

theorem Tracks.idle (h : Tracks rule monitor holds checks table openedBy)
    (hbefore : ¬ holds checks.length) (hnext : ¬ holds (checks.length + 1)) :
    Tracks rule monitor holds (checks ++ [check]) table openedBy := by
  have hlength : (checks ++ [check]).length = checks.length + 1 := by simp
  refine ⟨?_, h.ofMonitor, fun other found last ho he => ?_⟩
  · have hopenings : {first | Opening holds (checks ++ [check]).length first} =
        {first | Opening holds checks.length first} := by
      ext first
      simp only [Set.mem_ofPred_eq, hlength, opening_succ]
      exact ⟨fun ho => ho.resolve_right fun hnew => hnext hnew.2.1, .inl⟩
    rw [hopenings]
    exact h.opened
  · rw [hlength] at he ⊢
    rcases he.of_succ with hold | ⟨rfl, hnow, -⟩
    · obtain ⟨hsame, hlast⟩ := h.counted other found last ho hold
      have hwithin := hold.within
      rw [badChecks_append hwithin]
      refine ⟨hsame, hlast.trans ⟨fun hl => ?_, fun hl => by omega⟩⟩
      exact absurd (hl ▸ hold.during last hold.ordered (Nat.le_refl _)) hbefore
    · exact absurd hnow hnext

end Episodes

section Refinement

variable {texts : ReasonTexts} {rule : AlertRule} {monitor : EvaluatedMonitor}

def Debounces (rule : AlertRule) (monitor : EvaluatedMonitor) (state : Monitored) : Prop :=
  ∃ openedBy, Tracks rule monitor
    (AlertingAfter rule monitor.consecutiveFailuresToAlert state.checks) state.checks
    state.world.committed openedBy

theorem alertingAfter_length (rule : AlertRule) (consecutive : Nat) (checks : List MonitorCheck) :
    AlertingAfter rule consecutive checks checks.length ↔ Alerting rule consecutive checks := by
  rw [AlertingAfter, List.take_length]

theorem not_alertingAfter_zero {consecutive : Nat} (hpos : 1 ≤ consecutive)
    (checks : List MonitorCheck) : ¬ AlertingAfter rule consecutive checks 0 := by
  rw [AlertingAfter, List.take_zero]
  exact not_alerting_nil hpos

theorem Debounces.record (hkind : rule.ruleKind = .status) (hup : "up" ∉ rule.statuses)
    (hpos : 1 ≤ monitor.consecutiveFailuresToAlert)
    (hlocations : monitor.minFailingLocations.getD 1 = 1) {state : Monitored}
    (h : Debounces rule monitor state) (probe : Probe)
    (hsorted : (state.checks ++ [probe.check]).Pairwise fun a b => a.checkedAt < b.checkedAt) :
    Debounces rule monitor (record texts rule monitor state probe) := by
  obtain ⟨openedBy, htracks⟩ := h
  -- the specification of the longer history, and what it says of the shorter one
  have h : Tracks rule monitor (AlertingAfter rule monitor.consecutiveFailuresToAlert
      (state.checks ++ [probe.check])) state.checks state.world.committed openedBy :=
    htracks.congr fun k hk => alertingAfter_append hk
  have hnow : AlertingAfter rule monitor.consecutiveFailuresToAlert (state.checks ++ [probe.check])
      state.checks.length ↔ Alerting rule monitor.consecutiveFailuresToAlert state.checks := by
    rw [← alertingAfter_append (Nat.le_refl _), alertingAfter_length]
  have hnext : AlertingAfter rule monitor.consecutiveFailuresToAlert (state.checks ++ [probe.check])
      (state.checks.length + 1) ↔ probe.check.status ≠ .up ∧
        (Alerting rule monitor.consecutiveFailuresToAlert state.checks ∨
          WindowBad rule monitor.consecutiveFailuresToAlert (state.checks ++ [probe.check])) := by
    have hlength : state.checks.length + 1 = (state.checks ++ [probe.check]).length := by simp
    rw [hlength, alertingAfter_length, alerting_append hpos hup]
  have hbadStatus : rule.holdsOf probe.check.toCheckResult = true → probe.check.status ≠ .up := by
    intro hbad hstatus
    exact hup (by simpa [AlertRule.holdsOf, hstatus, CheckStatus.text] using hbad)
  have hsingle : ∀ first ∈ activeAlerts monitor state.world.committed,
      ∀ other ∈ activeAlerts monitor state.world.committed, first.1 = other.1 := by
    intro first hf other ho
    obtain ⟨hf, -, hfActive⟩ := mem_activeAlerts.mp hf
    obtain ⟨ho, -, hoActive⟩ := mem_activeAlerts.mp ho
    exact h.single hf ho hfActive hoActive
  have hcommitted : (Monitoring.record texts rule monitor state probe).world.committed = _ :=
    record_committed hkind hlocations state probe hsingle
  unfold Debounces
  rw [hcommitted]
  rcases activeAlerts_single hsingle with hactive | ⟨⟨id, alert⟩, hactive⟩
  · rw [hactive, evaluated]
    have hbefore : ¬ AlertingAfter rule monitor.consecutiveFailuresToAlert
        (state.checks ++ [probe.check]) state.checks.length := by
      rw [← h.exists_active (not_alertingAfter_zero hpos _)]
      rintro ⟨id, alert, hl, hisActive⟩
      have hmem : (id, alert) ∈ activeAlerts monitor state.world.committed :=
        mem_activeAlerts.mpr ⟨hl, h.ofMonitor id alert hl, hisActive⟩
      simp [hactive] at hmem
    by_cases hreached : (rule.holdsOf probe.check.toCheckResult &&
        rule.thresholdReached monitor (state.checks ++ [probe.check]) none) = true
    · rw [if_pos hreached]
      rw [Bool.and_eq_true, thresholdReached_iff hsorted] at hreached
      exact ⟨_, h.begin hbefore (hnext.mpr ⟨hbadStatus hreached.1, .inr hreached.2⟩)
        (probe.solo.fresh _) (Table.lookup_insert_union _ _ · _) rfl rfl rfl⟩
    · rw [if_neg hreached]
      rw [Bool.and_eq_true, thresholdReached_iff hsorted] at hreached
      refine ⟨_, h.idle hbefore fun hafter => ?_⟩
      rcases (hnext.mp hafter).2 with hold | hwindow
      · exact hbefore (hnow.mpr hold)
      · exact hreached ⟨hwindow.last_bad hpos, hwindow⟩
  · have hrow : (id, alert) ∈ activeAlerts monitor state.world.committed := by simp [hactive]
    obtain ⟨hl, -, hisActive⟩ := mem_activeAlerts.mp hrow
    have hcurrent := h.current hl hisActive
    have hholds := hnow.mp (hcurrent.during _ hcurrent.ordered (Nat.le_refl _))
    rw [hactive, evaluated]
    by_cases hbad : rule.holdsOf probe.check.toCheckResult = true
    · rw [if_pos hbad]
      refine ⟨_, h.rewrite hl hisActive (Table.lookup_insert_union _ _ · _) rfl (fun _ => ⟨hisActive, ?_⟩)
        fun hstop => absurd (hnext.mpr ⟨hbadStatus hbad, .inl hholds⟩) hstop⟩
      simp [hbad]
    · rw [if_neg hbad]
      by_cases hstatus : probe.check.status = .up
      · rw [if_pos hstatus]
        exact ⟨_, h.rewrite hl hisActive (Table.lookup_insert_union _ _ · _) rfl
          (fun hgoes => absurd hstatus (hnext.mp hgoes).1) fun _ => ⟨rfl, rfl⟩⟩
      · rw [if_neg hstatus]
        exact ⟨_, h.keep hl hisActive (Bool.eq_false_iff.mpr hbad) (hnext.mpr ⟨hstatus, .inl hholds⟩)⟩

theorem Debounces.debounced (hpos : 1 ≤ monitor.consecutiveFailuresToAlert) {state : Monitored}
    (h : Debounces rule monitor state) : Debounced rule monitor state := by
  obtain ⟨openedBy, h⟩ := h
  refine ⟨?_, fun _ _ _ _ hl ho => h.single hl ho, openedBy, ?_, h.counted⟩
  · rw [← alertingAfter_length, ← h.exists_active (not_alertingAfter_zero hpos _)]
    constructor
    · rintro ⟨id, alert, hl, -, hactive⟩
      exact ⟨id, alert, hl, hactive⟩
    · rintro ⟨id, alert, hl, hactive⟩
      exact ⟨id, alert, hl, h.ofMonitor id alert hl, hactive⟩
  · have hset : ∀ holds steps, {first | ∃ last, Episode holds steps first last} =
        {first | Opening holds steps first} := by
      intro holds steps
      ext first
      exact ⟨fun ⟨_, he⟩ => he.opening, fun ho => ho.exists_episode⟩
    rw [hset]
    exact h.opened

-- After every step the alerts table shows what the specification says of the
-- history so far.
theorem debounce_refines (texts : ReasonTexts) (rule : AlertRule) (monitor : EvaluatedMonitor)
    (hkind : rule.ruleKind = .status) (hup : "up" ∉ rule.statuses)
    (hpos : 1 ≤ monitor.consecutiveFailuresToAlert)
    (hlocations : monitor.minFailingLocations.getD 1 = 1) (clock : Nat) (probes : List Probe)
    (hsorted : (probes.map Probe.check).Pairwise fun a b => a.checkedAt < b.checkedAt) :
    Runs.Always (record texts rule monitor) (Debounced rule monitor) (Monitored.start clock) probes := by
  have hrun : ∀ probes : List Probe,
      (probes.map Probe.check).Pairwise (fun a b => a.checkedAt < b.checkedAt) →
      (Runs.run (record texts rule monitor) (Monitored.start clock) probes).checks =
        probes.map Probe.check ∧
      Debounces rule monitor (Runs.run (record texts rule monitor) (Monitored.start clock) probes) := by
    intro probes
    induction probes using List.reverseRecOn with
    | nil =>
        have hempty : ∀ id alert, (∅ : Table Nat Alert).lookup id ≠ some alert := by simp
        refine fun _ => ⟨rfl, id, ?_, fun id alert hl => absurd hl (hempty id alert),
          fun id alert _ hl => absurd hl (hempty id alert)⟩
        have hopenings : {first | Opening (AlertingAfter rule monitor.consecutiveFailuresToAlert [])
            0 first} = ∅ := by
          ext first
          exact ⟨fun ho => absurd (Nat.le_trans ho.started ho.within) (by omega), False.elim⟩
        simp [Monitored.start, World.start, hopenings]
    | append_singleton probes probe ih =>
        intro hsorted
        rw [List.map_append] at hsorted
        obtain ⟨hchecks, htracks⟩ := ih (List.pairwise_append.mp hsorted).1
        rw [Runs.run_append]
        refine ⟨?_, htracks.record hkind hup hpos hlocations probe ?_⟩
        · simp [record, hchecks]
        · simpa [hchecks] using hsorted
  refine Runs.always_iff_reached.mpr fun first second he => (hrun first ?_).2.debounced hpos
  rw [he, List.map_append] at hsorted
  exact (List.pairwise_append.mp hsorted).1

-- Two failures in a row open an alert, a third and one after a slow answer are
-- counted, and the next success resolves it.
def exampleProbes : List Probe :=
  [(.down, 1), (.down, 2), (.critical, 3), (.trouble, 4), (.down, 5), (.up, 6), (.down, 7)].map
    fun (status, checkedAt) =>
      { check :=
          { status := status
            responseTimeMs := none
            rawOutput := []
            location := "eu"
            checkedAt := checkedAt }
        elapsed := 60000
        solo := .counting Alert }

def exampleRule : AlertRule where
  id := 4
  ruleKind := .status
  statusIn := none
  severity := .warning
  metric := none
  comparator := none
  threshold := none
  forConsecutive := 1
  anomalySensitivity := none

def exampleMonitor : EvaluatedMonitor := ⟨3, "api", 2, some 1⟩

theorem exampleProbes_debounced :
    Runs.Always (record plainTexts exampleRule exampleMonitor) (Debounced exampleRule exampleMonitor)
      (Monitored.start 0) exampleProbes :=
  debounce_refines plainTexts exampleRule exampleMonitor rfl (by decide) (by decide) rfl 0 exampleProbes
    (by decide)

end Refinement

end CloudOps.Monitoring
