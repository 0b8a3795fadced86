import CloudOps.Monitoring.Checks
import CloudOps.Monitoring.Debounce

namespace CloudOps.Monitoring

open CloudOps.ReadCommitted

-- A row of agent_tokens, of the monitor's resource.
structure AgentToken where
  id : Nat
  isEnabled : Bool
  lastSeenAt : Option Nat

-- The server_agent monitor of the resource, as the two services select it: neither
-- reads min_failing_locations.
structure ServerAgent where
  id : Nat
  name : String
  config : AgentReportThresholds
  intervalSeconds : Nat
  consecutiveFailuresToAlert : Nat
  probeLocation : String

def ServerAgent.monitor (agent : ServerAgent) : EvaluatedMonitor where
  id := agent.id
  name := agent.name
  consecutiveFailuresToAlert := agent.consecutiveFailuresToAlert
  minFailingLocations := none

-- Where the scheduler's SELECT left it undefined it says 1.
def ServerAgent.due (agent : ServerAgent) : EvaluatedMonitor :=
  { agent.monitor with minFailingLocations := some 1 }

structure AgentState where
  tokens : List AgentToken
  checks : List MonitorCheck
  world : AlertWorld

inductive AgentEvent where
  | heartbeat (agentTokenId : Nat)
  | report (agentTokenId : Nat) (dto : AgentReport) (solo : Solo Nat Alert)
  | sweepStaleAgents (solo : Solo Nat Alert)
  | tick (elapsed : Nat)

-- UPDATE agent_tokens SET last_seen_at = now() WHERE id = $1
def heartbeat (agentTokenId : Nat) (state : AgentState) : AgentState :=
  { state with
    tokens := state.tokens.map fun token =>
      if token.id = agentTokenId then { token with lastSeenAt := some state.world.clock } else token }

section Services

variable (texts : ReasonTexts) (rule : AlertRule) (agent : ServerAgent)

-- AgentIngestionService.report; the column default is the location.
def report (agentTokenId : Nat) (dto : AgentReport) (solo : Solo Nat Alert) (state : AgentState) :
    AgentState :=
  let state := heartbeat agentTokenId state
  let result := evaluateAgentReport agent.config dto
  let checks := state.checks ++
    [{ result with location := "default", checkedAt := state.world.clock }]
  { state with
    checks := checks
    world := state.world.serve (alertService texts) solo
      (.evaluate (readsOf rule checks) agent.monitor result) }

-- How many missed intervals before a server_agent monitor is considered stale.
def STALENESS_MULTIPLIER : Nat := 3

-- No check within the last interval.
def isDue (state : AgentState) : Bool :=
  match (latestFirst state.checks).head? with
  | none => true
  | some check => decide (check.checkedAt + agent.intervalSeconds * 1000 < state.world.clock)

-- LEFT JOIN agent_tokens ... AND is_enabled = true: one row without a token where
-- there is none.
def lastSeen (state : AgentState) : List (Option Nat) :=
  match state.tokens.filter AgentToken.isEnabled with
  | [] => [none]
  | token :: rest => (token :: rest).map AgentToken.lastSeenAt

-- The results of a pass: none where the monitor is not due, else one for each of
-- the joined rows.
def stalenessResults (state : AgentState) : List CheckResult :=
  if isDue agent state then
    (lastSeen state).map fun lastSeenAt =>
      checkAgentStaleness lastSeenAt (agent.intervalSeconds * STALENESS_MULTIPLIER) state.world.clock
  else []

-- The evaluations of one pass, each on the alerts table the one before left.
def evaluateEach (checks : List MonitorCheck) (monitor : EvaluatedMonitor) (solo : Solo Nat Alert)
    (results : List CheckResult) (world : AlertWorld) : AlertWorld :=
  results.foldl (fun world result =>
    world.serve (alertService texts) solo (.evaluate (readsOf rule checks) monitor result)) world

-- All checks are recorded in one transaction, then each is evaluated.
def recordAndEvaluate (results : List CheckResult) (solo : Solo Nat Alert) (state : AgentState) :
    AgentState :=
  let checks := state.checks ++ results.map fun result =>
    { result with location := agent.probeLocation, checkedAt := state.world.clock }
  { state with
    checks := checks
    world := evaluateEach texts rule checks agent.due solo results state.world }

def sweepStaleAgents (solo : Solo Nat Alert) (state : AgentState) : AgentState :=
  recordAndEvaluate texts rule agent (stalenessResults agent state) solo state

def agentStep (state : AgentState) : AgentEvent → AgentState
  | .heartbeat agentTokenId => heartbeat agentTokenId state
  | .report agentTokenId dto solo => report texts rule agent agentTokenId dto solo state
  | .sweepStaleAgents solo => sweepStaleAgents texts rule agent solo state
  | .tick elapsed => { state with world := state.world.tick elapsed }

-- A report whose metrics come out as this status.
def ReportsStatus (status : CheckStatus) : AgentEvent → Prop
  | .report _ dto _ => (evaluateAgentReport agent.config dto).status = status
  | .heartbeat _ | .sweepStaleAgents _ | .tick _ => False

-- A pass that is due and finds that the agent has been heard from recently, where
-- the rule does not itself count 'up' as bad.
def RecoversByHearsay (state : AgentState) : AgentEvent → Prop
  | .sweepStaleAgents _ => isDue agent state = true ∧ "up" ∉ rule.statuses ∧
      ∃ seen, some seen ∈ lastSeen state ∧
        state.world.clock ≤ seen + agent.intervalSeconds * STALENESS_MULTIPLIER * 1000
  | .heartbeat _ | .report .. | .tick _ => False

-- The alert was opened by the evaluation of a critical report, and is still active
-- when the event comes.
structure OpenOnReport (start : AgentState) (first : List AgentEvent) (opening : AgentEvent)
    (middle : List AgentEvent) (id : Nat) : Prop where
  fresh : ¬ IsActiveAlert agent.monitor (Runs.run (agentStep texts rule agent) start first).world.committed id
  opened : IsActiveAlert agent.monitor
    (Runs.run (agentStep texts rule agent) start (first ++ [opening])).world.committed id
  critical : ReportsStatus agent .critical opening
  active : IsActiveAlert agent.monitor
    (Runs.run (agentStep texts rule agent) start (first ++ opening :: middle)).world.committed id

-- Only a report that comes out as 'up' ends an alert a critical report has opened.
def ClearedByServer (start : AgentState) (events : List AgentEvent) : Prop :=
  ∀ first opening middle closing rest id,
    events = first ++ opening :: (middle ++ closing :: rest) →
    OpenOnReport texts rule agent start first opening middle id →
    ¬ IsActiveAlert agent.monitor
      (Runs.run (agentStep texts rule agent) start (first ++ opening :: (middle ++ [closing]))).world.committed
      id →
    ReportsStatus agent .up closing

-- No pass recovers the monitor by hearsay while such an alert is active.
def NoHearsay (start : AgentState) (events : List AgentEvent) : Prop :=
  ∀ first opening middle closing rest id,
    events = first ++ opening :: (middle ++ closing :: rest) →
    OpenOnReport texts rule agent start first opening middle id →
    ¬ RecoversByHearsay rule agent
      (Runs.run (agentStep texts rule agent) start (first ++ opening :: middle)) closing

end Services

section Step

variable {texts : ReasonTexts} {rule : AlertRule} {agent : ServerAgent}

theorem mem_serve {world : AlertWorld} {id : Nat} (hid : id ∈ world.committed) (solo : Solo Nat Alert)
    (call : AlertCall) : id ∈ (world.serve (alertService texts) solo call).committed := by
  rw [serve_committed]
  exact Outcome.mem_table hid _

theorem evaluateEach_atMostOneActive (checks : List MonitorCheck) (monitor : EvaluatedMonitor)
    (solo : Solo Nat Alert) (results : List CheckResult) :
    ∀ world : AlertWorld, AtMostOneActive world.committed →
      AtMostOneActive (evaluateEach texts rule checks monitor solo results world).committed := by
  induction results with
  | nil => exact fun world h => h
  | cons result rest ih => exact fun world h => ih _ (h.serve solo _)

-- An alert outlasts the evaluations of a pass if none of them is of an 'up'.
theorem evaluateEach_isActive (texts : ReasonTexts) (hkind : rule.ruleKind = .status)
    (checks : List MonitorCheck) (monitor : EvaluatedMonitor) (solo : Solo Nat Alert)
    (results : List CheckResult) {id : Nat} :
    ∀ world : AlertWorld, AtMostOneActive world.committed → id ∈ world.committed →
      (IsActiveAlert monitor (evaluateEach texts rule checks monitor solo results world).committed id ↔
        IsActiveAlert monitor world.committed id ∧
          ∀ result ∈ results, ¬ (rule.holdsOf result = false ∧ result.status = .up)) := by
  induction results with
  | nil => exact fun world h hid => by simp [evaluateEach]
  | cons result rest ih =>
      intro world h hid
      have hrule : (readsOf rule checks).rule = some rule := rfl
      have hmetric : rule.metricEval checks = .ok none := by rw [AlertRule.metricEval, if_pos hkind]
      let next := world.serve (alertService texts) solo (.evaluate (readsOf rule checks) monitor result)
      have hserve : IsActiveAlert monitor next.committed id ↔ _ :=
        isActiveAlert_serve hrule hmetric result solo h hid
      refine (ih next (h.serve solo _) (mem_serve hid solo _)).trans ?_
      rw [hserve]
      simp [AlertRule.isBad, AlertRule.shouldResolve, and_assoc]

theorem holdsOf_up {result : CheckResult} :
    rule.holdsOf result = false ∧ result.status = .up ↔ result.status = .up ∧ "up" ∉ rule.statuses := by
  rw [and_comm]
  refine and_congr_right fun hup => ?_
  rw [AlertRule.holdsOf, hup]
  simp [CheckStatus.text]

-- What one event does to an alert that is there.
structure AgentStepped (rule : AlertRule) (agent : ServerAgent) (before after : AgentState)
    (event : AgentEvent) : Prop where
  single : AtMostOneActive after.world.committed
  stays : ∀ id ∈ before.world.committed,
    (IsActiveAlert agent.monitor after.world.committed id ↔
      IsActiveAlert agent.monitor before.world.committed id ∧
        ¬ (ReportsStatus agent .up event ∧ "up" ∉ rule.statuses ∨ RecoversByHearsay rule agent before event))

-- A pass records an 'up' exactly if it is due and some token was seen recently.
theorem stalenessResults_up (agent : ServerAgent) (state : AgentState) :
    (∃ result ∈ stalenessResults agent state, result.status = .up) ↔
      isDue agent state = true ∧ ∃ seen, some seen ∈ lastSeen state ∧
        state.world.clock ≤ seen + agent.intervalSeconds * STALENESS_MULTIPLIER * 1000 := by
  unfold stalenessResults
  split
  · rename_i hdue
    rw [and_iff_right hdue]
    constructor
    · rintro ⟨result, hmem, hup⟩
      obtain ⟨lastSeenAt, hlast, rfl⟩ := List.mem_map.mp hmem
      obtain ⟨seen, rfl, hrecent⟩ := checkAgentStaleness_up.mp hup
      exact ⟨seen, hlast, hrecent⟩
    · rintro ⟨seen, hmem, hrecent⟩
      exact ⟨_, List.mem_map_of_mem hmem, checkAgentStaleness_up.mpr ⟨seen, rfl, hrecent⟩⟩
  · rename_i hdue
    simp [hdue]

theorem agentStep_stepped (hkind : rule.ruleKind = .status) {state : AgentState}
    (h : AtMostOneActive state.world.committed) (event : AgentEvent) :
    AgentStepped rule agent state (agentStep texts rule agent state event) event := by
  cases event with
  | heartbeat agentTokenId =>
      exact ⟨h, fun id _ => by simp [agentStep, heartbeat, ReportsStatus, RecoversByHearsay]⟩
  | tick elapsed => exact ⟨h, fun id _ => by simp [agentStep, World.tick, ReportsStatus, RecoversByHearsay]⟩
  | report agentTokenId dto solo =>
      refine ⟨AtMostOneActive.serve h solo _, fun id hid => ?_⟩
      have hiff := evaluateEach_isActive texts hkind
        (report texts rule agent agentTokenId dto solo state).checks agent.monitor solo
        [evaluateAgentReport agent.config dto] state.world h hid
      refine hiff.trans (and_congr_right fun _ => ?_)
      simp only [List.mem_singleton, forall_eq, holdsOf_up, ReportsStatus, RecoversByHearsay, or_false]
  | sweepStaleAgents solo =>
      refine ⟨evaluateEach_atMostOneActive _ _ _ _ _ h, fun id hid => ?_⟩
      have hiff := evaluateEach_isActive texts hkind
        (sweepStaleAgents texts rule agent solo state).checks agent.due solo
        (stalenessResults agent state) state.world h hid
      refine hiff.trans (and_congr_right fun _ => ?_)
      have hup := stalenessResults_up agent state
      simp only [holdsOf_up, ReportsStatus, RecoversByHearsay, false_and, false_or]
      rw [and_left_comm, ← hup]
      constructor
      · rintro hnone ⟨hrule, result, hmem, hstatus⟩
        exact hnone result hmem ⟨hstatus, hrule⟩
      · rintro hnone result hmem ⟨hstatus, hrule⟩
        exact hnone ⟨hrule, result, hmem, hstatus⟩

end Step

-- A critical alert is cleared by the server alone in exactly the runs in which no
-- pass recovers the monitor from having heard of the agent.
theorem cleared_by_server_iff (texts : ReasonTexts) (rule : AlertRule) (agent : ServerAgent)
    (hkind : rule.ruleKind = .status) (start : AgentState)
    (hactive : AtMostOneActive start.world.committed) (events : List AgentEvent) :
    ClearedByServer texts rule agent start events ↔ NoHearsay texts rule agent start events := by
  have hsingle : ∀ events, AtMostOneActive
      (Runs.run (agentStep texts rule agent) start events).world.committed := fun events =>
    (Runs.always_of_step (fun state : AgentState => AtMostOneActive state.world.committed) hactive
      (fun state event h => (agentStep_stepped hkind h event).single) events).last
  -- the closing event, on the state it finds
  have hclosing : ∀ first opening middle closing id,
      OpenOnReport texts rule agent start first opening middle id →
      (¬ IsActiveAlert agent.monitor (Runs.run (agentStep texts rule agent) start
          (first ++ opening :: (middle ++ [closing]))).world.committed id ↔
        ReportsStatus agent .up closing ∧ "up" ∉ rule.statuses ∨
          RecoversByHearsay rule agent
            (Runs.run (agentStep texts rule agent) start (first ++ opening :: middle)) closing) := by
    intro first opening middle closing id hopen
    obtain ⟨alert, hlookup, -⟩ := hopen.active
    have hlist : first ++ opening :: (middle ++ [closing]) = (first ++ opening :: middle) ++ [closing] := by simp
    rw [hlist, Runs.run_append, Runs.run_cons, Runs.run_nil,
      (agentStep_stepped hkind (hsingle _) closing).stays id (Table.mem_of_lookup hlookup)]
    simp only [hopen.active, true_and, Classical.not_not]
  constructor
  · intro h first opening middle closing rest id he hopen hhearsay
    have hreports := h first opening middle closing rest id he hopen
      ((hclosing first opening middle closing id hopen).mpr (.inr hhearsay))
    cases closing with
    | sweepStaleAgents solo => exact hreports
    | heartbeat | report | tick => exact hhearsay
  · intro h first opening middle closing rest id he hopen hended
    rcases (hclosing first opening middle closing id hopen).mp hended with hreports | hhearsay
    · exact hreports.1
    · exact absurd hhearsay (h first opening middle closing rest id he hopen)

def exampleAgent : ServerAgent where
  id := 3
  name := "web-1"
  config := ⟨none, none, none, none, none, none⟩
  intervalSeconds := 60
  consecutiveFailuresToAlert := 1
  probeLocation := "default"

def quietAgent : AgentState := ⟨[⟨1, true, none⟩], [], World.start ∅ 0⟩

def cpuReport (cpuPercent : Rat) : AgentEvent := .report 1 ⟨some (some cpuPercent), none, none⟩ (.counting Alert)

-- The busy server says so itself, and later that it is not busy any more.
def busyThenIdle : List AgentEvent := [.tick 100000, cpuReport 97, .tick 100000, cpuReport 20]

theorem busyThenIdle_cleared : ClearedByServer plainTexts exampleRule exampleAgent quietAgent busyThenIdle :=
  (cleared_by_server_iff plainTexts exampleRule exampleAgent rfl quietAgent
    (Monitored.start_atMostOneActive 0) busyThenIdle).mpr (by
      intro first opening middle closing rest id he _ hhearsay
      have hmem : closing ∈ busyThenIdle := by
        rw [he]
        simp
      simp only [busyThenIdle, cpuReport, List.mem_cons, List.not_mem_nil, or_false] at hmem
      rcases hmem with rfl | rfl | rfl | rfl <;> exact hhearsay)

-- The agent last reported 100 seconds ago, which is no staleness, but more than the
-- interval since the last check.
def busyThenSwept : List AgentEvent :=
  [.tick 100000, cpuReport 97, .tick 100000, .sweepStaleAgents (.counting Alert)]

theorem hearsay_clears_critical_alert :
    ¬ ClearedByServer plainTexts exampleRule exampleAgent quietAgent busyThenSwept := by
  intro h
  have hcritical : (evaluateAgentReport exampleAgent.config ⟨some (some 97), none, none⟩).status =
      .critical := by decide +kernel
  refine h [.tick 100000] (cpuReport 97) [.tick 100000] (.sweepStaleAgents (.counting Alert)) [] 1 rfl
    { fresh := by decide
      opened := by decide +kernel
      critical := hcritical
      active := by decide +kernel } (by decide +kernel)

end CloudOps.Monitoring
