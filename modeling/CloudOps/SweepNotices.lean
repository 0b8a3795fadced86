import CloudOps.Monitoring.EscalationAttempts
import CloudOps.Ticketing.OverdueAttempts

namespace CloudOps

open CloudOps.MarkThenDispatch CloudOps.Monitoring CloudOps.ReadCommitted CloudOps.Ticketing

section Settled

variable (env : Environment) (texts : ReasonTexts)

theorem overdue_settled (store : TicketStore) :
    (overdueMarking env).Settled (OverdueState.start store) := by
  refine ⟨⟨trivial, fun key hattempted => ?_⟩, fun key hmarked => ?_⟩
  · simp [overdueMarking, Attempted, OverdueState.start] at hattempted
  · obtain ⟨ticket, hlookup, -⟩ := hmarked
    simp [OverdueState.start] at hlookup

theorem escalation_settled : (escalationMarking texts).Settled EscalationState.start := by
  have hcounted : EscalationState.start.Counted := by
    constructor
    · intro id alert hlookup
      simp [EscalationState.start] at hlookup
    · intro advance hadvance
      simp [EscalationState.start] at hadvance
  refine ⟨⟨hcounted, fun key hattempted => ?_⟩, fun key hmarked => ?_⟩
  · obtain ⟨call, hcall, -⟩ := hattempted
    simp [EscalationState.start] at hcall
  · obtain ⟨advance, hadvance, -⟩ := hmarked
    simp [EscalationState.start] at hadvance

-- In both sweeps what is marked is sooner or later attempted, in exactly the runs in
-- which no failure meets anything but the last dispatch of its pass.
theorem no_notice_lost_iff (store : TicketStore) (overdueEvents : List OverdueEvent)
    (escalationEvents : List EscalationEvent) :
    (Runs.Always (OverdueState.step env) (overdueMarking env).NothingLost (.start store) overdueEvents ↔
      Runs.AllSteps (OverdueState.step env) (overdueMarking env).FailsLast (.start store)
        overdueEvents) ∧
    (Runs.Always (EscalationState.step texts) (escalationMarking texts).NothingLost .start
        escalationEvents ↔
      Runs.AllSteps (EscalationState.step texts) (escalationMarking texts).FailsLast .start
        escalationEvents) :=
  ⟨(overdueMarking env).nothingLost_iff overdueEvents (overdue_settled env store),
    (escalationMarking texts).nothingLost_iff escalationEvents (escalation_settled texts)⟩

end Settled

-- The bus fails once, on the first event of the pass.
def firstPublishFails : DispatchOutcomes where
  publishFails key := key == (7, .firstResponse)
  agentEmail _ := none
  enqueueFails _ := false

-- Two urgent tickets, and a pass after both should have been answered.
def twoOverdue : List OverdueEvent :=
  [.request (.create urgentTicket ⟨9, 6⟩ 0), .request (.create urgentTicket ⟨9, 7⟩ 0),
    .sweep (.counting _) firstPublishFails 90000]

def twoPagers : EscalationCatalog where
  escalationPolicyId _ := some 1
  steps _ := some [⟨0, [⟨.email, "oncall@example.com"⟩, ⟨.sms, "+15550100"⟩]⟩]
  monitorName _ := some "api"

def failingCheck : MonitorCheck where
  status := .down
  responseTimeMs := none
  rawOutput := []
  location := "eu"
  checkedAt := 1

def pagingRule : AlertRule where
  id := 4
  ruleKind := .status
  statusIn := none
  severity := .critical
  metric := none
  comparator := none
  threshold := none
  forConsecutive := 1
  anomalySensitivity := none

-- One alert, and a pass whose first mail cannot be queued.
def firstPageFails : List EscalationEvent :=
  [.request (.evaluate ⟨some pagingRule, [failingCheck], [failingCheck], [failingCheck]⟩
      ⟨3, "api", 1, some 1⟩ failingCheck.toCheckResult) (fun _ => AlertCall.noConfusion)
      (.counting _) 10,
    .sweep twoPagers (fun _ => none) (fun key => key == (1, 0, 0)) (.counting _) 20]

theorem first_failure_loses_rest :
    ¬ Runs.Always (OverdueState.step deskIds) (overdueMarking deskIds).NothingLost (.start desk)
        twoOverdue ∧
    ¬ Runs.Always (EscalationState.step plainTexts) (escalationMarking plainTexts).NothingLost .start
        firstPageFails := by
  constructor
  · intro h
    have hfails := ((overdueMarking deskIds).nothingLost_iff _ (overdue_settled deskIds desk)).mp h
    exact absurd hfails (by decide +kernel)
  · intro h
    have hfails := ((escalationMarking plainTexts).nothingLost_iff _ (escalation_settled plainTexts)).mp h
    exact absurd hfails (by decide +kernel)

end CloudOps
