import CloudOps.Monitoring.Debounce

namespace CloudOps.Monitoring

open CloudOps.ReadCommitted

-- The latest check made from the location is one of the statuses the rule counts.
def LocationFails (rule : AlertRule) (checks : List MonitorCheck) (location : String) : Prop :=
  ∃ check ∈ checks, check.location = location ∧ rule.holdsOf check.toCheckResult = true ∧
    ∀ other ∈ checks, other.location = location → other.checkedAt ≤ check.checkedAt

def QuorumFails (rule : AlertRule) (checks : List MonitorCheck) (quorum : Nat) : Prop :=
  ∃ locations : List String, locations.Nodup ∧ quorum ≤ locations.length ∧
    ∀ location ∈ locations, LocationFails rule checks location

section Locations

variable {rule : AlertRule} {checks : List MonitorCheck}

theorem quorumFails_of_latestPerLocation {quorum : Nat}
    (h : quorum ≤ ((latestPerLocation checks).filter fun check =>
      rule.holdsOf check.toCheckResult).length) : QuorumFails rule checks quorum := by
  refine ⟨((latestPerLocation checks).filter fun check => rule.holdsOf check.toCheckResult).map
    MonitorCheck.location, ?_, by rwa [List.length_map], ?_⟩
  · exact (nodup_latestPerLocation checks).sublist (List.filter_sublist.map MonitorCheck.location)
  · intro location hmem
    obtain ⟨check, hcheck, rfl⟩ := List.mem_map.mp hmem
    obtain ⟨hlatest, hbad⟩ := List.mem_filter.mp hcheck
    obtain ⟨hin, hnewest⟩ := mem_latestPerLocation hlatest
    exact ⟨check, hin, rfl, hbad, hnewest⟩

-- The check that is being evaluated stands for its location.
theorem quorumFails_one {check : MonitorCheck}
    (hsorted : (checks ++ [check]).Pairwise fun a b => a.checkedAt < b.checkedAt)
    (hbad : rule.holdsOf check.toCheckResult = true) : QuorumFails rule (checks ++ [check]) 1 := by
  refine ⟨[check.location], List.nodup_singleton _, Nat.le_refl 1, fun location hl => ?_⟩
  obtain rfl := List.mem_singleton.mp hl
  refine ⟨check, by simp, rfl, hbad, fun other ho _ => ?_⟩
  rcases List.mem_append.mp ho with ho | ho
  · exact Nat.le_of_lt ((List.pairwise_append.mp hsorted).2.2 other ho check (by simp))
  · exact List.mem_singleton.mp ho ▸ Nat.le_refl _

end Locations

section Step

variable {texts : ReasonTexts} {rule : AlertRule} {monitor : EvaluatedMonitor} {state : Monitored}
  {probe : Probe}

-- One evaluated check: what an alert opened by it takes, and what resolves one.
structure QuorumOnOpening (rule : AlertRule) (monitor : EvaluatedMonitor) (quorum : Nat)
    (check : MonitorCheck) (before after : Monitored) : Prop where
  opens : OpensAlert monitor before.world.committed after.world.committed →
    QuorumFails rule after.checks quorum
  resolves : ResolvesAlert monitor before.world.committed after.world.committed ↔
    activeAlerts monitor before.world.committed ≠ [] ∧ check.status = .up ∧ "up" ∉ rule.statuses

theorem record_quorumOnOpening {quorum : Nat} (hkind : rule.ruleKind = .status)
    (hquorum : monitor.minFailingLocations = some quorum) (hpos : 1 ≤ quorum)
    (h : AtMostOneActive state.world.committed)
    (hsorted : (state.checks ++ [probe.check]).Pairwise fun a b => a.checkedAt < b.checkedAt) :
    QuorumOnOpening rule monitor quorum probe.check state (record texts rule monitor state probe) := by
  have hmetric : rule.metricEval (state.checks ++ [probe.check]) = .ok none := by
    rw [AlertRule.metricEval, if_pos hkind]
  have hticked : AtMostOneActive (state.world.tick probe.elapsed).committed := h
  have hrule : (readsOf rule (state.checks ++ [probe.check])).rule = some rule := rfl
  have hbad : rule.isBad probe.check.toCheckResult none = rule.holdsOf probe.check.toCheckResult := rfl
  constructor
  · intro hopens
    obtain ⟨-, hisBad, -, hawaits⟩ :=
      (opensAlert_serve hrule hmetric probe.check.toCheckResult probe.solo hticked).mp hopens
    by_cases hmany : 1 < quorum
    · refine quorumFails_of_latestPerLocation (Nat.le_of_not_lt fun hfew => ?_)
      simp only [AlertRule.awaitsQuorum, hquorum, Option.getD_some, Bool.and_eq_false_iff,
        decide_eq_false_iff_not] at hawaits
      exact hawaits.elim (fun hone => hone hmany) fun henough => henough hfew
    · obtain rfl : quorum = 1 := by omega
      exact quorumFails_one hsorted (hbad ▸ hisBad)
  · refine (resolvesAlert_serve hrule hmetric probe.check.toCheckResult probe.solo hticked).trans
      (and_congr_right fun _ => ?_)
    rw [hbad, AlertRule.shouldResolve, decide_eq_true_eq, and_comm]
    refine and_congr_right fun hup => ?_
    rw [AlertRule.holdsOf, hup]
    simp [CheckStatus.text]

end Step

-- However the locations' checks interleave, an alert opens only on a quorum, and
-- an 'up' from any one location resolves it.
theorem quorum_on_opening (texts : ReasonTexts) (rule : AlertRule) (monitor : EvaluatedMonitor)
    (quorum : Nat) (hkind : rule.ruleKind = .status)
    (hquorum : monitor.minFailingLocations = some quorum) (hpos : 1 ≤ quorum) (start : Monitored)
    (hactive : AtMostOneActive start.world.committed) (probes : List Probe)
    (hsorted : (start.checks ++ probes.map Probe.check).Pairwise fun a b => a.checkedAt < b.checkedAt) :
    Runs.AllSteps (record texts rule monitor)
      (fun state probe => QuorumOnOpening rule monitor quorum probe.check state
        (record texts rule monitor state probe))
      start probes := by
  induction probes generalizing start with
  | nil => trivial
  | cons probe rest ih =>
      have hsplit : start.checks ++ (probe :: rest).map Probe.check =
          (start.checks ++ [probe.check]) ++ rest.map Probe.check := by simp
      rw [hsplit] at hsorted
      refine ⟨record_quorumOnOpening hkind hquorum hpos hactive (List.pairwise_append.mp hsorted).1, ?_⟩
      exact ih _ (record_atMostOneActive hactive) hsorted

-- The reading under which the quorum holds an alert open too.
def QuorumBothWays (rule : AlertRule) (monitor : EvaluatedMonitor) (quorum : Nat)
    (before after : Monitored) : Prop :=
  (OpensAlert monitor before.world.committed after.world.committed →
    QuorumFails rule after.checks quorum) ∧
  (ResolvesAlert monitor before.world.committed after.world.committed →
    ¬ QuorumFails rule after.checks quorum)

def quorumMonitor : EvaluatedMonitor := ⟨3, "api", 1, some 2⟩

-- Two regions see an outage, a third one does not.
def upFromElsewhere : List Probe :=
  [(.down, "us", 1), (.down, "eu", 2), (.up, "ap", 3)].map fun (status, location, checkedAt) =>
    { check :=
        { status := status
          responseTimeMs := none
          rawOutput := []
          location := location
          checkedAt := checkedAt }
      elapsed := 60000
      solo := .counting Alert }

theorem upFromElsewhere_quorum_on_opening :
    Runs.AllSteps (record plainTexts exampleRule quorumMonitor)
      (fun state probe => QuorumOnOpening exampleRule quorumMonitor 2 probe.check state
        (record plainTexts exampleRule quorumMonitor state probe))
      (Monitored.start 0) upFromElsewhere :=
  quorum_on_opening plainTexts exampleRule quorumMonitor 2 rfl rfl (by decide) (Monitored.start 0)
    (Monitored.start_atMostOneActive 0) upFromElsewhere (by decide)

def outageAlert : Alert := .inserted 120000 3 4 .warning "api"

theorem up_from_elsewhere_closes_outage :
    ¬ Runs.AllSteps (record plainTexts exampleRule quorumMonitor)
      (fun state probe => QuorumBothWays exampleRule quorumMonitor 2 state
        (record plainTexts exampleRule quorumMonitor state probe))
      (Monitored.start 0) upFromElsewhere := by
  rintro ⟨-, -, ⟨-, hup⟩, -⟩
  refine hup ⟨1, outageAlert, { outageAlert with status := .resolved, resolvedAt := some 180000 },
    by decide +kernel, by decide, by decide, by decide +kernel, rfl⟩ ?_
  refine quorumFails_of_latestPerLocation ?_
  decide +kernel

end CloudOps.Monitoring
