import CloudOps.Cost.CommitmentSweep
import CloudOps.Cost.MonitorVerdict

namespace CloudOps.Cost

open CloudOps.ReadCommitted CloudOps.SharedTransaction
open CloudOps.Ticketing (Uuid)

section Rightsizing

variable {reads : SweepReads} {monitor : CloudMetricMonitor} {table after : Recommendations} {resourceId : Uuid}
  {monitors : List CloudMetricMonitor}

def Recommendations.rowsOf (table : Recommendations) (resourceId : Uuid) (id : Uuid) : Option Recommendation :=
  (table.rows.lookup id).filter fun row => row.resourceId = resourceId

-- A pass leaves every monitor that does not fail the rows a pass without the failing
-- ones would leave it.
def IsolatesMonitors (reads : SweepReads) (table : Recommendations) (monitors : List CloudMetricMonitor) : Prop :=
  ∀ monitor ∈ monitors, reads.malformed monitor = false →
    (commit (sweepMonitors reads monitors) table).rowsOf monitor.resourceId =
      (commit (sweepMonitors reads (monitors.filter fun other => !reads.malformed other)) table).rowsOf
        monitor.resourceId

-- No monitor fails, or none of the others has anything to write.
def MonitorsUndisturbed (reads : SweepReads) (table : Recommendations) (monitors : List CloudMetricMonitor) :
    Prop :=
  (∀ monitor ∈ monitors, reads.malformed monitor = false) ∨
    ∀ monitor ∈ monitors, reads.malformed monitor = false → Idles reads table monitor

-- A row of the resource bears the time of the pass.
def Stamped (reads : SweepReads) (table : Recommendations) (resourceId : Uuid) : Prop :=
  ∃ id row, table.rows.lookup id = some row ∧ row.resourceId = resourceId ∧ row.updatedAt = reads.now

theorem Evaluated.stamped (h : Evaluated reads monitor table after) (hstamped : Stamped reads table resourceId) :
    Stamped reads after resourceId := by
  obtain ⟨id, row, hrow, hresource, htime⟩ := hstamped
  rcases h.writes with ⟨-, rfl⟩ | ⟨written, new, hafter, hnewResource, hnewTime, hold⟩
  · exact ⟨id, row, hrow, hresource, htime⟩
  · by_cases hsame : id = written
    · subst hsame
      refine ⟨id, new, by rw [hafter]; exact AList.lookup_insert _, ?_, hnewTime⟩
      exact hnewResource.trans ((hold row hrow).symm.trans hresource)
    · refine ⟨id, row, ?_, hresource, htime⟩
      rw [hafter, AList.lookup_insert_ne hsame, hrow]

theorem Evaluated.stamped_of_not_idles (h : Evaluated reads monitor table after)
    (hidle : ¬ Idles reads table monitor) : Stamped reads after monitor.resourceId := by
  rcases h.writes with ⟨hidles, -⟩ | ⟨id, row, hafter, hresource, htime, -⟩
  · exact absurd hidles hidle
  · exact ⟨id, row, by rw [hafter]; exact AList.lookup_insert _, hresource, htime⟩

theorem sweep_stamped (h : ∀ monitor ∈ monitors, reads.malformed monitor = false)
    (hstamped : Stamped reads table resourceId) :
    Stamped reads (commit (sweepMonitors reads monitors) table) resourceId := by
  induction monitors generalizing table with
  | nil => exact hstamped
  | cons monitor rest ih =>
      obtain ⟨hmonitor, hrest⟩ := List.forall_mem_cons.mp h
      rw [sweep_cons h]
      exact ih hrest ((sweep_singleton hmonitor table).stamped hstamped)

-- One monitor that has something to write in the table before the pass has its
-- resource stamped by the end of it.
theorem sweep_stamps (h : ∀ monitor ∈ monitors, reads.malformed monitor = false) (hmem : monitor ∈ monitors)
    (hidle : ¬ Idles reads table monitor) :
    Stamped reads (commit (sweepMonitors reads monitors) table) monitor.resourceId := by
  induction monitors generalizing table with
  | nil => cases hmem
  | cons head rest ih =>
      obtain ⟨hhead, hrest⟩ := List.forall_mem_cons.mp h
      have hone := sweep_singleton hhead table
      rw [sweep_cons h]
      rcases List.mem_cons.mp hmem with rfl | hmem
      · exact sweep_stamped hrest (hone.stamped_of_not_idles hidle)
      · by_cases hstays : Idles reads (commit (sweepMonitors reads [head]) table) monitor
        · -- it idles by now: `head` has resolved what it had to
          have hheadWrites : ¬ Idles reads table head := by
            intro hheadIdles
            rw [hone.unchanged hheadIdles] at hstays
            exact hidle hstays
          have hsame : monitor.resourceId = head.resourceId := by
            by_contra hne
            rw [Idles, hone.hasOpen_others hne] at hstays
            exact hidle hstays
          rw [hsame]
          exact sweep_stamped hrest (hone.stamped_of_not_idles hheadWrites)
        · exact ih hrest hmem hstays

theorem sweep_of_idles (h : ∀ monitor ∈ monitors, reads.malformed monitor = false)
    (hidle : ∀ monitor ∈ monitors, Idles reads table monitor) :
    commit (sweepMonitors reads monitors) table = table := by
  induction monitors with
  | nil => rfl
  | cons monitor rest ih =>
      obtain ⟨hmonitor, hrest⟩ := List.forall_mem_cons.mp h
      obtain ⟨hfirst, hothers⟩ := List.forall_mem_cons.mp hidle
      rw [sweep_cons h, (sweep_singleton hmonitor table).unchanged hfirst]
      exact ih hrest hothers

theorem malformed_filter : ∀ monitor ∈ monitors.filter (fun other => !reads.malformed other),
    reads.malformed monitor = false := by
  intro monitor hmem
  simpa using (List.mem_filter.mp hmem).2

theorem isolatesMonitors_iff_unchanged (reads : SweepReads) (table : Recommendations)
    (monitors : List CloudMetricMonitor) :
    IsolatesMonitors reads table monitors ↔ (∀ monitor ∈ monitors, reads.malformed monitor = false) ∨
      ∀ monitor ∈ monitors, reads.malformed monitor = false → table.rowsOf monitor.resourceId =
        (commit (sweepMonitors reads (monitors.filter fun other => !reads.malformed other)) table).rowsOf
          monitor.resourceId :=
  agrees_filter_iff (evaluateMonitor_stays reads) effect_isNone
    (fun first second => ∀ monitor ∈ monitors, reads.malformed monitor = false →
      first.rowsOf monitor.resourceId = second.rowsOf monitor.resourceId)
    (fun _ _ _ _ => rfl) monitors 0 table

theorem isolatesMonitors_of_undisturbed (h : MonitorsUndisturbed reads table monitors) :
    IsolatesMonitors reads table monitors := by
  refine (isolatesMonitors_iff_unchanged reads table monitors).mpr (h.imp_right fun hidle => ?_)
  have hsame : commit (sweepMonitors reads (monitors.filter fun other => !reads.malformed other)) table =
      table := by
    refine sweep_of_idles malformed_filter fun monitor hmem => ?_
    exact hidle monitor (List.mem_filter.mp hmem).1 (malformed_filter monitor hmem)
  rw [hsame]
  exact fun _ _ _ => rfl

-- What a pass writes bears its time, so it is only a row that bears this time already
-- that could hide a write.
theorem undisturbed_of_isolatesMonitors (h : IsolatesMonitors reads table monitors) :
    MonitorsUndisturbed reads table monitors ∨
      ∃ id row, table.rows.lookup id = some row ∧ row.updatedAt = reads.now := by
  rcases (isolatesMonitors_iff_unchanged reads table monitors).mp h with hnone | hunchanged
  · exact .inl (.inl hnone)
  · by_cases hidle : ∀ monitor ∈ monitors, reads.malformed monitor = false → Idles reads table monitor
    · exact .inl (.inr hidle)
    · simp only [not_forall] at hidle
      obtain ⟨monitor, hmem, hmonitor, hwrites⟩ := hidle
      have hkept : monitor ∈ monitors.filter fun other => !reads.malformed other :=
        List.mem_filter.mpr ⟨hmem, by simp [hmonitor]⟩
      obtain ⟨id, row, hrow, hresource, htime⟩ := sweep_stamps malformed_filter hkept hwrites
      have hsame := congrFun (hunchanged monitor hmem hmonitor) id
      simp only [Recommendations.rowsOf, hrow, Option.filter_some, hresource, decide_true, if_true] at hsame
      exact .inr ⟨id, row, (Option.filter_eq_some_iff.mp hsame).1, htime⟩

end Rightsizing

section Commitments

variable {reads : CommitmentReads} {table : CommitmentTable} {items : List (ScopeRow × CommitmentKind)}
  {item : ScopeRow × CommitmentKind}

def CommitmentReads.fails (reads : CommitmentReads) (item : ScopeRow × CommitmentKind) : Bool :=
  (reads.fault item.1 item.2).isSome

-- The same law for the loop over scopes and kinds.
def IsolatesScopes (reads : CommitmentReads) (table : CommitmentTable) (items : List (ScopeRow × CommitmentKind)) :
    Prop :=
  ∀ item ∈ items, reads.fails item = false →
    (commit (sweepScopes reads items) table).lookup (item.1.key item.2) =
      (commit (sweepScopes reads (items.filter fun other => !reads.fails other)) table).lookup
        (item.1.key item.2)

def ScopesUndisturbed (reads : CommitmentReads) (items : List (ScopeRow × CommitmentKind)) : Prop :=
  (∀ item ∈ items, reads.fails item = false) ∨
    ∀ item ∈ items, reads.fails item = false → recommendCommitment item.1.amounts item.2 = none

def evaluateItem (reads : CommitmentReads) (item : ScopeRow × CommitmentKind) : CommitmentM Bool :=
  evaluateScope reads item.1 item.2

theorem evaluateItem_stays (item : ScopeRow × CommitmentKind) : Stays (evaluateItem reads item) := by
  refine .bind (.statement _ _) fun existing => ?_
  cases recommendCommitment item.1.amounts item.2 with
  | none => exact .pure false
  | some recommendation =>
      cases existing with
      | none => exact .bind (.statement _ _) fun _ => .pure true
      | some row => exact .bind (.statement _ _) fun _ => .pure true

-- A scope without a recommendation writes nothing, and one with a recommendation
-- writes its row and stamps it.
theorem effect_evaluateItem (table : CommitmentTable) (item : ScopeRow × CommitmentKind)
    (h : reads.fails item = false) :
    ∃ after, effect (evaluateItem reads) table item = some after ∧
      ((recommendCommitment item.1.amounts item.2 = none ∧ after = table) ∨
        recommendCommitment item.1.amounts item.2 ≠ none ∧
          ∃ row, row.updatedAt = reads.now ∧ after = table.insert (item.1.key item.2) row) := by
  have hfault : reads.fault item.1 item.2 = none := by simpa [CommitmentReads.fails] using h
  have hselect : exec (selectExisting reads item.1 item.2) ⟨table, false⟩ =
      (.ok (table.lookup (item.1.key item.2)), ⟨table, false⟩) := by
    rw [selectExisting, exec_statement, hfault]
  rw [effect, evaluateItem, evaluateScope, exec_bind_ok hselect]
  cases recommendCommitment item.1.amounts item.2 with
  | none => exact ⟨table, rfl, .inl ⟨rfl, rfl⟩⟩
  | some recommendation =>
      cases table.lookup (item.1.key item.2) with
      | none => exact ⟨_, rfl, .inr ⟨Option.some_ne_none _, _, rfl, rfl⟩⟩
      | some row => exact ⟨_, rfl, .inr ⟨Option.some_ne_none _, _, rfl, rfl⟩⟩

theorem effect_evaluateItem_isNone (table : CommitmentTable) (item : ScopeRow × CommitmentKind) :
    (effect (evaluateItem reads) table item).isNone = reads.fails item := by
  cases h : reads.fails item with
  | false =>
      obtain ⟨after, hafter, -⟩ := effect_evaluateItem table item h
      rw [hafter]
      rfl
  | true =>
      obtain ⟨error, hfault⟩ := Option.isSome_iff_exists.mp h
      have hselect : exec (selectExisting reads item.1 item.2) ⟨table, false⟩ =
          (.error error, ⟨table, true⟩) := by
        rw [selectExisting, exec_statement, hfault]
      rw [effect, evaluateItem, evaluateScope, exec_bind_error hselect]
      rfl

theorem sweepScopes_cons {rest : List (ScopeRow × CommitmentKind)}
    (h : ∀ other ∈ item :: rest, reads.fails other = false) (table : CommitmentTable) :
    ∃ after, commit (sweepScopes reads (item :: rest)) table = commit (sweepScopes reads rest) after ∧
      ((recommendCommitment item.1.amounts item.2 = none ∧ after = table) ∨
        recommendCommitment item.1.amounts item.2 ≠ none ∧
          ∃ row, row.updatedAt = reads.now ∧ after = table.insert (item.1.key item.2) row) := by
  have hparts : ∀ other ∈ [item] ++ rest, reads.fails other = false := h
  have hitem := h item List.mem_cons_self
  obtain ⟨after, hafter, hwrites⟩ := effect_evaluateItem table item hitem
  have hone := commit_singleton evaluateItem_stays effect_evaluateItem_isNone hitem 0 table
  refine ⟨after, ?_, hwrites⟩
  rw [Option.some.inj (hafter.symm.trans hone)]
  exact commit_append evaluateItem_stays effect_evaluateItem_isNone hparts 0 table

theorem sweepScopes_stamped (h : ∀ item ∈ items, reads.fails item = false) {key : CommitmentKey}
    (hstamped : ∃ row, table.lookup key = some row ∧ row.updatedAt = reads.now) :
    ∃ row, (commit (sweepScopes reads items) table).lookup key = some row ∧ row.updatedAt = reads.now := by
  induction items generalizing table with
  | nil => exact hstamped
  | cons item rest ih =>
      obtain ⟨after, hcons, hwrites⟩ := sweepScopes_cons h table
      rw [hcons]
      refine ih (List.forall_mem_cons.mp h).2 ?_
      rcases hwrites with ⟨-, rfl⟩ | ⟨-, row, htime, rfl⟩
      · exact hstamped
      · rw [Table.lookup_insert_eq]
        split
        · exact ⟨row, rfl, htime⟩
        · exact hstamped

theorem sweepScopes_stamps (h : ∀ item ∈ items, reads.fails item = false) (hmem : item ∈ items)
    (hrecommended : recommendCommitment item.1.amounts item.2 ≠ none) :
    ∃ row, (commit (sweepScopes reads items) table).lookup (item.1.key item.2) = some row ∧
      row.updatedAt = reads.now := by
  induction items generalizing table with
  | nil => cases hmem
  | cons head rest ih =>
      have hrest := (List.forall_mem_cons.mp h).2
      obtain ⟨after, hcons, hwrites⟩ := sweepScopes_cons h table
      rw [hcons]
      rcases List.mem_cons.mp hmem with rfl | hmem
      · rcases hwrites with ⟨hnone, -⟩ | ⟨-, row, htime, rfl⟩
        · exact absurd hnone hrecommended
        · exact sweepScopes_stamped hrest ⟨row, AList.lookup_insert _, htime⟩
      · exact ih hrest hmem

theorem sweepScopes_of_none (h : ∀ item ∈ items, reads.fails item = false)
    (hnone : ∀ item ∈ items, recommendCommitment item.1.amounts item.2 = none) :
    commit (sweepScopes reads items) table = table := by
  induction items with
  | nil => rfl
  | cons item rest ih =>
      obtain ⟨hfirst, hothers⟩ := List.forall_mem_cons.mp hnone
      obtain ⟨after, hcons, hwrites⟩ := sweepScopes_cons h table
      rcases hwrites with ⟨-, rfl⟩ | ⟨hrecommended, -⟩
      · rw [hcons]
        exact ih (List.forall_mem_cons.mp h).2 hothers
      · exact absurd hfirst hrecommended

theorem fails_filter : ∀ item ∈ items.filter (fun other => !reads.fails other), reads.fails item = false := by
  intro item hmem
  simpa using (List.mem_filter.mp hmem).2

theorem isolatesScopes_iff_unchanged (reads : CommitmentReads) (table : CommitmentTable)
    (items : List (ScopeRow × CommitmentKind)) :
    IsolatesScopes reads table items ↔ (∀ item ∈ items, reads.fails item = false) ∨
      ∀ item ∈ items, reads.fails item = false → table.lookup (item.1.key item.2) =
        (commit (sweepScopes reads (items.filter fun other => !reads.fails other)) table).lookup
          (item.1.key item.2) :=
  agrees_filter_iff evaluateItem_stays effect_evaluateItem_isNone
    (fun first second => ∀ item ∈ items, reads.fails item = false →
      first.lookup (item.1.key item.2) = second.lookup (item.1.key item.2))
    (fun _ _ _ _ => rfl) items 0 table

theorem isolatesScopes_of_undisturbed (h : ScopesUndisturbed reads items) :
    IsolatesScopes reads table items := by
  refine (isolatesScopes_iff_unchanged reads table items).mpr (h.imp_right fun hnone => ?_)
  have hsame : commit (sweepScopes reads (items.filter fun other => !reads.fails other)) table = table := by
    refine sweepScopes_of_none fails_filter fun item hmem => ?_
    exact hnone item (List.mem_filter.mp hmem).1 (fails_filter item hmem)
  rw [hsame]
  exact fun _ _ _ => rfl

theorem undisturbed_of_isolatesScopes (h : IsolatesScopes reads table items) :
    ScopesUndisturbed reads items ∨ ∃ key row, table.lookup key = some row ∧ row.updatedAt = reads.now := by
  rcases (isolatesScopes_iff_unchanged reads table items).mp h with hnone | hunchanged
  · exact .inl (.inl hnone)
  · by_cases hquiet : ∀ item ∈ items, reads.fails item = false →
        recommendCommitment item.1.amounts item.2 = none
    · exact .inl (.inr hquiet)
    · simp only [not_forall] at hquiet
      obtain ⟨item, hmem, hitem, hrecommended⟩ := hquiet
      have hkept : item ∈ items.filter fun other => !reads.fails other :=
        List.mem_filter.mpr ⟨hmem, by simp [hitem]⟩
      obtain ⟨row, hrow, htime⟩ := sweepScopes_stamps fails_filter hkept hrecommended
      exact .inr ⟨_, row, (hunchanged item hmem hitem).trans hrow, htime⟩

end Commitments

-- A server that averages 3 %, and another one whose sample is no number.
def idleMonitor : CloudMetricMonitor := ⟨1, 7, "web-1"⟩

def brokenMonitor : CloudMetricMonitor := ⟨2, 8, "web-2"⟩

def oneMalformed : SweepReads := readings [⟨1, 0, some (some "3")⟩, ⟨2, 0, some (some "n/a")⟩]

end CloudOps.Cost
