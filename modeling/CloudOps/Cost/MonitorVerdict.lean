import CloudOps.Cost.RightsizingSweep

namespace CloudOps.Cost

open CloudOps.ReadCommitted CloudOps.SharedTransaction
open CloudOps.Ticketing (Uuid)

-- What the samples of a monitor say: one of them is no number, there are none, or
-- their average.
inductive Verdict where
  | malformed
  | unjudged
  | healthy
  | underUtilised
  deriving DecidableEq

def verdictOf : Except String (Option ℚ × Nat) → Verdict
  | .error _ => .malformed
  | .ok (none, _) => .unjudged
  | .ok (some avgValue, sampleCount) =>
      if sampleCount = 0 then .unjudged
      else if (recommendationTypeOf avgValue).isNone then .healthy
      else .underUtilised

def SweepReads.verdict (reads : SweepReads) (monitor : CloudMetricMonitor) : Verdict :=
  verdictOf (reads.utilization monitor.monitorId)

def Recommendation.resolve (row : Recommendation) (now : Nat) : Recommendation :=
  { row with status := .resolved, updatedAt := now }

def Recommendation.refresh (row : Recommendation) (type : RecommendationType) (reasonText : String)
    (estimatedSaving : Option ℚ) (now : Nat) : Recommendation :=
  { row with
    recommendationType := type
    reasonText := reasonText
    estimatedMonthlySaving := estimatedSaving
    updatedAt := now }

-- What a monitor whose samples are numbers does to the table.
inductive Evaluated (reads : SweepReads) (monitor : CloudMetricMonitor) (table after : Recommendations) : Prop
  | unjudged (hverdict : reads.verdict monitor = .unjudged) (hafter : after = table)
  | healthy (hverdict : reads.verdict monitor = .healthy) (hopen : ¬ table.HasOpen monitor.resourceId)
      (hafter : after = table)
  | resolved (id : Uuid) (row : Recommendation) (hverdict : reads.verdict monitor = .healthy)
      (hopen : table.openRecommendation monitor.resourceId = some (id, row))
      (hafter : after.rows = table.rows.insert id (row.resolve reads.now))
  | inserted (type : RecommendationType) (reasonText : String) (saving : Option ℚ)
      (hverdict : reads.verdict monitor = .underUtilised) (hopen : ¬ table.HasOpen monitor.resourceId)
      (hafter : after.rows = table.rows.insert (reads.newId table.rows)
        (newRecommendation reads monitor.resourceId type reasonText saving))
  | updated (id : Uuid) (row : Recommendation) (type : RecommendationType) (reasonText : String)
      (saving : Option ℚ) (hverdict : reads.verdict monitor = .underUtilised)
      (hopen : table.openRecommendation monitor.resourceId = some (id, row))
      (hafter : after.rows = table.rows.insert id (row.refresh type reasonText saving reads.now))

section Statements

variable {α β : Type} {table : Recommendations}

theorem exec_select_bind (answer : Recommendations → Except String α) {value : α}
    (h : answer table = .ok value) (next : α → SweepM β) :
    exec (select answer >>= next) ⟨table, false⟩ = exec (next value) ⟨table, false⟩ := by
  refine exec_bind_ok ?_
  rw [select, exec_statement, h]
  rfl

-- A SELECT that cannot fail.
theorem exec_read_bind (answer : Recommendations → α) (next : α → SweepM β) :
    exec (select (fun table => .ok (answer table)) >>= next) ⟨table, false⟩ =
      exec (next (answer table)) ⟨table, false⟩ :=
  exec_select_bind (fun table => .ok (answer table)) rfl next

theorem exec_select_bind_error {answer : Recommendations → Except String α} {error : String}
    (h : answer table = .error error) (next : α → SweepM β) :
    exec (select answer >>= next) ⟨table, false⟩ = (.error error, ⟨table, true⟩) := by
  refine exec_bind_error ?_
  rw [select, exec_statement, h]
  rfl

theorem exec_updateById {id : Uuid} {row : Recommendation} {set : Recommendation → Recommendation}
    {after : Recommendations} (hrow : table.rows.lookup id = some row) (hput : table.put id (set row) = .ok after) :
    exec (updateById id set) ⟨table, false⟩ = (.ok (), ⟨after, false⟩) := by
  simp only [updateById, write, exec_statement, hrow, Option.map_some, hput]
  rfl

variable (reads : SweepReads)

theorem exec_estimateMonthlySaving (resourceId : Uuid) (type : RecommendationType) (table : Recommendations) :
    ∃ saving, exec (estimateMonthlySaving reads resourceId type) ⟨table, false⟩ = (.ok saving, ⟨table, false⟩) := by
  unfold estimateMonthlySaving
  rw [exec_read_bind]
  cases reads.cloudCredentialId resourceId with
  | none => exact ⟨none, rfl⟩
  | some cloudCredentialId =>
      dsimp only
      rw [exec_read_bind, exec_read_bind]
      split
      · exact ⟨none, rfl⟩
      · exact ⟨_, rfl⟩

theorem exec_insertRecommendation {row : Recommendation} {after : Recommendations}
    (hput : table.put (reads.newId table.rows) row = .ok after) :
    exec (insertRecommendation reads row) ⟨table, false⟩ = (.ok (reads.newId table.rows), ⟨after, false⟩) := by
  simp only [insertRecommendation, exec_statement, hput]
  rfl

theorem estimateMonthlySaving_stays (resourceId : Uuid) (type : RecommendationType) :
    Stays (estimateMonthlySaving reads resourceId type) := by
  refine .bind (.statement _ _) fun cloudCredentialId => ?_
  cases cloudCredentialId with
  | none => exact .pure none
  | some cloudCredentialId =>
      refine .bind (.statement _ _) fun monthlySpend => .bind (.statement _ _) fun resourceCount => ?_
      dsimp only
      split
      · exact .pure none
      · exact .pure _

theorem updateById_stays (id : Uuid) (set : Recommendation → Recommendation) : Stays (updateById id set) := by
  unfold updateById write
  exact .statement _ _

theorem evaluateMonitor_stays (monitor : CloudMetricMonitor) : Stays (evaluateMonitor reads monitor) := by
  refine .bind (.statement _ _) fun row => .bind (.statement _ _) fun openRec => ?_
  obtain ⟨avgValue, sampleCount⟩ := row
  cases avgValue with
  | none => exact .pure false
  | some avgValue =>
      dsimp only
      split
      · exact .pure false
      · cases recommendationTypeOf avgValue with
        | none =>
            cases openRec with
            | none => exact .pure false
            | some found => exact .bind (updateById_stays _ _) fun _ => .pure false
        | some type =>
            refine .bind (estimateMonthlySaving_stays reads _ type) fun saving => ?_
            cases openRec with
            | none => exact .bind (.statement _ _) fun _ => .pure true
            | some found => exact .bind (updateById_stays _ _) fun _ => .pure true

end Statements

variable {reads : SweepReads} {monitor : CloudMetricMonitor}

theorem verdict_eq_malformed : reads.verdict monitor = .malformed ↔
    ∃ error, reads.utilization monitor.monitorId = .error error := by
  unfold SweepReads.verdict
  cases reads.utilization monitor.monitorId with
  | error error => simp [verdictOf]
  | ok row =>
      obtain ⟨avgValue, sampleCount⟩ := row
      cases avgValue with
      | none => simp [verdictOf]
      | some avgValue =>
          simp only [verdictOf, reduceCtorEq, exists_false, iff_false]
          split
          · simp
          · split
            · simp
            · simp

theorem effect_of_malformed (h : reads.verdict monitor = .malformed) (table : Recommendations) :
    effect (evaluateMonitor reads) table monitor = none := by
  obtain ⟨error, herror⟩ := verdict_eq_malformed.mp h
  rw [effect, evaluateMonitor, exec_select_bind_error herror]
  rfl

theorem effect_of_exec {table after : Recommendations} {result : Except String Bool}
    (h : exec (evaluateMonitor reads monitor) ⟨table, false⟩ = (result, ⟨after, false⟩)) :
    effect (evaluateMonitor reads) table monitor = some after := by
  rw [effect, h]
  rfl

theorem effect_evaluateMonitor (h : reads.verdict monitor ≠ .malformed) (table : Recommendations) :
    ∃ after, effect (evaluateMonitor reads) table monitor = some after ∧
      Evaluated reads monitor table after := by
  suffices hexec : ∃ result after, exec (evaluateMonitor reads monitor) ⟨table, false⟩ =
      (result, ⟨after, false⟩) ∧ Evaluated reads monitor table after by
    obtain ⟨result, after, hafter, hevaluated⟩ := hexec
    exact ⟨after, effect_of_exec hafter, hevaluated⟩
  cases hrow : reads.utilization monitor.monitorId with
  | error error => exact absurd (verdict_eq_malformed.mpr ⟨error, hrow⟩) h
  | ok row =>
      obtain ⟨avgValue, sampleCount⟩ := row
      have hverdict : reads.verdict monitor = verdictOf (.ok (avgValue, sampleCount)) := by
        rw [SweepReads.verdict, hrow]
      rw [evaluateMonitor, exec_select_bind _ hrow, exec_read_bind]
      cases avgValue with
      | none => exact ⟨_, table, rfl, .unjudged hverdict rfl⟩
      | some avgValue =>
          dsimp only
          rw [verdictOf] at hverdict
          split
          · rename_i hcount
            rw [if_pos hcount] at hverdict
            exact ⟨_, table, rfl, .unjudged hverdict rfl⟩
          · rename_i hcount
            rw [if_neg hcount] at hverdict
            cases htype : recommendationTypeOf avgValue with
            | none =>
                rw [htype] at hverdict
                cases hopen : table.openRecommendation monitor.resourceId with
                | none =>
                    refine ⟨_, table, rfl, .healthy hverdict ?_ rfl⟩
                    exact Recommendations.openRecommendation_eq_none.mp hopen
                | some found =>
                    obtain ⟨id, row⟩ := found
                    obtain ⟨hlookup, -, -⟩ := Recommendations.openRecommendation_eq_some.mp hopen
                    have hput : ∃ after, table.put id (row.resolve reads.now) = .ok after :=
                      Recommendations.put_ok nofun
                    obtain ⟨after, hput⟩ := hput
                    refine ⟨_, after, exec_bind_ok (exec_updateById hlookup hput), ?_⟩
                    exact .resolved id row hverdict hopen (Recommendations.rows_of_put hput)
            | some type =>
                rw [htype] at hverdict
                dsimp only
                obtain ⟨saving, hsaving⟩ := exec_estimateMonthlySaving reads monitor.resourceId type table
                rw [exec_bind_ok hsaving]
                cases hopen : table.openRecommendation monitor.resourceId with
                | none =>
                    have hnone := Recommendations.openRecommendation_eq_none.mp hopen
                    have hput : ∀ row : Recommendation, row.resourceId = monitor.resourceId →
                        ∃ after, table.put (reads.newId table.rows) row = .ok after := by
                      intro row hresource
                      refine Recommendations.put_ok fun _ other otherRow hother hsame hotherOpen => ?_
                      exact absurd ⟨other, otherRow, hother, hsame.trans hresource, hotherOpen⟩ hnone
                    obtain ⟨after, hput⟩ := hput (newRecommendation reads monitor.resourceId type
                      (generateRightsizingReasonText reads monitor.resourceName type avgValue) saving) rfl
                    refine ⟨_, after, exec_bind_ok (exec_insertRecommendation reads hput), ?_⟩
                    exact .inserted type _ saving hverdict hnone (Recommendations.rows_of_put hput)
                | some found =>
                    obtain ⟨id, row⟩ := found
                    obtain ⟨hlookup, hresource, hstatus⟩ := Recommendations.openRecommendation_eq_some.mp hopen
                    have hput : ∀ set : Recommendation, set.resourceId = row.resourceId →
                        ∃ after, table.put id set = .ok after := by
                      intro set hsame
                      refine Recommendations.put_ok fun _ other otherRow hother hotherResource hotherOpen => ?_
                      exact table.oneOpen other id otherRow row hother hlookup hotherOpen hstatus
                        (hotherResource.trans hsame)
                    obtain ⟨after, hput⟩ := hput (row.refresh type
                      (generateRightsizingReasonText reads monitor.resourceName type avgValue) saving reads.now) rfl
                    refine ⟨_, after, exec_bind_ok (exec_updateById hlookup hput), ?_⟩
                    exact .updated id row type _ saving hverdict hopen (Recommendations.rows_of_put hput)

def SweepReads.malformed (reads : SweepReads) (monitor : CloudMetricMonitor) : Bool :=
  decide (reads.verdict monitor = .malformed)

theorem effect_isNone (table : Recommendations) (monitor : CloudMetricMonitor) :
    (effect (evaluateMonitor reads) table monitor).isNone = reads.malformed monitor := by
  by_cases h : reads.verdict monitor = .malformed
  · rw [effect_of_malformed h]
    simp [SweepReads.malformed, h]
  · obtain ⟨after, hafter, -⟩ := effect_evaluateMonitor h table
    rw [hafter]
    simp [SweepReads.malformed, h]

-- A pass, monitor by monitor. With one malformed sample it leaves nothing.
theorem sweep_of_malformed {monitors : List CloudMetricMonitor}
    (h : ∃ monitor ∈ monitors, reads.malformed monitor = true) (table : Recommendations) :
    commit (sweepMonitors reads monitors) table = table :=
  commit_of_fails (evaluateMonitor_stays reads) effect_isNone h 0 table

theorem sweep_append {first second : List CloudMetricMonitor}
    (h : ∀ monitor ∈ first ++ second, reads.malformed monitor = false) (table : Recommendations) :
    commit (sweepMonitors reads (first ++ second)) table =
      commit (sweepMonitors reads second) (commit (sweepMonitors reads first) table) :=
  commit_append (evaluateMonitor_stays reads) effect_isNone h 0 table

theorem sweep_cons {rest : List CloudMetricMonitor}
    (h : ∀ other ∈ monitor :: rest, reads.malformed other = false) (table : Recommendations) :
    commit (sweepMonitors reads (monitor :: rest)) table =
      commit (sweepMonitors reads rest) (commit (sweepMonitors reads [monitor]) table) := by
  have hparts : ∀ other ∈ [monitor] ++ rest, reads.malformed other = false := h
  exact sweep_append hparts table

theorem sweep_singleton (h : reads.malformed monitor = false) (table : Recommendations) :
    Evaluated reads monitor table (commit (sweepMonitors reads [monitor]) table) := by
  have hverdict : reads.verdict monitor ≠ .malformed := by simpa [SweepReads.malformed] using h
  obtain ⟨after, hafter, hevaluated⟩ := effect_evaluateMonitor hverdict table
  have hsame := commit_singleton (evaluateMonitor_stays reads) effect_isNone h 0 table
  rw [hafter] at hsame
  exact Option.some.inj hsame ▸ hevaluated

-- The monitor has nothing to write: it has no samples, or is healthy and has no open
-- recommendation to resolve.
def Idles (reads : SweepReads) (table : Recommendations) (monitor : CloudMetricMonitor) : Prop :=
  reads.verdict monitor = .unjudged ∨
    reads.verdict monitor = .healthy ∧ ¬ table.HasOpen monitor.resourceId

instance (table : Recommendations) (monitor : CloudMetricMonitor) : Decidable (Idles reads table monitor) :=
  inferInstanceAs (Decidable (_ ∨ _ ∧ ¬ _))

namespace Evaluated

variable {table after : Recommendations} (h : Evaluated reads monitor table after)
include h

-- Unless it has nothing to write, it writes one row of its resource, and stamps it.
theorem writes : Idles reads table monitor ∧ after = table ∨ ∃ id row, after.rows = table.rows.insert id row ∧
    row.resourceId = monitor.resourceId ∧ row.updatedAt = reads.now ∧
    ∀ old, table.rows.lookup id = some old → old.resourceId = monitor.resourceId := by
  cases h with
  | unjudged hverdict hafter => exact .inl ⟨.inl hverdict, hafter⟩
  | healthy hverdict hopen hafter => exact .inl ⟨.inr ⟨hverdict, hopen⟩, hafter⟩
  | resolved id row _ hopen hafter =>
      obtain ⟨hlookup, hresource, -⟩ := Recommendations.openRecommendation_eq_some.mp hopen
      refine .inr ⟨id, _, hafter, hresource, rfl, fun old hold => ?_⟩
      obtain rfl := Option.some.inj (hlookup.symm.trans hold)
      exact hresource
  | inserted type reasonText saving _ _ hafter =>
      refine .inr ⟨_, _, hafter, rfl, rfl, fun old hold => ?_⟩
      exact absurd (Table.mem_of_lookup hold) (reads.fresh table.rows)
  | updated id row type reasonText saving _ hopen hafter =>
      obtain ⟨hlookup, hresource, -⟩ := Recommendations.openRecommendation_eq_some.mp hopen
      refine .inr ⟨id, _, hafter, hresource, rfl, fun old hold => ?_⟩
      obtain rfl := Option.some.inj (hlookup.symm.trans hold)
      exact hresource

-- The other resources keep their rows.
theorem others (id : Uuid) (row : Recommendation) (hne : row.resourceId ≠ monitor.resourceId) :
    after.rows.lookup id = some row ↔ table.rows.lookup id = some row := by
  rcases h.writes with ⟨-, rfl⟩ | ⟨written, new, hafter, hresource, -, hold⟩
  · rfl
  · rw [hafter, Table.lookup_insert_eq]
    split
    · rename_i hsame
      subst hsame
      constructor
      · intro hrow
        obtain rfl := Option.some.inj hrow
        exact absurd hresource hne
      · intro hrow
        exact absurd (hold row hrow) hne
    · rfl

theorem hasOpen_others {resourceId : Uuid} (hne : resourceId ≠ monitor.resourceId) :
    after.HasOpen resourceId ↔ table.HasOpen resourceId := by
  unfold Recommendations.HasOpen
  constructor
  · rintro ⟨id, row, hrow, rfl, hopen⟩
    exact ⟨id, row, (h.others id row hne).mp hrow, rfl, hopen⟩
  · rintro ⟨id, row, hrow, rfl, hopen⟩
    exact ⟨id, row, (h.others id row hne).mpr hrow, rfl, hopen⟩

-- An under-utilised resource has an open recommendation, and a healthy one none.
theorem hasOpen_underUtilised (hverdict : reads.verdict monitor = .underUtilised) :
    after.HasOpen monitor.resourceId := by
  cases h with
  | unjudged hother | healthy hother | resolved _ _ hother => simp [hverdict] at hother
  | inserted type reasonText saving _ _ hafter =>
      have hnew : after.rows.lookup (reads.newId table.rows) =
          some (newRecommendation reads monitor.resourceId type reasonText saving) := by
        rw [hafter]
        exact AList.lookup_insert _
      exact ⟨_, _, hnew, rfl, rfl⟩
  | updated id row type reasonText saving _ hopen hafter =>
      obtain ⟨-, hresource, hstatus⟩ := Recommendations.openRecommendation_eq_some.mp hopen
      have hrow : after.rows.lookup id = some (row.refresh type reasonText saving reads.now) := by
        rw [hafter]
        exact AList.lookup_insert _
      exact ⟨id, _, hrow, hresource, hstatus⟩

theorem hasOpen_healthy (hverdict : reads.verdict monitor = .healthy) :
    ¬ after.HasOpen monitor.resourceId := by
  cases h with
  | unjudged hother => simp [hverdict] at hother
  | inserted _ _ _ hother | updated _ _ _ _ _ hother => simp [hverdict] at hother
  | healthy _ hopen hafter => exact hafter ▸ hopen
  | resolved id row _ hopen hafter =>
      obtain ⟨hlookup, hresource, hstatus⟩ := Recommendations.openRecommendation_eq_some.mp hopen
      rintro ⟨other, otherRow, hother, hsame, hotherOpen⟩
      rw [hafter, Table.lookup_insert_eq] at hother
      split at hother
      · obtain rfl := Option.some.inj hother
        cases hotherOpen
      · rename_i hne
        exact hne (table.oneOpen other id otherRow row hother hlookup hotherOpen hstatus
          (hsame.trans hresource.symm))

theorem unchanged (hidle : Idles reads table monitor) : after = table := by
  cases h with
  | unjudged _ hafter => exact hafter
  | healthy _ _ hafter => exact hafter
  | inserted _ _ _ hother | updated _ _ _ _ _ hother => simp [Idles, hother] at hidle
  | resolved id row hother hopen =>
      obtain ⟨hlookup, hresource, hstatus⟩ := Recommendations.openRecommendation_eq_some.mp hopen
      simp only [Idles, hother, reduceCtorEq, true_and, false_or] at hidle
      exact absurd ⟨id, row, hlookup, hresource, hstatus⟩ hidle

end Evaluated

-- Samples and nothing else, of which "3" and "50" are numbers.
def readings (checks : List MonitorCheck) : SweepReads where
  checks := checks
  fault _ := none
  castFloat text := if text = "3" then some 3 else if text = "50" then some 50 else none
  toFixed _ _ := ""
  cloudCredentialId _ := none
  servers := []
  costLineItems := ∅
  newId := (Solo.counting Recommendation).newId
  fresh := (Solo.counting Recommendation).fresh
  now := 1000
  today := ⟨2026, 7, 1⟩

end CloudOps.Cost

namespace CloudOps.Cost

open CloudOps.ReadCommitted CloudOps.SharedTransaction
open CloudOps.Ticketing (Uuid)

variable {reads : SweepReads} {monitors : List CloudMetricMonitor} {resourceId : Uuid}

-- A pass leaves the same resources with an open recommendation in any order of the
-- monitors.
def OrderFree (reads : SweepReads) (table : Recommendations) (monitors : List CloudMetricMonitor) : Prop :=
  ∀ first second, first.Perm monitors → second.Perm monitors → ∀ resourceId,
    ((commit (sweepMonitors reads first) table).HasOpen resourceId ↔
      (commit (sweepMonitors reads second) table).HasOpen resourceId)

-- No two monitors of the resource say the opposite.
def AgreeOn (reads : SweepReads) (monitors : List CloudMetricMonitor) (resourceId : Uuid) : Prop :=
  ∀ monitor ∈ monitors, ∀ other ∈ monitors, monitor.resourceId = resourceId → other.resourceId = resourceId →
    reads.verdict monitor = .underUtilised → reads.verdict other ≠ .healthy

-- The last monitor of a resource decides.
theorem hasOpen_last {before : List CloudMetricMonitor} {monitor : CloudMetricMonitor}
    (h : ∀ other ∈ before ++ [monitor], reads.malformed other = false) (table : Recommendations) :
    (reads.verdict monitor = .underUtilised →
      (commit (sweepMonitors reads (before ++ [monitor])) table).HasOpen monitor.resourceId) ∧
    (reads.verdict monitor = .healthy →
      ¬ (commit (sweepMonitors reads (before ++ [monitor])) table).HasOpen monitor.resourceId) := by
  have hmonitor : reads.malformed monitor = false := h monitor (by simp)
  rw [sweep_append h]
  have hlast := sweep_singleton hmonitor (commit (sweepMonitors reads before) table)
  exact ⟨hlast.hasOpen_underUtilised, hlast.hasOpen_healthy⟩

-- Where they agree, the open recommendations follow from which monitors there are.
theorem hasOpen_sweep (h : ∀ monitor ∈ monitors, reads.malformed monitor = false)
    (hagree : AgreeOn reads monitors resourceId) (table : Recommendations) :
    (commit (sweepMonitors reads monitors) table).HasOpen resourceId ↔
      (∃ monitor ∈ monitors, monitor.resourceId = resourceId ∧ reads.verdict monitor = .underUtilised) ∨
        table.HasOpen resourceId ∧
          ∀ monitor ∈ monitors, monitor.resourceId = resourceId → reads.verdict monitor ≠ .healthy := by
  induction monitors generalizing table with
  | nil =>
      have hsame : commit (sweepMonitors reads []) table = table := rfl
      simp [hsame]
  | cons monitor rest ih =>
      obtain ⟨hmonitor, hrest⟩ := List.forall_mem_cons.mp h
      have hrestAgree : AgreeOn reads rest resourceId := fun first hfirst second hsecond =>
        hagree first (List.mem_cons_of_mem _ hfirst) second (List.mem_cons_of_mem _ hsecond)
      have hone := sweep_singleton hmonitor table
      rw [sweep_cons h, ih hrest hrestAgree]
      simp only [List.exists_mem_cons_iff, List.forall_mem_cons]
      by_cases hresource : resourceId = monitor.resourceId
      · subst hresource
        cases hverdict : reads.verdict monitor with
        | malformed => simp [SweepReads.malformed, hverdict] at hmonitor
        | unjudged =>
            rw [hone.unchanged (.inl hverdict)]
            simp
        | healthy =>
            have hnone := hone.hasOpen_healthy hverdict
            have hnoUnder : ¬ ∃ other ∈ rest, other.resourceId = monitor.resourceId ∧
                reads.verdict other = .underUtilised := by
              rintro ⟨other, hother, hsame, hunder⟩
              exact hagree other (List.mem_cons_of_mem _ hother) monitor List.mem_cons_self hsame rfl hunder
                hverdict
            simp [hnone, hnoUnder]
        | underUtilised =>
            have hopen := hone.hasOpen_underUtilised hverdict
            have hnoHealthy : ∀ other ∈ rest, other.resourceId = monitor.resourceId →
                reads.verdict other ≠ .healthy := by
              intro other hother hsame
              exact hagree monitor List.mem_cons_self other (List.mem_cons_of_mem _ hother) rfl hsame hverdict
            simp only [hopen, true_and, true_or, iff_true]
            exact .inr hnoHealthy
      · rw [hone.hasOpen_others hresource]
        simp [Ne.symm hresource]

theorem perm_last {α : Type} [DecidableEq α] {items : List α} {item : α} (h : item ∈ items) :
    (items.erase item ++ [item]).Perm items :=
  (List.perm_append_singleton _ _).trans (List.perm_cons_erase h).symm

-- Two metrics of one server, one averaging 3 % and the other 50 %.
def cpuMonitor : CloudMetricMonitor := ⟨1, 7, "web-1"⟩

def memoryMonitor : CloudMetricMonitor := ⟨2, 7, "web-1"⟩

def twoMetrics : SweepReads := readings [⟨1, 0, some (some "3")⟩, ⟨2, 0, some (some "50")⟩]

end CloudOps.Cost
