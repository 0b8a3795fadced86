import CloudOps.Monitoring.MetricAlertRule
import CloudOps.Ticketing.ReportBuilder
import CloudOps.Transaction

namespace CloudOps.Ticketing.Reports

open CloudOps.Js (mem_of_lookup objectPrototype objectPrototype_nonempty Value)
open CloudOps.Monitoring (METRIC_SQL_TEXT metricValueSqlText)
open CloudOps.Transaction (bind_eq_ok)

-- What a look-up finds something under: a key of the table, or a property of every object.
def Found (map : List (String × String)) (token : String) : Prop :=
  (map.lookup token).isSome ∨ (objectPrototype.lookup token).isSome

theorem lookup_ok_iff {map : List (String × String)} (hmap : ∀ entry ∈ map, entry.2 ≠ "") (token label : String) :
    (∃ sql, lookup map token label = .ok sql) ↔ Found map token := by
  unfold Found lookup
  cases hown : map.lookup token with
  | some sql =>
    have hne : sql ≠ "" := hmap _ (mem_of_lookup hown)
    simp
  | none =>
    cases hproto : objectPrototype.lookup token with
    | some text =>
      have hne : text ≠ "" := objectPrototype_nonempty _ (mem_of_lookup hproto)
      simp
    | none => simp

-- The tokens of a config, each with the table it is looked up in.
def tokens (config : ReportConfig) : List (List (String × String) × String) :=
  [(METRIC_SQL, config.metric), (FIELD_SQL, config.groupBy),
    (DATE_FIELD_SQL, config.dateField.getD "created_at")]
  ++ (config.filters.getD []).map fun filter => (FIELD_SQL, filter.field)

theorem ownTokens_iff (config : ReportConfig) :
    OwnTokens config ↔ ∀ entry ∈ tokens config, (entry.1.lookup entry.2).isSome := by
  constructor
  · rintro ⟨hmetric, hgroupBy, hdateField, hfilters⟩
    simp only [tokens, List.forall_mem_append, List.forall_mem_cons, List.forall_mem_map]
    exact ⟨⟨hmetric, hgroupBy, hdateField, by simp⟩, hfilters⟩
  · intro h
    simp only [tokens, List.forall_mem_append, List.forall_mem_cons, List.forall_mem_map] at h
    exact ⟨h.1.1, h.1.2.1, h.1.2.2.1, h.2⟩

theorem bind_isOk {α β : Type} (first : Except ServiceError α) (next : α → Except ServiceError β) :
    (∃ result, first >>= next = .ok result) ↔ ∃ value, first = .ok value ∧ ∃ result, next value = .ok result := by
  simp only [bind_eq_ok]
  rw [exists_comm]
  simp only [exists_and_left]

theorem foldlM_pushFilter_isOk (filters : List ReportFilter) (built : Conditions) :
    (∃ after, filters.foldlM pushFilter built = .ok after) ↔ ∀ filter ∈ filters, Found FIELD_SQL filter.field := by
  induction filters generalizing built with
  | nil => simp [pure, Except.pure]
  | cons filter rest ih =>
    have hpush : (∃ pushed, pushFilter built filter = .ok pushed) ↔ Found FIELD_SQL filter.field := by
      rw [← lookup_ok_iff FIELD_SQL_ne filter.field "filter field", pushFilter, bind_isOk]
      simp [pure, Except.pure]
    rw [List.foldlM_cons, bind_isOk, List.forall_mem_cons, ← hpush]
    simp only [ih, exists_and_right]

-- A query is built exactly where every token is found.
theorem buildReportQuery_isOk (config : ReportConfig) :
    (∃ query, buildReportQuery config = .ok query) ↔ ∀ entry ∈ tokens config, Found entry.1 entry.2 := by
  have hmetric := lookup_ok_iff METRIC_SQL_ne config.metric "metric"
  have hgroupBy := lookup_ok_iff FIELD_SQL_ne config.groupBy "groupBy dimension"
  have hdateField := lookup_ok_iff DATE_FIELD_SQL_ne (config.dateField.getD "created_at") "dateField"
  have hfilters := foldlM_pushFilter_isOk (config.filters.getD [])
  have hlast : ∀ query : BuiltReportQuery,
      ∃ result, (pure query : Except ServiceError BuiltReportQuery) = .ok result := fun query => ⟨query, rfl⟩
  simp only [tokens, List.forall_mem_append, List.forall_mem_cons, List.forall_mem_map]
  rw [← hmetric, ← hgroupBy, ← hdateField, buildReportQuery]
  simp only [bind_isOk, hlast, and_true, hfilters]
  simp [and_assoc]

-- A query made of entries of the tables throughout.
def FromTables (config : ReportConfig) (query : BuiltReportQuery) : Prop :=
  OwnTokens config
    ∧ query.sql = reportSql ((FIELD_SQL.lookup config.groupBy).getD "") ((METRIC_SQL.lookup config.metric).getD "")
        (joinClause config.metric) (whereClause (numbered 1 (bounds config)))

-- No token is one that only Object.prototype knows, or another is not known at all.
def Allowlisted (config : ReportConfig) : Prop :=
  (∀ entry ∈ tokens config, (entry.1.lookup entry.2).isSome) ∨ ∃ entry ∈ tokens config, ¬ Found entry.1 entry.2

theorem allowlisted_iff (config : ReportConfig) :
    Allowlisted config ↔ ((∃ query, buildReportQuery config = .ok query) → OwnTokens config) := by
  rw [buildReportQuery_isOk, ownTokens_iff, Allowlisted]
  have hmissing : (∃ entry ∈ tokens config, ¬ Found entry.1 entry.2)
      ↔ ¬ ∀ entry ∈ tokens config, Found entry.1 entry.2 := by push Not; rfl
  rw [hmissing]
  tauto

theorem validateAnswer_ok_iff (isDateText : String → Bool) (parsed : List (String × Value)) (config : ReportConfig) :
    validateAnswer isDateText parsed = .ok config
      ↔ coerce isDateText parsed = .ok config ∧ ∃ query, buildReportQuery config = .ok query := by
  unfold validateAnswer
  cases coerce isDateText parsed with
  | error message => simp
  | ok proposed =>
    cases hbuilt : buildReportQuery proposed with
    | error error =>
      simp only [hbuilt, reduceCtorEq, Except.ok.injEq, false_iff, not_and]
      rintro rfl ⟨query, hquery⟩
      simp [hbuilt] at hquery
    | ok query =>
      simp only [hbuilt, Except.ok.injEq, iff_self_and]
      rintro rfl
      exact ⟨query, hbuilt⟩

theorem METRIC_SQL_TEXT_own : ∀ entry ∈ METRIC_SQL_TEXT, objectPrototype.lookup entry.1 = none := by decide

theorem metricValueSqlText_ok_iff (metric : String) :
    (∀ sql, metricValueSqlText metric = .ok sql → METRIC_SQL_TEXT.lookup metric = some sql)
      ↔ objectPrototype.lookup metric = none := by
  unfold metricValueSqlText
  cases hown : METRIC_SQL_TEXT.lookup metric with
  | some text =>
    have hproto : objectPrototype.lookup metric = none := METRIC_SQL_TEXT_own _ (mem_of_lookup hown)
    by_cases hempty : text = ""
    · simp [hproto, hempty]
    · simp [hproto]
  | none =>
    cases hproto : objectPrototype.lookup metric with
    | some text =>
      have hne : text ≠ "" := objectPrototype_nonempty _ (mem_of_lookup hproto)
      simp
    | none => simp

-- Where a config has only tokens that its tables own, or one that nothing is found under,
-- what comes out is made of entries of the tables; the same for the metric of an alert
-- rule, and for what a model has proposed.
theorem report_tokens_allowlisted_iff (config : ReportConfig) (metric : String) (isDateText : String → Bool)
    (parsed : List (String × Js.Value)) :
    ((∀ query, buildReportQuery config = .ok query → FromTables config query) ↔ Allowlisted config)
    ∧ ((∀ sql, metricValueSqlText metric = .ok sql → METRIC_SQL_TEXT.lookup metric = some sql)
        ↔ objectPrototype.lookup metric = none)
    ∧ ((∀ answer, validateAnswer isDateText parsed = .ok answer → OwnTokens answer)
        ↔ ∀ answer, coerce isDateText parsed = .ok answer → Allowlisted answer) := by
  refine ⟨?_, metricValueSqlText_ok_iff metric, ?_⟩
  · rw [allowlisted_iff]
    constructor
    · rintro h ⟨query, hquery⟩
      exact (h query hquery).1
    · intro h query hquery
      have hown := h ⟨query, hquery⟩
      rw [buildReportQuery_own hown] at hquery
      cases hquery
      exact ⟨hown, rfl⟩
  · simp only [allowlisted_iff, validateAnswer_ok_iff]
    constructor
    · intro h config hconfig hbuilt
      exact h config ⟨hconfig, hbuilt⟩
    · rintro h config ⟨hconfig, hbuilt⟩
      exact h config hconfig hbuilt

def constructorConfig : ReportConfig where
  metric := "constructor"
  groupBy := "status"
  filters := none
  dateField := none
  dateRange := none

-- A report, an alert rule and a model's proposal that take "constructor" as their metric.
theorem inherited_tokens_accepted :
    (∃ query, buildReportQuery constructorConfig = .ok query ∧ ¬ FromTables constructorConfig query)
      ∧ (∃ sql, metricValueSqlText "constructor" = .ok sql ∧ METRIC_SQL_TEXT.lookup "constructor" ≠ some sql)
      ∧ validateAnswer (fun _ => true) [("metric", .string "constructor"), ("groupBy", .string "status")]
          = .ok constructorConfig
      ∧ ¬ OwnTokens constructorConfig := by
  have hown : ¬ OwnTokens constructorConfig := fun h => absurd h.metric (by decide)
  exact ⟨⟨_, rfl, fun h => hown h.1⟩, ⟨_, rfl, by decide⟩, rfl, hown⟩

end CloudOps.Ticketing.Reports
