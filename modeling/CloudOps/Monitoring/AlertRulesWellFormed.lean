import CloudOps.Monitoring.AlertRulesService
import CloudOps.Runs

namespace CloudOps.Monitoring.AlertRules

open CloudOps.ReadCommitted CloudOps.Transaction CloudOps.Runs
open CloudOps.Ticketing (Patch)

def Known (metric : Option String) : Prop := ∃ name ∈ METRICS, metric = some name

-- The evaluation has a value to compare, and a column to compare it with is NULL.
def ComparesNull (rule : AlertRule) (checks : List MonitorCheck) : Prop :=
  ∃ valueSql value, metricValueSql rule.metric = .ok valueSql ∧
    some value ∈ ((latestFirst checks).map valueSql).take rule.forConsecutive ∧
    if rule.ruleKind = .threshold then rule.comparator = none ∨ rule.threshold = none
    else rule.anomalySensitivity = none

structure WellFormed (rule : AlertRule) : Prop where
  threshold : rule.ruleKind = .threshold → Known rule.metric ∧ rule.comparator.isSome ∧ rule.threshold.isSome
  anomaly : rule.ruleKind = .anomaly → Known rule.metric ∧ rule.anomalySensitivity.isSome
  evaluates : rule.ruleKind ≠ .status → ∀ checks,
    (∃ evaluation, evaluateMetricRule rule checks = .ok evaluation) ∧ ¬ ComparesNull rule checks

def RulesWellFormed (store : RuleStore) : Prop :=
  ∀ id row, store.alertRules.lookup id = some row → WellFormed row.toAlertRule

-- The columns an UPDATE of the row would set take what the body has for them. That the jsonb of
-- `condition` refuses a text with a NUL is left out.
structure Takes (driver : Driver) (store : RuleStore) (dto : UpdateAlertRuleDto) : Prop where
  severity : dto.severity ≠ .null
  isEnabled : dto.isEnabled ≠ .null
  forConsecutive : dto.forConsecutive ≠ .null
  inRange : ∀ value, dto.forConsecutive = .value value → value < 2 ^ 31
  threshold : ∀ value ∈ dto.threshold, value.isNull = false → (driver.float8in (driver.text value)).isSome
  anomalySensitivity : ∀ value ∈ dto.anomalySensitivity, value.isNull = false →
    (driver.float8in (driver.text value)).isSome
  policy : store.refers dto.escalationPolicyId = true

-- The update makes a metric rule of one whose metric nothing has checked: the metric is no
-- empty text and none of METRICS, and the body brings no other.
structure SwitchesUnchecked (driver : Driver) (store : RuleStore) (dto : UpdateAlertRuleDto)
    (existing : AlertRuleRow) : Prop where
  metric : dto.metric = none
  stored : ∃ name, existing.metric = some name ∧ name ≠ "" ∧ name ∉ METRICS
  kind : dto.ruleKind = .value .threshold ∧ (dto.fields existing.toAlertRule).comparator = true ∧
      (dto.fields existing.toAlertRule).threshold = true ∨
    dto.ruleKind = .value .anomaly ∧ (dto.fields existing.toAlertRule).anomalySensitivity = true
  takes : Takes driver store dto

def KeepsChecked (driver : Driver) (store : RuleStore) : RuleCall → Prop
  | .create _ _ => True
  | .update id dto _ => ∀ existing, store.alertRules.lookup id = some existing →
      ¬ SwitchesUnchecked driver store dto existing

theorem lookup_of_mem_keys {α : Type} {entries : List (String × α)} {key : String}
    (h : key ∈ entries.map Prod.fst) : ∃ value, entries.lookup key = some value := by
  obtain ⟨entry, hentry, rfl⟩ := List.mem_map.mp h
  apply Option.isSome_iff_exists.mp
  rw [List.lookup_isSome_iff]
  exact ⟨entry, hentry, beq_self_eq_true entry.1⟩

section Evaluation

variable {rule : AlertRule}

theorem metricValueSql_of_known (h : Known rule.metric) :
    ∃ valueSql, metricValueSql rule.metric = .ok valueSql := by
  obtain ⟨name, hname, hmetric⟩ := h
  have hkeys : METRICS = METRIC_SQL.map Prod.fst := rfl
  obtain ⟨valueSql, hlookup⟩ := lookup_of_mem_keys (hkeys ▸ hname)
  refine ⟨valueSql, ?_⟩
  rw [metricValueSql, hmetric, Option.bind_some, hlookup]

-- A metric rule with the columns of its kind is evaluated, and against no NULL.
theorem wellFormed_of (hmetric : rule.ruleKind ≠ .status → Known rule.metric)
    (hthreshold : rule.ruleKind = .threshold → rule.comparator.isSome ∧ rule.threshold.isSome)
    (hanomaly : rule.ruleKind = .anomaly → rule.anomalySensitivity.isSome) : WellFormed rule where
  threshold hkind := ⟨hmetric (by rw [hkind]; decide), hthreshold hkind⟩
  anomaly hkind := ⟨hmetric (by rw [hkind]; decide), hanomaly hkind⟩
  evaluates hkind checks := by
    obtain ⟨valueSql, hsql⟩ := metricValueSql_of_known (hmetric hkind)
    refine ⟨?_, ?_⟩
    · rw [evaluateMetricRule, hsql]
      exact ⟨_, rfl⟩
    · rintro ⟨-, -, -, -, hnull⟩
      cases hcase : rule.ruleKind with
      | status => exact hkind hcase
      | threshold =>
          obtain ⟨hcomparator, hbound⟩ := hthreshold hcase
          rw [if_pos hcase] at hnull
          rcases hnull with hnone | hnone
          · rw [hnone] at hcomparator
            cases hcomparator
          · rw [hnone] at hbound
            cases hbound
      | anomaly =>
          have hsensitivity := hanomaly hcase
          rw [if_neg (by rw [hcase]; decide)] at hnull
          rw [hnull] at hsensitivity
          cases hsensitivity

theorem WellFormed.known (h : WellFormed rule) (hkind : rule.ruleKind ≠ .status) : Known rule.metric := by
  cases hcase : rule.ruleKind with
  | status => exact absurd hcase hkind
  | threshold => exact (h.threshold hcase).1
  | anomaly => exact (h.anomaly hcase).1

end Evaluation

section Columns

variable {driver : Driver} {α : Type} {read : String → Except ServiceError α} {existing stored : Option α}
  {property : Option Js.Value}

theorem present_of_ne_null {value : Js.Value} (h : value ≠ .null) : present value = true := by
  unfold present Js.Value.isNull
  split
  · exact absurd rfl h
  · rfl

-- A column holds something afterwards if the merged value is not null.
theorem column_isSome (h : column driver read existing property = .ok stored) :
    stored.isSome = merged present existing.isSome property := by
  unfold column at h
  split at h
  · obtain rfl := Except.ok.inj h
    rfl
  · obtain rfl := Except.ok.inj h
    rfl
  · rename_i value hnull
    rw [map_eq_pure_bind, bind_eq_ok] at h
    obtain ⟨result, -, hstored⟩ := h
    obtain rfl := Except.ok.inj hstored
    exact (present_of_ne_null fun heq => hnull heq).symm

-- What is true of a value and not of null.
theorem present_of {asked : Js.Value → Bool} (hnull : asked .null = false) {value : Js.Value}
    (h : asked value = true) : present value = true := by
  refine present_of_ne_null ?_
  rintro rfl
  rw [hnull] at h
  cases h

theorem merged_mono {asked other : Js.Value → Bool} {stored : Bool}
    (himp : ∀ value, asked value = true → other value = true) (h : merged asked stored property = true) :
    merged other stored property = true := by
  cases property with
  | none => exact h
  | some value => exact himp value h

theorem known_of_isIn {value : Js.Value} {before metric : Option String} (hin : isIn METRICS value = true)
    (h : column driver textin before (some value) = .ok metric) : Known metric := by
  unfold isIn at hin
  split at hin
  · rename_i text
    simp only [column, driver.text_string, map_eq_pure_bind, bind_eq_ok] at h
    obtain ⟨name, hname, hmetric⟩ := h
    obtain rfl := Except.ok.inj hmetric
    unfold textin at hname
    split_ifs at hname
    obtain rfl := Except.ok.inj hname
    exact ⟨text, List.contains_iff_mem.mp hin, rfl⟩
  · cases hin

theorem of_validateIf {condition : Bool} {validators : Js.Value → Bool}
    (h : validateIf condition validators property = true) (hcondition : condition = true) :
    ∃ value, property = some value ∧ validators value = true := by
  rw [validateIf, hcondition, Bool.not_true, Bool.false_or, Option.any_eq_true] at h
  exact h

theorem assigned_eq {column : String} {before after : α} {given : Patch α}
    (h : assigned column before given = .ok after) : given ≠ .null ∧ after = nullish before given := by
  cases given with
  | undefined => exact ⟨by simp, (Except.ok.inj h).symm⟩
  | null => cases h
  | value _ => exact ⟨by simp, (Except.ok.inj h).symm⟩

theorem assigned_ok (column : String) (before : α) {given : Patch α} (h : given ≠ .null) :
    ∃ after, assigned column before given = .ok after := by
  cases given with
  | undefined => exact ⟨before, rfl⟩
  | null => exact absurd rfl h
  | value new => exact ⟨new, rfl⟩

theorem assignedInt_ok_iff (column : String) (before : Nat) (given : Patch Nat) :
    (∃ after, assignedInt column before given = .ok after) ↔
      given ≠ .null ∧ ∀ value, given = .value value → value < 2 ^ 31 := by
  cases given with
  | undefined => exact iff_of_true ⟨before, rfl⟩ ⟨by simp, by simp⟩
  | null => exact iff_of_false (by rintro ⟨_, h⟩; cases h) fun h => h.1 rfl
  | value value =>
      by_cases hrange : value < 2 ^ 31
      · exact iff_of_true ⟨value, if_pos hrange⟩ ⟨by simp, by rintro _ ⟨⟩; exact hrange⟩
      · refine iff_of_false ?_ fun h => hrange (h.2 value rfl)
        rintro ⟨after, h⟩
        simp only [assignedInt, intin, if_neg hrange] at h
        cases h

theorem column_ok_iff (driver : Driver) (read : String → Except ServiceError α) (existing : Option α)
    (property : Option Js.Value) : (∃ after, column driver read existing property = .ok after) ↔
    ∀ value ∈ property, value.isNull = false → ∃ result, read (driver.text value) = .ok result := by
  cases property with
  | none => exact iff_of_true ⟨existing, rfl⟩ (by simp)
  | some value =>
      by_cases hnull : value = .null
      · subst hnull
        exact iff_of_true ⟨none, rfl⟩ (by rintro _ ⟨⟩ h; cases h)
      · have hpresent : value.isNull = false := by
          have h := present_of_ne_null hnull
          rwa [present, Bool.not_eq_true'] at h
        have hcolumn : column driver read existing (some value) = some <$> read (driver.text value) := by
          unfold column
          split
          · rename_i h
            cases h
          · rename_i h
            exact absurd (Option.some.inj h) hnull
          · rename_i h
            rw [Option.some.inj h]
        rw [hcolumn]
        cases hread : read (driver.text value) with
        | error error => simp [hread, hpresent]
        | ok result => simp [hread]

theorem doublein_ok_iff (text : String) :
    (∃ result, doublein driver text = .ok result) ↔ (driver.float8in text).isSome := by
  unfold doublein
  cases driver.float8in text with
  | none => simp
  | some value => simp

end Columns

section Create

variable {driver : Driver} {dto : CreateAlertRuleDto} {store : RuleStore} {row : AlertRuleRow}

theorem nullish_status {given : Patch AlertRuleKind} {kind : AlertRuleKind} (hkind : kind ≠ .status)
    (h : nullish .status given = kind) : given = .value kind := by
  cases given with
  | undefined => exact absurd h.symm hkind
  | null => exact absurd h.symm hkind
  | value _ => exact congrArg Patch.value h

-- The validators and the kind leave no metric rule without its columns.
theorem created_wellFormed {id : Nat} (hvalid : dto.passes = true) (hrow : dto.row driver id = .ok row) :
    WellFormed row.toAlertRule := by
  simp only [CreateAlertRuleDto.passes, Bool.and_eq_true] at hvalid
  obtain ⟨⟨⟨⟨hmetric, hcomparator⟩, hthreshold⟩, -⟩, hsensitivity⟩ := hvalid
  unfold CreateAlertRuleDto.row at hrow
  obtain ⟨metric, hmetricColumn, hrow⟩ := bind_eq_ok.mp hrow
  obtain ⟨comparator, hcomparatorColumn, hrow⟩ := bind_eq_ok.mp hrow
  obtain ⟨threshold, hthresholdColumn, hrow⟩ := bind_eq_ok.mp hrow
  obtain ⟨forConsecutive, -, hrow⟩ := bind_eq_ok.mp hrow
  obtain ⟨anomalySensitivity, hsensitivityColumn, hrow⟩ := bind_eq_ok.mp hrow
  obtain rfl := Except.ok.inj hrow
  refine wellFormed_of ?_ ?_ ?_
  · intro hkind
    have hasked : (dto.ruleKind = .value .threshold || dto.ruleKind = .value .anomaly) = true := by
      have hgiven := nullish_status hkind rfl
      rw [hgiven]
      cases hcase : nullish AlertRuleKind.status dto.ruleKind with
      | status => exact absurd hcase hkind
      | threshold => rfl
      | anomaly => rfl
    obtain ⟨value, hvalue, hin⟩ := of_validateIf hmetric hasked
    rw [hvalue] at hmetricColumn
    exact known_of_isIn hin hmetricColumn
  · intro hkind
    have hasked : decide (dto.ruleKind = .value .threshold) = true :=
      decide_eq_true (nullish_status (by decide) hkind)
    obtain ⟨value, hvalue, hin⟩ := of_validateIf hcomparator hasked
    obtain ⟨bound, hbound, hnumber⟩ := of_validateIf hthreshold hasked
    rw [hvalue] at hcomparatorColumn
    rw [hbound] at hthresholdColumn
    exact ⟨(column_isSome hcomparatorColumn).trans (present_of rfl hin),
      (column_isSome hthresholdColumn).trans (present_of rfl hnumber)⟩
  · intro hkind
    have hasked : decide (dto.ruleKind = .value .anomaly) = true :=
      decide_eq_true (nullish_status (by decide) hkind)
    obtain ⟨value, hvalue, hnumber⟩ := of_validateIf hsensitivity hasked
    rw [hvalue] at hsensitivityColumn
    have hpresent := present_of rfl (Bool.and_eq_true_iff.mp hnumber).1
    exact (column_isSome hsensitivityColumn).trans hpresent

theorem insert_wellFormed {id nextId : Nat} (h : RulesWellFormed store) (hrow : WellFormed row.toAlertRule) :
    RulesWellFormed { store with alertRules := store.alertRules.insert id row, nextId := nextId } := by
  intro other stored hlookup
  rw [Table.lookup_insert_eq] at hlookup
  split_ifs at hlookup
  · obtain rfl := Option.some.inj hlookup
    exact hrow
  · exact h other stored hlookup

theorem create_wellFormed (h : RulesWellFormed store) (hvalid : dto.passes = true) :
    RulesWellFormed (commit (create driver dto) store) := by
  have hcreate : Ensures (create driver dto) store fun _ after => RulesWellFormed after := by
    refine .get_bind ?_
    split
    · exact .throw _
    · refine .lift_bind fun _ _ => .lift_bind fun row hrow => ?_
      split
      · exact .throw _
      · split
        · exact .throw _
        · intro value after hrun
          obtain ⟨-, rfl⟩ := Prod.mk.inj (Except.ok.inj hrun)
          exact insert_wellFormed h (created_wellFormed hvalid hrow)
  exact hcreate.commit h

end Create

section Update

variable {driver : Driver} {dto : UpdateAlertRuleDto} {store : RuleStore} {existing row : AlertRuleRow} {id : Nat}

theorem assert_ok_iff (fields : RuleFields) : assertRuleKindFieldsPresent fields = .ok () ↔
    (fields.ruleKind = some .threshold →
      fields.metric = true ∧ fields.comparator = true ∧ fields.threshold = true) ∧
    (fields.ruleKind = some .anomaly → fields.metric = true ∧ fields.anomalySensitivity = true) := by
  unfold assertRuleKindFieldsPresent
  by_cases hthreshold : fields.ruleKind = some .threshold
  · simp [hthreshold, or_iff_not_imp_left]
  · by_cases hanomaly : fields.ruleKind = some .anomaly
    · simp [hanomaly, or_iff_not_imp_left]
    · simp [hthreshold, hanomaly]

-- What an UPDATE that goes through has read.
structure Updated (driver : Driver) (dto : UpdateAlertRuleDto) (existing row : AlertRuleRow) : Prop where
  severity : assigned "severity" existing.severity dto.severity = .ok row.severity
  isEnabled : assigned "is_enabled" existing.isEnabled dto.isEnabled = .ok row.isEnabled
  ruleKind : assigned "rule_kind" existing.ruleKind dto.ruleKind = .ok row.ruleKind
  metric : column driver textin existing.metric dto.metric = .ok row.metric
  comparator : column driver comparatorin existing.comparator dto.comparator = .ok row.comparator
  threshold : column driver (doublein driver) existing.threshold dto.threshold = .ok row.threshold
  forConsecutive : assignedInt "for_consecutive" existing.forConsecutive dto.forConsecutive = .ok row.forConsecutive
  anomalySensitivity :
    column driver (doublein driver) existing.anomalySensitivity dto.anomalySensitivity = .ok row.anomalySensitivity

theorem updated_of_row (h : dto.row driver existing = .ok row) : Updated driver dto existing row := by
  unfold UpdateAlertRuleDto.row at h
  obtain ⟨severity, hseverity, h⟩ := bind_eq_ok.mp h
  obtain ⟨isEnabled, hisEnabled, h⟩ := bind_eq_ok.mp h
  obtain ⟨ruleKind, hruleKind, h⟩ := bind_eq_ok.mp h
  obtain ⟨metric, hmetric, h⟩ := bind_eq_ok.mp h
  obtain ⟨comparator, hcomparator, h⟩ := bind_eq_ok.mp h
  obtain ⟨threshold, hthreshold, h⟩ := bind_eq_ok.mp h
  obtain ⟨forConsecutive, hforConsecutive, h⟩ := bind_eq_ok.mp h
  obtain ⟨anomalySensitivity, hsensitivity, h⟩ := bind_eq_ok.mp h
  obtain rfl := Except.ok.inj h
  exact ⟨hseverity, hisEnabled, hruleKind, hmetric, hcomparator, hthreshold, hforConsecutive, hsensitivity⟩

theorem Updated.takes (h : Updated driver dto existing row) (hrefers : store.refers dto.escalationPolicyId = true) :
    Takes driver store dto where
  severity := (assigned_eq h.severity).1
  isEnabled := (assigned_eq h.isEnabled).1
  forConsecutive := ((assignedInt_ok_iff _ _ _).mp ⟨_, h.forConsecutive⟩).1
  inRange := ((assignedInt_ok_iff _ _ _).mp ⟨_, h.forConsecutive⟩).2
  threshold value hvalue hnull :=
    (doublein_ok_iff _).mp ((column_ok_iff _ _ _ _).mp ⟨_, h.threshold⟩ value hvalue hnull)
  anomalySensitivity value hvalue hnull :=
    (doublein_ok_iff _).mp ((column_ok_iff _ _ _ _).mp ⟨_, h.anomalySensitivity⟩ value hvalue hnull)
  policy := hrefers

theorem comparator_ok (driver : Driver) {value : Js.Value} (hin : isIn (COMPARATORS.map Prod.fst) value = true) :
    ∃ comparator, comparatorin (driver.text value) = .ok comparator := by
  unfold isIn at hin
  split at hin
  · rename_i text
    obtain ⟨comparator, hlookup⟩ := lookup_of_mem_keys (List.contains_iff_mem.mp hin)
    refine ⟨comparator, ?_⟩
    rw [driver.text_string, comparatorin, hlookup]
  · cases hin

theorem of_isOptional {validators : Js.Value → Bool} {property : Option Js.Value}
    (h : isOptional validators property = true) :
    ∀ value ∈ property, value.isNull = false → validators value = true := by
  rintro value rfl hnull
  unfold isOptional at h
  split at h
  · rename_i hnone
    cases hnone
  · rename_i hsome
    rw [Option.some.inj hsome] at hnull
    cases hnull
  · rename_i hsome
    rw [Option.some.inj hsome]
    exact h

-- An UPDATE whose columns take the body goes through.
theorem row_of_takes (hvalid : dto.passes = true) (htakes : Takes driver store dto) (hmetric : dto.metric = none)
    (hkind : dto.ruleKind ≠ .null) (existing : AlertRuleRow) : ∃ row, dto.row driver existing = .ok row := by
  simp only [UpdateAlertRuleDto.passes, Bool.and_eq_true] at hvalid
  obtain ⟨⟨⟨⟨-, hcomparators⟩, -⟩, -⟩, -⟩ := hvalid
  obtain ⟨severity, hseverity⟩ := assigned_ok "severity" existing.severity htakes.severity
  obtain ⟨isEnabled, hisEnabled⟩ := assigned_ok "is_enabled" existing.isEnabled htakes.isEnabled
  obtain ⟨ruleKind, hruleKind⟩ := assigned_ok "rule_kind" existing.ruleKind hkind
  have hmetricColumn : column driver textin existing.metric dto.metric = .ok existing.metric := by rw [hmetric]; rfl
  obtain ⟨comparator, hcomparator⟩ := (column_ok_iff driver comparatorin existing.comparator dto.comparator).mpr
    fun value hvalue hnull => comparator_ok driver (of_isOptional hcomparators value hvalue hnull)
  have hdoubles := column_ok_iff driver (doublein driver)
  obtain ⟨threshold, hthreshold⟩ := (hdoubles existing.threshold dto.threshold).mpr
    fun value hvalue hnull => (doublein_ok_iff _).mpr (htakes.threshold value hvalue hnull)
  obtain ⟨forConsecutive, hforConsecutive⟩ := (assignedInt_ok_iff "for_consecutive" existing.forConsecutive _).mpr
    ⟨htakes.forConsecutive, htakes.inRange⟩
  obtain ⟨sensitivity, hsensitivity⟩ := (hdoubles existing.anomalySensitivity dto.anomalySensitivity).mpr
    fun value hvalue hnull => (doublein_ok_iff _).mpr (htakes.anomalySensitivity value hvalue hnull)
  unfold UpdateAlertRuleDto.row
  simp only [bind_eq_ok]
  exact ⟨_, _, hseverity, _, hisEnabled, _, hruleKind, _, hmetricColumn, _, hcomparator, _, hthreshold, _,
    hforConsecutive, _, hsensitivity, rfl⟩

-- A row stays well formed unless the update makes a metric rule of one with an unknown metric.
theorem updated_wellFormed (hexisting : WellFormed existing.toAlertRule) (hvalid : dto.passes = true)
    (hassert : assertRuleKindFieldsPresent (dto.fields existing.toAlertRule) = .ok ())
    (hrow : dto.row driver existing = .ok row) (hrefers : store.refers dto.escalationPolicyId = true)
    (hchecked : ¬ SwitchesUnchecked driver store dto existing) : WellFormed row.toAlertRule := by
  have hupdated := updated_of_row hrow
  obtain ⟨hgiven, hruleKind⟩ := assigned_eq hupdated.ruleKind
  obtain ⟨hthreshold, hanomaly⟩ := (assert_ok_iff _).mp hassert
  have hkind : (dto.fields existing.toAlertRule).ruleKind = some row.ruleKind := congrArg some hruleKind.symm
  rw [hkind] at hthreshold hanomaly
  refine wellFormed_of ?_ ?_ ?_
  · intro hmetricRule
    have hmetric : merged truthy (existing.metric.any fun metric => metric != "") dto.metric = true := by
      cases hcase : row.ruleKind with
      | status => exact absurd hcase hmetricRule
      | threshold => exact (hthreshold (congrArg some hcase)).1
      | anomaly => exact (hanomaly (congrArg some hcase)).1
    have hcolumn := hupdated.metric
    cases hbody : dto.metric with
    | some value =>
        rw [hbody] at hmetric hcolumn
        simp only [UpdateAlertRuleDto.passes, Bool.and_eq_true] at hvalid
        have htruthy : truthy value = true := hmetric
        have hpresent : value.isNull = false := (Bool.not_eq_true' _).mp (present_of rfl htruthy)
        exact known_of_isIn (of_isOptional hvalid.1.1.1.1 value hbody hpresent) hcolumn
    | none =>
        rw [hbody] at hmetric hcolumn
        have hsame : row.metric = existing.metric := (Except.ok.inj hcolumn).symm
        obtain ⟨name, hname, hnonempty⟩ := Option.any_eq_true _ _ |>.mp hmetric
        rw [hsame]
        by_contra hunknown
        have hnot : name ∉ METRICS := fun hin => hunknown ⟨name, hin, hname⟩
        cases hpatch : dto.ruleKind with
        | null => exact hgiven hpatch
        | undefined =>
            -- the rule was a metric rule before
            have hkept : row.ruleKind = existing.ruleKind := by rw [hruleKind, hpatch]; rfl
            exact hunknown (hexisting.known (hkept ▸ hmetricRule))
        | value kind =>
            rw [hpatch] at hruleKind
            refine hchecked ⟨hbody, ⟨name, hname, by simpa using hnonempty, hnot⟩, ?_, hupdated.takes hrefers⟩
            cases kind with
            | status => exact absurd hruleKind hmetricRule
            | threshold => exact .inl ⟨hpatch, (hthreshold (congrArg some hruleKind)).2⟩
            | anomaly => exact .inr ⟨hpatch, (hanomaly (congrArg some hruleKind)).2⟩
  · intro hcase
    obtain ⟨-, hcomparator, hbound⟩ := hthreshold (congrArg some hcase)
    rw [column_isSome hupdated.comparator, column_isSome hupdated.threshold]
    exact ⟨merged_mono (fun _ => present_of rfl) hcomparator, hbound⟩
  · intro hcase
    rw [column_isSome hupdated.anomalySensitivity]
    exact (hanomaly (congrArg some hcase)).2

theorem update_wellFormed (h : RulesWellFormed store) (hvalid : dto.passes = true)
    (hchecked : ∀ existing, store.alertRules.lookup id = some existing →
      ¬ SwitchesUnchecked driver store dto existing) :
    RulesWellFormed (commit (update driver id dto) store) := by
  have hupdate : Ensures (update driver id dto) store fun _ after => RulesWellFormed after := by
    refine .get_bind ?_
    split
    · exact .throw _
    · rename_i existing hlookup
      refine .lift_bind fun _ hassert => ?_
      split
      · exact .pure h
      · refine .lift_bind fun row hrow => ?_
        split
        · exact .throw _
        · rename_i hrefers
          intro value after hrun
          obtain ⟨-, rfl⟩ := Prod.mk.inj (Except.ok.inj hrun)
          exact insert_wellFormed h (updated_wellFormed (h id existing hlookup) hvalid hassert hrow
            (by simpa using hrefers) (hchecked existing hlookup))
  exact hupdate.commit h

-- The other updates go through, and leave a metric rule whose metric nothing can read.
theorem checked_of_wellFormed (hvalid : dto.passes = true) (hlookup : store.alertRules.lookup id = some existing)
    (hafter : RulesWellFormed (commit (update driver id dto) store)) :
    ¬ SwitchesUnchecked driver store dto existing := by
  intro hswitches
  obtain ⟨name, hname, hnonempty, hunknown⟩ := hswitches.stored
  have hmetric : (dto.fields existing.toAlertRule).metric = true := by
    simp [UpdateAlertRuleDto.fields, hswitches.metric, merged, hname, hnonempty]
  have hgiven : dto.ruleKind ≠ .null ∧ isUndefined dto.ruleKind = false ∧
      nullish existing.ruleKind dto.ruleKind ≠ .status ∧
        assertRuleKindFieldsPresent (dto.fields existing.toAlertRule) = .ok () := by
    have hasked : ∀ kind, dto.ruleKind = .value kind →
        (dto.fields existing.toAlertRule).ruleKind = some kind := by
      intro kind hkind
      rw [UpdateAlertRuleDto.fields, hkind]
      rfl
    rw [assert_ok_iff]
    rcases hswitches.kind with ⟨hkind, hcomparator, hthreshold⟩ | ⟨hkind, hsensitivity⟩
    · rw [hasked _ hkind, hkind]
      exact ⟨by simp, rfl, by simp [nullish], fun _ => ⟨hmetric, hcomparator, hthreshold⟩, by simp⟩
    · rw [hasked _ hkind, hkind]
      exact ⟨by simp, rfl, by simp [nullish], by simp, fun _ => ⟨hmetric, hsensitivity⟩⟩
  obtain ⟨hnull, hdefined, hmetricRule, hassert⟩ := hgiven
  obtain ⟨row, hrow⟩ := row_of_takes hvalid hswitches.takes hswitches.metric hnull existing
  have hupdated := updated_of_row hrow
  have hrun : (update driver id dto).run store =
      .ok (row, { store with alertRules := store.alertRules.insert id row }) := by
    refine (run_bind_ok rfl).trans ?_
    rw [hlookup]
    refine (run_lift_ok hassert).trans ?_
    rw [if_neg (by simp [UpdateAlertRuleDto.isEmpty, hdefined])]
    refine (run_lift_ok hrow).trans ?_
    rw [if_neg (by simp [hswitches.takes.policy])]
    rfl
  rw [commit, hrun] at hafter
  have hrowKind : row.ruleKind ≠ .status := by
    rw [(assigned_eq hupdated.ruleKind).2]
    exact hmetricRule
  obtain ⟨known, hknown, hsame⟩ := (hafter id row (AList.lookup_insert _)).known hrowKind
  have hcolumn := hupdated.metric
  rw [hswitches.metric] at hcolumn
  rw [← Except.ok.inj hcolumn, hname] at hsame
  exact hunknown (Option.some.inj hsame ▸ hknown)

end Update

-- The tables of a tenant that has no rule yet.
def unruled (monitors escalationPolicies : List Nat) (nextId : Nat) : RuleStore :=
  ⟨monitors, escalationPolicies, ∅, nextId⟩

theorem unruled_wellFormed (monitors escalationPolicies : List Nat) (nextId : Nat) :
    RulesWellFormed (unruled monitors escalationPolicies nextId) := by
  intro id row hlookup
  cases hlookup

theorem rules_wellFormed_iff (driver : Driver) (monitors escalationPolicies : List Nat) (nextId : Nat)
    (calls : List RuleCall) :
    Always (ruleStep driver) RulesWellFormed (unruled monitors escalationPolicies nextId) calls ↔
      AllSteps (ruleStep driver) (KeepsChecked driver) (unruled monitors escalationPolicies nextId) calls := by
  refine always_iff_allSteps calls (unruled_wellFormed monitors escalationPolicies nextId) (fun _ h => h) ?_ ?_
  · intro store call h hkeeps
    cases call with
    | create dto valid => exact create_wellFormed h valid
    | update id dto valid => exact update_wellFormed h valid hkeeps
  · intro store call h hafter
    cases call with
    | create dto valid => trivial
    | update id dto valid => exact fun existing hlookup => checked_of_wellFormed valid hlookup hafter

-- A driver that writes and reads what the calls below need.
def plainDriver : Driver where
  text value := value.toText.toOption.getD ""
  text_string _ := rfl
  float8in text := if text = "90" then some 90 else none

-- The creation of a status rule with a metric that its kind has no use for.
def statusRule : CreateAlertRuleDto where
  monitorId := 1
  condition := .undefined
  severity := .undefined
  isEnabled := .undefined
  escalationPolicyId := .undefined
  ruleKind := .undefined
  metric := some (.string "bogus")
  comparator := none
  threshold := none
  forConsecutive := .undefined
  anomalySensitivity := none

def toThreshold : UpdateAlertRuleDto where
  condition := .undefined
  severity := .undefined
  isEnabled := .undefined
  escalationPolicyId := .undefined
  ruleKind := .value .threshold
  metric := none
  comparator := some (.string "gt")
  threshold := some (.number (Js.ofDecimal 90 0))
  forConsecutive := .undefined
  anomalySensitivity := none

def switchingCalls : List RuleCall :=
  [.create statusRule rfl, .update 1 toThreshold (by decide +kernel)]

def switched : RuleStore := run (ruleStep plainDriver) (unruled [1] [] 1) switchingCalls

theorem switched_unreadable :
    (∃ rule, switched.alertRules.lookup 1 = some rule ∧ rule.ruleKind = .threshold ∧ ∀ checks,
      evaluateMetricRule rule.toAlertRule checks = .error (.error "Unknown alert rule metric \"bogus\"")) ∧
    ¬ Always (ruleStep plainDriver) RulesWellFormed (unruled [1] [] 1) switchingCalls := by
  have hstored : (switched.alertRules.lookup 1).map (fun rule => (rule.ruleKind, rule.metric)) =
      some (.threshold, some "bogus") := by decide +kernel
  obtain ⟨rule, hlookup, hrule⟩ := Option.map_eq_some_iff.mp hstored
  obtain ⟨hkind, hmetric⟩ := Prod.mk.inj hrule
  refine ⟨⟨rule, hlookup, hkind, fun checks => ?_⟩, fun hwellFormed => ?_⟩
  · rw [evaluateMetricRule, hmetric]
    rfl
  · obtain ⟨name, hname, hbogus⟩ := ((hwellFormed.last 1 rule hlookup).threshold hkind).1
    rw [hmetric] at hbogus
    obtain rfl := Option.some.inj hbogus
    revert hname
    decide

end CloudOps.Monitoring.AlertRules
