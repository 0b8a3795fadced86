import CloudOps.Monitoring.MetricAlertRule
import CloudOps.Ticketing.Writes

namespace CloudOps.Monitoring.AlertRules

open CloudOps.ReadCommitted CloudOps.Transaction
open CloudOps.Ticketing (Patch)

def METRICS : List String :=
  ["response_time_ms", "cpu_percent", "mem_percent", "disk_percent", "cloud_metric_value"]

-- COMPARATORS, with what each is.
def COMPARATORS : List (String × MetricComparator) :=
  [("gt", .gt), ("gte", .gte), ("lt", .lt), ("lte", .lte)]

-- What node-pg writes for a value that is not null, and what Postgres reads in a text as a
-- double precision, none where it raises.
structure Driver where
  text : Js.Value → String
  text_string : ∀ string, text (.string string) = string
  float8in : String → Option Float

-- given ?? default
def nullish {α : Type} (default : α) : Patch α → α
  | .undefined | .null => default
  | .value value => value

section Validators

def isIn (values : List String) : Js.Value → Bool
  | .string text => values.contains text
  | _ => false

def isNumber : Js.Value → Bool
  | .number value => value.isFinite
  | _ => false

def min (bound : Float) : Js.Value → Bool
  | .number value => decide (bound ≤ value)
  | _ => false

-- The other validators of a property that may be undefined or null.
def isOptional (validators : Js.Value → Bool) : Option Js.Value → Bool
  | none | some .null => true
  | some value => validators value

-- The other validators of a property that is looked at under a condition only; none of
-- them takes undefined.
def validateIf (condition : Bool) (validators : Js.Value → Bool) (property : Option Js.Value) : Bool :=
  !condition || property.any validators

end Validators

-- A property is none where the body leaves it out. Those behind IsOptional alone have the
-- type that their other validators allow.
structure CreateAlertRuleDto where
  monitorId : Nat
  condition : Patch Js.Value
  severity : Patch Severity
  isEnabled : Patch Bool
  escalationPolicyId : Patch Nat
  ruleKind : Patch AlertRuleKind
  metric : Option Js.Value
  comparator : Option Js.Value
  threshold : Option Js.Value
  forConsecutive : Patch Nat
  anomalySensitivity : Option Js.Value

def CreateAlertRuleDto.passes (dto : CreateAlertRuleDto) : Bool :=
  validateIf (dto.ruleKind = .value .threshold || dto.ruleKind = .value .anomaly) (isIn METRICS) dto.metric &&
  validateIf (dto.ruleKind = .value .threshold) (isIn (COMPARATORS.map Prod.fst)) dto.comparator &&
  validateIf (dto.ruleKind = .value .threshold) isNumber dto.threshold &&
  decide (1 ≤ nullish 1 dto.forConsecutive) &&
  validateIf (dto.ruleKind = .value .anomaly) (fun value => isNumber value && min (Js.ofDecimal 1 (-1)) value)
    dto.anomalySensitivity

structure UpdateAlertRuleDto where
  condition : Patch Js.Value
  severity : Patch Severity
  isEnabled : Patch Bool
  escalationPolicyId : Patch Nat
  ruleKind : Patch AlertRuleKind
  metric : Option Js.Value
  comparator : Option Js.Value
  threshold : Option Js.Value
  forConsecutive : Patch Nat
  anomalySensitivity : Option Js.Value

def UpdateAlertRuleDto.passes (dto : UpdateAlertRuleDto) : Bool :=
  isOptional (isIn METRICS) dto.metric &&
  isOptional (isIn (COMPARATORS.map Prod.fst)) dto.comparator &&
  isOptional isNumber dto.threshold &&
  decide (1 ≤ nullish 1 dto.forConsecutive) &&
  isOptional (fun value => isNumber value && min (Js.ofDecimal 1 (-1)) value) dto.anomalySensitivity

-- A row of alert_rules with the columns that an evaluation does not read.
structure AlertRuleRow extends AlertRule where
  monitorId : Nat
  isEnabled : Bool
  escalationPolicyId : Option Nat

structure RuleStore where
  monitors : List Nat
  escalationPolicies : List Nat
  alertRules : Table Nat AlertRuleRow
  nextId : Nat

abbrev RuleM := StateT RuleStore (Except ServiceError)

-- What assertRuleKindFieldsPresent asks of a field: if it is truthy, or if it is not null.
structure RuleFields where
  ruleKind : Option AlertRuleKind
  metric : Bool
  comparator : Bool
  threshold : Bool
  anomalySensitivity : Bool

def assertRuleKindFieldsPresent (fields : RuleFields) : Except ServiceError Unit :=
  if fields.ruleKind = some .threshold ∧ (!fields.metric || !fields.comparator || !fields.threshold) = true then
    .error (.badRequest "A threshold rule requires metric, comparator, and threshold")
  else if fields.ruleKind = some .anomaly ∧ (!fields.metric || !fields.anomalySensitivity) = true then
    .error (.badRequest "An anomaly rule requires metric and anomalySensitivity")
  else .ok ()

def truthy : Js.Value → Bool
  | .null => false
  | .boolean value => value
  | .number value => value != Js.ofDecimal 0 0 && !value.isNaN
  | .string text => text != ""
  | .array _ | .object _ | .builtIn _ _ => true

def present (value : Js.Value) : Bool := !value.isNull

-- { ruleKind, ...dto }: a ruleKind of the body goes over the default, a null as well.
def CreateAlertRuleDto.fields (dto : CreateAlertRuleDto) : RuleFields :=
  { ruleKind :=
      match dto.ruleKind with
      | .undefined => some .status
      | .null => none
      | .value ruleKind => some ruleKind
    metric := dto.metric.any truthy
    comparator := dto.comparator.any truthy
    threshold := dto.threshold.any present
    anomalySensitivity := dto.anomalySensitivity.any present }

-- dto.field !== undefined ? dto.field : existing.field
def merged (asked : Js.Value → Bool) (existing : Bool) : Option Js.Value → Bool
  | none => existing
  | some value => asked value

def UpdateAlertRuleDto.fields (dto : UpdateAlertRuleDto) (existing : AlertRule) : RuleFields :=
  { ruleKind := some (nullish existing.ruleKind dto.ruleKind)
    metric := merged truthy (existing.metric.any fun metric => metric != "") dto.metric
    comparator := merged truthy existing.comparator.isSome dto.comparator
    threshold := merged present existing.threshold.isSome dto.threshold
    anomalySensitivity := merged present existing.anomalySensitivity.isSome dto.anomalySensitivity }

section Columns

variable (driver : Driver)

-- SET column = $1 of a column that takes no NULL.
def assigned {α : Type} (column : String) (existing : α) : Patch α → Except ServiceError α
  | .undefined => .ok existing
  | .null => .error (.error s!"null value in column \"{column}\" violates not-null constraint")
  | .value value => .ok value

-- A column that takes NULL, where the body leaves it as it is if it has no such property.
def column {α : Type} (read : String → Except ServiceError α) (existing : Option α) :
    Option Js.Value → Except ServiceError (Option α)
  | none => .ok existing
  | some .null => .ok none
  | some value => some <$> read (driver.text value)

def textin (text : String) : Except ServiceError String :=
  if text.toList.contains '\x00' = true then .error (.error "invalid byte sequence for encoding \"UTF8\": 0x00")
  else .ok text

-- CHECK (comparator IN ('gt', 'gte', 'lt', 'lte'))
def comparatorin (text : String) : Except ServiceError MetricComparator :=
  match COMPARATORS.lookup text with
  | some comparator => .ok comparator
  | none => .error (.error "new row violates check constraint \"alert_rules_comparator_check\"")

def doublein (text : String) : Except ServiceError Float :=
  match driver.float8in text with
  | some value => .ok value
  | none => .error (.error s!"invalid input syntax for type double precision: \"{text}\"")

def intin (value : Nat) : Except ServiceError Nat :=
  if value < 2 ^ 31 then .ok value else .error (.error s!"value \"{value}\" is out of range for type integer")

def assignedInt (column : String) (existing : Nat) : Patch Nat → Except ServiceError Nat
  | .value value => intin value
  | other => assigned column existing other

-- The texts of condition.statusIn, which a status rule goes by.
def statusIn : Js.Value → Option (List String)
  | .object properties =>
      match properties.lookup "statusIn" with
      | some (.array elements) =>
          some (elements.filterMap fun
            | .string text => some text
            | _ => none)
      | _ => none
  | _ => none

-- What INSERT makes of the body.
def CreateAlertRuleDto.row (dto : CreateAlertRuleDto) (id : Nat) : Except ServiceError AlertRuleRow := do
  let metric ← column driver textin none dto.metric
  let comparator ← column driver comparatorin none dto.comparator
  let threshold ← column driver (doublein driver) none dto.threshold
  let forConsecutive ← intin (nullish 1 dto.forConsecutive)
  let anomalySensitivity ← column driver (doublein driver) none dto.anomalySensitivity
  return {
    id := id
    monitorId := dto.monitorId
    statusIn :=
      match dto.condition with
      | .undefined | .null => some ["down", "critical"]
      | .value condition => statusIn condition
    severity := nullish .critical dto.severity
    isEnabled := nullish true dto.isEnabled
    escalationPolicyId := dto.escalationPolicyId.over none
    ruleKind := nullish .status dto.ruleKind
    metric := metric
    comparator := comparator
    threshold := threshold
    forConsecutive := forConsecutive
    anomalySensitivity := anomalySensitivity }

-- What UPDATE makes of the row.
def UpdateAlertRuleDto.row (dto : UpdateAlertRuleDto) (existing : AlertRuleRow) :
    Except ServiceError AlertRuleRow := do
  let severity ← assigned "severity" existing.severity dto.severity
  let isEnabled ← assigned "is_enabled" existing.isEnabled dto.isEnabled
  let ruleKind ← assigned "rule_kind" existing.ruleKind dto.ruleKind
  let metric ← column driver textin existing.metric dto.metric
  let comparator ← column driver comparatorin existing.comparator dto.comparator
  let threshold ← column driver (doublein driver) existing.threshold dto.threshold
  let forConsecutive ← assignedInt "for_consecutive" existing.forConsecutive dto.forConsecutive
  let anomalySensitivity ← column driver (doublein driver) existing.anomalySensitivity dto.anomalySensitivity
  return {
    id := existing.id
    monitorId := existing.monitorId
    statusIn :=
      match dto.condition with
      | .undefined => existing.statusIn
      | .null => none
      | .value condition => statusIn condition
    severity := severity
    isEnabled := isEnabled
    escalationPolicyId := dto.escalationPolicyId.over existing.escalationPolicyId
    ruleKind := ruleKind
    metric := metric
    comparator := comparator
    threshold := threshold
    forConsecutive := forConsecutive
    anomalySensitivity := anomalySensitivity }

end Columns

def isUndefined {α : Type} : Patch α → Bool
  | .undefined => true
  | .null | .value _ => false

def UpdateAlertRuleDto.isEmpty (dto : UpdateAlertRuleDto) : Bool :=
  isUndefined dto.condition && isUndefined dto.severity && isUndefined dto.isEnabled &&
    isUndefined dto.escalationPolicyId && isUndefined dto.ruleKind && dto.metric.isNone && dto.comparator.isNone &&
    dto.threshold.isNone && isUndefined dto.forConsecutive && dto.anomalySensitivity.isNone

-- The foreign key of escalation_policy_id.
def RuleStore.refers (store : RuleStore) : Patch Nat → Bool
  | .undefined | .null => true
  | .value policyId => store.escalationPolicies.contains policyId

def RuleStore.monitored (store : RuleStore) (monitorId : Nat) : Bool :=
  store.alertRules.rows.any fun row => row.2.monitorId = monitorId

def noPolicy : ServiceError :=
  .error "insert or update on table \"alert_rules\" violates foreign key constraint"

-- AlertRulesService.create
def create (driver : Driver) (dto : CreateAlertRuleDto) : RuleM AlertRuleRow := do
  let store ← get
  if dto.monitorId ∉ store.monitors then
    throw (.notFound s!"Monitor {dto.monitorId} not found")
  else
    assertRuleKindFieldsPresent dto.fields
    let row ← dto.row driver store.nextId
    if store.monitored dto.monitorId then
      throw (.badRequest s!"Monitor {dto.monitorId} already has an alert rule")
    else if !store.refers dto.escalationPolicyId then
      throw noPolicy
    else
      set { store with alertRules := store.alertRules.insert store.nextId row, nextId := store.nextId + 1 }
      return row

-- AlertRulesService.update
def update (driver : Driver) (id : Nat) (dto : UpdateAlertRuleDto) : RuleM AlertRuleRow := do
  let store ← get
  match store.alertRules.lookup id with
  | none => throw (.notFound s!"Alert rule {id} not found")
  | some existing =>
      assertRuleKindFieldsPresent (dto.fields existing.toAlertRule)
      if dto.isEmpty then return existing
      else
        let row ← dto.row driver existing
        if !store.refers dto.escalationPolicyId then
          throw noPolicy
        else
          set { store with alertRules := store.alertRules.insert id row }
          return row

-- A call with a body that the validators let through.
inductive RuleCall where
  | create (dto : CreateAlertRuleDto) (valid : dto.passes = true)
  | update (id : Nat) (dto : UpdateAlertRuleDto) (valid : dto.passes = true)

def ruleStep (driver : Driver) (store : RuleStore) : RuleCall → RuleStore
  | .create dto _ => commit (create driver dto) store
  | .update id dto _ => commit (update driver id dto) store

end CloudOps.Monitoring.AlertRules
